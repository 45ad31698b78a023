import Hdcp.Master.Effects

/-!
# Identifiers already issued

Every identifier the manager holds, in `requests_`, `keepalive_mngt_id_`, `dip_id_` or `ka_ids_`,
was issued by the timer queue before, whatever operations ran and whether they returned. A new
timer therefore never has one of them, in the current session or a later one.
-/

namespace Hdcp.Master

open Base

variable {τ κ : Type}

/-- Every identifier held is one the queue has issued. -/
structure Issued (fields : Fields κ) : Prop where
  /-- The keepalive timer's. -/
  mngt : ∀ id ∈ fields.keepaliveMngtId, id < fields.timeoutQueue.nextId
  /-- The connection timer's. -/
  dip : ∀ id ∈ fields.dipId, id < fields.timeoutQueue.nextId
  /-- Those of the keepalives awaiting their ack. -/
  ka : ∀ id ∈ fields.kaIds, id < fields.timeoutQueue.nextId
  /-- Those of the requests. -/
  requests : ∀ request ∈ fields.requests.entries, request.id < fields.timeoutQueue.nextId

namespace Issued

variable {fields : Fields κ}

/-- Identifiers stay issued when more are issued, requests only leaving. -/
theorem grow (issued : Issued fields) (queue : TimeoutQueue TimerCallback)
    (requests : RequestSet κ) (more : fields.timeoutQueue.nextId ≤ queue.nextId)
    (fewer : ∀ request ∈ requests.entries, request.id < queue.nextId) :
    Issued { fields with timeoutQueue := queue, requests := requests } where
  mngt := fun id held => Nat.lt_of_lt_of_le (issued.mngt id held) more
  dip := fun id held => Nat.lt_of_lt_of_le (issued.dip id held) more
  ka := fun id held => Nat.lt_of_lt_of_le (issued.ka id held) more
  requests := fewer

/-- Identifiers stay issued when the queue changes and issues more. -/
theorem queue (issued : Issued fields) (queue : TimeoutQueue TimerCallback)
    (more : fields.timeoutQueue.nextId ≤ queue.nextId) :
    Issued { fields with timeoutQueue := queue } :=
  issued.grow queue fields.requests more fun request inside =>
    Nat.lt_of_lt_of_le (issued.requests request inside) more

/-- Identifiers stay issued when requests leave or change without their identifiers. -/
theorem table (issued : Issued fields) (requests : RequestSet κ)
    (fewer : ∀ request ∈ requests.entries, ∃ old ∈ fields.requests.entries, old.id = request.id) :
    Issued { fields with requests := requests } := by
  refine issued.grow fields.timeoutQueue requests (Nat.le_refl _) ?_
  intro request inside
  obtain ⟨old, held, same⟩ := fewer request inside
  exact same ▸ issued.requests old held

/-- Erasing a timer leaves identifiers issued. -/
theorem withoutTimer (issued : Issued fields) (id : Option Nat) :
    Issued (fields.withoutTimer id) := by
  cases id with
  | none => exact issued
  | some id => exact issued.queue _ (Nat.le_refl _)

/-- The keepalive timer's new identifier is issued. -/
theorem withMngtTimer (issued : Issued fields) (interval : Nat) :
    Issued (fields.withMngtTimer interval) := by
  have armed := issued.queue (fields.timeoutQueue.addRepeating fields.now
    (interval / timeBaseMs) .kaMngtTimeoutCb) (Nat.le_succ _)
  refine ⟨?_, armed.dip, armed.ka, armed.requests⟩
  intro id held
  obtain rfl := Option.some.inj held
  exact Nat.lt_succ_self _

/-- Restarting the keepalive timer leaves identifiers issued. -/
theorem refreshed (issued : Issued fields) : Issued fields.refreshed := by
  unfold Fields.refreshed
  split
  · exact (issued.withoutTimer _).withMngtTimer _
  · exact issued

/-- Preparing a command leaves identifiers issued. -/
theorem prepared (issued : Issued fields) (timeout : Nat) : Issued (fields.prepared timeout) :=
  have armed : Issued (fields.withCmdTimer timeout) := issued.queue _ (Nat.le_succ _)
  have refreshed := armed.refreshed
  ⟨refreshed.mngt, refreshed.dip, refreshed.ka, refreshed.requests⟩

end Issued

/-- Restarting the keepalive timer issues no fewer identifiers. -/
theorem nextId_refreshed_le (fields : Fields κ) :
    fields.timeoutQueue.nextId ≤ fields.refreshed.timeoutQueue.nextId := by
  unfold Fields.refreshed
  split
  · cases fields.keepaliveMngtId with
    | none => exact Nat.le_succ _
    | some id => exact Nat.le_succ _
  · exact Nat.le_refl _

/-- The retry timer's identifier is issued once a command is prepared. -/
theorem nextId_prepared_lt (fields : Fields κ) (timeout : Nat) :
    fields.timeoutQueue.nextId < (fields.prepared timeout).timeoutQueue.nextId :=
  nextId_refreshed_le (fields.withCmdTimer timeout)

/-! ## Every operation -/

section Operations

variable (env : Environment τ κ)

/-- Sending a keepalive keeps identifiers issued. -/
theorem sendKeepalive_issued : Keeps (OnFields (τ := τ) Issued) (sendKeepalive env) := by
  refine .bind .get fun state => .choice (.bind ?_ fun _ => .bind (keeps_made _) fun _ =>
    keeps_write env _) (.pure _)
  intro state issued
  exact ⟨issued.mngt, issued.dip, issued.ka, issued.requests⟩

/-- `send_command` keeps identifiers issued, whether it returns or throws. -/
theorem sendCommand_issued (type : UInt16) (data : Bytes) (cb : κ) (timeout : Nat) :
    Keeps (OnFields (τ := τ) Issued) (sendCommand env type data cb timeout) := by
  intro state issued
  have prepared := Issued.prepared issued timeout
  rw [sendCommand_apply]
  -- the request inserted has the identifier of the timer just armed
  have rest : Keeps (OnFields (τ := τ) fun fields => Issued fields ∧
      state.timeoutQueue.nextId < fields.timeoutQueue.nextId)
      (do
        let cmd ← made (state.newCommand env type data)
        write env ⟨cmd, some state.timeoutQueue.nextId⟩
        insertRequest { id := state.timeoutQueue.nextId, command := cmd, cb := cb }) := by
    refine .bind (keeps_made _) fun cmd => .bind (keeps_write env _) fun _ =>
      keeps_insertRequest _ ?_
    intro fields requests standing entries
    have issuedNew := standing.2
    refine ⟨standing.1.grow fields.timeoutQueue requests (Nat.le_refl _) ?_, issuedNew⟩
    intro request inside
    rw [entries] at inside
    rcases List.mem_cons.mp inside with rfl | old
    · exact issuedNew
    · exact standing.1.requests request old
  exact (rest _ ⟨prepared, nextId_prepared_lt _ _⟩).1

/-- `send_hip` keeps identifiers issued. -/
theorem sendHip_issued (identification : Identification) (timeout : Nat) :
    Keeps (OnFields (τ := τ) Issued) (sendHip env identification timeout) := by
  have armed : Keeps (OnFields (τ := τ) Issued) (do
      let id ← addTimer (timeout / timeBaseMs) .dipTimeoutCb
      modify fun state : State τ κ => { state with dipId := some id }) := by
    intro state issued
    have grown := issued.queue (state.timeoutQueue.add state.now (timeout / timeBaseMs)
      .dipTimeoutCb) (Nat.le_succ _)
    refine ⟨grown.mngt, ?_, grown.ka, grown.requests⟩
    intro id held
    obtain rfl := Option.some.inj held
    exact Nat.lt_succ_self _
  unfold sendHip
  refine .bind .get fun state => ?_
  split
  · refine .bind ?_ fun _ => .bind (keeps_made _) fun _ => .bind (keeps_write env _) fun _ => armed
    intro state issued
    exact ⟨issued.mngt, issued.dip, issued.ka, issued.requests⟩
  · exact armed

/-- Erasing timers leaves the next identifier. -/
theorem nextId_foldl_erase (ids : List Nat) (queue : TimeoutQueue TimerCallback) :
    (ids.foldl TimeoutQueue.erase queue).nextId = queue.nextId := by
  induction ids generalizing queue with
  | nil => rfl
  | cons id ids ih => exact ih (queue.erase id)

/-- Arming the timer of a keepalive and holding its identifier keeps identifiers issued. -/
theorem awaitKeepalive_issued (hold : List Nat → Nat → List Nat)
    (known : ∀ ids id, ∀ held ∈ hold ids id, held ∈ ids ∨ held = id) :
    Keeps (OnFields (κ := κ) (τ := τ) Issued) (do
      let id ← addTimer (← get).timeoutKeepalive .kaTimeoutCb
      modify fun state : State τ κ => { state with kaIds := hold state.kaIds id }) := by
  intro state issued
  have grown := issued.queue (state.timeoutQueue.add state.now state.timeoutKeepalive
    .kaTimeoutCb) (Nat.le_succ _)
  refine ⟨grown.mngt, grown.dip, ?_, grown.requests⟩
  intro id held
  rcases known _ _ id held with old | rfl
  · exact grown.ka id old
  · exact Nat.lt_succ_self _

/-- `start_keepalive_management` keeps identifiers issued. -/
theorem startKeepaliveManagement_issued (interval timeout : Nat) :
    Keeps (OnFields (τ := τ) Issued) (startKeepaliveManagement env interval timeout) := by
  refine .bind (.modify ?_) fun _ => .bind ?_ fun _ => .bind (sendKeepalive_issued env) fun _ =>
    .bind (.modify ?_) fun _ => awaitKeepalive_issued (fun _ id => [id]) ?_
  · intro state issued
    exact ⟨issued.mngt, issued.dip, issued.ka, issued.requests⟩
  · intro state issued
    exact Issued.withMngtTimer issued interval
  · intro state issued
    exact ⟨issued.mngt, issued.dip, issued.ka, issued.requests⟩
  · intro ids id held inside
    exact .inr (List.mem_singleton.mp inside)

/-- `ka_mngt_timeout_cb` keeps identifiers issued. -/
theorem kaMngtTimeoutCb_issued : Keeps (OnFields (τ := τ) Issued) (kaMngtTimeoutCb env) := by
  refine .bind (sendKeepalive_issued env) fun _ =>
    awaitKeepalive_issued (fun ids id => ids ++ [id]) ?_
  intro ids id held inside
  rcases List.mem_append.mp inside with old | last
  · exact .inl old
  · exact .inr (List.mem_singleton.mp last)

/-- Erasing a timer keeps identifiers issued. -/
theorem eraseTimer_issued (id : Option Nat) :
    Keeps (OnFields (κ := κ) (τ := τ) Issued) (eraseTimer id) := by
  intro state issued
  rw [eraseTimer_apply]
  exact Issued.withoutTimer issued id

/-- Restarting the keepalive timer keeps identifiers issued. -/
theorem resetKeepaliveMngt_issued :
    Keeps (OnFields (κ := κ) (τ := τ) Issued) resetKeepaliveMngt := by
  intro state issued
  rw [resetKeepaliveMngt_apply]
  exact Issued.refreshed issued

/-- `ack_command` keeps identifiers issued. -/
theorem ackCommand_issued (packet : Packet) :
    Keeps (OnFields (τ := τ) Issued) (ackCommand env packet) := by
  unfold ackCommand
  cases ackedId packet with
  | error error => exact .throw error
  | ok id =>
    refine .bind .get fun state => ?_
    cases state.requests.findSecond id with
    | none => exact .throw _
    | some found =>
      refine .bind (keeps_callCallback env _) fun _ => .bind (eraseTimer_issued _) fun _ =>
        .modify ?_
      intro next issued
      refine Issued.table issued _ ?_
      intro request inside
      exact ⟨request, ((TwoIndex.mem_eraseSecond _ _ _).mp inside).1, rfl⟩

/-- `cmd_timeout_cb` keeps identifiers issued. -/
theorem cmdTimeoutCb_issued (id : Nat) :
    Keeps (OnFields (τ := τ) Issued) (cmdTimeoutCb env id) := by
  refine .bind .get fun state => ?_
  cases state.requests.findFirst id with
  | none => exact .throw _
  | some request =>
    refine .choice ?_ ?_
    · refine .bind (.modify ?_) fun _ => .bind .get fun next =>
        ?_
      · intro next issued
        refine Issued.table issued _ ?_
        intro changed inside
        rcases (TwoIndex.mem_modifyFirst _ _ _ _ _).mp inside with ⟨old, -⟩ | ⟨old, held, -, rfl⟩
        · exact ⟨changed, old, rfl⟩
        · exact ⟨old, held, rfl⟩
      · split
        · exact .bind (keeps_write env _) fun _ => resetKeepaliveMngt_issued
        · exact resetKeepaliveMngt_issued
    · refine .bind (keeps_callCallback env _) fun _ => .bind (eraseTimer_issued _) fun _ =>
        .modify ?_
      intro next issued
      refine Issued.table issued _ ?_
      intro changed inside
      exact ⟨changed, ((TwoIndex.mem_eraseFirst _ _ _).mp inside).1, rfl⟩

/-- Every timer callback keeps identifiers issued. -/
theorem fire_issued (timer : Timer TimerCallback) :
    Keeps (OnFields (τ := τ) Issued) (fire env timer) := by
  unfold fire
  cases timer.callback with
  | cmdTimeoutCb => exact cmdTimeoutCb_issued env timer.id
  | dipTimeoutCb => exact keeps_reportTimeout env .dipTimeout
  | kaTimeoutCb => exact keeps_reportTimeout env .kaTimeout
  | kaMngtTimeoutCb => exact kaMngtTimeoutCb_issued env

/-- The callbacks of a batch keep identifiers issued. -/
theorem fireAll_issued (batch : List (Timer TimerCallback)) :
    Keeps (OnFields (τ := τ) Issued) (fireAll env batch) := by
  induction batch with
  | nil => exact .pure ()
  | cons timer batch ih => exact .bind (fire_issued env timer) fun _ => ih

/-- Every operation keeps identifiers issued, whether it returns or throws. -/
theorem perform_issued (event : Event τ κ) :
    Keeps (OnFields (τ := τ) Issued) (perform env event) := by
  cases event with
  | start =>
    refine .bind .get fun state => .choice (.pure ()) (.bind (.modify ?_) fun _ =>
      .bind (.modify ?_) fun _ => .modify ?_)
    · intro next issued
      refine ⟨issued.mngt, issued.dip, issued.ka, ?_⟩
      intro request inside
      contradiction
    · intro next issued
      exact ⟨issued.mngt, issued.dip, issued.ka, issued.requests⟩
    · intro next issued
      exact ⟨issued.mngt, issued.dip, issued.ka, issued.requests⟩
  | stop =>
    refine .modify fun next issued => ?_
    exact ⟨issued.mngt, issued.dip, issued.ka, issued.requests⟩
  | sendCommand type data cb timeout => exact sendCommand_issued env type data cb timeout
  | sendHip identification timeout => exact sendHip_issued env identification timeout
  | startKeepaliveManagement interval timeout =>
    exact startKeepaliveManagement_issued env interval timeout
  | stopKeepaliveManagement =>
    refine .bind (.modify ?_) fun _ => .bind .get fun state => eraseTimer_issued _
    intro next issued
    exact ⟨issued.mngt, issued.dip, issued.ka, issued.requests⟩
  | ackCommand packet => exact ackCommand_issued env packet
  | ackKeepalive =>
    refine .bind (.modify ?_) fun _ => .modify ?_
    · intro next issued
      exact Issued.queue issued _ (Nat.le_of_eq (nextId_foldl_erase _ _).symm)
    · intro next issued
      refine ⟨issued.mngt, issued.dip, ?_, issued.requests⟩
      intro id held
      contradiction
  | ackDip => exact .bind .get fun state => eraseTimer_issued _
  | runOnce batch =>
    refine .bind (.modify ?_) fun _ => fireAll_issued env batch
    intro next issued
    have taken := Issued.queue issued (next.timeoutQueue.advance next.now) (Nat.le_refl _)
    exact ⟨taken.mngt, taken.dip, taken.ka, taken.requests⟩
  | transport state => exact .modify fun next issued => issued

end Operations

/-- In every run of a manager, whatever its operations do, every identifier held was issued. -/
theorem issued_run {env : Environment τ κ} {transport : τ} {events : List (Event τ κ)}
    {finish : State τ κ} (run : Run (Step env) (State.initial transport) events finish) :
    Issued finish.toFields := by
  suffices issued : OnFields Issued finish from issued
  refine run.invariant ?_ ?_
  · rintro state event next issued ⟨-, rfl⟩
    exact perform_issued env event state issued
  · refine ⟨?_, ?_, ?_, ?_⟩
    · intro id held
      contradiction
    · intro id held
      contradiction
    · intro id held
      contradiction
    · intro request inside
      contradiction

end Hdcp.Master
