import Hdcp.Master.Changes
import Hdcp.Master.TimerTable

/-!
# The timers of keepalives

Two kinds of timers are about keepalives: the one that sends them, and one for each that awaits its
ack. Every other operation leaves them alone, since no identifier it erases was issued for them; a
command written, or written again, restarts the one that sends. Here each operation that returns is
taken down to what it does to these timers.
-/

namespace Hdcp.Master

open Base

variable {τ κ : Type}

/-- The armed timers of keepalives that await their ack. -/
def Fields.awaited (fields : Fields κ) : List (Timer TimerCallback) :=
  fields.timeoutQueue.timersOf .kaTimeoutCb

/-- The armed timers that send keepalives. -/
def Fields.sending (fields : Fields κ) : List (Timer TimerCallback) :=
  fields.timeoutQueue.timersOf .kaMngtTimeoutCb

/-- Every identifier held was issued for the callback it is held for, those of requests too. -/
structure Assigned (fields : Fields κ) : Prop where
  /-- The identifiers of the fields. -/
  owned : Owned fields
  /-- The identifiers of the requests. -/
  requests : ∀ request ∈ fields.requests.entries,
    IssuedFor fields.timeoutQueue .cmdTimeoutCb request.id

/-- The timers of keepalives that await their ack, and what is kept about them, are left alone. -/
structure SameAwaited (fields next : Fields κ) : Prop where
  /-- Identifiers stay issued for what they are held for. -/
  assigned : Assigned next
  /-- The timers. -/
  awaited : next.awaited = fields.awaited
  /-- `ka_ids_`. -/
  kaIds : next.kaIds = fields.kaIds
  /-- `now_`. -/
  now : next.now = fields.now
  /-- `timeout_keepalive_`. -/
  delay : next.timeoutKeepalive = fields.timeoutKeepalive

/-- The timer that sends keepalives, and what is kept about it, is left alone. -/
structure SameSender (fields next : Fields κ) : Prop where
  /-- The timer. -/
  sending : next.sending = fields.sending
  /-- `keepalive_mngt_id_`. -/
  id : next.keepaliveMngtId = fields.keepaliveMngtId
  /-- `keepalive_mngt_`. -/
  managed : next.keepaliveMngt = fields.keepaliveMngt

/-- The timer that sends keepalives is restarted, if they are managed. -/
def Resends (fields next : Fields κ) : Prop :=
  (fields.keepaliveMngt = false ∧ SameSender fields next) ∨
    (fields.keepaliveMngt = true ∧ next.keepaliveMngt = true ∧
      ∃ timer ∈ next.sending, next.keepaliveMngtId = some timer.id ∧
        timer.repeatInterval = some 10 ∧ timer.expiration = fields.now + 10)

/-! ## Fields -/

namespace Assigned

variable {fields : Fields κ}

/-- Arming a timer leaves the identifiers of requests issued. -/
theorem arm (assigned : Assigned fields) (expiration : Nat) (repeatInterval : Option Nat)
    (callback : TimerCallback) : ∀ request ∈ fields.requests.entries,
      IssuedFor (fields.timeoutQueue.arm expiration repeatInterval callback) .cmdTimeoutCb
        request.id :=
  fun request inside => (assigned.requests request inside).arm _ _ _

/-- Erasing a timer keeps identifiers assigned. -/
theorem withoutTimer (assigned : Assigned fields) (id : Option Nat) :
    Assigned (fields.withoutTimer id) := by
  refine ⟨assigned.owned.withoutTimer id, ?_⟩
  cases id with
  | none => exact assigned.requests
  | some id => exact fun request inside => (assigned.requests request inside).erase id

/-- Restarting the keepalive timer keeps identifiers assigned. -/
theorem refreshed (assigned : Assigned fields) : Assigned fields.refreshed := by
  refine ⟨assigned.owned.refreshed, ?_⟩
  unfold Fields.refreshed
  split
  · have erased := assigned.withoutTimer fields.keepaliveMngtId
    exact erased.arm _ _ _
  · exact assigned.requests

/-- Requests that keep their identifiers keep them assigned. -/
theorem table (assigned : Assigned fields) (requests : RequestSet κ)
    (fewer : ∀ request ∈ requests.entries, ∃ old ∈ fields.requests.entries, old.id = request.id) :
    Assigned { fields with requests := requests } := by
  refine ⟨⟨assigned.owned.repeats, assigned.owned.mngt, assigned.owned.dip, assigned.owned.ka⟩, ?_⟩
  intro request inside
  obtain ⟨old, held, same⟩ := fewer request inside
  rw [← same]
  exact assigned.requests old held

/-- A tick keeps identifiers assigned. -/
theorem ticked (assigned : Assigned fields) : Assigned fields.ticked := by
  refine ⟨assigned.owned.ticked, ?_⟩
  intro request inside
  obtain ⟨issued, reserved⟩ := assigned.requests request inside
  exact ⟨issued, reserved.advance _⟩

/-- What a manager that is started holds was issued before, and no timer is armed. -/
theorem started (issued : Issued fields) : Assigned fields.started := by
  refine ⟨(Coherent.started issued).owned, ?_⟩
  intro request inside
  contradiction

end Assigned

/-- Erasing a timer issued for another callback leaves the timers of a callback. -/
theorem timersOf_withoutTimer (fields : Fields κ) (held : Option Nat)
    (callback other : TimerCallback)
    (issued : ∀ id ∈ held, IssuedFor fields.timeoutQueue callback id)
    (different : other ≠ callback) :
    (fields.withoutTimer held).timeoutQueue.timersOf other =
      fields.timeoutQueue.timersOf other := by
  cases held with
  | none => rfl
  | some id => exact TimeoutQueue.timersOf_erase_of_reserved (issued id rfl).2 different

/-- Erasing a timer that is not about keepalives leaves those that are. -/
theorem keepalives_withoutTimer {fields : Fields κ} (assigned : Assigned fields) (held : Option Nat)
    (callback : TimerCallback) (issued : ∀ id ∈ held, IssuedFor fields.timeoutQueue callback id)
    (notAwaited : TimerCallback.kaTimeoutCb ≠ callback)
    (notSending : TimerCallback.kaMngtTimeoutCb ≠ callback) :
    SameAwaited fields (fields.withoutTimer held) ∧
      SameSender fields (fields.withoutTimer held) := by
  have fieldsEq := fields.withoutTimer_eq held
  refine ⟨⟨assigned.withoutTimer held, ?_, ?_, ?_, ?_⟩, ⟨?_, ?_, ?_⟩⟩
  · exact timersOf_withoutTimer fields held callback _ issued notAwaited
  · rw [fieldsEq]
  · rw [fieldsEq]
  · rw [fieldsEq]
  · exact timersOf_withoutTimer fields held callback _ issued notSending
  · rw [fieldsEq]
  · rw [fieldsEq]

/-- Restarting the keepalive timer leaves the timers that await an ack. -/
theorem sameAwaited_refreshed {fields : Fields κ} (assigned : Assigned fields) :
    SameAwaited fields fields.refreshed := by
  have fieldsEq := fields.refreshed_eq
  refine ⟨assigned.refreshed, ?_, ?_, ?_, ?_⟩
  · unfold Fields.awaited Fields.refreshed
    split
    · rw [Fields.withMngtTimer, TimeoutQueue.addRepeating, TimeoutQueue.timersOf_arm,
        if_neg (by decide)]
      exact timersOf_withoutTimer fields _ _ _ assigned.owned.mngt (by decide)
    · rfl
  · rw [fieldsEq]
  · rw [fieldsEq]
  · rw [fieldsEq]

/-- Restarting the keepalive timer restarts it. -/
theorem resends_refreshed (fields : Fields κ) : Resends fields fields.refreshed := by
  by_cases managed : fields.keepaliveMngt = true
  · have same : fields.refreshed =
        (fields.withoutTimer fields.keepaliveMngtId).withMngtTimer keepaliveInterval := by
      rw [Fields.refreshed, if_pos managed]
    have now : (fields.withoutTimer fields.keepaliveMngtId).now = fields.now := by
      rw [Fields.withoutTimer_eq]
    have still : (fields.withoutTimer fields.keepaliveMngtId).keepaliveMngt = true := by
      rw [Fields.withoutTimer_eq]
      exact managed
    refine .inr ⟨managed, ?_, ?_⟩
    · rw [same]
      exact still
    · rw [same]
      refine ⟨_, (TimeoutQueue.mem_timersOf _ _ _).mpr ⟨List.mem_cons_self, rfl⟩, rfl, rfl, ?_⟩
      dsimp only
      rw [now]
      rfl
  · have unmanaged := Bool.eq_false_iff.mpr managed
    have same : fields.refreshed = fields := by rw [Fields.refreshed, if_neg managed]
    rw [same]
    exact .inl ⟨unmanaged, rfl, rfl, rfl⟩

/-- Preparing a command leaves the timers that await an ack and restarts the one that sends. -/
theorem prepared_keepalives {fields : Fields κ} (assigned : Assigned fields) (timeout : Nat) :
    SameAwaited fields (fields.prepared timeout) ∧ Resends fields (fields.prepared timeout) := by
  have armed : Assigned (fields.withCmdTimer timeout) :=
    ⟨assigned.owned.withCmdTimer timeout, assigned.arm _ _ _⟩
  have alone : SameAwaited (fields.withCmdTimer timeout) (fields.withCmdTimer timeout).refreshed :=
    sameAwaited_refreshed armed
  have awaited : (fields.withCmdTimer timeout).awaited = fields.awaited :=
    (TimeoutQueue.timersOf_arm _ _ _ _ _).trans (if_neg (by decide))
  have sending : (fields.withCmdTimer timeout).sending = fields.sending :=
    (TimeoutQueue.timersOf_arm _ _ _ _ _).trans (if_neg (by decide))
  constructor
  · refine ⟨⟨⟨alone.assigned.owned.repeats, alone.assigned.owned.mngt, alone.assigned.owned.dip,
      alone.assigned.owned.ka⟩, alone.assigned.requests⟩, ?_, alone.kaIds, alone.now, alone.delay⟩
    exact alone.awaited.trans awaited
  · rcases resends_refreshed (fields.withCmdTimer timeout) with ⟨unmanaged, same⟩ | restarted
    · exact .inl ⟨unmanaged, same.sending.trans sending, same.id, same.managed⟩
    · exact .inr restarted

namespace SameAwaited

variable {fields middle next : Fields κ}

/-- Nothing happens. -/
theorem refl (assigned : Assigned fields) : SameAwaited fields fields :=
  ⟨assigned, rfl, rfl, rfl, rfl⟩

/-- One thing after another. -/
theorem trans (first : SameAwaited fields middle) (second : SameAwaited middle next) :
    SameAwaited fields next where
  assigned := second.assigned
  awaited := second.awaited.trans first.awaited
  kaIds := second.kaIds.trans first.kaIds
  now := second.now.trans first.now
  delay := second.delay.trans first.delay

end SameAwaited

/-- The table of requests matters to no keepalive. -/
theorem keepalives_table {fields : Fields κ} (assigned : Assigned fields) (requests : RequestSet κ)
    (fewer : ∀ request ∈ requests.entries, ∃ old ∈ fields.requests.entries, old.id = request.id) :
    SameAwaited fields { fields with requests := requests } ∧
      SameSender fields { fields with requests := requests } :=
  ⟨⟨assigned.table requests fewer, rfl, rfl, rfl, rfl⟩, ⟨rfl, rfl, rfl⟩⟩

/-- A request that leaves the table takes its retry timer with it. -/
theorem keepalives_concluded {fields : Fields κ} (assigned : Assigned fields) (request : Request κ)
    (inside : request ∈ fields.requests.entries) (requests : RequestSet κ)
    (fewer : ∀ other ∈ requests.entries, other ∈ fields.requests.entries) :
    SameAwaited fields { fields.withoutTimer (some request.id) with requests := requests } ∧
      SameSender fields { fields.withoutTimer (some request.id) with requests := requests } := by
  have issued : ∀ id ∈ some request.id, IssuedFor fields.timeoutQueue .cmdTimeoutCb id := by
    intro id held
    rw [← Option.some.inj held]
    exact assigned.requests request inside
  obtain ⟨alone, same⟩ :=
    keepalives_withoutTimer assigned (some request.id) .cmdTimeoutCb issued nofun nofun
  have table := keepalives_table alone.assigned requests fun other held =>
    ⟨other, fewer other held, rfl⟩
  exact ⟨alone.trans table.1, ⟨same.sending, same.id, same.managed⟩⟩

/-- A retry counted and the keepalive timer restarted. -/
theorem keepalives_retried {fields : Fields κ} (assigned : Assigned fields) (id : Nat) :
    SameAwaited fields (fields.withRetry id).refreshed ∧
      Resends fields (fields.withRetry id).refreshed := by
  have counted : Assigned (fields.withRetry id) := by
    refine assigned.table _ fun request inside => ?_
    rcases (fields.mem_withRetry_iff id request).mp inside with ⟨old, -⟩ | ⟨old, held, -, rfl⟩
    · exact ⟨request, old, rfl⟩
    · exact ⟨old, held, rfl⟩
  have alone := sameAwaited_refreshed counted
  refine ⟨⟨alone.assigned, alone.awaited, alone.kaIds, alone.now, alone.delay⟩, ?_⟩
  rcases resends_refreshed (fields.withRetry id) with ⟨unmanaged, same⟩ | restarted
  · exact .inl ⟨unmanaged, same.sending, same.id, same.managed⟩
  · exact .inr restarted

/-! ## Operations -/

section Operations

variable {env : Environment τ κ}

/-- `send_command`, whether it returns or throws, leaves the timers that await an ack and restarts
the one that sends. -/
theorem sendCommand_keepalives {state : State τ κ} (assigned : Assigned state.toFields)
    (type : UInt16) (data : Bytes) (cb : κ) (timeout : Nat) :
    SameAwaited state.toFields (after (sendCommand env type data cb timeout state)).toFields ∧
      Resends state.toFields (after (sendCommand env type data cb timeout state)).toFields := by
  obtain ⟨alone, resends⟩ := prepared_keepalives assigned timeout
  have own : IssuedFor (state.toFields.prepared timeout).timeoutQueue .cmdTimeoutCb
      state.timeoutQueue.nextId := by
    have armed : IssuedFor (state.toFields.withCmdTimer timeout).timeoutQueue .cmdTimeoutCb
        state.timeoutQueue.nextId := issuedFor_arm_self _ _ _ _
    unfold Fields.prepared Fields.withNextId Fields.refreshed
    split
    · have erased : IssuedFor ((state.toFields.withCmdTimer timeout).withoutTimer
          state.keepaliveMngtId).timeoutQueue .cmdTimeoutCb state.timeoutQueue.nextId := by
        cases state.keepaliveMngtId with
        | none => exact armed
        | some id => exact armed.erase id
      exact erased.arm _ _ _
    · exact armed
  rw [sendCommand_apply]
  refine ((Keeps.bind (keeps_made _) fun cmd => .bind (keeps_write env _) fun _ => ?_ :
    Keeps (OnFields fun fields =>
      fields.timeoutQueue = (state.toFields.prepared timeout).timeoutQueue ∧
        SameAwaited state.toFields fields ∧ Resends state.toFields fields) _) _
    ⟨rfl, alone, resends⟩).2
  rintro next ⟨queue, alone, resends⟩
  unfold insertRequest
  rw [bind_apply, get_apply]
  dsimp only
  cases inserted : next.requests.insert _ with
  | none => exact ⟨queue, alone, resends⟩
  | some requests =>
    obtain ⟨-, -, entries⟩ := (TwoIndex.insert_eq_some_iff _ _ _).mp inserted
    have assigned : Assigned { next.toFields with requests := requests } := by
      obtain ⟨owned, known⟩ := alone.assigned
      refine ⟨⟨owned.repeats, owned.mngt, owned.dip, owned.ka⟩, ?_⟩
      intro request inside
      change request ∈ requests.entries at inside
      rw [entries] at inside
      rcases List.mem_cons.mp inside with rfl | old
      · change IssuedFor next.timeoutQueue _ _
        rw [queue]
        exact own
      · exact known request old
    have resends' : Resends state.toFields { next.toFields with requests := requests } := by
      rcases resends with ⟨unmanaged, same⟩ | restarted
      · exact .inl ⟨unmanaged, same.sending, same.id, same.managed⟩
      · exact .inr restarted
    exact ⟨queue, ⟨assigned, alone.awaited, alone.kaIds, alone.now, alone.delay⟩, resends'⟩

/-- The events that neither are about keepalives nor write commands. -/
def Unrelated : Event τ κ → Prop
  | .stop => True
  | .sendHip _ _ => True
  | .ackCommand _ => True
  | .ackDip => True
  | .transport _ => True
  | _ => False

/-- An operation that is not about keepalives and writes no command leaves their timers alone. -/
theorem unrelated_keepalives {event : Event τ κ} (unrelated : Unrelated event)
    {state next : State τ κ} (assigned : Assigned state.toFields)
    (returned : perform env event state = .ok () next) :
    SameAwaited state.toFields next.toFields ∧ SameSender state.toFields next.toFields := by
  have still : SameSender state.toFields state.toFields := ⟨rfl, rfl, rfl⟩
  cases event with
  | stop =>
    cases returned
    exact ⟨⟨⟨⟨assigned.owned.repeats, assigned.owned.mngt, assigned.owned.dip, assigned.owned.ka⟩,
      assigned.requests⟩, rfl, rfl, rfl, rfl⟩, ⟨rfl, rfl, rfl⟩⟩
  | transport transport =>
    cases returned
    exact ⟨.refl assigned, still⟩
  | sendHip identification timeout =>
    obtain ⟨fields, -⟩ := sendHip_eq_ok _ _ _ _ _ _ returned
    rw [fields]
    have same : Assigned { state.toFields with packetId := next.packetId } :=
      ⟨⟨assigned.owned.repeats, assigned.owned.mngt, assigned.owned.dip, assigned.owned.ka⟩,
        assigned.requests⟩
    refine ⟨⟨⟨same.owned.withDipTimer timeout, same.arm _ _ _⟩, ?_, rfl, rfl, rfl⟩, ?_, rfl, rfl⟩
    · exact (TimeoutQueue.timersOf_arm _ _ _ _ _).trans (if_neg (by decide))
    · exact (TimeoutQueue.timersOf_arm _ _ _ _ _).trans (if_neg (by decide))
  | ackCommand packet =>
    obtain ⟨id, found, -, search, -, rfl⟩ := (ackCommand_eq_ok_iff _ _ _ _ _).mp returned
    obtain ⟨inside, rfl⟩ := (TwoIndex.findSecond_eq_some_iff _ _ _).mp search
    refine keepalives_concluded assigned found inside _ fun other held => ?_
    rw [TwoIndex.eraseSecond_eq_eraseFirst _ found inside] at held
    exact List.mem_of_mem_filter held
  | ackDip =>
    have same := (EStateM.Result.ok.inj ((ackDip_apply state).symm.trans returned)).2
    rw [← same, State.toFields_withFields]
    exact keepalives_withoutTimer assigned state.dipId .dipTimeoutCb assigned.owned.dip nofun nofun
  | start => contradiction
  | sendCommand type data cb timeout => contradiction
  | startKeepaliveManagement interval timeout => contradiction
  | stopKeepaliveManagement => contradiction
  | ackKeepalive => contradiction
  | runOnce batch => contradiction

/-- A retry timer's callback retries its command, when its request has retries left. -/
def Retries (fields : Fields κ) (timer : Timer TimerCallback) : Prop :=
  timer.callback = .cmdTimeoutCb ∧
    ∃ request ∈ fields.requests.entries, request.id = timer.id ∧ request.retry < maxRetry

/-- A callback that returns, other than the one that sends a keepalive, leaves the timers that await
an ack; it leaves the one that sends too, but for a retry, which restarts it. -/
theorem fire_keepalives {timer : Timer TimerCallback} (other : timer.callback ≠ .kaMngtTimeoutCb)
    {state next : State τ κ} (assigned : Assigned state.toFields)
    (returned : fire env timer state = .ok () next) :
    SameAwaited state.toFields next.toFields ∧
      (SameSender state.toFields next.toFields ∨
        Retries state.toFields timer ∧ Resends state.toFields next.toFields) := by
  have still : SameSender state.toFields state.toFields := ⟨rfl, rfl, rfl⟩
  unfold fire at returned
  cases bound : timer.callback with
  | cmdTimeoutCb =>
    rw [bound] at returned
    obtain ⟨request, found, outcome⟩ := (cmdTimeoutCb_eq_ok_iff _ _ _ _ _).mp returned
    obtain ⟨inside, same⟩ := (TwoIndex.findFirst_eq_some_iff _ _ _).mp found
    split at outcome
    · next left =>
      obtain ⟨-, rfl⟩ := (retryCommand_eq_ok_iff _ _ _ _ _ _).mp outcome
      rw [State.toFields_withFields]
      obtain ⟨alone, resends⟩ := keepalives_retried assigned timer.id
      exact ⟨alone, .inr ⟨⟨bound, request, inside, same, left⟩, resends⟩⟩
    · obtain ⟨-, rfl⟩ := (giveUp_eq_ok_iff _ _ _ _ _ _).mp outcome
      rw [State.toFields_withFields]
      obtain ⟨alone, sender⟩ := keepalives_concluded assigned request inside
        (state.requests.eraseFirst timer.id) fun other held => List.mem_of_mem_filter held
      exact ⟨alone, .inl sender⟩
  | dipTimeoutCb =>
    rw [bound] at returned
    obtain ⟨fields, -⟩ := reportTimeout_eq_ok env .dipTimeout state next returned
    rw [fields]
    exact ⟨.refl assigned, .inl still⟩
  | kaTimeoutCb =>
    rw [bound] at returned
    obtain ⟨fields, -⟩ := reportTimeout_eq_ok env .kaTimeout state next returned
    rw [fields]
    exact ⟨.refl assigned, .inl still⟩
  | kaMngtTimeoutCb => exact absurd bound other

/-- The callback that sends a keepalive arms a timer that awaits its ack. -/
theorem fire_sends {timer : Timer TimerCallback} (bound : timer.callback = .kaMngtTimeoutCb)
    {state next : State τ κ} (assigned : Assigned state.toFields)
    (returned : fire env timer state = .ok () next) :
    Assigned next.toFields ∧ SameSender state.toFields next.toFields ∧
      next.awaited = ⟨state.timeoutQueue.nextId, state.now + state.timeoutKeepalive, none,
        .kaTimeoutCb⟩ :: state.awaited ∧
      next.kaIds = state.kaIds ++ [state.timeoutQueue.nextId] ∧ next.now = state.now ∧
      next.timeoutKeepalive = state.timeoutKeepalive := by
  unfold fire at returned
  rw [bound] at returned
  obtain ⟨fields, -⟩ := kaMngtTimeoutCb_eq_ok env state next () returned
  have same : Assigned { state.toFields with packetId := next.packetId } :=
    ⟨⟨assigned.owned.repeats, assigned.owned.mngt, assigned.owned.dip, assigned.owned.ka⟩,
      assigned.requests⟩
  rw [fields]
  refine ⟨⟨same.owned.withKaTimer state.kaIds fun id held => held, same.arm _ _ _⟩,
    ⟨?_, rfl, rfl⟩, ?_, rfl, rfl, rfl⟩
  · exact (TimeoutQueue.timersOf_arm _ _ _ _ _).trans (if_neg (by decide))
  · exact (TimeoutQueue.timersOf_arm _ _ _ _ _).trans (if_pos rfl)

end Operations

end Hdcp.Master
