import Hdcp.Master.Effects
import Hdcp.Master.Statements

/-!
# Statements that nothing interrupts

The statements of an operation, run one after another, are the operation: `send_command`, what the
protocol thread asks for, and the callbacks of the timers.
-/

namespace Hdcp.Master

open Base

variable {τ κ : Type}

/-- A reset that nothing interrupts. -/
theorem reset_statements (state : State τ κ) (managed : state.keepaliveMngt = true) :
    ∃ (id : Nat) (erased added : State τ κ),
      Reset.tested.statement state = .ok (some .erased) erased ∧
        Reset.erased.statement erased = .ok (some (.added id)) added ∧
        (Reset.added id).statement added =
          .ok none { state with toFields := state.toFields.refreshed } := by
  refine ⟨_, { state with toFields := state.toFields.withoutTimer state.keepaliveMngtId }, _, ?_,
    rfl, ?_⟩
  · simp only [Reset.statement, bind_apply, get_apply, eraseTimer_apply, pure_apply]
  · rw [Fields.refreshed, if_pos managed]
    rfl

/-- The end of `send_command`. -/
theorem follow_refreshed (env : Environment τ κ) (fuel : Nat) (id : Nat) (args : CommandArgs κ) :
    follow SendStep.ended (SendStep.statement env) (fuel + 3) (.refreshed id args) = (do
      let packetId ← nextPacketId
      let cmd ← made (Packet.makeCommand env.raw packetId args.type args.data)
      write env ⟨cmd, some id⟩
      insertRequest { id := id, command := cmd, cb := args.cb }
      return .idle : Action τ κ (SendStep κ)) := by
  rw [follow_next _ _ _ rfl]
  simp only [SendStep.statement, bind_assoc, pure_bind]
  congr 1
  funext packetId
  rw [follow_next _ _ _ rfl]
  simp only [SendStep.statement, bind_assoc, pure_bind]
  congr 1
  funext cmd
  congr 1
  funext _
  rw [follow_next _ _ _ rfl]
  simp only [SendStep.statement, bind_assoc, pure_bind]
  congr 1
  funext _
  rw [follow_ended _ _ _ rfl]

/-- The reset of the keepalive timer in `send_command`, and what follows it. -/
theorem follow_armed (env : Environment τ κ) (id : Nat) (args : CommandArgs κ) :
    follow SendStep.ended (SendStep.statement env) 7 (.armed id args) = (do
      resetKeepaliveMngt
      follow SendStep.ended (SendStep.statement env) 3 (.refreshed id args) :
        Action τ κ (SendStep κ)) := by
  funext state
  rw [follow_next _ _ _ rfl]
  by_cases managed : state.keepaliveMngt = true
  · obtain ⟨new, erased, added, first, second, third⟩ := reset_statements state managed
    simp only [SendStep.statement, resetKeepaliveMngt_apply, bind_apply, get_apply, if_pos managed,
      pure_apply]
    rw [follow_next _ _ _ rfl]
    simp only [SendStep.statement, bind_apply, first, pure_apply]
    rw [follow_next _ _ _ rfl]
    simp only [SendStep.statement, bind_apply, second, pure_apply]
    rw [follow_next _ _ _ rfl]
    simp only [SendStep.statement, bind_apply, third, pure_apply]
  · simp only [SendStep.statement, resetKeepaliveMngt_apply, bind_apply, get_apply, if_neg managed,
      pure_apply]
    rw [follow_refreshed, ← follow_refreshed env 0, Fields.refreshed, if_neg managed]

/-- The statements of `send_command`, one after another, are the function. -/
theorem sendCommand_statements (env : Environment τ κ) (args : CommandArgs κ) :
    follow SendStep.ended (SendStep.statement env) 8 (.begun args) = (do
      sendCommand env args.type args.data args.cb args.timeout
      return .idle : Action τ κ (SendStep κ)) := by
  rw [follow_next _ _ _ rfl, sendCommand]
  simp only [SendStep.statement, bind_assoc, pure_bind, follow_armed, follow_refreshed env 0]

/-- The end of `start_keepalive_management`. -/
theorem follow_kaAwait (program : Program τ κ) (fuel timeout : Nat) :
    follow ProtocolStep.ended (ProtocolStep.statement program) (fuel + 2) (.kaAwait timeout) = (do
      modify fun state => { state with timeoutKeepalive := timeout / timeBaseMs }
      let id ← addTimer (← get).timeoutKeepalive .kaTimeoutCb
      modify fun state => { state with kaIds := [id] }
      return .idle) := by
  rw [follow_next _ _ _ rfl]
  simp only [ProtocolStep.statement, bind_assoc, pure_bind]
  congr 1
  funext _
  congr 1
  funext state
  congr 1
  funext id
  rw [follow_next _ _ _ rfl]
  simp only [ProtocolStep.statement, bind_assoc, pure_bind]
  congr 1
  funext _
  rw [follow_ended _ _ _ rfl]

/-- The keepalive of `start_keepalive_management`, and what follows it. -/
theorem follow_kaTest (program : Program τ κ) (timeout : Nat) :
    follow ProtocolStep.ended (ProtocolStep.statement program) 5 (.kaTest timeout) = (do
      sendKeepalive program.toEnvironment
      follow ProtocolStep.ended (ProtocolStep.statement program) 2 (.kaAwait timeout)) := by
  unfold sendKeepalive
  rw [follow_next _ _ _ rfl]
  simp only [ProtocolStep.statement, bind_assoc]
  congr 1
  funext state
  split
  · simp only [bind_assoc, pure_bind]
    rw [follow_next _ _ _ rfl]
    simp only [ProtocolStep.statement, bind_assoc, pure_bind]
    congr 1
    funext packetId
    rw [follow_next _ _ _ rfl]
    simp only [ProtocolStep.statement, bind_assoc, pure_bind]
  · simp only [pure_bind]
    rw [follow_kaAwait, ← follow_kaAwait program 0]

/-- The statements of `start_keepalive_management`, one after another, are the function. -/
theorem startKeepaliveManagement_statements (program : Program τ κ) (interval timeout : Nat) :
    ((Operation.startKeepaliveManagement interval timeout).statement program.toEnvironment >>=
      follow ProtocolStep.ended (ProtocolStep.statement program) 7) = (do
      startKeepaliveManagement program.toEnvironment interval timeout
      return .idle) := by
  unfold startKeepaliveManagement armKeepaliveMngt
  simp only [Operation.statement, bind_assoc, pure_bind]
  congr 1
  funext _
  rw [follow_next _ _ _ rfl]
  simp only [ProtocolStep.statement, bind_assoc, pure_bind]
  congr 1
  funext id
  rw [follow_next _ _ _ rfl]
  simp only [ProtocolStep.statement, bind_assoc, pure_bind]
  congr 1
  funext _
  rw [follow_kaTest, follow_kaAwait program 0]

/-- The reset of the keepalive timer at the end of a retry. -/
theorem follow_retryReset (program : Program τ κ) (fuel : Nat)
    (batch : List (Timer TimerCallback)) :
    follow TimerStep.ended (TimerStep.statement program) (fuel + 4) (.retryReset batch) = (do
      resetKeepaliveMngt
      return .calling batch) := by
  funext state
  rw [follow_next _ _ _ rfl]
  by_cases managed : state.keepaliveMngt = true
  · obtain ⟨new, erased, added, first, second, third⟩ := reset_statements state managed
    simp only [TimerStep.statement, resetKeepaliveMngt_apply, bind_apply, get_apply,
      if_pos managed, pure_apply]
    rw [follow_next _ _ _ rfl]
    simp only [TimerStep.statement, bind_apply, first, pure_apply]
    rw [follow_next _ _ _ rfl]
    simp only [TimerStep.statement, bind_apply, second, pure_apply]
    rw [follow_next _ _ _ rfl]
    simp only [TimerStep.statement, bind_apply, third, pure_apply]
    rw [follow_ended _ _ _ rfl, pure_apply]
  · simp only [TimerStep.statement, resetKeepaliveMngt_apply, bind_apply, get_apply,
      if_neg managed, pure_apply]
    rw [follow_ended _ _ _ rfl, Fields.refreshed, if_neg managed, pure_apply]

/-- The statements of `cmd_timeout_cb`, one after another, are the function, when the request's
callback sends nothing. -/
theorem cmdTimeoutCb_statements (program : Program τ κ) (id : Nat)
    (batch : List (Timer TimerCallback)) (silent : ∀ cb request, program.calls cb request = []) :
    (findExpired program id batch >>= follow TimerStep.ended (TimerStep.statement program) 6) = (do
      cmdTimeoutCb program.toEnvironment id
      return .calling batch) := by
  unfold findExpired cmdTimeoutCb
  simp only [bind_assoc]
  congr 1
  funext state
  cases found : state.requests.findFirst id with
  | none => rfl
  | some request =>
    have same : request.id = id := ((TwoIndex.findFirst_eq_some_iff _ _ _).mp found).2
    dsimp only
    split
    · unfold retryCommand
      simp only [bind_assoc, pure_bind]
      congr 1
      funext _
      rw [follow_next _ _ _ rfl]
      simp only [TimerStep.statement, bind_assoc]
      congr 1
      funext state
      split
      · simp only [pure_bind, bind_assoc]
        rw [follow_next _ _ _ rfl]
        simp only [TimerStep.statement, bind_assoc, pure_bind, follow_retryReset, same]
      · simp only [pure_bind, follow_retryReset program 1]
    · unfold giveUp callCallback callBack
      simp only [bind_assoc, pure_bind, silent]
      congr 1
      funext _
      rw [follow_next _ _ _ rfl]
      simp only [TimerStep.statement, Callback.statement, bind_assoc]
      cases program.invoke request.cb { request with status := .timeout } with
      | some error => rfl
      | none =>
        simp only [pure_bind]
        rw [follow_next _ _ _ rfl]
        simp only [TimerStep.statement, bind_assoc, pure_bind]
        congr 1
        funext _
        rw [follow_next _ _ _ rfl]
        simp only [TimerStep.statement, bind_assoc, pure_bind, same]
        rfl

/-! ## What the protocol thread asks for -/

/-- The function an operation of the protocol thread is a call of. -/
def Operation.action (env : Environment τ κ) : Operation → Action τ κ Unit
  | start => Hdcp.Master.start
  | stop => Hdcp.Master.stop
  | sendHip identification timeout => Hdcp.Master.sendHip env identification timeout
  | startKeepaliveManagement interval timeout =>
    Hdcp.Master.startKeepaliveManagement env interval timeout
  | stopKeepaliveManagement => Hdcp.Master.stopKeepaliveManagement
  | ackCommand packet => Hdcp.Master.ackCommand env packet
  | ackKeepalive => Hdcp.Master.ackKeepalive
  | ackDip => Hdcp.Master.ackDip

/-- The statements of `start`, one after another, are the function. -/
theorem start_statements (program : Program τ κ) :
    (Operation.start.statement program.toEnvironment >>=
      follow ProtocolStep.ended (ProtocolStep.statement program) 6) =
        (start >>= fun _ => pure .idle) := by
  funext state
  by_cases running : state.running = true
  · simp only [Operation.statement, start, bind_apply, get_apply, if_pos running, pure_apply]
    rw [follow_ended _ _ _ rfl]
    rfl
  · simp only [Operation.statement, start, bind_apply, get_apply, if_neg running, pure_apply]
    rfl

/-- The statements of `stop`, one after another, are the function. -/
theorem stop_statements (program : Program τ κ) :
    (Operation.stop.statement program.toEnvironment >>=
      follow ProtocolStep.ended (ProtocolStep.statement program) 1) =
        (stop >>= fun _ => pure .idle) := by
  funext state
  by_cases running : state.running = true
  · simp only [Operation.statement, stop, bind_apply, get_apply, if_pos running, pure_apply,
      modify_apply]
    rfl
  · have still : state.running = false := Bool.eq_false_iff.mpr running
    have same : { state with running := false } = state := by
      rw [← still]
    simp only [Operation.statement, stop, bind_apply, get_apply, if_neg running, pure_apply,
      modify_apply, same]
    rfl

/-- The end of `send_hip`. -/
theorem follow_hipArm (program : Program τ κ) (fuel timeout : Nat) :
    follow ProtocolStep.ended (ProtocolStep.statement program) (fuel + 2) (.hipArm timeout) = (do
      let id ← addTimer (timeout / timeBaseMs) .dipTimeoutCb
      modify fun state => { state with dipId := some id }
      return .idle) := by
  rw [follow_next _ _ _ rfl]
  simp only [ProtocolStep.statement, bind_assoc, pure_bind]
  congr 1
  funext id
  rw [follow_next _ _ _ rfl]
  simp only [ProtocolStep.statement, bind_assoc, pure_bind]
  congr 1
  funext _
  rw [follow_ended _ _ _ rfl]

/-- The statements of `send_hip`, one after another, are the function. -/
theorem sendHip_statements (program : Program τ κ) (identification : Identification)
    (timeout : Nat) :
    ((Operation.sendHip identification timeout).statement program.toEnvironment >>=
      follow ProtocolStep.ended (ProtocolStep.statement program) 4) = (do
      sendHip program.toEnvironment identification timeout
      return .idle) := by
  unfold sendHip
  simp only [Operation.statement, bind_assoc]
  congr 1
  funext state
  split
  · simp only [bind_assoc, pure_bind]
    rw [follow_next _ _ _ rfl]
    simp only [ProtocolStep.statement, bind_assoc, pure_bind]
    congr 1
    funext packetId
    rw [follow_next _ _ _ rfl]
    simp only [ProtocolStep.statement, bind_assoc, pure_bind, follow_hipArm program 0]
  · simp only [pure_bind]
    exact follow_hipArm program 2 timeout

/-- The statements of `ack_command`, one after another, are the function, when the request's
callback sends nothing. -/
theorem ackCommand_statements (program : Program τ κ) (packet : Packet)
    (silent : ∀ cb request, program.calls cb request = []) :
    ((Operation.ackCommand packet).statement program.toEnvironment >>=
      follow ProtocolStep.ended (ProtocolStep.statement program) 4) = (do
      ackCommand program.toEnvironment packet
      return .idle) := by
  rw [Operation.statement, ackCommand]
  cases ackedId packet with
  | error error => rfl
  | ok id =>
    simp only [pure_bind]
    rw [follow_next _ _ _ rfl]
    simp only [ProtocolStep.statement, findAcked, bind_assoc]
    congr 1
    funext state
    cases found : state.requests.findSecond id with
    | none => rfl
    | some request =>
      have same : request.commandId = id :=
        ((TwoIndex.findSecond_eq_some_iff _ _ _).mp found).2
      unfold callCallback callBack
      simp only [bind_assoc, pure_bind, silent]
      congr 1
      funext _
      rw [follow_next _ _ _ rfl]
      simp only [ProtocolStep.statement, Callback.statement, bind_assoc]
      cases program.invoke request.cb { request with status := .fulfilled, ack := some packet } with
      | some error => rfl
      | none =>
        simp only [pure_bind]
        rw [follow_next _ _ _ rfl]
        simp only [ProtocolStep.statement, bind_assoc, pure_bind]
        congr 1
        funext _
        rw [follow_next _ _ _ rfl]
        simp only [ProtocolStep.statement, bind_assoc, pure_bind, ← same]
        rfl

/-- The loop of `ack_keepalive`, and what follows it. -/
theorem follow_acknowledging (program : Program τ κ) (ids : List Nat) (state : State τ κ) :
    follow ProtocolStep.ended (ProtocolStep.statement program) (ids.length + 1)
        (.acknowledging ids) state =
      .ok .idle { state with
        timeoutQueue := ids.foldl TimeoutQueue.erase state.timeoutQueue
        kaIds := [] } := by
  induction ids generalizing state with
  | nil => rfl
  | cons id ids ih =>
    rw [List.length_cons, follow_next _ _ _ rfl, bind_apply]
    exact ih { state with timeoutQueue := state.timeoutQueue.erase id }

/-- The statements of `stop_keepalive_management`, one after another, are the function. -/
theorem stopKeepaliveManagement_statements (program : Program τ κ) :
    (Operation.stopKeepaliveManagement.statement program.toEnvironment >>=
      follow ProtocolStep.ended (ProtocolStep.statement program) 1) =
        (stopKeepaliveManagement >>= fun _ => pure .idle) := by
  unfold stopKeepaliveManagement
  simp only [Operation.statement, bind_assoc, pure_bind]
  congr 1
  funext _
  rw [follow_next _ _ _ rfl]
  simp only [ProtocolStep.statement, bind_assoc, pure_bind, follow]

/-- The one statement of `ack_dip` is the function. -/
theorem ackDip_statements (program : Program τ κ) :
    (Operation.ackDip.statement program.toEnvironment >>=
      follow ProtocolStep.ended (ProtocolStep.statement program) 0) =
        (ackDip >>= fun _ => pure .idle) := by
  unfold ackDip
  simp only [Operation.statement, bind_assoc, pure_bind, follow]

/-- The statements of an operation, one after another, are its function, when the callbacks of
requests send nothing. -/
theorem operation_statements (program : Program τ κ)
    (silent : ∀ cb request, program.calls cb request = []) (operation : Operation)
    (state : State τ κ) :
    ∃ fuel, (operation.statement program.toEnvironment >>=
        follow ProtocolStep.ended (ProtocolStep.statement program) fuel) state =
      (operation.action program.toEnvironment >>= fun _ => pure .idle) state := by
  cases operation with
  | start => exact ⟨6, congrFun (start_statements program) state⟩
  | stop => exact ⟨1, congrFun (stop_statements program) state⟩
  | sendHip identification timeout =>
    exact ⟨4, congrFun (sendHip_statements program identification timeout) state⟩
  | startKeepaliveManagement interval timeout =>
    exact ⟨7, congrFun (startKeepaliveManagement_statements program interval timeout) state⟩
  | stopKeepaliveManagement =>
    exact ⟨1, congrFun (stopKeepaliveManagement_statements program) state⟩
  | ackCommand packet => exact ⟨4, congrFun (ackCommand_statements program packet silent) state⟩
  | ackKeepalive => exact ⟨state.kaIds.length + 1, follow_acknowledging program state.kaIds state⟩
  | ackDip => exact ⟨0, congrFun (ackDip_statements program) state⟩

/-! ## Callbacks of timers -/

/-- The end of `ka_mngt_timeout_cb`. -/
theorem follow_keepaliveArm (program : Program τ κ) (fuel : Nat)
    (batch : List (Timer TimerCallback)) :
    follow TimerStep.ended (TimerStep.statement program) (fuel + 2) (.keepaliveArm batch) = (do
      let id ← addTimer (← get).timeoutKeepalive .kaTimeoutCb
      modify fun state => { state with kaIds := state.kaIds ++ [id] }
      return .calling batch) := by
  rw [follow_next _ _ _ rfl]
  simp only [TimerStep.statement, bind_assoc, pure_bind]
  congr 1
  funext state
  congr 1
  funext id
  rw [follow_next _ _ _ rfl]
  simp only [TimerStep.statement, bind_assoc, pure_bind]
  congr 1
  funext _
  rw [follow_ended _ _ _ rfl]

/-- The statements of `ka_mngt_timeout_cb`, one after another, are the function. -/
theorem kaMngtTimeoutCb_statements (program : Program τ κ) {timer : Timer TimerCallback}
    (batch : List (Timer TimerCallback)) (bound : timer.callback = .kaMngtTimeoutCb) :
    ((TimerStep.calling (timer :: batch)).statement program >>=
      follow TimerStep.ended (TimerStep.statement program) 4) = (do
      kaMngtTimeoutCb program.toEnvironment
      return .calling batch) := by
  unfold kaMngtTimeoutCb sendKeepalive
  simp only [TimerStep.statement, bound, bind_assoc]
  congr 1
  funext state
  split
  · simp only [bind_assoc, pure_bind]
    rw [follow_next _ _ _ rfl]
    simp only [TimerStep.statement, bind_assoc, pure_bind]
    congr 1
    funext packetId
    rw [follow_next _ _ _ rfl]
    simp only [TimerStep.statement, bind_assoc, pure_bind, follow_keepaliveArm program 0]
  · simp only [pure_bind, follow_keepaliveArm program 2]

/-- The statements of a timer's callback, one after another, are the function, when the callbacks of
requests send nothing. -/
theorem fire_statements (program : Program τ κ)
    (silent : ∀ cb request, program.calls cb request = []) (timer : Timer TimerCallback)
    (batch : List (Timer TimerCallback)) :
    ∃ fuel, ((TimerStep.calling (timer :: batch)).statement program >>=
        follow TimerStep.ended (TimerStep.statement program) fuel) =
      (fire program.toEnvironment timer >>= fun _ => pure (.calling batch)) := by
  cases bound : timer.callback with
  | cmdTimeoutCb =>
    refine ⟨6, ?_⟩
    simp only [TimerStep.statement, fire, bound]
    exact cmdTimeoutCb_statements program timer.id batch silent
  | dipTimeoutCb =>
    refine ⟨0, ?_⟩
    simp only [TimerStep.statement, fire, bound, bind_assoc, pure_bind, follow]
  | kaTimeoutCb =>
    refine ⟨0, ?_⟩
    simp only [TimerStep.statement, fire, bound, bind_assoc, pure_bind, follow]
  | kaMngtTimeoutCb =>
    refine ⟨4, ?_⟩
    rw [kaMngtTimeoutCb_statements program batch bound]
    simp only [fire, bound]

/-! ## What a statement gives out -/

/-- What was given out is given out still, and nothing but what is allowed came after it. -/
def Extends (allowed : Output κ → Prop) (outputs : List (Output κ)) (state : State τ κ) : Prop :=
  ∃ more, state.outputs = outputs ++ more ∧ ∀ output ∈ more, allowed output

section Extends

variable {allowed : Output κ → Prop} {outputs : List (Output κ)}

/-- What is given out comes last. -/
theorem Extends.emit {output : Output κ} (fine : allowed output) :
    Keeps (Extends (τ := τ) allowed outputs) (emit output) := by
  intro state extended
  obtain ⟨more, grown, others⟩ := extended
  refine ⟨more ++ [output], ?_, ?_⟩
  · change state.outputs ++ [output] = _
    rw [grown, List.append_assoc]
  · intro other inside
    rcases List.mem_append.mp inside with before | last
    · exact others other before
    · rwa [List.mem_singleton.mp last]

/-- A packet written is given out. -/
theorem Extends.write {env : Environment τ κ} {message : Message}
    (fine : allowed (.written message)) : Keeps (Extends allowed outputs) (write env message) := by
  unfold Hdcp.Master.write
  refine .choice (.bind .get fun state => ?_) (.pure _)
  refine .bind (.modify fun _ extended => extended) fun _ => ?_
  split
  · exact .throw _
  · exact Extends.emit fine

/-- An erased timer gives out nothing. -/
theorem Extends.eraseTimer (id : Option Nat) :
    Keeps (Extends (τ := τ) allowed outputs) (eraseTimer id) := by
  cases id with
  | none => exact .pure _
  | some id => exact .modify fun _ extended => extended

/-- A packet made, or the exception of its maker, gives out nothing. -/
theorem Extends.made (packet : Except PacketError Packet) :
    Keeps (Extends (τ := τ) allowed outputs) (made packet) := by
  cases packet with
  | ok packet => exact .pure _
  | error error => exact .throw _

/-- The reset of the keepalive timer gives out nothing. -/
theorem Reset.statement_extends (reset : Reset) :
    Keeps (Extends (τ := τ) allowed outputs) reset.statement := by
  cases reset with
  | tested => exact .bind .get fun _ => .bind (Extends.eraseTimer _) fun _ => .pure _
  | erased =>
    refine .bind (.bind .get fun _ => .bind (.modify fun _ extended => extended) fun _ => ?_)
      fun _ => .pure _
    exact .pure _
  | added id => exact .bind (.modify fun _ extended => extended) fun _ => .pure _

/-- A statement of `send_command` gives out a packet written, if anything. -/
theorem SendStep.statement_extends (env : Environment τ κ) (send : SendStep κ)
    (fine : ∀ message, allowed (.written message)) :
    Keeps (Extends allowed outputs) (send.statement env) := by
  cases send with
  | idle => exact .pure _
  | begun args =>
    refine .bind (.bind .get fun _ => .bind (.modify fun _ extended => extended) fun _ => ?_)
      fun _ => .pure _
    exact .pure _
  | armed id args => exact .bind .get fun _ => .choice (.pure _) (.pure _)
  | resetting reset id args =>
    refine .bind reset.statement_extends fun next => ?_
    split
    · exact .pure _
    · exact .pure _
  | refreshed id args =>
    refine .bind (.bind (.modify fun _ extended => extended) fun _ => .bind .get fun _ => ?_)
      fun _ => .pure _
    exact .pure _
  | numbered packetId id args =>
    exact .bind (Extends.made _) fun _ => .bind (Extends.write (fine _)) fun _ => .pure _
  | written cmd id cb =>
    refine .bind (.bind .get fun state => ?_) fun _ => .pure _
    split
    · exact .modify fun _ extended => extended
    · exact .throw _

/-- A statement of a callback gives out packets, if anything. -/
theorem Callback.statement_extends (program : Program τ κ) (callback : Callback κ)
    (fine : ∀ message, allowed (.written message)) :
    Keeps (Extends allowed outputs) (callback.statement program) := by
  unfold Callback.statement
  split
  · split
    · exact .throw _
    · exact .pure _
  · exact .pure _
  · exact .bind (SendStep.statement_extends _ _ fine) fun _ => .pure _

/-- A statement of the timer thread gives something out, or nothing. -/
theorem TimerStep.statement_extends (program : Program τ κ) (timer : TimerStep κ)
    (fine : ∀ output, allowed output) :
    Keeps (Extends allowed outputs) (timer.statement program) := by
  have reported (type : TimeoutType) :
      Keeps (Extends allowed outputs) (reportTimeout program.toEnvironment type) := by
    unfold reportTimeout
    split
    · exact .pure _
    · refine .bind (Extends.emit (fine _)) fun _ => ?_
      split
      · exact .throw _
      · exact .pure _
  have called (request : Request κ) :
      Keeps (Extends (τ := τ) allowed outputs) (callBack program request) :=
    .bind (Extends.emit (fine _)) fun _ => .pure _
  cases timer with
  | idle => exact .pure _
  | calling batch =>
    cases batch with
    | nil => exact .pure _
    | cons timer batch =>
      rw [TimerStep.statement]
      cases timer.callback with
      | cmdTimeoutCb =>
        refine .bind .get fun state => ?_
        split
        · exact .throw _
        · exact .choice (.bind (.modify fun _ extended => extended) fun _ => .pure _)
            (.bind (called _) fun _ => .pure _)
      | dipTimeoutCb => exact .bind (reported _) fun _ => .pure _
      | kaTimeoutCb => exact .bind (reported _) fun _ => .pure _
      | kaMngtTimeoutCb => exact .bind .get fun _ => .choice (.pure _) (.pure _)
  | retryTest request batch => exact .bind .get fun _ => .choice (.pure _) (.pure _)
  | retryWrite request batch => exact .bind (Extends.write (fine _)) fun _ => .pure _
  | retryReset batch => exact .bind .get fun _ => .choice (.pure _) (.pure _)
  | resetting reset batch =>
    refine .bind reset.statement_extends fun next => ?_
    split
    · exact .pure _
    · exact .pure _
  | expiring callback batch =>
    refine .bind (callback.statement_extends program fun _ => fine _) fun next => ?_
    split
    · exact .pure _
    · exact .pure _
  | expired request batch => exact .bind (Extends.eraseTimer _) fun _ => .pure _
  | forgetting request batch => exact .bind (.modify fun _ extended => extended) fun _ => .pure _
  | keepaliveNumber batch =>
    refine .bind (.bind (.modify fun _ extended => extended) fun _ => .bind .get fun _ => ?_)
      fun _ => .pure _
    exact .pure _
  | keepaliveWrite packetId batch =>
    exact .bind (Extends.made _) fun _ => .bind (Extends.write (fine _)) fun _ => .pure _
  | keepaliveArm batch =>
    refine .bind .get fun _ => .bind (.bind .get fun _ => .bind ?_ fun _ => .pure _) fun _ =>
      .pure _
    exact .modify fun _ extended => extended
  | keepalivePush id batch => exact .bind (.modify fun _ extended => extended) fun _ => .pure _
  | escaped error => exact .pure _

end Extends

/-! ## Where nothing is sent in a callback -/

/-- A callback the timer thread is in sends nothing. -/
def TimerStep.Silent : TimerStep κ → Prop
  | expiring callback _ => callback.calls = [] ∧ callback.send.ended = true
  | _ => True

/-- When the callbacks of requests send nothing, none of them does later. -/
theorem TimerStep.silent_next (program : Program τ κ)
    (silent : ∀ cb request, program.calls cb request = []) {timer : TimerStep κ}
    (quiet : timer.Silent) : Yields (fun next => next.Silent) (timer.statement program) := by
  cases timer with
  | idle => exact .pure trivial
  | calling batch =>
    cases batch with
    | nil => exact .pure trivial
    | cons timer batch =>
      rw [TimerStep.statement]
      cases timer.callback with
      | cmdTimeoutCb =>
        refine .bind fun state => ?_
        split
        · exact .throw _
        · split
          · exact .bind fun _ => .pure trivial
          · simp only [callBack, bind_assoc, pure_bind]
            exact .bind fun _ => .pure ⟨silent _ _, rfl⟩
      | dipTimeoutCb => exact .bind fun _ => .pure trivial
      | kaTimeoutCb => exact .bind fun _ => .pure trivial
      | kaMngtTimeoutCb =>
        refine .bind fun state => ?_
        split
        · exact .pure trivial
        · exact .pure trivial
  | expiring callback batch =>
    obtain ⟨request, calls, send⟩ := callback
    obtain ⟨rfl, ended⟩ : calls = [] ∧ send.ended = true := quiet
    cases send with
    | idle =>
      simp only [TimerStep.statement, Callback.statement]
      cases program.invoke request.cb request with
      | some error => exact .throw _
      | none =>
        simp only [pure_bind]
        exact .pure trivial
    | _ => contradiction
  | retryTest request batch | retryReset batch =>
    refine .bind fun state => ?_
    split
    · exact .pure trivial
    · exact .pure trivial
  | resetting reset batch =>
    refine .bind fun next => ?_
    split
    · exact .pure trivial
    · exact .pure trivial
  | keepaliveWrite packetId batch => exact .bind fun _ => .bind fun _ => .pure trivial
  | keepaliveArm batch => exact .bind fun _ => .bind fun _ => .pure trivial
  | retryWrite request batch | expired request batch | forgetting request batch
  | keepaliveNumber batch | keepalivePush id batch => exact .bind fun _ => .pure trivial
  | escaped error => exact .pure trivial

end Hdcp.Master
