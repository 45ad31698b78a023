import Hdcp.Master.Effects
import Hdcp.Master.Ownership
import Hdcp.Master.Statements
import Hdcp.Master.ThreadSafety

/-!
# What statements do to packet ids and to what is written

A thread takes a packet id by one statement and writes the packet by the next: between the two it
holds the id. What a statement does to the ids, the transport and the packets written is one of a
few deeds. Commands are written for the first time by calls of `send_command`, again by
`cmd_timeout_cb`, and by nothing else.
-/

namespace Hdcp.Master

open Base

variable {τ κ : Type}

/-! ## What threads hold -/

/-- The packet id a call has taken for a packet it has not written. -/
def SendStep.held : SendStep κ → Option UInt16
  | numbered packetId _ _ => some packetId
  | _ => none

/-- The packet id the timer thread holds. -/
def TimerStep.held : TimerStep κ → Option UInt16
  | keepaliveWrite packetId _ => some packetId
  | expiring callback _ => callback.send.held
  | _ => none

/-- The packet id the protocol thread holds. -/
def ProtocolStep.held : ProtocolStep κ → Option UInt16
  | hipWrite packetId _ _ | kaWrite packetId _ => some packetId
  | acking callback => callback.send.held
  | _ => none

/-- The next statement of a call takes a packet id. -/
def SendStep.takes : SendStep κ → Bool
  | refreshed _ _ => true
  | _ => false

/-- The next statement of the timer thread takes a packet id. -/
def TimerStep.takes : TimerStep κ → Bool
  | keepaliveNumber _ => true
  | expiring callback _ => callback.send.takes
  | _ => false

/-- The next statement of the protocol thread takes a packet id. -/
def ProtocolStep.takes : ProtocolStep κ → Bool
  | hipNumber _ _ | kaNumber _ => true
  | acking callback => callback.send.takes
  | _ => false

/-- A maker returns a packet. -/
def Makes (packet : Except PacketError Packet) : Prop := ∃ made, packet = .ok made

/-- The packet a call is about to write can be made. -/
def SendStep.Makes (raw : Packet) : SendStep κ → Prop
  | numbered packetId _ args =>
    Hdcp.Master.Makes (Packet.makeCommand raw packetId args.type args.data)
  | _ => True

/-- The packet the timer thread is about to write can be made. -/
def TimerStep.Makes (raw : Packet) : TimerStep κ → Prop
  | expiring callback _ => callback.send.Makes raw
  | _ => True

/-- The packet the protocol thread is about to write can be made. -/
def ProtocolStep.Makes (raw : Packet) : ProtocolStep κ → Prop
  | hipWrite packetId identification _ =>
    Hdcp.Master.Makes (Packet.makeHip raw packetId identification)
  | acking callback => callback.send.Makes raw
  | _ => True

/-- The timer thread may write a command. -/
def TimerStep.commands : TimerStep κ → Bool
  | retryWrite _ _ => true
  | expiring callback _ => !callback.send.ended
  | _ => false

/-- The command the timer thread writes again. -/
def TimerStep.repeats : TimerStep κ → Option Packet
  | retryWrite request _ => some request.command
  | _ => none

/-- The protocol thread may write a command. -/
def ProtocolStep.commands : ProtocolStep κ → Bool
  | acking callback => !callback.send.ended
  | _ => false

/-- The protocol thread writes a HIP. -/
def ProtocolStep.identifies : ProtocolStep κ → Bool
  | hipWrite _ _ _ => true
  | _ => false

/-- The next statement of the protocol thread is one of `start`, `stop` or what begins them. -/
def ProtocolStep.starting : ProtocolStep κ → Bool
  | startRequests | startTimers | startNow | startNumber | startFlag | startRun => true
  | _ => false

/-- No timer is bound to `cmd_timeout_cb`. -/
def Commandless (queue : TimeoutQueue TimerCallback) : Prop :=
  ∀ timer ∈ queue.timers, timer.callback ≠ .cmdTimeoutCb

/-! ## Deeds -/

/-- What a statement does to the packet ids, the transport and the packets written; `made` says that
the packet of an id that was taken can be made. -/
inductive Traffic (env : Environment τ κ) (commands identifies taking : Prop)
    (repeats : Option Packet) (made : Prop) (state next : State τ κ) :
    Option UInt16 → Option UInt16 → Prop where
  /-- Nothing. -/
  | quiet (packetId : next.packetId = state.packetId) (transport : next.transport = state.transport)
      (written : writes next.outputs = writes state.outputs) :
      Traffic env commands identifies taking repeats made state next none none
  /-- An id is taken. -/
  | takes (takes : taking) (packetId : next.packetId = state.packetId + 1)
      (transport : next.transport = state.transport)
      (written : writes next.outputs = writes state.outputs) :
      Traffic env commands identifies taking repeats made state next none (some next.packetId)
  /-- The packet of an id is written. -/
  | writes (message : Message) (packetId : next.packetId = state.packetId)
      (accepted : (env.write state.transport message).1 = none)
      (transport : next.transport = (env.write state.transport message).2)
      (written : writes next.outputs = writes state.outputs ++ [message])
      (type : message.packet.type = PacketType.cmd.code → commands)
      (hip : message.packet.type = PacketType.hip.code → identifies) :
      Traffic env commands identifies taking repeats made state next (some message.packet.id) none
  /-- The transport refuses the packet of an id. -/
  | refused (message : Message) (packetId : next.packetId = state.packetId)
      (refused : (env.write state.transport message).1 ≠ none)
      (transport : next.transport = (env.write state.transport message).2)
      (written : writes next.outputs = writes state.outputs) :
      Traffic env commands identifies taking repeats made state next (some message.packet.id) none
  /-- The packet of an id cannot be made. -/
  | unmade (id : UInt16) (packetId : next.packetId = state.packetId)
      (transport : next.transport = state.transport)
      (written : writes next.outputs = writes state.outputs) (fails : ¬ made) :
      Traffic env commands identifies taking repeats made state next (some id) none
  /-- A command is written again, or refused. -/
  | again (commanding : commands) (message : Message) (repeating : repeats = some message.packet)
      (packetId : next.packetId = state.packetId)
      (transport : next.transport = (env.write state.transport message).2)
      (written : (env.write state.transport message).1 ≠ none ∧
          writes next.outputs = writes state.outputs ∨
        writes next.outputs = writes state.outputs ++ [message]) :
      Traffic env commands identifies taking repeats made state next none none

/-- What a statement does that neither starts nor stops the manager. -/
structure Deed (env : Environment τ κ) (commands identifies taking : Prop)
    (repeats : Option Packet) (made : Prop) (state next : State τ κ)
    (held later : Option UInt16) : Prop where
  /-- The timer thread is neither started nor stopped. -/
  running : next.running = state.running
  /-- Only calls of `send_command` arm timers for commands. -/
  timers : commands ∨ (Commandless state.timeoutQueue → Commandless next.timeoutQueue)
  /-- The ids, the transport and the packets written. -/
  traffic : Traffic env commands identifies taking repeats made state next held later

section Deeds

variable {env : Environment τ κ} {commands identifies taking made : Prop} {repeats : Option Packet}

/-- A statement does nothing to ids, transport and packets. -/
structure Unmoved (commands : Prop) (state next : State τ κ) : Prop where
  /-- The timer thread is neither started nor stopped. -/
  running : next.running = state.running
  /-- Only calls of `send_command` arm timers for commands. -/
  timers : commands ∨ (Commandless state.timeoutQueue → Commandless next.timeoutQueue)
  /-- No id is taken. -/
  packetId : next.packetId = state.packetId
  /-- The transport sees nothing. -/
  transport : next.transport = state.transport
  /-- Nothing is written. -/
  written : writes next.outputs = writes state.outputs

/-- Nothing happens. -/
theorem Unmoved.refl (state : State τ κ) : Unmoved commands state state :=
  ⟨rfl, .inr fun none => none, rfl, rfl, rfl⟩

/-- A quiet statement is a deed of a thread that holds nothing. -/
theorem Unmoved.deed {state next : State τ κ} (quiet : Unmoved commands state next) :
    Deed env commands identifies taking repeats made state next none none :=
  ⟨quiet.running, quiet.timers, .quiet quiet.packetId quiet.transport quiet.written⟩

/-- A deed after a quiet statement. -/
theorem Deed.after {state middle next : State τ κ} {held later : Option UInt16}
    (deed : Deed env commands identifies taking repeats made middle next held later)
    (quiet : Unmoved commands state middle) :
    Deed env commands identifies taking repeats made state next held later := by
  obtain ⟨running, timers, traffic⟩ := deed
  refine ⟨running.trans quiet.running, ?_, ?_⟩
  · rcases timers with busy | first
    · exact .inl busy
    · exact quiet.timers.imp_right fun before none => first (before none)
  · have number := quiet.packetId
    have same := quiet.transport
    have written := quiet.written
    cases traffic with
    | quiet a b c => exact .quiet (a.trans number) (b.trans same) (c.trans written)
    | takes takes a b c =>
      exact .takes takes (by rw [a, number]) (b.trans same) (c.trans written)
    | writes message a b c d e f =>
      rw [same] at b c
      rw [written] at d
      exact .writes message (a.trans number) b c d e f
    | refused message a b c d =>
      rw [same] at b c
      exact .refused message (a.trans number) b c (d.trans written)
    | unmade id a b c d => exact .unmade id (a.trans number) (b.trans same) (c.trans written) d
    | again commanding message repeating a b c =>
      rw [same] at b c
      rw [written] at c
      exact .again commanding message repeating (a.trans number) b c

/-- An action does nothing to ids, transport and packets. -/
def Stays {α : Type} (commands : Prop) (action : Action τ κ α) : Prop :=
  ∀ state, Unmoved commands state (after (action state))

/-- A write to a transport, which takes the packet or refuses it. -/
theorem write_apply (attached : env.attached = true) (message : Message) (state : State τ κ) :
    write env message state =
      match (env.write state.transport message).1 with
      | none => .ok ()
          { state with
            transport := (env.write state.transport message).2
            outputs := state.outputs ++ [.written message] }
      | some error => .error (.transport error)
          { state with transport := (env.write state.transport message).2 } := by
  unfold write
  cases refusal : (env.write state.transport message).1 with
  | none => simp [attached, refusal]
  | some error => simp [attached, refusal]

/-- What a statement of a thread that holds `held` does, and what the thread holds at the place it
leads to. -/
def Does {α : Type} (env : Environment τ κ) (commands identifies taking : Prop)
    (repeats : Option Packet) (made : Prop) (held : Option UInt16)
    (later : α → Option UInt16) (action : Action τ κ α) : Prop :=
  ∀ state,
    (∀ value next, action state = .ok value next →
      Deed env commands identifies taking repeats made state next held (later value)) ∧
    ∀ error next, action state = .error error next →
      Deed env commands identifies taking repeats made state next held none

/-- What a statement did, whether it returned or threw. -/
theorem Does.deed {α : Type} {held : Option UInt16} {later : α → Option UInt16}
    {action : Action τ κ α}
    (does : Does env commands identifies taking repeats made held later action)
    (state : State τ κ) :
    ∃ last, Deed env commands identifies taking repeats made state (after (action state)) held
      last := by
  obtain ⟨returns, throws⟩ := does state
  cases outcome : action state with
  | ok value next => exact ⟨_, returns _ _ outcome⟩
  | error error next => exact ⟨_, throws _ _ outcome⟩

namespace Stays

variable {α β : Type}

/-- Returning a value. -/
theorem pure (value : α) :
    Stays commands (Pure.pure value : Action τ κ α) := fun state => .refl state

/-- Reading the fields. -/
theorem get : Stays commands (MonadState.get : Action τ κ (State τ κ)) := fun state => .refl state

/-- A statement that does not throw. -/
theorem of_ok {action : Action τ κ α} (value : State τ κ → α) (change : State τ κ → State τ κ)
    (evaluates : ∀ state, action state = .ok (value state) (change state))
    (quiet : ∀ state, Unmoved commands state (change state)) : Stays commands action := by
  intro state
  rw [evaluates state]
  exact quiet state

/-- A change of other fields. -/
theorem modify {change : State τ κ → State τ κ}
    (quiet : ∀ state, Unmoved commands state (change state)) :
    Stays commands (modify change : Action τ κ PUnit) := quiet

/-- Arming a timer that is not for a command, or by a call. -/
theorem add (delay : Nat) (callback : TimerCallback)
    (fine : commands ∨ callback ≠ .cmdTimeoutCb) :
    Stays (τ := τ) (κ := κ) commands (addTimer delay callback) := by
  refine .of_ok _ _ (addTimer_apply delay callback) fun state => ?_
  refine ⟨rfl, fine.imp_right fun other before timer inside => ?_, rfl, rfl, rfl⟩
  rcases List.mem_cons.mp inside with rfl | old
  · exact other
  · exact before timer old

/-- Arming a repeating timer that is not for a command, or by a call. -/
theorem addRepeating (interval : Nat) (callback : TimerCallback)
    (fine : commands ∨ callback ≠ .cmdTimeoutCb) :
    Stays (τ := τ) (κ := κ) commands (addRepeatingTimer interval callback) := by
  refine .of_ok _ _ (addRepeatingTimer_apply interval callback) fun state => ?_
  refine ⟨rfl, fine.imp_right fun other before timer inside => ?_, rfl, rfl, rfl⟩
  rcases List.mem_cons.mp inside with rfl | old
  · exact other
  · exact before timer old

/-- Erasing a timer. -/
theorem erase (id : Option Nat) : Stays (τ := τ) (κ := κ) commands (eraseTimer id) := by
  cases id with
  | none => exact .pure _
  | some id =>
    refine .modify fun state => ⟨rfl, .inr fun before timer inside => ?_, rfl, rfl, rfl⟩
    exact before timer ((state.timeoutQueue.mem_erase id timer).mp inside).1

/-- Giving out something that is not a packet. -/
theorem emit {output : Output κ} (other : ∀ message, output ≠ .written message) :
    Stays (τ := τ) commands (emit output) :=
  .of_ok _ _ (emit_apply output) fun _ =>
    ⟨rfl, .inr fun before => before, rfl, rfl, writes_snoc_other other⟩

/-- Reporting a timeout. -/
theorem reportTimeout (env : Environment τ κ) (type : TimeoutType) :
    Stays commands (reportTimeout env type) := by
  unfold Master.reportTimeout
  cases env.timeoutCb with
  | none => exact .pure _
  | some timeoutCb =>
    intro state
    have given :
      Unmoved commands state { state with outputs := state.outputs ++ [.timedOut type] } :=
      Stays.emit (fun _ other => by contradiction) state
    dsimp only
    rw [bind_apply, emit_apply]
    cases timeoutCb type with
    | none => exact given
    | some error => exact given

/-- An insertion into the requests. -/
theorem insertRequest (request : Request κ) :
    Stays (τ := τ) commands (insertRequest request) := by
  intro state
  unfold Master.insertRequest
  rw [bind_apply, get_apply]
  dsimp only
  cases state.requests.insert request with
  | none => exact .refl state
  | some requests => exact ⟨rfl, .inr fun before => before, rfl, rfl, rfl⟩

end Stays

namespace Does

variable {α β : Type} {held : Option UInt16} {later : α → Option UInt16}

/-- Going to a place where nothing is held. -/
theorem pure {value : α} (free : later value = none) :
    Does env commands identifies taking repeats made none later (Pure.pure value) := by
  intro state
  constructor
  · intro other next returned
    cases returned
    rw [free]
    exact (Unmoved.refl state).deed
  · intro error next thrown
    contradiction

/-- An exception. -/
theorem throw (error : Exn) :
    Does env commands identifies taking repeats made none later (MonadExcept.throw error) := by
  intro state
  constructor
  · intro value next returned
    contradiction
  · intro other next thrown
    cases thrown
    exact (Unmoved.refl state).deed

/-- First the fields are read. -/
theorem get {rest : State τ κ → Action τ κ α}
    (goes : ∀ state, Does env commands identifies taking repeats made held later (rest state)) :
    Does env commands identifies taking repeats made held later (MonadState.get >>= rest) :=
  fun state => goes state state

/-- First something quiet. -/
theorem bind {first : Action τ κ β} {rest : β → Action τ κ α} (stays : Stays commands first)
    (goes : ∀ value, Does env commands identifies taking repeats made none later (rest value)) :
    Does env commands identifies taking repeats made none later (first >>= rest) := by
  intro state
  have quiet := stays state
  rw [bind_apply]
  cases outcome : first state with
  | ok value middle =>
    rw [outcome] at quiet
    obtain ⟨returns, throws⟩ := goes value middle
    constructor
    · intro passed next returned
      exact (returns passed next returned).after quiet
    · intro error next thrown
      exact (throws error next thrown).after quiet
  | error error middle =>
    rw [outcome] at quiet
    constructor
    · intro value next returned
      contradiction
    · intro other next thrown
      cases thrown
      exact quiet.deed

/-- An id is taken. -/
theorem take (takes : taking) {place : UInt16 → α} (holds : ∀ id, later (place id) = some id) :
    Does (τ := τ) (κ := κ) env commands identifies taking repeats made none later
      (nextPacketId >>= fun id => Pure.pure (place id)) := by
  intro state
  rw [bind_apply, nextPacketId_apply]
  constructor
  · intro value next returned
    cases returned
    rw [holds]
    exact ⟨rfl, .inr fun before => before, .takes takes rfl rfl rfl⟩
  · intro error next thrown
    contradiction

/-- The packet of an id is made and written. -/
theorem write (attached : env.attached = true) {packet : Except PacketError Packet} {id : UInt16}
    {call : Option Nat} {place : Packet → α}
    (makes : made → Makes packet)
    (named : ∀ packet', packet = .ok packet' → packet'.id = id ∧
      (packet'.type = PacketType.cmd.code → commands) ∧
        (packet'.type = PacketType.hip.code → identifies))
    (free : ∀ packet, later (place packet) = none) :
    Does env commands identifies taking repeats made (some id) later (do
      let packet ← Master.made packet
      Master.write env ⟨packet, call⟩
      return place packet) := by
  intro state
  cases packet with
  | error error =>
    have unmade : ¬ made := fun fine => by
      obtain ⟨packet, same⟩ := makes fine
      contradiction
    constructor
    · intro value next returned
      contradiction
    · intro other next thrown
      cases thrown
      exact ⟨rfl, .inr fun before => before, .unmade id rfl rfl rfl unmade⟩
  | ok packet =>
    obtain ⟨same, type, hip⟩ := named packet rfl
    have written := write_apply attached ⟨packet, call⟩ state
    rw [← same, bind_apply, Master.made, pure_apply]
    dsimp only
    rw [bind_apply, written]
    cases refusal : (env.write state.transport ⟨packet, call⟩).1 with
    | none =>
      constructor
      · intro value next returned
        cases returned
        rw [free packet]
        exact ⟨rfl, .inr fun before => before,
          .writes ⟨packet, call⟩ rfl refusal rfl (writes_snoc _ _) type hip⟩
      · intro error next thrown
        contradiction
    | some error =>
      constructor
      · intro value next returned
        contradiction
      · intro other next thrown
        cases thrown
        refine ⟨rfl, .inr fun before => before, .refused ⟨packet, call⟩ rfl ?_ rfl rfl⟩
        rw [refusal]
        exact Option.some_ne_none _

/-- A command is written again. -/
theorem again (attached : env.attached = true) (commanding : commands) (message : Message)
    (repeating : repeats = some message.packet) {place : α} (free : later place = none) :
    Does env commands identifies taking repeats made none later (do
      Master.write env message
      return place) := by
  intro state
  rw [bind_apply, write_apply attached]
  cases refusal : (env.write state.transport message).1 with
  | none =>
    constructor
    · intro value next returned
      cases returned
      rw [free]
      exact ⟨rfl, .inl commanding, .again commanding message repeating rfl rfl
        (.inr (writes_snoc _ _))⟩
    · intro error next thrown
      contradiction
  | some error =>
    constructor
    · intro value next returned
      contradiction
    · intro other next thrown
      cases thrown
      refine ⟨rfl, .inl commanding, .again commanding message repeating rfl rfl (.inl ⟨?_, rfl⟩)⟩
      rw [refusal]
      exact Option.some_ne_none _

/-- A statement that is part of a longer place's. -/
theorem inside {other : β → Option UInt16} {action : Action τ κ α} {rest : α → Action τ κ β}
    (does : Does env commands identifies taking repeats made held later action)
    (goes : ∀ value, ∃ place, rest value = Pure.pure place ∧ other place = later value) :
    Does env commands identifies taking repeats made held other (action >>= rest) := by
  intro state
  obtain ⟨returns, throws⟩ := does state
  rw [bind_apply]
  cases outcome : action state with
  | ok value middle =>
    obtain ⟨place, same, holds⟩ := goes value
    dsimp only
    rw [same]
    constructor
    · intro passed next returned
      cases returned
      rw [holds]
      exact returns value middle outcome
    · intro error next thrown
      contradiction
  | error error middle =>
    constructor
    · intro value next returned
      contradiction
    · intro passed next thrown
      cases thrown
      exact throws error middle outcome

end Does

end Deeds

/-! ## The statements -/

section Statements

variable {env : Environment τ κ} {commands identifies taking : Prop} {repeats : Option Packet}

/-- A statement of the reset of the keepalive timer is quiet. -/
theorem Reset.stays (reset : Reset) :
    Stays (τ := τ) (κ := κ) commands (reset.statement : Action τ κ (Option Reset)) := by
  have other : commands ∨ TimerCallback.kaMngtTimeoutCb ≠ .cmdTimeoutCb := .inr (by decide)
  cases reset with
  | tested =>
    refine .of_ok (fun _ => some .erased)
      (fun state => { state with toFields := state.toFields.withoutTimer state.keepaliveMngtId })
      ?_ fun state => ?_
    · intro state
      simp only [statement, bind_apply, get_apply, eraseTimer_apply, pure_apply]
    · have erased : Unmoved commands state (after (eraseTimer state.keepaliveMngtId state)) :=
        Stays.erase state.keepaliveMngtId state
      rwa [eraseTimer_apply] at erased
  | erased => exact Stays.addRepeating (keepaliveInterval / timeBaseMs) .kaMngtTimeoutCb other
  | added id => exact .modify fun state => ⟨rfl, .inr fun before => before, rfl, rfl, rfl⟩

/-- A command made has its id, and is a command. -/
theorem makeCommand_named {commanding identifying : Prop} (raw : Packet) (id type : UInt16)
    (data : Bytes) (busy : commanding) (packet : Packet)
    (making : Packet.makeCommand raw id type data = .ok packet) :
    packet.id = id ∧ (packet.type = PacketType.cmd.code → commanding) ∧
      (packet.type = PacketType.hip.code → identifying) := by
  obtain ⟨named, typed⟩ := Packet.build_id_type _ _ _ _ _ _ making
  refine ⟨named, fun _ => busy, fun hip => ?_⟩
  rw [typed] at hip
  exact absurd hip (by decide)

/-- A keepalive made has its id, and is neither a command nor a HIP. -/
theorem makeKeepalive_named {commanding identifying : Prop} (raw : Packet) (id : UInt16)
    (packet : Packet) (making : Packet.makeKeepalive raw id = .ok packet) :
    packet.id = id ∧ (packet.type = PacketType.cmd.code → commanding) ∧
      (packet.type = PacketType.hip.code → identifying) := by
  obtain ⟨named, typed⟩ := Packet.build_id_type _ _ _ _ _ _ making
  rw [typed]
  exact ⟨named, fun command => absurd command (by decide), fun hip => absurd hip (by decide)⟩

/-- A HIP made has its id, and is no command. -/
theorem makeHip_named {commanding identifying : Prop} (raw : Packet) (id : UInt16)
    (identification : Identification) (identified : identifying) (packet : Packet)
    (making : Packet.makeHip raw id identification = .ok packet) :
    packet.id = id ∧ (packet.type = PacketType.cmd.code → commanding) ∧
      (packet.type = PacketType.hip.code → identifying) := by
  obtain ⟨named, typed⟩ := Packet.build_id_type _ _ _ _ _ _ making
  rw [typed]
  exact ⟨named, fun command => absurd command (by decide), fun _ => identified⟩

/-- What a statement of `send_command` does. -/
theorem SendStep.does (attached : env.attached = true) (send : SendStep κ) :
    Does env (send.ended = false) identifies (send.takes = true) repeats (send.Makes env.raw)
      send.held SendStep.held
      (send.statement env) := by
  cases send with
  | idle => exact .pure rfl
  | begun args =>
    exact .bind (.addRepeating _ _ (.inl rfl)) fun id => .pure rfl
  | armed id args =>
    refine .bind .get fun state => ?_
    split
    · exact .pure rfl
    · exact .pure rfl
  | resetting reset id args =>
    refine .bind reset.stays fun next => ?_
    cases next with
    | some next => exact .pure rfl
    | none => exact .pure rfl
  | refreshed id args => exact .take rfl fun _ => rfl
  | numbered packetId id args =>
    exact .write attached (fun makes => makes)
      (makeCommand_named env.raw packetId args.type args.data rfl) fun _ => rfl
  | written cmd id cb => exact .bind (.insertRequest _) fun _ => .pure rfl

/-- What the thread of a callback holds once a statement of it returned. -/
def Callback.heldAfter : Option (Callback κ) → Option UInt16
  | some callback => callback.send.held
  | none => none

/-- What a statement of a callback does. -/
theorem Callback.does (program : Program τ κ) (attached : program.attached = true)
    (callback : Callback κ) :
    Does program.toEnvironment ((!callback.send.ended) = true) identifies
      (callback.send.takes = true) repeats
      (callback.send.Makes program.raw) callback.send.held Callback.heldAfter
      (callback.statement program) := by
  obtain ⟨request, calls, send⟩ := callback
  have inside (called : send.ended = false) :
      Does program.toEnvironment ((!send.ended) = true) identifies (send.takes = true) repeats
        (send.Makes program.raw) send.held Callback.heldAfter (do
          let next ← send.statement program.toEnvironment
          return some { (⟨request, calls, send⟩ : Callback κ) with send := next }) := by
    have does :
      Does program.toEnvironment (send.ended = false) identifies (send.takes = true) repeats
        (send.Makes program.raw) send.held SendStep.held (send.statement program.toEnvironment) :=
          send.does attached
    have same : ((!send.ended) = true) = (send.ended = false) := by rw [Bool.not_eq_true']
    rw [same]
    exact does.inside fun next => ⟨_, rfl, rfl⟩
  cases send with
  | idle =>
    cases calls with
    | nil =>
      unfold statement
      dsimp only
      cases program.invoke request.cb request with
      | some error => exact .throw error
      | none => exact .pure rfl
    | cons args calls => exact .pure rfl
  | _ => exact inside rfl

/-- The search at the front of `cmd_timeout_cb` is quiet. -/
theorem findExpired_does (program : Program τ κ) {made : Prop} (id : Nat)
    (batch : List (Timer TimerCallback)) :
    Does program.toEnvironment commands identifies taking repeats made none TimerStep.held
      (findExpired program id batch) := by
  refine .get fun state => ?_
  cases state.requests.findFirst id with
  | none => exact .throw _
  | some request =>
    dsimp only
    split
    · exact .bind (.modify fun state => ⟨rfl, .inr fun before => before, rfl, rfl, rfl⟩) fun _ =>
        .pure rfl
    · simp only [callBack, bind_assoc, pure_bind]
      exact .bind (.emit fun _ other => by contradiction) fun _ => .pure rfl

/-- What a statement of the timer thread does. -/
theorem TimerStep.does (program : Program τ κ) (attached : program.attached = true)
    (timer : TimerStep κ) :
    Does program.toEnvironment (timer.commands = true) False (timer.takes = true) timer.repeats
      (timer.Makes program.raw) timer.held TimerStep.held (timer.statement program) := by
  cases timer with
  | idle => exact .pure rfl
  | calling batch =>
    cases batch with
    | nil => exact .pure rfl
    | cons timer batch =>
      unfold statement
      dsimp only
      split
      · exact findExpired_does program timer.id batch
      · exact .bind (.reportTimeout _ _) fun _ => .pure rfl
      · exact .bind (.reportTimeout _ _) fun _ => .pure rfl
      · refine .get fun state => ?_
        split
        · exact .pure rfl
        · exact .pure rfl
  | retryTest request batch =>
    refine .get fun state => ?_
    split
    · exact .pure rfl
    · exact .pure rfl
  | retryWrite request batch => exact .again attached rfl _ rfl rfl
  | retryReset batch =>
    refine .get fun state => ?_
    split
    · exact .pure rfl
    · exact .pure rfl
  | resetting reset batch =>
    refine .bind reset.stays fun next => ?_
    cases next with
    | some next => exact .pure rfl
    | none => exact .pure rfl
  | expiring callback batch =>
    refine .inside (callback.does program attached) fun next => ?_
    cases next with
    | some next => exact ⟨_, rfl, rfl⟩
    | none => exact ⟨_, rfl, rfl⟩
  | expired request batch => exact .bind (.erase _) fun _ => .pure rfl
  | forgetting request batch =>
    exact .bind (.modify fun state => ⟨rfl, .inr fun before => before, rfl, rfl, rfl⟩) fun _ =>
      .pure rfl
  | keepaliveNumber batch => exact .take rfl fun _ => rfl
  | keepaliveWrite packetId batch =>
    exact .write attached (fun _ => makeKeepalive_ok program.raw packetId)
      (makeKeepalive_named program.raw packetId) fun _ => rfl
  | keepaliveArm batch =>
    exact .bind .get fun state => .bind (.add _ _ (.inr (by decide))) fun id => .pure rfl
  | keepalivePush id batch =>
    exact .bind (.modify fun state => ⟨rfl, .inr fun before => before, rfl, rfl, rfl⟩) fun _ =>
      .pure rfl
  | escaped error => exact .pure rfl

/-- What a statement of the protocol thread does, that of `start` apart. -/
theorem ProtocolStep.does (program : Program τ κ) (attached : program.attached = true)
    (place : ProtocolStep κ) (other : place.starting = false) :
    Does program.toEnvironment (place.commands = true) (place.identifies = true)
      (place.takes = true) none (place.Makes program.raw) place.held ProtocolStep.held
        (place.statement program) := by
  cases place with
  | idle => exact .pure rfl
  | finding id packet =>
    refine .get fun state => ?_
    cases state.requests.findSecond id with
    | none => exact .throw _
    | some request =>
      simp only [callBack, bind_assoc, pure_bind]
      exact .bind (.emit fun _ other => by contradiction) fun _ => .pure rfl
  | acking callback =>
    refine .inside (callback.does program attached) fun next => ?_
    cases next with
    | some next => exact ⟨_, rfl, rfl⟩
    | none => exact ⟨_, rfl, rfl⟩
  | fulfilled request => exact .bind (.erase _) fun _ => .pure rfl
  | disarmed request =>
    exact .bind (.modify fun state => ⟨rfl, .inr fun before => before, rfl, rfl, rfl⟩) fun _ =>
      .pure rfl
  | acknowledging ids =>
    cases ids with
    | nil =>
      exact .bind (.modify fun state => ⟨rfl, .inr fun before => before, rfl, rfl, rfl⟩) fun _ =>
        .pure rfl
    | cons id ids => exact .bind (.erase _) fun _ => .pure rfl
  | hipNumber identification timeout => exact .take rfl fun _ => rfl
  | hipWrite packetId identification timeout =>
    exact .write attached (fun makes => makes)
      (makeHip_named program.raw packetId identification rfl) fun _ => rfl
  | hipArm timeout => exact .bind (.add _ _ (.inr (by decide))) fun id => .pure rfl
  | hipAssign id =>
    exact .bind (.modify fun state => ⟨rfl, .inr fun before => before, rfl, rfl, rfl⟩) fun _ =>
      .pure rfl
  | kaArm interval timeout => exact .bind (.addRepeating _ _ (.inr (by decide))) fun id => .pure rfl
  | kaAssign id timeout =>
    exact .bind (.modify fun state => ⟨rfl, .inr fun before => before, rfl, rfl, rfl⟩) fun _ =>
      .pure rfl
  | kaTest timeout =>
    refine .get fun state => ?_
    split
    · exact .pure rfl
    · exact .pure rfl
  | kaNumber timeout => exact .take rfl fun _ => rfl
  | kaWrite packetId timeout =>
    exact .write attached (fun _ => makeKeepalive_ok program.raw packetId)
      (makeKeepalive_named program.raw packetId) fun _ => rfl
  | kaAwait timeout =>
    exact .bind (.modify fun state => ⟨rfl, .inr fun before => before, rfl, rfl, rfl⟩) fun _ =>
      .bind .get fun state => .bind (.add _ _ (.inr (by decide))) fun id => .pure rfl
  | kaPush id =>
    exact .bind (.modify fun state => ⟨rfl, .inr fun before => before, rfl, rfl, rfl⟩) fun _ =>
      .pure rfl
  | stopErase => exact .bind .get fun state => .bind (.erase _) fun _ => .pure rfl
  | joining => exact .pure rfl
  | startRequests | startTimers | startNow | startNumber | startFlag | startRun => contradiction

/-- What the first statement of an operation does, that of `stop` apart. -/
theorem Operation.does (env : Environment τ κ) {commands identifies taking made : Prop}
    {repeats : Option Packet} (operation : Operation) (other : operation ≠ .stop) :
    Does env commands identifies taking repeats made none ProtocolStep.held
      (operation.statement env) := by
  cases operation with
  | start =>
    refine .get fun state => ?_
    split
    · exact .pure rfl
    · exact .pure rfl
  | stop => exact absurd rfl other
  | sendHip identification timeout =>
    refine .get fun state => ?_
    split
    · exact .pure rfl
    · exact .pure rfl
  | startKeepaliveManagement interval timeout =>
    exact .bind (.modify fun state => ⟨rfl, .inr fun before => before, rfl, rfl, rfl⟩) fun _ =>
      .pure rfl
  | stopKeepaliveManagement =>
    exact .bind (.modify fun state => ⟨rfl, .inr fun before => before, rfl, rfl, rfl⟩) fun _ =>
      .pure rfl
  | ackCommand packet =>
    unfold statement
    dsimp only
    cases ackedId packet with
    | error error => exact .throw error
    | ok id => exact .pure rfl
  | ackKeepalive => exact .get fun state => .pure rfl
  | ackDip => exact .bind .get fun state => .bind (.erase _) fun _ => .pure rfl

end Statements

end Hdcp.Master
