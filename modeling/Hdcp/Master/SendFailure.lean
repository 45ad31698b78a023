import Hdcp.Master.Identifiers
import Hdcp.Packet.Codec

/-!
# A command that is not sent

`send_command` arms the retry timer and restarts the keepalive timer before anything that can fail.
A call that throws therefore never leaves the manager as it was, and the calls that do are those
that return. The retry timer left behind has no request: its callback throws at its first expiry.
-/

namespace Hdcp.Master

open Base

variable {τ κ : Type}

/-- The packets given to the transport. -/
def State.written (state : State τ κ) : List Packet :=
  state.outputs.filterMap fun
    | .written message => some message.packet
    | _ => none

/-- A manager as it was: requests, armed timers, keepalive timer, packets written. -/
structure Unchanged (state next : State τ κ) : Prop where
  /-- The pending requests. -/
  requests : next.requests.entries = state.requests.entries
  /-- The set of armed timers. -/
  timers : ∀ timer, timer ∈ next.timeoutQueue.timers ↔ timer ∈ state.timeoutQueue.timers
  /-- `keepalive_mngt_id_`. -/
  mngtId : next.keepaliveMngtId = state.keepaliveMngtId
  /-- The packets written to the transport. -/
  written : next.written = state.written

/-- A failure of `send_command` leaves the manager as it was. -/
def FailsCleanly (env : Environment τ κ) (state : State τ κ) (type : UInt16) (data : Bytes) (cb : κ)
    (timeout : Nat) : Prop :=
  ∀ error next, sendCommand env type data cb timeout state = .error error next →
    Unchanged state next

/-- What `send_command` needs: data that fits, a transport that takes the packet, a free id. -/
def Sendable (env : Environment τ κ) (state : State τ κ) (type : UInt16) (data : Bytes) : Prop :=
  Packet.CommandFits type data ∧
    (∀ cmd, Packet.makeCommand env.raw (state.packetId + 1) type data = .ok cmd →
      Accepts env state ⟨cmd, some state.timeoutQueue.nextId⟩) ∧
    state.packetId + 1 ∉ state.requests.entries.map Request.commandId

/-- Restarting the keepalive timer leaves a timer that is not the keepalive timer. -/
theorem mem_refreshed (fields : Fields κ) (timer : Timer TimerCallback)
    (armed : timer ∈ fields.timeoutQueue.timers) (other : fields.keepaliveMngtId ≠ some timer.id) :
    timer ∈ fields.refreshed.timeoutQueue.timers := by
  unfold Fields.refreshed
  split
  · have kept : timer ∈ (fields.withoutTimer fields.keepaliveMngtId).timeoutQueue.timers := by
      cases held : fields.keepaliveMngtId with
      | none => exact armed
      | some id =>
        refine (TimeoutQueue.mem_erase _ _ _).mpr ⟨armed, ?_⟩
        rintro rfl
        exact other held
    exact List.mem_cons_of_mem _ kept
  · exact armed

/-- Once a command is prepared its retry timer is armed. -/
theorem mem_prepared (fields : Fields κ) (issued : Issued fields) (timeout : Nat) :
    (⟨fields.timeoutQueue.nextId, fields.now + timeout / timeBaseMs, some (timeout / timeBaseMs),
      .cmdTimeoutCb⟩ : Timer TimerCallback) ∈
      (fields.prepared timeout).timeoutQueue.timers := by
  refine mem_refreshed (fields.withCmdTimer timeout) _ List.mem_cons_self ?_
  intro same
  exact Nat.lt_irrefl _ (issued.mngt _ same)

/-- A call that throws leaves its retry timer armed. -/
theorem sendCommand_error_changes (env : Environment τ κ) (state next : State τ κ)
    (issued : Issued state.toFields) (type : UInt16) (data : Bytes) (cb : κ) (timeout : Nat)
    (error : Exn) (failed : sendCommand env type data cb timeout state = .error error next) :
    ¬ Unchanged state next := by
  intro unchanged
  obtain ⟨requests, fields⟩ := sendCommand_after env type data cb timeout state
  rw [failed, after_error] at fields
  have queue : next.timeoutQueue = (state.toFields.prepared timeout).timeoutQueue := by
    rw [fields]
  have armed := mem_prepared state.toFields issued timeout
  rw [← queue] at armed
  have old := state.timeoutQueue.ids_lt _ ((unchanged.timers _).mp armed)
  exact Nat.lt_irrefl _ old

/-- A call returns exactly when its command can be sent. -/
theorem sendCommand_returns_iff (env : Environment τ κ) (state : State τ κ)
    (issued : Issued state.toFields) (type : UInt16) (data : Bytes) (cb : κ) (timeout : Nat) :
    (∃ next, sendCommand env type data cb timeout state = .ok () next) ↔
      Sendable env state type data := by
  constructor
  · rintro ⟨next, returned⟩
    obtain ⟨cmd, requests, made, accepts, inserted, -⟩ :=
      (sendCommand_eq_ok_iff _ _ _ _ _ _ _).mp returned
    obtain ⟨-, free, -⟩ := (TwoIndex.insert_eq_some_iff _ _ _).mp inserted
    refine ⟨(Packet.makeCommand_returns_iff _ _ _ _).mp ⟨cmd, made⟩, ?_, ?_⟩
    · intro other same
      obtain rfl := Except.ok.inj (made.symm.trans same)
      exact accepts
    · rw [← (Packet.build_id_type _ _ _ _ _ _ made).1]
      exact free
  · rintro ⟨fits, accepts, free⟩
    obtain ⟨cmd, made⟩ :=
      (Packet.makeCommand_returns_iff env.raw (state.packetId + 1) type data).mpr fits
    have named : Request.commandId ({ id := state.timeoutQueue.nextId, command := cmd, cb := cb } :
        Request κ) = state.packetId + 1 := (Packet.build_id_type _ _ _ _ _ _ made).1
    cases inserted : state.requests.insert
        { id := state.timeoutQueue.nextId, command := cmd, cb := cb } with
    | some requests =>
      exact ⟨_, (sendCommand_eq_ok_iff _ _ _ _ _ _ _).mpr
        ⟨cmd, requests, made, accepts cmd made, inserted, rfl⟩⟩
    | none =>
      rcases (TwoIndex.insert_eq_none_iff _ _).mp inserted with taken | taken
      · obtain ⟨request, inside, same⟩ := List.mem_map.mp taken
        have old := issued.requests request inside
        rw [same] at old
        exact absurd old (Nat.lt_irrefl _)
      · rw [named] at taken
        exact absurd taken free

/-- With every identifier issued, a failure is clean exactly when there is none. -/
theorem failsCleanly_iff (env : Environment τ κ) (state : State τ κ)
    (issued : Issued state.toFields) (type : UInt16) (data : Bytes) (cb : κ) (timeout : Nat) :
    FailsCleanly env state type data cb timeout ↔ Sendable env state type data := by
  rw [← sendCommand_returns_iff env state issued type data cb timeout]
  unfold FailsCleanly
  cases outcome : sendCommand env type data cb timeout state with
  | ok value next =>
    constructor
    · intro clean
      exact ⟨next, rfl⟩
    · rintro - error other failed
      contradiction
  | error error next =>
    constructor
    · intro clean
      have changed := sendCommand_error_changes env state next issued type data cb timeout error
        outcome
      exact absurd (clean error next rfl) changed
    · rintro ⟨other, returned⟩
      contradiction

/-- In every reachable state a failure of `send_command` leaves the manager as it was if and only
if the data fits, the transport takes the packet and the id is free, that is if it does not fail. -/
theorem sendCommand_failsCleanly_iff (env : Environment τ κ) (transport : τ)
    (events : List (Event τ κ)) (state : State τ κ)
    (run : Run (Step env) (State.initial transport) events state) (type : UInt16) (data : Bytes)
    (cb : κ) (timeout : Nat) :
    FailsCleanly env state type data cb timeout ↔ Sendable env state type data :=
  failsCleanly_iff env state (issued_run run) type data cb timeout

/-- A transport that is always open and takes everything, with callbacks that do nothing. -/
def quietEnvironment : Environment Unit Unit where
  attached := true
  isOpen := fun _ => true
  write := fun _ _ => (none, ())
  invoke := fun _ _ => none
  timeoutCb := some fun _ => none
  raw := .cleared

/-- The ack of the first command of a session. -/
def firstAck : Packet := (Packet.makeCmdAck .cleared 1 1 1).toOption.getD .cleared

/-- On a manager just started, a command of one byte can be sent. -/
theorem sendable_byte :
    Sendable quietEnvironment (after (start (State.initial ()))) 1 [0] := by
  refine ⟨Packet.commandFits_of_le 1 [0] (by decide), fun cmd _ _ => rfl, ?_⟩
  intro taken
  contradiction

/-- No command holds 2032 bytes. -/
theorem not_sendable_tooLong (state : State Unit Unit) :
    ¬ Sendable quietEnvironment state 1 (List.replicate 2032 0) := by
  rintro ⟨⟨fits, -⟩, -⟩
  rw [List.length_replicate] at fits
  exact absurd fits (by decide)

/-- While a command is pending, a second one of one byte can be sent, and one of 2032 bytes, which
is refused, does not leave the manager as it was. -/
theorem sendCommand_failsCleanly_iff_pending :
    ∃ state, Run (Step quietEnvironment) (State.initial ())
        [.start, .sendCommand 1 [0] () commandTimeout] state ∧
      state.requests.entries.length = 1 ∧
      FailsCleanly quietEnvironment state 1 [0] () commandTimeout ∧
      ¬ FailsCleanly quietEnvironment state 1 (List.replicate 2032 0) () commandTimeout := by
  have run : Run (Step quietEnvironment) (State.initial ())
      [.start, .sendCommand 1 [0] () commandTimeout] _ :=
    .cons ⟨trivial, rfl⟩ (.cons ⟨trivial, rfl⟩ (.nil _))
  have clean (data : Bytes) := sendCommand_failsCleanly_iff quietEnvironment () _ _ run 1 data ()
    commandTimeout
  refine ⟨_, run, by decide +kernel,
    (clean [0]).mpr ⟨?_, fun cmd _ _ => rfl, by decide +kernel⟩, ?_⟩
  · exact Packet.commandFits_of_le 1 [0] (by decide)
  · exact fun kept => not_sendable_tooLong _ ((clean _).mp kept)

/-- On a manager just started, a command of 2032 bytes throws and leaves its retry timer. -/
theorem sendCommand_tooLong_changes :
    ∃ state error next,
      Run (Step quietEnvironment) (State.initial ()) [.start] state ∧
      sendCommand quietEnvironment 1 (List.replicate 2032 0) () commandTimeout state =
        .error error next ∧ ¬ Unchanged state next := by
  have started : Run (Step quietEnvironment) (State.initial ()) [.start]
      (after (start (State.initial ()))) := .cons ⟨trivial, rfl⟩ (.nil _)
  have issued := issued_run started
  have refused := not_sendable_tooLong (after (start (State.initial ())))
  rw [← sendCommand_returns_iff quietEnvironment _ issued 1 _ () commandTimeout] at refused
  cases outcome : sendCommand quietEnvironment 1 (List.replicate 2032 0) () commandTimeout
      (after (start (State.initial ()))) with
  | ok value next => exact absurd ⟨next, outcome⟩ refused
  | error error next =>
    exact ⟨_, error, next, started, outcome,
      sendCommand_error_changes quietEnvironment _ next issued 1 _ () commandTimeout error outcome⟩

end Hdcp.Master
