import Hdcp.Master.Changes
import Hdcp.Master.TimerTable

/-!
# What becomes of a request

A request leaves the table when it is acknowledged, when it is given up and when the manager is
started again. The first two hand it to its callback. The last does not: a command that is pending
when a session ends is dropped by the start of the next one, and its caller is never told.
-/

namespace Hdcp.Master

open Base

variable {τ κ : Type}

/-- A request is in the table, whatever its retries. -/
def Pends (request : Request κ) (state : State τ κ) : Prop :=
  ∃ kept ∈ state.requests.entries,
    kept.id = request.id ∧ kept.command = request.command ∧ kept.cb = request.cb

/-- A request was handed to its callback, fulfilled or timed out. -/
def Told (request : Request κ) (outputs : List (Output κ)) : Prop :=
  ∃ called, .called called ∈ outputs ∧ Ends request called

/-- The requests of a table are still there, or their callbacks were invoked since. -/
def Settled (first next : State τ κ) : Prop :=
  ∃ more, next.outputs = first.outputs ++ more ∧
    ∀ request ∈ first.requests.entries, Pends request next ∨ Told request more

/-- A start that drops no request: the manager runs already, or none is pending. -/
def Settling (state : State τ κ) (event : Event τ κ) : Prop :=
  event = .start → state.running = false → state.requests.entries = []

/-- A request in the table pends. -/
theorem pends_of_mem {request : Request κ} {state : State τ κ}
    (inside : request ∈ state.requests.entries) : Pends request state :=
  ⟨request, inside, rfl, rfl, rfl⟩

namespace Settled

variable {first middle next : State τ κ}

/-- Nothing happens. -/
theorem refl (state : State τ κ) : Settled state state :=
  ⟨[], (List.append_nil _).symm, fun _ inside => .inl (pends_of_mem inside)⟩

/-- One thing after another. -/
theorem trans (early : Settled first middle) (late : Settled middle next) :
    Settled first next := by
  obtain ⟨begun, firstly, kept⟩ := early
  obtain ⟨ended, secondly, still⟩ := late
  refine ⟨begun ++ ended, by rw [secondly, firstly, List.append_assoc], ?_⟩
  intro request inside
  rcases kept request inside with pending | ⟨called, given, ends⟩
  · obtain ⟨between, betweenIn, sameId, sameCommand, sameCb⟩ := pending
    rcases still between betweenIn with pending | ⟨called, given, ends⟩
    · obtain ⟨last, lastIn, lastId, lastCommand, lastCb⟩ := pending
      exact .inl ⟨last, lastIn, lastId.trans sameId, lastCommand.trans sameCommand,
        lastCb.trans sameCb⟩
    · exact .inr ⟨called, List.mem_append_right _ given, ends.id.trans sameId,
        ends.command.trans sameCommand, ends.cb.trans sameCb, ends.status⟩
  · exact .inr ⟨called, List.mem_append_left _ given, ends⟩

/-- The table is the same and nothing is taken back. -/
theorem of_same {more : List (Output κ)} (outputs : next.outputs = first.outputs ++ more)
    (requests : ∀ request ∈ first.requests.entries, request ∈ next.requests.entries) :
    Settled first next :=
  ⟨more, outputs, fun request inside => .inl (pends_of_mem (requests request inside))⟩

end Settled

/-- Counting a retry leaves a request pending. -/
theorem pends_withRetry {fields : Fields κ} {request : Request κ} (id : Nat)
    (inside : request ∈ fields.requests.entries) :
    ∃ kept ∈ (fields.withRetry id).requests.entries,
      kept.id = request.id ∧ kept.command = request.command ∧ kept.cb = request.cb := by
  by_cases chosen : request.id = id
  · exact ⟨incRetry request,
      (fields.mem_withRetry_iff id _).mpr (.inr ⟨request, inside, chosen, rfl⟩), rfl, rfl, rfl⟩
  · exact ⟨request, (fields.mem_withRetry_iff id _).mpr (.inl ⟨inside, chosen⟩), rfl, rfl, rfl⟩

/-- A change drops no request silently. -/
theorem Change.settled {env : Environment τ κ} {loses : Prop} {state next : State τ κ}
    (change : Change env loses state next) : Settled state next := by
  cases change with
  | timers fields follows requests packetId running =>
    refine .of_same (List.append_nil _).symm fun request inside => ?_
    rw [State.toFields_withFields, requests]
    exact inside
  | sent packet named =>
    have given := State.outputs_sent env state ⟨packet, none⟩
    exact .of_same given fun _ inside => inside
  | unsent transport refused lost => exact .of_same (List.append_nil _).symm fun _ inside => inside
  | overrun cmd timeout named =>
    have given := State.outputs_sent env state ⟨cmd, some state.timeoutQueue.nextId⟩
    refine .of_same given fun request inside => ?_
    rw [State.toFields_withFields, Fields.prepared_eq]
    exact inside
  | accepted cmd cb timeout requests named inserted =>
    have given := State.outputs_sent env state ⟨cmd, some state.timeoutQueue.nextId⟩
    obtain ⟨-, -, entries⟩ := (TwoIndex.insert_eq_some_iff _ _ _).mp inserted
    refine .of_same given fun request inside => ?_
    rw [State.toFields_withFields]
    dsimp only
    rw [entries]
    exact List.mem_cons_of_mem _ inside
  | rewritten request pending left =>
    have given := State.outputs_sent env state ⟨request.command, some request.id⟩
    exact ⟨_, given, fun other inside => .inl (pends_withRetry request.id inside)⟩
  | unwritten request transport refused pending left =>
    exact ⟨[], (List.append_nil _).symm,
      fun other inside => .inl (pends_withRetry request.id inside)⟩
  | reported request called pending ends => exact .of_same rfl fun _ inside => inside
  | concluded request called requests pending ends removed =>
    refine ⟨[.called called], rfl, ?_⟩
    intro other inside
    by_cases chosen : other.id = request.id
    · obtain rfl := TwoIndex.eq_of_first inside pending chosen
      exact .inr ⟨called, List.mem_singleton_self _, ends⟩
    · refine .inl (pends_of_mem ?_)
      rw [State.toFields_withFields]
      dsimp only
      rw [removed]
      exact List.mem_filter.mpr ⟨inside, by simpa using chosen⟩
  | timedOut type => exact .of_same rfl fun _ inside => inside
  | stopped => exact .of_same (List.append_nil _).symm fun _ inside => inside

/-- A sequence of changes drops no request silently. -/
theorem Changes.settled {env : Environment τ κ} {loses : Prop} {state next : State τ κ}
    (changes : Changes env loses state next) : Settled state next := by
  induction changes with
  | refl => exact .refl state
  | tail _ change ih => exact ih.trans change.settled

/-- A step settles every pending request unless it is a start that finds one. -/
theorem step_settled_iff {env : Environment τ κ} {state next : State τ κ} {event : Event τ κ}
    (taken : Step env state event next) : Settled state next ↔ Settling state event := by
  obtain ⟨-, rfl⟩ := taken
  by_cases begins : event = .start
  · subst begins
    by_cases idle : state.running = false
    · -- the table is cleared and nothing is given out
      have cleared : after (perform env .start state) = state.withFields state.toFields.started :=
        congrArg after (start_apply state idle)
      rw [cleared]
      constructor
      · rintro ⟨more, given, kept⟩ - -
        obtain rfl : more = [] := List.append_right_eq_self.mp given.symm
        refine List.eq_nil_iff_forall_not_mem.mpr fun request inside => ?_
        rcases kept request inside with ⟨other, otherIn, -⟩ | ⟨called, absurdity, -⟩
        · exact absurd otherIn List.not_mem_nil
        · exact absurd absurdity List.not_mem_nil
      · intro settling
        refine .of_same (List.append_nil _).symm fun request inside => ?_
        rw [settling rfl idle] at inside
        exact absurd inside List.not_mem_nil
    · have running : state.running = true := by simpa using idle
      rw [show perform env .start state = .ok () state from start_running state running]
      exact ⟨fun _ _ stopped => absurd stopped idle, fun _ => .refl state⟩
  · refine ⟨fun _ starts => absurd starts begins, fun _ => ?_⟩
    by_cases moves : ∃ transport, event = .transport transport
    · obtain ⟨transport, rfl⟩ := moves
      exact .of_same (List.append_nil _).symm fun _ inside => inside
    · exact ((perform_changing event begins fun transport same =>
        moves ⟨transport, same⟩).changes state).settled

/-- A run of steps that start no manager with pending requests settles all of them. -/
theorem run_settled {env : Environment τ κ} {start finish : State τ κ} {events : List (Event τ κ)}
    (run : Run (Guarded Settling (Step env)) start events finish) : Settled start finish := by
  induction run with
  | nil => exact .refl _
  | cons taken _ ih => exact ((step_settled_iff taken.2).mpr taken.1).trans ih

/-- In every run, every step keeps the pending requests or hands them to their callbacks exactly
when no step starts the manager with a request pending. In such a run a command that was accepted
has been handed to its callback when the manager is next started. -/
theorem requests_settled_iff (env : Environment τ κ) (transport : τ) (events : List (Event τ κ))
    (finish : State τ κ) :
    (Run (fun state event next => Step env state event next ∧ Settled state next)
        (State.initial transport) events finish ↔
      Run (Guarded Settling (Step env)) (State.initial transport) events finish) ∧
    ∀ front back before accepted ended type data cb timeout,
      Run (Guarded Settling (Step env)) (State.initial transport) front before →
      sendCommand env type data cb timeout before = .ok () accepted →
      Run (Guarded Settling (Step env)) accepted back ended →
      ended.running = false → Settling ended .start →
        ∃ called, .called called ∈ ended.outputs ∧ called.id = before.timeoutQueue.nextId ∧
          called.cb = cb ∧ (called.status = .fulfilled ∨ called.status = .timeout) := by
  constructor
  · constructor
    · intro run
      exact run.mono fun state event next taken =>
        ⟨(step_settled_iff taken.1).mp taken.2, taken.1⟩
    · intro run
      exact run.mono fun state event next taken =>
        ⟨taken.2, (step_settled_iff taken.2).mpr taken.1⟩
  · intro front back before accepted ended type data cb timeout _ returned run stopped settling
    obtain ⟨cmd, requests, -, -, inserted, rfl⟩ :=
      (sendCommand_eq_ok_iff env type data cb timeout before accepted).mp returned
    obtain ⟨-, -, entries⟩ := (TwoIndex.insert_eq_some_iff _ _ _).mp inserted
    obtain ⟨more, given, kept⟩ := run_settled run
    have entered : { id := before.timeoutQueue.nextId, command := cmd, cb := cb } ∈
        requests.entries := by
      rw [entries]
      exact List.mem_cons_self
    rcases kept _ entered with ⟨other, otherIn, -⟩ | ⟨called, told, ends⟩
    · rw [settling rfl stopped] at otherIn
      exact absurd otherIn List.not_mem_nil
    · refine ⟨called, ?_, ends.id, ends.cb, ends.status⟩
      rw [given]
      exact List.mem_append_right _ told

/-- A command of one byte is pending when the manager is stopped and started again: the start drops
it, and its callback is not invoked. -/
theorem restart_unsettled :
    ∃ state next, Run (Step quietEnvironment) (State.initial ())
        [.start, .sendCommand 1 [0] () commandTimeout, .stop] state ∧
      Step quietEnvironment state .start next ∧
      ∃ request ∈ state.requests.entries, ¬ Pends request next ∧ ¬ Told request next.outputs := by
  have started : Run (Step quietEnvironment) (State.initial ()) [.start]
      (after (start (State.initial ()))) := .cons ⟨trivial, rfl⟩ (.nil _)
  obtain ⟨sent, returned⟩ := (sendCommand_returns_iff quietEnvironment _ (issued_run started) 1
    [0] () commandTimeout).mpr sendable_byte
  have accepted : Step quietEnvironment (after (start (State.initial ())))
      (.sendCommand 1 [0] () commandTimeout) sent := ⟨trivial, congrArg after returned⟩
  obtain ⟨cmd, requests, -, -, inserted, rfl⟩ :=
    (sendCommand_eq_ok_iff _ _ _ _ _ _ _).mp returned
  obtain ⟨-, -, entries⟩ := (TwoIndex.insert_eq_some_iff _ _ _).mp inserted
  refine ⟨_, _, started.append (.cons accepted (.cons ⟨trivial, rfl⟩ (.nil _))), ⟨trivial, rfl⟩,
    { id := 0, command := cmd, cb := () }, ?_, ?_, ?_⟩
  · change _ ∈ requests.entries
    rw [entries]
    exact List.mem_cons_self
  · rintro ⟨kept, inside, -⟩
    exact absurd inside List.not_mem_nil
  · rintro ⟨called, given, -⟩
    rcases List.mem_singleton.mp given with absurdity
    contradiction

/-- A command of one byte is acknowledged before the manager is stopped. -/
theorem requests_settled_iff_byte :
    ∃ ended : State Unit Unit, ended.running = false ∧
      ∃ called, .called called ∈ ended.outputs ∧ called.id = 0 ∧
        (called.status = .fulfilled ∨ called.status = .timeout) := by
  have started : Run (Guarded Settling (Step quietEnvironment)) (State.initial ()) [.start]
      (after (start (State.initial ()))) := .cons ⟨fun _ _ => rfl, trivial, rfl⟩ (.nil _)
  obtain ⟨sent, returned⟩ := (sendCommand_returns_iff quietEnvironment _
    (issued_run started.unguarded) 1 [0] () commandTimeout).mpr sendable_byte
  obtain ⟨cmd, requests, making, -, inserted, same⟩ :=
    (sendCommand_eq_ok_iff _ _ _ _ _ _ _).mp returned
  obtain ⟨-, -, entries⟩ := (TwoIndex.insert_eq_some_iff _ _ _).mp inserted
  obtain ⟨ack, made, -⟩ := Packet.makeCmdAck_roundTrips .cleared .cleared 1 1 cmd.id
  have found : sent.requests.findSecond cmd.id = some { id := 0, command := cmd, cb := () } := by
    refine (TwoIndex.findSecond_eq_some_iff _ _ _).mpr ⟨?_, rfl⟩
    rw [same]
    change _ ∈ requests.entries
    rw [entries]
    exact List.mem_cons_self
  have processed := (ackCommand_eq_ok_iff quietEnvironment ack sent _ ()).mpr
    ⟨cmd.id, _, ackedId_makeCmdAck _ _ _ _ _ made, found, rfl, rfl⟩
  have answered : Run (Guarded Settling (Step quietEnvironment)) sent [.ackCommand ack, .stop] _ :=
    .cons ⟨fun absurdity => by contradiction, trivial, congrArg after processed⟩
      (.cons ⟨fun absurdity => by contradiction, trivial, rfl⟩ (.nil _))
  obtain ⟨-, told⟩ := requests_settled_iff quietEnvironment () [.start]
    (after (start (State.initial ())))
  refine (told _ _ _ _ _ _ _ _ _ started returned answered rfl ?_).elim fun called facts =>
    ⟨_, rfl, called, facts.1, facts.2.1, facts.2.2.2⟩
  -- the only request is the one acknowledged
  rintro - -
  refine List.eq_nil_iff_forall_not_mem.mpr fun request inside => ?_
  obtain ⟨held, other⟩ := (TwoIndex.mem_eraseSecond _ _ _).mp inside
  rw [same] at held
  change request ∈ requests.entries at held
  rw [entries] at held
  rcases List.mem_cons.mp held with rfl | absurdity
  · exact other rfl
  · exact absurd absurdity List.not_mem_nil

end Hdcp.Master
