import Hdcp.Appli.MasterActs
import Hdcp.Appli.MasterLife

/-!
# Where the master's thread can be

The scripts the master's thread can be in are few, and each task leads from one to another. State
connecting is entered with a manager whose timer thread does not run, and until `start` has run it
no other thread of the master but users in calls begun before takes a turn.
-/

namespace Hdcp.Master

variable {κ : Type}

/-- The place is in `send_hip`. -/
def ProtocolStep.identifying : ProtocolStep κ → Bool
  | hipNumber _ _ | hipWrite _ _ _ | hipArm _ | hipAssign _ => true
  | _ => false

/-- The place is in `start_keepalive_management`. -/
def ProtocolStep.managing : ProtocolStep κ → Bool
  | kaArm _ _ | kaAssign _ _ | kaTest _ | kaNumber _ | kaWrite _ _ | kaAwait _ | kaPush _ => true
  | _ => false

/-- The place is in `ack_command`, with a callback that sends nothing, or in `ack_keepalive`. -/
def ProtocolStep.acknowledges : ProtocolStep κ → Prop
  | acking callback => callback.calls = [] ∧ callback.send.ended = true
  | finding _ _ | fulfilled _ | disarmed _ | acknowledging _ => True
  | _ => False

section Places

variable {τ : Type}

/-- A statement of `send_hip` leads to the next one, or to the end. -/
theorem ProtocolStep.identifying_next (program : Program τ κ) (place : ProtocolStep κ)
    (inside : place.identifying = true) :
    Base.Yields (fun next => next = .idle ∨ next.identifying = true) (place.statement program) := by
  cases place with
  | hipNumber identification timeout => exact .bind fun _ => .pure (.inr rfl)
  | hipWrite packetId identification timeout => exact .bind fun _ => .bind fun _ => .pure (.inr rfl)
  | hipArm timeout => exact .bind fun _ => .pure (.inr rfl)
  | hipAssign id => exact .bind fun _ => .pure (.inl rfl)
  | _ => contradiction

/-- A statement of `start_keepalive_management` leads to the next one, or to the end. -/
theorem ProtocolStep.managing_next (program : Program τ κ) (place : ProtocolStep κ)
    (inside : place.managing = true) :
    Base.Yields (fun next => next = .idle ∨ next.managing = true) (place.statement program) := by
  cases place with
  | kaArm interval timeout => exact .bind fun _ => .pure (.inr rfl)
  | kaAssign id timeout => exact .bind fun _ => .pure (.inr rfl)
  | kaTest timeout =>
    refine .bind fun state => ?_
    split
    · exact .pure (.inr rfl)
    · exact .pure (.inr rfl)
  | kaNumber timeout => exact .bind fun _ => .pure (.inr rfl)
  | kaWrite packetId timeout => exact .bind fun _ => .bind fun _ => .pure (.inr rfl)
  | kaAwait timeout => exact .bind fun _ => .bind fun _ => .bind fun _ => .pure (.inr rfl)
  | kaPush id => exact .bind fun _ => .pure (.inl rfl)
  | _ => contradiction

/-- A statement of `start` leads to the next one, or to the end. -/
theorem ProtocolStep.starting_next (program : Program τ κ) (place : ProtocolStep κ)
    (inside : place.starting = true) :
    Base.Yields (fun next => next = .idle ∨ next.starting = true) (place.statement program) := by
  cases place with
  | startRequests | startTimers | startNow | startNumber | startFlag =>
    exact .bind fun _ => .pure (.inr rfl)
  | startRun => exact .bind fun _ => .pure (.inl rfl)
  | _ => contradiction

/-- A statement of `ack_command` or `ack_keepalive` leads to the next one, or to the end. -/
theorem ProtocolStep.acknowledges_next (program : Program τ κ)
    (silent : ∀ cb request, program.calls cb request = []) (place : ProtocolStep κ)
    (inside : place.acknowledges) :
    Base.Yields (fun next => next = .idle ∨ next.acknowledges) (place.statement program) := by
  cases place with
  | finding id packet =>
    refine .bind fun state => ?_
    split
    · exact .throw _
    · simp only [callBack, bind_assoc, pure_bind]
      exact .bind fun _ => .pure (.inr ⟨silent _ _, rfl⟩)
  | acking callback =>
    obtain ⟨request, calls, send⟩ := callback
    obtain ⟨rfl, ended⟩ : calls = [] ∧ send.ended = true := inside
    cases send with
    | idle =>
      simp only [statement, Callback.statement]
      cases program.invoke request.cb request with
      | some error => exact .throw _
      | none =>
        simp only [pure_bind]
        exact .pure (.inr trivial)
    | _ => contradiction
  | fulfilled request => exact .bind fun _ => .pure (.inr trivial)
  | disarmed request => exact .bind fun _ => .pure (.inl rfl)
  | acknowledging ids =>
    cases ids with
    | nil => exact .bind fun _ => .pure (.inl rfl)
    | cons id ids => exact .bind fun _ => .pure (.inr trivial)
  | _ => contradiction

end Places

end Hdcp.Master

namespace Hdcp.Appli.Master

open Base
open Hdcp.Master hiding State Event

variable {τ κ ι : Type}

/-! ## Scripts -/

/-- What follows `start` in a session's first handler call. -/
def afterStart : List (Task κ) := [.resetAttempts, .attempt, .read .connecting]

/-- The scripts of the handlers of a state, wherever the thread is in them, and whether the
manager's own thread rests there. -/
inductive Scripted (setup : Setup τ κ) : State → Bool → List (Task κ) → Prop where
  | done (state : State) :
      Scripted setup state (state = .init ∨ state = .disconnected) []
  | init : Scripted setup .init true [.init]
  | forget : Scripted setup .disconnected false [.forget, .operate .stop]
  | stop : Scripted setup .disconnected false [.operate .stop]
  | joining : Scripted setup .disconnected true [.manage .joining]
  | opening : Scripted setup .connecting true opening
  | start : Scripted setup .connecting true (.operate .start :: afterStart)
  | starting (place : ProtocolStep κ) (inside : place.starting = true) :
      Scripted setup .connecting true (.manage place :: afterStart)
  | opened : Scripted setup .connecting false afterStart
  | attempt : Scripted setup .connecting false [.attempt, .read .connecting]
  | sendHip : Scripted setup .connecting false
      [.operate (.sendHip setup.masterId connectingTimeout), .read .connecting]
  | identifying (place : ProtocolStep κ) (inside : place.identifying = true) :
      Scripted setup .connecting false [.manage place, .read .connecting]
  | readConnecting : Scripted setup .connecting false [.read .connecting]
  | ackDip : Scripted setup .connecting false [.operate .ackDip, .notifyDip]
  | notifyDip : Scripted setup .connecting false [.notifyDip]
  | manage : Scripted setup .connected false
      [.operate (.startKeepaliveManagement keepaliveInterval keepaliveTimeout), .read .connected]
  | managing (place : ProtocolStep κ) (inside : place.managing = true) :
      Scripted setup .connected false [.manage place, .read .connected]
  | readConnected : Scripted setup .connected false [.read .connected]
  | ackCommand (packet : Packet) : Scripted setup .connected false [.operate (.ackCommand packet)]
  | ackKeepalive : Scripted setup .connected false [.operate .ackKeepalive]
  | acknowledging (place : ProtocolStep κ) (inside : place.acknowledges) :
      Scripted setup .connected false [.manage place]
  | giveData (message : Message) : Scripted setup .connected false [.giveData message]

section Tasks

variable {setup : Setup τ κ}

/-- The script of a handler that begins. -/
theorem scripted_tasks (state : State) (nbLoop : Nat) :
    ∃ resting, Scripted setup state resting (tasks state nbLoop) ∧
      (resting = true → state = .init ∨ state = .disconnected ∧ nbLoop ≠ 1 ∨
        state = .connecting ∧ nbLoop = 1) := by
  cases state with
  | init => exact ⟨true, .init, fun _ => .inl rfl⟩
  | disconnected =>
    rw [tasks]
    split
    · exact ⟨false, .forget, nofun⟩
    · next later => exact ⟨_, .done _, fun _ => .inr (.inl ⟨rfl, later⟩)⟩
  | connecting =>
    rw [tasks]
    split
    · next first => exact ⟨true, .opening, fun _ => .inr (.inr ⟨rfl, first⟩)⟩
    · exact ⟨false, .attempt, nofun⟩
  | connected =>
    rw [tasks]
    split
    · exact ⟨false, .manage, nofun⟩
    · exact ⟨false, .readConnected, nofun⟩

/-- An operation of the request manager begins. -/
theorem perform_operate (operation : Operation) (data : Data τ κ) :
    (Task.operate operation).perform setup data =
      match operation.statement setup.environment data.manager with
      | .ok place manager => .ok (remaining place) (data.withManager manager)
      | .error error manager => .error error (data.withManager manager) := by
  rw [Task.perform, bind_apply]
  unfold onManager
  cases operation.statement setup.environment data.manager with
  | ok place manager => rfl
  | error error manager => rfl

/-- An operation of the request manager goes on. -/
theorem perform_manage (place : ProtocolStep κ) (data : Data τ κ) :
    (Task.manage place).perform setup data =
      match place.statement setup.program data.manager with
      | .ok next manager => .ok (remaining next) (data.withManager manager)
      | .error error manager => .error error (data.withManager manager) := by
  rw [Task.perform, bind_apply]
  unfold onManager
  cases place.statement setup.program data.manager with
  | ok next manager => rfl
  | error error manager => rfl

/-- The manager once an operation began. -/
theorem operate_manager (operation : Operation) (data : Data τ κ) :
    (after ((Task.operate operation).perform setup data)).manager =
      after (operation.statement setup.environment data.manager) := by
  rw [perform_operate]
  cases operation.statement setup.environment data.manager with
  | ok place manager => rfl
  | error error manager => rfl

/-- The manager once an operation went on. -/
theorem manage_manager (place : ProtocolStep κ) (data : Data τ κ) :
    (after ((Task.manage place).perform setup data)).manager =
      after (place.statement setup.program data.manager) := by
  rw [perform_manage]
  cases place.statement setup.program data.manager with
  | ok next manager => rfl
  | error error manager => rfl

/-- A test of what is pending decides whether a connection attempt is due. -/
theorem perform_attempt (data : Data τ κ) :
    ∃ next, next.manager = data.manager ∧ next.receivedPacketId = data.receivedPacketId ∧
      ((Task.attempt : Task κ).perform setup data = .ok [] next ∧
          next.events ⊆ data.events ∧ data.connectionAttempts ≠ 0 ∨
        (Task.attempt : Task κ).perform setup data =
          .ok [.operate (.sendHip setup.masterId connectingTimeout)] next ∧
            next.events ⊆ data.events) := by
  unfold Task.perform attemptDue
  by_cases first : data.connectionAttempts = 0
  · refine
    ⟨{ data with connectionAttempts := data.connectionAttempts + 1 }, rfl, rfl, .inr ⟨?_, ?_⟩⟩
    · simp only [bind_apply, get_apply, if_pos first, pure_apply, ↓reduceIte, modify_apply]
    · exact Finset.Subset.refl _
  · by_cases due : Event.dipTimeout ∈ data.events
    · refine ⟨{ data.without .dipTimeout with connectionAttempts := data.connectionAttempts + 1 },
        rfl, rfl, .inr ⟨?_, ?_⟩⟩
      · simp only
        [bind_apply, get_apply, if_neg first, eraseEvent_apply, due, decide_true, ↓reduceIte,
        modify_apply, pure_apply, Data.without]
      · exact Finset.erase_subset _ _
    · refine ⟨data.without .dipTimeout, rfl, rfl, .inl ⟨?_, ?_, first⟩⟩
      · simp only [bind_apply, get_apply, if_neg first, eraseEvent_apply, due, decide_false,
        Bool.false_eq_true, ↓reduceIte, pure_apply]
      · exact Finset.erase_subset _ _

/-- A packet is read, if there is one, and received. -/
theorem perform_read (state : State) (data : Data τ κ) :
    (Task.read state : Task κ).perform setup data =
      match (setup.transport.read data.manager.transport).1 with
      | none =>
        .ok [] (data.withTransport (setup.transport.read data.manager.transport).2)
      | some message =>
        receive state message
          ((data.withTransport (setup.transport.read data.manager.transport).2).reading state
            message) := by
  rw [Task.perform, bind_apply]
  unfold Master.read
  simp only [bind_apply, get_apply, modify_apply]
  cases (setup.transport.read data.manager.transport).1 with
  | none => rfl
  | some message => rfl

/-- In state connecting a DIP is taken in, and nothing else. -/
theorem receive_connecting (message : Message) (data : Data τ κ) :
    receive .connecting message data =
      if message.packet.type = PacketType.dip.code then
        .ok [.operate .ackDip, .notifyDip]
          { data with
            receivedPacketId := message.packet.id
            slaveId := message.packet.blocks.foldl .setBlock data.slaveId }
      else .ok [] data := by
  unfold receive
  split
  · rfl
  · rfl

/-- After the test of a packet id the id received is the packet's. -/
theorem checkPacketId_apply (packet : Packet) (data : Data τ κ) :
    checkPacketId packet data = .ok () { data with receivedPacketId := packet.id } := by
  unfold checkPacketId runIf
  by_cases fits : data.receivedPacketId + 1 = packet.id
  · simp only [bind_apply, modify_apply, get_apply, fits, ne_eq, not_true_eq_false, ↓reduceIte,
      pure_apply]
  · simp only [bind_apply, modify_apply, get_apply, fits, ne_eq, not_false_eq_true, ↓reduceIte]

/-- In state connected a packet is taken in, and an ack or data is passed on. -/
theorem receive_connected (message : Message) (data : Data τ κ) :
    ∃ more, receive .connected message data =
        .ok more { data with receivedPacketId := message.packet.id } ∧
      (more = [] ∨ more = [.operate (.ackCommand message.packet)] ∨
        more = [.giveData message] ∨ more = [.operate .ackKeepalive]) := by
  unfold receive
  dsimp only
  rw [bind_apply, checkPacketId_apply]
  dsimp only
  split
  · exact ⟨_, rfl, .inr (.inl rfl)⟩
  · split
    · exact ⟨_, rfl, .inr (.inr (.inl rfl))⟩
    · split
      · exact ⟨_, rfl, .inr (.inr (.inr rfl))⟩
      · exact ⟨_, rfl, .inl rfl⟩

/-- The manager once a packet was read. -/
theorem read_manager (state : State) (data : Data τ κ) :
    (after ((Task.read state : Task κ).perform setup data)).manager =
      { data.manager with transport := (setup.transport.read data.manager.transport).2 } := by
  rw [perform_read]
  cases (setup.transport.read data.manager.transport).1 with
  | none => rfl
  | some message =>
    dsimp only
    cases state with
    | init | disconnected => rfl
    | connecting =>
      rw [receive_connecting]
      split
      · rfl
      · rfl
    | connected =>
      obtain ⟨more, outcome, -⟩ := receive_connected message
        ((data.withTransport (setup.transport.read data.manager.transport).2).reading .connected
          message)
      rw [outcome]
      rfl

/-- Giving a packet to `data_cb_` leaves nothing to do, whether that raises an exception or not. -/
theorem perform_giveData (message : Message) (data : Data τ κ) :
    ∃ delivered, (delivered = data.delivered ∨ delivered = data.delivered ++ [message]) ∧
      ((Task.giveData message).perform setup data = .ok [] { data with delivered := delivered } ∨
        ∃ error, (Task.giveData message).perform setup data =
          .error error { data with delivered := delivered }) := by
  obtain ⟨delivered, either, left⟩ := giveData_leaves setup message data
  refine ⟨delivered, either, ?_⟩
  rw [Task.perform, bind_apply]
  cases outcome : Master.giveData setup message data with
  | ok value next =>
    rw [outcome, after_ok] at left
    exact .inl (by rw [left]; rfl)
  | error error next =>
    rw [outcome, after_error] at left
    exact .inr ⟨error, by rw [left]⟩

/-- What is left of an operation is an operation. -/
theorem operations_remaining (place : ProtocolStep κ) (data : Data τ κ) :
    ∀ more next, (.ok (remaining place) data : EStateM.Result Exn (Data τ κ) (List (Task κ))) =
      .ok more next → ∀ left ∈ more, ∃ place, left = .manage place := by
  intro more next same left inside
  cases same
  unfold remaining at inside
  split at inside
  · contradiction
  · exact ⟨place, List.mem_singleton.mp inside⟩

/-- A task that does not read leaves what was read and reported, and leaves operations of the
request manager to do. -/
theorem perform_records {task : Task κ} (unread : ∀ state, task ≠ .read state) (data : Data τ κ) :
    (after (task.perform setup data)).reads = data.reads ∧
      (after (task.perform setup data)).statuses = data.statuses ∧
      ((∀ message, task ≠ .giveData message) →
        (after (task.perform setup data)).delivered = data.delivered) ∧
      ∀ more next, task.perform setup data = .ok more next → ∀ left ∈ more,
        (∃ place, left = .manage place) ∨ ∃ operation, left = .operate operation := by
  have none (next : Data τ κ) : ∀ more last,
      (.ok [] next : EStateM.Result Exn (Data τ κ) (List (Task κ))) = .ok more last → ∀ left ∈ more,
        (∃ place, left = .manage place) ∨ ∃ operation, left = .operate operation := by
    intro more last same left inside
    cases same
    contradiction
  cases task with
  | init | forget | clearQueues | resetAttempts | notifyDip =>
    exact ⟨rfl, rfl, fun _ => rfl, none _⟩
  | attempt =>
    have sends (next : Data τ κ) : ∀ more last,
        (.ok [.operate (.sendHip setup.masterId connectingTimeout)] next :
          EStateM.Result Exn (Data τ κ) (List (Task κ))) = .ok more last → ∀ left ∈ more,
            (∃ place, left = .manage place) ∨ ∃ operation, left = .operate operation := by
      intro more last same left inside
      cases same
      exact .inr ⟨_, List.mem_singleton.mp inside⟩
    unfold Task.perform attemptDue
    by_cases first : data.connectionAttempts = 0
    · simp only [bind_apply, get_apply, if_pos first, pure_apply, ↓reduceIte, modify_apply]
      exact ⟨rfl, rfl, fun _ => rfl, sends _⟩
    · simp only [bind_apply, get_apply, if_neg first, eraseEvent_apply]
      split
      · exact ⟨rfl, rfl, fun _ => rfl, sends _⟩
      · exact ⟨rfl, rfl, fun _ => rfl, none _⟩
  | operate operation =>
    rw [perform_operate]
    cases operation.statement setup.environment data.manager with
    | ok place manager =>
      exact ⟨rfl, rfl, fun _ => rfl, fun more next same left inside =>
        .inl (operations_remaining place _ more next same left inside)⟩
    | error error manager => exact ⟨rfl, rfl, fun _ => rfl, fun more next same => by cases same⟩
  | manage place =>
    rw [perform_manage]
    cases place.statement setup.program data.manager with
    | ok next manager =>
      exact ⟨rfl, rfl, fun _ => rfl, fun more last same left inside =>
        .inl (operations_remaining next _ more last same left inside)⟩
    | error error manager => exact ⟨rfl, rfl, fun _ => rfl, fun more next same => by cases same⟩
  | read state => exact absurd rfl (unread state)
  | giveData message =>
    obtain ⟨delivered, -, outcome | ⟨error, outcome⟩⟩ := @perform_giveData _ _ setup message data
    · rw [outcome]
      exact ⟨rfl, rfl, fun ungiven => absurd rfl (ungiven message), none _⟩
    · rw [outcome]
      exact ⟨rfl, rfl, fun ungiven => absurd rfl (ungiven message),
        fun more next same => by cases same⟩

/-- What is left of an operation at a place, and what follows it. -/
theorem scripted_remaining {state : State} {quiet resting : Bool} {rest : List (Task κ)}
    {inside : ProtocolStep κ → Prop} {place : ProtocolStep κ} {rests : Prop}
    (ends : Scripted setup state quiet rest) (atEnd : quiet = true → rests)
    (goes : ∀ place, inside place → Scripted setup state resting (.manage place :: rest))
    (reached : place = .idle ∨ inside place)
    (onward : resting = true → place.ended = false → rests) :
    ∃ later, Scripted setup state later (remaining place ++ rest) ∧ (later = true → rests) := by
  rcases reached with rfl | within
  · exact ⟨quiet, ends, atEnd⟩
  · unfold remaining
    split
    · exact ⟨quiet, ends, atEnd⟩
    · next more => exact ⟨resting, goes place within, fun same => onward same (by simpa using more)⟩

/-- An operation that goes on or returns. -/
theorem scripted_manage {state : State} {quiet resting : Bool} {rest more : List (Task κ)}
    {inside : ProtocolStep κ → Prop} {place : ProtocolStep κ} {data next : Data τ κ}
    (ends : Scripted setup state quiet rest)
    (goes : ∀ place, inside place → Scripted setup state resting (.manage place :: rest))
    (yields : Yields (fun next => next = .idle ∨ inside next) (place.statement setup.program))
    (performed : (Task.manage place).perform setup data = .ok more next)
    (atEnd : quiet = true → next.manager.running = false)
    (onward : ∀ reached manager, place.statement setup.program data.manager = .ok reached manager →
      resting = true → reached.ended = false → manager.running = false) :
    ∃ later, Scripted setup state later (more ++ rest) ∧
      (later = true → next.manager.running = false) := by
  rw [perform_manage] at performed
  cases outcome : place.statement setup.program data.manager with
  | ok reached manager =>
    rw [outcome] at performed onward
    cases performed
    exact scripted_remaining ends atEnd goes (yields _ _ _ outcome) (onward reached manager rfl)
  | error error manager =>
    rw [outcome] at performed
    contradiction

/-- An operation that begins. -/
theorem scripted_operate {state : State} {quiet resting : Bool} {rest more : List (Task κ)}
    {inside : ProtocolStep κ → Prop} {operation : Operation} {data next : Data τ κ}
    (ends : Scripted setup state quiet rest)
    (goes : ∀ place, inside place → Scripted setup state resting (.manage place :: rest))
    (yields : Yields (fun next => next = .idle ∨ inside next)
      (operation.statement setup.environment))
    (performed : (Task.operate operation).perform setup data = .ok more next)
    (rests : quiet = true ∨ resting = true → next.manager.running = false) :
    ∃ later, Scripted setup state later (more ++ rest) ∧
      (later = true → next.manager.running = false) := by
  rw [perform_operate] at performed
  cases outcome : operation.statement setup.environment data.manager with
  | ok reached manager =>
    rw [outcome] at performed
    cases performed
    exact scripted_remaining ends (fun same => rests (.inl same)) goes (yields _ _ _ outcome)
      fun same _ => rests (.inr same)
  | error error manager =>
    rw [outcome] at performed
    contradiction

/-- Nothing is left of a handler of state connected. -/
theorem scripted_connected :
    Scripted setup .connected false ([] : List (Task κ)) := .done .connected

/-- `stop` leaves the manager's thread to end. -/
theorem scripted_stop {more : List (Task κ)} {data next : Data τ κ}
    (performed : (Task.operate .stop).perform setup data = .ok more next) :
    ∃ later, Scripted setup .disconnected later (more ++ []) ∧
      (later = true → next.manager.running = false) := by
  have goes (place : ProtocolStep κ) (inside : place = .joining) :
      Scripted setup .disconnected true [.manage place] := by
    rw [inside]
    exact .joining
  have yields : Yields (fun next => next = .idle ∨ next = .joining)
      (Operation.stop.statement setup.environment) := by
    refine .bind fun state => ?_
    split
    · exact .bind fun _ => .pure (.inr rfl)
    · exact .pure (.inl rfl)
  refine scripted_operate (.done _) goes yields performed fun _ => ?_
  rw [perform_operate] at performed
  by_cases running : data.manager.running = true
  · simp only [Operation.statement, bind_apply, get_apply, if_pos running, modify_apply,
      pure_apply] at performed
    cases performed
    rfl
  · simp only [Operation.statement, bind_apply, get_apply, if_neg running, pure_apply] at performed
    cases performed
    exact Bool.eq_false_iff.mpr running

/-- `start` of a manager whose thread does not run clears it first. -/
theorem scripted_start {more : List (Task κ)} {data next : Data τ κ}
    (performed : (Task.operate .start).perform setup data = .ok more next)
    (idle : data.manager.running = false) :
    more = [.manage .startRequests] ∧ next = data := by
  rw [perform_operate] at performed
  simp only [Operation.statement, bind_apply, get_apply, idle, Bool.false_eq_true, ↓reduceIte,
    pure_apply] at performed
  cases performed
  exact ⟨rfl, rfl⟩

/-- Until `start` returns the manager's thread does not run. -/
theorem scripted_starting {place : ProtocolStep κ} {more : List (Task κ)} {data next : Data τ κ}
    (inside : place.starting = true)
    (performed : (Task.manage place).perform setup data = .ok more next)
    (idle : data.manager.running = false) :
    ∃ later, Scripted setup .connecting later (more ++ afterStart) ∧
      (later = true → next.manager.running = false) := by
  refine scripted_manage .opened .starting (place.starting_next setup.program inside) performed
    nofun ?_
  intro reached manager outcome _ more
  cases place with
  | startRequests | startTimers | startNow | startNumber | startFlag =>
    cases outcome
    exact idle
  | startRun =>
    cases outcome
    contradiction
  | _ => contradiction

/-- A packet read in state connecting may be a DIP. -/
theorem scripted_readConnecting {more : List (Task κ)} {data next : Data τ κ}
    (performed : (Task.read .connecting : Task κ).perform setup data = .ok more next) :
    Scripted setup .connecting false more := by
  rw [perform_read] at performed
  cases found : (setup.transport.read data.manager.transport).1 with
  | none =>
    rw [found] at performed
    cases performed
    exact .done _
  | some message =>
    rw [found] at performed
    dsimp only at performed
    rw [receive_connecting] at performed
    split at performed
    · cases performed
      exact .ackDip
    · cases performed
      exact .done _

/-- A packet read in state connected may be an ack or data. -/
theorem scripted_readConnected {more : List (Task κ)} {data next : Data τ κ}
    (performed : (Task.read .connected : Task κ).perform setup data = .ok more next) :
    Scripted setup .connected false more := by
  rw [perform_read] at performed
  cases found : (setup.transport.read data.manager.transport).1 with
  | none =>
    rw [found] at performed
    cases performed
    exact scripted_connected
  | some message =>
    rw [found] at performed
    obtain ⟨last, outcome, left⟩ := receive_connected message
      ((data.withTransport (setup.transport.read data.manager.transport).2).reading .connected
        message)
    dsimp only at performed
    rw [outcome] at performed
    cases performed
    rcases left with rfl | rfl | rfl | rfl
    · exact scripted_connected
    · exact .ackCommand _
    · exact .giveData _
    · exact .ackKeepalive

/-- A task leads from one script of a state to another, and the manager's thread rests where it
should. -/
theorem Scripted.next {state : State} {resting : Bool} {script rest more : List (Task κ)}
    {task : Task κ} {data next : Data τ κ} (scripted : Scripted setup state resting script)
    (same : script = task :: rest) (performed : task.perform setup data = .ok more next)
    (rests : resting = true → data.manager.running = false) :
    ∃ later, Scripted setup state later (more ++ rest) ∧
      (later = true → next.manager.running = false) := by
  have never {reached : ProtocolStep κ} {manager : Hdcp.Master.State τ κ} (same : false = true)
      (_ : reached.ended = false) : manager.running = false := absurd same Bool.false_ne_true
  cases scripted with
  | done => contradiction
  | init =>
    cases same
    cases performed
    exact ⟨_, .done _, fun _ => rests rfl⟩
  | forget =>
    cases same
    cases performed
    exact ⟨_, .stop, nofun⟩
  | stop =>
    cases same
    exact scripted_stop performed
  | joining =>
    cases same
    cases performed
    exact ⟨_, .done _, fun _ => rests rfl⟩
  | opening =>
    obtain ⟨rfl, rfl⟩ := List.cons.inj same
    cases performed
    exact ⟨_, .start, fun _ => rests rfl⟩
  | start =>
    obtain ⟨rfl, rfl⟩ := List.cons.inj same
    obtain ⟨rfl, rfl⟩ := scripted_start performed (rests rfl)
    exact ⟨_, .starting _ rfl, fun _ => rests rfl⟩
  | starting place inside =>
    obtain ⟨rfl, rfl⟩ := List.cons.inj same
    exact scripted_starting inside performed (rests rfl)
  | opened =>
    obtain ⟨rfl, rfl⟩ := List.cons.inj same
    cases performed
    exact ⟨_, .attempt, nofun⟩
  | attempt =>
    cases same
    obtain ⟨last, -, -, ⟨outcome, -⟩ | ⟨outcome, -⟩⟩ := @perform_attempt _ _ setup data
    · rw [outcome] at performed
      cases performed
      exact ⟨_, .readConnecting, nofun⟩
    · rw [outcome] at performed
      cases performed
      exact ⟨_, .sendHip, nofun⟩
  | sendHip =>
    cases same
    refine scripted_operate .readConnecting .identifying ?_ performed nofun
    refine .bind fun state => ?_
    split
    · exact .pure (.inr rfl)
    · exact .pure (.inr rfl)
  | identifying place inside =>
    cases same
    exact scripted_manage .readConnecting .identifying
      (place.identifying_next setup.program inside) performed nofun fun _ _ _ => never
  | readConnecting =>
    cases same
    rw [List.append_nil]
    exact ⟨_, scripted_readConnecting performed, nofun⟩
  | ackDip =>
    cases same
    have goes (place : ProtocolStep κ) (inside : False) :
        Scripted setup .connecting false [.manage place, .notifyDip] := inside.elim
    have yields : Yields (fun next => next = .idle ∨ False)
        (Operation.ackDip.statement setup.environment) :=
      .bind fun _ => .bind fun _ => .pure (.inl rfl)
    exact scripted_operate .notifyDip goes yields performed nofun
  | notifyDip =>
    cases same
    cases performed
    exact ⟨_, .done _, nofun⟩
  | manage =>
    cases same
    refine scripted_operate .readConnected .managing ?_ performed nofun
    exact .bind fun _ => .pure (.inr rfl)
  | managing place inside =>
    cases same
    exact scripted_manage .readConnected .managing (place.managing_next setup.program inside)
      performed nofun fun _ _ _ => never
  | readConnected =>
    cases same
    rw [List.append_nil]
    exact ⟨_, scripted_readConnected performed, nofun⟩
  | ackCommand packet =>
    cases same
    refine scripted_operate scripted_connected .acknowledging ?_ performed nofun
    unfold Operation.statement
    dsimp only
    cases ackedId packet with
    | error error => exact .throw _
    | ok id => exact .pure (.inr trivial)
  | ackKeepalive =>
    cases same
    refine scripted_operate scripted_connected .acknowledging ?_ performed nofun
    exact .bind fun _ => .pure (.inr trivial)
  | acknowledging place inside =>
    cases same
    exact scripted_manage scripted_connected .acknowledging
      (place.acknowledges_next setup.program (fun _ _ => rfl) inside) performed nofun
      fun _ _ _ => never
  | giveData message =>
    cases same
    obtain ⟨delivered, -, outcome | ⟨error, outcome⟩⟩ := @perform_giveData _ _ setup message data
    · rw [outcome] at performed
      cases performed
      exact ⟨_, .done _, nofun⟩
    · rw [outcome] at performed
      contradiction

/-- Exceptions leave the handlers of a session only. -/
theorem Scripted.throws {state : State} {resting : Bool} {script rest : List (Task κ)}
    {task : Task κ} {data last : Data τ κ} {error : Exn}
    (scripted : Scripted setup state resting script) (same : script = task :: rest)
    (thrown : task.perform setup data = .error error last) :
    state = .connecting ∨ state = .connected := by
  cases scripted with
  | done => contradiction
  | init =>
    cases same
    contradiction
  | forget =>
    cases same
    contradiction
  | stop =>
    cases same
    rw [perform_operate] at thrown
    by_cases running : data.manager.running = true
    · simp only [Operation.statement, bind_apply, get_apply, if_pos running, modify_apply,
        pure_apply] at thrown
      contradiction
    · simp only [Operation.statement, bind_apply, get_apply, if_neg running, pure_apply] at thrown
      contradiction
  | joining =>
    cases same
    contradiction
  | opening | start | starting | opened | attempt | sendHip | identifying | readConnecting | ackDip
  | notifyDip => exact .inl rfl
  | manage | managing | readConnected | ackCommand | ackKeepalive | acknowledging | giveData =>
    exact .inr rfl

/-- What a task does to the request manager. -/
inductive Deals (setup : Setup τ κ) (manager : Hdcp.Master.State τ κ) :
    Task κ → Hdcp.Master.State τ κ → Prop where
  /-- It leaves the manager. -/
  | leaves (task : Task κ) : Deals setup manager task manager
  /-- It reads, or clears the queues, and leaves all but the transport. -/
  | transports (task : Task κ) (transport : τ)
      (moves : task = .clearQueues ∨ ∃ state, task = .read state) :
      Deals setup manager task { manager with transport := transport }
  /-- `stop` leaves all but the flag of the thread. -/
  | stops (running : Bool) :
      Deals setup manager (.operate .stop) { manager with running := running }
  /-- Another operation begins. -/
  | operates (operation : Operation) (other : operation ≠ .stop) (held : Option UInt16)
      (deed : Deed setup.environment False False False none False manager
        (after (operation.statement setup.environment manager)) none held) :
      Deals setup manager (.operate operation)
        (after (operation.statement setup.environment manager))
  /-- `start` goes on. -/
  | starts (place : ProtocolStep κ) (inside : place.starting = true) :
      Deals setup manager (.manage place) (after (place.statement setup.program manager))
  /-- Another operation goes on. -/
  | manages (place : ProtocolStep κ) (held : Option UInt16)
      (deed : Deed setup.environment (place.commands = true) (place.identifies = true)
        (place.takes = true) none (place.Makes setup.program.raw) manager
        (after (place.statement setup.program manager)) place.held held) :
      Deals setup manager (.manage place) (after (place.statement setup.program manager))

/-- What a task does. -/
theorem perform_deals (task : Task κ) (data : Data τ κ) :
    Deals setup data.manager task (after (task.perform setup data)).manager := by
  cases task with
  | init | forget | resetAttempts | notifyDip => exact .leaves _
  | clearQueues => exact .transports _ _ (.inl rfl)
  | attempt =>
    obtain ⟨next, same, -, ⟨outcome, -⟩ | ⟨outcome, -⟩⟩ := @perform_attempt _ _ setup data
    · rw [outcome, after_ok, same]
      exact .leaves _
    · rw [outcome, after_ok, same]
      exact .leaves _
  | operate operation =>
    rw [operate_manager]
    by_cases stops : operation = .stop
    · subst stops
      by_cases running : data.manager.running = true
      · simp only [Operation.statement, bind_apply, get_apply, if_pos running, modify_apply,
          pure_apply]
        exact .stops false
      · simp only [Operation.statement, bind_apply, get_apply, if_neg running, pure_apply]
        exact .leaves _
    · obtain ⟨held, deed⟩ :=
        (Operation.does setup.environment operation stops).deed data.manager
      exact .operates operation stops held deed
  | manage place =>
    rw [manage_manager]
    by_cases inside : place.starting = true
    · exact .starts place inside
    · obtain ⟨held, deed⟩ :=
        (place.does setup.program rfl (Bool.eq_false_iff.mpr inside)).deed data.manager
      exact .manages place held deed
  | read state =>
    rw [read_manager]
    exact .transports _ _ (.inr ⟨state, rfl⟩)
  | giveData message =>
    obtain ⟨delivered, -, outcome | ⟨error, outcome⟩⟩ := @perform_giveData _ _ setup message data
    · rw [outcome]
      exact .leaves _
    · rw [outcome]
      exact .leaves _

/-- No task but `stop` and the end of `start` changes whether the manager's thread runs. -/
theorem perform_running (task : Task κ) (data : Data τ κ) (other : task ≠ .operate .stop)
    (last : task ≠ .manage .startRun) :
    (after (task.perform setup data)).manager.running = data.manager.running := by
  have deals := @perform_deals _ _ setup task data
  generalize (after (task.perform setup data)).manager = next at deals ⊢
  cases deals with
  | leaves => rfl
  | transports _ transport moves => rfl
  | stops running => exact absurd rfl other
  | operates operation begins held deed => exact deed.running
  | starts place inside =>
    cases place with
    | startRun => exact absurd rfl last
    | startRequests | startTimers | startNow | startNumber | startFlag => rfl
    | _ => contradiction
  | manages place held deed => exact deed.running

end Tasks

end Hdcp.Appli.Master
