import Hdcp.Master.Settlement
import Hdcp.Master.ThreadSafety
import Hdcp.Master.Untouched

/-!
# When an ack finds its request

`send_command` writes a command before it enters the request into the table, and the protocol thread
may process the ack between the two. In every order of the threads an ack that names a command
without a result fulfils its request, except one processed in just that gap.
-/

namespace Hdcp.Master

open Base

variable {τ κ : Type}

/-- The threads over any number of sessions, with what the past tells of the commands. -/
structure Sessions (τ κ : Type) where
  /-- The manager and its threads. -/
  threads : Threads τ κ
  /-- The first identifier of a timer of the session. -/
  first : Nat
  /-- The calls of `send_command` that threw. -/
  failed : List Nat

/-- A manager as constructed, its threads at rest. -/
def Sessions.initial (transport : τ) : Sessions τ κ :=
  ⟨.atRest (State.initial transport), 0, []⟩

namespace Sessions

/-- The user thread executes a statement; an exception ends `send_command`. -/
def userDoes (sessions : Sessions τ κ) (statement : Action τ κ (UserThread κ)) : Sessions τ κ :=
  match statement sessions.threads.manager with
  | .ok user manager =>
    { sessions with threads := { sessions.threads with manager := manager, user := user } }
  | .error _ manager =>
    { sessions with
      threads := { sessions.threads with manager := manager, user := .idle }
      failed := sessions.failed ++ sessions.threads.user.call.toList }

/-- One move of one thread, or of the transport; here `send_command` may throw. -/
def step (env : Environment τ κ) (sessions : Sessions τ κ) : Move τ κ → Option (Sessions τ κ)
  | .start =>
    (sessions.threads.step env .start).map fun threads =>
      { sessions with
        threads := threads
        first := if sessions.threads.manager.running then sessions.first
          else sessions.threads.manager.timeoutQueue.nextId }
  | .send =>
    if sessions.threads.userNeedsMutex ∧ ¬ sessions.threads.mutexFree then none
    else (userStatement env sessions.threads.user).map sessions.userDoes
  | move => (sessions.threads.step env move).map fun threads => { sessions with threads := threads }

/-- A command of the session was written and has no result: its callback was not invoked and
`send_command` did not throw. -/
structure Outstanding (sessions : Sessions τ κ) (id : Nat) (cmd : Packet) : Prop where
  /-- It belongs to the session. -/
  recent : sessions.first ≤ id
  /-- It was written. -/
  written : .written ⟨cmd, some id⟩ ∈ sessions.threads.manager.outputs
  /-- Its callback was not invoked. -/
  unreported : ∀ called, .called called ∈ sessions.threads.manager.outputs → called.id ≠ id
  /-- The call did not throw. -/
  unfailed : id ∉ sessions.failed

/-- An ack that names an outstanding command fulfils its request. -/
def Answers (sessions : Sessions τ κ) (move : Move τ κ) (next : Sessions τ κ) : Prop :=
  ∀ packet id cmd, move = .ackCommand packet → sessions.Outstanding id cmd →
    ackedId packet = .ok cmd.id →
      ∃ called, next.threads.manager.outputs =
          sessions.threads.manager.outputs ++ [.called called] ∧
        called.id = id ∧ called.status = .fulfilled ∧ called.ack = some packet

/-- An ack is not processed between the write of the command it names and its insertion. -/
def Patient (env : Environment τ κ) (sessions : Sessions τ κ) (move : Move τ κ) : Prop :=
  ∀ packet id cmd cb, move = .ackCommand packet → sessions.threads.user = .written id cmd cb →
    env.attached = true → sessions.first ≤ id → ackedId packet ≠ .ok cmd.id

end Sessions

/-! ## What says nothing about a command -/

/-- The same requests are pending, and nothing about any command is given out. -/
structure Aside (state next : State τ κ) : Prop where
  /-- The requests. -/
  keys : next.keys = state.keys
  /-- Identifiers stay issued. -/
  nextId : state.timeoutQueue.nextId ≤ next.timeoutQueue.nextId
  /-- What is given out. -/
  silent : Silent state next

/-- Nothing happens. -/
theorem Aside.refl (state : State τ κ) : Aside state state := ⟨rfl, Nat.le_refl _, fun _ => rfl⟩

/-- The fields change with no effect on the commands. -/
theorem Mild.aside {state next : State τ κ} (mild : Mild state.toFields next.toFields)
    (silent : Silent state next) : Aside state next := ⟨mild.keys, mild.nextId, silent⟩

/-- A write that throws has no effect on the commands. -/
theorem aside_of_refused {env : Environment τ κ} {message : Message} {state next : State τ κ}
    {error : Exn} (refused : write env message state = .error error next) : Aside state next := by
  obtain ⟨fields, outputs, -⟩ := write_eq_error _ _ _ _ _ refused
  refine Mild.aside ?_ fun id => ?_
  · rw [fields]
    exact .refl _
  · rw [State.about, outputs]
    rfl

/-- A write of a packet of no command says nothing about one. -/
theorem silent_write (env : Environment τ κ) (first : State τ κ) (packet : Packet) :
    Keeps (Silent first) (write env ⟨packet, none⟩) := by
  intro state silent id
  cases outcome : write env ⟨packet, none⟩ state with
  | ok value next =>
    obtain ⟨-, rfl⟩ := (write_eq_ok_iff _ _ _ _ _).mp outcome
    exact (silent_sent env state packet id).trans (silent id)
  | error error next =>
    obtain ⟨-, outputs, -⟩ := write_eq_error _ _ _ _ _ outcome
    rw [after_error, State.about, outputs]
    exact silent id

/-- The report of a timeout says nothing about a command. -/
theorem silent_reportTimeout (env : Environment τ κ) (first : State τ κ) (type : TimeoutType) :
    Keeps (Silent first) (reportTimeout env type) := by
  unfold reportTimeout
  cases env.timeoutCb with
  | none => exact .pure _
  | some timeoutCb =>
    refine .bind (.modify ?_) fun _ => ?_
    · intro state silent id
      have same : State.about { state with outputs := state.outputs ++ [.timedOut type] } id =
          state.about id := by
        unfold State.about
        rw [List.filter_append]
        exact List.append_nil _
      rw [same]
      exact silent id
    · cases timeoutCb type with
      | none => exact .pure _
      | some error => exact .throw _

/-- A packet made under the next id and written says nothing about a command. -/
theorem silent_sendNext (env : Environment τ κ) (first : State τ κ)
    (packet : UInt16 → Except PacketError Packet) :
    Keeps (Silent first) (do
      let packetId ← nextPacketId
      let packet ← made (packet packetId)
      write env ⟨packet, none⟩ : Action τ κ Unit) :=
  .bind (fun _ silent => silent) fun _ => .bind (keeps_made _) fun _ => silent_write env first _

/-- A keepalive says nothing about a command. -/
theorem silent_sendKeepalive (env : Environment τ κ) (first : State τ κ) :
    Keeps (Silent first) (sendKeepalive env) :=
  .bind .get fun _ => .choice (silent_sendNext env first _) (.pure _)

/-- The other operations of the protocol thread say nothing about a command. -/
theorem perform_silent (env : Environment τ κ) (first : State τ κ) (event : Event τ κ)
    (other : ofProtocol event = true) : Keeps (Silent first) (perform env event) := by
  cases event with
  | stop => exact fun state silent => silent
  | stopKeepaliveManagement =>
    intro state silent
    rw [show perform env .stopKeepaliveManagement state = _ from
      stopKeepaliveManagement_apply state]
    exact silent
  | sendHip identification timeout =>
    have armed : Keeps (Silent first) (do
        let id ← addTimer (timeout / timeBaseMs) .dipTimeoutCb
        modify fun state : State τ κ => { state with dipId := some id }) :=
      fun state silent => silent
    refine .bind .get fun state => ?_
    split
    · exact .bind (fun _ silent => silent) fun _ => .bind (keeps_made _) fun _ =>
        .bind (silent_write env first _) fun _ => armed
    · exact armed
  | startKeepaliveManagement interval timeout =>
    exact .bind (fun _ silent => silent) fun _ => .bind (fun _ silent => silent) fun _ =>
      .bind (silent_sendKeepalive env first) fun _ => .bind (fun _ silent => silent) fun _ =>
        fun _ silent => silent
  | ackKeepalive => exact fun state silent => silent
  | ackDip =>
    intro state silent
    rw [show perform env .ackDip state = _ from ackDip_apply state]
    exact silent
  | _ => contradiction

/-- The other operations of the protocol thread leave the commands aside. -/
theorem perform_aside (env : Environment τ κ) (state : State τ κ) (event : Event τ κ)
    (other : ofProtocol event = true) : Aside state (after (perform env event state)) :=
  (perform_mild env state.toFields event other state (.refl _)).aside
    (perform_silent env state event other state fun _ => rfl)

/-! ## What ties the commands to the threads -/

/-- The request `cmd_timeout_cb` is at. -/
def TimerThread.request : TimerThread κ → Option (Request κ)
  | retryTest request _ | retryWrite request _ | givingUp request _ => some request
  | _ => none

/-- What `send_command` has written for its command so far. -/
def UserThread.writes (env : Environment τ κ) : UserThread κ → List (Output κ)
  | written id cmd _ => if env.attached then [.written ⟨cmd, some id⟩] else []
  | _ => []

/-- What holds between any two statements of the threads. -/
structure Tracked (env : Environment τ κ) (sessions : Sessions τ κ) : Prop where
  /-- An outstanding command is about to be inserted, or its request is there. -/
  known : ∀ id cmd, sessions.Outstanding id cmd →
    (∃ cb, sessions.threads.user = .written id cmd cb) ∨
      (id, cmd.id) ∈ sessions.threads.manager.keys
  /-- The identifiers of requests were issued. -/
  issued : ∀ key ∈ sessions.threads.manager.keys,
    key.1 < sessions.threads.manager.timeoutQueue.nextId
  /-- Nothing was given out about an identifier still to be issued. -/
  silent : ∀ id, sessions.threads.manager.timeoutQueue.nextId ≤ id →
    sessions.threads.manager.about id = []
  /-- The calls that threw had theirs issued. -/
  failed : ∀ id ∈ sessions.failed, id < sessions.threads.manager.timeoutQueue.nextId
  /-- So has the call that runs. -/
  called : ∀ id ∈ sessions.threads.user.call,
    id < sessions.threads.manager.timeoutQueue.nextId
  /-- It has no request yet. -/
  absent : ∀ id ∈ sessions.threads.user.call, ∀ key ∈ sessions.threads.manager.keys, key.1 ≠ id
  /-- It has not thrown. -/
  unfailed : ∀ id ∈ sessions.threads.user.call, id ∉ sessions.failed
  /-- What was given out about its command is what it wrote. -/
  writes : ∀ id ∈ sessions.threads.user.call,
    sessions.threads.manager.about id = sessions.threads.user.writes env
  /-- The mutex of the requests has one owner. -/
  exclusive : sessions.threads.timer.holdsMutex = true →
    sessions.threads.protocol.holdsMutex = false
  /-- The request `cmd_timeout_cb` is at is there. -/
  retried : ∀ request ∈ sessions.threads.timer.request,
    (request.id, request.commandId) ∈ sessions.threads.manager.keys
  /-- The request `ack_command` is about to remove was handed to its callback. -/
  held : ∀ request ∈ sessions.threads.protocol.request,
    ∀ key ∈ sessions.threads.manager.keys, key.2 = request.commandId →
      ∃ called, .called called ∈ sessions.threads.manager.outputs ∧ called.id = key.1

/-- A manager as constructed, its threads at rest. -/
theorem tracked_initial (env : Environment τ κ) (transport : τ) :
    Tracked env (Sessions.initial transport : Sessions τ κ) where
  known := fun id cmd outstanding => absurd outstanding.written List.not_mem_nil
  issued := fun key inside => by contradiction
  silent := fun id _ => rfl
  failed := fun id inside => by contradiction
  called := fun id inside => by contradiction
  absent := fun id inside => by contradiction
  unfailed := fun id inside => by contradiction
  writes := fun id inside => by contradiction
  exclusive := fun _ => rfl
  retried := fun request inside => by contradiction
  held := fun request inside => by contradiction

/-- A message of a call is given out exactly when it is about the call. -/
theorem written_mem_about (state : State τ κ) (id : Nat) (cmd : Packet) :
    .written ⟨cmd, some id⟩ ∈ state.about id ↔ .written ⟨cmd, some id⟩ ∈ state.outputs := by
  unfold State.about
  rw [List.mem_filter]
  exact and_iff_left (decide_eq_true rfl)

/-- A report of a request is given out exactly when it is about the request's call. -/
theorem called_mem_about (state : State τ κ) (request : Request κ) :
    .called request ∈ state.about request.id ↔ .called request ∈ state.outputs := by
  unfold State.about
  rw [List.mem_filter]
  exact and_iff_left (decide_eq_true rfl)

namespace Sessions

/-- The sessions with another manager. -/
def withManager (sessions : Sessions τ κ) (manager : State τ κ) : Sessions τ κ :=
  { sessions with threads := { sessions.threads with manager := manager } }

/-- The sessions with the timer thread elsewhere. -/
def withTimer (sessions : Sessions τ κ) (timer : TimerThread κ) : Sessions τ κ :=
  { sessions with threads := { sessions.threads with timer := timer } }

/-- The sessions with the protocol thread elsewhere. -/
def withProtocol (sessions : Sessions τ κ) (protocol : ProtocolThread κ) : Sessions τ κ :=
  { sessions with threads := { sessions.threads with protocol := protocol } }

/-- The sessions with the user thread elsewhere. -/
def withUser (sessions : Sessions τ κ) (user : UserThread κ) : Sessions τ κ :=
  { sessions with threads := { sessions.threads with user := user } }

end Sessions

/-- What was given out grows, so what is outstanding was. -/
theorem outstanding_of_grown {sessions : Sessions τ κ} {manager : State τ κ} {id : Nat}
    {cmd : Packet} (grown : sessions.threads.manager.outputs ⊆ manager.outputs)
    (written : .written ⟨cmd, some id⟩ ∈ sessions.threads.manager.outputs)
    (outstanding : (sessions.withManager manager).Outstanding id cmd) :
    sessions.Outstanding id cmd :=
  ⟨outstanding.recent, written, fun called given => outstanding.unreported called (grown given),
    outstanding.unfailed⟩

namespace Tracked

variable {env : Environment τ κ} {sessions : Sessions τ κ}

/-- The manager changes with no effect on the commands. -/
theorem aside (tracked : Tracked env sessions) {manager : State τ κ}
    (same : Aside sessions.threads.manager manager) :
    Tracked env (sessions.withManager manager) := by
  have keys : manager.keys = sessions.threads.manager.keys := same.keys
  have nextId := same.nextId
  refine ⟨?_, ?_, ?_, ?_, ?_, ?_, tracked.unfailed, ?_, tracked.exclusive, ?_, ?_⟩
  · intro id cmd outstanding
    have written := (written_mem_about manager id cmd).mpr outstanding.written
    rw [same.silent id, written_mem_about] at written
    have before : sessions.Outstanding id cmd := by
      refine ⟨outstanding.recent, written, ?_, outstanding.unfailed⟩
      rintro called given rfl
      have told := (called_mem_about _ called).mpr given
      rw [← same.silent, called_mem_about] at told
      exact outstanding.unreported called told rfl
    rcases tracked.known id cmd before with writing | pending
    · exact .inl writing
    · refine .inr ?_
      change _ ∈ manager.keys
      rw [keys]
      exact pending
  · intro key inside
    change key ∈ manager.keys at inside
    rw [keys] at inside
    exact Nat.lt_of_lt_of_le (tracked.issued key inside) nextId
  · intro id later
    exact (same.silent id).trans (tracked.silent id (Nat.le_trans nextId later))
  · exact fun id inside => Nat.lt_of_lt_of_le (tracked.failed id inside) nextId
  · exact fun id inside => Nat.lt_of_lt_of_le (tracked.called id inside) nextId
  · intro id inside key keyIn
    change key ∈ manager.keys at keyIn
    rw [keys] at keyIn
    exact tracked.absent id inside key keyIn
  · exact fun id inside => (same.silent id).trans (tracked.writes id inside)
  · intro request inside
    change _ ∈ manager.keys
    rw [keys]
    exact tracked.retried request inside
  · intro request inside key keyIn named
    change key ∈ manager.keys at keyIn
    rw [keys] at keyIn
    obtain ⟨called, given, id⟩ := tracked.held request inside key keyIn named
    refine ⟨called, ?_, id⟩
    have told := (called_mem_about _ called).mpr given
    rw [← same.silent, called_mem_about] at told
    exact told

/-- Something is given out about a pending request, or its callback. -/
theorem gives (tracked : Tracked env sessions) (key : Nat × UInt16) (output : Output κ)
    (pending : key ∈ sessions.threads.manager.keys)
    (concerns : ∀ id, output.concerns id = true → id = key.1)
    (written : ∀ cmd id, output = .written ⟨cmd, some id⟩ → cmd.id = key.2)
    (transport : τ) :
    Tracked env (sessions.withManager { sessions.threads.manager with
      transport := transport, outputs := sessions.threads.manager.outputs ++ [output] }) := by
  have about : ∀ id, id ≠ key.1 → State.about { sessions.threads.manager with
      transport := transport, outputs := sessions.threads.manager.outputs ++ [output] } id =
        sessions.threads.manager.about id := by
    intro id other
    unfold State.about
    rw [List.filter_append, List.filter_singleton]
    have unconcerned : output.concerns id = false := by
      cases found : output.concerns id with
      | false => rfl
      | true => exact absurd (concerns id found) other
    rw [unconcerned]
    exact List.append_nil _
  have issued := tracked.issued key pending
  refine ⟨?_, tracked.issued, ?_, tracked.failed, tracked.called, tracked.absent,
    tracked.unfailed, ?_, tracked.exclusive, tracked.retried, ?_⟩
  · intro id cmd outstanding
    rcases List.mem_append.mp outstanding.written with old | new
    · exact tracked.known id cmd
        (outstanding_of_grown (List.subset_append_left _ _) old outstanding)
    · -- the message is a retry's
      have same := List.mem_singleton.mp new
      have named := written cmd id same.symm
      have owner := concerns id (by rw [← same]; exact decide_eq_true rfl)
      refine .inr ?_
      rw [named, owner]
      exact pending
  · intro id later
    have other : id ≠ key.1 := Nat.ne_of_gt (Nat.lt_of_lt_of_le issued later)
    exact (about id other).trans (tracked.silent id later)
  · intro id inside
    have other : id ≠ key.1 := (tracked.absent id inside key pending).symm
    exact (about id other).trans (tracked.writes id inside)
  · intro request inside other otherIn named
    obtain ⟨called, given, id⟩ := tracked.held request inside other otherIn named
    exact ⟨called, List.mem_append_left _ given, id⟩

/-- Requests that were handed to their callbacks are removed. -/
theorem removes (tracked : Tracked env sessions) (manager : State τ κ)
    (keys : manager.keys ⊆ sessions.threads.manager.keys)
    (nextId : manager.timeoutQueue.nextId = sessions.threads.manager.timeoutQueue.nextId)
    (outputs : manager.outputs = sessions.threads.manager.outputs)
    (told : ∀ key ∈ sessions.threads.manager.keys, key ∉ manager.keys →
      ∃ called, .called called ∈ manager.outputs ∧ called.id = key.1)
    (quiet : sessions.threads.timer.request = none) :
    Tracked env (sessions.withManager manager) := by
  have about : ∀ id, manager.about id = sessions.threads.manager.about id := by
    intro id
    rw [State.about, outputs]
    rfl
  refine ⟨?_, ?_, ?_, ?_, ?_, ?_, tracked.unfailed, ?_, tracked.exclusive, ?_, ?_⟩
  · intro id cmd outstanding
    have before : sessions.Outstanding id cmd := by
      refine outstanding_of_grown ?_ ?_ outstanding
      · rw [outputs]
        exact fun _ given => given
      · rw [← outputs]
        exact outstanding.written
    rcases tracked.known id cmd before with writing | pending
    · exact .inl writing
    · refine .inr ?_
      by_contra gone
      obtain ⟨called, given, same⟩ := told _ pending gone
      exact outstanding.unreported called given same
  · intro key inside
    change key.1 < manager.timeoutQueue.nextId
    rw [nextId]
    exact tracked.issued key (keys inside)
  · intro id later
    change manager.timeoutQueue.nextId ≤ id at later
    rw [nextId] at later
    exact (about id).trans (tracked.silent id later)
  · intro id inside
    change id < manager.timeoutQueue.nextId
    rw [nextId]
    exact tracked.failed id inside
  · intro id inside
    change id < manager.timeoutQueue.nextId
    rw [nextId]
    exact tracked.called id inside
  · exact fun id inside key keyIn => tracked.absent id inside key (keys keyIn)
  · exact fun id inside => (about id).trans (tracked.writes id inside)
  · intro request inside
    change request ∈ sessions.threads.timer.request at inside
    rw [quiet] at inside
    contradiction
  · intro request inside key keyIn named
    obtain ⟨called, given, id⟩ := tracked.held request inside key (keys keyIn) named
    refine ⟨called, ?_, id⟩
    change _ ∈ manager.outputs
    rw [outputs]
    exact given

/-- The timer thread moves on. -/
theorem withTimer (tracked : Tracked env sessions) (timer : TimerThread κ)
    (exclusive : timer.holdsMutex = true → sessions.threads.protocol.holdsMutex = false)
    (retried : ∀ request ∈ timer.request,
      (request.id, request.commandId) ∈ sessions.threads.manager.keys) :
    Tracked env (sessions.withTimer timer) :=
  ⟨fun id cmd outstanding => tracked.known id cmd
      ⟨outstanding.recent, outstanding.written, outstanding.unreported, outstanding.unfailed⟩,
    tracked.issued, tracked.silent, tracked.failed, tracked.called, tracked.absent,
    tracked.unfailed, tracked.writes, exclusive, retried, tracked.held⟩

/-- The protocol thread moves on. -/
theorem withProtocol (tracked : Tracked env sessions) (protocol : ProtocolThread κ)
    (exclusive : sessions.threads.timer.holdsMutex = true → protocol.holdsMutex = false)
    (held : ∀ request ∈ protocol.request, ∀ key ∈ sessions.threads.manager.keys,
      key.2 = request.commandId →
        ∃ called, .called called ∈ sessions.threads.manager.outputs ∧ called.id = key.1) :
    Tracked env (sessions.withProtocol protocol) :=
  ⟨fun id cmd outstanding => tracked.known id cmd
      ⟨outstanding.recent, outstanding.written, outstanding.unreported, outstanding.unfailed⟩,
    tracked.issued, tracked.silent, tracked.failed, tracked.called, tracked.absent,
    tracked.unfailed, tracked.writes, exclusive, tracked.retried, held⟩

/-- A statement of the timer thread that leaves the commands aside. -/
theorem timerDoes (tracked : Tracked env sessions) {statement : Action τ κ (TimerThread κ)}
    (same : Aside sessions.threads.manager (after (statement sessions.threads.manager)))
    (moved : ∀ timer next, statement sessions.threads.manager = .ok timer next →
      (timer.holdsMutex = true → sessions.threads.protocol.holdsMutex = false) ∧
        ∀ request ∈ timer.request,
          (request.id, request.commandId) ∈ sessions.threads.manager.keys) :
    Tracked env { sessions with threads := sessions.threads.timerDoes statement } := by
  unfold Threads.timerDoes
  cases outcome : statement sessions.threads.manager with
  | ok timer manager =>
    rw [outcome] at same
    obtain ⟨exclusive, retried⟩ := moved timer manager outcome
    refine (tracked.aside same).withTimer _ exclusive ?_
    intro request inside
    have keys : manager.keys = sessions.threads.manager.keys := same.keys
    change _ ∈ manager.keys
    rw [keys]
    exact retried request inside
  | error error manager =>
    rw [outcome] at same
    exact (tracked.aside same).withTimer (.escaped error)
      (fun absurdity => by contradiction) fun request absurdity => by contradiction

/-- An action of the timer thread that leaves the commands aside, after which no request is at
hand. -/
theorem timerDoes_then (tracked : Tracked env sessions) {action : Action τ κ Unit}
    (same : Aside sessions.threads.manager (after (action sessions.threads.manager)))
    (timer : TimerThread κ) (none' : timer.request = none)
    (exclusive : timer.holdsMutex = true → sessions.threads.protocol.holdsMutex = false) :
    Tracked env { sessions with threads := sessions.threads.timerDoes do
      action
      return timer } := by
  refine tracked.timerDoes ?_ ?_
  · rw [bind_apply]
    cases outcome : action sessions.threads.manager with
    | ok value manager =>
      rw [outcome] at same
      exact same
    | error error manager =>
      rw [outcome] at same
      exact same
  · intro reached next returned
    obtain ⟨_, middle, -, last⟩ := (bind_eq_ok_iff _ _ _ _ _).mp returned
    cases last
    refine ⟨exclusive, fun request inside => ?_⟩
    rw [none'] at inside
    contradiction

end Tracked

/-! ## The timer thread -/

section Timer

variable {env : Environment τ κ} {sessions : Sessions τ κ}

/-- A retry timer is called. -/
theorem tracked_lookUp (tracked : Tracked env sessions) (id : Nat)
    (batch : List (Timer TimerCallback))
    (free : sessions.threads.protocol.holdsMutex = false) :
    Tracked env { sessions with threads := sessions.threads.timerDoes (lookUp id batch) } := by
  cases search : sessions.threads.manager.requests.findFirst id with
  | none =>
    have thrown : lookUp id batch sessions.threads.manager =
        .error unknownRequest sessions.threads.manager := by
      simp only [lookUp, bind_apply, get_apply, search]
      rfl
    refine tracked.timerDoes ?_ ?_
    · rw [thrown]
      exact .refl _
    · intro timer next returned
      rw [thrown] at returned
      contradiction
  | some request =>
    obtain ⟨pending, same⟩ := (TwoIndex.findFirst_eq_some_iff _ _ _).mp search
    have inside : (request.id, request.commandId) ∈ sessions.threads.manager.keys :=
      (Fields.mem_keys _ _).mpr ⟨request, pending, rfl⟩
    by_cases more : request.retry < maxRetry
    · have returned : lookUp id batch sessions.threads.manager = .ok (.retryTest request batch)
          (sessions.threads.manager.withFields (sessions.threads.manager.withRetry id)) := by
        simp only [lookUp, bind_apply, get_apply, search, if_pos more]
        rfl
      refine tracked.timerDoes ?_ ?_
      · rw [returned]
        exact Mild.aside (.withRetry _ _) fun _ => rfl
      · intro timer next reached
        rw [returned] at reached
        cases reached
        refine ⟨fun _ => free, fun other present => ?_⟩
        obtain rfl := Option.some.inj present
        exact inside
    · have returned : lookUp id batch sessions.threads.manager =
          .ok (.givingUp request batch) sessions.threads.manager := by
        simp only [lookUp, bind_apply, get_apply, search, if_neg more]
        rfl
      refine tracked.timerDoes ?_ ?_
      · rw [returned]
        exact .refl _
      · intro timer next reached
        rw [returned] at reached
        cases reached
        refine ⟨fun _ => free, fun other present => ?_⟩
        obtain rfl := Option.some.inj present
        exact inside

/-- A request is handed to its callback, and removed unless that raises an exception. -/
theorem tracked_conclude (tracked : Tracked env sessions) (request called : Request κ)
    (pending : (request.id, request.commandId) ∈ sessions.threads.manager.keys)
    (same : called.id = request.id) :
    Tracked env (sessions.withManager (sessions.threads.manager.reported called)) :=
  tracked.gives (request.id, request.commandId) (.called called) pending
    (fun id concerned => (of_decide_eq_true concerned).symm.trans same)
    (fun cmd id absurdity => by contradiction) sessions.threads.manager.transport

/-- A request is given up. -/
theorem tracked_giveUp (tracked : Tracked env sessions) {request : Request κ}
    {batch : List (Timer TimerCallback)}
    (giving : sessions.threads.timer = .givingUp request batch) :
    Tracked env { sessions with threads := sessions.threads.timerDoes do
      giveUp env request.id request
      return .calling batch } := by
  have pending := tracked.retried request (by rw [giving]; rfl)
  have told := tracked_conclude tracked request { request with status := .timeout } pending rfl
  unfold Threads.timerDoes
  rw [bind_apply]
  cases outcome : giveUp env request.id request sessions.threads.manager with
  | ok value manager =>
    obtain ⟨-, rfl⟩ := (giveUp_eq_ok_iff _ _ _ _ _ _).mp outcome
    have moved := told.withTimer (.calling batch) (fun absurdity => by contradiction)
      fun other absurdity => by contradiction
    refine moved.removes _ ?_ rfl rfl ?_ rfl
    · intro key inside
      obtain ⟨other, otherIn, rfl⟩ := (Fields.mem_keys _ _).mp inside
      exact (Fields.mem_keys _ _).mpr ⟨other, ((TwoIndex.mem_eraseFirst _ _ _).mp otherIn).1, rfl⟩
    · intro key inside gone
      obtain ⟨other, otherIn, rfl⟩ := (Fields.mem_keys _ _).mp inside
      refine ⟨{ request with status := .timeout }, List.mem_append_right _ List.mem_cons_self, ?_⟩
      by_contra different
      exact gone ((Fields.mem_keys _ _).mpr ⟨other,
        (TwoIndex.mem_eraseFirst _ _ _).mpr ⟨otherIn, fun clash => different clash.symm⟩, rfl⟩)
  | error error manager =>
    have same :
      manager = sessions.threads.manager.reported { request with status := .timeout } := by
      unfold giveUp callCallback at outcome
      rw [bind_apply, bind_apply, emit_apply] at outcome
      dsimp only at outcome
      cases raised : env.invoke request.cb { request with status := .timeout } with
      | none =>
        rw [raised] at outcome
        simp only [pure_apply, bind_apply, eraseTimer_apply] at outcome
        contradiction
      | some error =>
        rw [raised] at outcome
        cases outcome
        rfl
    rw [same]
    exact told.withTimer (.escaped error) (fun absurdity => by contradiction)
      fun other absurdity => by contradiction

/-- The retry of a command is written. -/
theorem tracked_retryWrite (tracked : Tracked env sessions) {request : Request κ}
    {batch : List (Timer TimerCallback)}
    (retrying : sessions.threads.timer = .retryWrite request batch) :
    Tracked env { sessions with threads := sessions.threads.timerDoes do
      write env ⟨request.command, some request.id⟩
      return .retryReset batch } := by
  have pending := tracked.retried request (by rw [retrying]; rfl)
  have owner := tracked.exclusive (by rw [retrying]; rfl)
  unfold Threads.timerDoes
  rw [bind_apply]
  cases outcome : write env ⟨request.command, some request.id⟩ sessions.threads.manager with
  | ok value manager =>
    obtain ⟨-, rfl⟩ := (write_eq_ok_iff _ _ _ _ _).mp outcome
    have written : Tracked env (sessions.withManager
        (sessions.threads.manager.sent env ⟨request.command, some request.id⟩)) := by
      unfold State.sent
      split
      · refine tracked.gives (request.id, request.commandId) _ pending ?_ ?_ _
        · intro id concerned
          exact (Option.some.inj (of_decide_eq_true concerned)).symm
        · intro cmd id same
          cases same
          rfl
      · exact tracked
    exact written.withTimer (.retryReset batch) (fun _ => owner)
      fun other absurdity => by contradiction
  | error error manager =>
    exact (tracked.aside (aside_of_refused outcome)).withTimer (.escaped error)
      (fun absurdity => by contradiction) fun other absurdity => by contradiction

/-- A timeout is reported. -/
theorem tracked_report (tracked : Tracked env sessions) (type : TimeoutType)
    (batch : List (Timer TimerCallback)) :
    Tracked env { sessions with threads := sessions.threads.timerDoes do
      reportTimeout env type
      return .calling batch } := by
  have mild : OnFields (Mild sessions.threads.manager.toFields)
      (after (reportTimeout env type sessions.threads.manager)) :=
    keeps_reportTimeout env type _ (.refl _)
  have same := Mild.aside mild (silent_reportTimeout env _ type _ fun _ => rfl)
  exact tracked.timerDoes_then same _ rfl fun absurdity => by contradiction

/-- The callback of the next timer is begun, or the tick is over. -/
theorem tracked_calling (tracked : Tracked env sessions) {batch : List (Timer TimerCallback)}
    (position : sessions.threads.timer = .calling batch)
    (free : sessions.threads.timerNeedsMutex = true → sessions.threads.mutexFree = true)
    {statement : Action τ κ (TimerThread κ)}
    (next : timerStatement env (.calling batch) = some statement) :
    Tracked env { sessions with threads := sessions.threads.timerDoes statement } := by
  cases batch with
  | nil =>
    cases next
    exact tracked.withTimer .idle (fun absurdity => by contradiction)
      fun other absurdity => by contradiction
  | cons timer batch =>
    have needs : timer.callback = .cmdTimeoutCb →
        sessions.threads.protocol.holdsMutex = false := by
      intro bound
      have open' : sessions.threads.mutexFree = true := by
        refine free ?_
        unfold Threads.timerNeedsMutex
        rw [position]
        exact decide_eq_true bound
      exact ((Threads.mutexFree_iff _).mp open').2
    simp only [timerStatement] at next
    cases bound : timer.callback with
    | cmdTimeoutCb =>
      rw [bound] at next
      cases next
      exact tracked_lookUp tracked timer.id batch (needs bound)
    | dipTimeoutCb =>
      rw [bound] at next
      cases next
      exact tracked_report tracked .dipTimeout batch
    | kaTimeoutCb =>
      rw [bound] at next
      cases next
      exact tracked_report tracked .kaTimeout batch
    | kaMngtTimeoutCb =>
      rw [bound] at next
      cases next
      refine tracked.timerDoes ?_ ?_
      · rw [bind_apply, get_apply]
        dsimp only
        split
        · exact .refl _
        · exact .refl _
      · intro reached manager returned
        rw [bind_apply, get_apply] at returned
        dsimp only at returned
        split at returned
        · cases returned
          exact ⟨fun absurdity => by contradiction, fun other absurdity => by contradiction⟩
        · cases returned
          exact ⟨fun absurdity => by contradiction, fun other absurdity => by contradiction⟩

/-- A retry is written if the transport is open. -/
theorem tracked_retryTest (tracked : Tracked env sessions) {request : Request κ}
    {batch : List (Timer TimerCallback)}
    (position : sessions.threads.timer = .retryTest request batch)
    {statement : Action τ κ (TimerThread κ)}
    (next : timerStatement env (.retryTest request batch) = some statement) :
    Tracked env { sessions with threads := sessions.threads.timerDoes statement } := by
  have owner := tracked.exclusive (by rw [position]; rfl)
  have pending := tracked.retried request (by rw [position]; rfl)
  cases next
  refine tracked.timerDoes ?_ ?_
  · rw [bind_apply, get_apply]
    dsimp only
    split
    · exact .refl _
    · exact .refl _
  · intro reached manager returned
    rw [bind_apply, get_apply] at returned
    dsimp only at returned
    split at returned
    · cases returned
      refine ⟨fun _ => owner, fun other present => ?_⟩
      obtain rfl := Option.some.inj present
      exact pending
    · cases returned
      exact ⟨fun _ => owner, fun other absurdity => by contradiction⟩

/-- A keepalive is made and written. -/
theorem tracked_keepaliveWrite (tracked : Tracked env sessions)
    (batch : List (Timer TimerCallback)) :
    Tracked env { sessions with threads := sessions.threads.timerDoes do
      let packetId ← nextPacketId
      let keepalive ← made (Packet.makeKeepalive env.raw packetId)
      write env ⟨keepalive, none⟩
      return .keepaliveArm batch } := by
  have same : Aside sessions.threads.manager (after ((do
      let packetId ← nextPacketId
      let keepalive ← made (Packet.makeKeepalive env.raw packetId)
      write env ⟨keepalive, none⟩ : Action τ κ Unit) sessions.threads.manager)) := by
    refine Mild.aside ?_ (silent_sendNext env _ _ _ fun _ => rfl)
    refine (Keeps.bind ?_ fun _ => .bind (keeps_made _) fun _ => keeps_write env _ :
      Keeps (OnFields (Mild sessions.threads.manager.toFields)) _) _ (.refl _)
    intro state mild
    exact ⟨mild.keys, mild.commands, mild.nextId⟩
  have moved := tracked.timerDoes_then same (.keepaliveArm batch) rfl
    fun absurdity => by contradiction
  simpa only [bind_assoc] using moved

/-- The next statement of the timer thread. -/
theorem tracked_timer (tracked : Tracked env sessions)
    (free : sessions.threads.timerNeedsMutex = true → sessions.threads.mutexFree = true)
    {statement : Action τ κ (TimerThread κ)}
    (next : timerStatement env sessions.threads.timer = some statement) :
    Tracked env { sessions with threads := sessions.threads.timerDoes statement } := by
  cases position : sessions.threads.timer with
  | idle =>
    rw [position] at next
    contradiction
  | escaped error =>
    rw [position] at next
    contradiction
  | calling batch =>
    rw [position] at next
    exact tracked_calling tracked position free next
  | retryTest request batch =>
    rw [position] at next
    exact tracked_retryTest tracked position next
  | retryWrite request batch =>
    have retrying := position
    rw [position] at next
    cases next
    exact tracked_retryWrite tracked retrying
  | retryReset batch =>
    rw [position] at next
    cases next
    refine tracked.timerDoes_then ?_ _ rfl fun absurdity => by contradiction
    rw [resetKeepaliveMngt_apply]
    exact Mild.aside (.refreshed _) fun _ => rfl
  | givingUp request batch =>
    have giving := position
    rw [position] at next
    cases next
    exact tracked_giveUp tracked giving
  | keepaliveWrite batch =>
    rw [position] at next
    cases next
    exact tracked_keepaliveWrite tracked batch
  | keepaliveArm batch =>
    rw [position] at next
    cases next
    refine tracked.timerDoes ?_ ?_
    · have armed := Mild.arm sessions.threads.manager.toFields
        (sessions.threads.manager.now + sessions.threads.manager.timeoutKeepalive) none
        .kaTimeoutCb (by decide)
      exact ⟨armed.keys, armed.nextId, fun _ => rfl⟩
    · intro reached manager returned
      cases returned
      exact ⟨fun absurdity => by contradiction, fun other absurdity => by contradiction⟩

end Timer

/-! ## The protocol thread -/

section Protocol

variable {env : Environment τ κ} {sessions : Sessions τ κ}

/-- An ack that names a pending request: its callback is invoked. -/
theorem ackLookUp_found (env : Environment τ κ) {packet : Packet} {state : State τ κ} {id : UInt16}
    {found : Request κ} (named : ackedId packet = .ok id)
    (search : state.requests.findSecond id = some found) :
    ackLookUp env packet state =
      match env.invoke found.cb { found with status := .fulfilled, ack := some packet } with
      | some error =>
        .error error (state.reported { found with status := .fulfilled, ack := some packet })
      | none =>
        .ok (.fulfilled found)
          (state.reported { found with status := .fulfilled, ack := some packet }) := by
  unfold ackLookUp
  rw [named]
  dsimp only
  rw [bind_apply, get_apply]
  dsimp only
  rw [search]
  dsimp only
  unfold callCallback
  rw [bind_apply, bind_apply, emit_apply]
  dsimp only
  cases env.invoke found.cb { found with status := .fulfilled, ack := some packet } with
  | none => rfl
  | some error => rfl

/-- Any other ack changes nothing. -/
theorem ackLookUp_refused (env : Environment τ κ) (packet : Packet) (state : State τ κ)
    (missing : ∀ id, ackedId packet = .ok id → state.requests.findSecond id = none) :
    ∃ error, ackLookUp env packet state = .error error state := by
  unfold ackLookUp
  cases named : ackedId packet with
  | error error => exact ⟨error, rfl⟩
  | ok id =>
    dsimp only
    rw [bind_apply, get_apply]
    dsimp only
    rw [missing id named]
    exact ⟨_, rfl⟩

/-- An ack is begun. -/
theorem tracked_ackLookUp (tracked : Tracked env sessions) (packet : Packet)
    (idle : sessions.threads.protocol = .idle)
    (free : sessions.threads.timer.holdsMutex = false) :
    Tracked env { sessions with
      threads := sessions.threads.protocolDoes (ackLookUp env packet) } := by
  have unmoved : ∀ {manager : State τ κ}, Tracked env (sessions.withManager manager) →
      Tracked env { sessions with
        threads := { sessions.threads with manager := manager, protocol := .idle } } := by
    intro manager tracked
    rw [← idle]
    exact tracked
  unfold Threads.protocolDoes
  by_cases present : ∃ id found, ackedId packet = .ok id ∧
      sessions.threads.manager.requests.findSecond id = some found
  · obtain ⟨id, found, named, search⟩ := present
    obtain ⟨inside, rfl⟩ := (TwoIndex.findSecond_eq_some_iff _ _ _).mp search
    have pending : (found.id, found.commandId) ∈ sessions.threads.manager.keys :=
      (Fields.mem_keys _ _).mpr ⟨found, inside, rfl⟩
    have told := tracked_conclude tracked found
      { found with status := .fulfilled, ack := some packet } pending rfl
    rw [ackLookUp_found env named search]
    cases env.invoke found.cb { found with status := .fulfilled, ack := some packet } with
    | none =>
      refine told.withProtocol (.fulfilled found) ?_ ?_
      · intro owner
        rw [show sessions.threads.timer.holdsMutex = true from owner] at free
        contradiction
      · intro request chosen key keyIn same
        obtain rfl := Option.some.inj chosen
        refine ⟨_, List.mem_append_right _ List.mem_cons_self, ?_⟩
        exact Fields.keys_unique pending keyIn same.symm
    | some error => exact unmoved told
  · obtain ⟨error, refused⟩ := ackLookUp_refused env packet
        sessions.threads.manager (by
      intro id named
      cases search : sessions.threads.manager.requests.findSecond id with
      | none => rfl
      | some found => exact absurd ⟨id, found, named, search⟩ present)
    rw [refused]
    exact unmoved tracked

/-- A request at hand is held under the mutex. -/
theorem request_eq_none {timer : TimerThread κ} (free : timer.holdsMutex = false) :
    timer.request = none := by
  cases timer with
  | retryTest request batch => contradiction
  | retryWrite request batch => contradiction
  | givingUp request batch => contradiction
  | _ => rfl

/-- The next statement of `ack_command`. -/
theorem tracked_ack (tracked : Tracked env sessions)
    {statement : Action τ κ (ProtocolThread κ)}
    (next : protocolStatement sessions.threads.protocol = some statement) :
    Tracked env { sessions with threads := sessions.threads.protocolDoes statement } := by
  unfold Threads.protocolDoes
  cases position : sessions.threads.protocol with
  | idle =>
    rw [position] at next
    contradiction
  | fulfilled request =>
    have held := tracked.held request (by rw [position]; rfl)
    have exclusive := tracked.exclusive
    rw [position] at next exclusive
    cases next
    rw [bind_apply, eraseTimer_apply]
    dsimp only [pure_apply]
    have erased : Aside sessions.threads.manager
        (sessions.threads.manager.withFields
          (sessions.threads.manager.toFields.withoutTimer (some request.id))) :=
      Mild.aside (Mild.withoutTimer sessions.threads.manager.toFields (some request.id)) fun _ =>
        rfl
    refine (tracked.aside erased).withProtocol (.disarmed request) exclusive ?_
    intro other chosen key keyIn named
    obtain rfl := Option.some.inj chosen
    exact held key keyIn named
  | disarmed request =>
    have held := tracked.held request (by rw [position]; rfl)
    have quiet : sessions.threads.timer.request = none := by
      refine request_eq_none (Bool.eq_false_iff.mpr fun owner => ?_)
      have free := tracked.exclusive owner
      rw [position] at free
      contradiction
    rw [position] at next
    cases next
    have moved := tracked.withProtocol .idle (fun _ => rfl)
      fun other absurdity => by contradiction
    refine moved.removes (sessions.threads.manager.withFields
      { sessions.threads.manager.toFields with
        requests := sessions.threads.manager.requests.eraseSecond request.commandId })
      ?_ rfl rfl ?_ quiet
    · intro key inside
      obtain ⟨other, otherIn, rfl⟩ := (Fields.mem_keys _ _).mp inside
      exact (Fields.mem_keys _ _).mpr ⟨other, ((TwoIndex.mem_eraseSecond _ _ _).mp otherIn).1, rfl⟩
    · intro key inside gone
      refine held key inside ?_
      by_contra different
      obtain ⟨other, otherIn, rfl⟩ := (Fields.mem_keys _ _).mp inside
      exact gone ((Fields.mem_keys _ _).mpr ⟨other,
        (TwoIndex.mem_eraseSecond _ _ _).mpr ⟨otherIn, different⟩, rfl⟩)

end Protocol

/-! ## The user thread -/

section User

variable {env : Environment τ κ} {sessions : Sessions τ κ}

/-- The user thread moves on in a call that has written nothing. -/
theorem tracked_userMoves (tracked : Tracked env sessions) (user : UserThread κ)
    (same : user.call = sessions.threads.user.call) (quiet : user.writes env = [])
    (before : sessions.threads.user.writes env = [])
    (early : ∀ id cmd cb, sessions.threads.user ≠ .written id cmd cb) :
    Tracked env (sessions.withUser user) := by
  refine ⟨?_, tracked.issued, tracked.silent, tracked.failed, ?_, ?_, ?_, ?_, tracked.exclusive,
    tracked.retried, tracked.held⟩
  · intro id cmd outstanding
    refine .inr ((tracked.known id cmd ⟨outstanding.recent, outstanding.written,
      outstanding.unreported, outstanding.unfailed⟩).resolve_left ?_)
    rintro ⟨cb, writing⟩
    exact early id cmd cb writing
  · intro id inside
    exact tracked.called id (same ▸ inside)
  · intro id inside
    exact tracked.absent id (same ▸ inside)
  · intro id inside
    exact tracked.unfailed id (same ▸ inside)
  · intro id inside
    have written := tracked.writes id (same ▸ inside)
    rw [before] at written
    exact written.trans quiet.symm

/-- A call of `send_command` throws. -/
theorem tracked_userThrows (tracked : Tracked env sessions) {manager : State τ κ}
    (same : Aside sessions.threads.manager manager) (call : Nat)
    (running : sessions.threads.user.call = some call) :
    Tracked env
      { threads := { sessions.threads with manager := manager, user := .idle }
        first := sessions.first
        failed := sessions.failed ++ [call] } := by
  have moved := tracked.aside same
  refine ⟨?_, moved.issued, moved.silent, ?_, fun id absurdity => by contradiction,
    fun id absurdity => by contradiction, fun id absurdity => by contradiction,
    fun id absurdity => by contradiction, moved.exclusive, moved.retried, moved.held⟩
  · intro id cmd outstanding
    have other : id ≠ call := by
      rintro rfl
      exact outstanding.unfailed (List.mem_append_right _ List.mem_cons_self)
    rcases moved.known id cmd ⟨outstanding.recent, outstanding.written, outstanding.unreported,
      fun old => outstanding.unfailed (List.mem_append_left _ old)⟩ with ⟨cb, writing⟩ | pending
    · have position : sessions.threads.user = .written id cmd cb := writing
      rw [position] at running
      exact absurd (Option.some.inj running) other
    · exact .inr pending
  · intro id inside
    rcases List.mem_append.mp inside with old | new
    · exact moved.failed id old
    · rw [List.mem_singleton.mp new]
      exact moved.called call running

/-- A call of `send_command` begins. -/
theorem tracked_sendCommand (tracked : Tracked env sessions) (type : UInt16) (data : Bytes)
    (cb : κ) (timeout : Nat) (idle : sessions.threads.user = .idle) :
    Tracked env
      ((sessions.withManager (sessions.threads.manager.withFields
        (sessions.threads.manager.toFields.withCmdTimer timeout))).withUser
          (.armed sessions.threads.manager.timeoutQueue.nextId type data cb)) := by
  have armed : Aside sessions.threads.manager
      (sessions.threads.manager.withFields
        (sessions.threads.manager.toFields.withCmdTimer timeout)) :=
    ⟨rfl, Nat.le_succ _, fun _ => rfl⟩
  have moved := tracked.aside armed
  refine ⟨?_, moved.issued, moved.silent, moved.failed, ?_, ?_, ?_, ?_, moved.exclusive,
    moved.retried, moved.held⟩
  · intro id cmd outstanding
    refine .inr ((moved.known id cmd ⟨outstanding.recent, outstanding.written,
      outstanding.unreported, outstanding.unfailed⟩).resolve_left ?_)
    rintro ⟨cb, writing⟩
    have position : sessions.threads.user = .written id cmd cb := writing
    rw [idle] at position
    contradiction
  · intro id inside
    obtain rfl := Option.some.inj inside
    exact Nat.lt_succ_self _
  · intro id inside key keyIn
    obtain rfl := Option.some.inj inside
    exact Nat.ne_of_lt (tracked.issued key keyIn)
  · intro id inside failed
    obtain rfl := Option.some.inj inside
    exact Nat.lt_irrefl _ (tracked.failed _ failed)
  · intro id inside
    obtain rfl := Option.some.inj inside
    exact tracked.silent _ (Nat.le_refl _)

/-- What is about a command once it is written. -/
theorem about_write (tracked : Tracked env sessions) {id : Nat} {cmd : Packet} {cb : κ}
    (position : sessions.threads.user = .made id cmd cb) :
    (sessions.threads.manager.sent env ⟨cmd, some id⟩).about id =
      if env.attached then [.written ⟨cmd, some id⟩] else [] := by
  have nothing : sessions.threads.manager.about id = [] := by
    rw [tracked.writes id (by rw [position]; rfl), position]
    rfl
  by_cases attached : env.attached = true
  · rw [about_sent_self env _ cmd id attached, nothing, if_pos attached]
    rfl
  · rw [State.sent, if_neg attached, if_neg attached]
    exact nothing

/-- A command that is outstanding once another is written is that one or was pending before. -/
theorem known_write (tracked : Tracked env sessions) {id : Nat} {cmd : Packet} {cb : κ}
    (position : sessions.threads.user = .made id cmd cb) (other : Nat) (made : Packet)
    (outstanding : ((sessions.withManager (sessions.threads.manager.sent env
      ⟨cmd, some id⟩)).withUser (.written id cmd cb)).Outstanding other made) :
    (∃ cb', UserThread.written id cmd cb = .written other made cb') ∨
      (other, made.id) ∈ sessions.threads.manager.toFields.keys := by
  have written := (written_mem_about _ other made).mpr outstanding.written
  by_cases same : other = id
  · subst same
    change _ ∈ (sessions.threads.manager.sent env ⟨cmd, some other⟩).about other at written
    rw [about_write tracked position] at written
    split at written
    · have message := List.mem_singleton.mp written
      cases message
      exact .inl ⟨cb, rfl⟩
    · contradiction
  · change _ ∈ (sessions.threads.manager.sent env ⟨cmd, some id⟩).about other at written
    rw [about_sent env _ cmd id other (Ne.symm same), written_mem_about] at written
    have before : sessions.Outstanding other made := by
      refine ⟨outstanding.recent, written, ?_, outstanding.unfailed⟩
      intro called given
      refine outstanding.unreported called ?_
      change _ ∈ (sessions.threads.manager.sent env ⟨cmd, some id⟩).outputs
      rw [State.outputs_sent]
      exact List.mem_append_left _ given
    rcases tracked.known other made before with ⟨_, writing⟩ | pending
    · rw [position] at writing
      contradiction
    · exact .inr pending

/-- A command is written. -/
theorem tracked_write (tracked : Tracked env sessions) {id : Nat} {cmd : Packet} {cb : κ}
    (position : sessions.threads.user = .made id cmd cb) :
    Tracked env ((sessions.withManager (sessions.threads.manager.sent env ⟨cmd, some id⟩)).withUser
      (.written id cmd cb)) := by
  have call : sessions.threads.user.call = some id := by rw [position]; rfl
  have fields : (sessions.threads.manager.sent env ⟨cmd, some id⟩).toFields =
      sessions.threads.manager.toFields := State.toFields_sent _ _ _
  refine ⟨?_, ?_, ?_, ?_, ?_, ?_, ?_, ?_, tracked.exclusive, ?_, ?_⟩
  · intro other made outstanding
    refine (known_write tracked position other made outstanding).imp_right fun pending => ?_
    change _ ∈ (sessions.threads.manager.sent env ⟨cmd, some id⟩).toFields.keys
    rw [fields]
    exact pending
  · intro key inside
    change key ∈ (sessions.threads.manager.sent env ⟨cmd, some id⟩).toFields.keys at inside
    change key.1 < (sessions.threads.manager.sent env ⟨cmd, some id⟩).toFields.timeoutQueue.nextId
    rw [fields] at inside ⊢
    exact tracked.issued key inside
  · intro other later
    change (sessions.threads.manager.sent env ⟨cmd, some id⟩).toFields.timeoutQueue.nextId ≤ other
      at later
    rw [fields] at later
    have different : id ≠ other := Nat.ne_of_lt (Nat.lt_of_lt_of_le (tracked.called id call) later)
    exact (about_sent env _ cmd id other different).trans (tracked.silent other later)
  · intro other inside
    change other < (sessions.threads.manager.sent env ⟨cmd, some id⟩).toFields.timeoutQueue.nextId
    rw [fields]
    exact tracked.failed other inside
  · intro other inside
    obtain rfl := Option.some.inj inside
    change id < (sessions.threads.manager.sent env ⟨cmd, some id⟩).toFields.timeoutQueue.nextId
    rw [fields]
    exact tracked.called id call
  · intro other inside key keyIn
    obtain rfl := Option.some.inj inside
    change key ∈ (sessions.threads.manager.sent env ⟨cmd, some id⟩).toFields.keys at keyIn
    rw [fields] at keyIn
    exact tracked.absent id call key keyIn
  · intro other inside
    obtain rfl := Option.some.inj inside
    exact tracked.unfailed id call
  · intro other inside
    obtain rfl := Option.some.inj inside
    exact about_write tracked position
  · intro request inside
    change _ ∈ (sessions.threads.manager.sent env ⟨cmd, some id⟩).toFields.keys
    rw [fields]
    exact tracked.retried request inside
  · intro request inside key keyIn named
    change key ∈ (sessions.threads.manager.sent env ⟨cmd, some id⟩).toFields.keys at keyIn
    rw [fields] at keyIn
    obtain ⟨called, given, same⟩ := tracked.held request inside key keyIn named
    refine ⟨called, ?_, same⟩
    change _ ∈ (sessions.threads.manager.sent env ⟨cmd, some id⟩).outputs
    rw [State.outputs_sent]
    exact List.mem_append_left _ given

/-- A request is inserted. -/
theorem tracked_insert (tracked : Tracked env sessions) {id : Nat} {cmd : Packet} {cb : κ}
    (position : sessions.threads.user = .written id cmd cb)
    (free : sessions.threads.protocol = .idle) {requests : RequestSet κ}
    (inserted : sessions.threads.manager.requests.insert { id := id, command := cmd, cb := cb } =
      some requests) :
    Tracked env ((sessions.withManager (sessions.threads.manager.withFields
      { sessions.threads.manager.toFields with requests := requests })).withUser .idle) := by
  obtain ⟨-, -, entries⟩ := (TwoIndex.insert_eq_some_iff _ _ _).mp inserted
  have keys : ∀ key, key ∈ Fields.keys { sessions.threads.manager.toFields with
      requests := requests } ↔ key = (id, cmd.id) ∨ key ∈ sessions.threads.manager.keys := by
    intro key
    unfold Fields.keys
    dsimp only
    rw [entries, List.map_cons, List.mem_cons]
    rfl
  have call : sessions.threads.user.call = some id := by rw [position]; rfl
  refine ⟨?_, ?_, tracked.silent, tracked.failed, fun id absurdity => by contradiction,
    fun id absurdity => by contradiction, fun id absurdity => by contradiction,
    fun id absurdity => by contradiction, tracked.exclusive, ?_, ?_⟩
  · intro other made outstanding
    refine .inr ((keys _).mpr ?_)
    rcases tracked.known other made ⟨outstanding.recent, outstanding.written,
      outstanding.unreported, outstanding.unfailed⟩ with ⟨cb, writing⟩ | pending
    · rw [position] at writing
      cases writing
      exact .inl rfl
    · exact .inr pending
  · intro key inside
    rcases (keys key).mp inside with rfl | old
    · exact tracked.called id call
    · exact tracked.issued key old
  · exact fun request inside => (keys _).mpr (.inr (tracked.retried request inside))
  · intro request inside
    have position : request ∈ sessions.threads.protocol.request := inside
    rw [free] at position
    contradiction

/-- The next statement of `send_command`. -/
theorem tracked_user (tracked : Tracked env sessions)
    (free : sessions.threads.userNeedsMutex = true → sessions.threads.mutexFree = true)
    {statement : Action τ κ (UserThread κ)}
    (next : userStatement env sessions.threads.user = some statement) :
    Tracked env (sessions.userDoes statement) := by
  unfold Sessions.userDoes
  cases position : sessions.threads.user with
  | idle =>
    rw [position] at next
    contradiction
  | armed id type data cb =>
    rw [position] at next
    cases next
    rw [bind_apply, resetKeepaliveMngt_apply]
    dsimp only [pure_apply]
    have reset : Aside sessions.threads.manager
        (sessions.threads.manager.withFields sessions.threads.manager.refreshed) :=
      Mild.aside (Mild.refreshed sessions.threads.manager.toFields) fun _ => rfl
    exact tracked_userMoves (tracked.aside reset) (.refreshed id type data cb)
      (congrArg UserThread.call position).symm rfl (congrArg (UserThread.writes env) position)
      fun other cmd cb writing => by
        have clash := position.symm.trans writing
        contradiction
  | refreshed id type data cb =>
    have call : sessions.threads.user.call = some id := by rw [position]; rfl
    have numbered : Aside sessions.threads.manager
        (sessions.threads.manager.withFields sessions.threads.manager.withNextId) :=
      ⟨rfl, Nat.le_refl _, fun _ => rfl⟩
    rw [position] at next
    cases next
    rw [bind_apply, nextPacketId_apply]
    dsimp only
    cases making : Packet.makeCommand env.raw (sessions.threads.manager.packetId + 1) type data with
    | error error => exact tracked_userThrows tracked numbered id call
    | ok cmd =>
      exact tracked_userMoves (tracked.aside numbered) (.made id cmd cb)
        (congrArg UserThread.call position).symm rfl (congrArg (UserThread.writes env) position)
        fun other cmd cb writing => by
          have clash := position.symm.trans writing
          contradiction
  | made id cmd cb =>
    have call : sessions.threads.user.call = some id := by rw [position]; rfl
    have making := position
    rw [position] at next
    cases next
    rw [bind_apply]
    cases outcome : write env ⟨cmd, some id⟩ sessions.threads.manager with
    | ok value manager =>
      obtain ⟨-, rfl⟩ := (write_eq_ok_iff _ _ _ _ _).mp outcome
      exact tracked_write tracked making
    | error error manager =>
      exact tracked_userThrows tracked (aside_of_refused outcome) id call
  | written id cmd cb =>
    have call : sessions.threads.user.call = some id := by rw [position]; rfl
    have writing := position
    have owner : sessions.threads.protocol = .idle := by
      have open' : sessions.threads.mutexFree = true := by
        refine free ?_
        unfold Threads.userNeedsMutex
        rw [position]
      exact ProtocolThread.eq_idle ((Threads.mutexFree_iff _).mp open').2
    rw [position] at next
    cases next
    rw [bind_apply]
    cases outcome : insertRequest { id := id, command := cmd, cb := cb }
        sessions.threads.manager with
    | ok value manager =>
      obtain ⟨requests, inserted, rfl⟩ := (insertRequest_eq_ok_iff _ _ _ _).mp outcome
      exact tracked_insert tracked writing owner inserted
    | error error manager =>
      rw [insertRequest_eq_error outcome]
      exact tracked_userThrows tracked (.refl _) id call

end User

/-! ## Every order of the threads -/

section Orders

variable {env : Environment τ κ} {sessions : Sessions τ κ}

/-- The manager is started. -/
theorem tracked_start (tracked : Tracked env sessions)
    (protocol : sessions.threads.protocol = .idle)
    (timer : sessions.threads.timer = .idle) :
    Tracked env
      { sessions with
        threads := { sessions.threads with manager := after (start sessions.threads.manager) }
        first := if sessions.threads.manager.running then sessions.first
          else sessions.threads.manager.timeoutQueue.nextId } := by
  by_cases running : sessions.threads.manager.running = true
  · rw [start_running _ running, if_pos running]
    exact tracked
  · rw [start_apply _ (Bool.eq_false_iff.mpr running), if_neg running]
    refine ⟨?_, fun key absurdity => by contradiction, tracked.silent, tracked.failed,
      tracked.called, fun id inside key absurdity => by contradiction, tracked.unfailed,
      tracked.writes, tracked.exclusive, ?_, ?_⟩
    · -- a command of the session would have an identifier still to be issued
      intro id cmd outstanding
      have written := (written_mem_about sessions.threads.manager id cmd).mpr outstanding.written
      rw [tracked.silent id outstanding.recent] at written
      contradiction
    · intro request inside
      have position : request ∈ sessions.threads.timer.request := inside
      rw [timer] at position
      contradiction
    · intro request inside
      have position : request ∈ sessions.threads.protocol.request := inside
      rw [protocol] at position
      contradiction

/-- A move of another thread, or of the transport, is one of the threads. -/
theorem Sessions.step_eq (env : Environment τ κ) (sessions next : Sessions τ κ) (move : Move τ κ)
    (start : move ≠ .start) (send : move ≠ .send)
    (taken : sessions.step env move = some next) :
    ∃ threads, sessions.threads.step env move = some threads ∧
      next = { sessions with threads := threads } := by
  cases move with
  | start => contradiction
  | send => contradiction
  | transport transport =>
    cases taken
    exact ⟨_, rfl, rfl⟩
  | _ =>
    obtain ⟨threads, moved, rfl⟩ := Option.map_eq_some_iff.mp taken
    exact ⟨threads, moved, rfl⟩

/-- Every move keeps the commands tied to the threads. -/
theorem tracked_step (tracked : Tracked env sessions) {move : Move τ κ} {next : Sessions τ κ}
    (taken : sessions.step env move = some next) : Tracked env next := by
  by_cases start : move = .start
  · subst start
    obtain ⟨threads, moved, rfl⟩ := Option.map_eq_some_iff.mp taken
    unfold Threads.step at moved
    dsimp only at moved
    split at moved
    · next protocol timer =>
      cases moved
      exact tracked_start tracked protocol timer
    · contradiction
  by_cases send : move = .send
  · subst send
    unfold Sessions.step at taken
    dsimp only at taken
    split at taken
    · contradiction
    · next allowed =>
      obtain ⟨statement, found, rfl⟩ := Option.map_eq_some_iff.mp taken
      refine tracked_user tracked ?_ found
      intro needs
      by_contra blocked
      exact allowed ⟨needs, blocked⟩
  obtain ⟨threads, moved, rfl⟩ := Sessions.step_eq env sessions next move start send taken
  unfold Threads.step at moved
  cases move with
  | start => contradiction
  | send => contradiction
  | take batch =>
    dsimp only at moved
    split at moved
    · split at moved
      · cases moved
        refine tracked.timerDoes_then ?_ (.calling batch) rfl fun absurdity => by contradiction
        rw [takeBatch_apply]
        exact Mild.aside (Mild.ticked sessions.threads.manager.toFields) fun _ => rfl
      · contradiction
    · contradiction
  | timer =>
    dsimp only at moved
    split at moved
    · contradiction
    · next allowed =>
      obtain ⟨statement, found, rfl⟩ := Option.map_eq_some_iff.mp moved
      refine tracked_timer tracked ?_ found
      intro needs
      by_contra blocked
      exact allowed ⟨needs, blocked⟩
  | ackCommand packet =>
    dsimp only at moved
    split at moved
    · next idle =>
      split at moved
      · next free =>
        cases moved
        exact tracked_ackLookUp tracked packet idle ((Threads.mutexFree_iff _).mp free).1
      · contradiction
    · contradiction
  | ack =>
    obtain ⟨statement, found, rfl⟩ := Option.map_eq_some_iff.mp moved
    exact tracked_ack tracked found
  | protocol event =>
    dsimp only at moved
    split at moved
    · split at moved
      · next other =>
        cases moved
        exact tracked.aside (perform_aside env _ event other)
      · contradiction
    · contradiction
  | sendCommand type data cb timeout =>
    dsimp only at moved
    split at moved
    · next idle =>
      cases moved
      exact tracked_sendCommand tracked type data cb timeout idle
    · contradiction
  | transport transport =>
    cases moved
    exact tracked.aside ⟨rfl, Nat.le_refl _, fun _ => rfl⟩

/-- In every run the commands stay tied to the threads. -/
theorem tracked_run {transport : τ} {moves : List (Move τ κ)} {finish : Sessions τ κ}
    (run : Run (Steps (Sessions.step env)) (Sessions.initial transport) moves finish) :
    Tracked env finish :=
  run.invariant (fun _ _ _ tracked taken => tracked_step tracked taken)
    (tracked_initial env transport)

/-- A step of an ack. -/
theorem step_ackCommand {packet : Packet} {next : Sessions τ κ}
    (taken : sessions.step env (.ackCommand packet) = some next) :
    next.threads.manager = after (ackLookUp env packet sessions.threads.manager) := by
  obtain ⟨threads, moved, rfl⟩ := Sessions.step_eq env sessions next _ (by simp) (by simp) taken
  unfold Threads.step at moved
  dsimp only at moved
  split at moved
  · split at moved
    · cases moved
      unfold Threads.protocolDoes
      cases ackLookUp env packet sessions.threads.manager with
      | ok protocol manager => rfl
      | error error manager => rfl
    · contradiction
  · contradiction

/-- An ack answers the outstanding command it names exactly when it is not processed between the
write and the insertion. -/
theorem answers_iff_patient (tracked : Tracked env sessions) {move : Move τ κ}
    {next : Sessions τ κ} (taken : sessions.step env move = some next) :
    sessions.Answers move next ↔ sessions.Patient env move := by
  constructor
  · rintro answers packet id cmd cb rfl position attached recent named
    have call : sessions.threads.user.call = some id := by rw [position]; rfl
    have about : sessions.threads.manager.about id = [.written ⟨cmd, some id⟩] := by
      rw [tracked.writes id call, position, UserThread.writes, if_pos attached]
    have outstanding : sessions.Outstanding id cmd := by
      refine ⟨recent, ?_, ?_, tracked.unfailed id call⟩
      · rw [← written_mem_about, about]
        exact List.mem_singleton_self _
      · rintro called given rfl
        rw [← called_mem_about, about] at given
        have absurdity := List.mem_singleton.mp given
        contradiction
    obtain ⟨called, given, same, -⟩ := answers packet id cmd rfl outstanding named
    rw [step_ackCommand taken] at given
    -- the request is not there yet: the ack finds another or none
    by_cases present : ∃ found, sessions.threads.manager.requests.findSecond cmd.id = some found
    · obtain ⟨found, search⟩ := present
      have inside := ((TwoIndex.findSecond_eq_some_iff _ _ _).mp search).1
      have told : (after (ackLookUp env packet sessions.threads.manager)).outputs =
          sessions.threads.manager.outputs ++
            [.called { found with status := .fulfilled, ack := some packet }] := by
        rw [ackLookUp_found env named search]
        split <;> rfl
      rw [told, List.append_cancel_left_eq, List.cons.injEq] at given
      obtain ⟨rfl⟩ := Output.called.inj given.1
      exact tracked.absent id call _ ((Fields.mem_keys _ _).mpr ⟨found, inside, rfl⟩) same
    · obtain ⟨error, refused⟩ := ackLookUp_refused env packet
          sessions.threads.manager (by
        intro other naming
        obtain rfl := Except.ok.inj (named.symm.trans naming)
        cases search : sessions.threads.manager.requests.findSecond cmd.id with
        | none => rfl
        | some found => exact absurd ⟨found, search⟩ present)
      rw [refused] at given
      have lengths := congrArg List.length given
      simp at lengths
  · rintro patient packet id cmd rfl outstanding named
    have pending : (id, cmd.id) ∈ sessions.threads.manager.keys := by
      refine (tracked.known id cmd outstanding).resolve_left ?_
      rintro ⟨cb, position⟩
      have call : sessions.threads.user.call = some id := by rw [position]; rfl
      by_cases attached : env.attached = true
      · exact patient packet id cmd cb rfl position attached outstanding.recent named
      · have written := (written_mem_about _ id cmd).mpr outstanding.written
        rw [tracked.writes id call, position, UserThread.writes, if_neg attached] at written
        contradiction
    obtain ⟨found, inside, same⟩ := (Fields.mem_keys _ _).mp pending
    obtain ⟨rfl, commandId⟩ := Prod.mk.inj same
    have search : sessions.threads.manager.requests.findSecond cmd.id = some found :=
      (TwoIndex.findSecond_eq_some_iff _ _ _).mpr ⟨inside, commandId⟩
    refine ⟨{ found with status := .fulfilled, ack := some packet }, ?_, rfl, rfl, rfl⟩
    rw [step_ackCommand taken, ackLookUp_found env named search]
    split <;> rfl

/-- In every run of the threads over any number of sessions, every ack that names an outstanding
command fulfils its request exactly when no ack is processed between the write of the command it
names and the insertion of its request. -/
theorem acks_answered_iff (env : Environment τ κ) (transport : τ) (moves : List (Move τ κ))
    (finish : Sessions τ κ) :
    Run (fun sessions move next => Steps (Sessions.step env) sessions move next ∧
        sessions.Answers move next) (Sessions.initial transport) moves finish ↔
      Run (Guarded (Sessions.Patient env) (Steps (Sessions.step env)))
        (Sessions.initial transport) moves finish := by
  constructor
  · intro run
    refine run.mono_of (Tracked env) ?_ (tracked_initial env transport)
    rintro sessions move next tracked ⟨taken, answers⟩
    exact ⟨⟨(answers_iff_patient tracked taken).mp answers, taken⟩, tracked_step tracked taken⟩
  · intro run
    refine run.mono_of (Tracked env) ?_ (tracked_initial env transport)
    rintro sessions move next tracked ⟨patient, taken⟩
    exact ⟨⟨taken, (answers_iff_patient tracked taken).mpr patient⟩, tracked_step tracked taken⟩

/-- A command of one byte is sent, up to its write. -/
def justWritten : List (Move Unit Unit) :=
  [.start, .sendCommand 1 [0] () commandTimeout, .send, .send, .send]

/-- The ids of the request `send_command` is about to insert. -/
def UserThread.inserts : UserThread κ → Option (Nat × UInt16)
  | written id cmd _ => some (id, cmd.id)
  | _ => none

/-- The peer answers before the request is inserted: the ack finds no request, and nothing is given
out. -/
theorem firstAck_unanswered :
    ∃ sessions next,
      Run (Steps (Sessions.step quietEnvironment)) (Sessions.initial ()) justWritten sessions ∧
      sessions.step quietEnvironment (.ackCommand firstAck) = some next ∧
      ¬ sessions.Answers (.ackCommand firstAck) next ∧
      next.threads.manager.outputs.length = sessions.threads.manager.outputs.length := by
  have position : (execute (Sessions.step quietEnvironment) (Sessions.initial ())
      justWritten).map (fun sessions =>
        (sessions.first, sessions.threads.user.inserts)) = some (0, some (0, 1)) := by
    decide +kernel
  have silence : (execute (Sessions.step quietEnvironment) (Sessions.initial ())
      justWritten).map (fun sessions =>
        (sessions.step quietEnvironment (.ackCommand firstAck)).map fun next =>
          decide (next.threads.manager.outputs.length =
            sessions.threads.manager.outputs.length)) = some (some true) := by
    decide +kernel
  have named : ackedId firstAck = .ok 1 := by
    obtain ⟨ack, made, -⟩ := Packet.makeCmdAck_roundTrips .cleared .cleared 1 1 1
    have same : firstAck = ack := by
      unfold firstAck
      rw [made]
      rfl
    rw [same]
    exact ackedId_makeCmdAck _ _ _ _ _ made
  obtain ⟨sessions, executed, known⟩ := Option.map_eq_some_iff.mp position
  rw [executed, Option.map_some, Option.some.injEq] at silence
  obtain ⟨next, taken, same⟩ := Option.map_eq_some_iff.mp silence
  have run := (execute_eq_some_iff _ _ _ _).mp executed
  refine ⟨sessions, next, run, taken, ?_, of_decide_eq_true same⟩
  rw [answers_iff_patient (tracked_run run) taken]
  intro patient
  obtain ⟨first, user⟩ := Prod.mk.inj known
  unfold UserThread.inserts at user
  split at user
  · next id cmd cb writing =>
    obtain ⟨rfl, numbered⟩ := Prod.mk.inj (Option.some.inj user)
    refine patient firstAck 0 cmd cb rfl writing rfl (Nat.le_of_eq first) ?_
    rw [named, numbered]
  · contradiction

end Orders

end Hdcp.Master
