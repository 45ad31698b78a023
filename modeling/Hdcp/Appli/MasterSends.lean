import Hdcp.Appli.MasterGreeting
import Hdcp.Appli.Weave

/-!
# What an act of the master does to its queue

On queues that never fail an act takes a packet id, writes the packet of one, writes a command once
more, clears the queues or leaves them. A packet id that a thread took and has not written yet is
held by it.
-/

namespace Hdcp.Appli.Master

open Base
open Hdcp.Master hiding State Event

variable {κ ι : Type}

/-- The thread of the request manager that executes a statement in an act. -/
def Act.thread {τ : Type} : Act τ κ ι → Option (Thread ι)
  | .protocol => some .protocol
  | .timer => some .timer
  | .user caller => some (.user caller)
  | _ => none

namespace Host

variable {τ : Type}

/-- The packet id a thread took and has not written yet. -/
def held (host : Host τ κ ι) : Thread ι → Option UInt16
  | .timer => host.timer.held
  | .protocol => host.place.held
  | .user user => (host.users user).held

/-- The next statement of a thread takes a packet id. -/
def takes (host : Host τ κ ι) : Thread ι → Bool
  | .timer => host.timer.takes
  | .protocol => host.place.takes
  | .user user => (host.users user).takes

/-- The packet a thread is about to write can be made. -/
def Makes (raw : Packet) (host : Host τ κ ι) : Thread ι → Prop
  | .timer => host.timer.Makes raw
  | .protocol => host.place.Makes raw
  | .user user => (host.users user).Makes raw

/-- `write_queue_`. -/
def queue (host : Host Queues κ ι) : List Message := host.manager.transport.writeQueue

end Host

/-- What an act does to the packet ids, the queue and the packets written. -/
inductive Sends [DecidableEq ι] (raw : Packet) (host : Host Queues κ ι) (act : Act Queues κ ι)
    (next : Host Queues κ ι) : Prop where
  /-- Nothing. -/
  | keeps (held : next.held = host.held) (number : next.manager.packetId = host.manager.packetId)
      (queue : next.queue = host.queue)
      (written : writes next.manager.outputs = writes host.manager.outputs)
  /-- A thread takes an id. -/
  | takes (thread : Thread ι) (acts : act.thread = some thread) (takes : host.takes thread = true)
      (free : host.held thread = none)
      (held : next.held = Function.update host.held thread (some next.manager.packetId))
      (number : next.manager.packetId = host.manager.packetId + 1) (queue : next.queue = host.queue)
      (written : writes next.manager.outputs = writes host.manager.outputs)
  /-- A thread writes the packet of the id it holds. -/
  | writes (thread : Thread ι) (message : Message) (acts : act.thread = some thread)
      (holds : host.held thread = some message.packet.id)
      (held : next.held = Function.update host.held thread none)
      (number : next.manager.packetId = host.manager.packetId)
      (queue : next.queue = host.queue ++ [message])
      (written : writes next.manager.outputs = writes host.manager.outputs ++ [message])
      (hip : message.packet.type = PacketType.hip.code →
        next.mark = (Hdcp.Master.writes host.manager.outputs).length)
  /-- The timer thread writes a command once more. -/
  | repeats (message : Message) (acts : act = .timer)
      (repeating : host.timer.repeats = some message.packet) (held : next.held = host.held)
      (number : next.manager.packetId = host.manager.packetId)
      (queue : next.queue = host.queue ++ [message])
      (written : writes next.manager.outputs = writes host.manager.outputs ++ [message])
  /-- The packet of the id a thread holds cannot be made. -/
  | unmade (thread : Thread ι) (id : UInt16) (acts : act.thread = some thread)
      (holds : host.held thread = some id)
        (held : next.held = Function.update host.held thread none)
      (number : next.manager.packetId = host.manager.packetId) (queue : next.queue = host.queue)
      (written : writes next.manager.outputs = writes host.manager.outputs)
      (fails : ¬ host.Makes raw thread)
  /-- The queues are cleared. -/
  | clears (clears : host.clears = true) (held : next.held = host.held)
      (number : next.manager.packetId = host.manager.packetId) (queue : next.queue = [])
      (written : writes next.manager.outputs = writes host.manager.outputs)
      (mark : next.mark = (Hdcp.Master.writes host.manager.outputs).length)
  /-- The packet ids begin again. -/
  | restarts (rest : List (Task κ)) (script : host.script = some (.manage .startNumber :: rest))
      (held : next.held = host.held) (number : next.manager.packetId = 0)
      (queue : next.queue = host.queue)
      (written : writes next.manager.outputs = writes host.manager.outputs)

namespace Host

section Places

variable {τ : Type} {setup : Setup τ κ} {host next : Host τ κ ι}

/-- Where the protocol thread is once a statement of an operation returned. -/
theorem place_remaining {place : ProtocolStep κ} {rest : List (Task κ)}
    (script : next.script = some (remaining place ++ rest))
    (rests : ∀ other later, rest ≠ .manage other :: later) : next.place = place := by
  unfold Host.place
  rw [script]
  cases place with
  | idle =>
    cases rest with
    | nil => rfl
    | cons task later =>
      cases task with
      | manage other => exact absurd rfl (rests other later)
      | _ => rfl
  | _ => rfl

/-- A task that returns. -/
theorem performs_ok {task : Task κ} (rest : List (Task κ)) {more : List (Task κ)}
    {data : Data τ κ} (outcome : task.perform setup host.data = .ok more data) :
    (host.performs setup task rest).script = some (more ++ rest) ∧
      (host.performs setup task rest).manager = data.manager := by
  unfold performs
  rw [outcome]
  exact ⟨rfl, rfl⟩

/-- A task that throws. -/
theorem performs_error {task : Task κ} (rest : List (Task κ)) {error : Exn} {data : Data τ κ}
    (outcome : task.perform setup host.data = .error error data) :
    (host.performs setup task rest).script = none ∧
      (host.performs setup task rest).manager = data.manager := by
  rw [performs_manager]
  unfold performs
  rw [outcome]
  exact ⟨rfl, rfl⟩

/-- The protocol thread is in no operation before a task that is not of one. -/
theorem place_other {tasks : List (Task κ)} (script : next.script = some tasks)
    (head : ∀ other later, tasks ≠ .manage other :: later) : next.place = .idle := by
  unfold Host.place
  rw [script]
  cases tasks with
  | nil => rfl
  | cons task later =>
    cases task with
    | manage other => exact absurd rfl (head other later)
    | _ => rfl

/-- Behind a task of a script there is no operation that has begun. -/
theorem scripted_rest {state : State} {resting : Bool} {task : Task κ} {rest : List (Task κ)}
    (scripted : Scripted setup state resting (task :: rest)) (other : ProtocolStep κ)
    (later : List (Task κ)) : rest ≠ .manage other :: later := by
  generalize same : task :: rest = script at scripted
  cases scripted <;> cases same <;> exact nofun

variable [DecidableEq ι]

/-- What threads hold after one of them went on. -/
theorem held_update {thread : Thread ι} {later : Option UInt16}
    (others : ∀ other, other ≠ thread → next.held other = host.held other)
    (self : next.held thread = later) : next.held = Function.update host.held thread later := by
  funext other
  by_cases same : other = thread
  · rw [same, Function.update_self]
    exact self
  · rw [Function.update_of_ne same]
    exact others other same

/-- What the protocol thread holds at another place. -/
theorem held_protocol {later : Option UInt16} (timer : next.timer = host.timer)
    (users : next.users = host.users) (place : next.place.held = later) :
    next.held = Function.update host.held .protocol later := by
  refine held_update (fun other apart => ?_) place
  cases other with
  | timer => exact congrArg TimerStep.held timer
  | protocol => exact absurd rfl apart
  | user user => exact congrArg SendStep.held (congrFun users user)

omit [DecidableEq ι] in
/-- A script that stays leaves the protocol thread where it is. -/
theorem place_same (script : next.script = host.script) : next.place = host.place := by
  unfold Host.place
  rw [script]

/-- What the timer thread holds at another place. -/
theorem held_timer {later : Option UInt16} (script : next.script = host.script)
    (users : next.users = host.users) (timer : next.timer.held = later) :
    next.held = Function.update host.held .timer later := by
  refine held_update (fun other apart => ?_) timer
  cases other with
  | timer => exact absurd rfl apart
  | protocol => exact congrArg ProtocolStep.held (place_same script)
  | user user => exact congrArg SendStep.held (congrFun users user)

/-- What a user holds at another place. -/
theorem held_user {user : ι} {send : SendStep κ} (script : next.script = host.script)
    (timer : next.timer = host.timer) (users : next.users = Function.update host.users user send) :
    next.held = Function.update host.held (.user user) send.held := by
  refine held_update (fun other apart => ?_) ?_
  · cases other with
    | timer => exact congrArg TimerStep.held timer
    | protocol => exact congrArg ProtocolStep.held (place_same script)
    | user other =>
      have distinct : other ≠ user := fun same => apart (congrArg Thread.user same)
      change (next.users other).held = (host.users other).held
      rw [users, Function.update_of_ne distinct]
  · change (next.users user).held = send.held
    rw [users, Function.update_self]

end Places

section Steps

variable [DecidableEq ι] {raw : Packet} {host next : Host Queues κ ι} {act : Act Queues κ ι}

/-- A deed of a thread. -/
theorem sends_of_deed {env : Environment Queues κ} {thread : Thread ι}
    {commands identifies : Prop} {repeats : Option Packet} {before later : Option UInt16}
    (lossless : env.write = Queues.transport.write) (acts : act.thread = some thread)
    (deed : Deed env commands identifies (host.takes thread = true) repeats
      (host.Makes raw thread) host.manager next.manager before later)
    (holds : host.held thread = before) (held : next.held = Function.update host.held thread later)
    (marks : identifies → next.mark = (Hdcp.Master.writes host.manager.outputs).length)
    (again : ∀ packet, repeats = some packet → act = .timer ∧ host.timer.repeats = some packet) :
    Sends raw host act next := by
  have appended (message : Message) :
      (env.write host.manager.transport message).2.writeQueue = host.queue ++ [message] := by
    rw [lossless]
    rfl
  have still (free : host.held thread = none) :
      Function.update host.held thread none = host.held := by
    rw [← free, Function.update_eq_self]
  cases deed.traffic with
  | quiet number transport written =>
    exact .keeps (held.trans (still holds)) number (congrArg Queues.writeQueue transport) written
  | takes takes number transport written =>
    exact .takes thread acts takes holds held number (congrArg Queues.writeQueue transport) written
  | writes message number accepted transport written type hip =>
    refine .writes thread message acts holds held number ?_ written fun same => marks (hip same)
    exact (congrArg Queues.writeQueue transport).trans (appended message)
  | refused message number refused transport written =>
    rw [lossless] at refused
    exact absurd rfl refused
  | unmade id number transport written fails =>
    exact .unmade thread id acts holds held number (congrArg Queues.writeQueue transport) written
      fails
  | again commanding message repeating number transport written =>
    obtain ⟨timed, repeated⟩ := again _ repeating
    rcases written with ⟨refused, -⟩ | written
    · rw [lossless] at refused
      exact absurd rfl refused
    refine .repeats message timed repeated (held.trans (still holds)) number ?_ written
    exact (congrArg Queues.writeQueue transport).trans (appended message)

/-- What leaves the threads where they hold nothing, and the manager as it was. -/
theorem sends_of_same (timer : next.timer = host.timer) (users : next.users = host.users)
    (before : host.place.held = none) (later : next.place.held = none)
    (manager : next.manager = { host.manager with transport := next.manager.transport })
    (queue : next.queue = host.queue) : Sends raw host act next := by
  refine .keeps ?_ ?_ queue ?_
  · have free : host.held .protocol = none := before
    rw [held_protocol timer users later, ← free, Function.update_eq_self]
  · rw [manager]
  · rw [manager]

variable {parties : Parties κ} {task : Task κ} {rest : List (Task κ)}

/-- A task that leaves the manager as it was, its transport apart. -/
theorem sends_of_task (script : host.script = some (task :: rest))
    (outside : ∀ other, task ≠ .manage other)
    (rests : ∀ other later, rest ≠ .manage other :: later)
    (more : ∀ tasks data, task.perform parties.master host.data = .ok tasks data →
      ∀ other later, tasks ≠ .manage other :: later)
    (manager : ∃ transport, (after (task.perform parties.master host.data)).manager =
      { host.manager with transport := transport } ∧ transport.writeQueue = host.queue) :
    Sends parties.raw host act (host.performs parties.master task rest) := by
  obtain ⟨timer, users, -, -⟩ := host.performs_others parties.master task rest
  obtain ⟨transport, same, queue⟩ := manager
  have left := host.performs_manager parties.master task rest
  have idle : host.place = .idle := by
    refine place_other script fun other later head => ?_
    cases head
    exact outside other rfl
  refine sends_of_same timer users (by rw [idle]; rfl) ?_ ?_ ?_
  · cases outcome : task.perform parties.master host.data with
    | ok tasks data =>
      have place : (host.performs parties.master task rest).place = .idle := by
        refine place_other (performs_ok rest outcome).1 fun other later head => ?_
        cases tasks with
        | nil => exact rests other later head
        | cons first others =>
          cases head
          exact more _ _ outcome other others rfl
      rw [place]
      rfl
    | error error data =>
      rw [Sound.placed (performs_error rest outcome).1]
      rfl
  · rw [left, same]
  · unfold Host.queue
    rw [left, same]
    exact queue

/-- The begin of an operation of the request manager. -/
theorem sends_of_operate {operation : Operation}
    (script : host.script = some (.operate operation :: rest))
    (rests : ∀ other later, rest ≠ .manage other :: later) :
    Sends parties.raw host .protocol
      (host.performs parties.master (.operate operation) rest) := by
  obtain ⟨timer, users, -, -⟩ :=
    host.performs_others parties.master (.operate operation) rest
  have idle : host.place = .idle := place_other script fun other later head => by cases head
  have free : host.held .protocol = none := by
    change host.place.held = none
    rw [idle]
    rfl
  have performed := @perform_operate _ _ parties.master operation host.data
  by_cases stops : operation = .stop
  · subst stops
    by_cases running : host.data.manager.running = true
    · simp only [Operation.statement, bind_apply, get_apply, if_pos running, modify_apply,
        pure_apply] at performed
      obtain ⟨left, manager⟩ := performs_ok rest performed
      have place := place_remaining left rests
      refine .keeps ?_ (by rw [manager]; rfl) (by unfold queue; rw [manager]; rfl)
        (by rw [manager]; rfl)
      rw [held_protocol timer users (congrArg ProtocolStep.held place)]
      change Function.update host.held .protocol none = host.held
      rw [← free, Function.update_eq_self]
    · simp only [Operation.statement, bind_apply, get_apply, if_neg running, pure_apply]
        at performed
      obtain ⟨left, manager⟩ := performs_ok rest performed
      have place := place_remaining left rests
      refine .keeps ?_ (by rw [manager]; rfl) (by unfold queue; rw [manager]; rfl)
        (by rw [manager]; rfl)
      rw [held_protocol timer users (congrArg ProtocolStep.held place)]
      change Function.update host.held .protocol none = host.held
      rw [← free, Function.update_eq_self]
  · have does := @Operation.does _ _ parties.master.environment False False
      (host.takes .protocol = true) (host.Makes parties.raw .protocol) none operation stops
      host.data.manager
    cases outcome : operation.statement parties.master.environment host.data.manager with
    | ok place manager =>
      rw [outcome] at performed
      obtain ⟨left, same⟩ := performs_ok rest performed
      have deed := does.1 _ _ outcome
      rw [show manager = _ from same.symm] at deed
      have held := held_protocol timer users
        (congrArg ProtocolStep.held (place_remaining left rests))
      exact sends_of_deed rfl rfl deed free held False.elim fun _ none => by cases none
    | error error manager =>
      rw [outcome] at performed
      obtain ⟨left, same⟩ := performs_error rest performed
      have deed := does.2 _ _ outcome
      rw [show manager = _ from same.symm] at deed
      have held := held_protocol timer users (congrArg ProtocolStep.held (Sound.placed left))
      exact sends_of_deed rfl rfl deed free held False.elim fun _ none => by cases none

omit [DecidableEq ι] in
/-- The place of a script that is in an operation. -/
theorem place_manage {τ : Type} {host : Host τ κ ι} {place : ProtocolStep κ}
    {rest : List (Task κ)} (script : host.script = some (.manage place :: rest)) :
    host.place = place := by
  unfold Host.place
  rw [script]

/-- A statement of `start`. -/
theorem sends_of_starting {place : ProtocolStep κ}
    (script : host.script = some (.manage place :: rest))
    (rests : ∀ other later, rest ≠ .manage other :: later) (starting : place.starting = true) :
    Sends parties.raw host .protocol (host.performs parties.master (.manage place) rest) := by
  obtain ⟨timer, users, -, -⟩ :=
    host.performs_others parties.master (.manage place) rest
  have before := place_manage script
  have free : host.held .protocol = none := by
    change host.place.held = none
    rw [before]
    cases place <;> first | rfl | contradiction
  have held (next : ProtocolStep κ) (idle : next.held = none)
      (left : (host.performs parties.master (.manage place) rest).script =
        some (remaining next ++ rest)) :
      (host.performs parties.master (.manage place) rest).held = host.held := by
    have place := place_remaining left rests
    rw [held_protocol timer users (congrArg ProtocolStep.held place), idle, ← free,
      Function.update_eq_self]
  cases place with
  | startRequests => exact .keeps (held .startTimers rfl rfl) rfl rfl rfl
  | startTimers => exact .keeps (held .startNow rfl rfl) rfl rfl rfl
  | startNow => exact .keeps (held .startNumber rfl rfl) rfl rfl rfl
  | startNumber => exact .restarts rest script (held .startFlag rfl rfl) rfl rfl rfl
  | startFlag => exact .keeps (held .startRun rfl rfl) rfl rfl rfl
  | startRun => exact .keeps (held .idle rfl rfl) rfl rfl rfl
  | _ => contradiction

/-- A statement of another operation of the request manager. -/
theorem sends_of_manage {place : ProtocolStep κ}
    (script : host.script = some (.manage place :: rest))
    (rests : ∀ other later, rest ≠ .manage other :: later) :
    Sends parties.raw host .protocol (host.performs parties.master (.manage place) rest) := by
  by_cases starting : place.starting = true
  · exact sends_of_starting script rests starting
  obtain ⟨timer, users, -, mark⟩ :=
    host.performs_others parties.master (.manage place) rest
  have before := place_manage script
  have holds : host.held .protocol = place.held := congrArg ProtocolStep.held before
  have taking : (place.takes = true) = (host.takes .protocol = true) := by
    change (place.takes = true) = (host.place.takes = true)
    rw [before]
  have making : place.Makes parties.master.program.raw = host.Makes parties.raw .protocol := by
    change place.Makes parties.raw = host.place.Makes parties.raw
    rw [before]
  have marks (hip : place.identifies = true) :
      (host.performs parties.master (.manage place) rest).mark =
        (Hdcp.Master.writes host.manager.outputs).length := by
    rw [mark]
    cases place with
    | hipWrite packetId identification timeout => rfl
    | _ => contradiction
  have does := place.does parties.master.program rfl (Bool.eq_false_iff.mpr starting)
    host.data.manager
  have performed := @perform_manage _ _ parties.master place host.data
  cases outcome : place.statement parties.master.program host.data.manager with
  | ok next manager =>
    rw [outcome] at performed
    obtain ⟨left, same⟩ := performs_ok rest performed
    have deed := does.1 _ _ outcome
    rw [show manager = _ from same.symm, taking, making] at deed
    have held := held_protocol timer users
      (congrArg ProtocolStep.held (place_remaining left rests))
    exact sends_of_deed rfl rfl deed holds held marks fun _ none => by cases none
  | error error manager =>
    rw [outcome] at performed
    obtain ⟨left, same⟩ := performs_error rest performed
    have deed := does.2 _ _ outcome
    rw [show manager = _ from same.symm, taking, making] at deed
    have held := held_protocol timer users (congrArg ProtocolStep.held (Sound.placed left))
    exact sends_of_deed rfl rfl deed holds held marks fun _ none => by cases none

/-- What a packet read leaves to do is no operation that has begun. -/
theorem receive_more (state : State) (message : Message) (data last : Data Queues κ)
    (tasks : List (Task κ)) (received : receive state message data = .ok tasks last)
    (other : ProtocolStep κ) (later : List (Task κ)) : tasks ≠ .manage other :: later := by
  cases state with
  | init | disconnected =>
    cases received
    exact nofun
  | connecting =>
    rw [receive_connecting] at received
    split at received
    · cases received
      exact nofun
    · cases received
      exact nofun
  | connected =>
    obtain ⟨more, outcome, left⟩ := receive_connected message data
    rw [outcome] at received
    cases received
    rcases left with rfl | rfl | rfl | rfl <;> exact nofun

/-- A task of a handler. -/
theorem performs_sends (sound : host.Sound parties.master)
    (script : host.script = some (task :: rest)) :
    Sends parties.raw host .protocol (host.performs parties.master task rest) := by
  obtain ⟨resting, scripted, -⟩ := sound.scripted _ script
  have rests := fun other later => scripted_rest scripted other later
  have silent {task : Task κ} (script : host.script = some (task :: rest))
      (outside : ∀ other, task ≠ .manage other)
      (more : ∀ tasks data, task.perform parties.master host.data = .ok tasks data →
        ∀ other later, tasks ≠ .manage other :: later)
      (manager : (after (task.perform parties.master host.data)).manager = host.manager) :
      Sends parties.raw host .protocol (host.performs parties.master task rest) :=
    sends_of_task script outside rests more ⟨host.manager.transport, manager, rfl⟩
  cases task with
  | init | forget | resetAttempts | notifyDip =>
    refine silent script (fun other same => by cases same) ?_ rfl
    intro tasks data returned
    cases returned
    exact fun other later head => by cases head
  | clearQueues =>
    obtain ⟨timer, users, -, mark⟩ :=
      host.performs_others parties.master .clearQueues rest
    have idle : host.place = .idle := place_other script fun other later head => by cases head
    have later : (host.performs parties.master .clearQueues rest).place = .idle :=
      place_other rfl rests
    refine .clears ?_ ?_ rfl rfl rfl mark
    · unfold clears
      rw [script]
    · have free : host.held .protocol = none := congrArg ProtocolStep.held idle
      rw [held_protocol timer users (congrArg ProtocolStep.held later)]
      change Function.update host.held .protocol none = host.held
      rw [← free, Function.update_eq_self]
  | attempt =>
    obtain ⟨next, same, -, ⟨outcome, -⟩ | ⟨outcome, -⟩⟩ :=
      @perform_attempt _ _ parties.master host.data
    · refine silent script (fun other same => by cases same) ?_ (by rw [outcome]; exact same)
      intro tasks data returned
      rw [outcome] at returned
      cases returned
      exact fun other later head => by cases head
    · refine silent script (fun other same => by cases same) ?_ (by rw [outcome]; exact same)
      intro tasks data returned
      rw [outcome] at returned
      cases returned
      exact fun other later head => by cases head
  | operate operation => exact sends_of_operate script rests
  | manage place => exact sends_of_manage script rests
  | read state =>
    refine sends_of_task script (fun other same => by cases same) rests ?_
      ⟨_, read_manager state host.data, Queues.read_writeQueue _⟩
    intro tasks data returned
    rw [perform_read] at returned
    cases found : (parties.master.transport.read host.data.manager.transport).1 with
    | none =>
      rw [found] at returned
      cases returned
      exact fun other later head => by cases head
    | some message =>
      rw [found] at returned
      exact receive_more state message _ _ tasks returned
  | giveData message =>
    obtain ⟨delivered, -, outcome | ⟨error, outcome⟩⟩ :=
      @perform_giveData _ _ parties.master message host.data
    · refine silent script (fun other same => by cases same) ?_ (by rw [outcome]; rfl)
      intro tasks data returned
      rw [outcome] at returned
      cases returned
      exact fun other later head => by cases head
    · refine silent script (fun other same => by cases same) ?_ (by rw [outcome]; rfl)
      intro tasks data returned
      rw [outcome] at returned
      contradiction

/-- What an act of a master does to its queue, when the wire leaves its queues alone. -/
theorem step_sends (sound : host.Sound parties.master)
    (leaves : act.leaves host.manager.transport = true)
    (taken : host.step parties.master act = some next) : Sends parties.raw host act next := by
  have same {transport : Queues} (leaves : decide (transport = host.manager.transport) = true) :
      transport.writeQueue = host.queue := by
    rw [of_decide_eq_true leaves]
    rfl
  have elsewhere {next : Host Queues κ ι} (timer : next.timer = host.timer)
      (users : next.users = host.users) (before : host.place = .idle) (later : next.place = .idle)
      (manager : next.manager = host.manager) : Sends parties.raw host act next := by
    refine sends_of_same timer users (by rw [before]; rfl) (by rw [later]; rfl) ?_ ?_
    · rw [manager]
    · unfold queue
      rw [manager]
  cases step_acts taken with
  | returned script =>
    refine elsewhere rfl rfl ?_ rfl rfl
    exact place_other script fun other later head => by cases head
  | performed task rest script ready => exact performs_sends sound script
  | begun script alive first =>
    refine elsewhere rfl rfl (Sound.placed script) ?_ rfl
    refine place_other rfl fun other later => ?_
    cases host.state with
    | init =>
      intro head
      cases head
    | disconnected | connecting | connected =>
      rw [tasks]
      split
      · intro head
        cases head
      · intro head
        cases head
  | checked party script alive later wakes =>
    have counted : host.machine.nbLoop ≠ 0 := sound.counted (.inr later)
    refine elsewhere rfl rfl (Sound.placed script) (Sound.placed script) ?_
    cases wakes_verdict (wakeup_wakes parties.master wakes sound.calm) later counted with
    | stays current nbLoop awake data => exact congrArg Data.manager data
    | moves target entered manager received events route => exact manager
  | took batch idle running perm =>
    refine .keeps ?_ rfl rfl rfl
    funext thread
    cases thread with
    | timer =>
      change none = host.timer.held
      rw [idle]
      rfl
    | protocol => rfl
    | user user => rfl
  | timed manager timer goes =>
    have does := host.timer.does parties.master.program rfl host.manager
    have held := @held_timer κ ι Queues host (host.stirred manager timer host.users) _ timer.held
      rfl rfl rfl
    rcases goes with returned | ⟨error, thrown, rfl⟩
    · exact sends_of_deed rfl rfl (does.1 _ _ returned) rfl held False.elim
        fun _ repeats => ⟨rfl, repeats⟩
    · exact sends_of_deed rfl rfl (does.2 _ _ thrown) rfl held False.elim
        fun _ repeats => ⟨rfl, repeats⟩
  | called user type data cb connected idle =>
    have free : host.held (.user user) = none := congrArg SendStep.held idle
    have held := @held_user κ ι Queues host (host.stirred host.manager host.timer
      (Function.update host.users user (.begun ⟨type, data, cb, commandTimeout⟩))) _ user
      (.begun ⟨type, data, cb, commandTimeout⟩) rfl rfl rfl
    refine .keeps (held.trans ?_) rfl rfl rfl
    change Function.update host.held (.user user) none = host.held
    rw [← free, Function.update_eq_self]
  | uncalled user type data cb other => exact .keeps rfl rfl rfl rfl
  | used user manager send goes =>
    have does := @SendStep.does _ _ parties.master.environment False none rfl (host.users user)
      host.manager
    have held := @held_user κ ι Queues host
      (host.stirred manager host.timer (Function.update host.users user send)) _ user send
      rfl rfl rfl
    rcases goes with returned | ⟨error, thrown, rfl⟩
    · exact sends_of_deed rfl rfl (does.1 _ _ returned) rfl held False.elim
        fun _ none => by cases none
    · exact sends_of_deed rfl rfl (does.2 _ _ thrown) rfl held False.elim
        fun _ none => by cases none
  | signalled act events phase heard alive => exact .keeps rfl rfl rfl rfl
  | changed transport => exact .keeps rfl rfl (same leaves) rfl
  | joined transport script idle first => exact .keeps rfl rfl (same leaves) rfl
  | started transport stopped => exact .keeps rfl rfl (same leaves) rfl

end Steps

end Host

end Hdcp.Appli.Master
