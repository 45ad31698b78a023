import Hdcp.Appli.MasterEntries
import Hdcp.Appli.MasterThreads
import Hdcp.Master.Deeds

/-!
# What an act of the master can do

An act takes one of a few forms: the master's thread begins a handler, performs a task of it, leaves
it or makes a check; the timer thread or a user executes a statement; a call only raises an event.
The scripts the master's thread can be in are listed with it.
-/

namespace Hdcp.Appli.Master

open Base
open Hdcp.Master hiding State Event

variable {τ κ ι : Type}

/-! ## Checks -/

/-- What a check leads to: the machine stays in its state, or moves to another. -/
inductive Verdict (setup : Setup τ κ) (party next : Party τ κ) : Prop where
  /-- The state stays. -/
  | stays (current : next.machine.current = party.machine.current)
      (nbLoop : next.machine.nbLoop = party.machine.nbLoop)
      (awake : next.machine.waiting = false) (data : next.data = party.data)
      -- A DIP that was received is only passed over before the last check of state connecting.
      (heard : party.state = .connecting → next.machine.position = 0 →
        .dipReceived ∉ party.data.events)
  /-- The state moves. -/
  | moves (target : State) (entered : next.machine = .entered target)
      (manager : next.data.manager = party.data.manager)
      (received : next.data.receivedPacketId = party.data.receivedPacketId)
      (events : ∀ event ∈ next.data.events,
        event ∈ party.data.events ∨ event = .connectionAttempt)
      (route : party.state = .init ∧ target = .disconnected ∨
        party.state = .disconnected ∧ party.machine.nbLoop ≠ 0 ∧ target = .connecting ∨
        (party.state = .connecting ∨ party.state = .connected) ∧ target = .disconnected ∨
        party.state = .connecting ∧ target = .connected ∧ .dipReceived ∈ party.data.events)

/-- After a transition the events pending were pending before, the attempt's apart. -/
theorem transition_events {source target : State} {data : Data τ κ} {event : Event}
    (inside : event ∈ (transition source target data).events) :
    event ∈ data.events ∨ event = .connectionAttempt := by
  unfold transition at inside
  dsimp only at inside
  split at inside
  · exact (Finset.mem_insert.mp inside).symm
  · exact .inl inside

/-- A transition is a verdict. -/
theorem verdict_moves {setup : Setup τ κ} {party : Party τ κ} {source target : State}
    {data : Data τ κ} (manager : data.manager = party.data.manager)
    (received : data.receivedPacketId = party.data.receivedPacketId)
    (events : ∀ event ∈ data.events, event ∈ party.data.events)
    (route : party.state = .init ∧ target = .disconnected ∨
      party.state = .disconnected ∧ party.machine.nbLoop ≠ 0 ∧ target = .connecting ∨
      (party.state = .connecting ∨ party.state = .connected) ∧ target = .disconnected ∨
      party.state = .connecting ∧ target = .connected ∧ .dipReceived ∈ party.data.events) :
    Verdict setup party (.movedTo source target data) := by
  refine .moves target rfl manager received ?_ route
  intro event inside
  exact (transition_events inside).imp_left (events event)

/-- What a check leads to. -/
theorem wakes_verdict {setup : Setup τ κ} {party next : Party τ κ} (wakes : Wakes setup party next)
    (later : ¬ (party.machine.position = 0 ∧ party.machine.waiting = false))
    (begun : party.machine.nbLoop ≠ 0) : Verdict setup party next := by
  have fewer {data : Data τ κ} {gone : Event} (event : Event)
      (inside : event ∈ (data.without gone).events) : event ∈ data.events :=
    (Finset.mem_erase.mp inside).2
  cases wakes with
  | handled state nbLoop data returns => exact absurd ⟨rfl, rfl⟩ later
  | thrown state nbLoop data errc throws => exact absurd ⟨rfl, rfl⟩ later
  | waits nbLoop data => exact absurd ⟨rfl, rfl⟩ later
  | woken nbLoop data pending => exact .stays rfl rfl rfl rfl fun _ other => by contradiction
  | begun nbLoop data => exact verdict_moves rfl rfl (fun _ inside => inside) (.inl ⟨rfl, rfl⟩)
  | requested nbLoop data pending =>
    exact verdict_moves rfl rfl fewer (.inr (.inl ⟨rfl, begun, rfl⟩))
  | unrequested nbLoop data absent =>
    exact .stays rfl rfl rfl rfl fun connecting _ => by contradiction
  | closed state nbLoop data session isClosed =>
    exact verdict_moves rfl rfl (fun _ inside => inside) (.inr (.inr (.inl ⟨session, rfl⟩)))
  | stillOpen state nbLoop data session isOpen =>
    exact .stays rfl rfl rfl rfl fun _ other => by contradiction
  | dipTimeout nbLoop data pending exhausted =>
    exact verdict_moves rfl rfl fewer (.inr (.inr (.inl ⟨.inl rfl, rfl⟩)))
  | noDipTimeout nbLoop data left => exact .stays rfl rfl rfl rfl fun _ other => by contradiction
  | connected nbLoop data pending =>
    exact verdict_moves rfl rfl fewer (.inr (.inr (.inr ⟨rfl, rfl, pending⟩)))
  | notConnected nbLoop data absent => exact .stays rfl rfl rfl rfl fun _ _ => absent
  | kaTimeout nbLoop data pending =>
    exact verdict_moves rfl rfl fewer (.inr (.inr (.inl ⟨.inr rfl, rfl⟩)))
  | noKaTimeout nbLoop data absent => exact .stays rfl rfl rfl rfl fun _ other => by contradiction
  | dismissed nbLoop data pending =>
    exact verdict_moves rfl rfl fewer (.inr (.inr (.inl ⟨.inr rfl, rfl⟩)))
  | undismissed nbLoop data absent =>
    exact .stays rfl rfl rfl rfl fun connecting _ => by contradiction

/-! ## Acts -/

/-- The master with what another thread's statement left. -/
def Host.stirred (host : Host τ κ ι) (manager : Hdcp.Master.State τ κ) (timer : TimerStep κ)
    (users : ι → SendStep κ) : Host τ κ ι :=
  host.withCrew ⟨manager, timer, host.place, users⟩

/-- The manager once the timer thread took the batch of a tick. -/
def tickedManager (manager : Hdcp.Master.State τ κ) : Hdcp.Master.State τ κ :=
  { manager with
    now := manager.now + 1, timeoutQueue := manager.timeoutQueue.advance manager.now }

/-- What an act can do. -/
inductive Acts [DecidableEq ι] (setup : Setup τ κ) (host : Host τ κ ι) :
    Act τ κ ι → Host τ κ ι → Prop where
  /-- A handler returns. -/
  | returned (script : host.script = some []) : Acts setup host .protocol (host.returns setup)
  /-- A task of a handler is performed. -/
  | performed (task : Task κ) (rest : List (Task κ)) (script : host.script = some (task :: rest))
      (ready : host.crew.protocolReady = true) :
      Acts setup host .protocol (host.performs setup task rest)
  /-- A handler begins. -/
  | begun (script : host.script = none) (alive : host.phase ≠ .stopped)
      (first : host.machine.position = 0 ∧ host.machine.waiting = false) :
      Acts setup host .protocol host.begins
  /-- A check is made, or a wait ends. -/
  | checked (party : Party τ κ) (script : host.script = none) (alive : host.phase ≠ .stopped)
      (later : ¬ (host.machine.position = 0 ∧ host.machine.waiting = false))
      (wakes : host.party.wakeup setup = some party) :
      Acts setup host .protocol (host.withParty party)
  /-- The timer thread takes a batch. -/
  | took (batch : List (Timer TimerCallback)) (idle : host.timer = .idle)
      (running : host.manager.running = true)
      (perm : batch.Perm (host.manager.timeoutQueue.expired host.manager.now)) :
      Acts setup host (.take batch)
        (host.stirred (tickedManager host.manager) (.calling batch) host.users)
  /-- The timer thread executes a statement. -/
  | timed (manager : Hdcp.Master.State τ κ) (timer : TimerStep κ)
      (goes : host.timer.statement setup.program host.manager = .ok timer manager ∨
        ∃ error, host.timer.statement setup.program host.manager = .error error manager ∧
          timer = .escaped error) :
      Acts setup host .timer (host.stirred manager timer host.users)
  /-- A call passes the test of the state. -/
  | called (user : ι) (type : UInt16) (data : Bytes) (cb : κ) (connected : host.state = .connected)
      (idle : host.users user = .idle) :
      Acts setup host (.call user type data cb)
        (host.stirred host.manager host.timer
          (Function.update host.users user (.begun ⟨type, data, cb, commandTimeout⟩)))
  /-- A call throws, as the master is not connected. -/
  | uncalled (user : ι) (type : UInt16) (data : Bytes) (cb : κ) (other : host.state ≠ .connected) :
      Acts setup host (.call user type data cb) host
  /-- A user executes a statement. -/
  | used (user : ι) (manager : Hdcp.Master.State τ κ) (send : SendStep κ)
      (goes : (host.users user).statement setup.environment host.manager = .ok send manager ∨
        ∃ error, (host.users user).statement setup.environment host.manager = .error error manager ∧
          send = .idle) :
      Acts setup host (.user user)
        (host.stirred manager host.timer (Function.update host.users user send))
  /-- An event is raised or consumed from outside. -/
  | signalled (act : Act τ κ ι) (events : EventSet Event) (phase : Phase)
      (heard : .dipReceived ∈ events ↔ .dipReceived ∈ host.data.events)
      (alive : phase = .stopped → host.phase = .stopped) :
      Acts setup host act
        { host with data := { host.data with events := events }, phase := phase }
  /-- The transport changes. -/
  | changed (transport : τ) : Acts setup host (.changed transport) (host.withTransport transport)
  /-- The master's thread has ended. -/
  | joined (transport : τ) (script : host.script = none) (idle : host.timer = .idle)
      (first : host.machine.position = 0 ∧ host.machine.waiting = false) :
      Acts setup host (.joined transport)
        { host with
          data :=
            { host.data with
              manager := { host.manager with running := false, transport := transport } }
          phase := .stopped }
  /-- The master is started. -/
  | started (transport : τ) (stopped : host.phase = .stopped) :
      Acts setup host (.start transport)
        { host.withTransport transport with machine := .entered .init, phase := .running }

section Threads

variable {setup : Setup τ κ} {host : Host τ κ ι} {manager : Hdcp.Master.State τ κ}

/-- What a statement of the timer thread does. -/
theorem timed_deed {timer : TimerStep κ}
    (goes : host.timer.statement setup.program host.manager = .ok timer manager ∨
      ∃ error, host.timer.statement setup.program host.manager = .error error manager ∧
        timer = .escaped error) :
    ∃ held, Deed setup.program.toEnvironment (host.timer.commands = true) False
      (host.timer.takes = true) host.timer.repeats (host.timer.Makes setup.program.raw)
        host.manager manager host.timer.held held := by
  have does := host.timer.does setup.program rfl host.manager
  rcases goes with returned | ⟨error, thrown, -⟩
  · exact ⟨_, does.1 _ _ returned⟩
  · exact ⟨_, does.2 _ _ thrown⟩

/-- What a statement of a user does. -/
theorem used_deed {user : ι} {send : SendStep κ}
    (goes : (host.users user).statement setup.environment host.manager = .ok send manager ∨
      ∃ error, (host.users user).statement setup.environment host.manager = .error error manager ∧
        send = .idle) :
    ∃ held, Deed setup.environment ((host.users user).ended = false) False
      ((host.users user).takes = true) none ((host.users user).Makes setup.environment.raw)
        host.manager manager (host.users user).held held := by
  have does := @SendStep.does _ _ setup.environment False none rfl (host.users user) host.manager
  rcases goes with returned | ⟨error, thrown, -⟩
  · exact ⟨_, does.1 _ _ returned⟩
  · exact ⟨_, does.2 _ _ thrown⟩

end Threads

section Steps

variable [DecidableEq ι] {setup : Setup τ κ} {host next : Host τ κ ι}

/-- What the others leave is given to the master. -/
theorem turns_eq {turn : Turn τ κ ι} (taken : host.turns setup turn = some next) :
    ∃ crew, host.crew.step setup.program turn = some crew ∧ next = host.withCrew crew := by
  obtain ⟨crew, stepped, same⟩ := Option.map_eq_some_iff.mp taken
  exact ⟨crew, stepped, same.symm⟩

/-- What the master's thread does next. -/
theorem advances_acts (taken : host.advances setup = some next) :
    Acts setup host .protocol next := by
  unfold Host.advances at taken
  cases script : host.script with
  | none =>
    rw [script] at taken
    dsimp only at taken
    split at taken
    · contradiction
    · next alive =>
      split at taken
      · next first =>
        cases taken
        exact .begun script alive first
      · next later =>
        obtain ⟨party, wakes, rfl⟩ := Option.map_eq_some_iff.mp taken
        exact .checked party script alive later wakes
  | some tasks =>
    rw [script] at taken
    cases tasks with
    | nil =>
      cases taken
      exact .returned script
    | cons task rest =>
      dsimp only at taken
      split at taken
      · next ready =>
        cases taken
        exact .performed task rest script ready
      · contradiction

/-- What an act can do. -/
theorem step_acts {act : Act τ κ ι} (taken : host.step setup act = some next) :
    Acts setup host act next := by
  cases act with
  | protocol => exact advances_acts taken
  | take batch =>
    obtain ⟨crew, stepped, rfl⟩ := turns_eq taken
    unfold Crew.step at stepped
    dsimp only at stepped
    split at stepped
    · next idle =>
      split at stepped
      · next fine =>
        cases stepped
        exact .took batch idle fine.1 fine.2
      · contradiction
    · contradiction
  | timer =>
    obtain ⟨crew, stepped, rfl⟩ := turns_eq taken
    unfold Crew.step at stepped
    dsimp only at stepped
    split at stepped
    · cases stepped
      unfold Crew.timerDoes
      cases outcome : host.crew.timer.statement setup.program host.crew.manager with
      | ok timer manager => exact .timed manager timer (.inl outcome)
      | error error manager => exact .timed manager _ (.inr ⟨error, outcome, rfl⟩)
    · contradiction
  | call user type data cb =>
    unfold Host.step at taken
    dsimp only at taken
    split at taken
    · next connected =>
      obtain ⟨crew, stepped, rfl⟩ := turns_eq taken
      unfold Crew.step at stepped
      dsimp only at stepped
      split at stepped
      · next idle =>
        cases stepped
        exact .called user type data cb connected idle
      · contradiction
    · next other =>
      cases taken
      exact .uncalled user type data cb other
  | user user =>
    obtain ⟨crew, stepped, rfl⟩ := turns_eq taken
    unfold Crew.step at stepped
    dsimp only at stepped
    split at stepped
    · cases stepped
      unfold Crew.userDoes
      cases outcome : (host.crew.users user).statement setup.program.toEnvironment
          host.crew.manager with
      | ok send manager => exact .used user manager send (.inl outcome)
      | error error manager => exact .used user manager _ (.inr ⟨error, outcome, rfl⟩)
    · contradiction
  | asyncConnect =>
    cases taken
    unfold Party.asyncConnect
    split
    · exact .signalled _ host.data.events host.phase Iff.rfl fun same => same
    · refine .signalled _ _ host.phase ?_ fun same => same
      exact ⟨fun inside => (Finset.mem_insert.mp inside).resolve_left (by decide),
        Finset.mem_insert_of_mem⟩
  | connectReturns =>
    obtain ⟨party, returned, rfl⟩ := Option.map_eq_some_iff.mp taken
    unfold Party.connectReturns at returned
    split at returned
    · cases returned
      refine .signalled _ _ host.phase ?_ fun same => same
      exact ⟨fun inside => (Finset.mem_erase.mp inside).2,
        fun inside => Finset.mem_erase.mpr ⟨by decide, inside⟩⟩
    · contradiction
  | asyncDisconnect =>
    cases taken
    unfold Party.asyncDisconnect
    split
    · exact .signalled _ host.data.events host.phase Iff.rfl fun same => same
    · refine .signalled _ _ host.phase ?_ fun same => same
      exact ⟨fun inside => (Finset.mem_insert.mp inside).resolve_left (by decide),
        Finset.mem_insert_of_mem⟩
  | changed transport =>
    cases taken
    exact .changed transport
  | stop =>
    unfold Host.step at taken
    dsimp only at taken
    split at taken
    · cases taken
      refine .signalled _ _ .stopping ?_ fun same => by cases same
      exact ⟨fun inside => (Finset.mem_insert.mp inside).resolve_left (by decide),
        Finset.mem_insert_of_mem⟩
    · contradiction
  | joined transport =>
    unfold Host.step at taken
    dsimp only at taken
    split at taken
    · next script timer =>
      split at taken
      · next fine =>
        cases taken
        exact .joined transport script timer fine.2
      · contradiction
    · contradiction
  | start transport =>
    unfold Host.step at taken
    dsimp only at taken
    split at taken
    · next stopped =>
      cases taken
      exact .started transport stopped
    · contradiction

end Steps

end Hdcp.Appli.Master
