import Hdcp.Appli.MasterEntries
import Hdcp.Base.Runs

/-!
# The life of a master

A master is started, connects and disconnects as its user asks and its transport allows, is stopped
and started again. The entries of its state machine, the ticks, the calls of the user and the
changes of the transport are the steps, in any order; marks beside the state tell which timers were
armed since state connecting was last entered, which timers raised a timeout, and whether the user
asked for a disconnection.
-/

namespace Hdcp.Appli.Master

open Base
open Hdcp.Master hiding State Event

variable {τ κ : Type}

/-- What can happen to a master. -/
inductive Move (τ κ : Type) where
  /-- The state machine goes on. -/
  | wakeup
  /-- A tick of the request manager. -/
  | tick (batch : List (Timer TimerCallback))
  /-- The user calls `async_connect`, or `connect` begins. -/
  | asyncConnect
  /-- The wait of `connect` ends. -/
  | connectReturns
  /-- The user calls `async_disconnect`. -/
  | asyncDisconnect
  /-- The user calls `send_command`. -/
  | sendCommand (id : UInt16) (data : Bytes) (cb : κ)
  /-- The transport changes on its own. -/
  | changed (transport : τ)
  /-- The user calls `stop`. -/
  | stop
  /-- The thread has ended, and the rest of `stop` leaves the transport so. -/
  | joined (transport : τ)
  /-- The user calls `start`, which leaves the transport so. -/
  | start (transport : τ)

/-- A timeout of timers with a callback is among what was given out. -/
def reported (callback : TimerCallback) (outputs : List (Output κ)) : Bool :=
  outputs.any fun
    | .timedOut type => type.callback = callback
    | _ => false

/-- A master with the marks. -/
structure Life (τ κ : Type) where
  /-- The master. -/
  party : Party τ κ
  /-- Its thread. -/
  phase : Phase
  /-- The first identifier of a timer armed since state connecting was last entered. -/
  firstTimer : Nat
  /-- The timers that expired and whose timeout was reported, oldest first. -/
  raised : List (Timer TimerCallback)
  /-- The user asked for a disconnection since state connecting was last entered. -/
  asked : Bool

namespace Life

/-- The master's fields. -/
def data (life : Life τ κ) : Data τ κ := life.party.data

/-- The master's state. -/
def state (life : Life τ κ) : State := life.party.machine.current

/-- A master as constructed. -/
def initial (transport : τ) : Life τ κ where
  party := .started transport
  phase := .stopped
  firstTimer := 0
  raised := []
  asked := false

section Steps

variable (setup : Setup τ κ)

/-- The master's transport is open. -/
def isOpen (life : Life τ κ) : Bool := setup.transport.isOpen life.data.manager.transport

/-- The master and its thread after a step, if it can happen. -/
def act (life : Life τ κ) : Move τ κ → Option (Party τ κ × Phase)
  | .wakeup =>
    if life.phase = .stopped then none
    else (life.party.wakeup setup).map fun party => (party, life.phase)
  | .tick batch => (life.party.tick setup batch).map fun party => (party, life.phase)
  | .asyncConnect => some (life.party.asyncConnect, life.phase)
  | .connectReturns => life.party.connectReturns.map fun party => (party, life.phase)
  | .asyncDisconnect => some (life.party.asyncDisconnect, life.phase)
  | .sendCommand id data cb => some (life.party.sendCommand setup id data cb, life.phase)
  | .changed transport =>
    some ({ life.party with data := life.data.withTransport transport }, life.phase)
  | .stop =>
    if life.phase = .running then
      some ({ life.party with
        data := { life.data with events := life.data.events.notify .stop } }, .stopping)
    else none
  | .joined transport =>
    if life.phase = .stopping ∧ life.party.machine.position = 0 ∧
        life.party.machine.waiting = false then
      some ({ life.party with
        data :=
          { life.data with
            manager := { life.data.manager with running := false, transport := transport } } },
        .stopped)
    else none
  | .start transport =>
    if life.phase = .stopped then
      some (⟨.entered .init, life.data.withTransport transport⟩, .running)
    else none

/-- A step enters state connecting. -/
def enters (life : Life τ κ) (party : Party τ κ) : Bool :=
  life.state ≠ .connecting ∧ party.machine.current = .connecting

/-- The timers that expire in a step and whose timeout it reports. -/
def raises (life : Life τ κ) (party : Party τ κ) : Move τ κ → List (Timer TimerCallback)
  | .tick batch => batch.filter fun timer =>
      reported timer.callback
        (party.data.manager.outputs.drop life.data.manager.outputs.length)
  | _ => []

/-- The user asks for a disconnection in a step, and is heard. -/
def asks (life : Life τ κ) : Move τ κ → Bool
  | .asyncDisconnect => life.state ≠ .disconnected
  | _ => false

/-- The marks after a step. -/
def marked (life : Life τ κ) (move : Move τ κ) (party : Party τ κ) (phase : Phase) :
    Life τ κ where
  party := party
  phase := phase
  firstTimer :=
    if life.enters party then life.data.manager.timeoutQueue.nextId else life.firstTimer
  raised := life.raised ++ life.raises party move
  asked := if life.enters party then false else life.asked || life.asks move

/-- One step, if it can happen. -/
def step (life : Life τ κ) (move : Move τ κ) : Option (Life τ κ) :=
  (life.act setup move).map fun next => life.marked move next.1 next.2

end Steps

end Life

section Ticks

variable (setup : Setup τ κ)

/-- A master after a tick. -/
def Party.ticked (master : Party τ κ) (batch : List (Timer TimerCallback)) : Party τ κ :=
  { master with
    data :=
      { master.data with
        manager := after (runOnce setup.environment batch master.data.manager)
        events := timeoutCb master.data.events
          ((after (runOnce setup.environment batch master.data.manager)).outputs.drop
            master.data.manager.outputs.length) } }

/-- A tick. -/
theorem Party.tick_eq_some_iff (master next : Party τ κ) (batch : List (Timer TimerCallback)) :
    master.tick setup batch = some next ↔
      (master.data.manager.running = true ∧
        batch.Perm (master.data.manager.timeoutQueue.expired master.data.manager.now)) ∧
      next = master.ticked setup batch := by
  unfold Party.tick
  split
  · next enabled =>
    rw [and_iff_right enabled, Option.some_inj, eq_comm]
    rfl
  · next disabled => simp [disabled]

/-- The event of a timeout. -/
def TimeoutType.event : TimeoutType → Event
  | .dipTimeout => .dipTimeout
  | .kaTimeout => .kaTimeout

/-- The timeouts reported raise their events, and nothing else. -/
theorem mem_timeoutCb (events : EventSet Event) (outputs : List (Output κ)) (event : Event) :
    event ∈ timeoutCb events outputs ↔
      event ∈ events ∨ ∃ type, .timedOut type ∈ outputs ∧ event = TimeoutType.event type := by
  induction outputs generalizing events with
  | nil => simp [timeoutCb]
  | cons output outputs ih =>
    have other : (∀ type, output ≠ .timedOut type) →
        ((event ∈ events ∨ ∃ type, .timedOut type ∈ outputs ∧ event = TimeoutType.event type) ↔
          event ∈ events ∨ ∃ type, .timedOut type ∈ output :: outputs ∧
            event = TimeoutType.event type) := by
      intro unlike
      refine or_congr_right (exists_congr fun type => and_congr_left fun _ => ?_)
      rw [List.mem_cons, or_iff_right fun same => unlike type same.symm]
    cases output with
    | written message => exact (ih events).trans (other fun type same => by contradiction)
    | called request => exact (ih events).trans (other fun type same => by contradiction)
    | timedOut reported =>
      have told : timeoutCb events (.timedOut reported :: outputs) =
          timeoutCb (events.notify (TimeoutType.event reported)) outputs := by
        cases reported <;> rfl
      rw [told, ih, EventSet.notify, Finset.mem_insert]
      constructor
      · rintro ((same | before) | ⟨type, inside, same⟩)
        · exact .inr ⟨reported, List.mem_cons_self, same⟩
        · exact .inl before
        · exact .inr ⟨type, List.mem_cons_of_mem _ inside, same⟩
      · rintro (before | ⟨type, inside, same⟩)
        · exact .inl (.inr before)
        · rcases List.mem_cons.mp inside with equal | inside
          · obtain rfl := Output.timedOut.inj equal
            exact .inl (.inl same)
          · exact .inr ⟨type, inside, same⟩

/-- After a tick no event is pending that was not, but for those of timers of the batch. -/
theorem Party.mem_ticked {master : Party τ κ} {batch : List (Timer TimerCallback)} {event : Event}
    (pending : event ∈ (master.ticked setup batch).data.events) :
    event ∈ master.data.events ∨ ∃ type, event = TimeoutType.event type ∧
      (∃ timer ∈ batch, timer.callback = type.callback) ∧
        reported type.callback ((master.ticked setup batch).data.manager.outputs.drop
          master.data.manager.outputs.length) = true := by
  obtain ⟨more, grown, fine⟩ := @runOnce_reports τ κ setup.environment batch
    master.data.manager
  change event ∈ timeoutCb master.data.events
    ((after (runOnce setup.environment batch master.data.manager)).outputs.drop
      master.data.manager.outputs.length) at pending
  rcases (mem_timeoutCb _ _ _).mp pending with before | ⟨type, inside, same⟩
  · exact .inl before
  · refine .inr ⟨type, same, fine type ?_, ?_⟩
    · rw [grown, List.drop_left] at inside
      exact inside
    · exact List.any_eq_true.mpr ⟨_, inside, decide_eq_true rfl⟩

/-- A tick leaves pending events pending. -/
theorem Party.pending_ticked {master : Party τ κ} {event : Event}
    (batch : List (Timer TimerCallback)) (pending : event ∈ master.data.events) :
    event ∈ (master.ticked setup batch).data.events :=
  (mem_timeoutCb _ _ _).mpr (.inl pending)

/-- A call of `send_command` changes the manager only, and nothing out of a session. -/
theorem Party.sendCommand_eq (master : Party τ κ) (id : UInt16) (data : Bytes) (cb : κ) :
    ∃ manager, master.sendCommand setup id data cb =
        { master with data := master.data.withManager manager } ∧
      Changes setup.environment True master.data.manager manager ∧
      (master.state ≠ .connected → manager = master.data.manager) := by
  unfold Party.sendCommand
  split
  · next inside =>
    have changing : Changing setup.environment
        (Hdcp.Master.sendCommand setup.environment id data cb commandTimeout) :=
      sendCommand_changing id data cb commandTimeout
    refine ⟨_, ?_, changing.changes master.data.manager, fun outside => absurd inside outside⟩
    unfold onManager
    cases Hdcp.Master.sendCommand setup.environment id data cb commandTimeout
        master.data.manager with
    | ok value manager => rfl
    | error error manager => rfl
  · exact ⟨master.data.manager, rfl, .refl, fun _ => rfl⟩

end Ticks

/-- What a step does to the master and its thread. -/
inductive Lives (setup : Setup τ κ) (life : Life τ κ) : Move τ κ → Party τ κ → Phase → Prop where
  /-- An entry of the state machine. -/
  | wakeup (party : Party τ κ) (alive : life.phase ≠ .stopped)
      (wakes : Wakes setup life.party party) : Lives setup life .wakeup party life.phase
  /-- A tick. -/
  | tick (batch : List (Timer TimerCallback)) (running : life.data.manager.running = true)
      (taken : batch.Perm
        (life.data.manager.timeoutQueue.expired life.data.manager.now)) :
      Lives setup life (.tick batch) (life.party.ticked setup batch) life.phase
  /-- A call of `async_connect`, or the first part of `connect`. -/
  | asyncConnect : Lives setup life .asyncConnect life.party.asyncConnect life.phase
  /-- The end of `connect`. -/
  | connectReturns :
      Lives setup life .connectReturns
        { life.party with data := life.data.without .connectionAttempt } life.phase
  /-- A call of `async_disconnect`. -/
  | asyncDisconnect : Lives setup life .asyncDisconnect life.party.asyncDisconnect life.phase
  /-- A call of `send_command`. -/
  | sendCommand (id : UInt16) (data : Bytes) (cb : κ) :
      Lives setup life (.sendCommand id data cb) (life.party.sendCommand setup id data cb)
        life.phase
  /-- The transport changes. -/
  | changed (transport : τ) :
      Lives setup life (.changed transport)
        { life.party with data := life.data.withTransport transport } life.phase
  /-- A call of `stop`. -/
  | stop (running : life.phase = .running) :
      Lives setup life .stop
        { life.party with data := { life.data with events := life.data.events.notify .stop } }
        .stopping
  /-- The end of `stop`. -/
  | joined (transport : τ) (stopping : life.phase = .stopping)
      (first : life.party.machine.position = 0) (awake : life.party.machine.waiting = false) :
      Lives setup life (.joined transport)
        { life.party with
          data := life.data.withManager
            { life.data.manager with running := false, transport := transport } }
        .stopped
  /-- A call of `start`. -/
  | start (transport : τ) (stopped : life.phase = .stopped) :
      Lives setup life (.start transport) ⟨.entered .init, life.data.withTransport transport⟩
        .running

/-- What a step does. -/
theorem Life.act_lives {setup : Setup τ κ} {life : Life τ κ} {move : Move τ κ}
    {party : Party τ κ} {phase : Phase} (acted : life.act setup move = some (party, phase))
    (calm : Calm life.party) : Lives setup life move party phase := by
  cases move with
  | wakeup =>
    simp only [Life.act] at acted
    split at acted
    · contradiction
    · next alive =>
      obtain ⟨woken, went, same⟩ := Option.map_eq_some_iff.mp acted
      cases same
      exact .wakeup party alive (wakeup_wakes setup went calm)
  | tick batch =>
    obtain ⟨ticked, went, same⟩ := Option.map_eq_some_iff.mp acted
    cases same
    obtain ⟨⟨running, perm⟩, rfl⟩ := (Party.tick_eq_some_iff setup _ _ batch).mp went
    exact .tick batch running perm
  | asyncConnect =>
    cases acted
    exact .asyncConnect
  | connectReturns =>
    obtain ⟨returned, went, same⟩ := Option.map_eq_some_iff.mp acted
    cases same
    unfold Party.connectReturns at went
    split at went
    · cases went
      exact .connectReturns
    · contradiction
  | asyncDisconnect =>
    cases acted
    exact .asyncDisconnect
  | sendCommand id data cb =>
    cases acted
    exact .sendCommand id data cb
  | changed transport =>
    cases acted
    exact .changed transport
  | stop =>
    simp only [Life.act] at acted
    split at acted
    · next running =>
      cases acted
      exact .stop running
    · contradiction
  | joined transport =>
    simp only [Life.act] at acted
    split at acted
    · next ready =>
      cases acted
      exact .joined transport ready.1 ready.2.1 ready.2.2
    · contradiction
  | start transport =>
    simp only [Life.act] at acted
    split at acted
    · next stopped =>
      cases acted
      exact .start transport stopped
    · contradiction

/-- A wakeup of the thread is an entry of the state machine. -/
theorem Life.wakeup_of_act {setup : Setup τ κ} {life : Life τ κ} {party : Party τ κ} {phase : Phase}
    (acted : life.act setup .wakeup = some (party, phase)) :
    life.party.wakeup setup = some party := by
  simp only [Life.act] at acted
  split at acted
  · contradiction
  · obtain ⟨woken, went, same⟩ := Option.map_eq_some_iff.mp acted
    cases same
    exact went

/-- What holds of a master at any time: where it waits, and when its manager cannot run. -/
structure Sound (master : Party τ κ) (phase : Phase) : Prop where
  /-- It waits in state disconnected only. -/
  calm : Calm master
  /-- A wakeup counts from its first entry. -/
  begun : master.machine.position ≠ 0 ∨ master.machine.waiting = true → master.machine.nbLoop ≠ 0
  /-- A stopped master has stopped its manager. -/
  stopped : phase = .stopped → master.data.manager.running = false
  /-- Before its first session the manager does not run. -/
  init : master.state = .init → master.data.manager.running = false
  /-- The first wakeup in state disconnected stops the manager. -/
  disconnected : master.state = .disconnected → master.machine.nbLoop ≠ 0 →
    master.data.manager.running = false
  /-- A session begins with a manager that does not run. -/
  connecting : master.state = .connecting → master.machine.nbLoop = 0 →
    master.data.manager.running = false

/-- A master as constructed. -/
theorem sound_started (transport : τ) :
    Sound (Party.started transport : Party τ κ) .stopped where
  calm := fun waits => by contradiction
  begun := fun later => by rcases later with later | later <;> contradiction
  stopped := fun _ => rfl
  init := fun _ => rfl
  disconnected := fun _ _ => rfl
  connecting := fun _ _ => rfl

/-- A master that just moved, but not into a session. -/
theorem sound_moved (source target : State) (data : Data τ κ) {phase : Phase}
    (alive : phase ≠ .stopped) (other : target = .disconnected ∨ target = .connected) :
    Sound (.movedTo source target data) phase where
  calm := fun waits => by contradiction
  begun := fun later => by rcases later with later | later <;> contradiction
  stopped := fun stopped => absurd stopped alive
  init := fun elsewhere => by
    obtain rfl : target = .init := elsewhere
    rcases other with other | other <;> contradiction
  disconnected := fun _ later => absurd rfl later
  connecting := fun elsewhere => by
    obtain rfl : target = .connecting := elsewhere
    rcases other with other | other <;> contradiction

/-- What leaves the machine alone and makes no manager run keeps a master sound. -/
theorem Sound.of_idle {master : Party τ κ} {phase : Phase} (sound : Sound master phase)
    {data : Data τ κ}
    (idle : master.data.manager.running = false → data.manager.running = false) :
    Sound { master with data := data } phase where
  calm := sound.calm
  begun := sound.begun
  stopped := fun stopped => idle (sound.stopped stopped)
  init := fun first => idle (sound.init first)
  disconnected := fun first later => idle (sound.disconnected first later)
  connecting := fun first none => idle (sound.connecting first none)

/-- A handler keeps a master sound. -/
theorem Sound.handled {setup : Setup τ κ} {state : State} {nbLoop : Nat} {data : Data τ κ}
    {phase : Phase} (sound : Sound (.at state nbLoop 0 data) phase) (alive : phase ≠ .stopped)
    (position : Nat) (errc : Option ErrorCode) :
    Sound (.at state (nbLoop + 1) position
      ((after (handler setup state (nbLoop + 1) data)).withErrc errc)) phase := by
  refine ⟨fun waits => by contradiction, fun _ => Nat.succ_ne_zero nbLoop,
    fun stopped => absurd stopped alive, ?_, ?_,
    fun _ none => absurd none (Nat.succ_ne_zero nbLoop)⟩
  · rintro rfl
    have idle : data.manager.running = false := sound.init rfl
    have kept := @handler_idle τ κ setup .init (nbLoop + 1) data idle
    exact kept fun elsewhere => by contradiction
  · rintro rfl -
    cases nbLoop with
    | zero => exact disconnected_idle setup data
    | succ nbLoop =>
      have idle : data.manager.running = false := sound.disconnected rfl (Nat.succ_ne_zero nbLoop)
      exact handler_idle setup idle fun elsewhere => by contradiction

/-- The next entry of the same wakeup keeps a master sound. -/
theorem Sound.passed {state : State} {nbLoop position : Nat} {data : Data τ κ} {phase : Phase}
    (sound : Sound (.at state nbLoop (position + 1) data) phase) (later : Nat) :
    Sound (.at state nbLoop later data) phase where
  calm := fun waits => by contradiction
  begun := fun _ => sound.begun (.inl (Nat.succ_ne_zero position))
  stopped := sound.stopped
  init := sound.init
  disconnected := sound.disconnected
  connecting := sound.connecting

/-- An entry keeps a master sound. -/
theorem Sound.wakes {setup : Setup τ κ} {master next : Party τ κ} {phase : Phase}
    (sound : Sound master phase) (wakes : Wakes setup master next) (alive : phase ≠ .stopped) :
    Sound next phase := by
  cases wakes with
  | handled state nbLoop data returns =>
    exact @Sound.handled τ κ setup _ _ _ _ sound alive 1
      (after (handler setup state (nbLoop + 1) data)).errc
  | thrown state nbLoop data errc throws => exact sound.handled alive 0 errc
  | waits nbLoop data =>
    have handled := @Sound.handled τ κ setup _ _ _ _ sound alive 0
      (after (handler setup .disconnected (nbLoop + 1) data)).errc
    exact ⟨fun _ => ⟨rfl, rfl⟩, fun _ => Nat.succ_ne_zero nbLoop, handled.stopped, handled.init,
      handled.disconnected, handled.connecting⟩
  | woken nbLoop data pending =>
    exact ⟨fun waits => by contradiction, fun _ => sound.begun (.inr rfl), sound.stopped,
      sound.init, sound.disconnected, sound.connecting⟩
  | begun nbLoop data => exact sound_moved _ _ data alive (.inl rfl)
  | requested nbLoop data pending =>
    have idle : data.manager.running = false :=
      sound.disconnected rfl (sound.begun (.inl (Nat.succ_ne_zero 0)))
    exact ⟨fun waits => by contradiction,
      fun later => by rcases later with later | later <;> contradiction, fun _ => idle,
      fun _ => idle, fun _ _ => idle, fun _ _ => idle⟩
  | unrequested nbLoop data absent => exact sound.passed 0
  | closed state nbLoop data session isClosed => exact sound_moved _ _ _ alive (.inl rfl)
  | stillOpen state nbLoop data session isOpen => exact sound.passed 2
  | dipTimeout nbLoop data pending exhausted => exact sound_moved _ _ _ alive (.inl rfl)
  | noDipTimeout nbLoop data left => exact sound.passed 3
  | connected nbLoop data pending => exact sound_moved _ _ _ alive (.inr rfl)
  | notConnected nbLoop data absent => exact sound.passed 0
  | kaTimeout nbLoop data pending => exact sound_moved _ _ _ alive (.inl rfl)
  | noKaTimeout nbLoop data absent => exact sound.passed 3
  | dismissed nbLoop data pending => exact sound_moved _ _ _ alive (.inl rfl)
  | undismissed nbLoop data absent => exact sound.passed 0

/-- Each step keeps a master sound. -/
theorem Sound.lives {setup : Setup τ κ} {life : Life τ κ} {move : Move τ κ} {next : Party τ κ}
    {phase : Phase} (sound : Sound life.party life.phase)
    (lives : Lives setup life move next phase) : Sound next phase := by
  cases lives with
  | wakeup _ alive wakes => exact sound.wakes wakes alive
  | tick batch running perm =>
    exact sound.of_idle fun idle => absurd (running.symm.trans idle) (by decide)
  | asyncConnect =>
    unfold Party.asyncConnect
    split
    · exact sound
    · exact sound.of_idle fun idle => idle
  | connectReturns => exact sound.of_idle fun idle => idle
  | asyncDisconnect =>
    unfold Party.asyncDisconnect
    split
    · exact sound
    · exact sound.of_idle fun idle => idle
  | sendCommand id data cb =>
    obtain ⟨manager, sent, changes, -⟩ := Party.sendCommand_eq setup life.party id data cb
    rw [sent]
    exact sound.of_idle changes.idle
  | changed transport => exact sound.of_idle fun idle => idle
  | stop running =>
    exact ⟨sound.calm, sound.begun, fun stopped => by contradiction, sound.init,
      sound.disconnected, sound.connecting⟩
  | joined transport stopping first awake =>
    exact ⟨sound.calm, sound.begun, fun _ => rfl, fun _ => rfl, fun _ _ => rfl, fun _ _ => rfl⟩
  | start transport stopped =>
    have idle := sound.stopped stopped
    exact ⟨fun waits => by contradiction,
      fun later => by rcases later with later | later <;> contradiction, fun _ => idle,
      fun _ => idle, fun _ _ => idle, fun _ _ => idle⟩

/-- The fields that only the state machine writes are the same. -/
structure Data.Untouched (data next : Data τ κ) : Prop where
  /-- `slave_id_`. -/
  slaveId : next.slaveId = data.slaveId
  /-- `connection_attempts_`. -/
  connectionAttempts : next.connectionAttempts = data.connectionAttempts
  /-- `errc_`. -/
  errc : next.errc = data.errc
  /-- The packets read. -/
  reads : next.reads = data.reads
  /-- What the status callback was given. -/
  statuses : next.statuses = data.statuses

/-- Ticks, calls and the transport leave them alone. -/
theorem untouched_lives {setup : Setup τ κ} {life : Life τ κ} {move : Move τ κ}
    {party : Party τ κ} {phase : Phase} (lives : Lives setup life move party phase)
    (other : move ≠ .wakeup) : life.data.Untouched party.data := by
  cases lives with
  | wakeup _ alive wakes => exact absurd rfl other
  | tick batch running perm => exact ⟨rfl, rfl, rfl, rfl, rfl⟩
  | asyncConnect =>
    unfold Party.asyncConnect
    split
    · exact ⟨rfl, rfl, rfl, rfl, rfl⟩
    · exact ⟨rfl, rfl, rfl, rfl, rfl⟩
  | connectReturns => exact ⟨rfl, rfl, rfl, rfl, rfl⟩
  | asyncDisconnect =>
    unfold Party.asyncDisconnect
    split
    · exact ⟨rfl, rfl, rfl, rfl, rfl⟩
    · exact ⟨rfl, rfl, rfl, rfl, rfl⟩
  | sendCommand id data cb =>
    obtain ⟨manager, sent, -, -⟩ := Party.sendCommand_eq setup life.party id data cb
    rw [sent]
    exact ⟨rfl, rfl, rfl, rfl, rfl⟩
  | changed transport => exact ⟨rfl, rfl, rfl, rfl, rfl⟩
  | stop running => exact ⟨rfl, rfl, rfl, rfl, rfl⟩
  | joined transport stopping first awake => exact ⟨rfl, rfl, rfl, rfl, rfl⟩
  | start transport stopped => exact ⟨rfl, rfl, rfl, rfl, rfl⟩

/-- What makes an event pending, apart from the state machine. -/
inductive Raised (life : Life τ κ) (party : Party τ κ) : Move τ κ → Event → Prop where
  /-- A timer expires and its timeout is reported. -/
  | expired (batch : List (Timer TimerCallback)) (type : TimeoutType)
      (timer : Timer TimerCallback) (inside : timer ∈ batch)
      (bound : timer.callback = type.callback)
      (running : life.data.manager.running = true)
      (armed : timer ∈ life.data.manager.timeoutQueue.timers)
      (told : reported type.callback
        (party.data.manager.outputs.drop life.data.manager.outputs.length) = true) :
      Raised life party (.tick batch) (TimeoutType.event type)
  /-- The user asks for a connection. -/
  | requested : Raised life party .asyncConnect .connectionRequested
  /-- The user asks for a disconnection. -/
  | dismissed (heard : life.state ≠ .disconnected) :
      Raised life party .asyncDisconnect .disconnectionRequested
  /-- The user stops the master. -/
  | stopped : Raised life party .stop .stop

/-- Apart from the state machine no event gets pending but for these causes. -/
theorem raised_lives {setup : Setup τ κ} {life : Life τ κ} {move : Move τ κ} {party : Party τ κ}
    {phase : Phase} {event : Event} (lives : Lives setup life move party phase)
    (other : move ≠ .wakeup) (pending : event ∈ party.data.events) :
    event ∈ life.data.events ∨ Raised life party move event := by
  cases lives with
  | wakeup _ alive wakes => exact absurd rfl other
  | tick batch running perm =>
    rcases Party.mem_ticked setup pending with
      before | ⟨type, rfl, ⟨timer, inside, bound⟩, told⟩
    · exact .inl before
    · have armed := ((TimeoutQueue.mem_expired _ _ _).mp (perm.subset inside)).1
      exact .inr (.expired batch type timer inside bound running armed told)
  | asyncConnect =>
    unfold Party.asyncConnect at pending
    split at pending
    · exact .inl pending
    · rcases Finset.mem_insert.mp pending with rfl | before
      · exact .inr .requested
      · exact .inl before
  | connectReturns => exact .inl (Finset.mem_of_mem_erase pending)
  | asyncDisconnect =>
    unfold Party.asyncDisconnect at pending
    split at pending
    · exact .inl pending
    · next heard =>
      rcases Finset.mem_insert.mp pending with rfl | before
      · exact .inr (.dismissed heard)
      · exact .inl before
  | sendCommand id data cb =>
    obtain ⟨manager, sent, -, -⟩ := Party.sendCommand_eq setup life.party id data cb
    rw [sent] at pending
    exact .inl pending
  | changed transport => exact .inl pending
  | stop running =>
    rcases Finset.mem_insert.mp pending with rfl | before
    · exact .inr .stopped
    · exact .inl before
  | joined transport stopping first awake => exact .inl pending
  | start transport stopped => exact .inl pending

/-- Apart from the state machine an event stays pending, but for that of an attempt. -/
theorem pending_kept {setup : Setup τ κ} {life : Life τ κ} {move : Move τ κ} {party : Party τ κ}
    {phase : Phase} {event : Event} (lives : Lives setup life move party phase)
    (other : move ≠ .wakeup) (kept : event ≠ .connectionAttempt)
    (pending : event ∈ life.data.events) : event ∈ party.data.events := by
  cases lives with
  | wakeup _ alive wakes => exact absurd rfl other
  | tick batch running perm => exact Party.pending_ticked setup batch pending
  | asyncConnect =>
    unfold Party.asyncConnect
    split
    · exact pending
    · exact Finset.mem_insert_of_mem pending
  | connectReturns => exact Finset.mem_erase_of_ne_of_mem kept pending
  | asyncDisconnect =>
    unfold Party.asyncDisconnect
    split
    · exact pending
    · exact Finset.mem_insert_of_mem pending
  | sendCommand id data cb =>
    obtain ⟨manager, sent, -, -⟩ := Party.sendCommand_eq setup life.party id data cb
    rw [sent]
    exact pending
  | changed transport => exact pending
  | stop running => exact Finset.mem_insert_of_mem pending
  | joined transport stopping first awake => exact pending
  | start transport stopped => exact pending

/-- They neither announce a DIP nor take its announcement back. -/
theorem dipReceived_lives {setup : Setup τ κ} {life : Life τ κ} {move : Move τ κ}
    {party : Party τ κ} {phase : Phase} (lives : Lives setup life move party phase)
    (other : move ≠ .wakeup) :
    .dipReceived ∈ party.data.events ↔ .dipReceived ∈ life.data.events := by
  constructor
  · intro pending
    rcases raised_lives lives other pending with before | raised
    · exact before
    · generalize same : Event.dipReceived = event at raised
      cases raised with
      | expired batch type _ _ _ _ _ _ => cases type <;> cases same
      | requested => cases same
      | dismissed heard => cases same
      | stopped => cases same
  · exact pending_kept lives other (by decide)

/-- The master is sound. -/
def Life.Sound (life : Life τ κ) : Prop := Master.Sound life.party life.phase

/-- What a step of a sound master does; it is sound after it. -/
theorem Life.Sound.step {setup : Setup τ κ} {life next : Life τ κ} {move : Move τ κ}
    (sound : life.Sound) (taken : life.step setup move = some next) :
    ∃ party phase, life.act setup move = some (party, phase) ∧ Lives setup life move party phase ∧
      next = life.marked move party phase ∧ next.Sound := by
  obtain ⟨⟨party, phase⟩, acted, rfl⟩ := Option.map_eq_some_iff.mp taken
  have lives := Life.act_lives acted (Sound.calm sound)
  exact ⟨party, phase, acted, lives, rfl, Sound.lives sound lives⟩

/-- A master is sound at any time of its life. -/
theorem sound_run {setup : Setup τ κ} {transport : τ} {moves : List (Move τ κ)} {life : Life τ κ}
    (run : Run (Steps (Life.step setup)) (.initial transport) moves life) : life.Sound := by
  refine run.invariant ?_ (sound_started transport)
  intro life move next sound taken
  obtain ⟨_, _, -, -, -, after⟩ := Life.Sound.step sound taken
  exact after

end Hdcp.Appli.Master
