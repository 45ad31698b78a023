import Hdcp.Appli.SlaveEntries

/-!
# The life of a slave

A slave is started, runs its sessions over connections that come and go, is stopped and started
again. The entries of its state machine, the ticks, the calls of the user and the changes of the
transport are the steps, in any order; marks beside the state tell when the connection in use was
opened, when state connecting was last entered, and which timers expired.
-/

namespace Hdcp.Appli.Slave

open Base
open Hdcp.Slave hiding State

variable {τ : Type}

/-- What can happen to a slave. -/
inductive Move (τ : Type) where
  /-- The state machine goes on. -/
  | wakeup
  /-- A tick of the request manager. -/
  | tick (batch : List (Timer TimerCallback))
  /-- The user calls `send_data`. -/
  | sendData (blocks : List BlockView)
  /-- The transport changes without opening a connection. -/
  | changed (transport : τ)
  /-- The transport opens a connection. -/
  | opened (transport : τ)
  /-- The user calls `stop`. -/
  | stop
  /-- The thread has ended, and the rest of `stop` leaves the transport so. -/
  | joined (transport : τ)
  /-- The user calls `start`, which leaves the transport so. -/
  | start (transport : τ)

/-- A slave with the marks. -/
structure Life (τ : Type) where
  /-- The slave. -/
  party : Party τ
  /-- Its thread. -/
  phase : Phase
  /-- How many packets had been read when the connection in use was opened. -/
  opened : Nat
  /-- How many packets had been read when state connecting was last entered. -/
  entered : Nat
  /-- The first identifier of a timer armed since state connecting was last entered. -/
  firstTimer : Nat
  /-- The timers that expired, oldest first. -/
  expired : List (Timer TimerCallback)

namespace Life

/-- The slave's fields. -/
def data (life : Life τ) : Data τ := life.party.data

/-- The slave's state. -/
def state (life : Life τ) : State := life.party.machine.current

/-- The packets read on the connection in use, oldest first. -/
def readsOpen (life : Life τ) : List (State × Message) := life.data.reads.drop life.opened

/-- The packets read since state connecting was last entered, oldest first. -/
def readsEntered (life : Life τ) : List (State × Message) := life.data.reads.drop life.entered

/-- A slave as constructed. -/
def initial (transport : τ) : Life τ where
  party := .started transport
  phase := .stopped
  opened := 0
  entered := 0
  firstTimer := 0
  expired := []

section Steps

variable (setup : Setup τ)

/-- The slave's transport is open. -/
def isOpen (life : Life τ) : Bool := setup.transport.isOpen life.data.manager.transport

/-- The slave and its thread after a step, if it can happen. -/
def act (life : Life τ) : Move τ → Option (Party τ × Phase)
  | .wakeup =>
    if life.phase = .stopped then none
    else (life.party.wakeup setup).map fun party => (party, life.phase)
  | .tick batch => (life.party.tick setup batch).map fun party => (party, life.phase)
  | .sendData blocks => some (life.party.sendData setup blocks, life.phase)
  | .changed transport =>
    if setup.transport.isOpen transport = true ∧ life.isOpen setup = false then none
    else some ({ life.party with data := life.data.withTransport transport }, life.phase)
  | .opened transport =>
    if setup.transport.isOpen transport then
      some ({ life.party with data := life.data.withTransport transport }, life.phase)
    else none
  | .stop => if life.phase = .running then some (life.party, .stopping) else none
  | .joined transport =>
    if life.phase = .stopping ∧ life.party.machine.position = 0 then
      some ({ life.party with
        data :=
          { life.data with
            manager := { life.data.manager with running := false, transport := transport } } },
        .stopped)
    else none
  | .start transport =>
    if life.phase = .stopped then
      some (⟨.entered .init, life.data.withTransport transport⟩, .running)
    else none

/-- A step opens a connection. -/
def opens (life : Life τ) (party : Party τ) : Move τ → Bool
  | .opened _ => true
  | .start _ => true
  | _ => !life.isOpen setup && setup.transport.isOpen party.data.manager.transport

/-- A step enters state connecting. -/
def enters (life : Life τ) (party : Party τ) : Bool :=
  life.state ≠ .connecting ∧ party.machine.current = .connecting

/-- The timers that expire in a step. -/
def expires : Move τ → List (Timer TimerCallback)
  | .tick batch => batch
  | _ => []

/-- The marks after a step. -/
def marked (life : Life τ) (move : Move τ) (party : Party τ) (phase : Phase) : Life τ where
  party := party
  phase := phase
  opened := if life.opens setup party move then life.data.reads.length else life.opened
  entered := if life.enters party then life.data.reads.length else life.entered
  firstTimer :=
    if life.enters party then life.data.manager.timeoutQueue.nextId else life.firstTimer
  expired := life.expired ++ expires move

/-- One step, if it can happen. -/
def step (life : Life τ) (move : Move τ) : Option (Life τ) :=
  (life.act setup move).map fun next => life.marked setup move next.1 next.2

end Steps

end Life

section Ticks

variable (setup : Setup τ)

/-- A slave after a tick. -/
def Party.ticked (slave : Party τ) (batch : List (Timer TimerCallback)) : Party τ :=
  { slave with
    data :=
      { slave.data with
        manager := slave.data.manager.ticked batch
        events := if batch = [] then slave.data.events else slave.data.events.notify .kaTimeout } }

/-- The timeouts reported raise the event, if there are any. -/
theorem timeoutCb_replicate (count : Nat) (events : EventSet Event) :
    timeoutCb events (List.replicate count .timedOut) =
      if count = 0 then events else events.notify .kaTimeout := by
  induction count generalizing events with
  | zero => rfl
  | succ count ih =>
    rw [List.replicate_succ, timeoutCb, ih, if_neg (Nat.succ_ne_zero count)]
    split
    · rfl
    · exact Finset.insert_idem _ _

/-- A tick. -/
theorem Party.tick_eq_some_iff (slave next : Party τ) (batch : List (Timer TimerCallback)) :
    slave.tick setup batch = some next ↔
      (slave.data.manager.running = true ∧
        batch.Perm (slave.data.manager.timeoutQueue.expired slave.data.manager.now)) ∧
      next = slave.ticked batch := by
  have ran : runOnce setup.environment batch slave.data.manager =
      .ok () (slave.data.manager.ticked batch) := runOnce_apply rfl batch slave.data.manager
  have reported : (slave.data.manager.ticked batch).outputs.drop
      slave.data.manager.outputs.length = List.replicate batch.length .timedOut :=
    List.drop_left
  unfold Party.tick
  simp only [ran, after_ok, reported, timeoutCb_replicate, List.length_eq_zero_iff]
  split
  · next enabled =>
    rw [Option.some_inj, eq_comm, and_iff_right enabled]
    rfl
  · next disabled => simp [disabled]

/-- A tick raises no HIP. -/
theorem Party.hip_mem_ticked (slave : Party τ) (batch : List (Timer TimerCallback)) :
    .hipReceived ∈ (slave.ticked batch).data.events ↔ .hipReceived ∈ slave.data.events := by
  unfold Party.ticked
  dsimp only
  split
  · exact Iff.rfl
  · simp [EventSet.notify]

/-- A call of `send_data` changes the manager only, and leaves its timers alone. -/
theorem Party.sendData_eq (slave : Party τ) (blocks : List BlockView) :
    ∃ manager, slave.sendData setup blocks =
        { slave with data := { slave.data with manager := manager } } ∧
      slave.data.manager.Same manager ∧
      Changes setup.environment True slave.data.manager manager := by
  unfold Party.sendData
  split
  · have same : Keeps slave.data.manager.Same (Hdcp.Slave.sendData setup.environment blocks) :=
      (State.Same.unwritten slave.data.manager).sendData blocks
    have sent := same slave.data.manager ⟨rfl, rfl, rfl, rfl⟩
    have changing : Changing setup.environment (Hdcp.Slave.sendData setup.environment blocks) :=
      sendData_changing blocks
    have changes := changing.changes slave.data.manager
    refine ⟨_, ?_, sent, changes⟩
    unfold onManager
    cases Hdcp.Slave.sendData setup.environment blocks slave.data.manager with
    | ok value manager => rfl
    | error error manager => rfl
  · exact ⟨slave.data.manager, rfl, ⟨rfl, rfl, rfl, rfl⟩, .refl⟩

end Ticks

/-- What a step does to the slave and its thread. -/
inductive Lives (setup : Setup τ) (life : Life τ) : Move τ → Party τ → Phase → Prop where
  /-- An entry of the state machine. -/
  | wakeup (party : Party τ) (alive : life.phase ≠ .stopped)
      (wakes : Wakes setup life.party party) :
      Lives setup life .wakeup party life.phase
  /-- A tick. -/
  | tick (batch : List (Timer TimerCallback)) (running : life.data.manager.running = true)
      (taken : batch.Perm
        (life.data.manager.timeoutQueue.expired life.data.manager.now)) :
      Lives setup life (.tick batch) (life.party.ticked batch) life.phase
  /-- A call of `send_data`. -/
  | sendData (blocks : List BlockView) :
      Lives setup life (.sendData blocks) (life.party.sendData setup blocks) life.phase
  /-- The transport changes without opening. -/
  | changed (transport : τ)
      (unopened : setup.transport.isOpen transport = true → life.isOpen setup = true) :
      Lives setup life (.changed transport)
        { life.party with data := life.data.withTransport transport } life.phase
  /-- The transport opens. -/
  | opened (transport : τ) (isOpen : setup.transport.isOpen transport = true) :
      Lives setup life (.opened transport)
        { life.party with data := life.data.withTransport transport } life.phase
  /-- A call of `stop`. -/
  | stop (running : life.phase = .running) : Lives setup life .stop life.party .stopping
  /-- The end of `stop`. -/
  | joined (transport : τ) (stopping : life.phase = .stopping)
      (first : life.party.machine.position = 0) :
      Lives setup life (.joined transport)
        { life.party with
          data :=
            { life.data with
              manager := { life.data.manager with running := false, transport := transport } } }
        .stopped
  /-- A call of `start`. -/
  | start (transport : τ) (stopped : life.phase = .stopped) :
      Lives setup life (.start transport) ⟨.entered .init, life.data.withTransport transport⟩
        .running

/-- What a step does. -/
theorem Life.act_lives {setup : Setup τ} {life : Life τ} {move : Move τ} {party : Party τ}
    {phase : Phase} (acted : life.act setup move = some (party, phase))
    (awake : life.party.machine.waiting = false) : Lives setup life move party phase := by
  cases move with
  | wakeup =>
    simp only [Life.act] at acted
    split at acted
    · contradiction
    · next alive =>
      obtain ⟨woken, went, same⟩ := Option.map_eq_some_iff.mp acted
      cases same
      exact .wakeup party alive (wakeup_wakes setup went awake)
  | tick batch =>
    obtain ⟨ticked, went, same⟩ := Option.map_eq_some_iff.mp acted
    cases same
    obtain ⟨⟨running, perm⟩, rfl⟩ := (Party.tick_eq_some_iff setup _ _ batch).mp went
    exact .tick batch running perm
  | sendData blocks =>
    cases acted
    exact .sendData blocks
  | changed transport =>
    simp only [Life.act] at acted
    split at acted
    · contradiction
    · next fine =>
      cases acted
      refine .changed transport fun isOpen => ?_
      by_contra closed
      exact fine ⟨isOpen, Bool.eq_false_of_not_eq_true closed⟩
  | opened transport =>
    simp only [Life.act] at acted
    split at acted
    · next isOpen =>
      cases acted
      exact .opened transport isOpen
    · contradiction
  | stop =>
    simp only [Life.act] at acted
    split at acted
    · next running =>
      cases acted
      exact .stop running
    · contradiction
  | joined transport =>
    simp only [Life.act] at acted
    split at acted
    · next ready =>
      cases acted
      exact .joined transport ready.1 ready.2
    · contradiction
  | start transport =>
    simp only [Life.act] at acted
    split at acted
    · next stopped =>
      cases acted
      exact .start transport stopped
    · contradiction

/-- What holds of a slave at any time: when its manager cannot run, and when no HIP is pending. -/
structure Sound (slave : Party τ) (phase : Phase) : Prop where
  /-- The machine never waits between wakeups. -/
  awake : slave.machine.waiting = false
  /-- A wakeup counts from its first entry. -/
  begun : slave.machine.position ≠ 0 → slave.machine.nbLoop ≠ 0
  /-- A stopped slave has stopped its manager. -/
  stopped : phase = .stopped → slave.data.manager.running = false
  /-- Before its first session the manager does not run. -/
  init : slave.state = .init → slave.data.manager.running = false
  /-- The first wakeup in state disconnected stops the manager. -/
  disconnected : slave.state = .disconnected → slave.machine.nbLoop ≠ 0 →
    slave.data.manager.running = false
  /-- A session begins with a manager that does not run. -/
  connecting : slave.state = .connecting → slave.machine.nbLoop = 0 →
    slave.data.manager.running = false
  /-- The HIP that opens a session is consumed. -/
  unpending : slave.state = .connecting → .hipReceived ∉ slave.data.events
  /-- The HIP that ends a session stops the manager. -/
  ended : slave.state = .connected → .hipReceived ∈ slave.data.events →
    slave.data.manager.running = false

/-- A slave as constructed. -/
theorem sound_started (transport : τ) : Sound (Party.started transport) .stopped where
  awake := rfl
  begun := fun later => absurd rfl later
  stopped := fun _ => rfl
  init := fun _ => rfl
  disconnected := fun _ _ => rfl
  connecting := fun _ _ => rfl
  unpending := fun elsewhere => by contradiction
  ended := fun _ _ => rfl

/-- A slave that just moved to state disconnected. -/
theorem sound_disconnected (data : Data τ) {phase : Phase} (alive : phase ≠ .stopped) :
    Sound (.movedTo .disconnected data) phase where
  awake := rfl
  begun := fun later => absurd rfl later
  stopped := fun stopped => absurd stopped alive
  init := fun elsewhere => by contradiction
  disconnected := fun _ later => absurd rfl later
  connecting := fun elsewhere => by contradiction
  unpending := fun elsewhere => by contradiction
  ended := fun elsewhere => by contradiction

/-- A handler keeps a slave sound. -/
theorem Sound.handled {setup : Setup τ} {state : State} {nbLoop : Nat} {data : Data τ}
    {phase : Phase} (sound : Sound (.at state nbLoop 0 data) phase) (alive : phase ≠ .stopped)
    (position : Nat) :
    Sound (.at state (nbLoop + 1) position (after (handler setup state (nbLoop + 1) data)))
      phase := by
  refine ⟨rfl, fun _ => Nat.succ_ne_zero nbLoop, fun stopped => absurd stopped alive, ?_, ?_,
    fun _ none => absurd none (Nat.succ_ne_zero nbLoop), ?_, ?_⟩
  · rintro rfl
    have idle : data.manager.running = false := sound.init rfl
    have kept := @handler_idle τ setup .init (nbLoop + 1) data idle
    exact kept fun elsewhere => by contradiction
  · rintro rfl -
    cases nbLoop with
    | zero => exact disconnected_idle setup data
    | succ nbLoop =>
      have idle : data.manager.running = false := sound.disconnected rfl (Nat.succ_ne_zero nbLoop)
      exact handler_idle setup idle fun elsewhere => by contradiction
  · rintro rfl
    have absent : Event.hipReceived ∉ data.events := sound.unpending rfl
    have heard := @handler_heard τ setup .connecting (nbLoop + 1) data (by decide)
    rcases heard with ⟨same, -⟩ | ⟨message, event, raises, raised, -, -⟩
    · exact fun pending => absent (same ▸ pending)
    · cases raises with
      | hip _ _ listens type => rcases listens with other | other <;> contradiction
      | ka type =>
        intro pending
        change Event.hipReceived ∈ (after (handler setup .connecting (nbLoop + 1) data)).events
          at pending
        rw [raised, EventSet.notify, Finset.mem_insert] at pending
        rcases pending with other | pending
        · contradiction
        · exact absent pending
  · rintro rfl pending
    have heard := @handler_heard τ setup .connected (nbLoop + 1) data (by decide)
    rcases heard with ⟨same, -⟩ | ⟨message, event, raises, raised, -, stopped⟩
    · have idle : data.manager.running = false := sound.ended rfl (same ▸ pending)
      exact handler_idle setup idle fun elsewhere => by contradiction
    · exact stopped rfl

/-- An entry keeps a slave sound. -/
theorem Sound.wakes {setup : Setup τ} {slave next : Party τ} {phase : Phase}
    (sound : Sound slave phase) (wakes : Wakes setup slave next) (alive : phase ≠ .stopped) :
    Sound next phase := by
  cases wakes with
  | handled state nbLoop data returns => exact sound.handled alive 1
  | thrown state nbLoop data throws => exact sound.handled alive 0
  | begun nbLoop data => exact sound_disconnected data alive
  | closed state nbLoop data other isClosed => exact sound_disconnected _ alive
  | stillOpen state nbLoop data other isOpen =>
    exact ⟨rfl, fun _ => sound.begun (Nat.succ_ne_zero _), sound.stopped, sound.init,
      sound.disconnected, sound.connecting, sound.unpending, sound.ended⟩
  | kaTimeout state nbLoop data session pending => exact sound_disconnected _ alive
  | noKaTimeout state nbLoop data session absent =>
    exact ⟨rfl, fun _ => sound.begun (Nat.succ_ne_zero _), sound.stopped, sound.init,
      sound.disconnected, sound.connecting, sound.unpending, sound.ended⟩
  | hipReceived state nbLoop position data last pending =>
    have idle : data.manager.running = false := by
      rcases last with ⟨rfl, rfl⟩ | ⟨rfl, -⟩
      · exact sound.disconnected rfl (sound.begun (Nat.succ_ne_zero 1))
      · exact sound.ended rfl pending
    exact ⟨rfl, fun later => absurd rfl later, fun _ => idle, fun _ => idle, fun _ _ => idle,
      fun _ _ => idle, fun _ => Finset.notMem_erase _ _, fun _ _ => idle⟩
  | noHip state nbLoop position data last absent =>
    exact ⟨rfl, fun later => absurd rfl later, sound.stopped, sound.init, sound.disconnected,
      sound.connecting, sound.unpending, sound.ended⟩
  | connected nbLoop data pending =>
    have absent : Event.hipReceived ∉ data.events := sound.unpending rfl
    exact ⟨rfl, fun later => absurd rfl later, fun stopped => absurd stopped alive,
      fun elsewhere => by contradiction, fun elsewhere => by contradiction,
      fun elsewhere => by contradiction, fun elsewhere => by contradiction,
      fun _ raised => absurd (Finset.mem_of_mem_erase raised) absent⟩
  | notConnected nbLoop data absent =>
    exact ⟨rfl, fun later => absurd rfl later, sound.stopped, sound.init, sound.disconnected,
      sound.connecting, sound.unpending, sound.ended⟩

/-- Each step keeps a slave sound. -/
theorem Sound.lives {setup : Setup τ} {life : Life τ} {move : Move τ} {next : Party τ}
    {phase : Phase} (sound : Sound life.party life.phase)
    (lives : Lives setup life move next phase) : Sound next phase := by
  cases lives with
  | wakeup _ alive wakes => exact sound.wakes wakes alive
  | tick batch running perm =>
    have same := Party.hip_mem_ticked life.party batch
    exact ⟨sound.awake, sound.begun, sound.stopped, sound.init, sound.disconnected,
      sound.connecting, fun connecting raised => sound.unpending connecting (same.mp raised),
      fun connected raised => sound.ended connected (same.mp raised)⟩
  | sendData blocks =>
    obtain ⟨manager, sent, same, -⟩ := Party.sendData_eq setup life.party blocks
    rw [sent]
    have idle : life.data.manager.running = false → manager.running = false :=
      fun idle => same.running.trans idle
    exact ⟨sound.awake, sound.begun, fun stopped => idle (sound.stopped stopped),
      fun init => idle (sound.init init), fun first later => idle (sound.disconnected first later),
      fun first later => idle (sound.connecting first later), sound.unpending,
      fun connected raised => idle (sound.ended connected raised)⟩
  | changed transport unopened =>
    exact ⟨sound.awake, sound.begun, sound.stopped, sound.init, sound.disconnected,
      sound.connecting, sound.unpending, sound.ended⟩
  | opened transport isOpen =>
    exact ⟨sound.awake, sound.begun, sound.stopped, sound.init, sound.disconnected,
      sound.connecting, sound.unpending, sound.ended⟩
  | stop running =>
    exact ⟨sound.awake, sound.begun, fun stopped => by contradiction, sound.init,
      sound.disconnected, sound.connecting, sound.unpending, sound.ended⟩
  | joined transport stopping first =>
    exact ⟨sound.awake, sound.begun, fun _ => rfl, fun _ => rfl, fun _ _ => rfl, fun _ _ => rfl,
      sound.unpending, fun _ _ => rfl⟩
  | start transport stopped =>
    have idle := sound.stopped stopped
    exact ⟨rfl, fun later => absurd rfl later, fun _ => idle, fun _ => idle, fun _ _ => idle,
      fun _ _ => idle, fun elsewhere => by contradiction, fun _ _ => idle⟩

/-- The slave is sound. -/
def Life.Sound (life : Life τ) : Prop := Slave.Sound life.party life.phase

/-- What a step of a sound slave does; it is sound after it. -/
theorem Life.Sound.step {setup : Setup τ} {life next : Life τ} {move : Move τ}
    (sound : life.Sound) (taken : life.step setup move = some next) :
    ∃ party phase, life.act setup move = some (party, phase) ∧ Lives setup life move party phase ∧
      next = life.marked setup move party phase ∧ next.Sound := by
  obtain ⟨⟨party, phase⟩, acted, rfl⟩ := Option.map_eq_some_iff.mp taken
  have lives := Life.act_lives acted (Sound.awake sound)
  exact ⟨party, phase, acted, lives, rfl, Sound.lives sound lives⟩

/-- A slave is sound at any time of its life. -/
theorem sound_run {setup : Setup τ} {transport : τ} {moves : List (Move τ)} {life : Life τ}
    (run : Run (Steps (Life.step setup)) (.initial transport) moves life) : life.Sound := by
  refine run.invariant ?_ (sound_started transport)
  intro life move next sound taken
  obtain ⟨_, _, -, -, -, after⟩ := Life.Sound.step sound taken
  exact after

end Hdcp.Appli.Slave
