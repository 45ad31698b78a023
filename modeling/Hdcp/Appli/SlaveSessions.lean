import Hdcp.Appli.SlaveEvents
import Hdcp.Slave.Ownership

/-!
# What a session of the slave begins with

State connecting is entered with a manager that does not run, be it from state disconnected or on a
HIP that ends another session, so that `start` clears it: the timers of the session were armed in
it, and packet ids start at one. While the transport stays open and nothing fails to be sent, the
first packet written is a DIP and the ids of all follow one another.
-/

namespace Hdcp.Appli.Slave

open Base
open Hdcp.Slave hiding State

variable {τ : Type}

/-- `start` clears the manager. -/
def Clears (manager : Hdcp.Slave.State τ) : Prop :=
  ∃ cleared, start manager = .ok () cleared ∧ cleared.running = true ∧
    cleared.timeoutQueue.timers = [] ∧ cleared.packetId = 0

/-- A session goes on, or begins. -/
def InSession (state : State) : Prop := state = .connecting ∨ state = .connected

/-- The slave is past the first handler call of a session. -/
def Begun (slave : Party τ) : Prop :=
  slave.state = .connecting ∧ slave.machine.nbLoop ≠ 0 ∨ slave.state = .connected

/-- The operations of a step that send a packet do not throw. -/
def Life.Sends (setup : Setup τ) (life : Life τ) : Move τ → Prop
  -- In a session the handlers throw only when they fail to send a packet.
  | .wakeup => life.party.machine.position = 0 → InSession life.state →
      Returns setup life.state (life.party.machine.nbLoop + 1) life.data
  | .sendData blocks => life.state = .connected →
      ∃ manager, Hdcp.Slave.sendData setup.environment blocks life.data.manager = .ok () manager
  | _ => True

/-- A step of a session during which the transport stays open and nothing fails to be sent. -/
structure SessionStep (setup : Setup τ) (life : Life τ) (move : Move τ) (next : Life τ) :
    Prop where
  /-- It is a step. -/
  taken : life.step setup move = some next
  /-- The session goes on. -/
  inside : InSession next.state
  /-- No other begins. -/
  stays : ¬ life.enters next.party = true
  /-- The transport is open. -/
  isOpen : life.isOpen setup = true
  /-- What is sent is sent. -/
  sends : life.Sends setup move

section Lives

variable {setup : Setup τ}

/-- A step into a session that does not begin one is a step of it. -/
theorem session_lives {life : Life τ} {move : Move τ} {party : Party τ} {phase : Phase}
    (lives : Lives setup life move party phase) (session : InSession party.state)
    (stays : ¬ life.enters party = true) :
    InSession life.state ∧ (party.state = .connecting → life.state = .connecting) := by
  have within : party.state = .connecting → life.state = .connecting := by
    intro inside
    by_contra outside
    exact stays (decide_eq_true ⟨outside, inside⟩)
  refine ⟨?_, within⟩
  rcases session with connecting | connected
  · exact .inl (within connecting)
  · cases lives with
    | wakeup _ alive wakes =>
      obtain ⟨slave, before, opened, entered, firstTimer, expired⟩ := life
      cases wakes with
      | handled state nbLoop data returns => exact .inr connected
      | thrown state nbLoop data throws => exact .inr connected
      | begun nbLoop data => contradiction
      | closed state nbLoop data other isClosed => contradiction
      | stillOpen state nbLoop data other isOpen => exact .inr connected
      | kaTimeout state nbLoop data session pending => contradiction
      | noKaTimeout state nbLoop data session absent => exact .inr connected
      | hipReceived state nbLoop position data last pending => contradiction
      | noHip state nbLoop position data last absent => exact .inr connected
      | connected nbLoop data pending => exact .inl rfl
      | notConnected nbLoop data absent => exact .inr connected
    | tick batch running perm => exact .inr connected
    | sendData blocks =>
      obtain ⟨manager, sent, -, -⟩ := Party.sendData_eq setup life.party blocks
      rw [sent] at connected
      exact .inr connected
    | changed transport unopened => exact .inr connected
    | opened transport isOpen => exact .inr connected
    | stop running => exact .inr connected
    | joined transport stopping first => exact .inr connected
    | start transport stopped => contradiction

end Lives

section Owning

variable {setup : Setup τ} {first : Nat}

/-- A transport arms no timer. -/
theorem own_transport (manager : Hdcp.Slave.State τ) (transport : τ) (own : Own first manager) :
    Own first { manager with transport := transport } :=
  ⟨own.issued, own.timers⟩

/-- A handler leaves what the manager owns. -/
theorem own_handled (state : State) (nbLoop : Nat) :
    Keeps (fun data => Own first (Data.manager data)) (handler setup state nbLoop) :=
  handler_keeps setup (Own first) (fun _ _ change own => own.change change)
    (fun manager transport _ => own_transport manager transport)
    (fun _ _ own => own_started own.issued) state nbLoop

/-- The first handler call of a session makes the manager own what it holds. -/
theorem own_first {data : Data τ} (idle : data.manager.running = false)
    (issued : first ≤ data.manager.timeoutQueue.nextId) :
    Own first (after (handler setup .connecting 1 data)).manager := by
  have rest : Touching setup (onManager (sendDip setup.environment setup.slaveId) >>= fun _ =>
      onManager (startKeepaliveManagement keepaliveTimeout) >>= fun _ =>
        readPacket setup .connecting (processConnecting setup)) :=
    .bind (.onManager (sendDip_changing _)) fun _ =>
      .bind (.onManager (startKeepaliveManagement_changing _)) fun _ =>
        readConnecting_touching setup
  rw [handler_first setup data idle]
  exact rest.keeps (Own first) (fun _ _ change own => own.change change)
    (fun manager transport _ => own_transport manager transport) _ (own_started issued)

/-- Every entry leaves what the manager owns. -/
theorem own_wakes {slave next : Party τ} (wakes : Wakes setup slave next)
    (own : Own first slave.data.manager) : Own first next.data.manager :=
  wakes.keeps_manager own_handled own

/-- Every step leaves what the manager owns. -/
theorem own_lives {life : Life τ} {move : Move τ} {party : Party τ} {phase : Phase}
    (lives : Lives setup life move party phase) (own : Own first life.data.manager) :
    Own first party.data.manager := by
  cases lives with
  | wakeup _ alive wakes => exact own_wakes wakes own
  | tick batch running perm =>
    exact ⟨own.issued,
      (TimeoutQueue.Follows.advance _ _).all_from own.issued own.timers⟩
  | sendData blocks =>
    obtain ⟨manager, sent, -, changes⟩ := Party.sendData_eq setup life.party blocks
    rw [sent]
    exact own.changes changes
  | changed transport unopened => exact own_transport _ transport own
  | opened transport isOpen => exact own_transport _ transport own
  | stop running => exact own
  | joined transport stopping first => exact ⟨own.issued, own.timers⟩
  | start transport stopped => exact own_transport _ transport own

/-- In a session a step leaves the manager with what it owns, or the session is still to begin. -/
theorem own_session {life : Life τ} {move : Move τ} {party : Party τ} {phase : Phase}
    (sound : Sound life.party life.phase) (lives : Lives setup life move party phase)
    (session : InSession life.state) (issued : first ≤ life.data.manager.timeoutQueue.nextId)
    (own : Begun life.party → Own first life.data.manager) (begins : Begun party) :
    Own first party.data.manager := by
  by_cases begun : Begun life.party
  · exact own_lives lives (own begun)
  · have connecting : life.party.state = .connecting :=
      session.resolve_right fun connected => begun (.inr connected)
    have unbegun : life.party.machine.nbLoop = 0 := by
      by_contra later
      exact begun (.inl ⟨connecting, later⟩)
    have initially : life.party.machine.position = 0 := by
      by_contra later
      exact sound.begun later unbegun
    have idle := sound.connecting connecting unbegun
    cases lives with
    | wakeup _ alive wakes =>
      obtain ⟨slave, before, opened, entered, firstTimer, expired⟩ := life
      cases wakes with
      | handled state nbLoop data returns =>
        obtain rfl : state = .connecting := connecting
        obtain rfl : nbLoop = 0 := unbegun
        exact own_first idle issued
      | thrown state nbLoop data throws =>
        obtain rfl : state = .connecting := connecting
        obtain rfl : nbLoop = 0 := unbegun
        exact own_first idle issued
      | begun nbLoop data => contradiction
      | closed state nbLoop data other isClosed => contradiction
      | stillOpen state nbLoop data other isOpen => contradiction
      | kaTimeout state nbLoop data session pending => contradiction
      | noKaTimeout state nbLoop data session absent => contradiction
      | hipReceived state nbLoop position data last pending =>
        rcases last with ⟨-, later⟩ | ⟨-, later⟩ <;>
          exact absurd (later.symm.trans initially) (by decide)
      | noHip state nbLoop position data last absent => exact absurd begins begun
      | connected nbLoop data pending => contradiction
      | notConnected nbLoop data absent => contradiction
    | tick batch running perm => exact absurd (running.symm.trans idle) (by decide)
    | sendData blocks =>
      obtain ⟨manager, sent, -, -⟩ := Party.sendData_eq setup life.party blocks
      rw [sent] at begins
      exact absurd begins begun
    | changed transport unopened => exact absurd begins begun
    | opened transport isOpen => exact absurd begins begun
    | stop running => exact absurd begins begun
    | joined transport stopping first => exact absurd begins begun
    | start transport stopped =>
      rcases begins with ⟨other, -⟩ | other <;> contradiction

/-- At any time of its life a slave past the first handler call of a session owns what its manager
holds. -/
structure Life.Kept (life : Life τ) : Prop where
  /-- The slave is sound. -/
  sound : life.Sound
  /-- Timers armed were armed in this session. -/
  recent : From life.firstTimer life.data.manager
  /-- So was every timer held. -/
  own : Begun life.party → Own life.firstTimer life.data.manager

/-- Each step leaves a slave that owns what its manager holds. -/
theorem kept_step (setup : Setup τ) (life : Life τ) (move : Move τ) (next : Life τ)
    (kept : life.Kept) (taken : Steps (Life.step setup) life move next) : next.Kept := by
  obtain ⟨party, phase, -, lives, rfl, after⟩ := kept.sound.step taken
  refine ⟨after, recent_step lives after kept.recent, fun begun => ?_⟩
  by_cases enters : life.enters party = true
  · obtain ⟨-, -, -, -, rfl⟩ := enters_lives lives enters
    rcases begun with ⟨-, later⟩ | other
    · exact absurd rfl later
    · contradiction
  · have session : InSession party.state := begun.imp And.left fun same => same
    have own := own_session kept.sound lives (session_lives lives session enters).1
      kept.recent.issued kept.own begun
    change Own (if _ then _ else _) _
    rw [if_neg enters]
    exact own

/-- A slave owns what its manager holds at any time of its life. -/
theorem kept_run {transport : τ} {moves : List (Move τ)} {life : Life τ}
    (run : Run (Steps (Life.step setup)) (.initial transport) moves life) : life.Kept := by
  have initially : (Life.initial transport : Life τ).Kept :=
    ⟨sound_started transport, ⟨Nat.le_refl _, fun _ timer inside => by contradiction⟩,
      fun begun => by rcases begun with ⟨other, -⟩ | other <;> contradiction⟩
  exact run.invariant (kept_step setup) initially

end Owning

section Numbering

variable {setup : Setup τ} {before : List Output}

/-- What returns goes on numbering. -/
theorem opened_returns {α : Type} {action : Handler τ α} (touching : Touching setup action)
    {data next : Data τ} {value : α} (returned : action data = .ok value next)
    (opened : Opened before data.manager) : Opened before next.manager :=
  touching.returns (Opened before) (fun _ _ change opened => opened.change change)
    (fun _ _ _ opened => opened.of_same rfl rfl) returned opened

/-- The first handler call of a session writes a DIP. -/
theorem opened_first {data : Data τ} (idle : data.manager.running = false)
    (isOpen : setup.transport.isOpen data.manager.transport = true)
    (returns : Returns setup .connecting 1 data) :
    Opened data.manager.outputs (after (handler setup .connecting 1 data)).manager := by
  obtain ⟨status, next, returned⟩ := returns
  rw [returned]
  rw [handler_first setup data idle] at returned
  obtain ⟨value, middle, sending, rest⟩ := (bind_eq_ok_iff _ _ _ _ _).mp returned
  obtain ⟨manager, sent, rfl⟩ := onManager_eq_ok sending
  have opened : Opened data.manager.outputs manager :=
    @opened_sendDip τ setup.environment data.manager.started manager _ value rfl isOpen sent
  have touching : Touching setup (onManager (startKeepaliveManagement keepaliveTimeout) >>=
      fun _ => readPacket setup .connecting (processConnecting setup)) :=
    .bind (.onManager (startKeepaliveManagement_changing _)) fun _ =>
      readConnecting_touching setup
  exact opened_returns touching rest opened

/-- In a session nothing is written yet, or a DIP and what follows. -/
structure Numbers (before : List Output) (slave : Party τ) : Prop where
  /-- The session goes on. -/
  inside : InSession slave.state
  /-- Nothing is written before the first handler call. -/
  unbegun : ¬ Begun slave → slave.data.manager.outputs = before
  /-- The first packet was a DIP. -/
  opened : Begun slave → Opened before slave.data.manager

/-- A handler of a session that returns goes on numbering. -/
theorem Numbers.handled {state : State} {nbLoop : Nat} {data : Data τ} {phase : Phase}
    (sound : Sound (.at state nbLoop 0 data) phase)
    (numbers : Numbers before (.at state nbLoop 0 data))
    (isOpen : setup.transport.isOpen data.manager.transport = true)
    (returns : Returns setup state (nbLoop + 1) data) (position : Nat) :
    Numbers before (.at state (nbLoop + 1) position
      (after (handler setup state (nbLoop + 1) data))) := by
  have session : InSession state := numbers.inside
  have opened : Opened before (after (handler setup state (nbLoop + 1) data)).manager := by
    by_cases first : state = .connecting ∧ nbLoop = 0
    · obtain ⟨rfl, rfl⟩ := first
      have unwritten : data.manager.outputs = before := by
        refine numbers.unbegun ?_
        rintro (⟨-, later⟩ | other)
        · exact later rfl
        · contradiction
      rw [← unwritten]
      exact opened_first (sound.connecting rfl rfl) isOpen returns
    · have touching := handler_touching setup state (nbLoop + 1) fun connecting same =>
        first ⟨connecting, Nat.succ_injective same⟩
      have begun : Begun (.at state nbLoop 0 data) :=
        session.imp (fun same => ⟨same, fun none => first ⟨same, none⟩⟩) fun same => same
      obtain ⟨status, next, returned⟩ := returns
      rw [returned]
      exact opened_returns touching returned (numbers.opened begun)
  refine ⟨session, fun unbegun => absurd ?_ unbegun, fun _ => opened⟩
  exact session.imp (fun same => ⟨same, Nat.succ_ne_zero nbLoop⟩) fun same => same

/-- What leaves the machine and the manager's packets alone goes on numbering. -/
theorem Numbers.of_same {slave : Party τ} (numbers : Numbers before slave) {data : Data τ}
    (outputs : data.manager.outputs = slave.data.manager.outputs)
    (packetId : data.manager.packetId = slave.data.manager.packetId) :
    Numbers before { slave with data := data } :=
  ⟨numbers.inside, fun unbegun => outputs.trans (numbers.unbegun unbegun),
    fun begun => (numbers.opened begun).of_same outputs packetId⟩

/-- The next entry of the same wakeup writes nothing. -/
theorem Numbers.passed {state : State} {nbLoop position : Nat} {data next : Data τ}
    (numbers : Numbers before (.at state nbLoop position data)) (later : Nat)
    (same : next.manager = data.manager) : Numbers before (.at state nbLoop later next) :=
  ⟨numbers.inside, fun unbegun => same ▸ numbers.unbegun unbegun,
    fun begun => same ▸ numbers.opened begun⟩

/-- An entry of a session goes on numbering when nothing fails to be sent. -/
theorem Numbers.wakes {slave next : Party τ} {phase : Phase} (sound : Sound slave phase)
    (numbers : Numbers before slave) (wakes : Wakes setup slave next)
    (inside : InSession next.state)
    (stays : next.state = .connecting → slave.state = .connecting)
    (isOpen : setup.transport.isOpen slave.data.manager.transport = true)
    (sends : slave.machine.position = 0 → InSession slave.state →
      Returns setup slave.state (slave.machine.nbLoop + 1) slave.data) :
    Numbers before next := by
  have left : ∀ {data : Data τ}, ¬ InSession (Party.movedTo .disconnected data).state := by
    rintro _ (other | other) <;> contradiction
  have session := numbers.inside
  cases wakes with
  | handled state nbLoop data returns => exact numbers.handled sound isOpen returns 1
  | thrown state nbLoop data throws => exact absurd (sends rfl session) throws
  | begun nbLoop data => exact absurd inside left
  | closed state nbLoop data other isClosed => exact absurd inside left
  | stillOpen state nbLoop data other _ => exact numbers.passed 2 rfl
  | kaTimeout state nbLoop data _ pending => exact absurd inside left
  | noKaTimeout state nbLoop data _ absent => exact numbers.passed 3 rfl
  | hipReceived state nbLoop position data last pending =>
    -- a HIP begins another session
    obtain rfl : state = .connecting := stays rfl
    rcases last with ⟨other, -⟩ | ⟨other, -⟩ <;> contradiction
  | noHip state nbLoop position data last absent => exact numbers.passed 0 rfl
  | connected nbLoop data pending =>
    have begun : Begun (.at .connecting nbLoop 3 data) :=
      .inl ⟨rfl, sound.begun (Nat.succ_ne_zero 2)⟩
    exact ⟨.inr rfl, fun unbegun => absurd (.inr rfl) unbegun, fun _ => numbers.opened begun⟩
  | notConnected nbLoop data absent => exact numbers.passed 0 rfl

/-- Each step of a session in which nothing fails to be sent goes on numbering. -/
theorem numbers_step (life : Life τ) (move : Move τ) (next : Life τ)
    (standing : life.Sound ∧ Numbers before life.party)
    (step : SessionStep setup life move next) : next.Sound ∧ Numbers before next.party := by
  obtain ⟨sound, numbers⟩ := standing
  obtain ⟨taken, inside, stays, isOpen, sends⟩ := step
  obtain ⟨party, phase, -, lives, rfl, after⟩ := sound.step taken
  refine ⟨after, ?_⟩
  change Numbers before party
  have within := (session_lives lives inside stays).2
  cases lives with
  | wakeup _ alive wakes => exact numbers.wakes sound wakes inside within isOpen sends
  | tick batch running perm =>
    have begun : Begun life.party := by
      refine numbers.inside.imp (fun connecting => ⟨connecting, fun unbegun => ?_⟩) fun same => same
      exact absurd (running.symm.trans (sound.connecting connecting unbegun)) (by decide)
    have ran : runOnce setup.environment batch life.data.manager =
        .ok () (life.data.manager.ticked batch) := runOnce_apply rfl batch life.data.manager
    have changes := (runOnce_changing batch life.data.manager).1 _ _ ran
    exact ⟨numbers.inside, fun unbegun => absurd begun unbegun,
      fun _ => (numbers.opened begun).changes changes⟩
  | sendData blocks =>
    unfold Party.sendData
    by_cases connected : life.party.state = .connected
    · obtain ⟨manager, sent⟩ := sends connected
      have changes := (sendData_changing blocks life.data.manager).1 _ manager sent
      have applied : onManager (Hdcp.Slave.sendData setup.environment blocks) life.party.data =
          .ok () { life.party.data with manager := manager } := onManager_apply sent
      have begun : Begun life.party := .inr connected
      rw [if_pos connected, applied]
      exact ⟨numbers.inside, fun unbegun => absurd begun unbegun,
        fun _ => (numbers.opened begun).changes changes⟩
    · rw [if_neg connected]
      exact numbers
  | changed transport unopened => exact numbers.of_same rfl rfl
  | opened transport isOpen => exact numbers.of_same rfl rfl
  | stop running => exact numbers
  | joined transport stopping first => exact numbers.of_same rfl rfl
  | start transport stopped => rcases inside with other | other <;> contradiction

/-- The packets written since some point. -/
def writtenSince (life entered : Life τ) : List Message :=
  writes (life.data.manager.outputs.drop entered.data.manager.outputs.length)

/-- In a session that was just entered nothing is written. -/
theorem numbers_entered {life : Life τ} (entered : life.party.machine = .entered .connecting) :
    Numbers life.data.manager.outputs life.party := by
  have connecting : life.party.state = .connecting := congrArg Machine.current entered
  refine ⟨.inl connecting, fun _ => rfl, fun begun => ?_⟩
  rcases begun with ⟨-, later⟩ | connected
  · exact absurd (congrArg Machine.nbLoop entered) later
  · exact absurd (connecting.symm.trans connected) (by decide)

/-- While nothing fails to be sent, the packets of a session are numbered, and a DIP is first. -/
theorem numbers_run {entered final : Life τ} {later : List (Move τ)} (sound : entered.Sound)
    (begins : entered.party.machine = .entered .connecting)
    (run : Run (SessionStep setup) entered later final) :
    Numbered (writtenSince final entered) ∧
      ∀ dip ∈ (writtenSince final entered).head?,
        dip.packet.type = PacketType.dip.code ∧ dip.packet.id = 1 := by
  have standing : final.Sound ∧ Numbers entered.data.manager.outputs final.party :=
    run.invariant numbers_step ⟨sound, numbers_entered begins⟩
  unfold writtenSince
  by_cases begun : Begun final.party
  · obtain ⟨more, dip, rest, grown, written, type, id, numbered, -⟩ := standing.2.opened begun
    have outputs : final.data.manager.outputs = entered.data.manager.outputs ++ more := grown
    rw [outputs, List.drop_left, written]
    refine ⟨numbered, fun first same => ?_⟩
    obtain rfl := Option.some.inj same
    exact ⟨type, id⟩
  · have outputs : final.data.manager.outputs = entered.data.manager.outputs :=
      standing.2.unbegun begun
    rw [outputs, List.drop_length]
    exact ⟨rfl, fun first other => by contradiction⟩

end Numbering

/-- The sessions of a slave start clean, whatever happens to it. -/
structure StartsClean (setup : Setup τ) : Prop where
  /-- State connecting is entered with a manager that does not run. -/
  entered : ∀ transport moves (life : Life τ) move next,
    Run (Steps (Life.step setup)) (.initial transport) moves life →
      life.step setup move = some next → life.enters next.party = true →
        next.party.machine = .entered .connecting ∧ next.data.manager.running = false ∧
          next.firstTimer = next.data.manager.timeoutQueue.nextId
  /-- `start`, which the first handler call of a session makes, then clears the manager. -/
  cleared : ∀ transport moves (life : Life τ),
    Run (Steps (Life.step setup)) (.initial transport) moves life →
      life.party.machine = .entered .connecting →
        life.data.manager.running = false ∧ Clears life.data.manager
  /-- After it timers are the session's own. -/
  survives : ∀ transport moves (life : Life τ),
    Run (Steps (Life.step setup)) (.initial transport) moves life → Begun life.party →
      ∀ timer ∈ life.data.manager.timeoutQueue.timers, life.firstTimer ≤ timer.id
  /-- The callbacks that run in a session are its own. -/
  callbacks : ∀ transport moves (life : Life τ) batch next,
    Run (Steps (Life.step setup)) (.initial transport) moves life →
      life.step setup (.tick batch) = some next → InSession life.state →
        ∀ timer ∈ batch, life.firstTimer ≤ timer.id
  /-- In a session in which the transport stays open and nothing fails to be sent, the packets
  written are numbered from one on, and a DIP is first. -/
  numbered : ∀ transport moves (life : Life τ) move entered later final,
    Run (Steps (Life.step setup)) (.initial transport) moves life →
      life.step setup move = some entered → life.enters entered.party = true →
        Run (SessionStep setup) entered later final →
          Numbered (writtenSince final entered) ∧
            ∀ dip ∈ (writtenSince final entered).head?,
              dip.packet.type = PacketType.dip.code ∧ dip.packet.id = 1

section Clean

variable {setup : Setup τ}

/-- What a step that enters state connecting leaves. -/
theorem entered_step {life next : Life τ} {move : Move τ} (sound : life.Sound)
    (taken : life.step setup move = some next) (enters : life.enters next.party = true) :
    next.Sound ∧ next.party.machine = .entered .connecting ∧
      next.data.manager.running = false ∧
        next.firstTimer = next.data.manager.timeoutQueue.nextId := by
  obtain ⟨party, phase, -, lives, rfl, after⟩ := sound.step taken
  have inside : life.enters party = true := enters
  obtain ⟨-, -, -, -, rfl⟩ := enters_lives lives inside
  exact ⟨after, rfl, Sound.connecting after rfl rfl, if_pos inside⟩

/-- The timers of a tick are armed. -/
theorem callbacks_tick {life next : Life τ} {batch : List (Timer TimerCallback)}
    (kept : life.Kept) (taken : life.step setup (.tick batch) = some next) :
    ∀ timer ∈ batch, life.firstTimer ≤ timer.id := by
  obtain ⟨party, phase, -, lives, rfl, -⟩ := kept.sound.step taken
  intro timer inside
  cases lives with
  | tick _ running perm =>
    exact kept.recent.timers running timer (List.mem_of_mem_filter (perm.mem_iff.mp inside))

/-- The sessions of every slave start clean. -/
theorem startsClean (setup : Setup τ) : StartsClean setup where
  entered := fun transport moves life move next run taken enters =>
    (entered_step (sound_run run) taken enters).2
  cleared := by
    intro transport moves life run entered
    have idle : life.data.manager.running = false :=
      Sound.connecting (sound_run run) (congrArg Machine.current entered)
        (congrArg Machine.nbLoop entered)
    exact ⟨idle, _, start_apply _ idle, rfl, rfl, rfl⟩
  survives := fun transport moves life run begun => ((kept_run run).own begun).timers
  callbacks := fun transport moves life batch next run taken _ =>
    callbacks_tick (kept_run run) taken
  numbered := by
    intro transport moves life move entered later final run taken enters session
    obtain ⟨sound, begins, -⟩ := entered_step (sound_run run) taken enters
    exact numbers_run sound begins session

end Clean

end Hdcp.Appli.Slave
