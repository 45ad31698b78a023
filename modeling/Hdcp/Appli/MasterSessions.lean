import Hdcp.Appli.MasterEvents
import Hdcp.Appli.MasterWatch
import Hdcp.Appli.SlaveSessions
import Hdcp.Master.Ownership

/-!
# What a session of the master begins with

State connecting is entered with a manager that does not run, so that `start` clears it: what the
manager holds and calls in the session was made in it, and packet ids start at one. While the
transport stays open and nothing fails to be sent, the first packet written is a HIP and the ids of
all follow one another.
-/

namespace Hdcp.Appli.Master

open Base
open Hdcp.Master hiding State Event

variable {τ κ : Type}

/-- `start` clears the manager. -/
def Clears (manager : Hdcp.Master.State τ κ) : Prop :=
  ∃ cleared, start manager = .ok () cleared ∧ cleared.running = true ∧
    cleared.requests.entries = [] ∧ cleared.timeoutQueue.timers = [] ∧ cleared.packetId = 0

/-- The master is past the first handler call of a session. -/
def Begun (master : Party τ κ) : Prop :=
  master.state = .connecting ∧ master.machine.nbLoop ≠ 0 ∨ master.state = .connected

/-- The operations of a step that send a packet for the first time do not throw. -/
def Life.Sends (setup : Setup τ κ) (life : Life τ κ) : Move τ κ → Prop
  -- In state connecting the handler throws only when it fails to send a HIP.
  | .wakeup => life.party.machine.position = 0 →
      (life.state = .connecting →
        Returns setup .connecting (life.party.machine.nbLoop + 1) life.data) ∧
      (life.state = .connected → life.party.machine.nbLoop = 0 →
        ∃ manager, startKeepaliveManagement setup.environment keepaliveInterval keepaliveTimeout
          life.data.manager = .ok () manager)
  | .tick batch => KeepalivesSent setup.environment batch
      (life.data.manager.withFields life.data.manager.toFields.ticked)
  | .sendCommand id data cb => life.state = .connected →
      ∃ manager, Hdcp.Master.sendCommand setup.environment id data cb commandTimeout
        life.data.manager = .ok () manager
  | _ => True

/-- A step of a session during which the transport stays open and nothing fails to be sent. -/
structure SessionStep (setup : Setup τ κ) (life : Life τ κ) (move : Move τ κ) (next : Life τ κ) :
    Prop where
  /-- It is a step. -/
  taken : life.step setup move = some next
  /-- The session goes on. -/
  inside : InSession next.state
  /-- The transport is open, after its queues are cleared as well. -/
  isOpen : life.isOpen setup = true ∧ (life.party.machine = .entered .connecting →
    setup.transport.isOpen (setup.transport.clearQueues life.data.manager.transport) = true)
  /-- What is sent is sent. -/
  sends : life.Sends setup move

section Owning

variable {setup : Setup τ κ} {first : Nat} {before : List (Output κ)}

/-- Manager and queues may change. -/
theorem own_touching {α : Type} {action : Handler τ κ α} (touching : Touching setup True action) :
    Keeps (fun data => Own first before (Data.manager data)) action :=
  touching.keeps (Own first before) (fun _ _ change own => own.change change)
    fun _ _ _ own => ⟨own.issued, own.timers, own.requests, own.called⟩

/-- Past the first handler call of a session every step leaves what the manager owns. -/
theorem own_lives {life : Life τ κ} {move : Move τ κ} {party : Party τ κ} {phase : Phase}
    (lives : Lives setup life move party phase) (begun : Begun life.party)
    (own : Own first before life.data.manager) : Own first before party.data.manager := by
  have handled : ∀ state nbLoop, (state = .connecting → nbLoop ≠ 0) →
      Keeps (fun data => Own first before (Data.manager data))
        (handler setup state (nbLoop + 1)) := by
    intro state nbLoop later
    refine own_touching (handler_touching setup state (nbLoop + 1) fun connecting same => ?_)
    exact later connecting (Nat.succ_injective same)
  have inside : ∀ {state : State} {nbLoop position : Nat} {data : Data τ κ},
      Begun (.at state nbLoop position data) → state = .connecting → nbLoop ≠ 0 := by
    rintro state nbLoop position data (⟨-, later⟩ | connected) rfl
    · exact later
    · contradiction
  cases lives with
  | wakeup _ alive wakes =>
    obtain ⟨master, before, firstTimer, raised, asked⟩ := life
    cases wakes with
    | handled state nbLoop data returns => exact handled state nbLoop (inside begun) data own
    | thrown state nbLoop data errc throws => exact handled state nbLoop (inside begun) data own
    | waits nbLoop data =>
      exact handled .disconnected nbLoop (fun other => by contradiction) data own
    | woken nbLoop data pending => exact own
    | begun nbLoop data => exact own
    | requested nbLoop data pending => exact own
    | unrequested nbLoop data absent => exact own
    | closed state nbLoop data session isClosed => exact own
    | stillOpen state nbLoop data session isOpen => exact own
    | dipTimeout nbLoop data pending exhausted => exact own
    | noDipTimeout nbLoop data left => exact own
    | connected nbLoop data pending => exact own
    | notConnected nbLoop data absent => exact own
    | kaTimeout nbLoop data pending => exact own
    | noKaTimeout nbLoop data absent => exact own
    | dismissed nbLoop data pending => exact own
    | undismissed nbLoop data absent => exact own
  | tick batch running perm =>
    exact own.changes ((runOnce_changing batch).changes life.data.manager)
  | asyncConnect =>
    unfold Party.asyncConnect
    split <;> exact own
  | connectReturns => exact own
  | asyncDisconnect =>
    unfold Party.asyncDisconnect
    split <;> exact own
  | sendCommand id data cb =>
    obtain ⟨manager, sent, changes, -⟩ := Party.sendCommand_eq setup life.party id data cb
    rw [sent]
    exact own.changes changes
  | changed transport => exact ⟨own.issued, own.timers, own.requests, own.called⟩
  | stop running => exact own
  | joined transport stopping _ awake => exact ⟨own.issued, own.timers, own.requests, own.called⟩
  | start transport stopped => exact ⟨own.issued, own.timers, own.requests, own.called⟩

/-- The first handler call of a session makes the manager own what it holds. -/
theorem own_first {data : Data τ κ} (idle : data.manager.running = false)
    (issued : first ≤ data.manager.timeoutQueue.nextId) :
    Own first data.manager.outputs (after (handler setup .connecting 1 data)).manager := by
  rw [handler_first setup data idle]
  exact own_touching (attempt_touching setup) (data.begun setup) (own_started issued _)

/-- In a session a step leaves the manager with what it owns, or the session is still to begin and
nothing is given out. -/
theorem own_session {life : Life τ κ} {move : Move τ κ} {party : Party τ κ} {phase : Phase}
    (sound : Sound life.party life.phase) (lives : Lives setup life move party phase)
    (session : InSession life.state) (issued : first ≤ life.data.manager.timeoutQueue.nextId)
    (own : Begun life.party → Own first life.data.manager.outputs life.data.manager) :
    Own first life.data.manager.outputs party.data.manager ∨
      ¬ Begun party ∧ party.data.manager.outputs = life.data.manager.outputs := by
  by_cases begun : Begun life.party
  · exact .inl (own_lives lives begun (own begun))
  · have connecting : life.party.state = .connecting :=
      session.resolve_right fun connected => begun (.inr connected)
    have unbegun : life.party.machine.nbLoop = 0 := by
      by_contra later
      exact begun (.inl ⟨connecting, later⟩)
    have initially : life.party.machine.position = 0 := by
      by_contra later
      exact sound.begun (.inl later) unbegun
    have idle := sound.connecting connecting unbegun
    have quiet : ∀ data : Data τ κ, ¬ Begun { life.party with data := data } := fun data => begun
    cases lives with
    | wakeup _ alive wakes =>
      obtain ⟨master, before, firstTimer, raised, asked⟩ := life
      have outside : master.state ≠ .disconnected := by
        rw [connecting]
        decide
      cases wakes with
      | handled state nbLoop data returns =>
        obtain rfl : state = .connecting := connecting
        obtain rfl : nbLoop = 0 := unbegun
        exact .inl (own_first idle issued)
      | thrown state nbLoop data errc throws =>
        obtain rfl : state = .connecting := connecting
        obtain rfl : nbLoop = 0 := unbegun
        exact .inl (own_first idle issued)
      | waits nbLoop data => exact absurd rfl outside
      | woken nbLoop data pending => exact absurd rfl outside
      | begun nbLoop data => contradiction
      | requested nbLoop data pending => exact absurd rfl outside
      | unrequested nbLoop data absent => exact absurd rfl outside
      | closed state nbLoop data inside isClosed => contradiction
      | stillOpen state nbLoop data inside isOpen => contradiction
      | dipTimeout nbLoop data pending exhausted => contradiction
      | noDipTimeout nbLoop data left => contradiction
      | connected nbLoop data pending => contradiction
      | notConnected nbLoop data absent => contradiction
      | kaTimeout nbLoop data pending => contradiction
      | noKaTimeout nbLoop data absent => contradiction
      | dismissed nbLoop data pending => contradiction
      | undismissed nbLoop data absent => contradiction
    | tick batch running perm => exact absurd (running.symm.trans idle) (by decide)
    | asyncConnect =>
      right
      unfold Party.asyncConnect
      split
      · exact ⟨begun, rfl⟩
      · exact ⟨quiet _, rfl⟩
    | connectReturns => exact .inr ⟨quiet _, rfl⟩
    | asyncDisconnect =>
      right
      unfold Party.asyncDisconnect
      split
      · exact ⟨begun, rfl⟩
      · exact ⟨quiet _, rfl⟩
    | sendCommand id data cb =>
      obtain ⟨manager, sent, -, same⟩ := Party.sendCommand_eq setup life.party id data cb
      right
      rw [sent, same (by rw [connecting]; decide)]
      exact ⟨quiet _, rfl⟩
    | changed transport => exact .inr ⟨quiet _, rfl⟩
    | stop running => exact .inr ⟨quiet _, rfl⟩
    | joined transport stopping _ awake => exact .inr ⟨quiet _, rfl⟩
    | start transport stopped =>
      refine .inr ⟨?_, rfl⟩
      rintro (⟨other, -⟩ | other) <;> contradiction

/-- At any time of its life a master past the first handler call of a session owns what its manager
holds. -/
structure Life.Kept (life : Life τ κ) : Prop where
  /-- The master is sound. -/
  sound : life.Sound
  /-- Timers armed were armed in this session. -/
  recent : From life.firstTimer life.data.manager
  /-- So were those of pending requests. -/
  own : Begun life.party → Own life.firstTimer life.data.manager.outputs life.data.manager

/-- Each step leaves a master that owns what its manager holds. -/
theorem kept_step (setup : Setup τ κ) (life : Life τ κ) (move : Move τ κ) (next : Life τ κ)
    (kept : life.Kept) (taken : Steps (Life.step setup) life move next) : next.Kept := by
  obtain ⟨party, phase, -, lives, rfl, after⟩ := kept.sound.step taken
  refine ⟨after, recent_step lives after kept.recent, fun begun => ?_⟩
  have session : InSession party.state := begun.imp And.left id
  rcases session_lives lives session with continues | ⟨-, -, entered, -⟩
  · have stays : ¬ life.enters party = true := by
      intro enters
      obtain ⟨-, outside, entered, -⟩ := enters_lives lives enters
      have other := continues.2 (congrArg Machine.current entered)
      rw [outside] at other
      contradiction
    have own := own_session kept.sound lives continues.1 kept.recent.issued kept.own
    change Own (if _ then _ else _) _ _
    rw [if_neg stays]
    exact (own.resolve_right fun quiet => quiet.1 begun).anew
  · rcases begun with ⟨-, later⟩ | connected
    · exact absurd (congrArg Machine.nbLoop entered) later
    · have connecting : party.state = .connecting := congrArg Machine.current entered
      exact absurd (connecting.symm.trans connected) (by decide)

/-- A master owns what its manager holds at any time of its life. -/
theorem kept_run {transport : τ} {moves : List (Move τ κ)} {life : Life τ κ}
    (run : Run (Steps (Life.step setup)) (.initial transport) moves life) : life.Kept := by
  have initially : (Life.initial transport : Life τ κ).Kept :=
    ⟨sound_started transport, ⟨Nat.le_refl _, fun _ timer inside => by contradiction⟩,
      fun begun => by rcases begun with ⟨other, -⟩ | other <;> contradiction⟩
  exact run.invariant (kept_step setup) initially

end Owning

section Numbering

variable {setup : Setup τ κ} {before : List (Output κ)}

/-- The first wakeup in state connected, when its keepalive is sent. -/
theorem connected_first {data : Data τ κ} {manager : Hdcp.Master.State τ κ}
    (managed : startKeepaliveManagement setup.environment keepaliveInterval keepaliveTimeout
      data.manager = .ok () manager) :
    handler setup .connected 1 data =
      readPacket setup .connected (processConnected setup) (data.withManager manager) := by
  change (runIf (1 = 1) (onManager (startKeepaliveManagement setup.environment keepaliveInterval
    keepaliveTimeout)) >>= fun _ => readPacket setup .connected (processConnected setup)) data = _
  unfold runIf
  rw [if_pos rfl, bind_apply, onManager_apply managed]

/-- The later wakeups in state connected. -/
theorem connected_later (nbLoop : Nat) (later : nbLoop ≠ 1) :
    handler setup .connected nbLoop = readPacket setup .connected (processConnected setup) := by
  change (runIf (nbLoop = 1) (onManager (startKeepaliveManagement setup.environment
    keepaliveInterval keepaliveTimeout)) >>= fun _ =>
      readPacket setup .connected (processConnected setup)) = _
  unfold runIf
  rw [if_neg later, pure_bind]

/-- Another transport numbers no packet. -/
theorem opened_transport (manager : Hdcp.Master.State τ κ) (transport : τ)
    (opened : Opened before manager) : Opened before { manager with transport := transport } := by
  obtain ⟨more, hip, rest, grown, written, type, id, counts⟩ := opened
  exact ⟨more, hip, rest, grown, written, type, id, counts.numbered, counts.packetId,
    counts.pending, counts.issued⟩

/-- What loses no packet id goes on numbering. -/
theorem opened_touching {α : Type} {action : Handler τ κ α}
    (touching : Touching setup False action) :
    Keeps (fun data => Opened before (Data.manager data)) action :=
  touching.keeps (Opened before) (fun _ _ change opened => opened.change rfl change)
    fun manager transport _ => opened_transport manager transport

/-- What returns goes on numbering. -/
theorem opened_returns {α : Type} {action : Handler τ κ α} (touching : Touching setup True action)
    {data next : Data τ κ} {value : α} (returned : action data = .ok value next)
    (opened : Opened before data.manager) : Opened before next.manager :=
  touching.returns (Opened before) (fun _ _ change opened => opened.change rfl change)
    (fun manager transport _ => opened_transport manager transport) returned opened

/-- The first handler call of a session writes a HIP. -/
theorem opened_first {data : Data τ κ} (idle : data.manager.running = false)
    (isOpen : setup.transport.isOpen (setup.transport.clearQueues data.manager.transport) = true)
    (returns : Returns setup .connecting 1 data) :
    Opened data.manager.outputs (after (handler setup .connecting 1 data)).manager := by
  obtain ⟨status, next, returned⟩ := returns
  rw [returned]
  rw [handler_first setup data idle] at returned
  obtain ⟨due, polled, asked, rest⟩ := (bind_eq_ok_iff _ _ _ _ _).mp returned
  have first : attemptDue (data.begun setup) = .ok true (data.begun setup) := by
    have due : (data.begun setup).Due := .inl rfl
    rw [attemptDue_apply, decide_eq_true due]
    rfl
  rw [first] at asked
  cases asked
  obtain ⟨_, attempted, attempting, reading⟩ := (bind_eq_ok_iff _ _ _ _ _).mp rest
  rw [runIf, if_pos rfl] at attempting
  obtain ⟨_, counted, counting, sending⟩ := (bind_eq_ok_iff _ _ _ _ _).mp attempting
  cases counting
  obtain ⟨manager, sent, rfl⟩ := onManager_eq_ok sending
  have numbered : (data.begun setup).manager.isOpen setup.environment = true := isOpen
  have opened : Opened (data.begun setup).manager.outputs manager :=
    opened_sendHip rfl _ _ _ rfl rfl numbered sent
  exact opened_returns (readConnecting_touching setup) reading opened

/-- In a session nothing is written yet, or a HIP and what follows. -/
structure Numbers (before : List (Output κ)) (master : Party τ κ) : Prop where
  /-- The session goes on. -/
  inside : InSession master.state
  /-- Nothing is written before the first handler call. -/
  unbegun : ¬ Begun master → master.data.manager.outputs = before
  /-- The first packet was a HIP. -/
  opened : Begun master → Opened before master.data.manager

/-- The handlers of a session go on numbering when nothing fails to be sent. -/
theorem opened_handled {state : State} {nbLoop : Nat} {data : Data τ κ}
    (idle : state = .connecting → nbLoop = 0 → data.manager.running = false)
    (isOpen : state = .connecting → nbLoop = 0 →
      setup.transport.isOpen (setup.transport.clearQueues data.manager.transport) = true)
    (session : InSession state)
    (connecting : state = .connecting → Returns setup .connecting (nbLoop + 1) data)
    (connected : state = .connected → nbLoop = 0 →
      ∃ manager, startKeepaliveManagement setup.environment keepaliveInterval keepaliveTimeout
        data.manager = .ok () manager)
    (unbegun : state = .connecting → nbLoop = 0 → data.manager.outputs = before)
    (opened : (state = .connecting → nbLoop ≠ 0) → Opened before data.manager) :
    Opened before (after (handler setup state (nbLoop + 1) data)).manager := by
  rcases session with rfl | rfl
  · by_cases first : nbLoop = 0
    · subst first
      rw [← unbegun rfl rfl]
      exact opened_first (idle rfl rfl) (isOpen rfl rfl) (connecting rfl)
    · obtain ⟨status, next, returned⟩ := connecting rfl
      have touching := handler_touching setup .connecting (nbLoop + 1) fun _ same =>
        first (Nat.succ_injective same)
      rw [returned]
      exact opened_returns touching returned (opened fun _ => first)
  · have standing : Opened before data.manager := opened fun other => by contradiction
    by_cases first : nbLoop = 0
    · subst first
      obtain ⟨manager, managed⟩ := connected rfl rfl
      rw [connected_first managed]
      have changes := (startKeepaliveManagement_changing _ _ data.manager).1 _ manager managed
      exact opened_touching (readConnected_touching setup) (data.withManager manager)
        (standing.changes rfl changes)
    · rw [connected_later (nbLoop + 1) fun same => first (Nat.succ_injective same)]
      exact opened_touching (readConnected_touching setup) data standing

/-- A handler of a session goes on numbering when nothing fails to be sent. -/
theorem Numbers.handled {state : State} {nbLoop : Nat} {data : Data τ κ} {phase : Phase}
    (sound : Sound (.at state nbLoop 0 data) phase)
    (numbers : Numbers before (.at state nbLoop 0 data))
    (isOpen : Party.machine (.at state nbLoop 0 data) = .entered .connecting →
      setup.transport.isOpen (setup.transport.clearQueues data.manager.transport) = true)
    (connecting : state = .connecting → Returns setup .connecting (nbLoop + 1) data)
    (connected : state = .connected → nbLoop = 0 →
      ∃ manager, startKeepaliveManagement setup.environment keepaliveInterval keepaliveTimeout
        data.manager = .ok () manager) (position : Nat) (errc : Option ErrorCode) :
    Numbers before (.at state (nbLoop + 1) position
      ((after (handler setup state (nbLoop + 1) data)).withErrc errc)) := by
  have session : InSession state := numbers.inside
  have opened : Opened before (after (handler setup state (nbLoop + 1) data)).manager := by
    refine opened_handled ?_ ?_ session connecting connected ?_ fun later => ?_
    · rintro rfl rfl
      exact sound.connecting rfl rfl
    · rintro rfl rfl
      exact isOpen rfl
    · rintro rfl rfl
      refine numbers.unbegun ?_
      rintro (⟨-, later⟩ | other)
      · exact later rfl
      · contradiction
    · exact numbers.opened (session.imp (fun same => ⟨same, later same⟩) fun same => same)
  refine ⟨session, fun unbegun => absurd ?_ unbegun, fun _ => opened⟩
  exact session.imp (fun same => ⟨same, Nat.succ_ne_zero nbLoop⟩) fun same => same

/-- The next entry of the same wakeup writes nothing. -/
theorem Numbers.passed {state : State} {nbLoop position : Nat} {data : Data τ κ}
    (numbers : Numbers before (.at state nbLoop position data)) (later : Nat) :
    Numbers before (.at state nbLoop later data) :=
  ⟨numbers.inside, numbers.unbegun, numbers.opened⟩

/-- An entry of a session goes on numbering when nothing fails to be sent. -/
theorem Numbers.wakes {master next : Party τ κ} {phase : Phase} (sound : Sound master phase)
    (numbers : Numbers before master) (wakes : Wakes setup master next)
    (inside : InSession next.state)
    (isOpen : master.machine = .entered .connecting →
      setup.transport.isOpen (setup.transport.clearQueues master.data.manager.transport) = true)
    (sends : master.machine.position = 0 →
      (master.state = .connecting →
        Returns setup .connecting (master.machine.nbLoop + 1) master.data) ∧
      (master.state = .connected → master.machine.nbLoop = 0 →
        ∃ manager, startKeepaliveManagement setup.environment keepaliveInterval keepaliveTimeout
          master.data.manager = .ok () manager)) : Numbers before next := by
  have left : ∀ {data : Data τ κ} {source : State},
      ¬ InSession (Party.movedTo source .disconnected data).state := by
    rintro _ _ (other | other) <;> contradiction
  have session := numbers.inside
  cases wakes with
  | handled state nbLoop data returns =>
    obtain ⟨connecting, connected⟩ := sends rfl
    exact numbers.handled sound isOpen connecting connected 1
      (after (handler setup state (nbLoop + 1) data)).errc
  | thrown state nbLoop data errc throws =>
    obtain ⟨connecting, connected⟩ := sends rfl
    exact numbers.handled sound isOpen connecting connected 0 errc
  | waits nbLoop data => rcases session with other | other <;> contradiction
  | woken nbLoop data pending => rcases session with other | other <;> contradiction
  | begun nbLoop data => exact absurd inside left
  | requested nbLoop data pending => rcases session with other | other <;> contradiction
  | unrequested nbLoop data absent => rcases session with other | other <;> contradiction
  | closed state nbLoop data _ isClosed => exact absurd inside left
  | stillOpen state nbLoop data _ isOpen => exact numbers.passed 2
  | dipTimeout nbLoop data pending exhausted => exact absurd inside left
  | noDipTimeout nbLoop data stays => exact numbers.passed 3
  | connected nbLoop data pending =>
    have begun : Begun (.at .connecting nbLoop 3 data) :=
      .inl ⟨rfl, sound.begun (.inl (Nat.succ_ne_zero 2))⟩
    exact ⟨.inr rfl, fun unbegun => absurd (.inr rfl) unbegun, fun _ => numbers.opened begun⟩
  | notConnected nbLoop data absent => exact numbers.passed 0
  | kaTimeout nbLoop data pending => exact absurd inside left
  | noKaTimeout nbLoop data absent => exact numbers.passed 3
  | dismissed nbLoop data pending => exact absurd inside left
  | undismissed nbLoop data absent => exact numbers.passed 0

/-- A step that leaves the machine and the outputs alone goes on numbering. -/
theorem Numbers.of_same {master : Party τ κ} (numbers : Numbers before master) {data : Data τ κ}
    (outputs : data.manager.outputs = master.data.manager.outputs)
    (kept : Opened before master.data.manager → Opened before data.manager) :
    Numbers before { master with data := data } :=
  ⟨numbers.inside, fun unbegun => outputs.trans (numbers.unbegun unbegun),
    fun begun => kept (numbers.opened begun)⟩

/-- Past the first handler call of a session changes that lose no packet id go on numbering. -/
theorem Numbers.of_changes {master : Party τ κ} (numbers : Numbers before master)
    (begun : Begun master) {data : Data τ κ}
    (changes : Changes setup.environment False master.data.manager data.manager) :
    Numbers before { master with data := data } :=
  ⟨numbers.inside, fun unbegun => absurd begun unbegun,
    fun _ => (numbers.opened begun).changes rfl changes⟩

/-- Each step of a session in which nothing fails to be sent goes on numbering. -/
theorem numbers_step (life : Life τ κ) (move : Move τ κ) (next : Life τ κ)
    (standing : life.Sound ∧ Numbers before life.party)
    (step : SessionStep setup life move next) : next.Sound ∧ Numbers before next.party := by
  obtain ⟨sound, numbers⟩ := standing
  obtain ⟨taken, inside, ⟨-, isOpen⟩, sends⟩ := step
  obtain ⟨party, phase, -, lives, rfl, after⟩ := sound.step taken
  refine ⟨after, ?_⟩
  change Numbers before party
  cases lives with
  | wakeup _ alive wakes => exact numbers.wakes sound wakes inside isOpen sends
  | tick batch running perm =>
    have begun : Begun life.party := by
      refine numbers.inside.imp (fun connecting => ⟨connecting, fun unbegun => ?_⟩) fun same => same
      exact absurd (running.symm.trans (sound.connecting connecting unbegun)) (by decide)
    have taken : Changes setup.environment False life.data.manager _ :=
      (takeBatch_changing _).1 _ _ (takeBatch_apply _)
    exact numbers.of_changes begun (taken.trans (fireAll_keepalivesSent batch _ sends))
  | asyncConnect =>
    unfold Party.asyncConnect
    split
    · exact numbers
    · exact numbers.of_same rfl fun standing => standing
  | connectReturns => exact numbers.of_same rfl fun standing => standing
  | asyncDisconnect =>
    unfold Party.asyncDisconnect
    split
    · exact numbers
    · exact numbers.of_same rfl fun standing => standing
  | sendCommand id data cb =>
    by_cases connected : life.party.state = .connected
    · obtain ⟨manager, sent⟩ := sends connected
      have changes := (sendCommand_changing id data cb commandTimeout _).1 _ manager sent
      have applied : onManager (Hdcp.Master.sendCommand setup.environment id data cb commandTimeout)
          life.party.data = .ok () (life.party.data.withManager manager) := onManager_apply sent
      unfold Party.sendCommand
      rw [if_pos connected, applied]
      exact numbers.of_changes (.inr connected) changes
    · unfold Party.sendCommand
      rw [if_neg connected]
      exact numbers
  | changed transport => exact numbers.of_same rfl (opened_transport _ _)
  | stop running => exact numbers.of_same rfl fun standing => standing
  | joined transport stopping _ awake =>
    refine numbers.of_same rfl fun opened => ?_
    have stops : Change setup.environment False life.data.manager _ := .stopped _
    exact opened_transport _ transport (opened.change rfl stops)
  | start transport stopped => rcases inside with other | other <;> contradiction

/-- The packets written since some point. -/
def writtenSince (life entered : Life τ κ) : List Message :=
  writes (life.data.manager.outputs.drop entered.data.manager.outputs.length)

/-- In a session that was just entered nothing is written. -/
theorem numbers_entered {life : Life τ κ} (entered : life.party.machine = .entered .connecting) :
    Numbers life.data.manager.outputs life.party := by
  have connecting : life.party.state = .connecting := congrArg Machine.current entered
  refine ⟨.inl connecting, fun _ => rfl, fun begun => ?_⟩
  rcases begun with ⟨-, later⟩ | connected
  · exact absurd (congrArg Machine.nbLoop entered) later
  · exact absurd (connecting.symm.trans connected) (by decide)

/-- While nothing fails to be sent, the packets of a session are numbered, and a HIP is first. -/
theorem numbers_run {entered final : Life τ κ} {later : List (Move τ κ)} (sound : entered.Sound)
    (begins : entered.party.machine = .entered .connecting)
    (run : Run (SessionStep setup) entered later final) :
    Numbered (firstWrites (writtenSince final entered)) ∧
      ∀ hip ∈ (writtenSince final entered).head?,
        hip.packet.type = PacketType.hip.code ∧ hip.packet.id = 1 := by
  have standing : final.Sound ∧ Numbers entered.data.manager.outputs final.party :=
    run.invariant numbers_step ⟨sound, numbers_entered begins⟩
  unfold writtenSince
  by_cases begun : Begun final.party
  · obtain ⟨more, hip, rest, grown, written, type, id, counts⟩ := standing.2.opened begun
    have outputs : final.data.manager.outputs = entered.data.manager.outputs ++ more := grown
    rw [outputs, List.drop_left, written]
    refine ⟨counts.numbered, fun first same => ?_⟩
    obtain rfl := Option.some.inj same
    exact ⟨type, id⟩
  · have outputs : final.data.manager.outputs = entered.data.manager.outputs :=
      standing.2.unbegun begun
    rw [outputs, List.drop_length]
    exact ⟨rfl, fun first other => by contradiction⟩

end Numbering

/-- The sessions of a master start clean, whatever happens to it. -/
structure StartsClean (setup : Setup τ κ) : Prop where
  /-- State connecting is entered with a manager that does not run. -/
  entered : ∀ transport moves (life : Life τ κ) move next,
    Run (Steps (Life.step setup)) (.initial transport) moves life →
      life.step setup move = some next → life.enters next.party = true →
        next.party.machine = .entered .connecting ∧ next.data.manager.running = false ∧
          next.firstTimer = next.data.manager.timeoutQueue.nextId
  /-- `start`, which the first handler call of a session makes, then clears the manager. -/
  cleared : ∀ transport moves (life : Life τ κ),
    Run (Steps (Life.step setup)) (.initial transport) moves life →
      life.party.machine = .entered .connecting →
        life.data.manager.running = false ∧ Clears life.data.manager
  /-- After it timers and requests are the session's own. -/
  survives : ∀ transport moves (life : Life τ κ),
    Run (Steps (Life.step setup)) (.initial transport) moves life → Begun life.party →
      (∀ timer ∈ life.data.manager.timeoutQueue.timers, life.firstTimer ≤ timer.id) ∧
        ∀ request ∈ life.data.manager.requests.entries, life.firstTimer ≤ request.id
  /-- The callbacks that run in a session are its own. -/
  callbacks : ∀ transport moves (life : Life τ κ) move next,
    Run (Steps (Life.step setup)) (.initial transport) moves life →
      life.step setup move = some next → InSession life.state →
        (∀ batch, move = .tick batch → ∀ timer ∈ batch, life.firstTimer ≤ timer.id) ∧
          ∀ request, .called request ∈
            next.data.manager.outputs.drop life.data.manager.outputs.length →
              life.firstTimer ≤ request.id
  /-- In a session in which the transport stays open and nothing fails to be sent, the packets
  written, commands written again left out, are numbered from one on, and a HIP is first. -/
  numbered : ∀ transport moves (life : Life τ κ) move entered later final,
    Run (Steps (Life.step setup)) (.initial transport) moves life →
      life.step setup move = some entered → life.enters entered.party = true →
        Run (SessionStep setup) entered later final →
          Numbered (firstWrites (writtenSince final entered)) ∧
            ∀ hip ∈ (writtenSince final entered).head?,
              hip.packet.type = PacketType.hip.code ∧ hip.packet.id = 1

section Clean

variable {setup : Setup τ κ}

/-- `start` clears a manager that does not run. -/
theorem clears_idle {manager : Hdcp.Master.State τ κ} (idle : manager.running = false) :
    Clears manager :=
  ⟨_, start_apply manager idle, rfl, rfl, rfl, rfl⟩

/-- What a step that enters state connecting leaves. -/
theorem entered_step {life next : Life τ κ} {move : Move τ κ} (sound : life.Sound)
    (taken : life.step setup move = some next) (enters : life.enters next.party = true) :
    next.Sound ∧ next.party.machine = .entered .connecting ∧
      next.data.manager.running = false ∧
        next.firstTimer = next.data.manager.timeoutQueue.nextId := by
  obtain ⟨party, phase, -, lives, rfl, after⟩ := sound.step taken
  have inside : life.enters party = true := enters
  obtain ⟨-, -, entered, same⟩ := enters_lives lives inside
  have idle : party.data.manager.running = false :=
    Sound.connecting after (congrArg Machine.current entered) (congrArg Machine.nbLoop entered)
  have begins : (life.marked move party phase).firstTimer =
      life.data.manager.timeoutQueue.nextId := if_pos inside
  refine ⟨after, entered, idle, begins.trans ?_⟩
  exact congrArg (fun manager => manager.timeoutQueue.nextId) same.symm

/-- What a step gives to callbacks in a session is the session's own. -/
theorem callbacks_step {life next : Life τ κ} {move : Move τ κ} (kept : life.Kept)
    (taken : life.step setup move = some next) (session : InSession life.state) :
    (∀ batch, move = .tick batch → ∀ timer ∈ batch, life.firstTimer ≤ timer.id) ∧
      ∀ request, .called request ∈
        next.data.manager.outputs.drop life.data.manager.outputs.length →
          life.firstTimer ≤ request.id := by
  obtain ⟨party, phase, -, lives, rfl, -⟩ := kept.sound.step taken
  constructor
  · rintro batch rfl timer inside
    cases lives with
    | tick _ running perm =>
      exact kept.recent.timers running timer (List.mem_of_mem_filter (perm.mem_iff.mp inside))
  · intro request inside
    rcases own_session kept.sound lives session kept.recent.issued kept.own with own | ⟨-, same⟩
    · obtain ⟨more, grown, calls⟩ := own.called
      change .called request ∈ party.data.manager.outputs.drop _ at inside
      rw [grown, List.drop_left] at inside
      exact calls request inside
    · change .called request ∈ party.data.manager.outputs.drop _ at inside
      rw [same, List.drop_length] at inside
      contradiction

/-- The sessions of every master start clean. -/
theorem startsClean (setup : Setup τ κ) : StartsClean setup where
  entered := fun transport moves life move next run taken enters =>
    (entered_step (sound_run run) taken enters).2
  cleared := by
    intro transport moves life run entered
    have idle : life.data.manager.running = false :=
      Sound.connecting (sound_run run) (congrArg Machine.current entered)
        (congrArg Machine.nbLoop entered)
    exact ⟨idle, clears_idle idle⟩
  survives := fun transport moves life run begun =>
    have own := (kept_run run).own begun
    ⟨own.timers, own.requests⟩
  callbacks := fun transport moves life move next run taken session =>
    callbacks_step (kept_run run) taken session
  numbered := by
    intro transport moves life move entered later final run taken enters session
    obtain ⟨sound, begins, -⟩ := entered_step (sound_run run) taken enters
    exact numbers_run sound begins session

end Clean

end Hdcp.Appli.Master

namespace Hdcp.Appli

/-- Sessions start clean on both sides, whatever happens to either. -/
theorem sessions_startClean {τ κ σ : Type} (master : Master.Setup τ κ) (slave : Slave.Setup σ) :
    Master.StartsClean master ∧ Slave.StartsClean slave :=
  ⟨Master.startsClean master, Slave.startsClean slave⟩

end Hdcp.Appli
