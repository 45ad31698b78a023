import Hdcp.Appli.SlaveSessions
import Hdcp.Packet.Oversize

/-!
# Whom the slave is connected to

A HIP opens a session from two states. Read in state disconnected, its blocks fill the
identification of the master; read in state connected, it only clears what was known. As long as no
host that presents itself is read in state connected, nor replaced there, the identification
reported in a session is the one of the host whose HIP opened it.
-/

namespace Hdcp.Appli.Slave

open Base
open Hdcp.Slave hiding State

variable {τ : Type}

/-- A packet read opens a session: a HIP, in state disconnected or connected. -/
def Opens (read : State × Message) : Prop :=
  (read.1 = .disconnected ∨ read.1 = .connected) ∧ read.2.packet.type = PacketType.hip.code

instance (read : State × Message) : Decidable (Opens read) :=
  inferInstanceAs (Decidable (_ ∧ _))

/-- The packet read last of those that open a session. -/
def lastHip (reads : List (State × Message)) : Option Message :=
  (reads.filter fun read => Opens read).getLast?.map Prod.snd

/-- The identification packet on which state connecting was last entered. -/
def Life.opening (life : Life τ) : Option Message := lastHip (life.data.reads.take life.entered)

/-- What is known of the master is what a packet presents, if it presents a host. -/
def Shows (message : Message) (known : Identification) : Prop :=
  ∀ host, message.packet.blocks = Packet.identificationBlocks host → known = host

/-- What is known of the master is what the packet read last presents. -/
def Data.Knows (data : Data τ) : Prop := ∀ message ∈ lastHip data.reads, Shows message data.masterId

/-- In a session, what is known of the master is what the packet that opened it presents. -/
def Life.Reports (life : Life τ) : Prop :=
  InSession life.state → ∀ message ∈ life.opening, Shows message life.data.masterId

/-- No host presents itself in state connected, nor is one that did replaced there. -/
def Life.Introduced (setup : Setup τ) (life : Life τ) : Move τ → Prop
  | .wakeup => life.state = .connected → life.party.machine.position = 0 →
      ∀ message ∈ (setup.transport.read life.data.manager.transport).1,
        message.packet.type = PacketType.hip.code →
          Shows message .empty ∧ ∀ opening ∈ life.opening, Shows opening .empty
  | _ => True

section Presenting

/-- The blocks of a host's identification make up the host, whatever was known before. -/
theorem foldl_identificationBlocks (known host : Identification) :
    (Packet.identificationBlocks host).foldl .setBlock known = host := rfl

/-- The blocks of a packet that presents a host make up the host. -/
theorem shows_foldl (message : Message) (known : Identification) :
    Shows message (message.packet.blocks.foldl .setBlock known) := by
  intro host presented
  rw [presented]
  exact foldl_identificationBlocks known host

/-- A packet presents at most the host its blocks make up. -/
theorem shows_iff (message : Message) (known : Identification) :
    Shows message known ↔
      (message.packet.blocks =
          Packet.identificationBlocks (message.packet.blocks.foldl .setBlock .empty) →
        known = message.packet.blocks.foldl .setBlock .empty) := by
  constructor
  · intro shown presented
    exact shown _ presented
  · intro shown host presented
    have made := foldl_identificationBlocks .empty host
    rw [presented, made] at shown
    exact shown rfl

/-- A HIP made for a host that fits one packet presents it. -/
theorem blocks_makeHip (raw : Packet) (id : UInt16) (host : Identification) (packet : Packet)
    (fits : ((Packet.identificationBlocks host).map BlockView.size).sum ≤ maxPlSize)
    (made : Packet.makeHip raw id host = .ok packet) :
    packet.blocks = Packet.identificationBlocks host :=
  Packet.build_blocks raw id .hip 4 _ fits packet made

/-- A packet that opens no session leaves the last one that does. -/
theorem lastHip_silent (reads : List (State × Message)) (read : State × Message)
    (silent : ¬ Opens read) : lastHip (reads ++ [read]) = lastHip reads := by
  have none : ([read].filter fun read => Opens read) = [] := by simp [silent]
  rw [lastHip, List.filter_append, none, List.append_nil]
  rfl

/-- A packet that opens a session is the last one. -/
theorem lastHip_opens (reads : List (State × Message)) (read : State × Message)
    (opens : Opens read) : lastHip (reads ++ [read]) = some read.2 := by
  have one : ([read].filter fun read => Opens read) = [read] := by simp [opens]
  rw [lastHip, List.filter_append, one, List.getLast?_concat]
  rfl

end Presenting

section Learning

variable (setup : Setup τ)

/-- What is known of the master after a packet. -/
inductive Learnt (known : Identification) : State → Message → Identification → Prop where
  /-- A HIP read in state disconnected. -/
  | named (message : Message) (hip : message.packet.type = PacketType.hip.code) :
      Learnt known .disconnected message (message.packet.blocks.foldl .setBlock known)
  /-- A HIP read in state connected. -/
  | cleared (message : Message) (hip : message.packet.type = PacketType.hip.code) :
      Learnt known .connected message .empty
  /-- Any other packet. -/
  | kept (state : State) (message : Message) (silent : ¬ Opens (state, message)) :
      Learnt known state message known

/-- What a handler learns of the master. -/
inductive Learns (state : State) (data next : Data τ) : Prop where
  /-- No packet is read. -/
  | nothing (masterId : next.masterId = data.masterId) (reads : next.reads = data.reads)
  /-- A packet is read. -/
  | read (message : Message) (learnt : Learnt data.masterId state message next.masterId)
      (reads : next.reads = data.reads ++ [(state, message)])
      (found : state = .connected →
        (setup.transport.read data.manager.transport).1 = some message)

/-- The request manager knows no master. -/
theorem onManager_masterId {α : Type} {known : Identification} (action : Action τ α) :
    Keeps (fun data => data.masterId = known) (onManager action) := by
  intro data same
  unfold onManager
  cases action data.manager with
  | ok value manager => exact same
  | error error manager => exact same

/-- The test of a packet's id. -/
theorem checkPacketId_masterId {known : Identification} (packet : Packet) :
    Keeps (fun data => Data.masterId data = known) (checkPacketId packet : Handler τ Unit) := by
  refine .bind (.modify fun _ same => same) fun _ => .bind .get fun _ => ?_
  exact .runIf (.modify fun _ same => same)

/-- The test of a packet's id throws nothing. -/
theorem checkPacketId_returns (packet : Packet) (data : Data τ) :
    ∃ next, checkPacketId packet data = .ok () next := by
  unfold checkPacketId runIf
  rw [bind_apply, modify_apply]
  dsimp only
  rw [bind_apply, get_apply]
  dsimp only
  split
  · exact ⟨_, rfl⟩
  · exact ⟨_, rfl⟩

/-- Processing in state disconnected. -/
theorem processDisconnected_learnt (message : Message) (data : Data τ) :
    Learnt data.masterId .disconnected message
      (after (processDisconnected message data)).masterId := by
  unfold processDisconnected runIf
  by_cases hip : message.packet.type = PacketType.hip.code
  · rw [if_pos hip]
    exact .named message hip
  · rw [if_neg hip]
    exact .kept .disconnected message fun opens => hip opens.2

/-- Processing in state connecting. -/
theorem processConnecting_learnt (message : Message) (data : Data τ) :
    Learnt data.masterId .connecting message
      (after (processConnecting setup message data)).masterId := by
  have kept : Keeps (fun next => next.masterId = data.masterId)
      (processConnecting setup message) := by
    refine .bind (checkPacketId_masterId _) fun _ => .runIf ?_
    exact .bind (onManager_masterId _) fun _ => .modify fun _ same => same
  have same : (after (processConnecting setup message data)).masterId = data.masterId :=
    kept data rfl
  rw [same]
  exact .kept .connecting message fun opens => by rcases opens.1 with other | other <;> cases other

/-- Processing in state connected. -/
theorem processConnected_learnt (message : Message) (data : Data τ) :
    Learnt data.masterId .connected message
      (after (processConnected setup message data)).masterId := by
  have checked : Keeps (fun next => next.masterId = data.masterId)
      (checkPacketId message.packet : Handler τ Unit) := checkPacketId_masterId message.packet
  by_cases hip : message.packet.type = PacketType.hip.code
  · obtain ⟨middle, counted⟩ := checkPacketId_returns message.packet data
    unfold processConnected
    rw [bind_apply, counted, if_pos hip]
    exact .cleared message hip
  · have kept : Keeps (fun next => next.masterId = data.masterId)
        (processConnected setup message) := by
      unfold processConnected
      rw [if_neg hip]
      refine .bind checked fun _ => .choice ?_ (.choice (onManager_masterId _) (.pure _))
      refine .bind (onManager_masterId _) fun _ => .bind (onManager_masterId _) fun _ => ?_
      exact .runIf (.modify fun _ same => same)
    have same : (after (processConnected setup message data)).masterId = data.masterId :=
      kept data rfl
    rw [same]
    exact .kept .connected message fun opens => hip opens.2

/-- What the end of a handler learns of the master. -/
theorem readPacket_learns {state : State} {process : Message → Handler τ Unit}
    (processing : Processing state process)
    (learnt : ∀ message data,
      Learnt data.masterId state message (after (process message data)).masterId)
    (data : Data τ) : Learns setup state data (after (readPacket setup state process data)) := by
  rw [readPacket_apply]
  cases found : (setup.transport.read data.manager.transport).1 with
  | none => exact .nothing rfl rfl
  | some message =>
    generalize (setup.transport.read data.manager.transport).2 = transport
    have known := learnt message ((data.withTransport transport).reading state message)
    have reads := (processing message ((data.withTransport transport).reading state message)).1
    dsimp only
    rw [bind_apply]
    cases outcome : process message ((data.withTransport transport).reading state message) with
    | ok value next =>
      rw [outcome] at known reads
      exact .read message known reads fun _ => found
    | error error next =>
      rw [outcome] at known reads
      exact .read message known reads fun _ => found

/-- What comes before reading learns nothing. -/
theorem learns_after {state : State} {before : Handler τ Unit} {process : Message → Handler τ Unit}
    (processing : Processing state process)
    (learnt : ∀ message data,
      Learnt data.masterId state message (after (process message data)).masterId)
    (data : Data τ) (other : state ≠ .connected)
    (quiet : Keeps (fun next => Data.Tells next data.reads data.events) before)
    (unknown : Keeps (fun next => next.masterId = data.masterId) before) :
    Learns setup state data
      (after ((before >>= fun _ => readPacket setup state process) data)) := by
  have told := quiet data ⟨rfl, rfl⟩
  have same := unknown data rfl
  rw [bind_apply]
  cases outcome : before data with
  | error error middle =>
    rw [outcome] at told same
    exact .nothing same told.1
  | ok value middle =>
    rw [outcome] at told same
    obtain ⟨reads, -⟩ : middle.reads = data.reads ∧ middle.events = data.events := told
    have masterId : middle.masterId = data.masterId := same
    dsimp only
    cases readPacket_learns setup processing learnt middle with
    | nothing kept unread => exact .nothing (kept.trans masterId) (unread.trans reads)
    | read message known grown found =>
      rw [masterId] at known
      rw [reads] at grown
      exact .read message known grown fun connected => absurd connected other

/-- What a handler learns of the master. -/
theorem handler_learns {state : State} (nbLoop : Nat) (data : Data τ) (other : state ≠ .init) :
    Learns setup state data (after (handler setup state nbLoop data)) := by
  cases state with
  | init => contradiction
  | disconnected =>
    refine learns_after setup processDisconnected_processing processDisconnected_learnt data
      (by decide) (.runIf ?_) (.runIf ?_)
    · exact .bind (onManager_tells _) fun _ => onManager_tells _
    · exact .bind (onManager_masterId _) fun _ => onManager_masterId _
  | connecting =>
    refine learns_after setup (processConnecting_processing setup) (processConnecting_learnt setup)
      data (by decide) (.runIf ?_) (.runIf ?_)
    · exact .bind (onManager_tells _) fun _ => .bind (onManager_tells _) fun _ => onManager_tells _
    · exact .bind (onManager_masterId _) fun _ => .bind (onManager_masterId _) fun _ =>
        onManager_masterId _
  | connected =>
    exact readPacket_learns setup (processConnected_processing setup)
      (processConnected_learnt setup) data

end Learning

section Lives

variable {setup : Setup τ}

/-- A step runs a handler, or leaves the identification and the packets read alone. -/
inductive Reads (setup : Setup τ) (life : Life τ) : Move τ → Party τ → Prop where
  /-- A handler runs. -/
  | handled (party : Party τ) (nbLoop : Nat) (first : life.party.machine.position = 0)
      (stays : party.machine.current = life.state)
      (ran : party.data = after (handler setup life.state nbLoop life.data)) :
      Reads setup life .wakeup party
  /-- Nothing is read. -/
  | nothing (move : Move τ) (party : Party τ) (masterId : party.data.masterId = life.data.masterId)
      (reads : party.data.reads = life.data.reads) : Reads setup life move party

/-- What a step does with packets. -/
theorem lives_reads {life : Life τ} {move : Move τ} {party : Party τ} {phase : Phase}
    (lives : Lives setup life move party phase) : Reads setup life move party := by
  cases lives with
  | wakeup _ alive wakes =>
    rcases wakes.ran_or_rests with ⟨first, stays, nbLoop, ran⟩ | rests
    · exact .handled party nbLoop first stays ran
    · exact .nothing _ party rests.masterId rests.reads
  | tick batch running perm => exact .nothing _ _ rfl rfl
  | sendData blocks =>
    obtain ⟨manager, sent, -, -⟩ := Party.sendData_eq setup life.party blocks
    rw [sent]
    exact .nothing _ _ rfl rfl
  | changed transport unopened => exact .nothing _ _ rfl rfl
  | opened transport isOpen => exact .nothing _ _ rfl rfl
  | stop running => exact .nothing _ _ rfl rfl
  | joined transport stopping first => exact .nothing _ _ rfl rfl
  | start transport stopped => exact .nothing _ _ rfl rfl

/-- A step that does not enter state connecting leaves the packet that opened the session. -/
theorem opening_lives {life : Life τ} {move : Move τ} {party : Party τ} {phase : Phase}
    (lives : Lives setup life move party phase) (marked : life.entered ≤ life.data.reads.length)
    (stays : ¬ life.enters party = true) :
    (life.marked setup move party phase).opening = life.opening := by
  obtain ⟨more, grown⟩ := reads_lives lives
  change lastHip (party.data.reads.take (if _ then _ else _)) = _
  rw [if_neg stays, ← grown, List.take_append_of_le_length marked]
  rfl

/-- A packet read raises no HIP unless it opens a session. -/
theorem pending_silent {life : Life τ} {move : Move τ} {party : Party τ} {phase : Phase}
    (lives : Lives setup life move party phase)
    (silent : ∀ read, party.data.reads = life.data.reads ++ [read] → ¬ Opens read)
    (pending : (life.marked setup move party phase).Pending .hipReceived) :
    life.Pending .hipReceived := by
  rcases pending_lives lives pending with before | ⟨state, message, event, raises, reads⟩
  · exact before
  · cases raises with
    | hip _ _ listens type => exact absurd ⟨listens, type⟩ (silent _ reads)

/-- What is known of the master is what the packets that can open a session, or did, present. -/
structure Life.Identified (life : Life τ) : Prop where
  /-- The slave is sound. -/
  sound : life.Sound
  /-- State connecting was entered in the past. -/
  entered : life.entered ≤ life.data.reads.length
  /-- A HIP not yet consumed presents what is known. -/
  pending : life.Pending .hipReceived → life.data.Knows
  /-- In a session, the one that opened it does. -/
  reports : life.Reports

/-- A step that enters state connecting reports what the HIP it consumes presents. -/
theorem Life.Identified.entering {life : Life τ} {move : Move τ} {party : Party τ} {phase : Phase}
    (identified : life.Identified) (lives : Lives setup life move party phase)
    (enters : life.enters party = true) : (life.marked setup move party phase).Reports := by
  obtain ⟨-, alive, begun, pending, rfl⟩ := enters_lives lives enters
  have known := identified.pending ⟨pending, alive, fun first => begun first.1⟩
  intro _ message opened
  have whole : (life.marked setup move (.movedTo .connecting (life.data.without .hipReceived))
      phase).opening = lastHip life.data.reads := by
    change lastHip (life.data.reads.take (if _ then _ else _)) = _
    rw [if_pos enters, List.take_length]
  rw [whole] at opened
  exact known message opened

/-- A step in which nothing is read leaves the master identified. -/
theorem Life.Identified.unread {life : Life τ} {move : Move τ} {party : Party τ} {phase : Phase}
    (identified : life.Identified) (lives : Lives setup life move party phase)
    (masterId : party.data.masterId = life.data.masterId)
    (reads : party.data.reads = life.data.reads) :
    ((life.marked setup move party phase).Pending .hipReceived → party.data.Knows) ∧
      (life.marked setup move party phase).Reports := by
  have silent : ∀ read, party.data.reads = life.data.reads ++ [read] → ¬ Opens read := by
    intro read more
    rw [reads] at more
    exact absurd more (by simp)
  constructor
  · intro pending message last
    have known := identified.pending (pending_silent lives silent pending)
    rw [reads] at last
    rw [masterId]
    exact known message last
  · by_cases enters : life.enters party = true
    · exact identified.entering lives enters
    · intro session message opened
      rw [opening_lives lives identified.entered enters] at opened
      change Shows message party.data.masterId
      rw [masterId]
      exact identified.reports (session_lives lives session enters).1 message opened

/-- A packet read leaves the master identified, unless it is a HIP read in state connected that
presents a host or replaces one. -/
theorem Life.Identified.read {life : Life τ} {move : Move τ} {party : Party τ} {phase : Phase}
    (identified : life.Identified) (lives : Lives setup life move party phase)
    (stays : party.machine.current = life.state) {message : Message}
    (learnt : Learnt life.data.masterId life.state message party.data.masterId)
    (reads : party.data.reads = life.data.reads ++ [(life.state, message)])
    (introduced : life.state = .connected → message.packet.type = PacketType.hip.code →
      Shows message .empty ∧ ∀ opening ∈ life.opening, Shows opening .empty) :
    ((life.marked setup move party phase).Pending .hipReceived → party.data.Knows) ∧
      (life.marked setup move party phase).Reports := by
  have unentered : ¬ life.enters party = true := by
    intro enters
    obtain ⟨outside, inside⟩ := of_decide_eq_true enters
    exact outside (stays.symm.trans inside)
  have opening := opening_lives lives identified.entered unentered
  have last : Opens (life.state, message) → lastHip party.data.reads = some message := by
    intro opens
    rw [reads]
    exact lastHip_opens life.data.reads (life.state, message) opens
  generalize inside : life.state = state at learnt reads introduced last
  generalize known : party.data.masterId = masterId at learnt
  cases learnt with
  | named _ hip =>
    constructor
    · intro _ other found
      rw [last ⟨.inl rfl, hip⟩, Option.mem_some_iff] at found
      rw [known, ← found]
      exact shows_foldl message life.data.masterId
    · -- no session goes on
      intro session
      change InSession party.machine.current at session
      rw [stays, inside] at session
      rcases session with other | other <;> cases other
  | cleared _ hip =>
    obtain ⟨unnamed, before⟩ := introduced rfl hip
    constructor
    · intro _ other found
      rw [last ⟨.inr rfl, hip⟩, Option.mem_some_iff] at found
      rw [known, ← found]
      exact unnamed
    · intro _ other opened
      rw [opening] at opened
      change Shows other party.data.masterId
      rw [known]
      exact before other opened
  | kept _ _ silent =>
    constructor
    · intro pending other found
      have unraised : ∀ read, party.data.reads = life.data.reads ++ [read] → ¬ Opens read := by
        intro read more
        rw [reads, List.append_cancel_left_eq, List.singleton_inj] at more
        rw [← more]
        exact silent
      rw [reads, lastHip_silent _ _ silent] at found
      rw [known]
      exact identified.pending (pending_silent lives unraised pending) other found
    · intro session other opened
      change InSession party.machine.current at session
      rw [stays] at session
      rw [opening] at opened
      change Shows other party.data.masterId
      rw [known]
      exact identified.reports session other opened

/-- Each step that meets the condition leaves the master identified. -/
theorem identified_step (setup : Setup τ) (life : Life τ) (move : Move τ) (next : Life τ)
    (identified : life.Identified)
    (taken : Guarded (Life.Introduced setup) (Steps (Life.step setup)) life move next) :
    next.Identified := by
  obtain ⟨introduced, stepped⟩ := taken
  obtain ⟨party, phase, -, lives, rfl, after⟩ := identified.sound.step stepped
  have grown := reads_lives lives
  have entered : (life.marked setup move party phase).entered ≤ party.data.reads.length := by
    change (if _ then _ else _) ≤ _
    split
    · exact grown.length_le
    · exact Nat.le_trans identified.entered grown.length_le
  cases lives_reads lives with
  | nothing _ _ masterId reads =>
    obtain ⟨pending, reports⟩ := identified.unread lives masterId reads
    exact ⟨after, entered, pending, reports⟩
  | handled _ nbLoop first stays ran =>
    by_cases init : life.state = .init
    · -- what was known is forgotten with the events
      rw [init] at stays ran
      refine ⟨after, entered, ?_, ?_⟩
      · rintro ⟨pending, -⟩
        change .hipReceived ∈ party.data.events at pending
        rw [ran] at pending
        exact absurd pending (Finset.notMem_empty _)
      · intro session
        change InSession party.machine.current at session
        rw [stays] at session
        rcases session with other | other <;> cases other
    · have learns := handler_learns setup nbLoop life.data init
      rw [← ran] at learns
      cases learns with
      | nothing masterId reads =>
        obtain ⟨pending, reports⟩ := identified.unread lives masterId reads
        exact ⟨after, entered, pending, reports⟩
      | read message learnt reads found =>
        obtain ⟨pending, reports⟩ := identified.read lives stays learnt reads
          fun connected hip => introduced connected first message (found connected) hip
        exact ⟨after, entered, pending, reports⟩

/-- A slave as constructed knows no master. -/
theorem identified_initial (transport : τ) : (Life.initial transport).Identified where
  sound := sound_started transport
  entered := Nat.le_refl _
  pending := fun pending => absurd rfl pending.2.1
  reports := fun session => by rcases session with other | other <;> cases other

/-- In every run over which hosts that present themselves are read in state disconnected, the
identification reported in a session is the one of the host whose HIP opened it. -/
theorem masterId_reported (setup : Setup τ) (transport : τ) (moves : List (Move τ)) (life : Life τ)
    (raw : Packet) (id : UInt16) (host : Identification) (message : Message)
    (fits : ((Packet.identificationBlocks host).map BlockView.size).sum ≤ maxPlSize)
    (run : Run (Guarded (Life.Introduced setup) (Steps (Life.step setup))) (.initial transport)
      moves life)
    (session : life.state = .connecting ∨ life.state = .connected)
    (opened : life.opening = some message)
    (made : Packet.makeHip raw id host = .ok message.packet) : life.data.masterId = host := by
  have identified := run.invariant (identified_step setup) (identified_initial transport)
  have presented := blocks_makeHip raw id host message.packet fits made
  exact identified.reports session message opened host presented

end Lives

/-! ## A host that presents itself, and one that does so too late -/

instance (message : Message) (known : Identification) : Decidable (Shows message known) :=
  decidable_of_iff _ (shows_iff message known).symm

instance (setup : Setup τ) (life : Life τ) (move : Move τ) :
    Decidable (life.Introduced setup move) :=
  match move with
  | .wakeup => inferInstanceAs (Decidable (life.state = .connected →
      life.party.machine.position = 0 →
        ∀ message ∈ (setup.transport.read life.data.manager.transport).1,
          message.packet.type = PacketType.hip.code →
            Shows message .empty ∧ ∀ opening ∈ life.opening, Shows opening .empty))
  | .tick _ => isTrue trivial
  | .sendData _ => isTrue trivial
  | .changed _ => isTrue trivial
  | .opened _ => isTrue trivial
  | .stop => isTrue trivial
  | .joined _ => isTrue trivial
  | .start _ => isTrue trivial

/-- A host. -/
def host : Identification := ⟨[104], [1], [2], [3]⟩

/-- A HIP of this host. -/
def hostHip : Except PacketError Packet := Packet.makeHip .cleared 3 host

/-- The packet that opened the session is the host's. -/
def Life.OpenedBy (life : Life τ) : Prop :=
  life.opening.map Message.packet = hostHip.toOption ∧ life.opening ≠ none

instance (life : Life τ) : Decidable life.OpenedBy := inferInstanceAs (Decidable (_ ∧ _))

/-- The packet that opened the session is one made for the host. -/
theorem Life.OpenedBy.made {life : Life τ} (opened : life.OpenedBy) :
    ∃ message, life.opening = some message ∧
      Packet.makeHip .cleared 3 host = .ok message.packet := by
  obtain ⟨same, some⟩ := opened
  obtain ⟨message, found⟩ := Option.ne_none_iff_exists'.mp some
  refine ⟨message, found, ?_⟩
  rw [found] at same
  change _ = (Packet.makeHip .cleared 3 host).toOption at same
  cases made : Packet.makeHip .cleared 3 host with
  | ok packet =>
    rw [made] at same
    exact congrArg Except.ok (Option.some.inj same).symm
  | error error =>
    rw [made] at same
    contradiction

/-- The host opens a session. -/
def introducing : List (Move (Bool × List Message)) :=
  [.start (false, [])] ++ wakeups 3 ++ [reopens] ++ wakeups 2 ++ [arrives hostHip] ++ wakeups 3 ++
    [arrives (keepaliveOf 4)] ++ wakeups 4

/-- The slave reports it. -/
theorem masterId_reported_introducing :
    ∃ life, Run (Guarded (Life.Introduced onLine) (Steps (Life.step onLine)))
        (.initial (false, [])) introducing life ∧
      life.state = .connected ∧ life.data.masterId = host := by
  have executed : ((Base.execute (fun life move =>
      if Life.Introduced onLine life move then Life.step onLine life move else none)
        (.initial (false, [])) introducing).any fun life =>
          decide (life.state = .connected ∧ life.OpenedBy)) = true := by
    decide +kernel
  obtain ⟨life, reached, ended⟩ := (Option.any_eq_true _ _).mp executed
  obtain ⟨connected, opened⟩ := of_decide_eq_true ended
  obtain ⟨message, opening, made⟩ := opened.made
  have run := run_of_execute_guarded (Life.Introduced onLine) (Life.step onLine) _ _ _ reached
  have reported := masterId_reported onLine (false, []) introducing life .cleared 3 host message
    (by decide) run (.inr connected) opening made
  exact ⟨life, run, connected, reported⟩

/-- The host opens a session in the middle of another one. -/
def interrupting : List (Move (Bool × List Message)) :=
  fresh ++ wakeups 1 ++ [arrives hostHip] ++ wakeups 4

/-- The slave reports no master. -/
theorem masterId_unreported :
    ∃ life message, Run (Steps (Life.step onLine)) (.initial (false, [])) interrupting life ∧
      life.state = .connecting ∧ life.opening = some message ∧
        Packet.makeHip .cleared 3 host = .ok message.packet ∧ life.data.masterId = .empty ∧
          life.data.masterId ≠ host := by
  have executed : ((Base.execute (Life.step onLine) (.initial (false, [])) interrupting).any
      fun life => decide ((life.state = .connecting ∧ life.data.masterId = .empty) ∧
        life.OpenedBy)) = true := by
    decide +kernel
  obtain ⟨life, reached, ended⟩ := (Option.any_eq_true _ _).mp executed
  obtain ⟨⟨connecting, unknown⟩, opened⟩ := of_decide_eq_true ended
  obtain ⟨message, opening, made⟩ := opened.made
  have run := (execute_eq_some_iff _ _ _ _).mp reached
  have other : life.data.masterId ≠ host := by
    rw [unknown]
    decide
  exact ⟨life, message, run, connecting, opening, made, unknown, other⟩

end Hdcp.Appli.Slave
