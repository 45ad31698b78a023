import Hdcp.Appli.SlaveLife

/-!
# Where the slave's events come from

An event is remembered until it is consumed, and forgotten only in state init: one that another
transition overtakes outlives its session. When no HIP is pending as a connection is opened, and
neither a keepalive nor a timeout as state connecting is entered, every transition rests on a packet
or a timer of its own connection and session.
-/

namespace Hdcp.Appli.Slave

open Base
open Hdcp.Slave hiding State

variable {τ : Type}

/-- A packet of a type is among those read. -/
def Holds (reads : List (State × Message)) (type : PacketType) : Prop :=
  ∃ read ∈ reads, read.2.packet.type = type.code

/-- An event is pending that the slave will not forget first. -/
def Life.Pending (life : Life τ) (event : Event) : Prop :=
  event ∈ life.data.events ∧ life.phase ≠ .stopped ∧
    ¬(life.state = .init ∧ life.party.machine.position = 0)

/-- A keepalive timer armed since state connecting was last entered has expired. -/
def Life.TimedOut (life : Life τ) : Prop := ∃ timer ∈ life.expired, life.firstTimer ≤ timer.id

/-- No HIP is pending as a connection is opened, and no other event as state connecting is
entered. -/
def Life.Fresh (setup : Setup τ) (life : Life τ) (move : Move τ) : Prop :=
  ∀ next ∈ life.act setup move,
    (life.opens setup next.1 move = true → ¬ life.Pending .hipReceived) ∧
      (life.enters next.1 = true → ¬ life.Pending .firstKaReceived ∧ ¬ life.Pending .kaTimeout)

/-- What a step that makes an event pending does. -/
inductive Cause (life : Life τ) (move : Move τ) (party : Party τ) : Event → Prop where
  /-- A packet is read that raises the event. -/
  | read (state : State) (message : Message) (event : Event) (raises : Raises state message event)
      (reads : party.data.reads = life.data.reads ++ [(state, message)]) :
      Cause life move party event
  /-- A timer expires. -/
  | expired (batch : List (Timer TimerCallback)) (ticks : move = .tick batch) (some : batch ≠ [])
      (running : life.data.manager.running = true)
      (taken : batch.Perm
        (life.data.manager.timeoutQueue.expired life.data.manager.now)) :
      Cause life move party .kaTimeout

section Lives

variable {setup : Setup τ}

/-- Packets read stay read. -/
theorem reads_wakes {slave next : Party τ} (wakes : Wakes setup slave next) :
    slave.data.reads <+: next.data.reads := by
  have handled : ∀ state nbLoop data,
      data.reads <+: (after (handler setup state nbLoop data)).reads := by
    intro state nbLoop data
    by_cases init : state = .init
    · subst init
      exact List.prefix_refl _
    · rcases handler_heard setup nbLoop data init with ⟨-, reads⟩ | ⟨_, _, -, -, reads, -⟩
      · exact reads
      · rw [reads]
        exact List.prefix_append _ _
  rcases wakes.ran_or_rests with ⟨-, -, nbLoop, ran⟩ | rests
  · rw [ran]
    exact handled _ nbLoop slave.data
  · rw [rests.reads]

/-- Packets read stay read. -/
theorem reads_lives {life : Life τ} {move : Move τ} {party : Party τ} {phase : Phase}
    (lives : Lives setup life move party phase) : life.data.reads <+: party.data.reads := by
  cases lives with
  | wakeup _ alive wakes => exact reads_wakes wakes
  | tick batch running perm => exact List.prefix_refl _
  | sendData blocks =>
    obtain ⟨manager, sent, -, -⟩ := Party.sendData_eq setup life.party blocks
    rw [sent]
    exact List.prefix_refl _
  | changed transport unopened => exact List.prefix_refl _
  | opened transport isOpen => exact List.prefix_refl _
  | stop running => exact List.prefix_refl _
  | joined transport stopping first => exact List.prefix_refl _
  | start transport stopped => exact List.prefix_refl _

/-- After an entry no event is pending that was not, but for one that a packet read in it raises. -/
theorem events_wakes {slave next : Party τ} {event : Event} (wakes : Wakes setup slave next)
    (pending : event ∈ next.data.events) :
    event ∈ slave.data.events ∧ ¬(slave.state = .init ∧ slave.machine.position = 0) ∨
      ∃ state message, Raises state message event ∧
        next.data.reads = slave.data.reads ++ [(state, message)] := by
  have handled : ∀ state nbLoop (data : Data τ),
      event ∈ (after (handler setup state nbLoop data)).events →
        event ∈ data.events ∧ state ≠ .init ∨
          ∃ origin message, Raises origin message event ∧
            (after (handler setup state nbLoop data)).reads =
              data.reads ++ [(origin, message)] := by
    intro state nbLoop data raised
    by_cases init : state = .init
    · subst init
      exact absurd raised (Finset.notMem_empty event)
    · rcases handler_heard setup nbLoop data init with
        ⟨same, -⟩ | ⟨message, notified, raises, notifies, reads, -⟩
      · exact .inl ⟨same ▸ raised, init⟩
      · rw [notifies, EventSet.notify, Finset.mem_insert] at raised
        rcases raised with rfl | before
        · exact .inr ⟨state, message, raises, reads⟩
        · exact .inl ⟨before, init⟩
  cases wakes with
  | handled state nbLoop data returns =>
    rcases handled state _ data pending with ⟨before, other⟩ | cause
    · exact .inl ⟨before, fun first => other first.1⟩
    · exact .inr cause
  | thrown state nbLoop data throws =>
    rcases handled state _ data pending with ⟨before, other⟩ | cause
    · exact .inl ⟨before, fun first => other first.1⟩
    · exact .inr cause
  | begun nbLoop data => exact .inl ⟨pending, fun first => by cases first.2⟩
  | closed state nbLoop data other isClosed => exact .inl ⟨pending, fun first => other first.1⟩
  | stillOpen state nbLoop data other isOpen => exact .inl ⟨pending, fun first => other first.1⟩
  | kaTimeout state nbLoop data session timeout =>
    exact .inl ⟨Finset.mem_of_mem_erase pending, fun first => by cases first.2⟩
  | noKaTimeout state nbLoop data session absent =>
    exact .inl ⟨pending, fun first => by cases first.2⟩
  | hipReceived state nbLoop position data last hip =>
    refine .inl ⟨Finset.mem_of_mem_erase pending, fun first => ?_⟩
    rcases last with ⟨rfl, rfl⟩ | ⟨rfl, rfl⟩
    · cases first.2
    · cases first.2
  | noHip state nbLoop position data last absent =>
    refine .inl ⟨pending, fun first => ?_⟩
    rcases last with ⟨rfl, rfl⟩ | ⟨rfl, rfl⟩
    · cases first.2
    · cases first.2
  | connected nbLoop data ka =>
    exact .inl ⟨Finset.mem_of_mem_erase pending, fun first => by cases first.2⟩
  | notConnected nbLoop data absent => exact .inl ⟨pending, fun first => by cases first.2⟩

/-- After a step no event is pending that was not, but for one the step has a cause for. -/
theorem pending_lives {life : Life τ} {move : Move τ} {party : Party τ} {phase : Phase}
    {event : Event} (lives : Lives setup life move party phase)
    (pending : (life.marked setup move party phase).Pending event) :
    life.Pending event ∨ Cause life move party event := by
  obtain ⟨inside, alive, started⟩ := pending
  cases lives with
  | wakeup _ _ wakes =>
    rcases events_wakes wakes inside with ⟨before, begun⟩ | ⟨state, message, raises, reads⟩
    · exact .inl ⟨before, alive, begun⟩
    · exact .inr (.read state message event raises reads)
  | tick batch running perm =>
    change event ∈ (if batch = [] then life.data.events else life.data.events.notify .kaTimeout)
      at inside
    split at inside
    · exact .inl ⟨inside, alive, started⟩
    · next some =>
      rcases Finset.mem_insert.mp inside with rfl | before
      · exact .inr (.expired batch rfl some running perm)
      · exact .inl ⟨before, alive, started⟩
  | sendData blocks =>
    obtain ⟨manager, sent, -, -⟩ := Party.sendData_eq setup life.party blocks
    rw [sent] at inside started
    exact .inl ⟨inside, alive, started⟩
  | changed transport unopened => exact .inl ⟨inside, alive, started⟩
  | opened transport isOpen => exact .inl ⟨inside, alive, started⟩
  | stop running =>
    refine .inl ⟨inside, ?_, started⟩
    rw [running]
    decide
  | joined transport stopping first => exact absurd rfl alive
  | start transport stopped => exact absurd ⟨rfl, rfl⟩ started

/-- State connecting is entered by consuming a HIP, and the rest of the slave is left alone. -/
theorem enters_lives {life : Life τ} {move : Move τ} {party : Party τ} {phase : Phase}
    (lives : Lives setup life move party phase) (enters : life.enters party = true) :
    move = .wakeup ∧ life.phase ≠ .stopped ∧ life.state ≠ .init ∧
      .hipReceived ∈ life.data.events ∧
      party = .movedTo .connecting (life.data.without .hipReceived) := by
  unfold Life.enters at enters
  rw [decide_eq_true_eq] at enters
  obtain ⟨outside, inside⟩ := enters
  cases lives with
  | wakeup _ alive wakes =>
    obtain ⟨slave, before, opened, entered, firstTimer, expired⟩ := life
    cases wakes with
    | handled state nbLoop data returns => exact absurd inside outside
    | thrown state nbLoop data throws => exact absurd inside outside
    | begun nbLoop data => contradiction
    | closed state nbLoop data other isClosed => contradiction
    | stillOpen state nbLoop data other isOpen => exact absurd inside outside
    | kaTimeout state nbLoop data session pending => contradiction
    | noKaTimeout state nbLoop data session absent => exact absurd inside outside
    | hipReceived state nbLoop position data last pending =>
      refine ⟨rfl, alive, ?_, pending, rfl⟩
      rintro rfl
      rcases last with ⟨other, -⟩ | ⟨other, -⟩ <;> contradiction
    | noHip state nbLoop position data last absent => exact absurd inside outside
    | connected nbLoop data pending => contradiction
    | notConnected nbLoop data absent => exact absurd inside outside
  | tick batch running perm => exact absurd inside outside
  | sendData blocks =>
    obtain ⟨manager, sent, -, -⟩ := Party.sendData_eq setup life.party blocks
    rw [sent] at inside
    exact absurd inside outside
  | changed transport unopened => exact absurd inside outside
  | opened transport isOpen => exact absurd inside outside
  | stop running => exact absurd inside outside
  | joined transport stopping first => exact absurd inside outside
  | start transport stopped => contradiction

/-- Timers armed in a running manager have identifiers from some first one on. -/
structure From (first : Nat) (manager : Hdcp.Slave.State τ) : Prop where
  /-- The first one is at most the next one. -/
  issued : first ≤ manager.timeoutQueue.nextId
  /-- Armed timers are not older. -/
  timers : manager.running = true → ∀ timer ∈ manager.timeoutQueue.timers, first ≤ timer.id

/-- Changes arm no old timer. -/
theorem From.change {env : Environment τ} {loses : Prop} {first : Nat}
    {manager next : Hdcp.Slave.State τ} (change : Change env loses manager next)
    (recent : From first manager) : From first next := by
  cases change with
  | timers next follows packetId running transport outputs =>
    refine ⟨Nat.le_trans recent.issued follows.nextId, fun going => ?_⟩
    exact follows.all_from recent.issued (recent.timers (running ▸ going))
  | sent packet named accepted => exact ⟨recent.issued, recent.timers⟩
  | unsent transport refused lost => exact ⟨recent.issued, recent.timers⟩
  | timedOut => exact ⟨recent.issued, recent.timers⟩
  | stopped => exact ⟨recent.issued, fun going => by contradiction⟩

/-- Entries arm no old timer. -/
theorem From.wakes {slave next : Party τ} {first : Nat} (wakes : Wakes setup slave next)
    (recent : From first slave.data.manager) : From first next.data.manager := by
  have handled : ∀ state nbLoop, Keeps (fun data => From first (Data.manager data))
      (handler setup state nbLoop) := by
    refine handler_keeps setup (From first) (fun _ _ change recent => recent.change change) ?_ ?_
    · exact fun manager transport _ recent => ⟨recent.issued, recent.timers⟩
    · exact fun manager idle recent => ⟨recent.issued, fun _ timer inside => by contradiction⟩
  exact wakes.keeps_manager handled recent

/-- Steps arm no old timer. -/
theorem From.lives {life : Life τ} {move : Move τ} {party : Party τ} {phase : Phase} {first : Nat}
    (lives : Lives setup life move party phase) (recent : From first life.data.manager) :
    From first party.data.manager := by
  cases lives with
  | wakeup _ alive wakes => exact recent.wakes wakes
  | tick batch running perm =>
    refine ⟨recent.issued, fun _ => ?_⟩
    exact (TimeoutQueue.Follows.advance _ _).all_from recent.issued (recent.timers running)
  | sendData blocks =>
    obtain ⟨manager, sent, same, -⟩ := Party.sendData_eq setup life.party blocks
    rw [sent]
    constructor
    · rw [same.timeoutQueue]
      exact recent.issued
    · intro going
      rw [same.timeoutQueue]
      exact recent.timers (same.running ▸ going)
  | changed transport unopened => exact ⟨recent.issued, recent.timers⟩
  | opened transport isOpen => exact ⟨recent.issued, recent.timers⟩
  | stop running => exact recent
  | joined transport stopping first => exact ⟨recent.issued, fun going => by contradiction⟩
  | start transport stopped => exact ⟨recent.issued, recent.timers⟩

/-- The timers armed after a step were armed since state connecting was last entered. -/
theorem recent_step {life : Life τ} {move : Move τ} {party : Party τ} {phase : Phase}
    (lives : Lives setup life move party phase)
    (after : (life.marked setup move party phase).Sound)
    (recent : From life.firstTimer life.data.manager) :
    From (life.marked setup move party phase).firstTimer party.data.manager := by
  change From (if _ then _ else _) party.data.manager
  split
  · next enters =>
    -- the manager that a session begins with does not run
    obtain ⟨-, -, -, -, rfl⟩ := enters_lives lives enters
    have idle := Sound.connecting after rfl rfl
    exact ⟨Nat.le_refl _, fun going => absurd (going.symm.trans idle) (by decide)⟩
  · exact recent.lives lives

end Lives

/-- A packet read before is a packet read after. -/
theorem Holds.mono {before reads : List (State × Message)} {mark : Nat} {type : PacketType}
    (holds : Holds (before.drop mark) type) (grown : before <+: reads) :
    Holds (reads.drop mark) type := by
  obtain ⟨read, inside, same⟩ := holds
  exact ⟨read, (grown.drop mark).subset inside, same⟩

/-- The packet read last is read after any mark. -/
theorem holds_last {before : List (State × Message)} {mark : Nat} {state : State}
    {message : Message} {type : PacketType} (marked : mark ≤ before.length)
    (same : message.packet.type = type.code) :
    Holds ((before ++ [(state, message)]).drop mark) type := by
  refine ⟨(state, message), ?_, same⟩
  rw [List.drop_append_of_le_length marked]
  exact List.mem_append_right _ (List.mem_singleton_self _)

/-- Every pending event has a cause since its mark. -/
structure Life.Evidenced (life : Life τ) : Prop where
  /-- The slave is sound. -/
  sound : life.Sound
  /-- The connection in use was opened in the past. -/
  opened : life.opened ≤ life.data.reads.length
  /-- State connecting was entered in the past. -/
  entered : life.entered ≤ life.data.reads.length
  /-- Timers armed were armed in this session. -/
  recent : From life.firstTimer life.data.manager
  /-- A HIP was read on this connection. -/
  hip : life.Pending .hipReceived → Holds life.readsOpen .hip
  /-- A keepalive was read in this session. -/
  ka : life.Pending .firstKaReceived → Holds life.readsEntered .ka
  /-- A timer of this session expired. -/
  timeout : life.Pending .kaTimeout → life.TimedOut

/-- Each step over which no event gets stale leaves every event with a cause. -/
theorem evidenced_step (setup : Setup τ) (life : Life τ) (move : Move τ) (next : Life τ)
    (evidenced : life.Evidenced)
    (taken : Guarded (Life.Fresh setup) (Steps (Life.step setup)) life move next) :
    next.Evidenced := by
  obtain ⟨fresh, stepped⟩ := taken
  obtain ⟨party, phase, acted, lives, rfl, after⟩ := evidenced.sound.step stepped
  obtain ⟨unopened, unentered⟩ := fresh _ acted
  have grown := reads_lives lives
  refine ⟨after, ?_, ?_, ?_, ?_, ?_, ?_⟩
  · change (if _ then _ else _) ≤ party.data.reads.length
    split
    · exact grown.length_le
    · exact Nat.le_trans evidenced.opened grown.length_le
  · change (if _ then _ else _) ≤ party.data.reads.length
    split
    · exact grown.length_le
    · exact Nat.le_trans evidenced.entered grown.length_le
  · exact recent_step lives after evidenced.recent
  · intro pending
    change Holds (party.data.reads.drop (if _ then _ else _)) _
    rcases pending_lives lives pending with before | ⟨state, message, event, raises, reads⟩
    · split
      · next opens => exact absurd before (unopened opens)
      · exact (evidenced.hip before).mono grown
    · cases raises with
      | hip _ _ listens type =>
        rw [reads]
        split
        · exact holds_last (Nat.le_refl _) type
        · exact holds_last evidenced.opened type
  · intro pending
    change Holds (party.data.reads.drop (if _ then _ else _)) _
    rcases pending_lives lives pending with before | ⟨state, message, event, raises, reads⟩
    · split
      · next enters => exact absurd before (unentered enters).1
      · exact (evidenced.ka before).mono grown
    · cases raises with
      | ka _ type =>
        rw [reads]
        split
        · exact holds_last (Nat.le_refl _) type
        · exact holds_last evidenced.entered type
  · intro pending
    rcases pending_lives lives pending with before | cause
    · have stays : ¬ life.enters party = true := fun enters => (unentered enters).2 before
      obtain ⟨timer, inside, recent⟩ := evidenced.timeout before
      refine ⟨timer, List.mem_append_left _ inside, ?_⟩
      change (if _ then _ else _) ≤ timer.id
      rw [if_neg stays]
      exact recent
    · cases cause with
      | read state message event raises reads => cases raises
      | expired batch ticks some running taken =>
        subst ticks
        obtain ⟨timer, inside⟩ := List.exists_mem_of_ne_nil batch some
        refine ⟨timer, List.mem_append_right _ inside, ?_⟩
        have armed := ((TimeoutQueue.mem_expired _ _ _).mp (taken.subset inside)).1
        have stays : ¬ life.enters party = true := by
          intro enters
          obtain ⟨elsewhere, -⟩ := enters_lives lives enters
          contradiction
        change (if _ then _ else _) ≤ timer.id
        rw [if_neg stays]
        exact evidenced.recent.timers running timer armed

/-- A slave as constructed has no event pending. -/
theorem evidenced_initial (transport : τ) : (Life.initial transport).Evidenced where
  sound := sound_started transport
  opened := Nat.le_refl _
  entered := Nat.le_refl _
  recent := ⟨Nat.le_refl _, fun _ timer inside => by contradiction⟩
  hip := fun pending => absurd rfl pending.2.1
  ka := fun pending => absurd rfl pending.2.1
  timeout := fun pending => absurd rfl pending.2.1

/-- The transitions of a step rest on events of their own connection and session. -/
structure Grounded (life next : Life τ) : Prop where
  /-- State connecting is entered on a HIP read on the connection in use. -/
  connecting : life.state ≠ .connecting → next.state = .connecting → Holds life.readsOpen .hip
  /-- State connected is entered after a keepalive read since state connecting was entered. -/
  connected : life.state ≠ .connected → next.state = .connected → Holds life.readsEntered .ka
  /-- A session is left with a keepalive timeout after a timer armed since state connecting was
  entered has expired. -/
  timedOut : life.state = .connecting ∨ life.state = .connected → next.state = .disconnected →
    next.data.statuses.getLast? = some (.disconnected, some (.application .kaTimeout)) →
      life.TimedOut

/-- A step that stays in its state is grounded. -/
theorem grounded_of_same {life next : Life τ} (same : next.state = life.state) :
    Grounded life next := by
  refine ⟨fun outside inside => absurd (same ▸ inside) outside,
    fun outside inside => absurd (same ▸ inside) outside, fun session left => ?_⟩
  rw [same] at left
  rcases session with inside | inside
  · rw [inside] at left
    contradiction
  · rw [inside] at left
    contradiction

/-- Steps of a slave all of whose events have a cause are grounded. -/
theorem Life.Evidenced.grounded {setup : Setup τ} {life next : Life τ} {move : Move τ}
    (evidenced : life.Evidenced)
    (foreign : ∀ transport,
      setup.transport.errorCode transport ≠ some (.application .kaTimeout))
    (taken : life.step setup move = some next) : Grounded life next := by
  obtain ⟨party, phase, -, lives, rfl, -⟩ := evidenced.sound.step taken
  cases lives with
  | wakeup _ alive wakes =>
    obtain ⟨slave, before, opened, entered, firstTimer, expired⟩ := life
    cases wakes with
    | handled state nbLoop data returns => exact grounded_of_same rfl
    | thrown state nbLoop data throws => exact grounded_of_same rfl
    | begun nbLoop data =>
      refine ⟨fun _ elsewhere => ?_, fun _ elsewhere => ?_, fun session => ?_⟩
      · contradiction
      · contradiction
      · rcases session with elsewhere | elsewhere <;> contradiction
    | closed state nbLoop data other isClosed =>
      refine ⟨fun _ elsewhere => ?_, fun _ elsewhere => ?_, fun _ _ told => ?_⟩
      · contradiction
      · contradiction
      · change (data.statuses ++ [(State.disconnected, setup.transport.errorCode _)]).getLast? = _
          at told
        rw [List.getLast?_append_of_ne_nil _ (List.cons_ne_nil _ _)] at told
        exact absurd (congrArg Prod.snd (Option.some.inj told)) (foreign _)
    | stillOpen state nbLoop data other isOpen => exact grounded_of_same rfl
    | kaTimeout state nbLoop data session pending =>
      refine ⟨fun _ elsewhere => ?_, fun _ elsewhere => ?_, fun _ _ _ => ?_⟩
      · contradiction
      · contradiction
      · exact evidenced.timeout ⟨pending, alive, fun first => by cases first.2⟩
    | noKaTimeout state nbLoop data session absent => exact grounded_of_same rfl
    | hipReceived state nbLoop position data last pending =>
      refine ⟨fun _ _ => ?_, fun _ elsewhere => ?_, fun _ elsewhere => ?_⟩
      · refine evidenced.hip ⟨pending, alive, fun first => ?_⟩
        rcases last with ⟨rfl, rfl⟩ | ⟨rfl, rfl⟩
        · cases first.2
        · cases first.2
      · contradiction
      · contradiction
    | noHip state nbLoop position data last absent => exact grounded_of_same rfl
    | connected nbLoop data pending =>
      refine ⟨fun _ elsewhere => ?_, fun _ _ => ?_, fun _ elsewhere => ?_⟩
      · contradiction
      · exact evidenced.ka ⟨pending, alive, fun first => by cases first.2⟩
      · contradiction
    | notConnected nbLoop data absent => exact grounded_of_same rfl
  | tick batch running perm => exact grounded_of_same rfl
  | sendData blocks =>
    obtain ⟨manager, sent, -, -⟩ := Party.sendData_eq setup life.party blocks
    rw [sent]
    exact grounded_of_same rfl
  | changed transport unopened => exact grounded_of_same rfl
  | opened transport isOpen => exact grounded_of_same rfl
  | stop running => exact grounded_of_same rfl
  | joined transport stopping first => exact grounded_of_same rfl
  | start transport stopped =>
    refine ⟨fun _ elsewhere => ?_, fun _ elsewhere => ?_, fun _ elsewhere => ?_⟩
    · contradiction
    · contradiction
    · contradiction

/-- In every run over which no event gets stale, every transition rests on an event of its own
connection and session. -/
theorem transitions_grounded (setup : Setup τ) (transport : τ) (moves : List (Move τ))
    (life : Life τ) (move : Move τ) (next : Life τ)
    (foreign : ∀ transport,
      setup.transport.errorCode transport ≠ some (.application .kaTimeout))
    (run : Run (Guarded (Life.Fresh setup) (Steps (Life.step setup))) (.initial transport) moves
      life)
    (taken : life.step setup move = some next) : Grounded life next :=
  (run.invariant (evidenced_step setup) (evidenced_initial transport)).grounded foreign taken

/-! ## Runs in which events are fresh, and in which they are not -/

instance (life : Life τ) (event : Event) : Decidable (life.Pending event) :=
  inferInstanceAs (Decidable (_ ∧ _))

instance (reads : List (State × Message)) (type : PacketType) : Decidable (Holds reads type) :=
  inferInstanceAs (Decidable (∃ read ∈ reads, _))

instance (life : Life τ) : Decidable life.TimedOut :=
  inferInstanceAs (Decidable (∃ timer ∈ life.expired, _))

instance (setup : Setup τ) (life : Life τ) (move : Move τ) : Decidable (life.Fresh setup move) :=
  inferInstanceAs (Decidable (∀ next ∈ life.act setup move, _))

instance (life next : Life τ) : Decidable (Grounded life next) :=
  decidable_of_iff
    ((life.state ≠ .connecting → next.state = .connecting → Holds life.readsOpen .hip) ∧
      (life.state ≠ .connected → next.state = .connected → Holds life.readsEntered .ka) ∧
      (life.state = .connecting ∨ life.state = .connected → next.state = .disconnected →
        next.data.statuses.getLast? = some (.disconnected, some (.application .kaTimeout)) →
          life.TimedOut))
    ⟨fun ⟨connecting, connected, timedOut⟩ => ⟨connecting, connected, timedOut⟩,
      fun grounded => ⟨grounded.connecting, grounded.connected, grounded.timedOut⟩⟩

/-- A transport that is open or not, with the packets to read; it takes every packet. -/
def line : Transport (Bool × List Message) where
  isOpen := fun state => state.1
  write := fun state _ => (none, state)
  read := fun state => (state.2.head?, (state.1, state.2.tail))
  clearQueues := fun state => (state.1, [])
  errorCode := fun _ => none

/-- A slave on this transport. -/
def onLine : Setup (Bool × List Message) where
  slaveId := .empty
  transport := line
  hasCmdCb := true
  raw := .cleared

/-- A packet arrives on the open transport. -/
def arrives (made : Except PacketError Packet) : Move (Bool × List Message) :=
  .changed (true, made.toOption.toList.map fun packet => ⟨packet, none⟩)

/-- The connection closes. -/
def closes : Move (Bool × List Message) := .changed (false, [])

/-- A connection opens. -/
def reopens : Move (Bool × List Message) := .opened (true, [])

/-- Several entries of the state machine. -/
def wakeups (count : Nat) : List (Move (Bool × List Message)) := List.replicate count .wakeup

/-- A HIP of the master. -/
def hip : Except PacketError Packet := Packet.makeHip .cleared 1 .empty

/-- A keepalive of the master. -/
def keepaliveOf (id : UInt16) : Except PacketError Packet := Packet.makeKeepalive .cleared id

/-- A slave is started, a connection is opened and a HIP read on it. -/
def greeted : List (Move (Bool × List Message)) :=
  [.start (false, [])] ++ wakeups 3 ++ [reopens] ++ wakeups 2 ++ [arrives hip] ++ wakeups 1

/-- A session in which a keepalive is read. -/
def fresh : List (Move (Bool × List Message)) :=
  greeted ++ wakeups 2 ++ [arrives (keepaliveOf 2)] ++ wakeups 3

/-- Its slave enters state connected, after a keepalive it read in the session. -/
theorem transitions_grounded_fresh :
    ∃ life next, Run (Guarded (Life.Fresh onLine) (Steps (Life.step onLine)))
        (.initial (false, [])) fresh life ∧
      Life.step onLine life .wakeup = some next ∧ life.state ≠ .connected ∧
        next.state = .connected ∧ Holds life.readsEntered .ka := by
  have executed : ((Base.execute (fun life move =>
      if Life.Fresh onLine life move then Life.step onLine life move else none)
        (.initial (false, [])) fresh).any fun life =>
          (Life.step onLine life .wakeup).any fun next =>
          decide (life.state ≠ .connected ∧ next.state = .connected)) = true := by
    decide +kernel
  obtain ⟨life, reached, stepped⟩ := (Option.any_eq_true _ _).mp executed
  obtain ⟨next, taken, entered⟩ := (Option.any_eq_true _ _).mp stepped
  obtain ⟨outside, inside⟩ := of_decide_eq_true entered
  have run := run_of_execute_guarded (Life.Fresh onLine) (Life.step onLine) _ _ _ reached
  have grounded := transitions_grounded onLine (false, []) fresh life .wakeup next
    (fun _ same => by cases same) run taken
  exact ⟨life, next, run, taken, outside, inside, grounded.connected outside inside⟩

/-- A HIP outlives the connection it was read on. -/
def staleHip : List (Move (Bool × List Message)) :=
  greeted ++ [closes] ++ wakeups 1 ++ [reopens] ++ wakeups 2

/-- A keepalive outlives the session it was read in. -/
def staleKeepalive : List (Move (Bool × List Message)) :=
  greeted ++ wakeups 2 ++ [arrives (keepaliveOf 2)] ++ wakeups 1 ++ [closes] ++ wakeups 1 ++
    [reopens] ++ wakeups 3 ++ [arrives hip] ++ wakeups 6

/-- A timeout outlives the session whose timer expired. -/
def staleTimeout : List (Move (Bool × List Message)) :=
  greeted ++ wakeups 3 ++ List.replicate 30 (.tick []) ++
    [.tick [⟨0, 30, none, .kaTimeoutCb⟩], closes] ++ wakeups 1 ++ [reopens] ++ wakeups 3 ++
    [arrives hip] ++ wakeups 5

/-- After a run, the next entry makes a transition that rests on nothing. -/
def EndsUngrounded (moves : List (Move (Bool × List Message))) : Prop :=
  ∃ life next, Run (Steps (Life.step onLine)) (.initial (false, [])) moves life ∧
    Life.step onLine life .wakeup = some next ∧ ¬ Grounded life next

/-- Such a run can be executed. -/
theorem endsUngrounded_of_execute {moves : List (Move (Bool × List Message))}
    (executed : ((Base.execute (Life.step onLine) (.initial (false, [])) moves).any fun life =>
      (Life.step onLine life .wakeup).any fun next => decide (¬ Grounded life next)) = true) :
    EndsUngrounded moves := by
  obtain ⟨life, reached, stepped⟩ := (Option.any_eq_true _ _).mp executed
  obtain ⟨next, taken, ungrounded⟩ := (Option.any_eq_true _ _).mp stepped
  exact ⟨life, next, (execute_eq_some_iff _ _ _ _).mp reached, taken, of_decide_eq_true ungrounded⟩

/-- A stale HIP, a stale keepalive and a stale timeout each make a transition. -/
theorem staleEvents_ungrounded :
    EndsUngrounded staleHip ∧ EndsUngrounded staleKeepalive ∧ EndsUngrounded staleTimeout := by
  refine ⟨?_, ?_, ?_⟩
  · exact endsUngrounded_of_execute (by decide +kernel)
  · exact endsUngrounded_of_execute (by decide +kernel)
  · exact endsUngrounded_of_execute (by decide +kernel)

end Hdcp.Appli.Slave
