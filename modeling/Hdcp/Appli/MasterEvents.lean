import Hdcp.Appli.MasterLife
import Hdcp.Appli.SlaveEvents

/-!
# Where the master's events come from

An event is remembered until it is consumed: a timeout that another transition overtakes, and a
disconnection asked for before the connection is made, outlive their session. When none of these is
pending as state connecting is entered, what a session consumes was raised by a timer armed in it,
or asked for in it.
-/

namespace Hdcp.Appli.Master

open Base
open Hdcp.Master hiding State Event

variable {τ κ : Type}

/-- The events that end a session or an attempt. -/
def Ending (event : Event) : Prop :=
  event = .kaTimeout ∨ event = .dipTimeout ∨ event = .disconnectionRequested

/-- A timer of a callback, armed since state connecting was last entered, has raised its timeout. -/
def Life.TimedOut (life : Life τ κ) (callback : TimerCallback) : Prop :=
  ∃ timer ∈ life.raised, timer.callback = callback ∧ life.firstTimer ≤ timer.id

/-- Where a pending event comes from, in the present session. -/
def Life.Evidence (life : Life τ κ) : Event → Prop
  | .kaTimeout => life.TimedOut .kaTimeoutCb
  | .dipTimeout => life.TimedOut .dipTimeoutCb
  | .disconnectionRequested => life.asked = true
  | _ => True

/-- A session goes on, or begins. -/
def InSession (state : State) : Prop := state = .connecting ∨ state = .connected

/-- No timeout and no disconnection is pending as state connecting is entered. -/
def Life.Fresh (setup : Setup τ κ) (life : Life τ κ) (move : Move τ κ) : Prop :=
  ∀ next ∈ life.act setup move, life.enters next.1 = true →
    .kaTimeout ∉ life.data.events ∧ .dipTimeout ∉ life.data.events ∧
      .disconnectionRequested ∉ life.data.events

/-- What a session consumes comes from it. -/
structure Grounded (life next : Life τ κ) : Prop where
  /-- A keepalive timeout consumed in state connected. -/
  kaTimeout : life.state = .connected → .kaTimeout ∈ life.data.events →
    .kaTimeout ∉ next.data.events → life.TimedOut .kaTimeoutCb
  /-- A connection timeout consumed in state connecting. -/
  dipTimeout : life.state = .connecting → .dipTimeout ∈ life.data.events →
    .dipTimeout ∉ next.data.events → life.TimedOut .dipTimeoutCb
  /-- A disconnection consumed in state connected. -/
  disconnectionRequested : life.state = .connected → .disconnectionRequested ∈ life.data.events →
    .disconnectionRequested ∉ next.data.events → life.asked = true

section Handlers

variable (setup : Setup τ κ) {event : Event}

/-- The test of an event raises none. -/
theorem eraseEvent_absent (tested : Event) :
    Keeps (fun data => event ∉ Data.events data) (eraseEvent tested : Handler τ κ Bool) :=
  fun _ absent pending => absent (Finset.mem_of_mem_erase pending)

/-- The handlers raise no event but that of a DIP. -/
theorem handler_absent (other : event ≠ .dipReceived) (state : State) (nbLoop : Nat) :
    Keeps (fun data => event ∉ Data.events data) (handler setup state nbLoop) := by
  have managed {α : Type} (action : Action τ κ α) :
      Keeps (fun data => event ∉ Data.events data) (onManager action) :=
    onManager_keeps (fun _ _ absent => absent) action
  cases state with
  | init => exact fun data _ => Finset.notMem_empty event
  | disconnected =>
    exact .bind (.runIf (.bind (.modify fun _ absent => absent) fun _ => managed stop)) fun _ =>
      .pure _
  | connecting =>
    refine .bind (.runIf ?_) fun _ => .bind ?_ fun _ => .bind (.runIf ?_) fun _ => ?_
    · exact .bind (managed _) fun _ => .bind (managed _) fun _ =>
        .bind (eraseEvent_absent _) fun _ => .modify fun _ absent => absent
    · exact .bind .get fun _ => .choice (.pure true) (eraseEvent_absent _)
    · exact .bind (.modify fun _ absent => absent) fun _ => managed _
    · refine readPacket_keeps setup _ (fun _ _ absent => absent) (fun _ _ absent => absent)
        fun message => .runIf ?_
      refine .bind (.modify fun _ absent => absent) fun _ => .bind (.modify fun _ absent => absent)
        fun _ => .bind (managed _) fun _ => .modify fun data absent raised => ?_
      exact absent (Finset.mem_of_mem_insert_of_ne raised other)
  | connected =>
    exact connected_keeps setup (fun _ _ absent => absent) (fun _ _ absent => absent)
      (fun _ _ absent => absent) (fun _ _ absent => absent) nbLoop

end Handlers

section Lives

variable {setup : Setup τ κ}

/-- A move from a state raises no event that ends a session. -/
theorem moved_absent {source target : State} {data : Data τ κ} {event : Event}
    (ending : Ending event) (absent : event ∉ data.events) :
    event ∉ (Party.movedTo source target data).data.events := by
  change event ∉ (if _ then _ else _)
  split
  · intro raised
    refine absent (Finset.mem_of_mem_insert_of_ne raised ?_)
    rintro rfl
    rcases ending with other | other | other <;> contradiction
  · exact absent

/-- The entries raise no event that ends a session. -/
theorem absent_wakes {master next : Party τ κ} {event : Event} (wakes : Wakes setup master next)
    (ending : Ending event) (absent : event ∉ master.data.events) : event ∉ next.data.events := by
  have handled : ∀ state nbLoop,
      Keeps (fun data => event ∉ Data.events data) (handler setup state nbLoop) := by
    refine handler_absent setup ?_
    rintro rfl
    rcases ending with other | other | other <;> contradiction
  have erased : ∀ (data : Data τ κ) consumed, event ∉ data.events →
      event ∉ (data.without consumed).events :=
    fun data consumed absent pending => absent (Finset.mem_of_mem_erase pending)
  cases wakes with
  | handled state nbLoop data returns => exact handled state _ data absent
  | thrown state nbLoop data errc throws => exact handled state _ data absent
  | waits nbLoop data => exact handled .disconnected _ data absent
  | woken nbLoop data pending => exact absent
  | begun nbLoop data => exact moved_absent ending absent
  | requested nbLoop data pending => exact moved_absent ending (erased data _ absent)
  | unrequested nbLoop data missing => exact absent
  | closed state nbLoop data session isClosed => exact moved_absent ending absent
  | stillOpen state nbLoop data session isOpen => exact absent
  | dipTimeout nbLoop data pending exhausted => exact moved_absent ending (erased data _ absent)
  | noDipTimeout nbLoop data left => exact absent
  | connected nbLoop data pending => exact moved_absent ending (erased data _ absent)
  | notConnected nbLoop data missing => exact absent
  | kaTimeout nbLoop data pending => exact moved_absent ending (erased data _ absent)
  | noKaTimeout nbLoop data missing => exact absent
  | dismissed nbLoop data pending => exact moved_absent ending (erased data _ absent)
  | undismissed nbLoop data missing => exact absent

/-- What a step that makes such an event pending does. -/
inductive Cause (life : Life τ κ) (party : Party τ κ) : Move τ κ → Event → Prop where
  /-- A timer expires and its timeout is reported. -/
  | expired (batch : List (Timer TimerCallback)) (type : TimeoutType)
      (timer : Timer TimerCallback) (raised : timer ∈ life.raises party (.tick batch))
      (bound : timer.callback = type.callback)
      (running : life.data.manager.running = true)
      (armed : timer ∈ life.data.manager.timeoutQueue.timers) :
      Cause life party (.tick batch) (TimeoutType.event type)
  /-- The user asks for a disconnection. -/
  | asked (heard : life.state ≠ .disconnected) :
      Cause life party .asyncDisconnect .disconnectionRequested

/-- After a step no event that ends a session is pending that was not, but for one the step has a
cause for. -/
theorem pending_lives {life : Life τ κ} {move : Move τ κ} {party : Party τ κ} {phase : Phase}
    {event : Event} (lives : Lives setup life move party phase) (ending : Ending event)
    (pending : event ∈ party.data.events) :
    event ∈ life.data.events ∨ Cause life party move event := by
  by_cases wakes : move = .wakeup
  · subst wakes
    left
    cases lives with
    | wakeup _ alive wakes =>
      by_contra absent
      exact absent_wakes wakes ending absent pending
  · rcases raised_lives lives wakes pending with before | raised
    · exact .inl before
    · right
      cases raised with
      | expired batch type timer inside bound running armed told =>
        refine .expired batch type timer (List.mem_filter.mpr ⟨inside, ?_⟩) bound running armed
        rw [bound]
        exact told
      | requested => rcases ending with other | other | other <;> cases other
      | dismissed heard => exact .asked heard
      | stopped => rcases ending with other | other | other <;> cases other

/-- A state is left or entered by the state machine and by `start` only. -/
theorem state_lives {life : Life τ κ} {move : Move τ κ} {party : Party τ κ} {phase : Phase}
    (lives : Lives setup life move party phase) (other : move ≠ .wakeup)
    (kept : ∀ transport, move ≠ .start transport) : party.machine = life.party.machine := by
  cases lives with
  | wakeup _ alive wakes => exact absurd rfl other
  | tick batch running perm => rfl
  | asyncConnect =>
    unfold Party.asyncConnect
    split <;> rfl
  | connectReturns => rfl
  | asyncDisconnect =>
    unfold Party.asyncDisconnect
    split <;> rfl
  | sendCommand id data cb =>
    obtain ⟨manager, sent, -, -⟩ := Party.sendCommand_eq setup life.party id data cb
    rw [sent]
  | changed transport => rfl
  | stop running => rfl
  | joined transport stopping first awake => rfl
  | start transport stopped => exact absurd rfl (kept transport)

/-- A step from one state to another stays in a session, which state connecting begins. -/
def Continues (source target : State) : Prop :=
  InSession source ∧ (target = .connecting → source = .connecting)

/-- A session goes on, or begins as a request is consumed. -/
theorem session_wakes {master next : Party τ κ} (wakes : Wakes setup master next)
    (session : InSession next.state) :
    Continues master.state next.state ∨ master.state = .disconnected ∧
      next.machine = .entered .connecting ∧ next.data.manager = master.data.manager := by
  have same : ∀ state, InSession state → Continues state state :=
    fun state session => ⟨session, fun connecting => connecting⟩
  have outside : ∀ {data : Data τ κ} {source : State},
      ¬ InSession (Party.movedTo source .disconnected data).state := by
    rintro _ _ (other | other) <;> contradiction
  cases wakes with
  | handled state nbLoop data returns => exact .inl (same _ session)
  | thrown state nbLoop data errc throws => exact .inl (same _ session)
  | waits nbLoop data => exact .inl (same _ session)
  | woken nbLoop data pending => exact .inl (same _ session)
  | begun nbLoop data => exact absurd session outside
  | requested nbLoop data pending => exact .inr ⟨rfl, rfl, rfl⟩
  | unrequested nbLoop data absent => exact .inl (same _ session)
  | closed state nbLoop data inside isClosed => exact absurd session outside
  | stillOpen state nbLoop data inside isOpen => exact .inl (same _ session)
  | dipTimeout nbLoop data pending exhausted => exact absurd session outside
  | noDipTimeout nbLoop data left => exact .inl (same _ session)
  | connected nbLoop data pending => exact .inl ⟨.inl rfl, fun other => by contradiction⟩
  | notConnected nbLoop data absent => exact .inl (same _ session)
  | kaTimeout nbLoop data pending => exact absurd session outside
  | noKaTimeout nbLoop data absent => exact .inl (same _ session)
  | dismissed nbLoop data pending => exact absurd session outside
  | undismissed nbLoop data absent => exact .inl (same _ session)

/-- A step into a session that is not one of a session begins it. -/
theorem session_lives {life : Life τ κ} {move : Move τ κ} {party : Party τ κ} {phase : Phase}
    (lives : Lives setup life move party phase) (session : InSession party.state) :
    Continues life.state party.state ∨ move = .wakeup ∧ life.state = .disconnected ∧
      party.machine = .entered .connecting ∧ party.data.manager = life.data.manager := by
  by_cases wakes : move = .wakeup
  · subst wakes
    cases lives with
    | wakeup _ alive wakes =>
      rcases session_wakes wakes session with inside | begins
      · exact .inl inside
      · exact .inr ⟨rfl, begins⟩
  · by_cases starts : ∃ transport, move = .start transport
    · obtain ⟨transport, rfl⟩ := starts
      cases lives with
      | start _ stopped => rcases session with other | other <;> contradiction
    · have same := state_lives lives wakes fun transport starting => starts ⟨transport, starting⟩
      have kept : party.state = life.state := congrArg Machine.current same
      rw [kept] at session ⊢
      exact .inl ⟨session, fun connecting => connecting⟩

/-- State connecting is entered from state disconnected, and the manager is left alone. -/
theorem enters_lives {life : Life τ κ} {move : Move τ κ} {party : Party τ κ} {phase : Phase}
    (lives : Lives setup life move party phase) (enters : life.enters party = true) :
    move = .wakeup ∧ life.state = .disconnected ∧ party.machine = .entered .connecting ∧
      party.data.manager = life.data.manager := by
  unfold Life.enters at enters
  rw [decide_eq_true_eq] at enters
  obtain ⟨outside, inside⟩ := enters
  rcases session_lives lives (.inl inside) with continues | begins
  · exact absurd (continues.2 inside) outside
  · exact begins

/-- Steps arm no old timer. -/
theorem recent_lives {life : Life τ κ} {move : Move τ κ} {party : Party τ κ} {phase : Phase}
    {first : Nat} (lives : Lives setup life move party phase)
    (recent : From first life.data.manager) : From first party.data.manager := by
  have handled : ∀ state nbLoop, Keeps (fun data => From first (Data.manager data))
      (handler setup state nbLoop) := by
    refine handler_keeps setup (From first) (fun _ _ change recent => recent.change change) ?_ ?_
    · exact fun manager transport _ recent => ⟨recent.issued, recent.timers⟩
    · exact fun manager idle recent => ⟨recent.issued, fun _ timer inside => by contradiction⟩
  cases lives with
  | wakeup _ alive wakes =>
    obtain ⟨master, before, firstTimer, raised, asked⟩ := life
    cases wakes with
    | handled state nbLoop data returns => exact handled state _ data recent
    | thrown state nbLoop data errc throws => exact handled state _ data recent
    | waits nbLoop data => exact handled .disconnected _ data recent
    | woken nbLoop data pending => exact recent
    | begun nbLoop data => exact recent
    | requested nbLoop data pending => exact recent
    | unrequested nbLoop data absent => exact recent
    | closed state nbLoop data inside isClosed => exact recent
    | stillOpen state nbLoop data inside isOpen => exact recent
    | dipTimeout nbLoop data pending exhausted => exact recent
    | noDipTimeout nbLoop data left => exact recent
    | connected nbLoop data pending => exact recent
    | notConnected nbLoop data absent => exact recent
    | kaTimeout nbLoop data pending => exact recent
    | noKaTimeout nbLoop data absent => exact recent
    | dismissed nbLoop data pending => exact recent
    | undismissed nbLoop data absent => exact recent
  | tick batch running perm =>
    exact recent.changes ((runOnce_changing batch).changes life.data.manager)
  | asyncConnect =>
    unfold Party.asyncConnect
    split <;> exact recent
  | connectReturns => exact recent
  | asyncDisconnect =>
    unfold Party.asyncDisconnect
    split <;> exact recent
  | sendCommand id data cb =>
    obtain ⟨manager, sent, changes, -⟩ := Party.sendCommand_eq setup life.party id data cb
    rw [sent]
    exact recent.changes changes
  | changed transport => exact ⟨recent.issued, recent.timers⟩
  | stop running => exact recent
  | joined transport stopping first awake => exact ⟨recent.issued, fun going => by contradiction⟩
  | start transport stopped => exact ⟨recent.issued, recent.timers⟩

/-- After each step the timers armed were armed since state connecting was last entered. -/
theorem recent_step {life : Life τ κ} {move : Move τ κ} {party : Party τ κ} {phase : Phase}
    (lives : Lives setup life move party phase) (after : Sound party phase)
    (recent : From life.firstTimer life.data.manager) :
    From (life.marked move party phase).firstTimer party.data.manager := by
  change From (if _ then _ else _) party.data.manager
  split
  · next enters =>
    -- the manager that a session begins with does not run
    obtain ⟨-, -, entered, same⟩ := enters_lives lives enters
    have idle : party.data.manager.running = false :=
      after.connecting (congrArg Machine.current entered) (congrArg Machine.nbLoop entered)
    refine ⟨?_, fun going => absurd (going.symm.trans idle) (by decide)⟩
    rw [same]
  · exact recent_lives lives recent

end Lives

/-- In a session every pending event that can end it comes from it. -/
structure Life.Evidenced (life : Life τ κ) : Prop where
  /-- The master is sound. -/
  sound : life.Sound
  /-- Timers armed were armed in this session. -/
  recent : From life.firstTimer life.data.manager
  /-- Such an event has its evidence. -/
  causes : InSession life.state → ∀ event, Ending event → event ∈ life.data.events →
    life.Evidence event

/-- Evidence is kept by a step that does not enter state connecting. -/
theorem Life.Evidence.kept {life : Life τ κ} {event : Event} (evidence : life.Evidence event)
    (move : Move τ κ) {party : Party τ κ} {phase : Phase} (stays : ¬ life.enters party = true) :
    (life.marked move party phase).Evidence event := by
  have timers : ∀ callback, life.TimedOut callback →
      (life.marked move party phase).TimedOut callback := by
    rintro callback ⟨timer, inside, bound, recent⟩
    refine ⟨timer, List.mem_append_left _ inside, bound, ?_⟩
    change (if _ then _ else _) ≤ timer.id
    rw [if_neg stays]
    exact recent
  cases event with
  | kaTimeout => exact timers _ evidence
  | dipTimeout => exact timers _ evidence
  | disconnectionRequested =>
    change (if _ then _ else _) = true
    rw [if_neg stays, show life.asked = true from evidence, Bool.true_or]
  | connectionRequested => trivial
  | dipReceived => trivial
  | stop => trivial
  | connectionAttempt => trivial

/-- The cause of an event is evidence of it. -/
theorem Cause.evidence {life : Life τ κ} {move : Move τ κ} {event : Event}
    {party : Party τ κ} {phase : Phase} (cause : Cause life party move event)
    (recent : From life.firstTimer life.data.manager) (stays : ¬ life.enters party = true) :
    (life.marked move party phase).Evidence event := by
  cases cause with
  | expired batch type timer raised bound running armed =>
    have expired : (life.marked (.tick batch) party phase).TimedOut type.callback := by
      refine ⟨timer, List.mem_append_right _ raised, bound, ?_⟩
      change (if _ then _ else _) ≤ timer.id
      rw [if_neg stays]
      exact recent.timers running timer armed
    cases type with
    | dipTimeout => exact expired
    | kaTimeout => exact expired
  | asked heard =>
    change (if _ then _ else _) = true
    rw [if_neg stays]
    have asks : life.asks (.asyncDisconnect : Move τ κ) = true := decide_eq_true heard
    rw [asks, Bool.or_true]

/-- Each step over which no event gets stale leaves every event with its evidence. -/
theorem evidenced_step (setup : Setup τ κ) (life : Life τ κ) (move : Move τ κ) (next : Life τ κ)
    (evidenced : life.Evidenced)
    (taken : Guarded (Life.Fresh setup) (Steps (Life.step setup)) life move next) :
    next.Evidenced := by
  obtain ⟨fresh, stepped⟩ := taken
  obtain ⟨party, phase, acted, lives, rfl, after⟩ := evidenced.sound.step stepped
  refine ⟨after, recent_step lives after evidenced.recent, fun session event ending pending => ?_⟩
  have before := pending_lives lives ending pending
  by_cases enters : life.enters party = true
  · -- nothing stale is pending as the session begins
    obtain ⟨rfl, -, -, -⟩ := enters_lives lives enters
    obtain ⟨kaAbsent, dipAbsent, unasked⟩ := fresh _ acted enters
    rcases before with pending | cause
    · rcases ending with rfl | rfl | rfl <;> contradiction
    · cases cause
  · have inside : InSession life.state := by
      rcases session_lives lives session with continues | ⟨-, outside, entered, -⟩
      · exact continues.1
      · refine absurd (decide_eq_true ⟨?_, congrArg Machine.current entered⟩) enters
        rw [outside]
        decide
    rcases before with pending | cause
    · exact (evidenced.causes inside event ending pending).kept move enters
    · exact cause.evidence evidenced.recent enters

/-- A master as constructed is in no session. -/
theorem evidenced_initial (transport : τ) : (Life.initial transport : Life τ κ).Evidenced where
  sound := sound_started transport
  recent := ⟨Nat.le_refl _, fun _ timer inside => by contradiction⟩
  causes := fun session => by rcases session with other | other <;> contradiction

/-- In every run over which no event gets stale, the timeouts and the disconnection that a session
consumes come from it. -/
theorem consumptions_grounded (setup : Setup τ κ) (transport : τ) (moves : List (Move τ κ))
    (life next : Life τ κ) (move : Move τ κ)
    (run : Run (Guarded (Life.Fresh setup) (Steps (Life.step setup))) (.initial transport) moves
      life)
    (_ : life.step setup move = some next) : Grounded life next := by
  have evidenced := run.invariant (evidenced_step setup) (evidenced_initial transport)
  exact
    { kaTimeout := fun inside pending _ => evidenced.causes (.inr inside) _ (.inl rfl) pending
      dipTimeout := fun inside pending _ =>
        evidenced.causes (.inl inside) _ (.inr (.inl rfl)) pending
      disconnectionRequested := fun inside pending _ =>
        evidenced.causes (.inr inside) _ (.inr (.inr rfl)) pending }

/-! ## Runs in which events are fresh, and in which they are not -/

instance (life : Life τ κ) (callback : TimerCallback) : Decidable (life.TimedOut callback) :=
  inferInstanceAs (Decidable (∃ timer ∈ life.raised, _))

instance (setup : Setup τ κ) (life : Life τ κ) (move : Move τ κ) :
    Decidable (life.Fresh setup move) :=
  inferInstanceAs (Decidable (∀ next ∈ life.act setup move, _))

instance (life next : Life τ κ) : Decidable (Grounded life next) :=
  decidable_of_iff
    ((life.state = .connected → .kaTimeout ∈ life.data.events →
        .kaTimeout ∉ next.data.events → life.TimedOut .kaTimeoutCb) ∧
      (life.state = .connecting → .dipTimeout ∈ life.data.events →
        .dipTimeout ∉ next.data.events → life.TimedOut .dipTimeoutCb) ∧
      (life.state = .connected → .disconnectionRequested ∈ life.data.events →
        .disconnectionRequested ∉ next.data.events → life.asked = true))
    ⟨fun ⟨kaTimeout, dipTimeout, asked⟩ => ⟨kaTimeout, dipTimeout, asked⟩,
      fun grounded => ⟨grounded.kaTimeout, grounded.dipTimeout, grounded.disconnectionRequested⟩⟩

/-- A master on a transport that is open or not. -/
def onLine : Setup (Bool × List Message) Unit where
  masterId := .empty
  transport := Slave.line
  invoke := fun _ _ => none
  dataCb := none
  raw := .cleared

/-- The slave's DIP arrives on the open transport. -/
def dipArrives : Move (Bool × List Message) Unit :=
  .changed (true, (Packet.makeDip .cleared 1 .empty).toOption.toList.map fun dip => ⟨dip, none⟩)

/-- The connection closes. -/
def closes : Move (Bool × List Message) Unit := .changed (false, [])

/-- Several entries of the state machine. -/
def wakeups (count : Nat) : List (Move (Bool × List Message) Unit) := List.replicate count .wakeup

/-- Several ticks at which no timer expires. -/
def quietTicks (count : Nat) : List (Move (Bool × List Message) Unit) :=
  List.replicate count (.tick [])

/-- The master is started. -/
def started : List (Move (Bool × List Message) Unit) := [.start (false, []), .wakeup, .wakeup]

/-- A connection opens and the user asks to connect: one wakeup in state connecting is over. -/
def connects : List (Move (Bool × List Message) Unit) :=
  [.changed (true, []), .asyncConnect] ++ wakeups 6

/-- A DIP ends the attempt: the first wakeup in state connected is over. -/
def accepts : List (Move (Bool × List Message) Unit) := [dipArrives] ++ wakeups 8

/-- The timer that sends keepalives, each time it expires. -/
def keepalives (expiration : Nat) : Timer TimerCallback :=
  ⟨1, expiration, some 10, .kaMngtTimeoutCb⟩

/-- Three seconds pass without an ack of a keepalive. -/
def unanswered : List (Move (Bool × List Message) Unit) :=
  quietTicks 10 ++ [.tick [keepalives 10]] ++ quietTicks 9 ++ [.tick [keepalives 20]] ++
    quietTicks 9 ++ [.tick [keepalives 30, ⟨2, 30, none, .kaTimeoutCb⟩]]

/-- A session that ends with the timeout of a keepalive of its own. -/
def fresh : List (Move (Bool × List Message) Unit) :=
  started ++ connects ++ accepts ++ unanswered ++ wakeups 2

/-- The next entry ends the session, and a timer armed in the session has raised the timeout. -/
theorem consumptions_grounded_fresh :
    ∃ life next, Run (Guarded (Life.Fresh onLine) (Steps (Life.step onLine)))
        (.initial (false, [])) fresh life ∧
      Life.step onLine life .wakeup = some next ∧ life.state = .connected ∧
        next.state = .disconnected ∧ life.TimedOut .kaTimeoutCb := by
  have executed : ((Base.execute (fun life move =>
      if Life.Fresh onLine life move then Life.step onLine life move else none)
        (.initial (false, [])) fresh).any fun life =>
          (Life.step onLine life .wakeup).any fun next =>
          decide (life.state = .connected ∧ next.state = .disconnected ∧
            .kaTimeout ∈ life.data.events ∧ .kaTimeout ∉ next.data.events)) = true := by
    decide +kernel
  obtain ⟨life, reached, stepped⟩ := (Option.any_eq_true _ _).mp executed
  obtain ⟨next, taken, ended⟩ := (Option.any_eq_true _ _).mp stepped
  obtain ⟨inside, outside, pending, consumed⟩ := of_decide_eq_true ended
  have run := run_of_execute_guarded (Life.Fresh onLine) (Life.step onLine) _ _ _ reached
  have grounded := consumptions_grounded onLine (false, []) fresh life next .wakeup run taken
  exact ⟨life, next, run, taken, inside, outside, grounded.kaTimeout inside pending consumed⟩

/-- The timeout of a keepalive outlives its session, which the transport ended. -/
def staleKaTimeout : List (Move (Bool × List Message) Unit) :=
  started ++ connects ++ accepts ++ unanswered ++ [closes] ++ wakeups 2 ++ connects ++
    [dipArrives] ++ wakeups 6

/-- The timeout of an attempt outlives it, as the transport closes before the next wakeup. -/
def staleDipTimeout : List (Move (Bool × List Message) Unit) :=
  started ++ connects ++ quietTicks 10 ++ wakeups 1 ++
    [.tick [⟨0, 10, none, .dipTimeoutCb⟩], closes] ++ wakeups 1 ++ connects

/-- A disconnection asked for before the connection is made outlives the attempt. -/
def staleDisconnection : List (Move (Bool × List Message) Unit) :=
  started ++ connects ++ [.asyncDisconnect, closes] ++ wakeups 2 ++ connects ++ [dipArrives] ++
    wakeups 7

/-- After a run, the next entry consumes what another session left. -/
def EndsUngrounded (moves : List (Move (Bool × List Message) Unit)) : Prop :=
  ∃ life next, Run (Steps (Life.step onLine)) (.initial (false, [])) moves life ∧
    Life.step onLine life .wakeup = some next ∧ ¬ Grounded life next

/-- Such a run can be executed. -/
theorem endsUngrounded_of_execute {moves : List (Move (Bool × List Message) Unit)}
    (executed : ((Base.execute (Life.step onLine) (.initial (false, [])) moves).any fun life =>
      (Life.step onLine life .wakeup).any fun next => decide (¬ Grounded life next)) = true) :
    EndsUngrounded moves := by
  obtain ⟨life, reached, stepped⟩ := (Option.any_eq_true _ _).mp executed
  obtain ⟨next, taken, ungrounded⟩ := (Option.any_eq_true _ _).mp stepped
  exact ⟨life, next, (execute_eq_some_iff _ _ _ _).mp reached, taken, of_decide_eq_true ungrounded⟩

/-- A stale keepalive timeout, a stale connection timeout and a stale disconnection are each
consumed. -/
theorem staleEndings_ungrounded :
    EndsUngrounded staleKaTimeout ∧ EndsUngrounded staleDipTimeout ∧
      EndsUngrounded staleDisconnection := by
  refine ⟨?_, ?_, ?_⟩
  · exact endsUngrounded_of_execute (by decide +kernel)
  · exact endsUngrounded_of_execute (by decide +kernel)
  · exact endsUngrounded_of_execute (by decide +kernel)

end Hdcp.Appli.Master
