import Hdcp.Appli.MasterEvents

/-!
# What the master reports as the cause of a transition

The checks that end a session on their own set the error to report right before the transition. A
disconnection on request and a connection set none: they report what an exception of a handler left
behind, if one was thrown since the state was entered.
-/

namespace Hdcp.Appli.Master

open Base
open Hdcp.Master hiding State Event

variable {τ κ : Type}

section Reporting

variable (setup : Setup τ κ)

/-- The cause of the transition that the next entry makes, if it makes one. -/
def Life.cause (life : Life τ κ) : Option ErrorCode :=
  match life.state, life.party.machine.position with
  | .connecting, 1 => setup.transport.errorCode life.data.manager.transport
  | .connecting, 2 => some (.application .dipTimeout)
  | .connected, 1 => setup.transport.errorCode life.data.manager.transport
  | .connected, 2 => some (.application .kaTimeout)
  | _, _ => none

/-- A status given in a step is the state entered, with the cause of the transition. -/
def Life.Reports (life next : Life τ κ) : Prop :=
  ∀ status, next.data.statuses = life.data.statuses ++ [status] →
    status = (next.state, life.cause setup)

/-- The step runs a handler, and it throws an exception with an error code. -/
def Life.fails (life : Life τ κ) : Move τ κ → Bool
  | .wakeup =>
    life.party.machine.position = 0 && !life.party.machine.waiting &&
      match handler setup life.state (life.party.machine.nbLoop + 1) life.data with
      | .error error _ => error.code.isSome
      | .ok _ _ => false
  | _ => false

/-- The next entry connects on a DIP, or disconnects on request. -/
def Life.Grants (life : Life τ κ) : Prop :=
  life.party.machine.position = 3 ∧
    (life.state = .connecting ∧ .dipReceived ∈ life.data.events ∨
      life.state = .connected ∧ .disconnectionRequested ∈ life.data.events)

instance (life : Life τ κ) : Decidable life.Grants :=
  inferInstanceAs (Decidable (_ ∧ (_ ∧ _ ∨ _ ∧ _)))

/-- A master with whether a handler failed since its state was entered. -/
structure Report (τ κ : Type) where
  /-- The master. -/
  life : Life τ κ
  /-- A handler threw an exception with an error code. -/
  failed : Bool

namespace Report

/-- A master as constructed. -/
def initial (transport : τ) : Report τ κ := ⟨.initial transport, false⟩

/-- One step, if it can happen. -/
def step (report : Report τ κ) (move : Move τ κ) : Option (Report τ κ) :=
  (report.life.step setup move).map fun next =>
    ⟨next, if next.state = report.life.state then report.failed || report.life.fails setup move
      else false⟩

/-- The master connects, and disconnects on request, only if no handler failed since the state was
entered. -/
def Clean (report : Report τ κ) : Move τ κ → Prop
  | .wakeup => report.life.Grants → report.failed = false
  | _ => True

end Report

end Reporting

/-! ## The handlers -/

/-- The error to report and the statuses given are these. -/
def Data.Declares (data : Data τ κ) (errc : Option ErrorCode)
    (statuses : List (State × Option ErrorCode)) : Prop :=
  data.errc = errc ∧ data.statuses = statuses

section Handlers

variable (setup : Setup τ κ) {errc : Option ErrorCode} {statuses : List (State × Option ErrorCode)}

/-- The handlers set no error and report none, but that of state init sets it to none. -/
theorem handler_declares {state : State} (other : state ≠ .init) (nbLoop : Nat) :
    Keeps (fun data : Data τ κ => data.Declares errc statuses) (handler setup state nbLoop) := by
  have managed {α : Type} (action : Action τ κ α) :
      Keeps (fun data : Data τ κ => data.Declares errc statuses) (onManager action) :=
    onManager_keeps (fun _ _ told => told) action
  have tested (event : Event) :
      Keeps (fun data : Data τ κ => data.Declares errc statuses) (eraseEvent event) :=
    eraseEvent_keeps event fun _ told => told
  cases state with
  | init => contradiction
  | disconnected =>
    exact .bind (.runIf (.bind (.modify fun _ told => told) fun _ => managed stop)) fun _ => .pure _
  | connecting =>
    refine .bind (.runIf ?_) fun _ => .bind ?_ fun _ => .bind (.runIf ?_) fun _ => ?_
    · exact .bind (managed _) fun _ => .bind (managed _) fun _ => .bind (tested _) fun _ =>
        .modify fun _ told => told
    · exact .bind .get fun _ => .choice (.pure true) (tested _)
    · exact .bind (.modify fun _ told => told) fun _ => managed _
    · refine readPacket_keeps setup _ (fun _ _ told => told) (fun _ _ told => told)
        fun message => .runIf ?_
      exact .bind (.modify fun _ told => told) fun _ => .bind (.modify fun _ told => told) fun _ =>
        .bind (managed _) fun _ => .modify fun _ told => told
  | connected =>
    exact connected_keeps setup (fun _ _ told => told) (fun _ _ told => told)
      (fun _ _ told => told) (fun _ _ told => told) nbLoop

/-- The handlers of the states out of a session throw nothing. -/
theorem handler_returns {state : State} (outside : state = .init ∨ state = .disconnected)
    (nbLoop : Nat) (data : Data τ κ) :
    ∃ next, handler setup state nbLoop data = .ok .stayCurrState next := by
  rcases outside with rfl | rfl
  · exact ⟨_, rfl⟩
  · change ∃ next, (runIf (nbLoop = 1) enterDisconnected >>= fun _ => pure _) data = _
    unfold runIf
    by_cases first : nbLoop = 1
    · rw [if_pos first]
      exact ⟨_, rfl⟩
    · rw [if_neg first]
      exact ⟨_, rfl⟩

end Handlers

/-! ## Steps -/

section Steps

variable {setup : Setup τ κ}

/-- What an entry does to the error to report and with the status callback. -/
inductive Tells (setup : Setup τ κ) (life : Life τ κ) (next : Party τ κ) : Prop where
  /-- Nothing. -/
  | nothing (denied : ¬ life.Grants) (fine : life.fails setup .wakeup = false)
      (stays : next.machine.current = life.state)
      (begun : life.state = .init → life.party.machine.position ≠ 0)
      (told : next.data.Declares life.data.errc life.data.statuses)
  /-- State init begins with no error. -/
  | cleared (denied : ¬ life.Grants) (fine : life.fails setup .wakeup = false)
      (init : life.state = .init) (stays : next.machine.current = life.state)
      (told : next.data.Declares none life.data.statuses)
  /-- A handler throws. -/
  | failed (denied : ¬ life.Grants) (fails : life.fails setup .wakeup = true)
      (session : InSession life.state) (stays : next.machine.current = life.state)
      (code : ErrorCode) (told : next.data.Declares (some code) life.data.statuses)
  /-- A check that sets the error ends the session. -/
  | settled (denied : ¬ life.Grants) (left : next.machine.current ≠ life.state)
      (told : next.data.Declares none
        (life.data.statuses ++ [(next.machine.current, life.cause setup)]))
  /-- A transition that has no error reports what is there. -/
  | carried (left : next.machine.current ≠ life.state) (cause : life.cause setup = none)
      (later : life.state = .init → life.party.machine.position ≠ 0)
      (granted : InSession life.state → life.Grants)
      (told : next.data.Declares none
        (life.data.statuses ++ [(next.machine.current, life.data.errc)]))

/-- Where the next entry is not the last check of a session, it grants nothing. -/
theorem Life.not_grants {life : Life τ κ} (other : life.party.machine.position ≠ 3) :
    ¬ life.Grants := fun grants => other grants.1

/-- The handler of the next entry decides whether it fails. -/
theorem Life.fails_at {life : Life τ κ} {state : State} {nbLoop : Nat} {data : Data τ κ}
    (here : life.party = .at state nbLoop 0 data) :
    life.fails setup .wakeup =
      match handler setup state (nbLoop + 1) data with
      | .error error _ => error.code.isSome
      | .ok _ _ => false := by
  obtain ⟨party, phase, firstTimer, raised, asked⟩ := life
  subst here
  rfl

/-- A handler that returns. -/
theorem tells_handled {life : Life τ κ} {state : State} {nbLoop : Nat} {data : Data τ κ}
    (here : life.party = .at state nbLoop 0 data) (machine : Machine State)
    (stays : machine.current = state) (returns : Returns setup state (nbLoop + 1) data) :
    Tells setup life ⟨machine, after (handler setup state (nbLoop + 1) data)⟩ := by
  have denied : ¬ life.Grants := by
    refine Life.not_grants ?_
    rw [here]
    exact (Nat.succ_ne_zero 2).symm
  have fine : life.fails setup .wakeup = false := by
    obtain ⟨status, next, returned⟩ := returns
    rw [Life.fails_at here, returned]
  have current : life.state = state := congrArg (fun party => party.machine.current) here
  have fields : life.data = data := congrArg Party.data here
  by_cases init : state = .init
  · subst init
    refine .cleared denied fine current (stays.trans current.symm) ⟨rfl, ?_⟩
    rw [fields]
    rfl
  · refine .nothing denied fine (stays.trans current.symm) (fun same => ?_) ?_
    · exact absurd (current.symm.trans same) init
    · rw [fields]
      exact handler_declares setup init (nbLoop + 1) data ⟨rfl, rfl⟩

/-- A handler that throws. -/
theorem tells_thrown {life : Life τ κ} {state : State} {nbLoop : Nat} {data : Data τ κ}
    {next : Party τ κ} (here : life.party = .at state nbLoop 0 data)
    (throws : ¬ Returns setup state (nbLoop + 1) data)
    (taken : life.party.wakeup setup = some next) : Tells setup life next := by
  have denied : ¬ life.Grants := by
    refine Life.not_grants ?_
    rw [here]
    exact (Nat.succ_ne_zero 2).symm
  have current : life.state = state := congrArg (fun party => party.machine.current) here
  have fields : life.data = data := congrArg Party.data here
  have session : InSession state := by
    cases state with
    | connecting => exact .inl rfl
    | connected => exact .inr rfl
    | init =>
      obtain ⟨last, returned⟩ := handler_returns setup (.inl rfl) (nbLoop + 1) data
      exact absurd ⟨_, last, returned⟩ throws
    | disconnected =>
      obtain ⟨last, returned⟩ := handler_returns setup (.inr rfl) (nbLoop + 1) data
      exact absurd ⟨_, last, returned⟩ throws
  have inside : InSession life.state := by
    rw [current]
    exact session
  have begun : life.state = .init → life.party.machine.position ≠ 0 := by
    intro init
    rw [init] at inside
    rcases inside with other | other <;> contradiction
  have unlike : state ≠ .init := fun init => begun (current.trans init) (by rw [here]; rfl)
  cases outcome : handler setup state (nbLoop + 1) data with
  | ok status last => exact absurd ⟨status, last, outcome⟩ throws
  | error error last =>
    have kept := handler_declares setup unlike (nbLoop + 1) data ⟨rfl, rfl⟩
    have fails : life.fails setup .wakeup = error.code.isSome := by
      rw [Life.fails_at here, outcome]
    rw [outcome] at kept
    rw [here, wakeup_throws setup outcome] at taken
    obtain rfl := Option.some.inj taken
    have kept' : last.Declares life.data.errc life.data.statuses := by
      rw [fields]
      exact kept
    unfold caught
    cases code : error.code with
    | none =>
      rw [code] at fails
      exact .nothing denied fails current.symm begun kept'
    | some code' =>
      rw [code] at fails
      exact .failed denied fails inside current.symm code' ⟨rfl, kept'.2⟩

/-- The entries of the state machine. -/
theorem Wakes.tells {life : Life τ κ} {next : Party τ κ}
    (wakes : Wakes setup life.party next) (taken : life.party.wakeup setup = some next) :
    Tells setup life next := by
  obtain ⟨party, phase, firstTimer, raised, asked⟩ := life
  have other (position : Nat) (unlike : position ≠ 3) {state : State} {nbLoop : Nat}
      {data : Data τ κ} :
      ¬ (⟨.at state nbLoop position data, phase, firstTimer, raised, asked⟩ : Life τ κ).Grants :=
    Life.not_grants unlike
  cases wakes with
  | handled state nbLoop data returns => exact tells_handled rfl _ rfl returns
  | thrown state nbLoop data errc throws => exact tells_thrown rfl throws taken
  | waits nbLoop data =>
    obtain ⟨last, returned⟩ := handler_returns setup (.inr rfl) (nbLoop + 1) data
    exact tells_handled rfl _ rfl ⟨_, last, returned⟩
  | woken nbLoop data pending =>
    exact .nothing (Life.not_grants (Nat.succ_ne_zero 2).symm) rfl rfl (fun init => by cases init)
      ⟨rfl, rfl⟩
  | begun nbLoop data =>
    exact .carried (fun same => by cases same) rfl (fun _ => Nat.one_ne_zero) (fun inside => by
      rcases inside with inside | inside <;> cases inside) ⟨rfl, rfl⟩
  | requested nbLoop data pending =>
    exact .carried (fun same => by cases same) rfl (fun _ => Nat.one_ne_zero) (fun inside => by
      rcases inside with inside | inside <;> cases inside) ⟨rfl, rfl⟩
  | unrequested nbLoop data absent =>
    exact .nothing (other 1 (by decide)) rfl rfl (fun init => by cases init) ⟨rfl, rfl⟩
  | closed state nbLoop data session isClosed =>
    rcases session with rfl | rfl
    · exact .settled (other 1 (by decide)) (fun same => by cases same) ⟨rfl, rfl⟩
    · exact .settled (other 1 (by decide)) (fun same => by cases same) ⟨rfl, rfl⟩
  | stillOpen state nbLoop data session isOpen =>
    refine .nothing (other 1 (by decide)) rfl rfl (fun _ => ?_) ⟨rfl, rfl⟩
    exact Nat.one_ne_zero
  | dipTimeout nbLoop data pending exhausted =>
    exact .settled (other 2 (by decide)) (fun same => by cases same) ⟨rfl, rfl⟩
  | noDipTimeout nbLoop data left =>
    exact .nothing (other 2 (by decide)) rfl rfl (fun init => by cases init) ⟨rfl, rfl⟩
  | connected nbLoop data pending =>
    exact .carried (fun same => by cases same) rfl (fun init => by cases init)
      (fun _ => ⟨rfl, .inl ⟨rfl, pending⟩⟩) ⟨rfl, rfl⟩
  | notConnected nbLoop data absent =>
    refine .nothing ?_ rfl rfl (fun init => by cases init) ⟨rfl, rfl⟩
    rintro ⟨-, ⟨-, pending⟩ | ⟨inside, -⟩⟩
    · exact absent pending
    · cases inside
  | kaTimeout nbLoop data pending =>
    exact .settled (other 2 (by decide)) (fun same => by cases same) ⟨rfl, rfl⟩
  | noKaTimeout nbLoop data absent =>
    exact .nothing (other 2 (by decide)) rfl rfl (fun init => by cases init) ⟨rfl, rfl⟩
  | dismissed nbLoop data pending =>
    exact .carried (fun same => by cases same) rfl (fun init => by cases init)
      (fun _ => ⟨rfl, .inr ⟨rfl, pending⟩⟩) ⟨rfl, rfl⟩
  | undismissed nbLoop data absent =>
    refine .nothing ?_ rfl rfl (fun init => by cases init) ⟨rfl, rfl⟩
    rintro ⟨-, ⟨inside, -⟩ | ⟨-, pending⟩⟩
    · cases inside
    · exact absent pending

/-- A handler failed since the state was entered exactly when there is an error to report. -/
structure Report.Honest (report : Report τ κ) : Prop where
  /-- The master is sound. -/
  sound : report.life.Sound
  /-- None failed out of a session. -/
  outside : report.life.state = .init ∨ report.life.state = .disconnected → report.failed = false
  /-- An error is left by a handler. -/
  errc : (report.life.state = .init → report.life.party.machine.position ≠ 0) →
    (report.life.data.errc = none ↔ report.failed = false)

/-- A step in which no status is given reports none that is wrong. -/
theorem Life.reports_of_silent {life next : Life τ κ}
    (silent : next.data.statuses = life.data.statuses) : life.Reports setup next := by
  intro status told
  rw [silent] at told
  exact absurd told (by simp)

/-- A step in which one status is given reports it. -/
theorem Life.reports_of_told {life next : Life τ κ} {errc : Option ErrorCode}
    (told : next.data.statuses = life.data.statuses ++ [(next.state, errc)]) :
    life.Reports setup next ↔ errc = life.cause setup := by
  constructor
  · intro reports
    exact (Prod.mk.inj (reports _ told)).2
  · rintro rfl status same
    rw [told, List.append_cancel_left_eq, List.singleton_inj] at same
    exact same.symm

/-- Every state is out of a session or in one. -/
theorem outside_or_session (state : State) :
    (state = .init ∨ state = .disconnected) ∨ InSession state := by
  cases state with
  | init => exact .inl (.inl rfl)
  | disconnected => exact .inl (.inr rfl)
  | connecting => exact .inr (.inl rfl)
  | connected => exact .inr (.inr rfl)

/-- An entry keeps errors honest, and reports the cause of its transition exactly when it is
clean. -/
theorem Report.honest_tells {report next : Report τ κ} (honest : report.Honest)
    (still : next.life.Sound) (tells : Tells setup report.life next.life.party)
    (marked : next.failed = if next.life.party.machine.current = report.life.state then
      report.failed || report.life.fails setup .wakeup else false) :
    next.Honest ∧ (report.life.Reports setup next.life ↔ report.Clean .wakeup) := by
  cases tells with
  | nothing denied fine stays begun told =>
    rw [if_pos stays, fine, Bool.or_false] at marked
    refine ⟨⟨still, fun outside => ?_, fun _ => ?_⟩, ?_⟩
    · rw [show next.life.state = report.life.state from stays] at outside
      rw [marked]
      exact honest.outside outside
    · rw [marked, show next.life.data.errc = report.life.data.errc from told.1]
      exact honest.errc begun
    · exact iff_of_true (Life.reports_of_silent told.2) fun grants => absurd grants denied
  | cleared denied fine init stays told =>
    have none : next.failed = false := by
      rw [marked, if_pos stays, fine, Bool.or_false]
      exact honest.outside (.inl init)
    exact ⟨⟨still, fun _ => none, fun _ => iff_of_true told.1 none⟩,
      iff_of_true (Life.reports_of_silent told.2) fun grants => absurd grants denied⟩
  | failed denied fails session stays code told =>
    rw [if_pos stays, fails, Bool.or_true] at marked
    refine ⟨⟨still, fun outside => ?_, fun _ => iff_of_false ?_ ?_⟩, ?_⟩
    · rw [show next.life.state = report.life.state from stays] at outside
      rcases session with inside | inside
      · rw [inside] at outside
        rcases outside with other | other <;> contradiction
      · rw [inside] at outside
        rcases outside with other | other <;> contradiction
    · rw [show next.life.data.errc = some code from told.1]
      exact Option.some_ne_none code
    · rw [marked]
      exact Bool.true_eq_false_eq_False
    · exact iff_of_true (Life.reports_of_silent told.2) fun grants => absurd grants denied
  | settled denied left told =>
    rw [if_neg left] at marked
    exact ⟨⟨still, fun _ => marked, fun _ => iff_of_true told.1 marked⟩,
      iff_of_true ((Life.reports_of_told told.2).mpr rfl) fun grants => absurd grants denied⟩
  | carried left cause later granted told =>
    rw [if_neg left] at marked
    refine ⟨⟨still, fun _ => marked, fun _ => iff_of_true told.1 marked⟩, ?_⟩
    rw [Life.reports_of_told told.2, cause, honest.errc later]
    constructor
    · exact fun none _ => none
    · intro clean
      rcases outside_or_session report.life.state with outside | session
      · exact honest.outside outside
      · exact clean (granted session)

/-- A step keeps errors honest, and reports the cause of its transition exactly when it is clean. -/
theorem Report.honest_step {report next : Report τ κ} {move : Move τ κ} (honest : report.Honest)
    (taken : report.step setup move = some next) :
    next.Honest ∧ (report.life.Reports setup next.life ↔ report.Clean move) := by
  obtain ⟨life, stepped, rfl⟩ := Option.map_eq_some_iff.mp taken
  obtain ⟨party, phase, acted, lives, rfl, still⟩ := honest.sound.step stepped
  by_cases wakes : move = .wakeup
  · subst wakes
    refine Report.honest_tells honest still ?_ rfl
    cases lives with
    | wakeup _ alive wakes => exact wakes.tells (Life.wakeup_of_act acted)
  · have same := untouched_lives lives wakes
    have fine : report.life.fails setup move = false := by
      cases move with
      | wakeup => contradiction
      | _ => rfl
    have clean : report.Clean move := by
      cases move with
      | wakeup => contradiction
      | _ => trivial
    rw [fine, Bool.or_false]
    refine ⟨?_, iff_of_true (Life.reports_of_silent same.statuses) clean⟩
    by_cases starts : ∃ transport, move = .start transport
    · obtain ⟨transport, rfl⟩ := starts
      cases lives with
      | start _ stopped =>
        refine ⟨still, fun _ => ?_, fun later => absurd rfl (later rfl)⟩
        dsimp only
        split
        · next init => exact honest.outside (.inl init.symm)
        · rfl
    · have machine := state_lives lives wakes fun transport starting => starts ⟨transport, starting⟩
      have stays : (report.life.marked move party phase).state = report.life.state :=
        congrArg Machine.current machine
      rw [if_pos stays]
      refine ⟨still, fun outside => ?_, fun later => ?_⟩
      · rw [stays] at outside
        exact honest.outside outside
      · change (report.life.marked move party phase).state = _ →
          party.machine.position ≠ 0 at later
        rw [stays, machine] at later
        change party.data.errc = none ↔ _
        rw [same.errc]
        exact honest.errc later

end Steps

/-- In every run, each transition is reported with its own cause, and none if it has none, exactly
as long as the master neither connects nor disconnects on request after a handler failed in the
state it leaves. -/
theorem reports_correct_iff (setup : Setup τ κ) (transport : τ) (moves : List (Move τ κ))
    (finish : Report τ κ) :
    Run (fun report move next => Steps (Report.step setup) report move next ∧
          report.life.Reports setup next.life) (.initial transport) moves finish ↔
      Run (Guarded Report.Clean (Steps (Report.step setup))) (.initial transport) moves finish := by
  have begins : (Report.initial transport : Report τ κ).Honest :=
    ⟨sound_started transport, fun _ => rfl, fun _ => iff_of_true rfl rfl⟩
  constructor
  · intro run
    refine run.mono_of Report.Honest ?_ begins
    rintro report move next honest ⟨taken, reports⟩
    obtain ⟨honest', clean⟩ := Report.honest_step honest taken
    exact ⟨⟨clean.mp reports, taken⟩, honest'⟩
  · intro run
    refine run.mono_of Report.Honest ?_ begins
    rintro report move next honest ⟨clean, taken⟩
    obtain ⟨honest', reports⟩ := Report.honest_step honest taken
    exact ⟨⟨taken, reports.mpr clean⟩, honest'⟩

/-! ## An error of an earlier failure -/

/-- The ack of a command nobody sent arrives on the open transport. -/
def strayAck : Move (Bool × List Message) Unit :=
  .changed (true, (Packet.makeCmdAck .cleared 2 7 9).toOption.toList.map fun ack => ⟨ack, none⟩)

/-- The master is connected, refuses the ack, and is asked to disconnect. -/
def dismissing : List (Move (Bool × List Message) Unit) :=
  started ++ connects ++ accepts ++ [strayAck] ++ wakeups 1 ++ [.asyncDisconnect] ++ wakeups 3

/-- The disconnection the user asked for is reported as a request that was not found. -/
theorem reports_stale :
    ∃ report next, Run (Steps (Report.step onLine)) (.initial (false, [])) dismissing report ∧
      report.step onLine .wakeup = some next ∧ report.life.Grants ∧
        report.life.cause onLine = none ∧
          next.life.data.statuses = report.life.data.statuses ++
            [(.disconnected, some (.application .requestNotFound))] ∧
          ¬ report.life.Reports onLine next.life := by
  have executed : ((Base.execute (Report.step onLine) (.initial (false, [])) dismissing).any
      fun report => (report.step onLine .wakeup).any fun next =>
        decide (report.life.Grants ∧ report.life.cause onLine = none ∧
          next.life.state = .disconnected ∧
          next.life.data.statuses = report.life.data.statuses ++
            [(.disconnected, some (.application .requestNotFound))])) = true := by
    decide +kernel
  obtain ⟨report, reached, stepped⟩ := (Option.any_eq_true _ _).mp executed
  obtain ⟨next, taken, ended⟩ := (Option.any_eq_true _ _).mp stepped
  obtain ⟨grants, none, left, told⟩ := of_decide_eq_true ended
  refine ⟨report, next, (execute_eq_some_iff _ _ _ _).mp reached, taken, grants, none, told, ?_⟩
  rw [← left] at told
  rw [Life.reports_of_told told, none]
  exact Option.some_ne_none _

end Hdcp.Appli.Master
