import Hdcp.Appli.MasterEvents
import Hdcp.Appli.MasterWatch

/-!
# The bound on connection attempts

The timeout of an attempt is consumed in two places: the handler of state connecting takes it for
the sign to try again, and the check behind the handler for a failure, once three attempts were
made. The check looks at the event before the handler of the next wakeup does, but the timer thread
may raise it between the two; then the handler consumes the timeout of the third attempt and makes a
fourth.
-/

namespace Hdcp.Appli.Master

open Base
open Hdcp.Master hiding State Event

variable {τ κ : Type}

/-- The step runs the handler of state connecting, and an attempt is due: `send_hip` is called. -/
def Life.Dials (life : Life τ κ) : Move τ κ → Prop
  | .wakeup => life.state = .connecting ∧ life.party.machine.position = 0 ∧
      (life.party.machine.nbLoop = 0 ∨ life.data.Due)
  | _ => False

instance (life : Life τ κ) : (move : Move τ κ) → Decidable (life.Dials move)
  | .wakeup => inferInstanceAs (Decidable (_ ∧ _ ∧ (_ ∨ _)))
  | .tick _ | .asyncConnect | .connectReturns | .asyncDisconnect | .sendCommand _ _ _
  | .changed _ | .stop | .joined _ | .start _ => .isFalse id

/-- A master with the number of calls of `send_hip` since state connecting was last entered. -/
structure Tally (τ κ : Type) where
  /-- The master. -/
  life : Life τ κ
  /-- The calls. -/
  calls : Nat

namespace Tally

/-- A master as constructed. -/
def initial (transport : τ) : Tally τ κ := ⟨.initial transport, 0⟩

/-- One step, if it can happen. -/
def step (setup : Setup τ κ) (tally : Tally τ κ) (move : Move τ κ) : Option (Tally τ κ) :=
  (tally.life.step setup move).map fun next =>
    ⟨next, if tally.life.enters next.party then 0
      else if tally.life.Dials move then tally.calls + 1 else tally.calls⟩

/-- There were at most three attempts, and `connection_attempts_` says so. -/
def Bounded (tally : Tally τ κ) : Prop :=
  tally.calls ≤ maxConnectionAttempts ∧
    tally.life.data.connectionAttempts ≤ maxConnectionAttempts

/-- The handler of state connecting, unless it runs for the first time, finds no timeout pending
once three attempts were made. -/
def Spares (tally : Tally τ κ) (move : Move τ κ) : Prop :=
  tally.life.Dials move → tally.life.party.machine.nbLoop ≠ 0 →
    tally.life.data.connectionAttempts < maxConnectionAttempts

/-- In state connecting `connection_attempts_` counts the calls, from the first wakeup on. -/
def Counted (tally : Tally τ κ) : Prop :=
  tally.life.state = .connecting → tally.calls =
    if tally.life.party.machine.nbLoop = 0 then 0 else tally.life.data.connectionAttempts

end Tally

/-! ## The handlers -/

section Handlers

variable (setup : Setup τ κ)

/-- A packet in state connecting is no attempt. -/
theorem keeps_attempts_processConnecting (count : Nat) (message : Message) :
    Keeps (fun data : Data τ κ => data.connectionAttempts = count) (processConnecting message) :=
  .runIf (.bind (.modify fun _ standing => standing) fun _ =>
    .bind (.modify fun _ standing => standing) fun _ =>
      .bind (onManager_keeps (fun _ _ standing => standing) _) fun _ =>
        .modify fun _ standing => standing)

/-- The handlers of the other states make no attempt. -/
theorem keeps_attempts_handler (count : Nat) {state : State} (other : state ≠ .connecting)
    (nbLoop : Nat) :
    Keeps (fun data : Data τ κ => data.connectionAttempts = count)
      (handler setup state nbLoop) := by
  cases state with
  | init =>
    exact .bind (.modify fun _ standing => standing) fun _ =>
      .bind (.modify fun _ standing => standing) fun _ => .pure _
  | disconnected =>
    exact .bind (.runIf (.bind (.modify fun _ standing => standing) fun _ =>
      onManager_keeps (fun _ _ standing => standing) _)) fun _ => .pure _
  | connecting => exact absurd rfl other
  | connected =>
    exact connected_keeps setup (fun _ _ standing => standing) (fun _ _ standing => standing)
      (fun _ _ standing => standing) (fun _ _ standing => standing) nbLoop

/-- A wakeup in state connecting makes an attempt exactly when one is due. -/
theorem attempt_attempts (data : Data τ κ) :
    (after (attempt setup data)).connectionAttempts =
      data.connectionAttempts + if data.Due then 1 else 0 := by
  have polled : (if data.connectionAttempts = 0 then data
      else data.without .dipTimeout).connectionAttempts = data.connectionAttempts := by
    split <;> rfl
  have reads (count : Nat) : Keeps (fun data : Data τ κ => data.connectionAttempts = count)
      (readPacket setup .connecting processConnecting) :=
    readPacket_keeps setup _ (fun _ _ standing => standing) (fun _ _ standing => standing)
      (keeps_attempts_processConnecting count)
  unfold attempt
  rw [bind_apply, attemptDue_apply]
  dsimp only
  by_cases due : data.Due
  · rw [decide_eq_true due, if_pos due, runIf, if_pos rfl]
    unfold attemptConnection
    have dialed := Keeps.bind (onManager_keeps (fun _ _ standing => standing)
      (sendHip setup.environment setup.masterId connectingTimeout)) fun _ =>
        reads (data.connectionAttempts + 1)
    rw [bind_assoc, bind_apply, modify_apply]
    exact dialed _ (congrArg (· + 1) polled)
  · rw [decide_eq_false due, if_neg due, runIf, if_neg Bool.false_ne_true, bind_apply, pure_apply]
    exact reads data.connectionAttempts _ polled

/-- The handler of state connecting counts from zero when it runs for the first time, with a manager
that does not run. -/
theorem connecting_attempts {nbLoop : Nat} {data : Data τ κ}
    (idle : nbLoop = 0 → data.manager.running = false) :
    (after (handler setup .connecting (nbLoop + 1) data)).connectionAttempts =
      (if nbLoop = 0 then 0 else data.connectionAttempts) +
        if nbLoop = 0 ∨ data.Due then 1 else 0 := by
  cases nbLoop with
  | zero =>
    have due : (data.begun setup).Due := .inl rfl
    have first : 0 = 0 ∨ data.Due := .inl rfl
    rw [handler_first setup data (idle rfl), attempt_attempts, if_pos due, if_pos first]
    rfl
  | succ nbLoop =>
    have same : nbLoop + 1 = 0 ∨ data.Due ↔ data.Due :=
      or_iff_right (Nat.succ_ne_zero nbLoop)
    rw [handler_later setup _ (by omega), attempt_attempts, if_neg (Nat.succ_ne_zero nbLoop)]
    by_cases due : data.Due
    · rw [if_pos due, if_pos (same.mpr due)]
    · rw [if_neg due, if_neg (same.not.mpr due)]

end Handlers

/-! ## Steps -/

section Steps

variable {setup : Setup τ κ}

/-- What a step does to `connection_attempts_` and to the place of the machine. -/
inductive Attempted (life : Life τ κ) (move : Move τ κ) (next : Party τ κ) : Prop where
  /-- The handler of state connecting runs. -/
  | dialing (inside : life.state = .connecting) (still : next.machine.current = .connecting)
      (loops : next.machine.nbLoop ≠ 0)
      (attempts : next.data.connectionAttempts =
        (if life.party.machine.nbLoop = 0 then 0 else life.data.connectionAttempts) +
          if life.Dials move then 1 else 0)
  /-- Nothing is attempted, and the machine stays in the wakeup, if it is in state connecting. -/
  | staying (idle : ¬ life.Dials move)
      (inside : next.machine.current = .connecting → life.state = .connecting ∧
        next.machine.nbLoop = life.party.machine.nbLoop)
      (attempts : next.data.connectionAttempts = life.data.connectionAttempts)
  /-- State connecting is entered. -/
  | entering (idle : ¬ life.Dials move) (outside : life.state ≠ .connecting)
      (inside : next.machine.current = .connecting) (first : next.machine.nbLoop = 0)
      (attempts : next.data.connectionAttempts = life.data.connectionAttempts)

/-- The handler of a state, whether it returns or throws. -/
theorem attempted_handler {life : Life τ κ} {state : State} {nbLoop position : Nat}
    {data last : Data τ κ} (sound : life.Sound) (here : life.party = .at state nbLoop 0 data)
    (counts : last.connectionAttempts =
      (after (handler setup state (nbLoop + 1) data)).connectionAttempts) :
    Attempted life .wakeup (.at state (nbLoop + 1) position last) := by
  have current : life.state = state := congrArg (fun party => party.machine.current) here
  have loops : life.party.machine.nbLoop = nbLoop :=
    congrArg (fun party => party.machine.nbLoop) here
  have fields : life.data = data := congrArg Party.data here
  by_cases inside : state = .connecting
  · subst inside
    have idle : nbLoop = 0 → data.manager.running = false := by
      intro first
      rw [← fields]
      exact Sound.connecting sound current (loops.trans first)
    have dials : life.Dials .wakeup ↔ nbLoop = 0 ∨ data.Due := by
      have first : life.party.machine.position = 0 :=
        congrArg (fun party => party.machine.position) here
      rw [← loops, ← fields]
      exact ⟨fun dials => dials.2.2, fun due => ⟨current, first, due⟩⟩
    refine .dialing current rfl (Nat.succ_ne_zero nbLoop) ?_
    rw [loops, fields, show (Party.at State.connecting (nbLoop + 1) position last).data = last from
      rfl, counts, connecting_attempts setup idle]
    by_cases due : nbLoop = 0 ∨ data.Due
    · rw [if_pos due, if_pos (dials.mpr due)]
    · rw [if_neg due, if_neg (dials.not.mpr due)]
  · refine .staying (fun dials => inside (current.symm.trans dials.1))
      (fun stays => absurd stays inside) ?_
    rw [fields]
    exact counts.trans (keeps_attempts_handler setup _ inside _ data rfl)

/-- An entry of the state machine. -/
theorem Wakes.attempted {life : Life τ κ} {next : Party τ κ} (sound : life.Sound)
    (wakes : Wakes setup life.party next) : Attempted life .wakeup next := by
  obtain ⟨party, phase, firstTimer, raised, asked⟩ := life
  cases wakes with
  | handled state nbLoop data returns => exact attempted_handler sound rfl rfl
  | thrown state nbLoop data errc throws => exact attempted_handler sound rfl rfl
  | waits nbLoop data =>
    refine .staying (fun dials => by cases dials.1) (fun inside => by cases inside) ?_
    exact keeps_attempts_handler setup _ (by decide) _ data rfl
  | requested nbLoop data pending =>
    exact .entering (fun dials => by cases dials.1) (fun inside => by cases inside) rfl rfl rfl
  | woken nbLoop data pending =>
    exact .staying (fun dials => by cases dials.1) (fun inside => by cases inside) rfl
  | begun nbLoop data =>
    exact .staying (fun dials => by cases dials.1) (fun inside => by cases inside) rfl
  | unrequested nbLoop data absent =>
    exact .staying (fun dials => by cases dials.1) (fun inside => by cases inside) rfl
  | closed state nbLoop data session isClosed =>
    exact .staying (fun dials => by cases dials.2.1) (fun inside => by cases inside) rfl
  | stillOpen state nbLoop data session isOpen =>
    exact .staying (fun dials => by cases dials.2.1) (fun inside => ⟨inside, rfl⟩) rfl
  | dipTimeout nbLoop data pending exhausted =>
    exact .staying (fun dials => by cases dials.2.1) (fun inside => by cases inside) rfl
  | noDipTimeout nbLoop data left =>
    exact .staying (fun dials => by cases dials.2.1) (fun inside => ⟨inside, rfl⟩) rfl
  | connected nbLoop data pending =>
    exact .staying (fun dials => by cases dials.2.1) (fun inside => by cases inside) rfl
  | notConnected nbLoop data absent =>
    exact .staying (fun dials => by cases dials.2.1) (fun inside => ⟨inside, rfl⟩) rfl
  | kaTimeout nbLoop data pending =>
    exact .staying (fun dials => by cases dials.2.1) (fun inside => by cases inside) rfl
  | noKaTimeout nbLoop data absent =>
    exact .staying (fun dials => by cases dials.2.1) (fun inside => ⟨inside, rfl⟩) rfl
  | dismissed nbLoop data pending =>
    exact .staying (fun dials => by cases dials.2.1) (fun inside => by cases inside) rfl
  | undismissed nbLoop data absent =>
    exact .staying (fun dials => by cases dials.2.1) (fun inside => ⟨inside, rfl⟩) rfl

/-- A step of a master. -/
theorem Life.Sound.attempted {life : Life τ κ} {move : Move τ κ} {party : Party τ κ}
    {phase : Phase} (sound : life.Sound) (lives : Lives setup life move party phase) :
    Attempted life move party := by
  have staying {data : Data τ κ} (idle : ¬ life.Dials move)
      (attempts : data.connectionAttempts = life.data.connectionAttempts) :
      Attempted life move { life.party with data := data } :=
    .staying idle (fun inside => ⟨inside, rfl⟩) attempts
  cases lives with
  | wakeup party alive wakes => exact wakes.attempted sound
  | tick batch running taken => exact staying id rfl
  | asyncConnect =>
    unfold Party.asyncConnect
    split
    · exact staying id rfl
    · exact staying id rfl
  | connectReturns => exact staying id rfl
  | asyncDisconnect =>
    unfold Party.asyncDisconnect
    split
    · exact staying id rfl
    · exact staying id rfl
  | sendCommand id data cb =>
    obtain ⟨manager, sent, -, -⟩ := Party.sendCommand_eq setup life.party id data cb
    rw [sent]
    exact staying (fun dials => dials) rfl
  | changed transport => exact staying id rfl
  | stop running => exact staying id rfl
  | joined transport stopping first awake => exact staying id rfl
  | start transport stopped =>
    exact .staying id (fun inside => by cases inside) rfl

/-- A step keeps the count, and the bound exactly when its attempt was not the fourth. -/
theorem Tally.counted_step {tally next : Tally τ κ} {move : Move τ κ} (sound : tally.life.Sound)
    (counted : tally.Counted) (bounded : tally.Bounded)
    (taken : tally.step setup move = some next) :
    next.life.Sound ∧ next.Counted ∧ (next.Bounded ↔ tally.Spares move) := by
  obtain ⟨life, stepped, rfl⟩ := Option.map_eq_some_iff.mp taken
  obtain ⟨party, phase, -, lives, rfl, still⟩ := Life.Sound.step sound stepped
  refine ⟨still, ?_⟩
  unfold Counted Bounded Spares at *
  change (party.machine.current = .connecting → (if tally.life.enters party then 0
      else if tally.life.Dials move then tally.calls + 1 else tally.calls) =
        if party.machine.nbLoop = 0 then 0 else party.data.connectionAttempts) ∧
    ((if tally.life.enters party then 0 else if tally.life.Dials move then tally.calls + 1
      else tally.calls) ≤ maxConnectionAttempts ∧
        party.data.connectionAttempts ≤ maxConnectionAttempts ↔ _)
  have enters : tally.life.enters party = true ↔
      tally.life.state ≠ .connecting ∧ party.machine.current = .connecting := decide_eq_true_iff
  cases Life.Sound.attempted sound lives with
  | dialing inside current loops attempts =>
    have outside : ¬ tally.life.enters party = true := fun entered =>
      (enters.mp entered).1 inside
    have count := counted inside
    rw [if_neg outside, if_neg loops, attempts]
    by_cases dials : tally.life.Dials move
    · rw [if_pos dials, if_pos dials, ← count]
      refine ⟨fun _ => rfl, ?_, ?_⟩
      · intro few _ later
        rw [if_neg later] at count
        rw [← count]
        exact few.1
      · intro spares
        have few : tally.calls + 1 ≤ maxConnectionAttempts := by
          by_cases first : tally.life.party.machine.nbLoop = 0
          · rw [if_pos first] at count
            rw [count]
            decide
          · rw [if_neg first] at count
            rw [count]
            exact spares dials first
        exact ⟨few, few⟩
    · rw [if_neg dials, if_neg dials, ← count]
      exact ⟨fun _ => rfl, fun _ dialed => absurd dialed dials,
        fun _ => ⟨bounded.1, bounded.1⟩⟩
  | staying idle inside attempts =>
    have outside : ¬ tally.life.enters party = true := fun entered =>
      (enters.mp entered).1 (inside (enters.mp entered).2).1
    rw [if_neg outside, if_neg idle, attempts]
    refine ⟨?_, fun _ dialed => absurd dialed idle, fun _ => bounded⟩
    intro current
    obtain ⟨connecting, loops⟩ := inside current
    rw [loops]
    exact counted connecting
  | entering idle outside current first attempts =>
    rw [if_pos (enters.mpr ⟨outside, current⟩), first, attempts]
    exact ⟨fun _ => rfl, fun _ dialed => absurd dialed idle,
      fun _ => ⟨Nat.zero_le _, bounded.2⟩⟩

end Steps

/-- In every run, `send_hip` is called at most three times while the master is in state connecting,
and `connection_attempts_` does not exceed three, exactly as long as no wakeup of that state but its
first begins with a timeout pending after three attempts. -/
theorem attempts_bounded_iff (setup : Setup τ κ) (transport : τ) (moves : List (Move τ κ))
    (finish : Tally τ κ) :
    Run (fun tally move next => Steps (Tally.step setup) tally move next ∧ next.Bounded)
        (.initial transport) moves finish ↔
      Run (Guarded Tally.Spares (Steps (Tally.step setup))) (.initial transport) moves finish := by
  have begins : (Tally.initial transport : Tally τ κ).life.Sound ∧
      (Tally.initial transport : Tally τ κ).Counted ∧
        (Tally.initial transport : Tally τ κ).Bounded :=
    ⟨sound_started transport, nofun, Nat.zero_le _, Nat.zero_le _⟩
  constructor
  · intro run
    refine run.mono_of (fun tally => tally.life.Sound ∧ tally.Counted ∧ tally.Bounded) ?_ begins
    rintro tally move next ⟨sound, counted, bounded⟩ ⟨taken, still⟩
    obtain ⟨sound', counted', spares⟩ := Tally.counted_step sound counted bounded taken
    exact ⟨⟨spares.mp still, taken⟩, sound', counted', still⟩
  · intro run
    refine run.mono_of (fun tally => tally.life.Sound ∧ tally.Counted ∧ tally.Bounded) ?_ begins
    rintro tally move next ⟨sound, counted, bounded⟩ ⟨spares, taken⟩
    obtain ⟨sound', counted', bounds⟩ := Tally.counted_step sound counted bounded taken
    exact ⟨⟨taken, bounds.mpr spares⟩, sound', counted', bounds.mpr spares⟩

/-! ## A fourth attempt -/

/-- The timer of an attempt. -/
def dipTimer (id expiration : Nat) : Timer TimerCallback := ⟨id, expiration, none, .dipTimeoutCb⟩

/-- Two attempts time out and their timeouts are consumed in a wakeup each; that of the third is
raised after `check_dip_timeout` of a wakeup and before the handler of the next. -/
def fourthAttempt : List (Move (Bool × List Message) Unit) :=
  started ++ connects ++ quietTicks 10 ++ [.tick [dipTimer 0 10]] ++ wakeups 4 ++ quietTicks 10 ++
    [.tick [dipTimer 1 21]] ++ wakeups 4 ++ quietTicks 10 ++ wakeups 3 ++
    [.tick [dipTimer 2 32]] ++ wakeups 2

/-- That run makes a fourth attempt, in state connecting still. -/
theorem attempts_unbounded :
    ∃ finish, Run (Steps (Tally.step onLine)) (.initial (false, [])) fourthAttempt finish ∧
      finish.life.state = .connecting ∧ finish.calls = 4 ∧
      finish.life.data.connectionAttempts = 4 ∧ ¬ finish.Bounded := by
  have executed : ((execute (Tally.step onLine) (.initial (false, [])) fourthAttempt).any
      fun finish => decide (finish.life.state = .connecting ∧ finish.calls = 4 ∧
        finish.life.data.connectionAttempts = 4)) = true := by
    decide +kernel
  obtain ⟨finish, reached, marks⟩ := (Option.any_eq_true _ _).mp executed
  obtain ⟨inside, calls, attempts⟩ := of_decide_eq_true marks
  refine ⟨finish, (execute_eq_some_iff _ _ _ _).mp reached, inside, calls, attempts, ?_⟩
  intro bounded
  have few : finish.calls ≤ 3 := bounded.1
  omega

end Hdcp.Appli.Master
