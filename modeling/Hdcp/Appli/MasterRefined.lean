import Hdcp.Appli.MasterEvents
import Hdcp.Appli.MasterRests
import Hdcp.Appli.MasterUndisturbed
import Hdcp.Base.Simulation

/-!
# The master in one piece and the master in statements

A master whose handlers, ticks and calls run in one piece is a master that runs statement by
statement, with threads that do not come between each other's statements. Its steps are runs of
statements, between states in which no thread is inside a handler, a tick or a call.
-/

namespace Hdcp.Appli.Master

open Base
open Hdcp.Master hiding State Event

variable {τ κ ι : Type}

/-- The master whose threads are in no handler, tick or call. -/
def Host.whole (party : Party τ κ) (phase : Phase) (mark : Nat) : Host τ κ ι where
  machine := party.machine
  data := party.data
  script := none
  timer := .idle
  users := fun _ => .idle
  phase := phase
  mark := mark

/-- What a handler leads to when it begins. -/
theorem wakeup_first (setup : Setup τ κ) (state : State) (nbLoop : Nat) (data : Data τ κ) :
    Party.wakeup setup ⟨⟨state, nbLoop, 0, false⟩, data⟩ = some
      (match handler setup state (nbLoop + 1) data with
      | .ok _ data =>
        ⟨if state = .disconnected ∧ waitsForEvent data then ⟨state, nbLoop + 1, 0, true⟩
          else (⟨state, nbLoop + 1, 0, false⟩ : Machine State).passed (states setup state).length,
          data⟩
      | .error error data => ⟨⟨state, nbLoop + 1, 0, false⟩, caught error data⟩) := by
  obtain ⟨entry, found, runs, waiting⟩ : ∃ entry,
      ((statemachine setup).table state)[0]? = some entry ∧ entry.handler = handler setup state ∧
        ∀ data, entry.waits data = true ↔ state = .disconnected ∧ waitsForEvent data := by
    cases state <;> exact ⟨_, rfl, rfl, by simp⟩
  unfold Party.wakeup
  rw [Statemachine.step_at _ _ _ _ _ entry found, runs]
  cases outcome : handler setup state (nbLoop + 1) data with
  | ok status last =>
    obtain rfl := handler_stays setup state _ data last status outcome
    simp only [↓reduceIte, outcome, waiting]
    split
    · rfl
    · rfl
  | error error last =>
    simp only [↓reduceIte, outcome]
    rfl

/-- Where the thread is in an operation of the request manager before a task. -/
def Task.place : Task κ → ProtocolStep κ
  | manage place => place
  | _ => .idle

/-- In a handler the next task never waits while the timer thread is out of its loop. -/
theorem Host.Sound.unhindered {setup : Setup τ κ} {host : Host τ κ ι} {task : Task κ}
    {rest : List (Task κ)} (sound : host.Sound setup) (script : host.script = some (task :: rest))
    (idle : host.timer = .idle) : host.crew.protocolReady = true := by
  obtain ⟨resting, scripted, -⟩ := sound.scripted _ script
  have timer : host.crew.timer = .idle := idle
  have protocol : host.crew.protocol = task.place := by
    change host.place = _
    unfold Host.place
    rw [script]
    cases task <;> rfl
  unfold Crew.protocolReady Crew.free
  rw [protocol, timer]
  cases task with
  | manage place =>
    cases place with
    | acking callback =>
      have ended : callback.send.ended = true := by
        generalize host.state = state at scripted
        cases scripted with
        | starting _ inside => contradiction
        | identifying _ inside => contradiction
        | managing _ inside => contradiction
        | acknowledging _ inside => exact inside.2
      cases sends : callback.send with
      | idle =>
        have unlocked : (ProtocolStep.acking callback).locks = false := by
          rw [ProtocolStep.locks, sends]
          rfl
        change (!(ProtocolStep.acking callback).locks || _) = true
        rw [unlocked]
        rfl
      | _ =>
        rw [sends] at ended
        contradiction
    | _ => rfl
  | _ => rfl

/-- What timeouts report in two parts. -/
theorem timeoutCb_append (events : EventSet Event) (front back : List (Output κ)) :
    timeoutCb events (front ++ back) = timeoutCb (timeoutCb events front) back := by
  induction front generalizing events with
  | nil => rfl
  | cons output front ih =>
    cases output with
    | timedOut type => cases type <;> exact ih _
    | _ => exact ih events

/-- Without timeouts no event is raised. -/
theorem timeoutCb_quiet (events : EventSet Event) {outputs : List (Output κ)}
    (quiet : ∀ output ∈ outputs, ∃ message, output = .written message) :
    timeoutCb events outputs = events := by
  induction outputs with
  | nil => rfl
  | cons output outputs ih =>
    obtain ⟨message, rfl⟩ := quiet output List.mem_cons_self
    exact ih fun other inside => quiet other (List.mem_cons_of_mem _ inside)

/-- An operation of the request manager leaves the rest of the master. -/
theorem after_onManager {α : Type} (action : Action τ κ α) (data : Data τ κ) :
    after (onManager action data) = data.withManager (after (action data.manager)) := by
  unfold onManager
  cases action data.manager with
  | ok value manager => rfl
  | error error manager => rfl

/-- The master with another request manager, in one piece. -/
def Party.withManager (party : Party τ κ) (manager : Hdcp.Master.State τ κ) : Party τ κ :=
  { party with data := party.data.withManager manager }

/-- A call of `send_command` in state connected. -/
theorem sendCommand_connected (setup : Setup τ κ) {party : Party τ κ} (type : UInt16) (data : Bytes)
    (cb : κ) (connected : party.state = .connected) :
    party.sendCommand setup type data cb = party.withManager
      (after (Hdcp.Master.sendCommand setup.environment type data cb commandTimeout
        party.data.manager)) := by
  unfold Party.sendCommand
  rw [if_pos connected, after_onManager]
  rfl

/-- The master in the middle of a tick, after some of its callbacks reported something. -/
def Host.ticking (party : Party τ κ) (phase : Phase) (mark : Nat) (place : TimerStep κ)
    (manager : Hdcp.Master.State τ κ) (more : List (Output κ)) : Host τ κ ι where
  machine := party.machine
  data := { party.data with manager := manager, events := timeoutCb party.data.events more }
  script := none
  timer := place
  users := fun _ => .idle
  phase := phase
  mark := mark

/-- While no other thread is inside an operation the timer thread never waits. -/
theorem ticking_ready (party : Party τ κ) (phase : Phase) (mark : Nat) {place : TimerStep κ}
    (silent : place.Silent) (manager : Hdcp.Master.State τ κ) (more : List (Output κ)) :
    (Host.ticking party phase mark place manager more : Host τ κ ι).crew.timerReady = true := by
  cases place with
  | calling batch =>
    have free : (Host.ticking party phase mark (.calling batch) manager more :
        Host τ κ ι).crew.free = true := rfl
    change (!(TimerStep.calling batch).locks || _) = true
    rw [free, Bool.or_true]
  | expiring callback batch =>
    cases sends : callback.send with
    | idle =>
      have unlocked : (TimerStep.expiring callback batch).locks = false := by
        rw [TimerStep.locks, sends]
        rfl
      change (!(TimerStep.expiring callback batch).locks || _) = true
      rw [unlocked]
      rfl
    | _ =>
      have ended := silent.2
      rw [sends] at ended
      contradiction
  | _ => rfl

section Runs

variable [DecidableEq ι] {setup : Setup τ κ}

/-- The master's thread takes all the turns of a handler. -/
theorem handler_run (state : State) (nbLoop : Nat) (data : Data τ κ) (phase : Phase) (mark : Nat)
    (alive : phase ≠ .stopped)
    (sound : (Host.whole ⟨⟨state, nbLoop, 0, false⟩, data⟩ phase mark : Host τ κ ι).Sound setup)
    {party : Party τ κ}
    (wakes : Party.wakeup setup ⟨⟨state, nbLoop, 0, false⟩, data⟩ = some party) :
    ∃ count last, Run (Steps (Host.step setup))
      (Host.whole ⟨⟨state, nbLoop, 0, false⟩, data⟩ phase mark : Host τ κ ι)
      (List.replicate count .protocol) (Host.whole party phase last) := by
  let inside (script : List (Task κ)) (data : Data τ κ) (mark : Nat) : Host τ κ ι :=
    { machine := ⟨state, nbLoop + 1, 0, false⟩, data := data, script := some script,
      timer := .idle, users := fun _ => .idle, phase := phase, mark := mark }
  let stands (script : List (Task κ)) (data : Data τ κ) (host : Host τ κ ι) : Prop :=
    host.Sound setup ∧ ∃ mark, host = inside script data mark
  let fails (error : Exn) (data : Data τ κ) (host : Host τ κ ι) : Prop :=
    ∃ mark, host = .whole ⟨⟨state, nbLoop + 1, 0, false⟩, caught error data⟩ phase mark
  have begins : Steps (Host.step setup)
      (Host.whole ⟨⟨state, nbLoop, 0, false⟩, data⟩ phase mark : Host τ κ ι) .protocol
      (inside (tasks state (nbLoop + 1)) data mark) := by
    unfold Steps Host.step Host.advances Host.whole
    dsimp only
    rw [if_neg alive, if_pos ⟨rfl, rfl⟩]
    rfl
  have turns (task : Task κ) (rest : List (Task κ)) (data : Data τ κ) (host : Host τ κ ι)
      (standing : stands (task :: rest) data host) : ∃ next,
        Steps (Host.step setup) host .protocol next ∧
          Arrives (fun more => stands (more ++ rest)) fails (task.perform setup data) next := by
    obtain ⟨sound, mark, rfl⟩ := standing
    have ready := sound.unhindered rfl rfl
    have taken : Steps (Host.step setup) (inside (task :: rest) data mark) .protocol
        ((inside (task :: rest) data mark).performs setup task rest) := if_pos ready
    refine ⟨_, taken, ?_⟩
    have after := Host.sound_step sound taken
    unfold Host.performs at after ⊢
    cases outcome : task.perform setup data with
    | ok more data =>
      dsimp only [inside] at after
      rw [outcome] at after
      exact ⟨after, _, rfl⟩
    | error error data => exact ⟨_, rfl⟩
  obtain ⟨count, final, run, reached⟩ :=
    (spells_tasks setup state (nbLoop + 1) data).run stands fails turns
      ⟨Host.sound_step sound begins, mark, rfl⟩
  rw [wakeup_first] at wakes
  cases wakes
  rw [bind_apply] at reached
  cases outcome : handler setup state (nbLoop + 1) data with
  | ok status last =>
    rw [outcome] at reached
    obtain ⟨-, mark, rfl⟩ := reached
    have returns : Steps (Host.step setup) (inside [] last mark) .protocol (Host.whole
        ⟨if state = .disconnected ∧ waitsForEvent last then ⟨state, nbLoop + 1, 0, true⟩
          else (⟨state, nbLoop + 1, 0, false⟩ : Machine State).passed (states setup state).length,
          last⟩ phase mark) := rfl
    refine ⟨count + 2, mark, .cons begins ?_⟩
    rw [List.replicate_succ']
    exact run.append (.cons returns (.nil _))
  | error error last =>
    rw [outcome] at reached
    obtain ⟨mark, rfl⟩ := reached
    exact ⟨count + 1, mark, .cons begins run⟩

/-- An entry of the state machine is a run of the master's thread. -/
theorem wakeup_run {party next : Party τ κ} {phase : Phase} (mark : Nat) (alive : phase ≠ .stopped)
    (sound : (Host.whole party phase mark : Host τ κ ι).Sound setup)
    (wakes : party.wakeup setup = some next) :
    ∃ count last, Run (Steps (Host.step setup)) (Host.whole party phase mark : Host τ κ ι)
      (List.replicate count .protocol) (Host.whole next phase last) := by
  by_cases first : party.machine.position = 0 ∧ party.machine.waiting = false
  · obtain ⟨⟨state, nbLoop, position, waiting⟩, data⟩ := party
    obtain ⟨rfl, rfl⟩ : position = 0 ∧ waiting = false := first
    exact handler_run state nbLoop data phase mark alive sound wakes
  · refine ⟨1, mark, .cons ?_ (.nil _)⟩
    unfold Steps Host.step Host.advances Host.whole
    dsimp only
    rw [if_neg alive, if_neg first]
    exact Option.map_eq_some_iff.mpr ⟨next, wakes, rfl⟩

/-- A user takes all the turns of a call of `send_command`. -/
theorem sendCommand_run (party : Party τ κ) (phase : Phase) (mark : Nat) (user : ι) (type : UInt16)
    (data : Bytes) (cb : κ) :
    ∃ count, Run (Steps (Host.step setup)) (Host.whole party phase mark)
      (.call user type data cb :: List.replicate count (.user user))
      (Host.whole (party.sendCommand setup type data cb) phase mark) := by
  by_cases connected : party.state = .connected
  · let inside (place : SendStep κ) (manager : Hdcp.Master.State τ κ) : Host τ κ ι :=
      { machine := party.machine, data := party.data.withManager manager, script := none,
        timer := .idle, users := Function.update (fun _ => .idle) user place, phase := phase,
        mark := mark }
    have quiet (manager : Hdcp.Master.State τ κ) :
        inside .idle manager = .whole (party.withManager manager) phase mark := by
      dsimp only [inside]
      rw [Function.update_eq_self_iff.mpr rfl]
      rfl
    let stands (place : SendStep κ) (manager : Hdcp.Master.State τ κ) (host : Host τ κ ι) : Prop :=
      host = inside place manager
    let fails (_ : Exn) (manager : Hdcp.Master.State τ κ) (host : Host τ κ ι) : Prop :=
      host = inside .idle manager
    have silent (place : SendStep κ) (manager : Hdcp.Master.State τ κ) :
        Extends (fun output => ∃ message, output = .written message) manager.outputs
          (after (place.statement setup.environment manager)) :=
      place.statement_extends setup.environment (fun message => ⟨message, rfl⟩) manager
        ⟨[], (List.append_nil manager.outputs).symm, nofun⟩
    have left {place : SendStep κ} {manager : Hdcp.Master.State τ κ} (next : SendStep κ)
        (last : Hdcp.Master.State τ κ)
        (extended : Extends (fun output => ∃ message, output = .written message) manager.outputs
          last) :
        (inside place manager).withCrew
          ⟨last, .idle, .idle, Function.update (inside place manager).users user next⟩ =
            inside next last := by
      obtain ⟨more, grown, fine⟩ := extended
      dsimp only [Host.withCrew, inside, Host.manager, Data.withManager]
      rw [grown, List.drop_left, timeoutCb_quiet _ fine, Function.update_idem]
    have called : Steps (Host.step setup) (Host.whole party phase mark) (.call user type data cb)
        (inside (.begun ⟨type, data, cb, commandTimeout⟩) party.data.manager) := by
      unfold Steps Host.step
      refine (if_pos connected).trans ?_
      change some ((Host.whole party phase mark).withCrew
        ⟨party.data.manager, .idle, .idle, Function.update (fun _ => .idle) user
          (.begun ⟨type, data, cb, commandTimeout⟩)⟩) = _
      unfold Host.withCrew
      dsimp only [Host.whole, Host.manager]
      rw [List.drop_length]
      rfl
    have turns (place : SendStep κ) (manager : Hdcp.Master.State τ κ) (host : Host τ κ ι)
        (_ : place.ended = false) (standing : stands place manager host) : ∃ next,
          Steps (Host.step setup) host (.user user) next ∧
            Arrives stands fails (place.statement setup.environment manager) next := by
      obtain rfl := standing
      have here : (inside place manager).crew.users user = place := by
        dsimp only [inside, Host.crew]
        rw [Function.update_self]
      have stepped : (inside place manager).crew.step setup.program (.user user) =
          some ((inside place manager).crew.userDoes user (place.statement setup.environment)) := by
        unfold Crew.step
        dsimp only
        rw [here]
        exact if_pos (Bool.or_eq_true_iff.mpr (.inr rfl))
      refine ⟨_, Option.map_eq_some_iff.mpr ⟨_, stepped, rfl⟩, ?_⟩
      have extended := silent place manager
      cases outcome : place.statement setup.environment manager with
      | ok next last =>
        rw [outcome] at extended
        rw [Crew.userDoes_ok (inside place manager).crew user outcome]
        exact left next last extended
      | error error last =>
        rw [outcome] at extended
        rw [Crew.userDoes_error (inside place manager).crew user outcome]
        exact left .idle last extended
    obtain ⟨count, final, run, reached⟩ := follow_run stands fails turns 8
      (rfl : stands (.begun ⟨type, data, cb, commandTimeout⟩) party.data.manager _)
    refine ⟨count, .cons called ?_⟩
    rw [sendCommand_statements, bind_apply] at reached
    rw [sendCommand_connected setup type data cb connected, ← quiet]
    dsimp only at reached
    cases outcome : Hdcp.Master.sendCommand setup.environment type data cb commandTimeout
        party.data.manager with
    | ok value last =>
      rw [outcome] at reached
      cases reached
      exact run
    | error error last =>
      rw [outcome] at reached
      cases reached
      exact run
  · refine ⟨0, .cons ?_ (.nil _)⟩
    unfold Party.sendCommand
    rw [if_neg connected]
    exact if_neg connected

/-- The master at a place of a tick, with what was given out since the tick began. -/
def Host.Ticks (party : Party τ κ) (phase : Phase) (mark : Nat) (place : TimerStep κ)
    (manager : Hdcp.Master.State τ κ) (host : Host τ κ ι) : Prop :=
  place.Silent ∧ ∃ more, manager.outputs = party.data.manager.outputs ++ more ∧
    host = .ticking party phase mark place manager more

/-- A turn of the timer thread, in the middle of a tick. -/
theorem ticks_turn (party : Party τ κ) (phase : Phase) (mark : Nat) (place : TimerStep κ)
    (manager : Hdcp.Master.State τ κ) (host : Host τ κ ι)
    (standing : host.Ticks party phase mark place manager) : ∃ next,
      Steps (Host.step setup) host .timer next ∧
        Arrives (Host.Ticks party phase mark) (fun _ _ _ => True)
          (place.statement setup.program manager) next := by
  obtain ⟨silent, more, grown, rfl⟩ := standing
  have ready := @ticking_ready τ κ ι party phase mark place silent manager more
  have stepped : (Host.ticking party phase mark place manager more : Host τ κ ι).crew.step
      setup.program .timer = some ((Host.ticking party phase mark place manager more :
        Host τ κ ι).crew.timerDoes (place.statement setup.program)) := if_pos ready
  refine ⟨_, Option.map_eq_some_iff.mpr ⟨_, stepped, rfl⟩, ?_⟩
  have extended := place.statement_extends setup.program (fun _ => trivial) manager
    (⟨[], (List.append_nil manager.outputs).symm, nofun⟩ :
      Extends (fun _ => True) manager.outputs manager)
  cases outcome : place.statement setup.program manager with
  | error error last => exact trivial
  | ok next last =>
    rw [outcome] at extended
    obtain ⟨new, added, -⟩ := extended
    refine ⟨TimerStep.silent_next setup.program (fun _ _ => rfl) silent _ _ _ outcome, more ++ new,
      ?_, ?_⟩
    · rw [← List.append_assoc, ← grown]
      exact added
    · rw [Crew.timerDoes_ok (Host.ticking party phase mark place manager more).crew outcome]
      dsimp only [Host.withCrew, Host.ticking, Host.manager, Host.crew, after] at added ⊢
      rw [added, List.drop_left, timeoutCb_append]

/-- The timer thread calls the timers of a batch, one after another. -/
theorem batch_run (party : Party τ κ) (phase : Phase) (mark : Nat)
    (batch : List (Timer TimerCallback)) {manager last : Hdcp.Master.State τ κ} {host : Host τ κ ι}
    (standing : host.Ticks party phase mark (.calling batch) manager)
    (returned : fireAll setup.environment batch manager = .ok () last) :
    ∃ count final, Run (Steps (Host.step setup)) host (List.replicate count .timer) final ∧
      final.Ticks party phase mark .idle last := by
  induction batch generalizing manager host with
  | nil =>
    cases returned
    obtain ⟨next, taken, arrived⟩ := ticks_turn party phase mark _ _ _ standing
    exact ⟨1, next, .cons taken (.nil _), arrived⟩
  | cons timer batch ih =>
    obtain ⟨_, middle, fired, others⟩ := (bind_eq_ok_iff _ _ _ _ _).mp returned
    obtain ⟨fuel, same⟩ := fire_statements setup.program (fun _ _ => rfl) timer batch
    have whole := congrFun same manager
    change _ = (fire setup.environment timer >>= _) manager at whole
    rw [bind_apply, bind_apply, fired] at whole
    obtain ⟨next, taken, arrived⟩ := @ticks_turn τ κ ι _ setup party phase mark _ _ _ standing
    cases outcome : (TimerStep.calling (timer :: batch)).statement setup.program manager with
    | error error final =>
      rw [outcome] at whole
      contradiction
    | ok place after =>
      rw [outcome] at whole arrived
      obtain ⟨count, later, run, reached⟩ := follow_run (Host.Ticks party phase mark)
        (fun _ _ _ => True) (fun place manager host _ standing =>
          ticks_turn party phase mark place manager host standing) fuel arrived
      dsimp only at whole
      rw [whole] at reached
      obtain ⟨rest, final, back, ends⟩ := ih reached others
      refine ⟨1 + count + rest, final, ?_, ends⟩
      rw [List.replicate_add, List.replicate_add]
      exact (Run.append (.cons taken (.nil _)) run).append back

/-- The timer thread takes all the turns of a tick whose callbacks return. -/
theorem tick_run {party next : Party τ κ} (phase : Phase) (mark : Nat)
    {batch : List (Timer TimerCallback)} (ticks : party.tick setup batch = some next)
    (returns : ∃ last, runOnce setup.environment batch party.data.manager = .ok () last) :
    ∃ count, Run (Steps (Host.step setup)) (Host.whole party phase mark : Host τ κ ι)
      (.take batch :: List.replicate count .timer) (Host.whole next phase mark) := by
  obtain ⟨enabled, rfl⟩ := (party.tick_eq_some_iff setup next batch).mp ticks
  obtain ⟨last, returned⟩ := returns
  have fired : fireAll setup.environment batch (tickedManager party.data.manager) =
      .ok () last := returned
  have stepped : (Host.whole party phase mark : Host τ κ ι).crew.step setup.program (.take batch) =
      some ⟨tickedManager party.data.manager, .calling batch, .idle, fun _ => .idle⟩ :=
    if_pos enabled
  have nothing : party.data.manager.outputs.drop party.data.manager.outputs.length = [] :=
    List.drop_length
  have took : Steps (Host.step setup) (Host.whole party phase mark) (.take batch)
      (Host.ticking party phase mark (.calling batch) (tickedManager party.data.manager) [] :
        Host τ κ ι) := by
    refine Option.map_eq_some_iff.mpr ⟨_, stepped, ?_⟩
    dsimp only [Host.withCrew, Host.whole, Host.manager, tickedManager, Host.ticking]
    rw [nothing]
  have begun : (Host.ticking party phase mark (.calling batch)
      (tickedManager party.data.manager) [] : Host τ κ ι).Ticks party phase mark (.calling batch)
        (tickedManager party.data.manager) :=
    ⟨trivial, [], (List.append_nil party.data.manager.outputs).symm, rfl⟩
  obtain ⟨count, final, run, -, more, grown, rfl⟩ := batch_run party phase mark batch begun fired
  refine ⟨count, .cons took ?_⟩
  have ends : (Host.ticking party phase mark .idle last more : Host τ κ ι) =
      .whole (party.ticked setup batch) phase mark := by
    unfold Party.ticked
    rw [returned]
    dsimp only [Host.ticking, Host.whole, after]
    rw [grown, List.drop_left]
  rw [← ends]
  exact run

end Runs

/-- The callbacks of a tick return. -/
def Life.TicksReturn (setup : Setup τ κ) (life : Life τ κ) : Move τ κ → Prop
  | .tick batch => ∃ last, runOnce setup.environment batch life.data.manager = .ok () last
  | _ => True

section Runs

variable [DecidableEq ι] {setup : Setup τ κ}

/-- The threads take turns for each thing that happens to a master in one piece. -/
theorem life_simulated (user : ι) :
    Simulated (fun (life : Life τ κ) (host : Host τ κ ι) =>
        host.Sound setup ∧ ∃ mark, host = .whole life.party life.phase mark)
      (Guarded (Life.TicksReturn setup) (Steps (Life.step setup))) (Steps (Host.step setup)) := by
  intro life move next taken host related
  obtain ⟨returns, stepped⟩ := taken
  obtain ⟨sound, mark, rfl⟩ := related
  obtain ⟨⟨party, phase⟩, acted, rfl⟩ := Option.map_eq_some_iff.mp stepped
  suffices runs : ∃ acts last, Run (Steps (Host.step setup))
      (Host.whole life.party life.phase mark : Host τ κ ι) acts (.whole party phase last) by
    obtain ⟨acts, last, run⟩ := runs
    have kept (host : Host τ κ ι) (act : Act τ κ ι) (next : Host τ κ ι) (sound : host.Sound setup)
        (taken : Steps (Host.step setup) host act next) : next.Sound setup :=
      Host.sound_step sound taken
    exact ⟨acts, _, run, run.invariant kept sound, last, rfl⟩
  cases move with
  | wakeup =>
    unfold Life.act at acted
    dsimp only at acted
    split at acted
    · contradiction
    · next alive =>
      obtain ⟨_, wakes, same⟩ := Option.map_eq_some_iff.mp acted
      cases same
      obtain ⟨count, last, run⟩ := wakeup_run mark alive sound wakes
      exact ⟨_, last, run⟩
  | tick batch =>
    obtain ⟨_, ticks, same⟩ := Option.map_eq_some_iff.mp acted
    cases same
    obtain ⟨count, run⟩ := @tick_run τ κ ι _ setup _ _ life.phase mark batch ticks returns
    exact ⟨_, mark, run⟩
  | asyncConnect =>
    cases acted
    exact ⟨[.asyncConnect], mark, .cons rfl (.nil _)⟩
  | connectReturns =>
    obtain ⟨_, connects, same⟩ := Option.map_eq_some_iff.mp acted
    cases same
    exact ⟨[.connectReturns], mark,
      .cons (Option.map_eq_some_iff.mpr ⟨_, connects, rfl⟩) (.nil _)⟩
  | asyncDisconnect =>
    cases acted
    exact ⟨[.asyncDisconnect], mark, .cons rfl (.nil _)⟩
  | sendCommand type data cb =>
    cases acted
    obtain ⟨count, run⟩ := sendCommand_run life.party life.phase mark user type data cb
    exact ⟨_, mark, run⟩
  | changed transport =>
    cases acted
    exact ⟨[.changed transport], mark, .cons rfl (.nil _)⟩
  | stop =>
    unfold Life.act at acted
    dsimp only at acted
    split at acted
    · next running =>
      cases acted
      exact ⟨[.stop], mark, .cons (if_pos running) (.nil _)⟩
    · contradiction
  | joined transport =>
    unfold Life.act at acted
    dsimp only at acted
    split at acted
    · next ended =>
      cases acted
      exact ⟨[.joined transport], mark, .cons (if_pos ended) (.nil _)⟩
    · contradiction
  | start transport =>
    unfold Life.act at acted
    dsimp only at acted
    split at acted
    · next stopped =>
      cases acted
      exact ⟨[.start transport], mark, .cons (if_pos stopped) (.nil _)⟩
    · contradiction

end Runs

/-- Every run of a master whose handlers, ticks and calls run in one piece, and whose timer
callbacks return, is a run of its threads, statement by statement, that leads to the same master,
with no thread inside a handler, a tick or a call. -/
theorem host_refines [DecidableEq ι] (user : ι) (setup : Setup τ κ) (transport : τ)
    (moves : List (Move τ κ)) (life : Life τ κ)
    (run : Run (Guarded (Life.TicksReturn setup) (Steps (Life.step setup))) (.initial transport)
      moves life) :
    ∃ acts mark, Run (Steps (Host.step setup)) (Host.initial transport : Host τ κ ι) acts
      (.whole life.party life.phase mark) := by
  obtain ⟨acts, host, fine, -, mark, rfl⟩ :=
    run.simulated (life_simulated user) ⟨Host.sound_initial transport, 0, rfl⟩
  exact ⟨acts, mark, fine⟩

instance (setup : Setup τ κ) (life : Life τ κ) (move : Move τ κ) :
    Decidable (life.TicksReturn setup move) :=
  match move with
  | .tick batch =>
    match ran : runOnce setup.environment batch life.data.manager with
    | .ok _ last => isTrue ⟨last, ran⟩
    | .error _ _ => isFalse fun ⟨_, returned⟩ => by
      rw [ran] at returned
      contradiction
  | .wakeup | .asyncConnect | .connectReturns | .asyncDisconnect | .sendCommand _ _ _ | .changed _
  | .stop | .joined _ | .start _ => inferInstanceAs (Decidable True)

/-- A session that ends with a keepalive's timeout, statement by statement. -/
theorem host_refines_fresh :
    ∃ life, Run (Guarded (Life.TicksReturn onLine) (Steps (Life.step onLine)))
        (.initial (false, [])) fresh life ∧ life.state = .connected ∧
      ∃ acts mark, Run (Steps (Host.step onLine)) (Host.initial (false, []) : Host _ _ Unit) acts
        (.whole life.party life.phase mark) := by
  have executed : ((Base.execute (fun life move =>
      if Life.TicksReturn onLine life move then Life.step onLine life move else none)
      (.initial (false, [])) fresh).any fun life => decide (life.state = .connected)) = true := by
    decide +kernel
  obtain ⟨life, reached, connected⟩ := (Option.any_eq_true _ _).mp executed
  have run := run_of_execute_guarded (Life.TicksReturn onLine) (Life.step onLine) _ _ _ reached
  exact ⟨life, run, of_decide_eq_true connected,
    host_refines () onLine (false, []) fresh life run⟩

end Hdcp.Appli.Master
