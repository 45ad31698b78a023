import Hdcp.Appli.SlaveUndisturbed
import Hdcp.Appli.SlaveWatch
import Hdcp.Base.Simulation

/-!
# The slave in one piece and the slave in statements

A slave whose handlers and calls run in one piece is a slave that runs statement by statement, with
threads that do not come between each other's statements. Its steps are runs of statements, between
states in which no thread is inside a handler or a call.
-/

namespace Hdcp.Appli.Slave

open Base
open Hdcp.Slave hiding State

variable {τ ι : Type}

/-- The slave whose thread is in no handler, and no user in a call. -/
def Device.whole (party : Party τ) (phase : Phase) : Device τ ι where
  machine := party.machine
  data := party.data
  script := none
  users := fun _ => .idle
  phase := phase

/-- The entry of a handler. -/
theorem states_handler (setup : Setup τ) (state : State) :
    (states setup state)[0]? = some { target := state, handler := handler setup state } := by
  cases state with
  | init => rfl
  | disconnected => rfl
  | connecting => rfl
  | connected => rfl

/-- What a handler leads to when it begins. -/
theorem wakeup_first (setup : Setup τ) (state : State) (nbLoop : Nat) (data : Data τ) :
    Party.wakeup setup ⟨⟨state, nbLoop, 0, false⟩, data⟩ = some
      (match handler setup state (nbLoop + 1) data with
      | .ok _ data =>
        ⟨(⟨state, nbLoop + 1, 0, false⟩ : Machine State).passed (states setup state).length, data⟩
      | .error _ data => ⟨⟨state, nbLoop + 1, 0, false⟩, data⟩) := by
  unfold Party.wakeup
  rw [Statemachine.step_at _ _ _ _ _ _ (states_handler setup state)]
  cases outcome : handler setup state (nbLoop + 1) data with
  | ok status last =>
    obtain rfl := handler_stays setup state _ data last status outcome
    simp only [↓reduceIte, outcome]
    rfl
  | error error last =>
    simp only [↓reduceIte, outcome]
    rfl

section Runs

variable [DecidableEq ι] {setup : Setup τ}

/-- The thread takes all the turns of a handler. -/
theorem handler_run (state : State) (nbLoop : Nat) (data : Data τ) (phase : Phase)
    (alive : phase ≠ .stopped) {party : Party τ}
    (wakes : Party.wakeup setup ⟨⟨state, nbLoop, 0, false⟩, data⟩ = some party) :
    ∃ count, Run (Steps (Device.step setup))
      (Device.whole ⟨⟨state, nbLoop, 0, false⟩, data⟩ phase : Device τ ι)
      (List.replicate count .protocol) (Device.whole party phase) := by
  let inside (script : List Task) (data : Data τ) : Device τ ι :=
    { machine := ⟨state, nbLoop + 1, 0, false⟩, data := data, script := some script,
      users := fun _ => .idle, phase := phase }
  have begins : Steps (Device.step setup)
      (Device.whole ⟨⟨state, nbLoop, 0, false⟩, data⟩ phase : Device τ ι) .protocol
      (inside (tasks state (nbLoop + 1)) data) := by
    unfold Steps Device.step Device.advances Device.whole
    dsimp only
    rw [if_neg alive, if_pos rfl]
    rfl
  let stands (script : List Task) (data : Data τ) (device : Device τ ι) : Prop :=
    device = inside script data
  let fails (_ : Exn) (data : Data τ) (device : Device τ ι) : Prop :=
    device = .whole ⟨⟨state, nbLoop + 1, 0, false⟩, data⟩ phase
  have turns (task : Task) (rest : List Task) (data : Data τ) (device : Device τ ι)
      (standing : stands (task :: rest) data device) : ∃ next,
        Steps (Device.step setup) device .protocol next ∧
          Arrives (fun more => stands (more ++ rest)) fails (task.perform setup data) next := by
    obtain rfl := standing
    refine ⟨(inside (task :: rest) data).performs setup task rest, rfl, ?_⟩
    unfold Device.performs
    cases outcome : task.perform setup data with
    | ok more data =>
      rfl
    | error error data =>
      rfl
  obtain ⟨count, final, run, reached⟩ :=
    (spells_tasks setup state (nbLoop + 1) data).run stands fails turns rfl
  rw [wakeup_first] at wakes
  cases wakes
  rw [bind_apply] at reached
  cases outcome : handler setup state (nbLoop + 1) data with
  | ok status last =>
    rw [outcome] at reached
    have returns : Steps (Device.step setup) final .protocol (Device.whole
        ⟨(⟨state, nbLoop + 1, 0, false⟩ : Machine State).passed (states setup state).length, last⟩
        phase) := by
      cases reached
      rfl
    refine ⟨count + 2, .cons begins ?_⟩
    rw [List.replicate_succ']
    exact run.append (.cons returns (.nil _))
  | error error last =>
    rw [outcome] at reached
    cases reached
    exact ⟨count + 1, .cons begins run⟩

/-- The slave with another request manager, in one piece. -/
def Party.withManager (party : Party τ) (manager : Hdcp.Slave.State τ) : Party τ :=
  { party with data := { party.data with manager := manager } }

/-- An operation of the request manager leaves the rest of the slave. -/
theorem after_onManager {α : Type} (action : Action τ α) (data : Data τ) :
    after (onManager action data) = { data with manager := after (action data.manager) } := by
  unfold onManager
  cases action data.manager with
  | ok value manager => rfl
  | error error manager => rfl

/-- A call of `send_data` in state connected. -/
theorem sendData_connected (setup : Setup τ) {party : Party τ} (blocks : List BlockView)
    (connected : party.state = .connected) :
    party.sendData setup blocks =
      party.withManager
        (after (Hdcp.Slave.sendData setup.environment blocks party.data.manager)) := by
  unfold Party.sendData
  rw [if_pos connected, after_onManager]
  rfl

/-- A user takes all the turns of a call of `send_data`. -/
theorem sendData_run (party : Party τ) (phase : Phase) (user : ι) (blocks : List BlockView) :
    ∃ count, Run (Steps (Device.step setup)) (Device.whole party phase)
      (.call user blocks :: List.replicate count (.user user))
      (Device.whole (party.sendData setup blocks) phase) := by
  by_cases connected : party.state = .connected
  · let inside (place : DataStep) (manager : Hdcp.Slave.State τ) : Device τ ι :=
      { machine := party.machine, data := { party.data with manager := manager }, script := none,
        users := Function.update (fun _ => .idle) user place, phase := phase }
    have quiet (manager : Hdcp.Slave.State τ) :
        inside .idle manager = .whole (party.withManager manager) phase := by
      dsimp only [inside]
      rw [Function.update_eq_self_iff.mpr rfl]
      rfl
    let stands (place : DataStep) (manager : Hdcp.Slave.State τ) (device : Device τ ι) : Prop :=
      device = inside place manager
    let fails (_ : Exn) (manager : Hdcp.Slave.State τ) (device : Device τ ι) : Prop :=
      device = inside .idle manager
    have called : Steps (Device.step setup) (Device.whole party phase) (.call user blocks)
        (inside (.packing blocks [] 0) party.data.manager) := by
      unfold Steps Device.step Device.whole Device.state
      exact if_pos connected
    have turns (place : DataStep) (manager : Hdcp.Slave.State τ) (device : Device τ ι)
        (_ : place.ended = false) (standing : stands place manager device) : ∃ next,
          Steps (Device.step setup) device (.user user) next ∧
            Arrives stands fails (place.statement setup.environment manager) next := by
      obtain rfl := standing
      refine ⟨(inside place manager).userDoes setup user, rfl, ?_⟩
      have here : (inside place manager).users user = place :=
        Function.update_self user place fun _ => DataStep.idle
      have turned : ((inside place manager).users user).statement setup.environment
          (inside place manager).manager = place.statement setup.environment manager := by
        rw [here]
        rfl
      cases outcome : place.statement setup.environment manager with
      | ok next last =>
        rw [Device.userDoes_ok setup _ user (turned.trans outcome)]
        dsimp only [Arrives, stands, inside]
        rw [Function.update_idem]
        rfl
      | error error last =>
        rw [Device.userDoes_error setup _ user (turned.trans outcome)]
        dsimp only [Arrives, fails, inside]
        rw [Function.update_idem]
        rfl
    obtain ⟨count, final, run, reached⟩ := follow_run stands fails turns
      (0 + 2 * blocks.length + 2) (rfl : stands (.packing blocks [] 0) party.data.manager _)
    refine ⟨count, .cons called ?_⟩
    rw [sendDataFrom_statements, bind_apply] at reached
    rw [sendData_connected setup blocks connected, ← quiet]
    unfold sendData
    cases outcome : sendDataFrom setup.environment blocks [] 0 party.data.manager with
    | ok value last =>
      rw [outcome] at reached
      cases reached
      exact run
    | error error last =>
      rw [outcome] at reached
      cases reached
      exact run
  · refine ⟨0, .cons ?_ (.nil _)⟩
    unfold Party.sendData
    rw [if_neg connected]
    unfold Steps Device.step Device.whole Device.state
    exact if_neg connected

/-- An entry of the state machine is a run of the thread. -/
theorem wakeup_run {party next : Party τ} {phase : Phase} (alive : phase ≠ .stopped)
    (awake : party.machine.waiting = false) (wakes : party.wakeup setup = some next) :
    ∃ count, Run (Steps (Device.step setup)) (Device.whole party phase : Device τ ι)
      (List.replicate count .protocol) (Device.whole next phase) := by
  obtain ⟨⟨state, nbLoop, position, waiting⟩, data⟩ := party
  obtain rfl : waiting = false := awake
  cases position with
  | zero => exact handler_run state nbLoop data phase alive wakes
  | succ position =>
    refine ⟨1, .cons ?_ (.nil _)⟩
    unfold Steps Device.step Device.advances Device.whole
    dsimp only
    rw [if_neg alive, if_neg (Nat.succ_ne_zero position)]
    exact Option.map_eq_some_iff.mpr ⟨next, wakes, rfl⟩

/-- The machine does not wait after an entry. -/
theorem wakeup_awake {party next : Party τ} (awake : party.machine.waiting = false)
    (wakes : party.wakeup setup = some next) : next.machine.waiting = false := by
  cases wakeup_wakes setup wakes awake <;> rfl

/-- A tick is one act. -/
theorem tick_step {party next : Party τ} (phase : Phase) {batch : List (Timer TimerCallback)}
    (ticks : party.tick setup batch = some next) :
    Steps (Device.step setup) (Device.whole party phase : Device τ ι) (.tick batch)
      (Device.whole next phase) :=
  Option.map_eq_some_iff.mpr ⟨next, ticks, rfl⟩

/-- The threads take turns for each thing that happens to a slave in one piece. -/
theorem life_simulated (user : ι) :
    Simulated (fun (life : Life τ) (device : Device τ ι) =>
        life.Sound ∧ device = .whole life.party life.phase)
      (Steps (Life.step setup)) (Steps (Device.step setup)) := by
  intro life move next taken device related
  obtain ⟨sound, rfl⟩ := related
  obtain ⟨party, phase, acted, -, rfl, after⟩ := Life.Sound.step sound taken
  suffices runs : ∃ acts, Run (Steps (Device.step setup))
      (Device.whole life.party life.phase : Device τ ι) acts (.whole party phase) by
    obtain ⟨acts, run⟩ := runs
    exact ⟨acts, _, run, after, rfl⟩
  cases move with
  | wakeup =>
    unfold Life.act at acted
    dsimp only at acted
    split at acted
    · contradiction
    · next alive =>
      obtain ⟨_, wakes, same⟩ := Option.map_eq_some_iff.mp acted
      cases same
      obtain ⟨count, run⟩ := @wakeup_run τ ι _ setup _ _ _ alive (Sound.awake sound) wakes
      exact ⟨_, run⟩
  | tick batch =>
    obtain ⟨_, ticks, same⟩ := Option.map_eq_some_iff.mp acted
    cases same
    exact ⟨[.tick batch], .cons (tick_step _ ticks) (.nil _)⟩
  | sendData blocks =>
    cases acted
    obtain ⟨count, run⟩ := sendData_run life.party life.phase user blocks
    exact ⟨_, run⟩
  | changed transport =>
    unfold Life.act at acted
    dsimp only at acted
    split at acted
    · contradiction
    · cases acted
      exact ⟨[.changed transport], .cons rfl (.nil _)⟩
  | opened transport =>
    unfold Life.act at acted
    dsimp only at acted
    split at acted
    · cases acted
      exact ⟨[.changed transport], .cons rfl (.nil _)⟩
    · contradiction
  | stop =>
    unfold Life.act at acted
    dsimp only at acted
    split at acted
    · next running =>
      cases acted
      exact ⟨[.stop], .cons (if_pos running) (.nil _)⟩
    · contradiction
  | joined transport =>
    unfold Life.act at acted
    dsimp only at acted
    split at acted
    · next ended =>
      cases acted
      exact ⟨[.joined transport], .cons (if_pos ended) (.nil _)⟩
    · contradiction
  | start transport =>
    unfold Life.act at acted
    dsimp only at acted
    split at acted
    · next stopped =>
      cases acted
      exact ⟨[.start transport], .cons (if_pos stopped) (.nil _)⟩
    · contradiction

end Runs

/-- Every run of a slave whose handlers and calls run in one piece is a run of its threads,
statement by statement, that leads to the same slave, with no thread inside a handler or a call. -/
theorem device_refines [DecidableEq ι] (user : ι) (setup : Setup τ) (transport : τ)
    (moves : List (Move τ)) (life : Life τ)
    (run : Run (Steps (Life.step setup)) (.initial transport) moves life) :
    ∃ acts, Run (Steps (Device.step setup)) (Device.initial transport : Device τ ι) acts
      (.whole life.party life.phase) := by
  obtain ⟨acts, device, fine, -, rfl⟩ :=
    run.simulated (life_simulated user) ⟨sound_started transport, rfl⟩
  exact ⟨acts, fine⟩

/-- The run in which a slave answers a HIP, statement by statement. -/
theorem device_refines_answering :
    ∃ life, Run (Steps (Life.step (onQueues .empty))) (.initial .empty) answering life ∧
      life.state = .connecting ∧ ∃ acts, Run (Steps (Device.step (onQueues .empty)))
        (Device.initial .empty : Device Queues Unit) acts (.whole life.party life.phase) := by
  have executed : ((Base.execute (Life.step (onQueues .empty)) (.initial .empty) answering).any
      fun life => decide (life.state = .connecting)) = true := by
    decide +kernel
  obtain ⟨life, reached, connecting⟩ := (Option.any_eq_true _ _).mp executed
  have run := (execute_eq_some_iff _ _ _ _).mp reached
  exact ⟨life, run, of_decide_eq_true connecting,
    device_refines () (onQueues .empty) .empty answering life run⟩

end Hdcp.Appli.Slave
