import Hdcp.Appli.Executions
import Hdcp.Appli.MasterRefined
import Hdcp.Appli.SlaveRefined
import Hdcp.Appli.Weave

/-!
# The link in one piece and the link in statements

The link whose parties run handlers, ticks and calls in one piece is the link whose threads run
statement by statement, with no thread between the statements of another. What holds of every run
of the finer link holds of every run of the coarser.
-/

namespace Hdcp.Appli

open Base Hdcp.Master

variable {κ ι μ : Type}

/-- The link whose threads are in no handler, tick or call. -/
def Link.whole (link : Link κ) (mark : Nat) : Weave κ ι μ where
  master := .whole link.master .running mark
  slave := .whole link.slave .running
  toSlave := link.toSlave
  toMaster := link.toMaster

/-- The callbacks of a tick of the master return. -/
def Link.TicksReturn (parties : Parties κ) (link : Link κ) : Happening κ → Prop
  | .masterTick batch =>
    ∃ last, runOnce parties.master.environment batch link.master.data.manager = .ok () last
  | _ => True

section Runs

variable [DecidableEq ι] [DecidableEq μ] {parties : Parties κ}

/-- A run of the master is one of the link. -/
theorem Weave.master_run (weave : Weave κ ι μ) {host next : Master.Host Queues κ ι}
    {acts : List (Master.Act Queues κ ι)}
    (run : Run (Steps (Master.Host.step parties.master)) host acts next)
    (leaves : ∀ act ∈ acts, ∀ queues, act.leaves queues = true) :
    Run (Steps (Weave.step parties)) { weave with master := host } (acts.map .master)
      { weave with master := next } := by
  induction run with
  | nil => exact .nil _
  | @cons start middle _ act acts taken _ ih =>
    refine .cons ?_ (ih fun act inside => leaves act (List.mem_cons_of_mem _ inside))
    exact Weave.step_eq_some_iff.mpr (.master (leaves act List.mem_cons_self _) taken)

/-- A run of the slave is one of the link. -/
theorem Weave.slave_run (weave : Weave κ ι μ) {device next : Slave.Device Queues μ}
    {acts : List (Slave.Act Queues μ)}
    (run : Run (Steps (Slave.Device.step parties.slave)) device acts next)
    (leaves : ∀ act ∈ acts, ∀ queues, act.leaves queues = true) :
    Run (Steps (Weave.step parties)) { weave with slave := device } (acts.map .slave)
      { weave with slave := next } := by
  induction run with
  | nil => exact .nil _
  | @cons start middle _ act acts taken _ ih =>
    refine .cons ?_ (ih fun act inside => leaves act (List.mem_cons_of_mem _ inside))
    exact Weave.step_eq_some_iff.mpr (.slave (leaves act List.mem_cons_self _) taken)

/-- Each strand keeps the master sound. -/
theorem Weave.sound_step {weave next : Weave κ ι μ} {strand : Strand κ ι μ}
    (sound : weave.master.Sound parties.master) (taken : weave.step parties strand = some next) :
    next.master.Sound parties.master := by
  have changed (queues : Queues) :
      (weave.master.withTransport queues).Sound parties.master := by
    have taken : weave.master.step parties.master (.changed queues) =
      some (weave.master.withTransport queues) := rfl
    exact Master.Host.sound_step sound taken
  cases Weave.step_eq_some_iff.mp taken with
  | master leaves acted => exact Master.Host.sound_step sound acted
  | masterSends queue => exact changed _
  | masterReceives wire => exact changed _
  | slave leaves acted => exact sound
  | slaveSends queue => exact sound
  | slaveReceives wire => exact sound

/-- The master is sound after any run. -/
theorem Weave.sound_run {weave next : Weave κ ι μ} {strands : List (Strand κ ι μ)}
    (run : Run (Steps (Weave.step parties)) weave strands next)
    (sound : weave.master.Sound parties.master) : next.master.Sound parties.master :=
  run.invariant (fun _ _ _ sound taken => Weave.sound_step sound taken) sound

/-- What the finer link keeps: its master is sound, and the slave of the coarser one is awake. -/
def Link.Refines (parties : Parties κ) (link : Link κ) (weave : Weave κ ι μ) : Prop :=
  link.slave.machine.waiting = false ∧ weave.master.Sound parties.master ∧
    ∃ mark, weave = link.whole mark

/-- The threads take turns for each thing that happens to a link in one piece. -/
theorem link_simulated (user : ι) (other : μ) :
    Simulated (fun (link : Link κ) (weave : Weave κ ι μ) => link.Refines parties weave)
      (Guarded (Link.TicksReturn parties) (Steps (Link.step parties)))
      (Steps (Weave.step parties)) := by
  intro link happening next taken weave related
  obtain ⟨returns, stepped⟩ := taken
  obtain ⟨awake, sound, mark, rfl⟩ := related
  suffices runs : next.slave.machine.waiting = false ∧ ∃ strands last,
      Run (Steps (Weave.step parties)) (link.whole mark : Weave κ ι μ) strands
        (next.whole last) by
    obtain ⟨still, strands, last, run⟩ := runs
    exact ⟨strands, _, run, still, Weave.sound_run run sound, last, rfl⟩
  have one {strand : Strand κ ι μ} {next : Link κ}
      (goes : Weave.Goes parties (link.whole mark) strand (next.whole mark)) :
      Run (Steps (Weave.step parties)) (link.whole mark : Weave κ ι μ) [strand]
        (next.whole mark) :=
    .cons (Weave.step_eq_some_iff.mpr goes) (.nil _)
  cases Link.step_moves stepped with
  | master wakes =>
    obtain ⟨count, last, run⟩ := @Master.wakeup_run Queues κ ι _ parties.master _ _ .running mark
      nofun sound wakes
    exact ⟨awake, _, last, Weave.master_run (link.whole mark) run
      (List.forall_mem_replicate.mpr (.inr fun _ => rfl))⟩
  | @masterTick batch master ticks =>
    obtain ⟨count, run⟩ := @Master.tick_run Queues κ ι _ parties.master _ _ .running mark batch
      ticks returns
    exact ⟨awake, _, mark, Weave.master_run (link.whole mark) run
      (List.forall_mem_cons.mpr ⟨fun _ => rfl, List.forall_mem_replicate.mpr (.inr fun _ => rfl)⟩)⟩
  | asyncConnect => exact ⟨awake, [.master .asyncConnect], mark, one (.master rfl rfl)⟩
  | connectReturns connects =>
    exact ⟨awake, [.master .connectReturns], mark,
      one (.master rfl (Option.map_eq_some_iff.mpr ⟨_, connects, rfl⟩))⟩
  | asyncDisconnect => exact ⟨awake, [.master .asyncDisconnect], mark, one (.master rfl rfl)⟩
  | sendCommand type data cb =>
    obtain ⟨count, run⟩ := @Master.sendCommand_run Queues κ ι _ parties.master link.master
      .running mark user type data cb
    exact ⟨awake, _, mark, Weave.master_run (link.whole mark) run
      (List.forall_mem_cons.mpr ⟨fun _ => rfl, List.forall_mem_replicate.mpr (.inr fun _ => rfl)⟩)⟩
  | slave wakes =>
    obtain ⟨count, run⟩ := @Slave.wakeup_run Queues μ _ parties.slave _ _ .running nofun awake wakes
    exact ⟨Slave.wakeup_awake awake wakes, _, mark,
      Weave.slave_run (link.whole mark) run (List.forall_mem_replicate.mpr (.inr fun _ => rfl))⟩
  | @slaveTick batch slave ticks =>
    obtain ⟨-, same⟩ := (link.slave.tick_eq_some_iff parties.slave slave batch).mp ticks
    exact ⟨by rw [same]; exact awake, [.slave (.tick batch)], mark,
      one (.slave rfl (Slave.tick_step .running ticks))⟩
  | sendData blocks =>
    obtain ⟨count, run⟩ := @Slave.sendData_run Queues μ _ parties.slave link.slave .running other
      blocks
    obtain ⟨manager, sent, -, -⟩ := Slave.Party.sendData_eq parties.slave link.slave blocks
    exact ⟨by rw [sent]; exact awake, _, mark, Weave.slave_run (link.whole mark) run
      (List.forall_mem_cons.mpr ⟨fun _ => rfl, List.forall_mem_replicate.mpr (.inr fun _ => rfl)⟩)⟩
  | masterSends queue => exact ⟨awake, [.masterSends], mark, one (.masterSends queue)⟩
  | slaveReceives wire => exact ⟨awake, [.slaveReceives], mark, one (.slaveReceives wire)⟩
  | slaveSends queue => exact ⟨awake, [.slaveSends], mark, one (.slaveSends queue)⟩
  | masterReceives wire => exact ⟨awake, [.masterReceives], mark, one (.masterReceives wire)⟩

/-- The link whose two parties are constructed is started by two strands. -/
theorem started_run : Run (Steps (Weave.step parties)) (Weave.initial : Weave κ ι μ)
    [.master (.start .empty), .slave (.start .empty)] (Link.started.whole 0) :=
  .cons rfl (.cons rfl (.nil _))

end Runs

/-- Every run of the link whose parties run handlers, ticks and calls in one piece, and whose timer
callbacks return, is a run of the link of threads, statement by statement, that leads to the same
parties and the same packets on the wire, with no thread inside a handler, a tick or a call. -/
theorem link_refined [DecidableEq ι] [DecidableEq μ] (user : ι) (other : μ) (parties : Parties κ)
    (happenings : List (Happening κ)) (link : Link κ)
    (run : Run (Guarded (Link.TicksReturn parties) (Steps (Link.step parties))) Link.started
      happenings link) :
    ∃ strands mark, Run (Steps (Weave.step parties)) (Weave.initial : Weave κ ι μ) strands
      (link.whole mark) := by
  have begun := @started_run κ ι μ _ _ parties
  have sound := Weave.sound_run begun (Master.Host.sound_initial _)
  have related : Link.started.Refines parties (Link.started.whole 0 : Weave κ ι μ) :=
    ⟨rfl, sound, 0, rfl⟩
  obtain ⟨strands, weave, fine, -, -, mark, rfl⟩ :=
    run.simulated (link_simulated user other) related
  exact ⟨_, mark, begun.append fine⟩

instance (parties : Parties κ) (link : Link κ) (happening : Happening κ) :
    Decidable (link.TicksReturn parties happening) :=
  match happening with
  | .masterTick batch =>
    match ran : runOnce parties.master.environment batch link.master.data.manager with
    | .ok _ last => isTrue ⟨last, ran⟩
    | .error _ _ => isFalse fun ⟨_, returned⟩ => by
      rw [ran] at returned
      contradiction
  | .master | .asyncConnect | .connectReturns | .asyncDisconnect | .sendCommand _ _ _ | .slave
  | .slaveTick _ | .sendData _ | .masterSends | .slaveReceives | .slaveSends | .masterReceives =>
    inferInstanceAs (Decidable True)

/-- The session in which a command is executed four times, statement by statement. -/
theorem link_refined_slowAck :
    ∃ link, Run (Guarded (Link.TicksReturn quietParties) (Steps (Link.step quietParties)))
        Link.started slowAck link ∧ link.executions 3 = 4 ∧
      ∃ strands mark, Run (Steps (Weave.step quietParties)) (Weave.initial : Weave Unit Unit Unit)
        strands (link.whole mark) := by
  have executed : ((execute (fun link happening =>
      if Link.TicksReturn quietParties link happening then Link.step quietParties link happening
      else none) Link.started slowAck).any fun link => decide (link.executions 3 = 4)) = true := by
    decide +kernel
  obtain ⟨link, reached, four⟩ := (Option.any_eq_true _ _).mp executed
  have run := run_of_execute_guarded (Link.TicksReturn quietParties) (Link.step quietParties) _ _ _
    reached
  exact ⟨link, run, of_decide_eq_true four, link_refined () () quietParties slowAck link run⟩

end Hdcp.Appli
