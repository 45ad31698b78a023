import Hdcp.Appli.SlaveHears
import Hdcp.Base.Channels

/-!
# What the slave executes

A command given to `cmd_cb_` was read in state connected. Between the two the slave's thread has it
in its script. Each command read is executed once at most, and in the order of reading.
-/

namespace Hdcp.Appli.Slave

open Base
open Hdcp.Slave hiding State
open Hdcp.Master (Command)

variable {τ μ : Type}

/-- The command a task gives to `cmd_cb_`. -/
def Task.executes : Task → Option Message
  | execute message => some message
  | _ => none

/-- The commands a list of tasks gives to `cmd_cb_`. -/
def executions (tasks : List Task) : List Message := tasks.filterMap Task.executes

/-- A packet was read as a command. -/
def commanded (read : State × Message) : Bool :=
  read.1 = .connected ∧ Command read.2

/-- The commands read in state connected, oldest first. -/
def Data.commands (data : Data τ) : List Message := (data.reads.filter commanded).map Prod.snd

/-- What is executed, and what is about to be, was read as a command before. -/
def Device.Obedient (device : Device τ μ) : Prop :=
  Intact device.data.executed (device.script.elim [] executions) device.data.commands

section Tasks

variable {setup : Setup τ}

/-- A task that neither reads nor executes leaves what was read, executed and reported. -/
theorem perform_log {task : Task} (unread : ∀ state, task ≠ .read state)
    (unexecuted : ∀ message, task ≠ .execute message) (data : Data τ) :
    (after (task.perform setup data)).reads = data.reads ∧
      (after (task.perform setup data)).executed = data.executed ∧
      (after (task.perform setup data)).statuses = data.statuses := by
  by_cases manages : task.manages = true
  · obtain ⟨manager, left, -⟩ := perform_manages setup manages data
    rw [left]
    exact ⟨rfl, rfl, rfl⟩
  cases task with
  | init | stop | notify event => exact ⟨rfl, rfl, rfl⟩
  | start =>
    rw [Task.perform, bind_apply]
    unfold onManager
    cases Hdcp.Slave.start data.manager with
    | ok value manager => exact ⟨rfl, rfl, rfl⟩
    | error error manager => exact ⟨rfl, rfl, rfl⟩
  | read state => exact absurd rfl (unread state)
  | execute message => exact absurd rfl (unexecuted message)
  | _ => contradiction

/-- A task other than a read leaves nothing to execute. -/
theorem executions_more {task : Task} {more : List Task} (leaves : Leaves task more)
    (unread : ∀ state, task ≠ .read state) : executions more = [] := by
  cases leaves with
  | nothing | sends | numbers => rfl
  | identified | firstKa | again | command | keepalive => exact absurd rfl (unread _)

/-- A packet read is executed when it is a command read in state connected. -/
theorem perform_commands (state : State) (data : Data τ) :
    ∃ more next, (Task.read state).perform setup data = .ok more next ∧
      next.executed = data.executed ∧
      (next.reads = data.reads ∧ executions more = [] ∨
        ∃ message, next.reads = data.reads ++ [(state, message)] ∧
          (executions more = [] ∨
            executions more = [message] ∧ commanded (state, message) = true)) := by
  rw [perform_read]
  cases (setup.transport.read data.manager.transport).1 with
  | none => exact ⟨_, _, rfl, rfl, .inl ⟨rfl, rfl⟩⟩
  | some message =>
    dsimp only
    cases state with
    | init => exact ⟨_, _, rfl, rfl, .inr ⟨message, rfl, .inl rfl⟩⟩
    | disconnected =>
      rw [receive_disconnected]
      split
      · exact ⟨_, _, rfl, rfl, .inr ⟨message, rfl, .inl rfl⟩⟩
      · exact ⟨_, _, rfl, rfl, .inr ⟨message, rfl, .inl rfl⟩⟩
    | connecting =>
      rw [receive_connecting]
      refine ⟨_, _, rfl, rfl, .inr ⟨message, rfl, .inl ?_⟩⟩
      split
      · rfl
      · rfl
    | connected =>
      unfold receive
      dsimp only
      rw [bind_apply, checkPacketId_apply]
      dsimp only
      split
      · exact ⟨_, _, rfl, rfl, .inr ⟨message, rfl, .inl rfl⟩⟩
      · split
        · next command =>
          refine ⟨_, _, rfl, rfl, .inr ⟨message, rfl, .inr ⟨rfl, ?_⟩⟩⟩
          exact decide_eq_true ⟨rfl, command⟩
        · split
          · exact ⟨_, _, rfl, rfl, .inr ⟨message, rfl, .inl rfl⟩⟩
          · exact ⟨_, _, rfl, rfl, .inr ⟨message, rfl, .inl rfl⟩⟩

/-- A command is given to `cmd_cb_`, or it is not. -/
theorem perform_executes (message : Message) (data : Data τ) :
    ∃ executed, (executed = data.executed ∨ executed = data.executed ++ [message]) ∧
      (Task.execute message).perform setup data = .ok [] { data with executed := executed } := by
  rw [Task.perform, bind_apply]
  unfold Slave.execute runIf
  by_cases called : message.packet.blocks.length = 1 ∧ setup.hasCmdCb = true
  · rw [if_pos called]
    exact ⟨data.executed ++ [message], .inr rfl, rfl⟩
  · rw [if_neg called]
    exact ⟨data.executed, .inl rfl, rfl⟩

/-- A check leaves the manager, what was read and what was executed. -/
theorem wakes_same {party next : Party τ} (wakes : Wakes setup party next)
    (later : party.machine.position ≠ 0) :
    next.data.manager = party.data.manager ∧ next.data.reads = party.data.reads ∧
      next.data.executed = party.data.executed := by
  cases wakes with
  | handled | thrown => exact absurd rfl later
  | _ => exact ⟨rfl, rfl, rfl⟩

end Tasks

namespace Device

variable {setup : Setup τ} {device next : Device τ μ}

/-- A slave as constructed. -/
theorem obedient_initial (transport : τ) : (initial transport : Device τ μ).Obedient :=
  Intact.nil

/-- No handler begins with a command to execute. -/
theorem executions_tasks (state : State) (nbLoop : Nat) : executions (tasks state nbLoop) = [] := by
  cases state with
  | init | connected => rfl
  | disconnected | connecting =>
    rw [tasks]
    split
    · rfl
    · rfl

/-- What leaves the script, what was read and what was executed leaves the slave obedient. -/
theorem Obedient.frame (obedient : device.Obedient)
    (script : (next.script.elim [] executions).Sublist (device.script.elim [] executions))
    (reads : next.data.reads = device.data.reads)
    (executed : next.data.executed = device.data.executed) : next.Obedient := by
  unfold Obedient Data.commands at obedient ⊢
  rw [reads, executed]
  exact obedient.drops script

/-- A task of a handler is performed. -/
theorem Obedient.performs {task : Task} {rest : List Task} (obedient : device.Obedient)
    (sound : device.Sound) (script : device.script = some (task :: rest)) :
    (device.performs setup task rest).Obedient := by
  have left := device.performs_data setup task rest
  have scripted := sound.scripted _ script
  by_cases reading : ∃ state, task = .read state
  · obtain ⟨state, rfl⟩ := reading
    obtain ⟨rfl, rfl, -⟩ := scripted_read scripted
    obtain ⟨more, data, outcome, executed, read⟩ := @perform_commands τ setup device.state
      device.data
    have ended : device.performs setup (.read device.state) [] =
        { device with data := data, script := some (more ++ []) } := by
      unfold Device.performs
      rw [outcome]
    rw [ended, List.append_nil]
    unfold Obedient Data.commands at obedient ⊢
    rw [script] at obedient
    dsimp only [Option.elim] at obedient ⊢
    rw [executed]
    rcases read with ⟨reads, none⟩ | ⟨message, reads, none | ⟨one, command⟩⟩
    · rw [reads, none]
      exact obedient
    · rw [reads, none, List.filter_append, List.map_append]
      exact List.Sublist.trans obedient (List.sublist_append_left _ _)
    · rw [reads, one, List.filter_append, List.map_append, List.filter_singleton, command]
      exact obedient.writes message
  by_cases executing : ∃ message, task = .execute message
  · obtain ⟨message, rfl⟩ := executing
    obtain ⟨executed, either, outcome⟩ := @perform_executes τ setup message device.data
    have ended : device.performs setup (.execute message) rest =
        { device with
          data := { device.data with executed := executed }, script := some rest } := by
      unfold Device.performs
      rw [outcome]
      rfl
    rw [ended]
    unfold Obedient at obedient
    rw [script] at obedient
    have pending : Intact device.data.executed (message :: executions rest)
        device.data.commands := obedient
    rcases either with rfl | rfl
    · exact pending.drops (List.sublist_cons_self message _)
    · exact pending.reads
  · have unread (state : State) : task ≠ .read state := fun same => reading ⟨state, same⟩
    have unexecuted (message : Message) : task ≠ .execute message := fun same =>
      executing ⟨message, same⟩
    obtain ⟨reads, executed, -⟩ := @perform_log τ setup task unread unexecuted device.data
    rw [← left] at reads executed
    refine obedient.frame ?_ reads executed
    rw [script]
    rcases device.performs_script setup task rest with none | ⟨more, data, outcome, onward⟩
    · rw [none]
      exact List.nil_sublist _
    · rw [onward]
      change (executions (more ++ rest)).Sublist (executions (task :: rest))
      unfold executions
      rw [List.filterMap_append]
      have nothing : more.filterMap Task.executes = [] :=
        executions_more (perform_leaves outcome) unread
      rw [nothing, List.nil_append]
      exact (List.sublist_cons_self task rest).filterMap Task.executes

variable [DecidableEq μ]

/-- An act keeps a slave obedient. -/
theorem obedient_step {act : Act τ μ} (sound : device.Sound) (obedient : device.Obedient)
    (taken : device.step setup act = some next) : next.Obedient := by
  cases step_acts taken with
  | returned script =>
    refine obedient.frame ?_ rfl rfl
    exact List.nil_sublist _
  | performed task rest script => exact obedient.performs sound script
  | begun script alive first =>
    refine obedient.frame ?_ rfl rfl
    change (executions (tasks device.state device.machine.begun.nbLoop)).Sublist _
    rw [executions_tasks]
    exact List.nil_sublist _
  | checked party script alive later wakes =>
    obtain ⟨-, reads, executed⟩ := wakes_same (wakeup_wakes setup wakes sound.awake) later
    exact obedient.frame (List.Sublist.refl _) reads executed
  | ticked | called | uncalled | used | changed | stopping | joined | started =>
    exact obedient.frame (List.Sublist.refl _) rfl rfl

end Device

end Hdcp.Appli.Slave
