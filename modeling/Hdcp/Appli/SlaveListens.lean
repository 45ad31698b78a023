import Hdcp.Appli.SlaveRests
import Hdcp.Master.Commandless

/-!
# What the slave reads of a session

A slave begins to listen with a HIP: from there until its keepalive, what it reads it reads in state
connecting, and discards unless it is a keepalive. Behind a HIP nothing else is read before state
connecting, unless one that was read in an earlier session is still pending where the queues are
cleared.
-/

namespace Hdcp.Appli.Slave

open Base
open Hdcp.Slave hiding State
open Hdcp.Master (Command Keepalive)

variable {τ μ : Type}

namespace Device

/-- The slave's thread has a task to do. -/
def does (device : Device τ μ) (task : Task) : Prop :=
  ∃ tasks, device.script = some tasks ∧ task ∈ tasks

/-- The keepalive of the session was read, and what is left of the wakeup leaves the state. -/
def answered (device : Device τ μ) : Prop :=
  device.does (.notify .firstKaReceived) ∨
    .firstKaReceived ∈ device.data.events ∧
      (device.script = some [] ∨ device.script = none ∧ device.machine.position ≠ 0)

/-- The slave reads the packets behind a HIP, the first keepalive still to come. -/
def listens (device : Device τ μ) : Prop :=
  .hipReceived ∈ device.data.events ∨ device.does (.notify .hipReceived) ∨
    device.state = .connecting ∧ ¬ device.answered

/-- The slave reads next, outside a session that begins. -/
def awaits (device : Device τ μ) : Prop :=
  device.state = .connected ∧ (device.script = none ∧ device.machine.position = 0 ∨
      ∃ task rest, device.script = some (task :: rest)) ∨
    device.state = .disconnected ∧
      (device.script = none ∧ device.machine.position = 0 ∧ device.machine.nbLoop ≠ 0 ∨
        device.script = some [.read .disconnected] ∨
        device.script = some [.notify .hipReceived])

/-- The slave's thread clears the queues next. -/
def clears (device : Device τ μ) : Bool :=
  match device.script with
  | some (.clearQueues :: _) => true
  | _ => false

/-- No HIP is pending where the queues are cleared. -/
def heedful (device : Device τ μ) : Act τ μ → Prop
  | .protocol => device.clears = true → .hipReceived ∉ device.data.events
  | _ => True

instance (device : Device τ μ) (act : Act τ μ) : Decidable (device.heedful act) := by
  cases act <;> unfold heedful <;> infer_instance

/-- No HIP is pending where the slave reads next. -/
def Attentive (device : Device τ μ) : Prop := device.awaits → .hipReceived ∉ device.data.events

section Attentive

variable {setup : Setup τ} {device next : Device τ μ}

/-- A slave as constructed. -/
theorem attentive_initial (transport : τ) : (initial transport : Device τ μ).Attentive :=
  fun _ => Finset.notMem_empty _

/-- Where the queues are cleared. -/
theorem scripted_clears {state : State} {rest : List Task}
    (scripted : Scripted state (.clearQueues :: rest)) :
    state = .disconnected ∧ rest = [.read .disconnected] := by
  generalize same : Task.clearQueues :: rest = script at scripted
  cases scripted with
  | clearQueues =>
    cases same
    exact ⟨rfl, rfl⟩
  | identify sending | firstAck sending | commandAlive message sending
  | commandAck message sending | alive sending =>
    cases same
    cases sending
  | _ => cases same

/-- A task of state disconnected returns, and leads to a read that no pending HIP precedes. -/
theorem scripted_disconnected {task : Task} {rest : List Task}
    (scripted : Scripted .disconnected (task :: rest)) :
    task = .stop ∧ rest = [.clearQueues, .read .disconnected] ∨
      task = .clearQueues ∧ rest = [.read .disconnected] ∨
      task = .read .disconnected ∧ rest = [] ∨ task = .notify .hipReceived ∧ rest = [] := by
  generalize same : task :: rest = script at scripted
  cases scripted <;> cases same
  · exact .inl ⟨rfl, rfl⟩
  · exact .inr (.inl ⟨rfl, rfl⟩)
  · exact .inr (.inr (.inl ⟨rfl, rfl⟩))
  · exact .inr (.inr (.inr ⟨rfl, rfl⟩))

/-- A task of a handler. -/
theorem Attentive.performs {task : Task} {rest : List Task} (attentive : device.Attentive)
    (sound : device.Sound) (script : device.script = some (task :: rest))
    (heedful : device.clears = true → .hipReceived ∉ device.data.events) :
    (device.performs setup task rest).Attentive := by
  intro awaits pending
  have inside : device.script ≠ none := by
    rw [script]
    exact Option.some_ne_none _
  have scripted := sound.scripted _ script
  have machine := device.performs_machine setup task rest (sound.first inside)
  have state : (device.performs setup task rest).state = device.state :=
    congrArg Machine.current machine
  have left := device.performs_data setup task rest
  rw [left] at pending
  have heard := perform_hip task device.data pending
  have onward := device.performs_script setup task rest
  have silent (notified : task = .notify .hipReceived) : rest = [] ∧
      (device.performs setup task rest).script = some [] := by
    subst notified
    obtain ⟨rfl, -⟩ := scripted_notify scripted
    exact ⟨rfl, rfl⟩
  rcases awaits with ⟨connected, reading⟩ | ⟨disconnected, reading⟩
  · rw [state] at connected
    rcases heard with before | notified
    · exact attentive (.inl ⟨connected, .inr ⟨task, rest, script⟩⟩) before
    · rw [(silent notified).2] at reading
      rcases reading with ⟨same, -⟩ | ⟨other, later, same⟩ <;> cases same
  · rw [state] at disconnected
    rw [disconnected] at scripted
    rcases scripted_disconnected scripted with ⟨rfl, rfl⟩ | ⟨rfl, rfl⟩ | ⟨rfl, rfl⟩ | ⟨rfl, rfl⟩
    · have goes : (device.performs setup .stop [.clearQueues, .read .disconnected]).script =
          some [.clearQueues, .read .disconnected] := rfl
      rw [goes] at reading
      rcases reading with ⟨same, -⟩ | same | same <;> cases same
    · have clears : device.clears = true := by
        unfold Device.clears
        rw [script]
      exact heard.elim (heedful clears) nofun
    · exact heard.elim (attentive (.inr ⟨disconnected, .inr (.inl script)⟩)) nofun
    · rw [(silent rfl).2] at reading
      rcases reading with ⟨same, -⟩ | same | same <;> cases same

/-- A check is made. -/
theorem Attentive.checked {party : Party τ} (sound : device.Sound) (script : device.script = none)
    (later : device.machine.position ≠ 0) (wakes : device.party.wakeup setup = some party) :
    (device.withParty party).Attentive := by
  intro awaits pending
  have heard : .hipReceived ∈ party.data.events := pending
  cases wakes_verdict (wakeup_wakes setup wakes sound.awake) later with
  | stays current nbLoop awake manager events reads received unheard ungreeted =>
    rw [events] at heard
    have state : (device.withParty party).state = device.state := current
    have first (reading : (device.withParty party).script = none ∧
        (device.withParty party).machine.position = 0) : party.machine.position = 0 := reading.2
    rcases awaits with ⟨connected, reading | ⟨task, rest, same⟩⟩ |
      ⟨disconnected, ⟨-, reading, -⟩ | same | same⟩
    · exact unheard (.inr (state.symm.trans connected)) reading.2 heard
    · exact absurd (script.symm.trans same) nofun
    · exact unheard (.inl (state.symm.trans disconnected)) reading heard
    · exact absurd (script.symm.trans same) nofun
    · exact absurd (script.symm.trans same) nofun
  | moves target entered manager reads received events route =>
    have machine : (device.withParty party).machine = .entered target := entered
    have state : (device.withParty party).state = target := by
      unfold Device.state
      rw [machine]
      rfl
    rcases awaits with ⟨connected, -⟩ | ⟨disconnected, ⟨-, -, more⟩ | same | same⟩
    · rw [state] at connected
      rcases route with ⟨same, -⟩ | ⟨same, -⟩ | ⟨-, connecting, kept⟩
      · exact absurd (connected.symm.trans same) nofun
      · exact absurd (connected.symm.trans same) nofun
      · exact sound.heedless connecting (kept.mp heard)
    · rw [machine] at more
      exact more rfl
    · exact absurd (script.symm.trans same) nofun
    · exact absurd (script.symm.trans same) nofun

/-- A handler begins. -/
theorem Attentive.begins (attentive : device.Attentive) (script : device.script = none)
    (first : device.machine.position = 0) : device.begins.Attentive := by
  intro awaits pending
  have heard : .hipReceived ∈ device.data.events := pending
  rcases awaits with ⟨connected, -⟩ | ⟨disconnected, reading⟩
  · exact attentive (.inl ⟨connected, .inl ⟨script, first⟩⟩) heard
  · by_cases none : device.machine.nbLoop = 0
    · have goes : device.begins.script = some [.stop, .clearQueues, .read .disconnected] := by
        change some (tasks device.state device.machine.begun.nbLoop) = _
        rw [Machine.begun, if_pos first, none, show device.state = .disconnected from disconnected]
        rfl
      rw [goes] at reading
      rcases reading with ⟨same, -⟩ | same | same <;> cases same
    · exact attentive (.inr ⟨disconnected, .inl ⟨script, first, none⟩⟩) heard

/-- A handler returns. -/
theorem Attentive.returns (sound : device.Sound) (script : device.script = some []) :
    (device.returns setup).Attentive := by
  intro awaits
  have inside : device.script ≠ none := by
    rw [script]
    exact Option.some_ne_none _
  have position : device.state = .connected ∨ device.state = .disconnected →
      (device.returns setup).machine.position = 1 := by
    intro state
    unfold Device.returns Machine.passed
    dsimp only
    rw [sound.first inside]
    rcases state with same | same
    · rw [same]
      rfl
    · rw [same]
      rfl
  rcases awaits with ⟨connected, ⟨-, first⟩ | ⟨task, rest, same⟩⟩ |
    ⟨disconnected, ⟨-, first, -⟩ | same | same⟩
  · rw [position (.inl connected)] at first
    contradiction
  · contradiction
  · rw [position (.inr disconnected)] at first
    contradiction
  · contradiction
  · contradiction

/-- What leaves the slave's thread and its events. -/
theorem Attentive.frame (attentive : device.Attentive) (machine : next.machine = device.machine)
    (script : next.script = device.script)
    (heard : .hipReceived ∈ next.data.events ↔ .hipReceived ∈ device.data.events) :
    next.Attentive := by
  have state : next.state = device.state := congrArg Machine.current machine
  intro reading
  rw [heard]
  unfold awaits at reading
  rw [script, machine, state] at reading
  exact attentive reading

/-- An act keeps a slave attentive. -/
theorem attentive_step [DecidableEq μ] {act : Act τ μ} (sound : device.Sound)
    (attentive : device.Attentive) (heedful : device.heedful act)
    (taken : device.step setup act = some next) : next.Attentive := by
  cases step_acts taken with
  | returned script => exact .returns sound script
  | performed task rest script => exact attentive.performs sound script heedful
  | begun script alive first => exact attentive.begins script first
  | checked party script alive later wakes => exact .checked sound script later wakes
  | ticked batch running => exact attentive.frame rfl rfl (device.party.hip_mem_ticked batch)
  | uncalled user blocks => exact attentive
  | called | used | changed | stopping | joined => exact attentive.frame rfl rfl Iff.rfl
  | started transport stopped =>
    intro awaits
    rcases awaits with ⟨connected, -⟩ | ⟨disconnected, -⟩ <;> contradiction

end Attentive

end Device

end Hdcp.Appli.Slave
