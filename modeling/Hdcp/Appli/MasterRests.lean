import Hdcp.Appli.MasterScripts

/-!
# When the thread of the master's manager rests

The master's thread is in a script of its state's handlers, or between the entries of its state.
Before the first session, in state disconnected once the first handler call stopped the manager, and
until a session has started it again, the manager's own thread does not run: it is out of its loop,
or the master's thread waits for that.
-/

namespace Hdcp.Appli.Master

open Base
open Hdcp.Master hiding State Event

variable {τ κ ι : Type}

namespace Host

/-- Between handler calls the manager's own thread rests. -/
def resting (host : Host τ κ ι) : Prop :=
  host.phase = .stopped ∨ host.state = .init ∨
    host.state = .disconnected ∧ host.machine.nbLoop ≠ 0 ∨
    host.state = .connecting ∧ host.machine.nbLoop = 0

/-- Where the master's thread is, and when the manager's does not run. -/
structure Sound (setup : Setup τ κ) (host : Host τ κ ι) : Prop where
  /-- It waits in state disconnected only. -/
  calm : Calm host.party
  /-- A script is that of the first entry. -/
  first : host.script ≠ none → host.machine.position = 0 ∧ host.machine.waiting = false
  /-- A wakeup counts from its first entry. -/
  counted : host.script ≠ none ∨ ¬ (host.machine.position = 0 ∧ host.machine.waiting = false) →
    host.machine.nbLoop ≠ 0
  /-- A stopped master is in no handler. -/
  alive : host.script ≠ none → host.phase ≠ .stopped
  /-- The script is one of the state's handlers. -/
  scripted : ∀ script, host.script = some script → ∃ resting,
    Scripted setup host.state resting script ∧ (resting = true → host.manager.running = false)
  /-- The manager's thread rests between handler calls as well. -/
  rests : host.script = none → host.resting → host.manager.running = false
  /-- A thread that does not run is out of its loop, or joined. -/
  idle : host.manager.running = false → host.timer = .idle ∨ host.place = .joining

section Steps

variable {setup : Setup τ κ}

/-- A master as constructed. -/
theorem sound_initial (transport : τ) : (initial transport : Host τ κ ι).Sound setup where
  calm := fun waits => by contradiction
  first := fun inside => absurd rfl inside
  counted := fun later => by
    rcases later with inside | later
    · exact absurd rfl inside
    · exact absurd ⟨rfl, rfl⟩ later
  alive := fun inside => absurd rfl inside
  scripted := fun script inside => by contradiction
  rests := fun _ _ => rfl
  idle := fun _ => .inl rfl

/-- The request manager after a task. -/
theorem performs_manager (setup : Setup τ κ) (host : Host τ κ ι) (task : Task κ)
    (rest : List (Task κ)) :
    (host.performs setup task rest).manager = (after (task.perform setup host.data)).manager := by
  unfold performs
  cases task.perform setup host.data with
  | ok more data => rfl
  | error error data =>
    obtain ⟨errc, same⟩ := caught_eq error data
    change (caught error data).manager = data.manager
    rw [same]
    rfl

/-- A task changes neither the state nor how often its handler was called. -/
theorem performs_machine (setup : Setup τ κ) (host : Host τ κ ι) (task : Task κ)
    (rest : List (Task κ))
    (first : host.machine.position = 0 ∧ host.machine.waiting = false) :
    (host.performs setup task rest).machine = host.machine := by
  unfold performs
  cases task.perform setup host.data with
  | ok more data => rfl
  | error error data =>
    dsimp only
    rw [← first.1]

/-- A task leaves the other threads where they are. -/
theorem performs_others (setup : Setup τ κ) (host : Host τ κ ι) (task : Task κ)
    (rest : List (Task κ)) :
    (host.performs setup task rest).timer = host.timer ∧
      (host.performs setup task rest).users = host.users ∧
      (host.performs setup task rest).phase = host.phase ∧
      (host.performs setup task rest).mark = host.marked task := by
  unfold performs
  cases task.perform setup host.data with
  | ok more data => exact ⟨rfl, rfl, rfl, rfl⟩
  | error error data => exact ⟨rfl, rfl, rfl, rfl⟩

namespace Sound

variable {host : Host τ κ ι}

/-- A place in the script of a master. -/
theorem placed (script : host.script = none) : host.place = .idle := by
  unfold place
  rw [script]

/-- A thread that rests while the master's does not join it is out of its loop. -/
theorem out (sound : host.Sound setup) (still : host.manager.running = false)
    (elsewhere : host.place ≠ .joining) : host.timer = .idle :=
  (sound.idle still).resolve_right elsewhere

/-- When the master's thread goes on, a thread that rests is out of its loop. -/
theorem ready (sound : host.Sound setup) (still : host.manager.running = false)
    (ready : host.crew.protocolReady = true) : host.timer = .idle := by
  rcases sound.idle still with out | joining
  · exact out
  · have protocol : host.crew.protocol = .joining := joining
    unfold Crew.protocolReady at ready
    rw [protocol] at ready
    cases timer : host.timer with
    | idle => rfl
    | _ =>
      have same : host.crew.timer = host.timer := rfl
      rw [same, timer] at ready
      contradiction

/-- What other threads do keeps the master's thread where it is. -/
theorem stirred (sound : host.Sound setup) (manager : Hdcp.Master.State τ κ)
    (timer : TimerStep κ) (users : ι → SendStep κ)
      (running : manager.running = host.manager.running)
    (out : host.timer = .idle → host.manager.running = false → timer = .idle) :
    (host.stirred manager timer users).Sound setup where
  calm := sound.calm
  first := sound.first
  counted := sound.counted
  alive := sound.alive
  scripted := fun script inside => by
    obtain ⟨resting, scripted, still⟩ := sound.scripted script inside
    exact ⟨resting, scripted, fun rests => running.trans (still rests)⟩
  rests := fun script rests => running.trans (sound.rests script rests)
  idle := fun still => by
    have before : host.manager.running = false := running.symm.trans still
    rcases sound.idle before with idle | joining
    · exact .inl (out idle before)
    · exact .inr joining

/-- A handler begins. -/
theorem begins (sound : host.Sound setup) (script : host.script = none)
    (alive : host.phase ≠ .stopped)
    (first : host.machine.position = 0 ∧ host.machine.waiting = false) :
    host.begins.Sound setup := by
  have counted : host.machine.begun.nbLoop = host.machine.nbLoop + 1 := by
    rw [Machine.begun, if_pos first.1]
  refine ⟨sound.calm, fun _ => first, ?_, fun _ => alive, ?_, nofun, ?_⟩
  · intro _
    have loops : host.begins.machine.nbLoop = host.machine.nbLoop + 1 := counted
    rw [loops]
    exact Nat.succ_ne_zero _
  · intro tasks same
    cases same
    obtain ⟨resting, scripted, rests⟩ :=
      @scripted_tasks _ _ setup host.state host.machine.begun.nbLoop
    refine ⟨resting, scripted, fun same => sound.rests script ?_⟩
    rw [counted] at rests
    rcases rests same with init | ⟨disconnected, later⟩ | ⟨connecting, once⟩
    · exact .inr (.inl init)
    · exact .inr (.inr (.inl ⟨disconnected, fun none => later (by rw [none])⟩))
    · exact .inr (.inr (.inr ⟨connecting, Nat.succ.inj once⟩))
  · intro still
    exact .inl (sound.out still (by rw [placed script]; exact nofun))

/-- A handler returns. -/
theorem returns (sound : host.Sound setup) (script : host.script = some []) :
    (host.returns setup).Sound setup := by
  have inside : host.script ≠ none := by
    rw [script]
    exact Option.some_ne_none _
  have counted : host.machine.nbLoop ≠ 0 := sound.counted (.inl inside)
  have state : (host.returns setup).state = host.state := by
    unfold Host.returns Host.state
    dsimp only
    split
    · rfl
    · rfl
  have loops : (host.returns setup).machine.nbLoop = host.machine.nbLoop := by
    unfold Host.returns
    dsimp only
    split
    · rfl
    · rfl
  refine ⟨?_, fun inside => absurd rfl inside, fun _ => loops.symm ▸ counted,
    fun inside => absurd rfl inside, fun script inside => by contradiction, ?_, ?_⟩
  · intro waits
    change (host.returns setup).machine.waiting = true at waits
    change (host.returns setup).machine.current = _ ∧ (host.returns setup).machine.position = 0
    unfold Host.returns at waits ⊢
    dsimp only at waits ⊢
    split
    · next sleeps => exact ⟨sleeps.1, (sound.first inside).1⟩
    · next awake =>
      rw [if_neg awake] at waits
      contradiction
  · intro _ rests
    obtain ⟨resting, scripted, still⟩ := sound.scripted [] script
    have same : (host.returns setup).manager = host.manager := rfl
    unfold Host.resting at rests
    rw [state, loops] at rests
    rw [same]
    generalize host.state = state at scripted rests
    cases scripted with
    | done =>
      apply still
      rcases rests with stopped | init | ⟨disconnected, -⟩ | ⟨-, none⟩
      · exact absurd stopped (sound.alive inside)
      · exact decide_eq_true (.inl init)
      · exact decide_eq_true (.inr disconnected)
      · exact absurd none counted
  · intro still
    have elsewhere : host.place ≠ .joining := by
      unfold Host.place
      rw [script]
      exact nofun
    exact .inl (sound.out still elsewhere)

/-- A check is made, or a wait ends. -/
theorem checked {party : Party τ κ} (sound : host.Sound setup) (script : host.script = none)
    (alive : host.phase ≠ .stopped)
    (later : ¬ (host.machine.position = 0 ∧ host.machine.waiting = false))
    (wakes : host.party.wakeup setup = some party) : (host.withParty party).Sound setup := by
  have counted : host.machine.nbLoop ≠ 0 := sound.counted (.inr later)
  have out (same : party.data.manager = host.manager) :
      party.data.manager.running = false → host.timer = .idle ∨ (host.withParty party).place =
        .joining := by
    rw [same]
    intro still
    exact .inl (sound.out still (by rw [placed script]; exact nofun))
  cases wakes_verdict (wakeup_wakes setup wakes sound.calm) later counted with
  | stays current nbLoop awake data =>
    have manager : party.data.manager = host.manager := congrArg Data.manager data
    refine ⟨?_, fun inside => absurd script inside, ?_, fun inside => absurd script inside, ?_, ?_,
      out manager⟩
    · intro waits
      have awake' : (host.withParty party).machine.waiting = false := awake
      exact absurd (awake'.symm.trans waits) Bool.false_ne_true
    · intro _
      exact fun none => counted (nbLoop.symm.trans none)
    · intro tasks same
      exact absurd (script.symm.trans same) nofun
    · intro _ rests
      have same : (host.withParty party).manager = host.manager := manager
      rw [same]
      refine sound.rests script ?_
      rcases rests with stopped | init | ⟨disconnected, more⟩ | ⟨connecting, none⟩
      · exact absurd stopped alive
      · exact .inr (.inl (current.symm.trans init))
      · exact .inr (.inr (.inl ⟨current.symm.trans disconnected, counted⟩))
      · exact absurd (nbLoop.symm.trans none) counted
  | moves target entered manager received events route =>
    have machine : (host.withParty party).machine = .entered target := entered
    have state : (host.withParty party).state = target := by
      unfold Host.state
      rw [machine]
      rfl
    have loops : (host.withParty party).machine.nbLoop = 0 := by
      rw [machine]
      rfl
    refine ⟨?_, fun inside => absurd script inside, ?_, fun inside => absurd script inside, ?_, ?_,
      out manager⟩
    · intro waits
      have awake : (host.withParty party).machine.waiting = false := by
        rw [machine]
        rfl
      exact absurd (awake.symm.trans waits) Bool.false_ne_true
    · intro moved
      rcases moved with inside | moved
      · exact absurd script inside
      · rw [machine] at moved
        exact absurd ⟨rfl, rfl⟩ moved
    · intro tasks same
      exact absurd (script.symm.trans same) nofun
    · intro _ rests
      have same : (host.withParty party).manager = host.manager := manager
      rw [same]
      unfold Host.resting at rests
      rw [state, loops] at rests
      rcases rests with stopped | init | ⟨-, more⟩ | ⟨connecting, -⟩
      · exact absurd stopped alive
      · rcases route with ⟨-, moved⟩ | ⟨-, -, moved⟩ | ⟨-, moved⟩ | ⟨-, moved, -⟩
        all_goals
          rw [init] at moved
          contradiction
      · exact absurd rfl more
      · rcases route with ⟨-, moved⟩ | ⟨before, -, -⟩ | ⟨-, moved⟩ | ⟨-, moved, -⟩
        · rw [connecting] at moved
          contradiction
        · exact sound.rests script (.inr (.inr (.inl ⟨before, counted⟩)))
        · rw [connecting] at moved
          contradiction
        · rw [connecting] at moved
          contradiction

/-- A task of a handler is performed. -/
theorem performs {task : Task κ} {rest : List (Task κ)} (sound : host.Sound setup)
    (script : host.script = some (task :: rest)) (ready : host.crew.protocolReady = true) :
    (host.performs setup task rest).Sound setup := by
  have inside : host.script ≠ none := by
    rw [script]
    exact Option.some_ne_none _
  have first := sound.first inside
  have machine := host.performs_machine setup task rest first
  obtain ⟨timer, -, phase, -⟩ := host.performs_others setup task rest
  have manager := host.performs_manager setup task rest
  obtain ⟨quiet, scripted, rests⟩ := sound.scripted _ script
  have state :
    (host.performs setup task rest).state = host.state := congrArg Machine.current machine
  have counted : (host.performs setup task rest).machine.nbLoop ≠ 0 := by
    rw [machine]
    exact sound.counted (.inl inside)
  have alive : (host.performs setup task rest).phase ≠ .stopped := by
    rw [phase]
    exact sound.alive inside
  refine ⟨?_, fun _ => by rw [machine]; exact first, fun _ => counted, fun _ => alive, ?_, ?_, ?_⟩
  · intro waits
    have awake : (host.performs setup task rest).machine.waiting = false := by
      rw [machine]
      exact first.2
    exact absurd (awake.symm.trans waits) Bool.false_ne_true
  · intro tasks same
    rw [state, manager]
    cases outcome : task.perform setup host.data with
    | ok more data =>
      unfold Host.performs at same
      rw [outcome] at same
      cases same
      exact scripted.next rfl outcome rests
    | error error data =>
      unfold Host.performs at same
      rw [outcome] at same
      contradiction
  · intro none resting
    cases outcome : task.perform setup host.data with
    | ok more data =>
      unfold Host.performs at none
      rw [outcome] at none
      contradiction
    | error error data =>
      have session := scripted.throws rfl outcome
      unfold Host.resting at resting
      rw [state] at resting
      rcases resting with stopped | init | ⟨disconnected, -⟩ | ⟨-, once⟩
      · exact absurd stopped alive
      · rw [init] at session
        rcases session with same | same <;> contradiction
      · rw [disconnected] at session
        rcases session with same | same <;> contradiction
      · exact absurd once counted
  · intro still
    rw [timer]
    rw [manager] at still
    by_cases stops : task = .operate .stop
    · subst stops
      by_cases running : host.manager.running = true
      · right
        have outcome : (Task.operate .stop : Task κ).perform setup host.data =
            .ok [.manage .joining]
              (host.data.withManager { host.data.manager with running := false }) := by
          have runs : host.data.manager.running = true := running
          rw [perform_operate]
          simp only [Operation.statement, bind_apply, get_apply, if_pos runs, modify_apply,
            pure_apply]
          rfl
        unfold Host.performs Host.place
        rw [outcome]
        rfl
      · exact .inl (sound.ready (Bool.eq_false_iff.mpr running) ready)
    · by_cases starts : task = .manage .startRun
      · subst starts
        contradiction
      · rw [perform_running task host.data stops starts] at still
        exact .inl (sound.ready still ready)

/-- The sound state of a master does not depend on its events and its transport, and the thread may
be asked to stop. -/
theorem frame {next : Host τ κ ι} (sound : host.Sound setup) (machine : next.machine = host.machine)
    (script : next.script = host.script) (timer : next.timer = host.timer)
    (running : next.manager.running = host.manager.running)
    (phase : next.phase = .stopped → host.phase = .stopped) : next.Sound setup := by
  have state : next.state = host.state := congrArg Machine.current machine
  have place : next.place = host.place := by
    unfold Host.place
    rw [script]
  refine ⟨?_, ?_, ?_, ?_, ?_, ?_, ?_⟩
  · intro waits
    change next.machine.waiting = true at waits
    change next.machine.current = _ ∧ next.machine.position = 0
    rw [machine] at waits ⊢
    exact sound.calm waits
  · rw [script, machine]
    exact sound.first
  · rw [script, machine]
    exact sound.counted
  · rw [script]
    exact fun inside stopped => sound.alive inside (phase stopped)
  · rw [script, state, running]
    exact sound.scripted
  · rw [script, running]
    unfold Host.resting
    rw [state, machine]
    exact fun none resting => sound.rests none (resting.imp_left phase)
  · rw [running, timer, place]
    exact sound.idle

end Sound

variable [DecidableEq ι]

/-- An act keeps a master sound. -/
theorem sound_step {host next : Host τ κ ι} {act : Act τ κ ι} (sound : host.Sound setup)
    (taken : host.step setup act = some next) : next.Sound setup := by
  cases step_acts taken with
  | returned script => exact sound.returns script
  | performed task rest script ready => exact sound.performs script ready
  | begun script alive first => exact sound.begins script alive first
  | checked party script alive later wakes => exact sound.checked script alive later wakes
  | took batch idle running perm =>
    refine sound.stirred _ _ _ rfl fun _ still => ?_
    exact absurd (running.symm.trans still) nofun
  | timed manager timer goes =>
    have does := host.timer.does setup.program rfl host.manager
    rcases goes with returned | ⟨error, thrown, rfl⟩
    · refine sound.stirred _ _ _ (does.1 _ _ returned).running fun idle _ => ?_
      rw [idle] at returned
      cases returned
      rfl
    · refine sound.stirred _ _ _ (does.2 _ _ thrown).running fun idle _ => ?_
      rw [idle] at thrown
      contradiction
  | called user type data cb connected idle => exact sound.stirred _ _ _ rfl fun idle _ => idle
  | uncalled user type data cb other => exact sound
  | used user manager send goes =>
    have does := @SendStep.does _ _ setup.environment False none rfl (host.users user) host.manager
    rcases goes with returned | ⟨error, thrown, rfl⟩
    · exact sound.stirred _ _ _ (does.1 _ _ returned).running fun idle _ => idle
    · exact sound.stirred _ _ _ (does.2 _ _ thrown).running fun idle _ => idle
  | signalled act events phase heard alive => exact sound.frame rfl rfl rfl rfl alive
  | changed transport => exact sound.frame rfl rfl rfl rfl fun same => same
  | joined transport script idle first =>
    refine ⟨sound.calm, sound.first, sound.counted, fun inside => absurd script inside, ?_,
      fun _ _ => rfl, fun _ => .inl idle⟩
    intro tasks inside
    exact absurd (script.symm.trans inside) nofun
  | started transport stopped =>
    have script : host.script = none := by
      by_cases none : host.script = none
      · exact none
      · exact absurd stopped (sound.alive none)
    have still : host.manager.running = false := sound.rests script (.inl stopped)
    refine ⟨fun waits => by contradiction, fun inside => absurd script inside, ?_,
      fun inside => absurd script inside, ?_, fun _ _ => still, ?_⟩
    · intro later
      rcases later with inside | later
      · exact absurd script inside
      · exact absurd ⟨rfl, rfl⟩ later
    · intro tasks inside
      exact absurd (script.symm.trans inside) nofun
    · exact fun _ => .inl (sound.out still (by rw [Sound.placed script]; exact nofun))

end Steps

end Host

end Hdcp.Appli.Master
