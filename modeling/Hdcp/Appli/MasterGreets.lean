import Hdcp.Appli.MasterSends
import Hdcp.Master.Carried

/-!
# What the master's queue says of a session

A command goes to the queue after a keepalive of its session, and a HIP begins the session once
more. Commands written again are commands, as requests carry nothing else.
-/

namespace Hdcp.Appli.Master

open Base
open Hdcp.Master hiding State Event

variable {κ ι : Type}

namespace Host

section Carries

variable {τ : Type} {setup : Setup τ κ} {host next : Host τ κ ι}

/-- The requests of a master, and those its threads are about to insert, are for commands. -/
structure Carries (host : Host τ κ ι) : Prop where
  /-- The requests are for commands. -/
  requests : Carried host.manager
  /-- What the timer thread writes again is one. -/
  timer : host.timer.Carries
  /-- What a call is about to insert is for one. -/
  users : ∀ user, (host.users user).Carries

/-- A master as constructed. -/
theorem carries_initial (transport : τ) : (initial transport : Host τ κ ι).Carries :=
  ⟨fun _ inside => absurd inside List.not_mem_nil, trivial, fun _ => trivial⟩

/-- A place that may write no command carries none. -/
theorem carries_of_commands {place : ProtocolStep κ} (none : place.commands = false) :
    place.Carries := by
  cases place with
  | acking callback =>
    obtain ⟨request, calls, send⟩ := callback
    cases send with
    | idle => exact trivial
    | _ => contradiction
  | _ => exact trivial

/-- A task keeps requests for commands. -/
theorem perform_carried {state : State} {resting : Bool} {task : Task κ} {rest : List (Task κ)}
    (scripted : Scripted setup state resting (task :: rest)) {data : Data τ κ}
    (carried : Carried data.manager) :
    Carried (after (task.perform setup data)).manager := by
  have deals := @perform_deals _ _ setup task data
  generalize (after (task.perform setup data)).manager = next at deals ⊢
  have goes {place : ProtocolStep κ} (commands : place.commands = false) :
      Carried (after (place.statement setup.program data.manager)) :=
    ProtocolStep.keeps_carried setup.program (carries_of_commands commands) data.manager carried
  cases deals with
  | leaves => exact carried
  | transports _ transport moves => exact carried
  | stops running => exact carried
  | operates operation begins held deed =>
    exact operation.keeps_carried setup.environment data.manager carried
  | starts place inside => exact goes (commands_of_scripted scripted)
  | manages place held deed => exact goes (commands_of_scripted scripted)

variable [DecidableEq ι] {act : Act τ κ ι}

/-- An act keeps requests for commands. -/
theorem carries_step (sound : host.Sound setup) (carries : host.Carries)
    (taken : host.step setup act = some next) : next.Carries := by
  cases step_acts taken with
  | performed task rest script ready =>
    obtain ⟨resting, scripted, -⟩ := sound.scripted _ script
    obtain ⟨timer, users, -, -⟩ := host.performs_others setup task rest
    refine ⟨?_, by rw [timer]; exact carries.timer, by rw [users]; exact carries.users⟩
    rw [performs_manager]
    exact perform_carried scripted carries.requests
  | checked party script alive later wakes =>
    have counted : host.machine.nbLoop ≠ 0 := sound.counted (.inr later)
    have same : party.data.manager = host.manager := by
      cases wakes_verdict (wakeup_wakes setup wakes sound.calm) later counted with
      | stays current nbLoop awake data => exact congrArg Data.manager data
      | moves target entered manager received events route => exact manager
    refine ⟨?_, carries.timer, carries.users⟩
    change Carried party.data.manager
    rw [same]
    exact carries.requests
  | took batch idle running perm => exact ⟨carries.requests, trivial, carries.users⟩
  | timed manager timer goes =>
    obtain ⟨returns, throws⟩ := TimerStep.carrying setup.program carries.timer _ carries.requests
    rcases goes with returned | ⟨error, thrown, rfl⟩
    · exact ⟨(returns _ _ returned).1, (returns _ _ returned).2, carries.users⟩
    · exact ⟨throws _ _ thrown, trivial, carries.users⟩
  | called user type data cb connected idle =>
    refine ⟨carries.requests, carries.timer, fun other => ?_⟩
    change (Function.update host.users user _ other).Carries
    by_cases same : other = user
    · rw [same, Function.update_self]
      exact trivial
    · rw [Function.update_of_ne same]
      exact carries.users other
  | used user manager send goes =>
    obtain ⟨returns, throws⟩ :=
      SendStep.carrying setup.environment (carries.users user) _ carries.requests
    have left : Carried manager ∧ send.Carries := by
      rcases goes with returned | ⟨error, thrown, rfl⟩
      · exact returns _ _ returned
      · exact ⟨throws _ _ thrown, trivial⟩
    refine ⟨left.1, carries.timer, fun other => ?_⟩
    change (Function.update host.users user send other).Carries
    by_cases same : other = user
    · rw [same, Function.update_self]
      exact left.2
    · rw [Function.update_of_ne same]
      exact carries.users other
  | uncalled => exact carries
  | returned | begun | signalled | changed | joined | started =>
    exact ⟨carries.requests, carries.timer, carries.users⟩

/-- An act leaves the mark, or moves it to what was written before. -/
theorem step_mark (taken : host.step setup act = some next) :
    next.mark = host.mark ∨ next.mark = (writes host.manager.outputs).length := by
  cases step_acts taken with
  | performed task rest script ready =>
    rw [(host.performs_others setup task rest).2.2.2]
    unfold marked
    split
    · exact .inr rfl
    · exact .inr rfl
    · exact .inl rfl
  | _ => exact .inl rfl

end Carries

section Greets

/-- What an act does to the queue, for a slave that waits for the first keepalive. -/
inductive Greets (host next : Host Queues κ ι) : Prop where
  /-- Nothing. -/
  | keeps (queue : next.queue = host.queue) (greeted : next.greeted → host.greeted)
  /-- A packet is written. -/
  | writes (message : Message) (queue : next.queue = host.queue ++ [message])
      (command : Command message → host.greeted)
      (greeted : next.greeted → host.greeted ∨ Keepalive message)
      (hip : Hip message → ¬ next.greeted)
  /-- The queues are cleared. -/
  | clears (queue : next.queue = []) (greeted : ¬ next.greeted)

variable [DecidableEq ι] {parties : Parties κ} {host next : Host Queues κ ι}
  {act : Act Queues κ ι}

omit [DecidableEq ι] in
/-- While nothing is written, no session is greeted that was not. -/
theorem greeted_of_written (mark : next.mark = host.mark ∨
      next.mark = (writes host.manager.outputs).length)
    (written : writes next.manager.outputs = writes host.manager.outputs)
    (greeted : next.greeted) : host.greeted := by
  rcases mark with same | ended
  · unfold Host.greeted at greeted ⊢
    rw [since_same same written] at greeted
    exact greeted
  · obtain ⟨message, inside, -⟩ := greeted
    unfold since at inside
    rw [ended, written, List.drop_length] at inside
    exact absurd inside List.not_mem_nil

/-- What an act of a polite master does to the queue. -/
theorem step_greets (sound : host.Sound parties.master) (carries : host.Carries)
    (polite : host.Polite) (later : next.Polite)
    (leaves : act.leaves host.manager.transport = true)
    (taken : host.step parties.master act = some next) : Greets host next := by
  have mark := step_mark taken
  have wrote (message : Message) (queue : next.queue = host.queue ++ [message])
      (written : writes next.manager.outputs = writes host.manager.outputs ++ [message])
      (hip : Hip message → next.mark = (writes host.manager.outputs).length) :
      Greets host next := by
    have announced := later.announced
    rcases mark with same | ended
    · have since := since_snoc polite.marked same written
      rw [since, announced_append] at announced
      refine .writes message queue ?_ ?_ ?_
      · exact fun command => (announced.2.1 command).resolve_left not_false
      · rintro ⟨other, inside, keepalive⟩
        rw [since] at inside
        rcases List.mem_append.mp inside with before | last
        · exact .inl ⟨other, before, keepalive⟩
        · obtain rfl := List.mem_singleton.mp last
          exact .inr keepalive
      · rintro typed ⟨other, inside, keepalive⟩
        unfold Host.since at inside
        rw [hip typed, written, List.drop_left] at inside
        obtain rfl := List.mem_singleton.mp inside
        exact absurd (typed.symm.trans keepalive) (by decide)
    · have since : next.since = [message] := by
        unfold Host.since
        rw [ended, written, List.drop_left]
      rw [since] at announced
      refine .writes message queue ?_ ?_ ?_
      · exact fun command => absurd (announced.1 command) not_false
      · rintro ⟨other, inside, keepalive⟩
        rw [since] at inside
        obtain rfl := List.mem_singleton.mp inside
        exact .inr keepalive
      · rintro typed ⟨other, inside, keepalive⟩
        rw [since] at inside
        obtain rfl := List.mem_singleton.mp inside
        exact absurd (typed.symm.trans keepalive) (by decide)
  cases step_sends sound leaves taken with
  | keeps held number queue written | takes thread acts takes free held number queue written
  | unmade thread id acts holds held number queue written fails
  | restarts rest script held number queue written =>
    exact .keeps queue (greeted_of_written mark written)
  | writes thread message acts holds held number queue written hip =>
    exact wrote message queue written hip
  | repeats message acts repeating held number queue written =>
    have command := TimerStep.command_of_repeats carries.timer repeating
    refine wrote message queue written fun hip => ?_
    exact absurd (hip.symm.trans command) (by decide)
  | clears clears held number queue written ended =>
    refine .clears queue ?_
    rintro ⟨message, inside, -⟩
    unfold since at inside
    rw [ended, written, List.drop_length] at inside
    exact absurd inside List.not_mem_nil

end Greets

end Host

end Hdcp.Appli.Master
