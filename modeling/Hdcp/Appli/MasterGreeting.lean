import Hdcp.Appli.MasterRests
import Hdcp.Base.Streams
import Hdcp.Master.Commandless

/-!
# The first keepalive of a session

A session begins where the master clears the queues. From there to the first keepalive no call of
`send_command` may be in flight and no timer may write a command again: then no command is written
before the keepalive. A HIP opens the session once more.
-/

namespace Hdcp.Appli.Master

open Base
open Hdcp.Master hiding State Event

variable {τ κ ι : Type}

/-- The scripts of state connecting before `start` clears the timers. -/
inductive Uncleared : List (Task κ) → Prop where
  | start : Uncleared (.operate .start :: afterStart)
  | requests : Uncleared (.manage .startRequests :: afterStart)
  | timers : Uncleared (.manage .startTimers :: afterStart)

namespace Host

/-- The packets written since the queues were cleared, or since the last HIP. -/
def since (host : Host τ κ ι) : List Message := (writes host.manager.outputs).drop host.mark

/-- A keepalive was written in the session. -/
def greeted (host : Host τ κ ι) : Prop := ∃ message ∈ host.since, Keepalive message

instance (host : Host τ κ ι) : Decidable host.greeted := by
  unfold greeted
  infer_instance

/-- The master's thread clears the queues next. -/
def clears (host : Host τ κ ι) : Bool :=
  match host.script with
  | some (.clearQueues :: _) => true
  | _ => false

/-- No call of `send_command` is in flight. -/
def unused (host : Host τ κ ι) : Prop := ∀ user, (host.users user).ended = true

instance [Fintype ι] (host : Host τ κ ι) : Decidable host.unused := by
  unfold unused
  infer_instance

/-- A call passes the test of `state()` only after the keepalive of the session, and no call is in
flight where a session begins. -/
def civil (host : Host τ κ ι) : Act τ κ ι → Prop
  | .call _ _ _ _ => host.state = .connected → host.greeted
  | .protocol => host.clears = true → host.unused
  | _ => True

instance [Fintype ι] (host : Host τ κ ι) (act : Act τ κ ι) : Decidable (host.civil act) := by
  cases act <;> unfold civil <;> infer_instance

/-- Nothing writes a command, unless a call passes the test of `state()`. -/
structure Quiet (host : Host τ κ ι) : Prop where
  /-- No call of `send_command` is in flight. -/
  users : ∀ user, host.users user = .idle
  /-- The timer thread is outside `cmd_timeout_cb`. -/
  timer : host.timer.Commandless
  /-- No timer is bound to `cmd_timeout_cb`, or `start` is going to clear the timers. -/
  timers : (∃ script, host.script = some script ∧ Uncleared script) ∨
    Commandless host.manager.timeoutQueue

/-- The session is still to begin. -/
def unopened (host : Host τ κ ι) : Prop := host.machine.nbLoop = 0 ∨ host.script = some opening

/-- No command comes before the first keepalive of its session, and none can. -/
structure Polite (host : Host τ κ ι) : Prop where
  /-- What was written since the mark is at the end. -/
  marked : host.mark ≤ (writes host.manager.outputs).length
  /-- No command was written before the first keepalive. -/
  announced : Announced Keepalive Command False host.since
  /-- Before the first keepalive nothing writes commands. -/
  hushed : host.greeted ∨ host.Quiet
  /-- Nothing does in a session that is not connected. -/
  awaits : host.state = .connecting → host.unopened ∨ host.Quiet

/-- What an act that writes nothing leaves: the threads, the packets and the timers. -/
structure Frames (host next : Host τ κ ι) : Prop where
  /-- The users are where they were. -/
  users : next.users = host.users
  /-- The timer thread is where it was. -/
  timer : next.timer = host.timer
  /-- The session is the same. -/
  mark : next.mark = host.mark
  /-- Nothing is written. -/
  outputs : next.manager.outputs = host.manager.outputs
  /-- No timer comes or goes. -/
  timers : next.manager.timeoutQueue = host.manager.timeoutQueue
  /-- A handler that is going to clear the timers goes on. -/
  script : ∀ tasks, host.script = some tasks → next.script = some tasks ∨ ¬ Uncleared tasks
  /-- In state connecting the session is still to begin, or it had begun. -/
  awaits : next.state = .connecting → next.unopened ∨ host.state = .connecting ∧ ¬ host.unopened

/-- What an act that neither writes nor enters a state leaves. -/
structure Idles (host next : Host τ κ ι) : Prop extends Frames host next where
  /-- No state is reported. -/
  statuses : next.data.statuses = host.data.statuses
  /-- State connected is not entered. -/
  apart : host.state ≠ .connected → next.state ≠ .connected

section Written

variable {host next : Host τ κ ι}

/-- What is written goes to the end of the session's packets. -/
theorem since_snoc {message : Message} (marked : host.mark ≤ (writes host.manager.outputs).length)
    (mark : next.mark = host.mark)
    (written : writes next.manager.outputs = writes host.manager.outputs ++ [message]) :
    next.since = host.since ++ [message] := by
  unfold since
  rw [mark, written, List.drop_append_of_le_length marked]

/-- As long as nothing is written the session's packets stay. -/
theorem since_same (mark : next.mark = host.mark)
    (written : writes next.manager.outputs = writes host.manager.outputs) :
    next.since = host.since := by
  unfold since
  rw [mark, written]

/-- What grows stays marked. -/
theorem marked_grows (marked : host.mark ≤ (writes host.manager.outputs).length)
    (mark : next.mark = host.mark) (grows : Grows host.manager next.manager) :
    next.mark ≤ (writes next.manager.outputs).length := by
  rw [mark]
  rcases grows with same | ⟨message, written⟩
  · rw [same]
    exact marked
  · rw [written, List.length_append]
    exact Nat.le_add_right_of_le marked

/-- A keepalive stays written. -/
theorem greeted_grows (marked : host.mark ≤ (writes host.manager.outputs).length)
    (mark : next.mark = host.mark) (grows : Grows host.manager next.manager)
    (greeted : host.greeted) : next.greeted := by
  obtain ⟨message, inside, keepalive⟩ := greeted
  refine ⟨message, ?_, keepalive⟩
  rcases grows with same | ⟨other, written⟩
  · rw [since_same mark same]
    exact inside
  · rw [since_snoc marked mark written]
    exact List.mem_append_left _ inside

/-- After the first keepalive everything may be written. -/
theorem announced_grows (marked : host.mark ≤ (writes host.manager.outputs).length)
    (announced : Announced Keepalive Command False host.since)
    (mark : next.mark = host.mark) (grows : Grows host.manager next.manager)
    (greeted : host.greeted) : Announced Keepalive Command False next.since := by
  rcases grows with same | ⟨other, written⟩
  · rw [since_same mark same]
    exact announced
  · rw [since_snoc marked mark written]
    exact announced.snoc fun _ => .inr greeted

/-- Packets that are no commands may be written at any time. -/
theorem announced_spares (marked : host.mark ≤ (writes host.manager.outputs).length)
    (announced : Announced Keepalive Command False host.since)
    (mark : next.mark = host.mark) (spares : Spares host.manager next.manager) :
    Announced Keepalive Command False next.since := by
  rcases spares.written with same | ⟨other, plain, written⟩
  · rw [since_same mark same]
    exact announced
  · rw [since_snoc marked mark written]
    exact announced.snoc fun command => absurd command plain

/-- A session that begins, or its HIP, is no command. -/
theorem announced_marked (mark : next.mark = (writes host.manager.outputs).length)
    (spares : Spares host.manager next.manager) :
    next.mark ≤ (writes next.manager.outputs).length ∧
      Announced Keepalive Command False next.since := by
  unfold since
  rw [mark]
  rcases spares.written with same | ⟨other, plain, written⟩
  · rw [same, List.drop_length]
    exact ⟨Nat.le_refl _, trivial⟩
  · rw [written, List.drop_left, List.length_append]
    exact ⟨Nat.le_add_right _ _, fun command => absurd command plain, trivial⟩

end Written

section Steps

variable {setup : Setup τ κ}

/-- A place of the protocol thread in a script writes no command. -/
theorem commands_of_scripted {state : State} {resting : Bool} {place : ProtocolStep κ}
    {rest : List (Task κ)} (scripted : Scripted setup state resting (.manage place :: rest)) :
    place.commands = false := by
  generalize same : Task.manage place :: rest = script at scripted
  cases scripted with
  | acknowledging other inside =>
    cases same
    cases place with
    | acking callback =>
      change (!callback.send.ended) = false
      rw [inside.2]
      rfl
    | _ => rfl
  | starting other inside | identifying other inside | managing other inside =>
    cases same
    cases place with
    | acking callback => contradiction
    | _ => rfl
  | _ => cases same <;> rfl

/-- The queues are cleared where a session begins. -/
theorem scripted_clears {state : State} {resting : Bool} {rest : List (Task κ)}
    (scripted : Scripted setup state resting (.clearQueues :: rest)) :
    resting = true ∧ rest = .operate .start :: afterStart := by
  generalize same : Task.clearQueues :: rest = script at scripted
  cases scripted with
  | opening =>
    cases same
    exact ⟨rfl, rfl⟩
  | _ => cases same

/-- A session starts a manager whose thread rests. -/
theorem scripted_starts {state : State} {resting : Bool} {rest : List (Task κ)}
    (scripted : Scripted setup state resting (.operate .start :: rest)) : resting = true := by
  generalize same : Task.operate .start :: rest = script at scripted
  cases scripted with
  | start => rfl
  | _ => cases same

/-- Until `start` returns the manager's thread rests. -/
theorem scripted_resumes {state : State} {resting : Bool} {place : ProtocolStep κ}
    {rest : List (Task κ)} (scripted : Scripted setup state resting (.manage place :: rest))
    (starting : place.starting = true) : resting = true := by
  generalize same : Task.manage place :: rest = script at scripted
  cases scripted with
  | starting => rfl
  | joining => rfl
  | identifying other inside | managing other inside | acknowledging other inside =>
    cases same
    cases place <;> contradiction
  | _ => cases same

/-- A HIP is written in state connecting. -/
theorem scripted_hipWrite {state : State} {resting : Bool} {packetId : UInt16}
    {identification : Identification} {timeout : Nat} {rest : List (Task κ)}
    (scripted : Scripted setup state resting
      (.manage (.hipWrite packetId identification timeout) :: rest)) : state = .connecting := by
  generalize same : Task.manage (.hipWrite packetId identification timeout) :: rest = script
    at scripted
  cases scripted with
  | identifying => rfl
  | starting place inside | managing place inside | acknowledging place inside =>
    cases same
    contradiction
  | _ => cases same

/-- A task of a script writes no command. -/
theorem perform_spares {state : State} {resting : Bool} {task : Task κ} {rest : List (Task κ)}
    (scripted : Scripted setup state resting (task :: rest)) (data : Data τ κ) :
    Spares data.manager (after (task.perform setup data)).manager := by
  have deals := @perform_deals _ _ setup task data
  generalize (after (task.perform setup data)).manager = next at deals ⊢
  cases deals with
  | leaves => exact .refl _
  | transports _ transport moves => exact ⟨.inl rfl, fun before => before⟩
  | stops running => exact ⟨.inl rfl, fun before => before⟩
  | operates operation begins held deed => exact deed.spares not_false
  | starts place inside =>
    cases place with
    | startTimers => exact ⟨.inl rfl, fun _ timer inside => absurd inside List.not_mem_nil⟩
    | startRequests | startNow | startNumber | startFlag | startRun =>
      exact ⟨.inl rfl, fun before => before⟩
    | _ => contradiction
  | manages place held deed =>
    exact deed.spares (Bool.eq_false_iff.mp (commands_of_scripted scripted))

variable {host : Host τ κ ι} {task : Task κ} {rest : List (Task κ)}

/-- A task writes no command. -/
theorem performs_spares (sound : host.Sound setup) (script : host.script = some (task :: rest)) :
    Spares host.manager (host.performs setup task rest).manager := by
  obtain ⟨resting, scripted, -⟩ := sound.scripted _ script
  rw [performs_manager]
  exact perform_spares scripted host.data

/-- `start` goes on until it has cleared the timers. -/
theorem uncleared_performs (uncleared : Uncleared (task :: rest)) (sound : host.Sound setup)
    (script : host.script = some (task :: rest)) :
    (∃ tasks, (host.performs setup task rest).script = some tasks ∧ Uncleared tasks) ∨
      (host.performs setup task rest).manager.timeoutQueue.timers = [] := by
  obtain ⟨resting, scripted, rests⟩ := sound.scripted _ script
  cases uncleared with
  | start =>
    refine .inl ⟨.manage .startRequests :: afterStart, ?_, .requests⟩
    have still : host.data.manager.running = false := rests (scripted_starts scripted)
    have outcome : (Task.operate .start : Task κ).perform setup host.data =
        .ok [.manage .startRequests] host.data := by
      rw [perform_operate]
      simp only [Operation.statement, bind_apply, get_apply, still, Bool.false_eq_true,
        ↓reduceIte, pure_apply]
      rfl
    unfold Host.performs
    rw [outcome]
    rfl
  | requests => exact .inl ⟨_, rfl, .timers⟩
  | timers => exact .inr rfl

/-- Where the queues are cleared and no call is in flight, nothing but `start` goes on. -/
theorem performs_clears (sound : host.Sound setup)
    (script : host.script = some (.clearQueues :: rest)) (ready : host.crew.protocolReady = true)
    (unused : host.unused) :
    (∀ user, (host.performs setup .clearQueues rest).users user = .idle) ∧
      (host.performs setup .clearQueues rest).timer = .idle ∧
        ∃ tasks, (host.performs setup .clearQueues rest).script = some tasks ∧
          Uncleared tasks := by
  obtain ⟨resting, scripted, rests⟩ := sound.scripted _ script
  obtain ⟨timer, users, -, -⟩ := host.performs_others setup .clearQueues rest
  obtain ⟨resting, rfl⟩ := scripted_clears scripted
  refine ⟨fun user => ?_, ?_, _, rfl, .start⟩
  · rw [users]
    have ended := unused user
    cases place : host.users user with
    | idle => rfl
    | _ =>
      rw [place] at ended
      contradiction
  · have still : host.manager.running = false := rests resting
    rw [timer, sound.ready still ready]

/-- A manager that runs has cleared its timers. -/
theorem not_uncleared (sound : host.Sound setup) (running : host.manager.running = true) :
    ¬ ∃ tasks, host.script = some tasks ∧ Uncleared tasks := by
  rintro ⟨tasks, same, uncleared⟩
  obtain ⟨resting, scripted, rests⟩ := sound.scripted _ same
  have still : host.manager.running = false := by
    cases uncleared with
    | start => exact rests (scripted_starts scripted)
    | requests | timers => exact rests (scripted_resumes scripted rfl)
  cases running.symm.trans still

/-- A task keeps a quiet master quiet. -/
theorem Quiet.performs (quiet : host.Quiet) (sound : host.Sound setup)
    (script : host.script = some (task :: rest)) : (host.performs setup task rest).Quiet := by
  have spares := performs_spares sound script
  obtain ⟨timer, users, -, -⟩ := host.performs_others setup task rest
  refine ⟨by rw [users]; exact quiet.users, by rw [timer]; exact quiet.timer, ?_⟩
  rcases quiet.timers with ⟨tasks, same, uncleared⟩ | none
  · rw [script] at same
    cases same
    refine (uncleared_performs uncleared sound script).imp_right fun empty timer inside => ?_
    rw [empty] at inside
    contradiction
  · exact .inr (spares.timers none)

/-- A task of a handler is performed. -/
theorem Polite.performs (polite : host.Polite) (sound : host.Sound setup)
    (script : host.script = some (task :: rest)) (ready : host.crew.protocolReady = true)
    (unused : host.clears = true → host.unused) : (host.performs setup task rest).Polite := by
  have inside : host.script ≠ none := by
    rw [script]
    exact Option.some_ne_none _
  have counted : host.machine.nbLoop ≠ 0 := sound.counted (.inl inside)
  have spares := performs_spares sound script
  have state : (host.performs setup task rest).state = host.state :=
    congrArg Machine.current (host.performs_machine setup task rest (sound.first inside))
  obtain ⟨-, -, -, mark⟩ := host.performs_others setup task rest
  obtain ⟨resting, scripted, -⟩ := sound.scripted _ script
  have awaits (open' : host.script ≠ some opening) (connecting : host.state = .connecting) :
      (host.performs setup task rest).Quiet := by
    rcases polite.awaits connecting with (none | first) | quiet
    · exact absurd none counted
    · exact absurd first open'
    · exact quiet.performs sound script
  have going (open' : host.script ≠ some opening)
      (kept : (host.performs setup task rest).mark = host.mark) :
      (host.performs setup task rest).Polite := by
    refine ⟨marked_grows polite.marked kept spares.grows,
      announced_spares polite.marked polite.announced kept spares, ?_, ?_⟩
    · rcases polite.hushed with greeted | quiet
      · exact .inl (greeted_grows polite.marked kept spares.grows greeted)
      · exact .inr (quiet.performs sound script)
    · exact fun connecting => .inr (awaits open' (state.symm.trans connecting))
  cases task with
  | clearQueues =>
    obtain ⟨users, timer, uncleared⟩ :=
      performs_clears sound script ready (unused (by unfold clears; rw [script]))
    have quiet : (host.performs setup .clearQueues rest).Quiet :=
      ⟨users, by rw [timer]; exact trivial, .inl uncleared⟩
    obtain ⟨marked, announced⟩ := announced_marked mark spares
    exact ⟨marked, announced, .inr quiet, fun _ => .inr quiet⟩
  | manage place =>
    have open' : host.script ≠ some opening := by
      rw [script]
      intro same
      cases same
    cases place with
    | hipWrite packetId identification timeout =>
      have quiet := awaits open' (scripted_hipWrite scripted)
      obtain ⟨marked, announced⟩ := announced_marked mark spares
      exact ⟨marked, announced, .inr quiet, fun _ => .inr quiet⟩
    | _ => exact going open' mark
  | _ =>
    refine going ?_ mark
    rw [script]
    intro same
    cases same

/-- What leaves the threads and the packets leaves a master polite. -/
theorem Polite.frame {next : Host τ κ ι} (polite : host.Polite) (frames : host.Frames next) :
    next.Polite := by
  have since : next.since = host.since := since_same frames.mark (by rw [frames.outputs])
  have still (quiet : host.Quiet) : next.Quiet := by
    refine ⟨by rw [frames.users]; exact quiet.users, by rw [frames.timer]; exact quiet.timer, ?_⟩
    rw [frames.timers]
    rcases quiet.timers with ⟨tasks, same, uncleared⟩ | none
    · exact .inl ⟨tasks, (frames.script tasks same).resolve_right (absurd uncleared), uncleared⟩
    · exact .inr none
  refine ⟨?_, ?_, ?_, ?_⟩
  · rw [frames.mark, frames.outputs]
    exact polite.marked
  · rw [since]
    exact polite.announced
  · unfold greeted
    rw [since]
    exact polite.hushed.imp_right still
  · intro connecting
    rcases frames.awaits connecting with fresh | ⟨before, begun⟩
    · exact .inl fresh
    · exact .inr (still ((polite.awaits before).resolve_left begun))

/-- Another thread executes a statement. -/
theorem Polite.stirred (polite : host.Polite) (manager : Hdcp.Master.State τ κ)
    (timer : TimerStep κ) (users : ι → SendStep κ) (grows : Grows host.manager manager)
    (quiet : host.Quiet → Spares host.manager manager ∧ (host.stirred manager timer users).Quiet) :
    (host.stirred manager timer users).Polite := by
  refine ⟨marked_grows polite.marked rfl grows, ?_, ?_, ?_⟩
  · rcases polite.hushed with greeted | still
    · exact announced_grows polite.marked polite.announced rfl grows greeted
    · exact announced_spares polite.marked polite.announced rfl (quiet still).1
  · rcases polite.hushed with greeted | still
    · exact .inl (greeted_grows polite.marked rfl grows greeted)
    · exact .inr (quiet still).2
  · intro connecting
    exact (polite.awaits connecting).imp_right fun still => (quiet still).2

/-- A check leaves the threads, the packets and the timers. -/
theorem frames_checked {party : Party τ κ} (sound : host.Sound setup) (script : host.script = none)
    (later : ¬ (host.machine.position = 0 ∧ host.machine.waiting = false))
    (manager : (host.withParty party).manager = host.manager)
    (leads : party.machine.current = host.machine.current ∨
      ∃ target, party.machine = .entered target) : host.Frames (host.withParty party) where
  users := rfl
  timer := rfl
  mark := rfl
  outputs := by rw [manager]
  timers := by rw [manager]
  script := fun tasks same => by
    rw [script] at same
    contradiction
  awaits := fun connecting => by
    rcases leads with current | ⟨target, entered⟩
    · refine .inr ⟨current.symm.trans connecting, ?_⟩
      rintro (none | first)
      · exact sound.counted (.inr later) none
      · rw [script] at first
        contradiction
    · refine .inl (.inl ?_)
      change party.machine.nbLoop = 0
      rw [entered]
      rfl

/-- A check is made, or a wait ends. -/
theorem Polite.checked {party : Party τ κ} (polite : host.Polite) (sound : host.Sound setup)
    (script : host.script = none)
    (later : ¬ (host.machine.position = 0 ∧ host.machine.waiting = false))
    (wakes : host.party.wakeup setup = some party) : (host.withParty party).Polite := by
  cases wakes_verdict (wakeup_wakes setup wakes sound.calm) later (sound.counted (.inr later)) with
  | stays current nbLoop awake data =>
    exact polite.frame (frames_checked sound script later (congrArg Data.manager data)
      (.inl current))
  | moves target entered manager received events route =>
    exact polite.frame (frames_checked sound script later manager (.inr ⟨target, entered⟩))

/-! ### Acts that neither write nor enter a state -/

variable {next : Host τ κ ι}

/-- Nothing of a handler changes. -/
theorem idles_of_same (machine : next.machine = host.machine) (script : next.script = host.script)
    (users : next.users = host.users) (timer : next.timer = host.timer)
    (mark : next.mark = host.mark) (outputs : next.manager.outputs = host.manager.outputs)
    (timers : next.manager.timeoutQueue = host.manager.timeoutQueue)
    (statuses : next.data.statuses = host.data.statuses) : host.Idles next := by
  have state : next.state = host.state := congrArg Machine.current machine
  refine ⟨⟨users, timer, mark, outputs, timers, fun _ same => .inl (script.trans same), ?_⟩,
    statuses, fun apart => state ▸ apart⟩
  intro connecting
  unfold unopened
  rw [machine, script]
  exact or_iff_not_imp_left.mpr fun begun => ⟨state.symm.trans connecting, begun⟩

/-- A handler returns. -/
theorem idles_returned (sound : host.Sound setup) (script : host.script = some []) :
    host.Idles (host.returns setup) := by
  have inside : host.script ≠ none := by
    rw [script]
    exact Option.some_ne_none _
  have state : (host.returns setup).state = host.state := by
    unfold Host.returns Host.state
    dsimp only
    split
    · rfl
    · rfl
  refine ⟨⟨rfl, rfl, rfl, rfl, rfl, ?_, ?_⟩, rfl, fun apart => state ▸ apart⟩
  · intro tasks same
    rw [script] at same
    cases same
    exact .inr fun uncleared => by cases uncleared
  · intro connecting
    refine .inr ⟨state.symm.trans connecting, ?_⟩
    rintro (none | first)
    · exact sound.counted (.inl inside) none
    · rw [script] at first
      cases first

/-- A handler begins. -/
theorem idles_begun (script : host.script = none)
    (first : host.machine.position = 0 ∧ host.machine.waiting = false) :
    host.Idles host.begins := by
  refine ⟨⟨rfl, rfl, rfl, rfl, rfl, ?_, ?_⟩, rfl, fun apart => apart⟩
  · intro tasks same
    rw [script] at same
    contradiction
  · intro connecting
    have before : host.state = .connecting := connecting
    by_cases fresh : host.machine.nbLoop = 0
    · refine .inl (.inr ?_)
      have loops : host.machine.begun.nbLoop = 1 := by
        rw [Machine.begun, if_pos first.1, fresh]
      unfold Host.begins
      dsimp only
      rw [before, loops]
      rfl
    · refine .inr ⟨before, ?_⟩
      rintro (again | opened)
      · exact fresh again
      · rw [script] at opened
        contradiction

/-- The master is started. -/
theorem idles_started (transport : τ) : host.Idles
    { host.withTransport transport with machine := .entered .init, phase := .running } :=
  ⟨⟨rfl, rfl, rfl, rfl, rfl, fun _ same => .inl same, fun connecting => by contradiction⟩, rfl,
    fun _ connected => by contradiction⟩

/-- A user in no call does nothing. -/
theorem used_idle [DecidableEq ι] {user : ι} {manager : Hdcp.Master.State τ κ} {send : SendStep κ}
    (idle : ∀ user, host.users user = .idle)
    (goes : (host.users user).statement setup.environment host.manager = .ok send manager ∨
      ∃ error, (host.users user).statement setup.environment host.manager = .error error manager ∧
        send = .idle) :
    manager = host.manager ∧ Function.update host.users user send = host.users := by
  rw [idle user] at goes
  rcases goes with returned | ⟨error, thrown, -⟩
  · cases returned
    refine ⟨rfl, ?_⟩
    rw [← idle user]
    exact Function.update_eq_self user host.users
  · contradiction

variable [DecidableEq ι] {act : Act τ κ ι}

/-- An act that keeps to the rules leaves a master polite. -/
theorem polite_step (sound : host.Sound setup) (polite : host.Polite) (civil : host.civil act)
    (taken : host.step setup act = some next) : next.Polite := by
  cases step_acts taken with
  | returned script => exact polite.frame (idles_returned sound script).toFrames
  | performed task rest script ready => exact polite.performs sound script ready civil
  | begun script alive first => exact polite.frame (idles_begun script first).toFrames
  | checked party script alive later wakes => exact polite.checked sound script later wakes
  | took batch idle running perm =>
    refine polite.stirred _ _ _ (.inl rfl) fun quiet => ?_
    have commandless := quiet.timers.resolve_left (not_uncleared sound running)
    refine ⟨⟨.inl rfl, fun before => before.advance _⟩, quiet.users, ?_, ?_⟩
    · exact commandless.expired perm
    · exact .inr (commandless.advance _)
  | timed manager timer goes =>
    obtain ⟨held, deed⟩ := timed_deed goes
    refine polite.stirred _ _ _ deed.grows fun quiet => ?_
    have spares : Spares host.manager manager :=
      deed.spares (by rw [TimerStep.commands_of_commandless quiet.timer]; exact Bool.false_ne_true)
    refine ⟨spares, quiet.users, ?_, quiet.timers.imp_right spares.timers⟩
    rcases goes with returned | ⟨error, -, rfl⟩
    · exact TimerStep.commandless_next setup.program quiet.timer _ _ _ returned
    · exact trivial
  | called user type data cb connected idle =>
    have greeted : host.greeted := civil connected
    refine ⟨polite.marked, polite.announced, .inl greeted, fun connecting => ?_⟩
    have same : host.state = .connecting := connecting
    rw [connected] at same
    contradiction
  | uncalled user type data cb other => exact polite
  | used user manager send goes =>
    obtain ⟨held, deed⟩ := used_deed goes
    refine polite.stirred _ _ _ deed.grows fun quiet => ?_
    obtain ⟨rfl, same⟩ := used_idle quiet.users goes
    rw [same]
    exact ⟨.refl _, quiet.users, quiet.timer, quiet.timers⟩
  | signalled act events phase heard alive =>
    exact polite.frame (Idles.toFrames (idles_of_same rfl rfl rfl rfl rfl rfl rfl rfl))
  | changed transport =>
    exact polite.frame (Idles.toFrames (idles_of_same rfl rfl rfl rfl rfl rfl rfl rfl))
  | joined transport script idle first =>
    exact polite.frame (Idles.toFrames (idles_of_same rfl rfl rfl rfl rfl rfl rfl rfl))
  | started transport stopped => exact polite.frame (idles_started transport).toFrames

omit [DecidableEq ι] in
/-- A master as constructed is polite. -/
theorem polite_initial (transport : τ) : (initial transport : Host τ κ ι).Polite where
  marked := Nat.le_refl 0
  announced := trivial
  hushed := .inr ⟨fun _ => rfl, trivial, .inr fun timer inside => absurd inside List.not_mem_nil⟩
  awaits := fun connecting => by contradiction

end Steps

end Host

end Hdcp.Appli.Master
