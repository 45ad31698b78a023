import Hdcp.Appli.MasterSends

/-!
# What an act of the master does to the packets to read

On queues that never fail the master's thread reads the oldest packet at the end of a handler of
state connecting or connected, and clears the queues where a session begins. Nothing else is read
or lost.
-/

namespace Hdcp.Appli.Master

open Base
open Hdcp.Master hiding State Event

variable {κ ι : Type}

/-- What an act does to the packets read. -/
inductive Fetches (host next : Host Queues κ ι) : Prop where
  /-- Nothing. -/
  | keeps (queue : next.manager.transport.readQueue = host.manager.transport.readQueue)
      (reads : next.data.reads = host.data.reads)
  /-- The oldest packet is read. -/
  | takes (message : Message) (script : host.script = some [.read host.state])
      (queue : host.manager.transport.readQueue = message :: next.manager.transport.readQueue)
      (reads : next.data.reads = host.data.reads ++ [(host.state, message)])
  /-- The queues are cleared. -/
  | clears (script : host.clears = true) (queue : next.manager.transport.readQueue = [])
      (reads : next.data.reads = host.data.reads)

section Tasks

variable {parties : Parties κ}

/-- A packet is read in the state of the handler, last. -/
theorem scripted_read {τ : Type} {setup : Setup τ κ} {current state : State} {resting : Bool}
    {rest : List (Task κ)} (scripted : Scripted setup current resting (.read state :: rest)) :
    state = current ∧ rest = [] := by
  generalize same : Task.read state :: rest = script at scripted
  cases scripted with
  | readConnecting | readConnected =>
    cases same
    exact ⟨rfl, rfl⟩
  | _ => cases same

/-- What a packet leaves to do. -/
theorem receive_keeps (state : State) (message : Message) (data : Data Queues κ) :
    ∃ more next, receive state message data = .ok more next ∧ next.manager = data.manager ∧
      next.reads = data.reads := by
  cases state with
  | init | disconnected => exact ⟨[], data, rfl, rfl, rfl⟩
  | connecting =>
    rw [receive_connecting]
    split
    · exact ⟨_, _, rfl, rfl, rfl⟩
    · exact ⟨_, _, rfl, rfl, rfl⟩
  | connected =>
    obtain ⟨more, outcome, -⟩ := receive_connected message data
    exact ⟨more, _, outcome, rfl, rfl⟩

/-- The oldest packet is read, if there is one. -/
theorem perform_fetches (state : State) (data : Data Queues κ) :
    (Task.read state : Task κ).perform parties.master data = .ok [] data ∨
      ∃ message more next, (Task.read state : Task κ).perform parties.master data =
          .ok more next ∧
        data.manager.transport.readQueue = message :: next.manager.transport.readQueue ∧
        next.reads = data.reads ++ [(state, message)] := by
  rw [perform_read]
  cases queue : data.manager.transport.readQueue with
  | nil =>
    left
    have same : parties.master.transport.read data.manager.transport =
        (none, data.manager.transport) := by
      change Queues.read data.manager.transport = _
      unfold Queues.read
      rw [queue]
    rw [same]
    rfl
  | cons message rest =>
    right
    have same : parties.master.transport.read data.manager.transport =
        (some message, { data.manager.transport with readQueue := rest }) := by
      change Queues.read data.manager.transport = _
      unfold Queues.read
      rw [queue]
    obtain ⟨more, next, outcome, manager, reads⟩ := receive_keeps state message
      ((data.withTransport { data.manager.transport with readQueue := rest }).reading state message)
    refine ⟨message, more, next, ?_, ?_, reads⟩
    · rw [same]
      exact outcome
    · rw [manager]
      rfl

end Tasks

/-- A check leaves the manager, the packets read and those delivered. -/
theorem wakes_same {τ : Type} {setup : Setup τ κ} {party next : Party τ κ}
    (wakes : Wakes setup party next)
    (later : ¬ (party.machine.position = 0 ∧ party.machine.waiting = false)) :
    next.data.manager = party.data.manager ∧ next.data.reads = party.data.reads ∧
      next.data.delivered = party.data.delivered := by
  cases wakes with
  | handled | thrown | waits => exact absurd ⟨rfl, rfl⟩ later
  | _ => exact ⟨rfl, rfl, rfl⟩

namespace Host

variable {parties : Parties κ} {host next : Host Queues κ ι}

/-- The packets read after a task. -/
theorem performs_reads {τ : Type} (setup : Setup τ κ) (host : Host τ κ ι) (task : Task κ)
    (rest : List (Task κ)) :
    (host.performs setup task rest).data.reads = (after (task.perform setup host.data)).reads := by
  unfold performs
  cases task.perform setup host.data with
  | ok more data => rfl
  | error error data =>
    obtain ⟨errc, same⟩ := caught_eq error data
    change (caught error data).reads = data.reads
    rw [same]
    rfl

/-- Whatever a statement does with packets to write, those to read stay. -/
theorem readQueue_of_deed {commands identifies taking made : Prop} {repeats : Option Packet}
    {state after : Hdcp.Master.State Queues κ} {held later : Option UInt16}
    (deed : Deed parties.master.environment commands identifies taking repeats made state after
      held later) : after.transport.readQueue = state.transport.readQueue := by
  cases deed.traffic with
  | quiet number transport written | takes taken number transport written
  | unmade id number transport written fails => rw [transport]
  | writes message number accepted transport written type hip
  | refused message number refused transport written
  | again commanding message repeating number transport written =>
    rw [transport]
    rfl

/-- A task that neither reads nor clears the queues leaves the packets to read. -/
theorem perform_still {task : Task κ} (unread : ∀ state, task ≠ .read state)
    (uncleared : task ≠ .clearQueues) (data : Data Queues κ) :
    (after (task.perform parties.master data)).manager.transport.readQueue =
      data.manager.transport.readQueue := by
  have deals := @perform_deals _ _ parties.master task data
  generalize (after (task.perform parties.master data)).manager = next at deals ⊢
  cases deals with
  | leaves => rfl
  | transports _ transport moves =>
    rcases moves with rfl | ⟨state, rfl⟩
    · exact absurd rfl uncleared
    · exact absurd rfl (unread state)
  | stops running => rfl
  | operates operation other held deed => exact readQueue_of_deed deed
  | starts place inside =>
    cases place with
    | startRequests | startTimers | startNow | startNumber | startFlag | startRun => rfl
    | _ => contradiction
  | manages place held deed => exact readQueue_of_deed deed

/-- What a task does to the packets read. -/
theorem performs_fetches {task : Task κ} {rest : List (Task κ)} (sound : host.Sound parties.master)
    (script : host.script = some (task :: rest)) :
    Fetches host (host.performs parties.master task rest) := by
  obtain ⟨resting, scripted, -⟩ := sound.scripted _ script
  have manager := host.performs_manager parties.master task rest
  have reads := performs_reads parties.master host task rest
  by_cases reading : ∃ state, task = .read state
  · obtain ⟨state, rfl⟩ := reading
    obtain ⟨rfl, rfl⟩ := scripted_read scripted
    rcases @perform_fetches κ parties host.state host.data with
      outcome | ⟨message, more, data, outcome, queue, read⟩
    · rw [outcome, after_ok] at manager reads
      exact .keeps (by rw [manager]; rfl) reads
    · rw [outcome, after_ok] at manager reads
      refine .takes message script ?_ (reads.trans read)
      rw [manager]
      exact queue
  by_cases clearing : task = .clearQueues
  · subst clearing
    refine .clears ?_ rfl rfl
    unfold clears
    rw [script]
  · have unread (state : State) : task ≠ .read state := fun same => reading ⟨state, same⟩
    have still := @perform_still κ parties task unread clearing host.data
    rw [← manager] at still
    exact .keeps still (reads.trans (@perform_records _ _ parties.master task unread host.data).1)

variable [DecidableEq ι] {act : Act Queues κ ι}

/-- What an act does to the packets read. -/
theorem step_fetches (sound : host.Sound parties.master)
    (leaves : act.leaves host.manager.transport = true)
    (taken : host.step parties.master act = some next) : Fetches host next := by
  have same {transport : Queues} (leaves : decide (transport = host.manager.transport) = true) :
      transport.readQueue = host.manager.transport.readQueue := by
    rw [of_decide_eq_true leaves]
  cases step_acts taken with
  | returned | begun | took | called | uncalled | signalled => exact .keeps rfl rfl
  | performed task rest script ready => exact performs_fetches sound script
  | checked party script alive later wakes =>
    obtain ⟨manager, reads, -⟩ := wakes_same (wakeup_wakes parties.master wakes sound.calm) later
    exact .keeps (congrArg (fun manager => manager.transport.readQueue) manager) reads
  | timed manager timer goes =>
    obtain ⟨held, deed⟩ := timed_deed goes
    exact .keeps (readQueue_of_deed deed) rfl
  | used user manager send goes =>
    obtain ⟨held, deed⟩ := used_deed goes
    exact .keeps (readQueue_of_deed deed) rfl
  | changed transport => exact .keeps (same leaves) rfl
  | joined transport script idle first => exact .keeps (same leaves) rfl
  | started transport stopped => exact .keeps (same leaves) rfl

end Host

end Hdcp.Appli.Master
