import Hdcp.Appli.MasterGreeting
import Hdcp.Appli.MasterTraffic
import Hdcp.Appli.SlaveCounts
import Hdcp.Base.Channels

/-!
# How often the master enters state connected

The master enters state connected for a DIP it read. What it writes is counted by the rounds of a
HIP and a keepalive in it: from where a session begins until it is connected nothing but HIPs is
written, as long as no call of `send_command` is in flight where the session begins, so that no
round ends without an entry into state connected.
-/

namespace Hdcp.Appli.Master

open Base
open Hdcp.Master hiding State Event
open Hdcp.Slave (Dip)

variable {τ κ ι : Type}

/-- How often a state was reported. -/
def Data.entries (data : Data τ κ) (state : State) : Nat :=
  data.statuses.countP fun status => status.1 = state

/-- The DIPs read. -/
def Data.dipsRead (data : Data τ κ) : Nat :=
  data.reads.countP fun read => Dip read.2

/-- What a check tells the user. -/
inductive Enters (party next : Party τ κ) : Prop where
  /-- Nothing. -/
  | stays (state : next.state = party.state) (statuses : next.data.statuses = party.data.statuses)
      (events : next.data.events = party.data.events)
  /-- The state it leads to. -/
  | moves (errc : Option ErrorCode)
      (statuses : next.data.statuses = party.data.statuses ++ [(next.state, errc)])
      (entered : next.machine = .entered next.state)
      (dip : .dipReceived ∈ next.data.events → .dipReceived ∈ party.data.events)
      (route : next.state = .disconnected ∨
        next.state = .connecting ∧ party.state = .disconnected ∨
        next.state = .connected ∧ .dipReceived ∈ party.data.events ∧
          .dipReceived ∉ next.data.events ∧ party.state = .connecting)

section Tasks

variable {setup : Setup τ κ}

/-- The count of a state after one more report. -/
theorem entries_snoc {data more : Data τ κ} {entered : State} {errc : Option ErrorCode}
    (statuses : more.statuses = data.statuses ++ [(entered, errc)]) (state : State) :
    more.entries state = data.entries state + if entered = state then 1 else 0 := by
  unfold Data.entries
  rw [statuses, List.countP_append, List.countP_singleton]
  simp

/-- The count of a state when nothing is reported. -/
theorem entries_same {data more : Data τ κ} (statuses : more.statuses = data.statuses)
    (state : State) : more.entries state = data.entries state := by
  unfold Data.entries
  rw [statuses]

/-- What a check tells the user. -/
theorem wakes_enters {party next : Party τ κ} (wakes : Wakes setup party next)
    (later : ¬ (party.machine.position = 0 ∧ party.machine.waiting = false)) :
    Enters party next := by
  -- The event of the attempt is the only one a transition raises.
  have raised (source target : State) {data : Data τ κ}
      (inside : .dipReceived ∈ (transition source target data).events) :
      .dipReceived ∈ data.events :=
    (transition_events inside).resolve_right nofun
  have fewer {data : Data τ κ} {gone : Event} (event : Event)
      (inside : event ∈ (data.without gone).events) : event ∈ data.events :=
    (Finset.mem_erase.mp inside).2
  cases wakes with
  | handled | thrown | waits => exact absurd ⟨rfl, rfl⟩ later
  | woken | unrequested | stillOpen | noDipTimeout | notConnected | noKaTimeout | undismissed =>
    exact .stays rfl rfl rfl
  | begun | closed => exact .moves _ rfl rfl (raised _ .disconnected) (.inl rfl)
  | dipTimeout | kaTimeout | dismissed =>
    exact .moves _ rfl rfl (fun inside => fewer _ (raised _ .disconnected inside)) (.inl rfl)
  | requested nbLoop data pending =>
    refine .moves _ rfl rfl (fun inside => fewer _ (raised _ .connecting inside)) ?_
    exact .inr (.inl ⟨rfl, rfl⟩)
  | connected nbLoop data pending =>
    refine .moves _ rfl rfl (fun inside => fewer _ (raised _ .connected inside)) (.inr (.inr ?_))
    refine ⟨rfl, pending, fun inside => ?_, rfl⟩
    exact (Finset.mem_erase.mp (raised _ .connected inside)).1 rfl

/-- What a packet read is notified for. -/
theorem perform_notices (state : State) (data : Data τ κ) :
    ∃ more next, (Task.read state : Task κ).perform setup data = .ok more next ∧
      next.events = data.events ∧ next.statuses = data.statuses ∧
      (next.reads = data.reads ∧ more = [] ∨
        ∃ message, next.reads = data.reads ++ [(state, message)] ∧
          (.notifyDip ∈ more → Dip message)) := by
  rw [perform_read]
  cases (setup.transport.read data.manager.transport).1 with
  | none => exact ⟨_, _, rfl, rfl, rfl, .inl ⟨rfl, rfl⟩⟩
  | some message =>
    dsimp only
    cases state with
    | init | disconnected => exact ⟨_, _, rfl, rfl, rfl, .inr ⟨message, rfl, nofun⟩⟩
    | connecting =>
      rw [receive_connecting]
      split
      · next dip => exact ⟨_, _, rfl, rfl, rfl, .inr ⟨message, rfl, fun _ => dip⟩⟩
      · exact ⟨_, _, rfl, rfl, rfl, .inr ⟨message, rfl, nofun⟩⟩
    | connected =>
      obtain ⟨more, outcome, left⟩ := receive_connected message
        ((data.withTransport (setup.transport.read data.manager.transport).2).reading .connected
          message)
      refine ⟨more, _, outcome, rfl, rfl, .inr ⟨message, rfl, ?_⟩⟩
      rcases left with rfl | rfl | rfl | rfl
      · exact nofun
      all_goals simp

/-- No task reports a state, and only the last of state connecting notifies a DIP. -/
theorem perform_hears (task : Task κ) (data : Data τ κ) :
    (after (task.perform setup data)).statuses = data.statuses ∧
      (.dipReceived ∈ (after (task.perform setup data)).events →
        .dipReceived ∈ data.events ∨ task = .notifyDip) := by
  cases task with
  | init => exact ⟨rfl, fun inside => absurd inside (Finset.notMem_empty _)⟩
  | forget | clearQueues => exact ⟨rfl, .inl⟩
  | resetAttempts => exact ⟨rfl, fun inside => .inl (Finset.mem_erase.mp inside).2⟩
  | attempt =>
    have statuses :=
      (@perform_records _ _ setup (.attempt : Task κ) (fun _ same => by cases same) data).2.1
    refine ⟨statuses, fun inside => .inl ?_⟩
    obtain ⟨next, -, -, ⟨outcome, fewer, -⟩ | ⟨outcome, fewer⟩⟩ := @perform_attempt _ _ setup data
    · rw [outcome] at inside
      exact fewer inside
    · rw [outcome] at inside
      exact fewer inside
  | operate operation =>
    rw [perform_operate]
    cases operation.statement setup.environment data.manager with
    | ok place manager => exact ⟨rfl, .inl⟩
    | error error manager => exact ⟨rfl, .inl⟩
  | manage place =>
    rw [perform_manage]
    cases place.statement setup.program data.manager with
    | ok place manager => exact ⟨rfl, .inl⟩
    | error error manager => exact ⟨rfl, .inl⟩
  | read state =>
    obtain ⟨more, next, outcome, events, statuses, -⟩ := @perform_notices τ κ setup state data
    rw [outcome]
    exact ⟨statuses, fun inside => .inl (events ▸ inside)⟩
  | notifyDip => exact ⟨rfl, fun _ => .inr rfl⟩
  | giveData message =>
    obtain ⟨delivered, -, outcome | ⟨error, outcome⟩⟩ := @perform_giveData _ _ setup message data
    · rw [outcome]
      exact ⟨rfl, .inl⟩
    · rw [outcome]
      exact ⟨rfl, .inl⟩

end Tasks

namespace Host

/-! ## Entries and identifications -/

/-- A DIP was read and is pending, or going to be. -/
def identified (host : Host τ κ ι) : Prop :=
  .dipReceived ∈ host.data.events ∨ ∃ tasks, host.script = some tasks ∧ .notifyDip ∈ tasks

/-- The entries into state connected, and the DIPs read for them. -/
structure Counted (host : Host τ κ ι) : Prop where
  /-- Every entry into state connected is for a DIP. -/
  dips : host.data.entries .connected ≤ host.data.dipsRead
  /-- A DIP that is pending is for one more. -/
  identified : host.identified → host.data.entries .connected + 1 ≤ host.data.dipsRead

section Counts

variable {setup : Setup τ κ} {host next : Host τ κ ι}

/-- A master as constructed. -/
theorem counted_initial (transport : τ) : (initial transport : Host τ κ ι).Counted where
  dips := Nat.le_refl 0
  identified := by
    rintro (pending | ⟨tasks, same, -⟩)
    · exact absurd pending (Finset.notMem_empty _)
    · contradiction

/-- What raises no event, reads nothing and reports no entry keeps the counts. -/
theorem Counted.frame (counted : host.Counted) (reads : next.data.reads = host.data.reads)
    (entries : next.data.entries .connected = host.data.entries .connected)
    (identified : next.identified → host.identified) : next.Counted := by
  have dips : next.data.dipsRead = host.data.dipsRead := by
    unfold Data.dipsRead
    rw [reads]
  refine ⟨?_, ?_⟩
  · rw [entries, dips]
    exact counted.dips
  · rw [entries, dips]
    exact fun comes => counted.identified (identified comes)

/-- What a task leaves to do. -/
theorem performs_script (setup : Setup τ κ) (host : Host τ κ ι) (task : Task κ)
    (rest : List (Task κ)) :
    (host.performs setup task rest).script = none ∨ ∃ more data,
      task.perform setup host.data = .ok more data ∧
        (host.performs setup task rest).script = some (more ++ rest) := by
  unfold performs
  cases outcome : task.perform setup host.data with
  | ok more data => exact .inr ⟨more, data, rfl, rfl⟩
  | error error data => exact .inl rfl

/-- What a task leaves of the events, the reads and the reports. -/
theorem performs_data (setup : Setup τ κ) (host : Host τ κ ι) (task : Task κ)
    (rest : List (Task κ)) :
    ∃ errc, (host.performs setup task rest).data =
      (after (task.perform setup host.data)).withErrc errc := by
  unfold performs
  cases task.perform setup host.data with
  | ok more data => exact ⟨data.errc, rfl⟩
  | error error data => exact caught_eq error data

/-- A task of a handler is performed. -/
theorem Counted.performs {task : Task κ} {rest : List (Task κ)} (counted : host.Counted)
    (sound : host.Sound setup) (script : host.script = some (task :: rest)) :
    (host.performs setup task rest).Counted := by
  obtain ⟨errc, left⟩ := host.performs_data setup task rest
  obtain ⟨statuses, events⟩ := @perform_hears τ κ setup task host.data
  have entries : (host.performs setup task rest).data.entries .connected =
      host.data.entries .connected := by
    rw [left]
    exact entries_same statuses _
  by_cases reading : ∃ state, task = .read state
  · obtain ⟨state, rfl⟩ := reading
    obtain ⟨resting, scripted, -⟩ := sound.scripted _ script
    obtain ⟨rfl, rfl⟩ := scripted_read scripted
    obtain ⟨list, data, outcome, same, -, read⟩ := @perform_notices τ κ setup host.state host.data
    rw [outcome, after_ok] at left
    have ended : (host.performs setup (.read host.state) []).script = some (list ++ []) := by
      unfold Host.performs
      rw [outcome]
    have pending (inside : .dipReceived ∈ (host.performs setup (.read host.state) []).data.events) :
        host.identified := by
      rw [left] at inside
      exact .inl (same ▸ inside)
    rcases read with ⟨unread, rfl⟩ | ⟨message, read, dip⟩
    · refine counted.frame ?_ entries ?_
      · rw [left]
        exact unread
      · rintro (inside | ⟨tasks, found, inside⟩)
        · exact pending inside
        · rw [ended] at found
          cases found
          contradiction
    · have dips : (host.performs setup (.read host.state) []).data.dipsRead =
          host.data.dipsRead + if Dip message then 1 else 0 := by
        unfold Data.dipsRead
        rw [left]
        change (data.reads.countP fun read => decide (Dip read.2)) = _
        rw [read, List.countP_append, List.countP_singleton]
        simp
      refine ⟨?_, ?_⟩
      · rw [entries, dips]
        exact counted.dips.trans (Nat.le_add_right _ _)
      · rw [entries, dips]
        rintro (inside | ⟨tasks, found, inside⟩)
        · exact (counted.identified (pending inside)).trans (Nat.le_add_right _ _)
        · rw [ended, List.append_nil] at found
          cases found
          rw [if_pos (dip inside)]
          exact Nat.succ_le_succ counted.dips
  · have unread (state : State) : task ≠ .read state := fun same => reading ⟨state, same⟩
    obtain ⟨reads, -, -, operations⟩ := @perform_records _ _ setup task unread host.data
    refine counted.frame ?_ entries ?_
    · rw [left]
      exact reads
    · rintro (inside | ⟨tasks, found, inside⟩)
      · rw [left] at inside
        rcases events inside with before | rfl
        · exact .inl before
        · exact .inr ⟨_, script, List.mem_cons_self⟩
      · rcases host.performs_script setup task rest with
          nothing | ⟨list, data, outcome, onward⟩
        · rw [nothing] at found
          contradiction
        · rw [onward] at found
          cases found
          rcases List.mem_append.mp inside with new | old
          · rcases operations _ _ outcome _ new with ⟨place, same⟩ | ⟨operation, same⟩
            · cases same
            · cases same
          · exact .inr ⟨_, script, List.mem_cons_of_mem task old⟩

/-- A timeout that another thread reports is no DIP. -/
theorem identified_stirred {manager : Hdcp.Master.State τ κ} {timer : TimerStep κ}
    {users : ι → SendStep κ} (raised : (host.stirred manager timer users).identified) :
    host.identified := by
  refine raised.imp_left fun pending => ?_
  rcases (mem_timeoutCb _ _ _).mp pending with before | ⟨type, -, same⟩
  · exact before
  · cases type <;> contradiction

/-- No handler begins with a DIP to notify. -/
theorem notifyDip_notMem_tasks (state : State) (nbLoop : Nat) :
    (.notifyDip : Task κ) ∉ tasks state nbLoop := by
  cases state with
  | init => simp [tasks]
  | disconnected | connecting | connected =>
    rw [tasks]
    split
    · simp [opening]
    · simp

/-- A check is made, or a wait ends. -/
theorem Counted.checked {party : Party τ κ} (counted : host.Counted) (sound : host.Sound setup)
    (script : host.script = none)
    (later : ¬ (host.machine.position = 0 ∧ host.machine.waiting = false))
    (wakes : host.party.wakeup setup = some party) : (host.withParty party).Counted := by
  have checks := wakeup_wakes setup wakes sound.calm
  have reads : (host.withParty party).data.reads = host.data.reads := (wakes_same checks later).2.1
  -- Between two handlers a DIP is only pending.
  have comes (raised : (host.withParty party).identified) : .dipReceived ∈ party.data.events := by
    rcases raised with pending | ⟨tasks, same, -⟩
    · exact pending
    · have nothing : host.script = some tasks := same
      rw [script] at nothing
      contradiction
  cases wakes_enters checks later with
  | stays state statuses events =>
    exact counted.frame reads (entries_same statuses _) fun raised => .inl (events ▸ comes raised)
  | moves errc statuses entered dip route =>
    have entries : (host.withParty party).data.entries .connected =
        host.data.entries .connected + if party.state = .connected then 1 else 0 :=
      entries_snoc statuses _
    by_cases moved : party.state = .connected
    · have dips : (host.withParty party).data.dipsRead = host.data.dipsRead := by
        unfold Data.dipsRead
        rw [reads]
      obtain ⟨-, pending, gone, -⟩ : party.state = .connected ∧
          .dipReceived ∈ host.party.data.events ∧ .dipReceived ∉ party.data.events ∧
            host.party.state = .connecting := by
        rcases route with same | ⟨same, -⟩ | moves
        · exact absurd (moved.symm.trans same) nofun
        · exact absurd (moved.symm.trans same) nofun
        · exact moves
      rw [if_pos moved] at entries
      refine ⟨?_, fun raised => absurd (comes raised) gone⟩
      rw [entries, dips]
      exact counted.identified (.inl pending)
    · rw [if_neg moved] at entries
      exact counted.frame reads entries fun raised => .inl (dip (comes raised))

variable [DecidableEq ι]

/-- An act keeps the counts. -/
theorem counted_step {act : Act τ κ ι} (sound : host.Sound setup) (counted : host.Counted)
    (taken : host.step setup act = some next) : next.Counted := by
  cases step_acts taken with
  | performed task rest script ready => exact counted.performs sound script
  | checked party script alive later wakes => exact counted.checked sound script later wakes
  | returned script =>
    refine counted.frame rfl rfl ?_
    rintro (pending | ⟨tasks, same, -⟩)
    · exact .inl pending
    · contradiction
  | begun script alive first =>
    refine counted.frame rfl rfl ?_
    rintro (pending | ⟨list, same, inside⟩)
    · exact .inl pending
    · cases same
      exact absurd inside (notifyDip_notMem_tasks _ _)
  | took | timed | called | used => exact counted.frame rfl rfl identified_stirred
  | signalled act events phase heard alive =>
    exact counted.frame rfl rfl (Or.imp_left heard.mp)
  | uncalled | changed | joined | started => exact counted.frame rfl rfl fun same => same

end Counts

end Host

end Hdcp.Appli.Master
