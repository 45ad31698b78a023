import Hdcp.Appli.SlaveObeys
import Hdcp.Appli.SlaveTraffic
import Hdcp.Base.Channels

/-!
# How often the slave enters a state

The slave enters state connecting for a HIP it read, and state connected for a keepalive it read
after that HIP. So the entries into these states are no more than the packets read for them, and
those into state connected are no more than the rounds of a HIP and a keepalive among them. An entry
into state connecting is answered by one DIP at most.
-/

namespace Hdcp.Slave

/-- The packet is a DIP. -/
abbrev Dip (message : Message) : Prop := message.packet.type = PacketType.dip.code

end Hdcp.Slave

namespace Hdcp.Appli.Slave

open Base
open Hdcp.Slave hiding State
open Hdcp.Master (Hip Keepalive)

variable {τ μ : Type}

/-- How often a state was reported. -/
def Data.entries (data : Data τ) (state : State) : Nat :=
  data.statuses.countP fun status => status.1 = state

/-- The packets read, oldest first. -/
def Data.heard (data : Data τ) : List Message := data.reads.map Prod.snd

/-- The rounds of a HIP and a keepalive among the packets read, each half counted. -/
def Data.rounds (data : Data τ) : Nat := alternations Hip Keepalive data.heard

/-- The HIPs read. -/
def Data.hips (data : Data τ) : Nat := data.heard.countP fun message => Hip message

/-- What a check tells the user. -/
inductive Enters (party next : Party τ) : Prop where
  /-- Nothing. -/
  | stays (state : next.state = party.state) (nbLoop : next.machine.nbLoop = party.machine.nbLoop)
      (statuses : next.data.statuses = party.data.statuses)
      (events : next.data.events = party.data.events)
  /-- The state it leads to. -/
  | moves (errc : Option ErrorCode)
      (statuses : next.data.statuses = party.data.statuses ++ [(next.state, errc)])
      (entered : next.machine = .entered next.state)
      (events : ∀ event ∈ next.data.events, event ∈ party.data.events)
      (route : next.state = .disconnected ∨
        next.state = .connecting ∧ .hipReceived ∈ party.data.events ∧
            .hipReceived ∉ next.data.events ∧
            (party.state = .disconnected ∨ party.state = .connected) ∨
        next.state = .connected ∧ .firstKaReceived ∈ party.data.events ∧
            .firstKaReceived ∉ next.data.events ∧ party.state = .connecting)

section Tasks

variable {setup : Setup τ}

/-- The type of a reply's packet. -/
def Reply.type : Reply → PacketType
  | dip => .dip
  | kaAck => .kaAck
  | cmdAck _ => .cmdAck

/-- A reply is made of its type. -/
theorem Reply.make_type (reply : Reply) {packetId : UInt16} {manager next : Hdcp.Slave.State τ}
    {packet : Packet} (outcome : reply.make setup packetId manager = .ok packet next) :
    packet.type = reply.type.code := by
  have typed {made : Except PacketError Packet} {type : PacketType}
      (types : ∀ packet, made = .ok packet → packet.type = type.code)
      (returned : (Hdcp.Slave.made made : Action τ Packet) manager = .ok packet next) :
      packet.type = type.code := by
    cases made with
    | error error => contradiction
    | ok found =>
      cases returned
      exact types packet rfl
  cases reply with
  | dip =>
    refine typed (fun packet made => ?_) outcome
    exact (Packet.build_id_type _ _ _ _ _ _ made).2
  | kaAck =>
    refine typed (fun packet made => ?_) outcome
    exact (Packet.build_id_type _ _ _ _ _ _ made).2
  | cmdAck command =>
    unfold make firstBlock at outcome
    dsimp only at outcome
    rw [bind_apply] at outcome
    cases blocks : command.blocks with
    | nil =>
      rw [blocks] at outcome
      contradiction
    | cons block rest =>
      rw [blocks] at outcome
      refine typed (fun packet made => ?_) outcome
      exact (Packet.build_id_type _ _ _ _ _ _ made).2

/-- What a check tells the user. -/
theorem wakes_enters {party next : Party τ} (wakes : Wakes setup party next)
    (later : party.machine.position ≠ 0) : Enters party next := by
  have fewer {data : Data τ} {gone : Event} (event : Event)
      (inside : event ∈ (data.without gone).events) : event ∈ data.events :=
    (Finset.mem_erase.mp inside).2
  have erased {data : Data τ} {gone : Event} : gone ∉ (data.without gone).events :=
    Finset.notMem_erase gone data.events
  cases wakes with
  | handled | thrown => exact absurd rfl later
  | stillOpen | noKaTimeout | noHip | notConnected => exact .stays rfl rfl rfl rfl
  | begun | closed => exact .moves _ rfl rfl (fun _ inside => inside) (.inl rfl)
  | kaTimeout => exact .moves _ rfl rfl fewer (.inl rfl)
  | hipReceived state nbLoop position data last pending =>
    refine .moves _ rfl rfl fewer (.inr (.inl ⟨rfl, pending, erased, ?_⟩))
    exact last.imp (fun same => same.1) fun same => same.1
  | connected nbLoop data pending =>
    exact .moves _ rfl rfl fewer (.inr (.inr ⟨rfl, pending, erased, rfl⟩))

/-- What a packet read is notified for. -/
theorem perform_notices (state : State) (data : Data τ) :
    ∃ more next, (Task.read state).perform setup data = .ok more next ∧
      next.events = data.events ∧ next.statuses = data.statuses ∧
      (next.reads = data.reads ∧ more = [] ∨
        ∃ message, next.reads = data.reads ++ [(state, message)] ∧
          (.notify .hipReceived ∈ more → Hip message) ∧
          (.notify .firstKaReceived ∈ more → state = .connecting ∧ Keepalive message)) := by
  rw [perform_read]
  cases (setup.transport.read data.manager.transport).1 with
  | none => exact ⟨_, _, rfl, rfl, rfl, .inl ⟨rfl, rfl⟩⟩
  | some message =>
    dsimp only
    cases state with
    | init => exact ⟨_, _, rfl, rfl, rfl, .inr ⟨message, rfl, nofun, nofun⟩⟩
    | disconnected =>
      rw [receive_disconnected]
      split
      · next hip => exact ⟨_, _, rfl, rfl, rfl, .inr ⟨message, rfl, fun _ => hip, by simp⟩⟩
      · exact ⟨_, _, rfl, rfl, rfl, .inr ⟨message, rfl, nofun, nofun⟩⟩
    | connecting =>
      rw [receive_connecting]
      refine ⟨_, _, rfl, rfl, rfl, .inr ⟨message, rfl, ?_, ?_⟩⟩
      · split
        · simp
        · exact nofun
      · split
        · next keepalive => exact fun _ => ⟨rfl, keepalive⟩
        · exact nofun
    | connected =>
      unfold receive
      dsimp only
      rw [bind_apply, checkPacketId_apply]
      dsimp only
      split
      · next hip => exact ⟨_, _, rfl, rfl, rfl, .inr ⟨message, rfl, fun _ => hip, by simp⟩⟩
      · split
        · exact ⟨_, _, rfl, rfl, rfl, .inr ⟨message, rfl, by simp, by simp⟩⟩
        · split
          · exact ⟨_, _, rfl, rfl, rfl, .inr ⟨message, rfl, by simp, by simp⟩⟩
          · exact ⟨_, _, rfl, rfl, rfl, .inr ⟨message, rfl, nofun, nofun⟩⟩

/-- Only a read reads. -/
theorem perform_reads {task : Task} (unread : ∀ state, task ≠ .read state) (data : Data τ) :
    (after (task.perform setup data)).reads = data.reads := by
  by_cases executing : ∃ message, task = .execute message
  · obtain ⟨message, rfl⟩ := executing
    obtain ⟨executed, -, outcome⟩ := @perform_executes τ setup message data
    rw [outcome]
    rfl
  · exact (perform_log unread (fun message same => executing ⟨message, same⟩) data).1

/-- A task reports nothing. -/
theorem perform_statuses (task : Task) (data : Data τ) :
    (after (task.perform setup data)).statuses = data.statuses := by
  by_cases reading : ∃ state, task = .read state
  · obtain ⟨state, rfl⟩ := reading
    obtain ⟨more, next, outcome, -, statuses, -⟩ := @perform_notices τ setup state data
    rw [outcome]
    exact statuses
  by_cases executing : ∃ message, task = .execute message
  · obtain ⟨message, rfl⟩ := executing
    obtain ⟨executed, -, outcome⟩ := @perform_executes τ setup message data
    rw [outcome]
    rfl
  · exact (perform_log (fun state same => reading ⟨state, same⟩)
      (fun message same => executing ⟨message, same⟩) data).2.2

/-- A first keepalive is pending after a task that notified it, or when it was before. -/
theorem perform_keepalive (task : Task) (data : Data τ)
    (pending : .firstKaReceived ∈ (after (task.perform setup data)).events) :
    .firstKaReceived ∈ data.events ∨ task = .notify .firstKaReceived := by
  by_cases manages : task.manages = true
  · obtain ⟨manager, left, -⟩ := perform_manages setup manages data
    rw [left] at pending
    exact .inl pending
  cases task with
  | init => exact absurd pending (Finset.notMem_empty _)
  | stop => exact .inl pending
  | start =>
    left
    have kept : (after ((Task.start).perform setup data)).events = data.events := by
      rw [Task.perform, bind_apply]
      unfold onManager
      cases Hdcp.Slave.start data.manager with
      | ok value manager => rfl
      | error error manager => rfl
    rwa [kept] at pending
  | read state =>
    left
    obtain ⟨more, next, outcome, events, -⟩ := @perform_notices τ setup state data
    rw [outcome, after_ok, events] at pending
    exact pending
  | notify event =>
    rcases Finset.mem_insert.mp pending with same | before
    · exact .inr (by rw [same])
    · exact .inl before
  | execute message =>
    obtain ⟨executed, outcome⟩ := perform_execute setup message data
    rw [outcome] at pending
    exact .inl pending
  | _ => contradiction

end Tasks

namespace Device

/-- A HIP was read and is pending, or going to be. -/
def identified (device : Device τ μ) : Prop :=
  .hipReceived ∈ device.data.events ∨ device.does (.notify .hipReceived)

/-- A first keepalive was read and is pending, or going to be. -/
def greeted (device : Device τ μ) : Prop :=
  .firstKaReceived ∈ device.data.events ∨ device.does (.notify .firstKaReceived)

/-- The entries into the states of a session, and the packets read for them. -/
structure Counted (device : Device τ μ) : Prop where
  /-- Every entry into state connecting is for a HIP. -/
  hips : device.data.entries .connecting ≤ device.data.hips
  /-- A HIP that is pending is for one more. -/
  identified : device.identified → device.data.entries .connecting + 1 ≤ device.data.hips
  /-- Every entry into state connected is for a round. -/
  rounds : 2 * device.data.entries .connected ≤ device.data.rounds
  /-- A HIP begins the next round. -/
  opened : device.identified ∨ device.state = .connecting →
    2 * device.data.entries .connected + 1 ≤ device.data.rounds
  /-- A keepalive ends it. -/
  closed : device.greeted → 2 * (device.data.entries .connected + 1) ≤ device.data.rounds

section Counts

variable {setup : Setup τ} {device next : Device τ μ}

/-- A slave as constructed. -/
theorem counted_initial (transport : τ) : (initial transport : Device τ μ).Counted where
  hips := Nat.le_refl 0
  identified := by
    rintro (pending | ⟨tasks, same, -⟩)
    · exact absurd pending (Finset.notMem_empty _)
    · contradiction
  rounds := Nat.le_refl 0
  opened := by
    rintro ((pending | ⟨tasks, same, -⟩) | connecting)
    · exact absurd pending (Finset.notMem_empty _)
    · contradiction
    · contradiction
  closed := by
    rintro (pending | ⟨tasks, same, -⟩)
    · exact absurd pending (Finset.notMem_empty _)
    · contradiction

/-- What raises no event, reads nothing and reports no entry keeps the counts. -/
theorem Counted.frame_counts (counted : device.Counted)
    (reads : next.data.reads = device.data.reads)
    (connecting : next.data.entries .connecting = device.data.entries .connecting)
    (connected : next.data.entries .connected = device.data.entries .connected)
    (identified : next.identified → device.identified) (greeted : next.greeted → device.greeted)
    (session : next.state = .connecting → device.state = .connecting) : next.Counted := by
  have hips : next.data.hips = device.data.hips := by
    unfold Data.hips Data.heard
    rw [reads]
  have rounds : next.data.rounds = device.data.rounds := by
    unfold Data.rounds Data.heard
    rw [reads]
  refine ⟨?_, ?_, ?_, ?_, ?_⟩
  · rw [connecting, hips]
    exact counted.hips
  · rw [connecting, hips]
    exact fun comes => counted.identified (identified comes)
  · rw [connected, rounds]
    exact counted.rounds
  · rw [connected, rounds]
    exact fun comes => counted.opened (comes.imp identified session)
  · rw [connected, rounds]
    exact fun comes => counted.closed (greeted comes)

/-- What raises no event and neither reads nor reports keeps the counts. -/
theorem Counted.frame (counted : device.Counted) (reads : next.data.reads = device.data.reads)
    (statuses : next.data.statuses = device.data.statuses)
    (identified : next.identified → device.identified) (greeted : next.greeted → device.greeted)
    (session : next.state = .connecting → device.state = .connecting) : next.Counted := by
  have entries (state : State) : next.data.entries state = device.data.entries state := by
    unfold Data.entries
    rw [statuses]
  exact counted.frame_counts reads (entries _) (entries _) identified greeted session

/-- The count of a state after one more report. -/
theorem entries_snoc {data more : Data τ} {entered : State} {errc : Option ErrorCode}
    (statuses : more.statuses = data.statuses ++ [(entered, errc)]) (state : State) :
    more.entries state = data.entries state + if entered = state then 1 else 0 := by
  unfold Data.entries
  rw [statuses, List.countP_append, List.countP_singleton]
  simp

/-- Reading counts the packet. -/
theorem Counted.read {state : State} {message : Message} (counted : device.Counted)
    (reads : next.data.reads = device.data.reads ++ [(state, message)])
    (statuses : next.data.statuses = device.data.statuses) (same : next.state = device.state)
    (identified : next.identified → device.identified ∨ Hip message)
    (greeted : next.greeted → device.greeted ∨ device.state = .connecting ∧ Keepalive message) :
    next.Counted := by
  have entries (state : State) : next.data.entries state = device.data.entries state := by
    unfold Data.entries
    rw [statuses]
  have heard : next.data.heard = device.data.heard ++ [message] := by
    unfold Data.heard
    rw [reads, List.map_append]
    rfl
  have hips : next.data.hips = device.data.hips + if Hip message then 1 else 0 := by
    unfold Data.hips
    rw [heard, List.countP_append, List.countP_singleton]
    simp
  have rounds : device.data.rounds ≤ next.data.rounds := by
    unfold Data.rounds
    rw [heard]
    exact alternations_le_snoc Hip Keepalive device.data.heard message
  have opens (hip : Hip message) :
      2 * device.data.entries .connected + 1 ≤ next.data.rounds := by
    unfold Data.rounds
    rw [heard]
    exact alternations_open hip counted.rounds
  refine ⟨?_, ?_, ?_, ?_, ?_⟩
  · rw [entries, hips]
    exact counted.hips.trans (Nat.le_add_right _ _)
  · rw [entries, hips]
    intro comes
    rcases identified comes with before | hip
    · exact (counted.identified before).trans (Nat.le_add_right _ _)
    · rw [if_pos hip]
      exact Nat.add_le_add_right counted.hips 1
  · rw [entries]
    exact counted.rounds.trans rounds
  · rw [entries, same]
    rintro (comes | connecting)
    · rcases identified comes with before | hip
      · exact (counted.opened (.inl before)).trans rounds
      · exact opens hip
    · exact (counted.opened (.inr connecting)).trans rounds
  · rw [entries]
    intro comes
    rcases greeted comes with before | ⟨connecting, keepalive⟩
    · exact (counted.closed before).trans rounds
    · unfold Data.rounds
      rw [heard]
      exact alternations_close keepalive (counted.opened (.inr connecting))

/-- A task of a handler is performed. -/
theorem Counted.performs {task : Task} {rest : List Task} (counted : device.Counted)
    (sound : device.Sound) (script : device.script = some (task :: rest)) :
    (device.performs setup task rest).Counted := by
  have left := device.performs_data setup task rest
  have scripted := sound.scripted _ script
  have first : device.machine.position = 0 := sound.first (by rw [script]; nofun)
  have same : (device.performs setup task rest).state = device.state :=
    congrArg Machine.current (device.performs_machine setup task rest first)
  by_cases reading : ∃ state, task = .read state
  · obtain ⟨state, rfl⟩ := reading
    obtain ⟨rfl, rfl, -⟩ := scripted_read scripted
    obtain ⟨more, data, outcome, events, statuses, read⟩ := @perform_notices τ setup device.state
      device.data
    have ended : device.performs setup (.read device.state) [] =
        { device with data := data, script := some (more ++ []) } := by
      unfold Device.performs
      rw [outcome]
    rw [ended, List.append_nil]
    have scripts {event : Event}
        (does : ({ device with data := data, script := some more } : Device τ μ).does
          (.notify event)) : .notify event ∈ more := by
      obtain ⟨tasks, same, inside⟩ := does
      cases same
      exact inside
    rcases read with ⟨reads, rfl⟩ | ⟨message, reads, hip, keepalive⟩
    · refine counted.frame reads statuses ?_ ?_ fun same => same
      · exact Or.imp (fun pending => events ▸ pending) fun does => absurd (scripts does) nofun
      · exact Or.imp (fun pending => events ▸ pending) fun does => absurd (scripts does) nofun
    · refine counted.read reads statuses rfl ?_ ?_
      · rintro (pending | does)
        · exact .inl (.inl (events ▸ pending))
        · exact .inr (hip (scripts does))
      · rintro (pending | does)
        · exact .inl (.inl (events ▸ pending))
        · exact .inr (keepalive (scripts does))
  · have unread (state : State) : task ≠ .read state := fun same => reading ⟨state, same⟩
    have kept : (after (task.perform setup device.data)).reads = device.data.reads ∧
        (after (task.perform setup device.data)).statuses = device.data.statuses :=
      ⟨perform_reads unread device.data, perform_statuses task device.data⟩
    rw [← left] at kept
    -- No task but a read leaves an event to notify.
    have scripts {event : Event}
        (does : (device.performs setup task rest).does (.notify event)) :
        device.does (.notify event) := by
      obtain ⟨tasks, same, inside⟩ := does
      rcases device.performs_script setup task rest with nothing | ⟨more, data, outcome, onward⟩
      · rw [nothing] at same
        contradiction
      · rw [onward] at same
        cases same
        rcases List.mem_append.mp inside with new | old
        · exfalso
          cases perform_leaves outcome with
          | nothing => contradiction
          | sends reply | numbers reply packetId => simp at new
          | identified | firstKa | again | command | keepalive => exact unread _ rfl
        · exact ⟨_, script, List.mem_cons_of_mem task old⟩
    refine counted.frame kept.1 kept.2 ?_ ?_ fun connecting => same ▸ connecting
    · rintro (pending | does)
      · rw [left] at pending
        rcases perform_hip task device.data pending with before | rfl
        · exact .inl before
        · exact .inr ⟨_, script, List.mem_cons_self⟩
      · exact .inr (scripts does)
    · rintro (pending | does)
      · rw [left] at pending
        rcases perform_keepalive task device.data pending with before | rfl
        · exact .inl before
        · exact .inr ⟨_, script, List.mem_cons_self⟩
      · exact .inr (scripts does)

/-- A check is made. -/
theorem Counted.checked {party : Party τ} (counted : device.Counted) (sound : device.Sound)
    (script : device.script = none) (later : device.machine.position ≠ 0)
    (wakes : device.party.wakeup setup = some party) : (device.withParty party).Counted := by
  have checks := wakeup_wakes setup wakes sound.awake
  have reads : (device.withParty party).data.reads = device.data.reads :=
    (wakes_same checks later).2.1
  have hips : (device.withParty party).data.hips = device.data.hips := by
    unfold Data.hips Data.heard
    rw [reads]
  have rounds : (device.withParty party).data.rounds = device.data.rounds := by
    unfold Data.rounds Data.heard
    rw [reads]
  -- Between two handlers an event is only pending.
  have comes {event : Event}
      (raised : event ∈ party.data.events ∨ (device.withParty party).does (.notify event)) :
      event ∈ party.data.events := by
    rcases raised with pending | ⟨tasks, same, -⟩
    · exact pending
    · have nothing : device.script = some tasks := same
      rw [script] at nothing
      contradiction
  cases wakes_enters checks later with
  | stays state nbLoop statuses events =>
    have same : (device.withParty party).state = device.state := state
    refine counted.frame reads statuses ?_ ?_ fun connecting => same ▸ connecting
    · exact fun raised => .inl (events ▸ comes raised)
    · exact fun raised => .inl (events ▸ comes raised)
  | moves errc statuses entered events route =>
    have connecting : (device.withParty party).data.entries .connecting =
        device.data.entries .connecting + if party.state = .connecting then 1 else 0 :=
      entries_snoc statuses _
    have connected : (device.withParty party).data.entries .connected =
        device.data.entries .connected + if party.state = .connected then 1 else 0 :=
      entries_snoc statuses _
    have state : (device.withParty party).state = party.state := rfl
    have everyHip := counted.hips
    have everyRound := counted.rounds
    rcases route with moved | ⟨moved, pending, gone, -⟩ | ⟨moved, pending, gone, session⟩
    · rw [if_neg (by rw [moved]; nofun), Nat.add_zero] at connecting connected
      refine counted.frame_counts reads (connecting.trans rfl) (connected.trans rfl) ?_ ?_ ?_
      · exact fun raised => .inl (events _ (comes raised))
      · exact fun raised => .inl (events _ (comes raised))
      · rw [state, moved]
        exact nofun
    · have hip := counted.identified (.inl pending)
      have opened := counted.opened (.inl (.inl pending))
      rw [if_pos moved] at connecting
      rw [if_neg (by rw [moved]; nofun), Nat.add_zero] at connected
      refine ⟨?_, ?_, ?_, ?_, ?_⟩
      · rw [connecting, hips]
        exact hip
      · exact fun raised => absurd (comes raised) gone
      · rw [connected, rounds]
        exact everyRound
      · rw [connected, rounds]
        exact fun _ => opened
      · rw [connected, rounds]
        exact fun raised => counted.closed (.inl (events _ (comes raised)))
    · have closed := counted.closed (.inl pending)
      have heedless := sound.heedless session
      rw [if_neg (by rw [moved]; nofun), Nat.add_zero] at connecting
      rw [if_pos moved] at connected
      refine ⟨?_, ?_, ?_, ?_, ?_⟩
      · rw [connecting, hips]
        exact everyHip
      · exact fun raised => absurd (events _ (comes raised)) heedless
      · rw [connected, rounds]
        exact closed
      · rintro (raised | same)
        · exact absurd (events _ (comes raised)) heedless
        · rw [state, moved] at same
          contradiction
      · exact fun raised => absurd (comes raised) gone

/-- A tick raises no event but its own. -/
theorem firstKa_of_ticked {batch : List (Timer TimerCallback)}
    (pending : .firstKaReceived ∈ (device.party.ticked batch).data.events) :
    .firstKaReceived ∈ device.data.events := by
  unfold Party.ticked at pending
  dsimp only at pending
  split at pending
  · exact pending
  · rcases Finset.mem_insert.mp pending with other | before
    · contradiction
    · exact before

/-- No handler begins with an event to notify. -/
theorem notify_notMem_tasks (state : State) (nbLoop : Nat) (event : Event) :
    .notify event ∉ tasks state nbLoop := by
  cases state with
  | init | connected => simp [tasks]
  | disconnected | connecting =>
    rw [tasks]
    split
    · simp [opening]
    · simp

variable [DecidableEq μ]

/-- An act keeps the counts. -/
theorem counted_step {act : Act τ μ} (sound : device.Sound) (counted : device.Counted)
    (taken : device.step setup act = some next) : next.Counted := by
  have idle {event : Event} (script : next.script = none) :
      ¬ next.does (.notify event) := by
    rintro ⟨tasks, same, -⟩
    rw [script] at same
    contradiction
  cases step_acts taken with
  | performed task rest script => exact counted.performs sound script
  | checked party script alive later wakes => exact counted.checked sound script later wakes
  | returned script =>
    refine counted.frame rfl rfl ?_ ?_ fun same => same
    · exact fun comes => comes.elim .inl fun does => absurd does (idle rfl)
    · exact fun comes => comes.elim .inl fun does => absurd does (idle rfl)
  | begun script alive first =>
    have nothing (event : Event) : ¬ device.begins.does (.notify event) := by
      rintro ⟨tasks, same, inside⟩
      cases same
      exact notify_notMem_tasks _ _ _ inside
    refine counted.frame rfl rfl ?_ ?_ fun same => same
    · exact fun comes => comes.elim .inl fun does => absurd does (nothing _)
    · exact fun comes => comes.elim .inl fun does => absurd does (nothing _)
  | ticked batch running =>
    refine counted.frame rfl rfl ?_ ?_ fun same => same
    · exact Or.imp (device.party.hip_mem_ticked batch).mp fun same => same
    · exact Or.imp firstKa_of_ticked fun same => same
  | called | uncalled | used | changed | stopping | joined =>
    exact counted.frame rfl rfl (fun same => same) (fun same => same) fun same => same
  | started => exact counted.frame rfl rfl (fun same => same) (fun same => same) nofun

end Counts

section Identifications

variable {κ : Type} {parties : Parties κ} {device next : Device Queues μ}

/-- The DIPs written. -/
def dips (device : Device Queues μ) : Nat :=
  (writes device.manager.outputs).countP fun message => Dip message

/-- The DIP of an entry into state connecting is still to be written. -/
def due (device : Device Queues μ) : Prop :=
  device.state = .connecting ∧ (device.script = none ∧ device.machine.nbLoop = 0 ∨
    ∃ tasks, device.script = some tasks ∧ ∃ task ∈ tasks, Sending .dip task)

/-- Every DIP answers an entry into state connecting. -/
structure Identifies (device : Device Queues μ) : Prop where
  /-- There are no more DIPs than entries. -/
  dips : device.dips ≤ device.data.entries .connecting
  /-- One that is due is for one more. -/
  due : device.due → device.dips + 1 ≤ device.data.entries .connecting

/-- A slave as constructed. -/
theorem identifies_initial (transport : Queues) :
    (initial transport : Device Queues μ).Identifies where
  dips := Nat.le_refl 0
  due := nofun

/-- What writes no DIP and reports no entry keeps the DIPs few. -/
theorem Identifies.frame (identifies : device.Identifies) (dips : next.dips = device.dips)
    (entries : next.data.entries .connecting = device.data.entries .connecting)
    (due : next.due → device.due) : next.Identifies := by
  refine ⟨?_, ?_⟩
  · rw [dips, entries]
    exact identifies.dips
  · rw [dips, entries]
    exact fun comes => identifies.due (due comes)

/-- A DIP is what the task that writes one writes. -/
theorem composes_dip {packet : Packet} (composes : Composes parties device packet)
    (dip : Dip ⟨packet, none⟩) :
    ∃ packetId rest, device.script = some (.write .dip packetId :: rest) := by
  cases composes with
  | data user packetId payload blocks place made =>
    have typed := (Packet.build_id_type _ _ _ _ _ _ made).2
    exact absurd (typed.symm.trans dip) (by decide)
  | reply reply packetId rest script made =>
    have typed := reply.make_type made
    cases reply with
    | dip => exact ⟨packetId, rest, script⟩
    | kaAck | cmdAck command => exact absurd (typed.symm.trans dip) nofun

/-- A task leaves a DIP to send only when it sends one. -/
theorem due_of_performs {task : Task} {rest : List Task} (sound : device.Sound)
    (script : device.script = some (task :: rest))
    (comes : (device.performs parties.slave task rest).due) : device.due := by
  have first : device.machine.position = 0 := sound.first (by rw [script]; nofun)
  have machine := device.performs_machine parties.slave task rest first
  have counted : device.machine.nbLoop ≠ 0 := sound.counted (.inl (by rw [script]; nofun))
  obtain ⟨connecting, later⟩ := comes
  have before : device.state = .connecting :=
    (congrArg Machine.current machine).symm.trans connecting
  refine ⟨before, .inr ⟨_, script, ?_⟩⟩
  rcases later with ⟨-, begun⟩ | ⟨tasks, same, other, inside, sending⟩
  · rw [machine] at begun
    exact absurd begun counted
  · rcases device.performs_script parties.slave task rest with
      nothing | ⟨more, data, outcome, onward⟩
    · rw [nothing] at same
      contradiction
    · rw [onward] at same
      cases same
      rcases List.mem_append.mp inside with new | old
      · refine ⟨task, List.mem_cons_self, ?_⟩
        cases perform_leaves outcome with
        | nothing => contradiction
        | sends reply =>
          obtain rfl := List.mem_singleton.mp new
          cases sending
          exact .send
        | numbers reply packetId =>
          obtain rfl := List.mem_singleton.mp new
          cases sending
          exact .number
        | identified | firstKa | again | command message | keepalive =>
          simp only [List.mem_cons, List.not_mem_nil, or_false] at new
          rcases new with rfl | rfl | rfl | rfl <;> cases sending
      · exact ⟨other, List.mem_cons_of_mem task old, sending⟩

/-- What is written is counted. -/
theorem Identifies.posted (identifies : device.Identifies)
    (posts : Posts parties device next)
    (entries : next.data.entries .connecting = device.data.entries .connecting)
    (due : next.due → device.due)
    (last : ∀ packetId rest, device.script = some (.write .dip packetId :: rest) →
      device.due ∧ ¬ next.due) : next.Identifies := by
  cases posts with
  | keeps queue written | clears script queue written =>
    refine identifies.frame ?_ entries due
    unfold Device.dips
    rw [written]
  | writes packet composes queue written =>
    have counted : next.dips = device.dips + if Dip ⟨packet, none⟩ then 1 else 0 := by
      unfold Device.dips
      rw [written, List.countP_append, List.countP_singleton]
      simp
    by_cases dip : Dip ⟨packet, none⟩
    · obtain ⟨packetId, rest, script⟩ := composes_dip composes dip
      obtain ⟨before, done⟩ := last packetId rest script
      rw [if_pos dip] at counted
      refine ⟨?_, fun comes => absurd comes done⟩
      rw [counted, entries]
      exact identifies.due before
    · rw [if_neg dip, Nat.add_zero] at counted
      exact identifies.frame counted entries due

/-- A DIP is written in state connecting, once. -/
theorem scripted_dip {state : State} {packetId : UInt16} {rest : List Task}
    (scripted : Scripted state (.write .dip packetId :: rest)) :
    state = .connecting ∧ rest = [.startKeepaliveManagement, .read .connecting] := by
  generalize same : Task.write .dip packetId :: rest = script at scripted
  cases scripted with
  | identify sending =>
    cases same
    exact ⟨rfl, rfl⟩
  | firstAck sending | commandAlive message sending | commandAck message sending
  | alive sending =>
    cases same
    cases sending
  | _ => cases same

variable [DecidableEq μ]

/-- An act keeps the DIPs few. -/
theorem identifies_step {act : Act Queues μ} (sound : device.Sound)
    (identifies : device.Identifies) (taken : device.step parties.slave act = some next) :
    next.Identifies := by
  cases step_acts taken with
  | performed task rest script =>
    have posts : Posts parties device (device.performs parties.slave task rest) :=
      performs_posts script
    have entries : (device.performs parties.slave task rest).data.entries .connecting =
        device.data.entries .connecting := by
      unfold Data.entries
      rw [performs_data, perform_statuses]
    refine identifies.posted posts entries (due_of_performs sound script) ?_
    intro packetId later same
    have writing : task :: rest = .write .dip packetId :: later :=
      Option.some.inj (script.symm.trans same)
    obtain ⟨rfl, rfl⟩ := List.cons.inj writing
    obtain ⟨connecting, rfl⟩ := scripted_dip (sound.scripted _ script)
    refine ⟨⟨connecting, .inr ⟨_, script, _, List.mem_cons_self, .write packetId⟩⟩, ?_⟩
    rintro ⟨-, ⟨-, begun⟩ | ⟨tasks, outcome, other, inside, sending⟩⟩
    · have inside : device.script ≠ none := by
        rw [script]
        exact Option.some_ne_none _
      rw [device.performs_machine _ _ _ (sound.first inside)] at begun
      exact sound.counted (.inl inside) begun
    · rcases device.performs_script parties.slave (.write .dip packetId)
        [.startKeepaliveManagement, .read .connecting] with nothing | ⟨more, data, done, onward⟩
      · rw [nothing] at outcome
        contradiction
      · rw [onward] at outcome
        cases outcome
        cases perform_leaves done
        simp only [List.nil_append, List.mem_cons, List.not_mem_nil, or_false] at inside
        rcases inside with rfl | rfl <;> cases sending
  | checked party script alive later wakes =>
    have checks := wakeup_wakes parties.slave wakes sound.awake
    have counted : device.machine.nbLoop ≠ 0 := sound.counted (.inr later)
    have manager := (checked_same sound later wakes).1
    have dips : (device.withParty party).dips = device.dips := by
      unfold Device.dips
      change (writes party.data.manager.outputs).countP _ = _
      rw [manager]
    cases wakes_enters checks later with
    | stays state nbLoop statuses events =>
      have entries : (device.withParty party).data.entries .connecting =
          device.data.entries .connecting := by
        unfold Data.entries
        change party.data.statuses.countP _ = _
        rw [statuses]
        rfl
      refine identifies.frame dips entries ?_
      rintro ⟨connecting, ⟨-, begun⟩ | sends⟩
      · exact absurd (nbLoop.symm.trans begun) counted
      · exact ⟨state.symm.trans connecting, .inr sends⟩
    | moves errc statuses entered events route =>
      have entries : (device.withParty party).data.entries .connecting =
          device.data.entries .connecting + if party.state = .connecting then 1 else 0 :=
        entries_snoc statuses _
      have before := identifies.dips
      by_cases moved : party.state = .connecting
      · rw [if_pos moved] at entries
        refine ⟨?_, fun _ => ?_⟩
        · rw [dips, entries]
          exact Nat.le_succ_of_le before
        · rw [dips, entries]
          exact Nat.succ_le_succ before
      · rw [if_neg moved] at entries
        exact identifies.frame dips entries fun comes => absurd comes.1 moved
  | returned script =>
    refine identifies.frame rfl rfl ?_
    rintro ⟨connecting, ⟨-, begun⟩ | ⟨tasks, same, -⟩⟩
    · exact absurd begun (sound.counted (.inl (by rw [script]; exact Option.some_ne_none _)))
    · contradiction
  | begun script alive first =>
    refine identifies.frame rfl rfl ?_
    rintro ⟨connecting, ⟨begun, -⟩ | ⟨list, same, other, inside, sending⟩⟩
    · contradiction
    · have before : device.state = .connecting := connecting
      refine ⟨before, .inl ⟨script, ?_⟩⟩
      cases same
      have loops : device.machine.begun.nbLoop = device.machine.nbLoop + 1 := by
        rw [Machine.begun, if_pos first]
      rw [before, tasks] at inside
      split at inside
      · next once => exact Nat.succ.inj (loops.symm.trans once)
      · obtain rfl := List.mem_singleton.mp inside
        cases sending
  | ticked batch running =>
    refine identifies.frame ?_ rfl fun comes => comes
    change (writes (device.manager.outputs ++ List.replicate batch.length .timedOut)).countP _ = _
    rw [writes_append, writes_timeouts, List.append_nil]
    rfl
  | used user manager step goes =>
    have left : manager =
        after ((device.users user).statement parties.slave.environment device.manager) := by
      rcases goes with returned | ⟨error, thrown, -⟩
      · rw [returned, after_ok]
      · rw [thrown, after_error]
    refine identifies.frame ?_ rfl fun comes => comes
    change (writes manager.outputs).countP _ = _
    rcases @statement_posts κ parties (device.users user) device.manager with
      ⟨-, outputs⟩ | ⟨packetId, payload, blocks, packet, place, made, -, outputs⟩
    · rw [left, outputs]
      rfl
    · have typed := (Packet.build_id_type _ _ _ _ _ _ made).2
      have other : ¬ Dip ⟨packet, none⟩ := fun dip => absurd (typed.symm.trans dip) (by decide)
      rw [left, outputs, writes_snoc, List.countP_append, List.countP_singleton]
      simp only [other, decide_false, Bool.false_eq_true, ↓reduceIte, Nat.add_zero]
      rfl
  | called | uncalled | changed | stopping | joined =>
    exact identifies.frame rfl rfl fun comes => comes
  | started => exact identifies.frame rfl rfl fun comes => by cases comes.1

end Identifications

end Device

end Hdcp.Appli.Slave
