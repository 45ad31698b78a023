import Hdcp.Appli.SlaveListens
import Hdcp.Appli.Weave
import Hdcp.Master.ThreadSafety

/-!
# What an act of the slave does to the packets ahead of it

On queues that never fail the slave reads the oldest packet, or clears the queues where it waits for
a HIP. While the first keepalive is still to come it reads in state connecting; the keepalive ends
that, as the acknowledgement it sends on the way cannot fail.
-/

namespace Hdcp.Appli.Slave

open Base
open Hdcp.Slave hiding State
open Hdcp.Master (Hip Keepalive)

variable {μ κ : Type}

/-- What an act does to the packets to read, for a slave that waits for the first keepalive. -/
inductive Hears (device next : Device Queues μ) : Prop where
  /-- Nothing. -/
  | keeps (queue : next.manager.transport.readQueue = device.manager.transport.readQueue)
      (reads : next.data.reads = device.data.reads) (listens : next.listens → device.listens)
  /-- The oldest packet is read. -/
  | reads (message : Message)
      (queue : device.manager.transport.readQueue =
        message :: next.manager.transport.readQueue)
      (reads : next.data.reads = device.data.reads ++ [(device.state, message)])
      (connecting : device.state = .connecting → device.listens)
      (listens : next.listens →
        Hip message ∨ device.state = .connecting ∧ ¬ Keepalive message)
  /-- The queues are cleared. -/
  | clears (queue : next.manager.transport.readQueue = [])
      (reads : next.data.reads = device.data.reads) (listens : ¬ next.listens)

section Alive

variable (parties : Parties κ)

/-- The acknowledgement of a keepalive is made and written. -/
theorem perform_alive {task : Task} (alive : task = .resetKeepalive ∨ Sending .kaAck task)
    (data : Data Queues) :
    ∃ more next, task.perform parties.slave data = .ok more next := by
  rcases alive with rfl | sending
  · by_cases managed : data.manager.keepaliveMngt = true
    · rw [Task.perform, bind_apply, get_apply]
      dsimp only
      rw [runIf, if_pos managed]
      exact ⟨[], _, rfl⟩
    · rw [Task.perform, bind_apply, get_apply]
      dsimp only
      rw [runIf, if_neg managed]
      exact ⟨[], data, rfl⟩
  · cases sending with
    | send => exact ⟨_, _, perform_send .kaAck data⟩
    | number => exact ⟨_, _, perform_number .kaAck data⟩
    | write packetId =>
      have making : ∃ packet, Packet.makeKeepaliveAck parties.raw packetId = .ok packet :=
        ⟨_, (Packet.build_ok_iff parties.raw packetId .kaAck 0 [] _).mpr
          ⟨by decide, rfl, rfl, rfl⟩⟩
      obtain ⟨packet, making⟩ := making
      have makes :
        Reply.kaAck.make parties.slave packetId data.manager = .ok packet data.manager := by
        change made (Packet.makeKeepaliveAck parties.raw packetId) data.manager = _
        rw [making]
        rfl
      rw [Task.perform, bind_apply]
      unfold onManager
      rw [makes]
      exact ⟨[], _, rfl⟩

/-- The first keepalive is notified once its acknowledgement was sent. -/
theorem scripted_alive {task : Task} {rest : List Task}
    (scripted : Scripted .connecting (task :: rest)) (greets : .notify .firstKaReceived ∈ rest) :
    task = .resetKeepalive ∨ Sending .kaAck task := by
  generalize same : task :: rest = script at scripted
  cases scripted with
  | firstReset =>
    cases same
    exact .inl rfl
  | firstAck sending =>
    cases same
    exact .inr sending
  | start | identify sending | watch =>
    cases same
    simp at greets
  | _ =>
    cases same <;> cases greets

/-- The first keepalive is notified last. -/
theorem scripted_greeted {state : State} {rest : List Task}
    (scripted : Scripted state (.notify .firstKaReceived :: rest)) : rest = [] := by
  generalize same : Task.notify .firstKaReceived :: rest = script at scripted
  cases scripted with
  | identify sending | firstAck sending | commandAlive message sending
  | commandAck message sending | alive sending =>
    cases same
    cases sending
  | firstKa =>
    cases same
    rfl
  | _ => cases same

end Alive

/-! ## Reading -/

section Reading

variable {parties : Parties κ}

/-- A packet is read in a state, and leaves tasks to do. -/
structure Took (state : State) (message : Message) (more : List Task) (data next : Data Queues) :
    Prop where
  /-- The packet is the oldest. -/
  queue : data.manager.transport.readQueue = message :: next.manager.transport.readQueue
  /-- It is read in the state. -/
  reads : next.reads = data.reads ++ [(state, message)]
  /-- No event is notified yet. -/
  events : next.events = data.events
  /-- A HIP is going to be. -/
  hip : .notify .hipReceived ∈ more → Hip message
  /-- The first keepalive is going to be. -/
  keepalive : state = .connecting → Keepalive message → .notify .firstKaReceived ∈ more

/-- What a packet leaves to do. -/
theorem receive_took (state : State) (message : Message) (data : Data Queues) :
    ∃ more next, receive state message data = .ok more next ∧ next.manager = data.manager ∧
      next.reads = data.reads ∧ next.events = data.events ∧
        (.notify .hipReceived ∈ more → Hip message) ∧
          (state = .connecting → Keepalive message → .notify .firstKaReceived ∈ more) := by
  cases state with
  | init => exact ⟨[], data, rfl, rfl, rfl, rfl, nofun, nofun⟩
  | disconnected =>
    rw [receive_disconnected]
    by_cases hip : Hip message
    · rw [if_pos hip]
      exact ⟨_, _, rfl, rfl, rfl, rfl, fun _ => hip, nofun⟩
    · rw [if_neg hip]
      exact ⟨_, _, rfl, rfl, rfl, rfl, nofun, nofun⟩
  | connecting =>
    rw [receive_connecting]
    refine ⟨_, _, rfl, rfl, rfl, rfl, ?_, fun _ keepalive => ?_⟩
    · split <;> simp
    · rw [if_pos keepalive]
      simp
  | connected =>
    obtain ⟨more, next, outcome, manager, events, reads, -, left⟩ := receive_connected message data
    refine ⟨more, next, outcome, manager, reads, events, ?_, nofun⟩
    rcases left with ⟨hip, -⟩ | ⟨-, rfl | rfl | rfl⟩
    · exact fun _ => hip
    all_goals simp

/-- The oldest packet is read, if there is one. -/
theorem perform_took (state : State) (data : Data Queues) :
    (Task.read state).perform parties.slave data = .ok [] data ∨
      ∃ message more next, (Task.read state).perform parties.slave data = .ok more next ∧
        Took state message more data next := by
  rw [perform_read]
  cases queue : data.manager.transport.readQueue with
  | nil =>
    left
    have same : parties.slave.transport.read data.manager.transport =
        (none, data.manager.transport) := by
      change Queues.read data.manager.transport = _
      unfold Queues.read
      rw [queue]
    rw [same]
    rfl
  | cons message rest =>
    right
    have same : parties.slave.transport.read data.manager.transport =
        (some message, { data.manager.transport with readQueue := rest }) := by
      change Queues.read data.manager.transport = _
      unfold Queues.read
      rw [queue]
    obtain ⟨more, next, outcome, manager, reads, events, hip, keepalive⟩ :=
      receive_took state message
      ((data.withTransport { data.manager.transport with readQueue := rest }).reading state message)
    refine ⟨message, more, next, ?_, ?_, reads, events, hip, keepalive⟩
    · rw [same]
      exact outcome
    · rw [manager]
      exact queue

/-- A part of a handler leaves the packets to read, and reads none. -/
def Still {α : Type} (handler : Handler Queues α) : Prop :=
  ∀ data, (after (handler data)).manager.transport.readQueue = data.manager.transport.readQueue ∧
    (after (handler data)).reads = data.reads

namespace Still

variable {α β : Type}

/-- Nothing. -/
theorem pure (value : α) : Still (Pure.pure value) := fun _ => ⟨rfl, rfl⟩

/-- An operation of the manager that reads no packet. -/
theorem onManager {action : Action Queues α} (keeps : ∀ manager,
      (after (action manager)).transport.readQueue = manager.transport.readQueue) :
    Still (onManager action) := by
  intro data
  have kept := keeps data.manager
  unfold Slave.onManager
  cases outcome : action data.manager with
  | ok value manager =>
    rw [outcome] at kept
    exact ⟨kept, rfl⟩
  | error error manager =>
    rw [outcome] at kept
    exact ⟨kept, rfl⟩

/-- One after another. -/
theorem bind {first : Handler Queues α} {rest : α → Handler Queues β} (begun : Still first)
    (goes : ∀ value, Still (rest value)) : Still (first >>= rest) := by
  intro data
  have early := begun data
  rw [bind_apply]
  cases outcome : first data with
  | ok value middle =>
    rw [outcome] at early
    have late := goes value middle
    exact ⟨late.1.trans early.1, late.2.trans early.2⟩
  | error error middle =>
    rw [outcome] at early
    exact early

end Still

/-- A task that neither reads nor clears the queues leaves the packets to read. -/
theorem perform_still {task : Task} (unread : ∀ state, task ≠ .read state)
    (uncleared : task ≠ .clearQueues) : Still (task.perform parties.slave) := by
  have erased (manager : Hdcp.Slave.State Queues) :
      (after (eraseKeepalive manager)).transport = manager.transport := by
    obtain ⟨queue, same⟩ := after_eraseKeepalive manager
    rw [same]
  cases task with
  | init | notify event => exact fun _ => ⟨rfl, rfl⟩
  | stop | startKeepaliveManagement => exact .bind (.onManager fun _ => rfl) fun _ => .pure _
  | start =>
    refine .bind (.onManager fun manager => ?_) fun _ => .pure _
    unfold Hdcp.Slave.start
    rw [bind_apply, get_apply]
    dsimp only
    split
    · rfl
    · rfl
  | stopKeepaliveManagement =>
    exact .bind (.onManager fun manager =>
      congrArg Queues.readQueue (erased { manager with keepaliveMngt := false })) fun _ => .pure _
  | resetKeepalive =>
    intro data
    rw [Task.perform, bind_apply, get_apply]
    dsimp only
    unfold runIf
    split
    · have resets : Still (Slave.onManager Hdcp.Slave.resetKeepalive >>= fun _ =>
          (Pure.pure [] : Handler Queues (List Task))) :=
        .bind (.onManager fun manager => congrArg Queues.readQueue (erased manager)) fun _ =>
          .pure _
      exact resets data
    · exact ⟨rfl, rfl⟩
  | send reply =>
    intro data
    rw [perform_send]
    exact ⟨rfl, rfl⟩
  | number reply => exact .bind (.onManager fun _ => rfl) fun _ => .pure _
  | write reply packetId =>
    refine .bind (.onManager fun manager => ?_) fun packet =>
      .bind (.onManager fun manager => rfl) fun _ => .pure _
    rw [after_make]
  | execute message =>
    intro data
    obtain ⟨executed, outcome⟩ := perform_execute parties.slave message data
    rw [outcome]
    exact ⟨rfl, rfl⟩
  | clearQueues => exact absurd rfl uncleared
  | read state => exact absurd rfl (unread state)

/-- A statement of `send_data` leaves the packets to read. -/
theorem statement_still (step : DataStep) (manager : Hdcp.Slave.State Queues) :
    (after (step.statement parties.slave.environment manager)).transport.readQueue =
      manager.transport.readQueue := by
  cases step with
  | idle => rfl
  | packing blocks payload size =>
    cases blocks with
    | nil =>
      unfold DataStep.statement
      dsimp only
      split
      · rfl
      · rfl
    | cons block blocks =>
      unfold DataStep.statement
      dsimp only
      split
      · rfl
      · split
        · rfl
        · rfl
  | numbered packetId payload blocks =>
    unfold DataStep.statement
    dsimp only
    rw [bind_apply]
    cases Packet.makeData parties.slave.environment.raw packetId payload with
    | error error => rfl
    | ok packet =>
      cases blocks with
      | nil => rfl
      | cons block blocks => rfl

end Reading

/-! ## Acts -/

namespace Device

section Hears

variable [DecidableEq μ] {parties : Parties κ} {device next : Device Queues μ}

omit [DecidableEq μ] in
/-- What a task leaves of the keepalive read. -/
theorem performs_answered {task : Task} {rest : List Task} (sound : device.Sound)
    (script : device.script = some (task :: rest)) (connecting : device.state = .connecting)
    (answered : device.answered) : (device.performs parties.slave task rest).answered := by
  have scripted := sound.scripted _ script
  rw [connecting] at scripted
  rcases answered with ⟨tasks, same, inside⟩ | ⟨-, last | ⟨none, -⟩⟩
  · rw [script] at same
    cases same
    rcases List.mem_cons.mp inside with rfl | later
    · obtain rfl := scripted_greeted scripted
      exact .inr ⟨Finset.mem_insert_self _ _, .inl rfl⟩
    · obtain ⟨more, data, outcome⟩ :=
        perform_alive parties (scripted_alive scripted later) device.data
      left
      refine ⟨more ++ rest, ?_, List.mem_append_right _ later⟩
      unfold performs
      rw [outcome]
  · rw [script] at last
    cases last
  · rw [script] at none
    cases none

omit [DecidableEq μ] in
/-- After a task that reads nothing no more is awaited than before. -/
theorem performs_listens {task : Task} {rest : List Task} (sound : device.Sound)
    (script : device.script = some (task :: rest)) (unread : ∀ state, task ≠ .read state)
    (listens : (device.performs parties.slave task rest).listens) : device.listens := by
  have inside : device.script ≠ none := by
    rw [script]
    exact Option.some_ne_none _
  have state : (device.performs parties.slave task rest).state = device.state :=
    congrArg Machine.current (device.performs_machine parties.slave task rest (sound.first inside))
  rcases listens with pending | ⟨tasks, same, notifies⟩ | ⟨connecting, unanswered⟩
  · rw [device.performs_data parties.slave task rest] at pending
    rcases perform_hip task device.data pending with before | rfl
    · exact .inl before
    · exact .inr (.inl ⟨_, script, List.mem_cons_self⟩)
  · rcases device.performs_script parties.slave task rest with none | ⟨more, data, outcome, onward⟩
    · rw [none] at same
      contradiction
    · rw [onward] at same
      cases same
      rcases List.mem_append.mp notifies with early | late
      · exfalso
        cases perform_leaves outcome with
        | identified | again | command | keepalive | firstKa => exact unread _ rfl
        | nothing => cases early
        | sends reply => simp at early
        | numbers reply packetId => simp at early
      · exact .inr (.inl ⟨_, script, List.mem_cons_of_mem _ late⟩)
  · rw [state] at connecting
    refine .inr (.inr ⟨connecting, fun answered => unanswered ?_⟩)
    exact performs_answered sound script connecting answered

omit [DecidableEq μ] in
/-- What leaves the thread and its events leaves what is awaited. -/
theorem listens_frame (machine : next.machine = device.machine)
    (script : next.script = device.script)
    (hip : .hipReceived ∈ next.data.events ↔ .hipReceived ∈ device.data.events)
    (greeted : .firstKaReceived ∈ next.data.events ↔ .firstKaReceived ∈ device.data.events)
    (listens : next.listens) : device.listens := by
  have state : next.state = device.state := congrArg Machine.current machine
  unfold Device.listens answered does at listens ⊢
  rwa [hip, greeted, script, machine, state] at listens

omit [DecidableEq μ] in
/-- A packet is read in the state of the handler, last. -/
theorem scripted_read {current state : State} {rest : List Task}
    (scripted : Scripted current (.read state :: rest)) :
    state = current ∧ rest = [] ∧ state ≠ .init := by
  generalize same : Task.read state :: rest = script at scripted
  cases scripted with
  | identify sending | firstAck sending | commandAlive message sending
  | commandAck message sending | alive sending =>
    cases same
    cases sending
  | readDisconnected | readConnecting | readConnected =>
    cases same
    exact ⟨rfl, rfl, nofun⟩
  | _ => cases same

omit [DecidableEq μ] in
/-- A packet is read, if there is one. -/
theorem performs_hears_read {state : State} (sound : device.Sound) (attentive : device.Attentive)
    (script : device.script = some [.read state]) (current : state = device.state)
    (other : state ≠ .init) : Hears device (device.performs parties.slave (.read state) []) := by
  have inside : device.script ≠ none := by
    rw [script]
    exact Option.some_ne_none _
  have unanswered : ¬ device.answered := by
    rintro (⟨tasks, same, notifies⟩ | ⟨-, last | ⟨none, -⟩⟩)
    · rw [script] at same
      cases same
      simp at notifies
    · rw [script] at last
      cases last
    · exact inside none
  rcases @perform_took κ parties state device.data with
    outcome | ⟨message, more, data, outcome, took⟩
  · have left : device.performs parties.slave (.read state) [] =
        { device with data := device.data, script := some [] } := by
      unfold performs
      rw [outcome]
      rfl
    refine .keeps (by rw [left]; rfl) (by rw [left]) fun listens => ?_
    rw [left] at listens
    rcases listens with pending | ⟨tasks, same, notifies⟩ | ⟨connecting, -⟩
    · exact .inl pending
    · cases same
      cases notifies
    · exact .inr (.inr ⟨connecting, unanswered⟩)
  · have left : device.performs parties.slave (.read state) [] =
        { device with data := data, script := some (more ++ []) } := by
      unfold performs
      rw [outcome]
    refine .reads message (by rw [left]; exact took.queue)
      (by rw [left, ← current]; exact took.reads)
      (fun connecting => .inr (.inr ⟨connecting, unanswered⟩)) fun listens => ?_
    rw [left, List.append_nil] at listens
    rcases listens with pending | ⟨tasks, same, notifies⟩ | ⟨connecting, still⟩
    · exfalso
      have heard : .hipReceived ∈ data.events := pending
      rw [took.events] at heard
      subst current
      cases now : device.state with
      | init => exact other now
      | connecting => exact sound.heedless now heard
      | connected => exact attentive (.inl ⟨now, .inr ⟨_, _, script⟩⟩) heard
      | disconnected =>
        rw [now] at script
        exact attentive (.inr ⟨now, .inr (.inl script)⟩) heard
    · cases same
      exact .inl (took.hip notifies)
    · have before : device.state = .connecting := connecting
      refine .inr ⟨before, fun keepalive => still ?_⟩
      exact .inl ⟨more, rfl, took.keepalive (current.trans before) keepalive⟩

omit [DecidableEq μ] in
/-- A task of a handler. -/
theorem performs_hears {task : Task} {rest : List Task} (sound : device.Sound)
    (attentive : device.Attentive) (script : device.script = some (task :: rest))
    (heedful : device.clears = true → .hipReceived ∉ device.data.events) :
    Hears device (device.performs parties.slave task rest) := by
  have scripted := sound.scripted _ script
  have left := device.performs_data parties.slave task rest
  by_cases reading : ∃ state, task = .read state
  · obtain ⟨state, rfl⟩ := reading
    obtain ⟨current, rfl, other⟩ := scripted_read scripted
    exact performs_hears_read sound attentive script current other
  by_cases clearing : task = .clearQueues
  · subst clearing
    obtain ⟨disconnected, rfl⟩ := scripted_clears scripted
    have silent : .hipReceived ∉ device.data.events := heedful (by unfold clears; rw [script])
    refine .clears rfl rfl ?_
    rintro (pending | ⟨tasks, same, notifies⟩ | ⟨connecting, -⟩)
    · exact silent pending
    · cases same
      simp at notifies
    · exact absurd (disconnected.symm.trans connecting) nofun
  · have unread (state : State) : task ≠ .read state := fun same => reading ⟨state, same⟩
    have still := @perform_still κ parties task unread clearing device.data
    refine .keeps ?_ ?_ (performs_listens sound script unread)
    · change (device.performs parties.slave task rest).data.manager.transport.readQueue = _
      rw [left]
      exact still.1
    · rw [left]
      exact still.2

/-- What an act of an attentive slave does to the packets ahead of it. -/
theorem step_hears {act : Act Queues μ} (sound : device.Sound) (attentive : device.Attentive)
    (heedful : device.heedful act) (leaves : act.leaves device.manager.transport = true)
    (taken : device.step parties.slave act = some next) : Hears device next := by
  have frame {next : Device Queues μ} (machine : next.machine = device.machine)
      (script : next.script = device.script) (events : next.data.events = device.data.events)
      (reads : next.data.reads = device.data.reads)
      (queue : next.manager.transport.readQueue = device.manager.transport.readQueue) :
      Hears device next :=
    .keeps queue reads (listens_frame machine script (by rw [events]) (by rw [events]))
  have same {transport : Queues} (leaves : decide (transport = device.manager.transport) = true) :
      transport.readQueue = device.manager.transport.readQueue := by
    rw [of_decide_eq_true leaves]
  cases step_acts taken with
  | returned script =>
    have inside : device.script ≠ none := by
      rw [script]
      exact Option.some_ne_none _
    refine .keeps rfl rfl fun listens => ?_
    rcases listens with pending | ⟨tasks, same, notifies⟩ | ⟨connecting, unanswered⟩
    · exact .inl pending
    · cases same
    · have before : device.state = .connecting := connecting
      refine .inr (.inr ⟨before, fun answered => unanswered ?_⟩)
      have moved : (device.returns parties.slave).machine.position ≠ 0 := by
        unfold Device.returns Machine.passed
        dsimp only
        rw [sound.first inside, before]
        intro zero
        cases zero
      rcases answered with ⟨tasks, same, notifies⟩ | ⟨pending, -⟩
      · rw [script] at same
        cases same
        cases notifies
      · exact .inr ⟨pending, .inr ⟨rfl, moved⟩⟩
  | performed task rest script => exact performs_hears sound attentive script heedful
  | begun script alive first =>
    refine .keeps rfl rfl fun listens => ?_
    rcases listens with pending | ⟨tasks, same, notifies⟩ | ⟨connecting, -⟩
    · exact .inl pending
    · cases same
      exfalso
      revert notifies
      cases device.state with
      | init | connected => simp [Slave.tasks]
      | disconnected | connecting =>
        rw [Slave.tasks]
        split <;> simp [opening]
    · refine .inr (.inr ⟨connecting, ?_⟩)
      rintro (⟨tasks, same, -⟩ | ⟨-, same | ⟨-, later⟩⟩)
      · cases script.symm.trans same
      · cases script.symm.trans same
      · exact later first
  | checked party script alive later wakes =>
    have outside {tasks : List Task} (same : device.script = some tasks) : False := by
      rw [script] at same
      contradiction
    cases wakes_verdict (wakeup_wakes parties.slave wakes sound.awake) later with
    | stays current nbLoop awake manager events reads received unheard ungreeted =>
      refine .keeps (congrArg (fun manager => manager.transport.readQueue) manager) reads ?_
      rintro (pending | ⟨tasks, same, -⟩ | ⟨connecting, unanswered⟩)
      · have heard : .hipReceived ∈ party.data.events := pending
        rw [events] at heard
        exact .inl heard
      · exact (outside same).elim
      · have before : device.state = .connecting := current.symm.trans connecting
        refine .inr (.inr ⟨before, fun answered => unanswered ?_⟩)
        rcases answered with ⟨tasks, same, -⟩ | ⟨pending, -⟩
        · exact (outside same).elim
        · refine .inr ⟨?_, .inr ⟨script, fun first => ungreeted before first pending⟩⟩
          change _ ∈ party.data.events
          rw [events]
          exact pending
    | moves target entered manager reads received events route =>
      have state : (device.withParty party).state = target := congrArg Machine.current entered
      refine .keeps (congrArg (fun manager => manager.transport.readQueue) manager) reads ?_
      rintro (pending | ⟨tasks, same, -⟩ | ⟨connecting, -⟩)
      · exact .inl (events _ pending)
      · exact (outside same).elim
      · rw [state] at connecting
        rcases route with ⟨same, -⟩ | ⟨-, pending, -⟩ | ⟨same, -⟩
        · cases connecting.symm.trans same
        · exact .inl pending
        · cases connecting.symm.trans same
  | ticked batch running =>
    have greeted : .firstKaReceived ∈ (device.party.ticked batch).data.events ↔
        .firstKaReceived ∈ device.data.events := by
      unfold Party.ticked
      dsimp only
      split
      · exact Iff.rfl
      · simp [EventSet.notify, party]
    refine .keeps rfl rfl (listens_frame rfl rfl (device.party.hip_mem_ticked batch) greeted)
  | used user manager step goes =>
    have still := @statement_still κ parties (device.users user) device.manager
    refine frame rfl rfl rfl rfl ?_
    rcases goes with returned | ⟨error, thrown, -⟩
    · rw [returned] at still
      exact still
    · rw [thrown] at still
      exact still
  | changed transport => exact frame rfl rfl rfl rfl (same leaves)
  | joined transport script first => exact frame rfl rfl rfl rfl (same leaves)
  | called | uncalled | stopping => exact frame rfl rfl rfl rfl rfl
  | started transport stopped =>
    have script : device.script = none := by
      by_cases none : device.script = none
      · exact none
      · exact absurd stopped (sound.alive none)
    refine .keeps (same leaves) rfl fun listens => ?_
    rcases listens with pending | ⟨tasks, same, -⟩ | ⟨connecting, -⟩
    · exact .inl pending
    · cases script.symm.trans same
    · contradiction

end Hears

end Device

end Hdcp.Appli.Slave
