import Hdcp.Appli.SlaveHears
import Hdcp.Slave.Ownership

/-!
# What an act of the slave does to its two queues

On queues that never fail an act reads the oldest packet, writes one, clears both queues or leaves
them. The slave's thread writes identifications and acknowledgements, users write data, and nothing
else is written.
-/

namespace Hdcp.Appli.Slave

open Base
open Hdcp.Slave hiding State
open Hdcp.Master (Hip Keepalive)

variable {μ κ : Type}

/-- How the packet an act writes comes about. -/
inductive Composes (parties : Parties κ) (device : Device Queues μ) (packet : Packet) : Prop where
  /-- A user makes it of a payload. -/
  | data (user : μ) (packetId : UInt16) (payload blocks : List BlockView)
      (place : device.users user = .numbered packetId payload blocks)
      (made : Packet.makeData parties.raw packetId payload = .ok packet)
  /-- The slave's thread makes it as a reply. -/
  | reply (reply : Reply) (packetId : UInt16) (rest : List Task)
      (script : device.script = some (.write reply packetId :: rest))
      (made : reply.make parties.slave packetId device.manager = .ok packet device.manager)

/-- What an act does to the packets written. -/
inductive Posts (parties : Parties κ) (device next : Device Queues μ) : Prop where
  /-- Nothing. -/
  | keeps (queue : next.manager.transport.writeQueue = device.manager.transport.writeQueue)
      (written : writes next.manager.outputs = writes device.manager.outputs)
  /-- A packet is written. -/
  | writes (packet : Packet) (composes : Composes parties device packet)
      (queue : next.manager.transport.writeQueue =
        device.manager.transport.writeQueue ++ [⟨packet, none⟩])
      (written : writes next.manager.outputs = writes device.manager.outputs ++ [⟨packet, none⟩])
  /-- The queues are cleared. -/
  | clears (script : device.clears = true) (queue : next.manager.transport.writeQueue = [])
      (written : writes next.manager.outputs = writes device.manager.outputs)

/-- What an act does to the packets read. -/
inductive Fetches (device next : Device Queues μ) : Prop where
  /-- Nothing. -/
  | keeps (queue : next.manager.transport.readQueue = device.manager.transport.readQueue)
      (reads : next.data.reads = device.data.reads)
  /-- The oldest packet is read. -/
  | takes (message : Message) (script : device.script = some [.read device.state])
      (queue : device.manager.transport.readQueue =
        message :: next.manager.transport.readQueue)
      (reads : next.data.reads = device.data.reads ++ [(device.state, message)])
  /-- The queues are cleared. -/
  | clears (script : device.clears = true) (queue : next.manager.transport.readQueue = [])
      (reads : next.data.reads = device.data.reads)

/-! ## Tasks -/

/-- A part of a handler writes nothing. -/
def Silent {α : Type} (handler : Handler Queues α) : Prop :=
  ∀ data, (after (handler data)).manager.transport.writeQueue =
      data.manager.transport.writeQueue ∧
    writes (after (handler data)).manager.outputs = writes data.manager.outputs

namespace Silent

variable {α β : Type}

/-- Nothing. -/
theorem pure (value : α) : Silent (Pure.pure value) := fun _ => ⟨rfl, rfl⟩

/-- An operation of the manager that writes no packet. -/
theorem onManager {action : Action Queues α} (keeps : ∀ manager,
      (after (action manager)).transport = manager.transport ∧
        (after (action manager)).outputs = manager.outputs) :
    Silent (onManager action) := by
  intro data
  obtain ⟨transport, outputs⟩ := keeps data.manager
  unfold Slave.onManager
  cases outcome : action data.manager with
  | ok value manager =>
    rw [outcome] at transport outputs
    exact ⟨congrArg Queues.writeQueue transport, congrArg writes outputs⟩
  | error error manager =>
    rw [outcome] at transport outputs
    exact ⟨congrArg Queues.writeQueue transport, congrArg writes outputs⟩

/-- One after another. -/
theorem bind {first : Handler Queues α} {rest : α → Handler Queues β} (begun : Silent first)
    (goes : ∀ value, Silent (rest value)) : Silent (first >>= rest) := by
  intro data
  have early := begun data
  rw [bind_apply]
  cases outcome : first data with
  | ok value middle =>
    rw [outcome] at early
    have late := goes value middle
    exact ⟨late.1.trans early.1, late.2.trans early.2⟩
  | error error middle =>
    rw [outcome] at early
    exact early

end Silent

section Tasks

variable {parties : Parties κ}

/-- Reading a packet writes none. -/
theorem read_silent (state : State) (data : Data Queues) :
    (after ((Task.read state).perform parties.slave data)).manager.transport.writeQueue =
        data.manager.transport.writeQueue ∧
      writes (after ((Task.read state).perform parties.slave data)).manager.outputs =
        writes data.manager.outputs := by
  have kept := data.manager.transport.read_writeQueue
  rw [perform_read]
  cases (parties.slave.transport.read data.manager.transport).1 with
  | none => exact ⟨kept, rfl⟩
  | some message =>
    obtain ⟨more, next, outcome, manager, -⟩ := receive_took state message
      ((data.withTransport (Queues.read data.manager.transport).2).reading state message)
    have received : receive state message
        ((data.withTransport (parties.slave.transport.read data.manager.transport).2).reading state
          message) = .ok more next := outcome
    dsimp only
    rw [received, after_ok, manager]
    exact ⟨kept, rfl⟩

/-- A task that neither writes nor clears the queues writes nothing. -/
theorem perform_silent {task : Task} (unwritten : ∀ reply packetId, task ≠ .write reply packetId)
    (uncleared : task ≠ .clearQueues) : Silent (task.perform parties.slave) := by
  have erased (manager : Hdcp.Slave.State Queues) :
      (after (eraseKeepalive manager)).transport = manager.transport ∧
        (after (eraseKeepalive manager)).outputs = manager.outputs := by
    obtain ⟨queue, same⟩ := after_eraseKeepalive manager
    rw [same]
    exact ⟨rfl, rfl⟩
  cases task with
  | init | notify event => exact fun _ => ⟨rfl, rfl⟩
  | stop | startKeepaliveManagement =>
    exact .bind (.onManager fun _ => ⟨rfl, rfl⟩) fun _ => .pure _
  | start =>
    refine .bind (.onManager fun manager => ?_) fun _ => .pure _
    unfold Hdcp.Slave.start
    rw [bind_apply, get_apply]
    dsimp only
    split
    · exact ⟨rfl, rfl⟩
    · exact ⟨rfl, rfl⟩
  | stopKeepaliveManagement =>
    exact .bind (.onManager fun manager => erased { manager with keepaliveMngt := false })
      fun _ => .pure _
  | resetKeepalive =>
    intro data
    rw [Task.perform, bind_apply, get_apply]
    dsimp only
    unfold runIf
    split
    · have resets : Silent (Slave.onManager Hdcp.Slave.resetKeepalive >>= fun _ =>
          (Pure.pure [] : Handler Queues (List Task))) :=
        .bind (.onManager fun manager => erased manager) fun _ => .pure _
      exact resets data
    · exact ⟨rfl, rfl⟩
  | send reply =>
    intro data
    rw [perform_send]
    exact ⟨rfl, rfl⟩
  | number reply => exact .bind (.onManager fun _ => ⟨rfl, rfl⟩) fun _ => .pure _
  | execute message =>
    intro data
    obtain ⟨executed, outcome⟩ := perform_execute parties.slave message data
    rw [outcome]
    exact ⟨rfl, rfl⟩
  | read state => exact fun data => read_silent state data
  | clearQueues => exact absurd rfl uncleared
  | write reply packetId => exact absurd rfl (unwritten reply packetId)

/-- A packet that was made is written. -/
theorem perform_write (reply : Reply) (packetId : UInt16) (data : Data Queues) :
    (∃ packet, reply.make parties.slave packetId data.manager = .ok packet data.manager ∧
      (Task.write reply packetId).perform parties.slave data = .ok []
        { data with
          manager :=
            { data.manager with
              transport :=
                { data.manager.transport with
                  writeQueue := data.manager.transport.writeQueue ++ [⟨packet, none⟩] }
              outputs := data.manager.outputs ++ [.written ⟨packet, none⟩] } }) ∨
      ∃ error, (Task.write reply packetId).perform parties.slave data = .error error data := by
  have still := after_make parties.slave reply packetId data.manager
  rw [Task.perform, bind_apply]
  unfold Slave.onManager
  cases making : reply.make parties.slave packetId data.manager with
  | ok packet manager =>
    rw [making] at still
    obtain rfl : manager = data.manager := still
    exact .inl ⟨packet, rfl, rfl⟩
  | error error manager =>
    rw [making] at still
    obtain rfl : manager = data.manager := still
    exact .inr ⟨error, rfl⟩

/-- A statement of `send_data` writes the packet it makes. -/
theorem statement_posts (step : DataStep) (manager : Hdcp.Slave.State Queues) :
    (after (step.statement parties.slave.environment manager)).transport = manager.transport ∧
        (after (step.statement parties.slave.environment manager)).outputs = manager.outputs ∨
      ∃ packetId payload blocks packet, step = .numbered packetId payload blocks ∧
        Packet.makeData parties.raw packetId payload = .ok packet ∧
        (after (step.statement parties.slave.environment manager)).transport =
          { manager.transport with
            writeQueue := manager.transport.writeQueue ++ [⟨packet, none⟩] } ∧
        (after (step.statement parties.slave.environment manager)).outputs =
          manager.outputs ++ [.written ⟨packet, none⟩] := by
  cases step with
  | idle => exact .inl ⟨rfl, rfl⟩
  | packing blocks payload size =>
    left
    cases blocks with
    | nil =>
      unfold DataStep.statement
      dsimp only
      split
      · exact ⟨rfl, rfl⟩
      · exact ⟨rfl, rfl⟩
    | cons block blocks =>
      unfold DataStep.statement
      dsimp only
      split
      · exact ⟨rfl, rfl⟩
      · split
        · exact ⟨rfl, rfl⟩
        · exact ⟨rfl, rfl⟩
  | numbered packetId payload blocks =>
    unfold DataStep.statement
    dsimp only
    rw [bind_apply]
    cases making : Packet.makeData parties.slave.environment.raw packetId payload with
    | error error => exact .inl ⟨rfl, rfl⟩
    | ok packet =>
      refine .inr ⟨packetId, payload, blocks, packet, rfl, making, ?_⟩
      cases blocks with
      | nil => exact ⟨rfl, rfl⟩
      | cons block blocks => exact ⟨rfl, rfl⟩

end Tasks

/-! ## Acts -/

/-- What is written with one more packet. -/
theorem writes_snoc (outputs : List Output) (message : Message) :
    writes (outputs ++ [.written message]) = writes outputs ++ [message] :=
  writes_append outputs [.written message]

/-- Timeouts reported are no packets. -/
theorem writes_timeouts (count : Nat) : writes (List.replicate count .timedOut) = [] := by
  induction count with
  | zero => rfl
  | succ count ih => exact ih

namespace Device

variable [DecidableEq μ] {parties : Parties κ} {device next : Device Queues μ}

omit [DecidableEq μ] in
/-- What a task does to the packets written. -/
theorem performs_posts {task : Task} {rest : List Task}
    (script : device.script = some (task :: rest)) :
    Posts parties device (device.performs parties.slave task rest) := by
  have left := device.performs_data parties.slave task rest
  have manager : (device.performs parties.slave task rest).manager =
      (after (task.perform parties.slave device.data)).manager := congrArg Data.manager left
  by_cases writing : ∃ reply packetId, task = .write reply packetId
  · obtain ⟨reply, packetId, rfl⟩ := writing
    rcases @perform_write κ parties reply packetId device.data with
      ⟨packet, made, outcome⟩ | ⟨error, outcome⟩
    · rw [outcome, after_ok] at manager
      refine .writes packet (.reply reply packetId rest script made) ?_ ?_
      · rw [manager]
        rfl
      · rw [manager]
        exact writes_snoc _ _
    · rw [outcome, after_error] at manager
      exact .keeps (by rw [manager]; rfl) (by rw [manager]; rfl)
  by_cases clearing : task = .clearQueues
  · subst clearing
    refine .clears ?_ rfl rfl
    unfold clears
    rw [script]
  · have unwritten (reply : Reply) (packetId : UInt16) : task ≠ .write reply packetId :=
      fun same => writing ⟨reply, packetId, same⟩
    have silent := @perform_silent κ parties task unwritten clearing device.data
    rw [← manager] at silent
    exact .keeps silent.1 silent.2

omit [DecidableEq μ] in
/-- A check leaves the manager and the packets read. -/
theorem checked_same {party : Party Queues} (sound : device.Sound)
    (later : device.machine.position ≠ 0)
    (wakes : device.party.wakeup parties.slave = some party) :
    party.data.manager = device.manager ∧ party.data.reads = device.data.reads := by
  cases wakes_verdict (wakeup_wakes parties.slave wakes sound.awake) later with
  | stays current nbLoop awake manager events reads received unheard ungreeted =>
    exact ⟨manager, reads⟩
  | moves target entered manager reads received events route => exact ⟨manager, reads⟩

/-- What an act does to the packets written. -/
theorem step_posts {act : Act Queues μ} (sound : device.Sound)
    (leaves : act.leaves device.manager.transport = true)
    (taken : device.step parties.slave act = some next) : Posts parties device next := by
  have same {transport : Queues} (leaves : decide (transport = device.manager.transport) = true) :
      transport.writeQueue = device.manager.transport.writeQueue := by
    rw [of_decide_eq_true leaves]
  cases step_acts taken with
  | returned | begun | called | uncalled | stopping => exact .keeps rfl rfl
  | performed task rest script => exact performs_posts script
  | checked party script alive later wakes =>
    have manager := (checked_same sound later wakes).1
    exact .keeps (congrArg (fun manager => manager.transport.writeQueue) manager)
      (congrArg (fun manager => writes manager.outputs) manager)
  | ticked batch running =>
    refine .keeps rfl ?_
    change writes (device.manager.outputs ++ List.replicate batch.length .timedOut) = _
    rw [writes_append, writes_timeouts, List.append_nil]
  | used user manager step goes =>
    have left : manager =
        after ((device.users user).statement parties.slave.environment device.manager) := by
      rcases goes with returned | ⟨error, thrown, -⟩
      · rw [returned, after_ok]
      · rw [thrown, after_error]
    have posts := @statement_posts κ parties (device.users user) device.manager
    rw [← left] at posts
    rcases posts with
      ⟨transport, outputs⟩ | ⟨packetId, payload, blocks, packet, place, made, transport, outputs⟩
    · exact .keeps (congrArg Queues.writeQueue transport) (congrArg writes outputs)
    · refine .writes packet (.data user packetId payload blocks place made)
        (congrArg Queues.writeQueue transport) ?_
      exact (congrArg writes outputs).trans (writes_snoc _ _)
  | changed transport => exact .keeps (same leaves) rfl
  | joined transport script first => exact .keeps (same leaves) rfl
  | started transport stopped => exact .keeps (same leaves) rfl

omit [DecidableEq μ] in
/-- What a task does to the packets read. -/
theorem performs_fetches {task : Task} {rest : List Task} (sound : device.Sound)
    (script : device.script = some (task :: rest)) :
    Fetches device (device.performs parties.slave task rest) := by
  have scripted := sound.scripted _ script
  have left := device.performs_data parties.slave task rest
  by_cases reading : ∃ state, task = .read state
  · obtain ⟨state, rfl⟩ := reading
    obtain ⟨rfl, rfl, -⟩ := scripted_read scripted
    rcases @perform_took κ parties device.state device.data with
      outcome | ⟨message, more, data, outcome, took⟩
    · rw [outcome, after_ok] at left
      exact .keeps (congrArg (fun data => data.manager.transport.readQueue) left)
        (congrArg Data.reads left)
    · rw [outcome, after_ok] at left
      refine .takes message script ?_ ((congrArg Data.reads left).trans took.reads)
      have queue : device.manager.transport.readQueue =
          message :: data.manager.transport.readQueue := took.queue
      rw [← left] at queue
      exact queue
  by_cases clearing : task = .clearQueues
  · subst clearing
    refine .clears ?_ rfl rfl
    unfold clears
    rw [script]
  · have unread (state : State) : task ≠ .read state := fun same => reading ⟨state, same⟩
    have still := @perform_still κ parties task unread clearing device.data
    rw [← left] at still
    exact .keeps still.1 still.2

/-- What an act does to the packets read. -/
theorem step_fetches {act : Act Queues μ} (sound : device.Sound)
    (leaves : act.leaves device.manager.transport = true)
    (taken : device.step parties.slave act = some next) : Fetches device next := by
  have same {transport : Queues} (leaves : decide (transport = device.manager.transport) = true) :
      transport.readQueue = device.manager.transport.readQueue := by
    rw [of_decide_eq_true leaves]
  cases step_acts taken with
  | returned | begun | called | uncalled | stopping => exact .keeps rfl rfl
  | performed task rest script => exact performs_fetches sound script
  | checked party script alive later wakes =>
    obtain ⟨manager, reads⟩ := checked_same sound later wakes
    exact .keeps (congrArg (fun manager => manager.transport.readQueue) manager) reads
  | ticked batch running => exact .keeps rfl rfl
  | used user manager step goes =>
    have still := @statement_still κ parties (device.users user) device.manager
    refine .keeps ?_ rfl
    rcases goes with returned | ⟨error, thrown, -⟩
    · rw [returned] at still
      exact still
    · rw [thrown] at still
      exact still
  | changed transport => exact .keeps (same leaves) rfl
  | joined transport script first => exact .keeps (same leaves) rfl
  | started transport stopped => exact .keeps (same leaves) rfl

end Device

end Hdcp.Appli.Slave
