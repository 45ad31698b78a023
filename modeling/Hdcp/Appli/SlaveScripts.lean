import Hdcp.Appli.SlaveEntries
import Hdcp.Appli.SlaveThreads

/-!
# Where the slave's thread can be

The scripts the slave's thread can be in are few, and each task leads from one to another. A packet
is sent by three tasks: the test of the transport, the taking of an id, the write.
-/

namespace Hdcp.Appli.Slave

open Base
open Hdcp.Slave hiding State

variable {τ : Type}

/-! ## Checks -/

/-- What a check leads to: the machine stays in its state, or moves to another. -/
inductive Verdict (slave next : Party τ) : Prop where
  /-- The state stays. -/
  | stays (current : next.machine.current = slave.machine.current)
      (nbLoop : next.machine.nbLoop = slave.machine.nbLoop)
      (awake : next.machine.waiting = false) (manager : next.data.manager = slave.data.manager)
      (events : next.data.events = slave.data.events) (reads : next.data.reads = slave.data.reads)
      (received : next.data.receivedPacketId = slave.data.receivedPacketId)
      -- An event that is tested last is only passed over when it is not pending.
      (unheard : slave.state = .disconnected ∨ slave.state = .connected →
        next.machine.position = 0 → .hipReceived ∉ slave.data.events)
      (ungreeted : slave.state = .connecting → next.machine.position = 0 →
        .firstKaReceived ∉ slave.data.events)
  /-- The state moves. -/
  | moves (target : State) (entered : next.machine = .entered target)
      (manager : next.data.manager = slave.data.manager)
        (reads : next.data.reads = slave.data.reads)
      (received : next.data.receivedPacketId = slave.data.receivedPacketId)
      (events : ∀ event ∈ next.data.events, event ∈ slave.data.events)
      (route : target = .disconnected ∧
          (.hipReceived ∈ next.data.events ↔ .hipReceived ∈ slave.data.events) ∨
        target = .connecting ∧ .hipReceived ∈ slave.data.events ∧
          .hipReceived ∉ next.data.events ∧
          (slave.state = .disconnected ∨ slave.state = .connected) ∨
        target = .connected ∧ slave.state = .connecting ∧
          (.hipReceived ∈ next.data.events ↔ .hipReceived ∈ slave.data.events))

/-- What a check leads to. -/
theorem wakes_verdict {setup : Setup τ} {slave next : Party τ} (wakes : Wakes setup slave next)
    (later : slave.machine.position ≠ 0) : Verdict slave next := by
  have fewer {data : Data τ} {gone : Event} (event : Event)
      (inside : event ∈ (data.without gone).events) : event ∈ data.events :=
    (Finset.mem_erase.mp inside).2
  have kept {data : Data τ} {gone : Event} (other : Event.hipReceived ≠ gone) :
      .hipReceived ∈ (data.without gone).events ↔ .hipReceived ∈ data.events :=
    ⟨fun inside => (Finset.mem_erase.mp inside).2, fun inside =>
      Finset.mem_erase.mpr ⟨other, inside⟩⟩
  cases wakes with
  | handled state nbLoop data returns => exact absurd rfl later
  | thrown state nbLoop data throws => exact absurd rfl later
  | begun nbLoop data =>
    exact .moves .disconnected rfl rfl rfl rfl (fun _ same => same) (.inl ⟨rfl, Iff.rfl⟩)
  | closed state nbLoop data other isClosed =>
    exact .moves .disconnected rfl rfl rfl rfl (fun _ same => same) (.inl ⟨rfl, Iff.rfl⟩)
  | stillOpen state nbLoop data other isOpen =>
    exact .stays rfl rfl rfl rfl rfl rfl rfl (fun _ first => by contradiction)
      fun _ first => by contradiction
  | kaTimeout state nbLoop data session pending =>
    exact .moves .disconnected rfl rfl rfl rfl fewer (.inl ⟨rfl, kept nofun⟩)
  | noKaTimeout state nbLoop data session absent =>
    exact .stays rfl rfl rfl rfl rfl rfl rfl (fun _ first => by contradiction)
      fun _ first => by contradiction
  | hipReceived state nbLoop position data last pending =>
    refine .moves .connecting rfl rfl rfl rfl fewer (.inr (.inl ⟨rfl, pending, ?_, ?_⟩))
    · exact fun inside => (Finset.mem_erase.mp inside).1 rfl
    · exact last.imp (fun same => same.1) fun same => same.1
  | noHip state nbLoop position data last absent =>
    refine .stays rfl rfl rfl rfl rfl rfl rfl (fun _ _ => absent) fun connecting _ => ?_
    rcases last with ⟨rfl, -⟩ | ⟨rfl, -⟩ <;> contradiction
  | connected nbLoop data pending =>
    exact .moves .connected rfl rfl rfl rfl fewer (.inr (.inr ⟨rfl, rfl, kept nofun⟩))
  | notConnected nbLoop data absent =>
    refine .stays rfl rfl rfl rfl rfl rfl rfl (fun session _ => ?_) fun _ _ => absent
    rcases session with same | same <;> contradiction

/-! ## Scripts -/

/-- The tasks that send a reply. -/
inductive Sending (reply : Reply) : Task → Prop where
  | send : Sending reply (.send reply)
  | number : Sending reply (.number reply)
  | write (packetId : UInt16) : Sending reply (.write reply packetId)

/-- The scripts of the handlers of a state, wherever the thread is in them. -/
inductive Scripted : State → List Task → Prop where
  | done (state : State) : Scripted state []
  | init : Scripted .init [.init]
  | stop : Scripted .disconnected [.stop, .clearQueues, .read .disconnected]
  | clearQueues : Scripted .disconnected [.clearQueues, .read .disconnected]
  | readDisconnected : Scripted .disconnected [.read .disconnected]
  | identified : Scripted .disconnected [.notify .hipReceived]
  | start : Scripted .connecting opening
  | identify {task : Task} (sending : Sending .dip task) :
      Scripted .connecting [task, .startKeepaliveManagement, .read .connecting]
  | watch : Scripted .connecting [.startKeepaliveManagement, .read .connecting]
  | readConnecting : Scripted .connecting [.read .connecting]
  | firstReset : Scripted .connecting [.resetKeepalive, .send .kaAck, .notify .firstKaReceived]
  | firstAck {task : Task} (sending : Sending .kaAck task) :
      Scripted .connecting [task, .notify .firstKaReceived]
  | firstKa : Scripted .connecting [.notify .firstKaReceived]
  | readConnected : Scripted .connected [.read .connected]
  | unwatch : Scripted .connected [.stopKeepaliveManagement, .stop, .notify .hipReceived]
  | unstart : Scripted .connected [.stop, .notify .hipReceived]
  | again : Scripted .connected [.notify .hipReceived]
  | commandReset (message : Message) : Scripted .connected
      [.resetKeepalive, .send .kaAck, .send (.cmdAck message.packet), .execute message]
  | commandAlive (message : Message) {task : Task} (sending : Sending .kaAck task) :
      Scripted .connected [task, .send (.cmdAck message.packet), .execute message]
  | commandAck (message : Message) {task : Task}
      (sending : Sending (.cmdAck message.packet) task) :
      Scripted .connected [task, .execute message]
  | execute (message : Message) : Scripted .connected [.execute message]
  | reset : Scripted .connected [.resetKeepalive, .send .kaAck]
  | alive {task : Task} (sending : Sending .kaAck task) : Scripted .connected [task]

section Tasks

variable {setup : Setup τ}

/-- The script of a handler that begins. -/
theorem scripted_tasks (state : State) (nbLoop : Nat) : Scripted state (tasks state nbLoop) := by
  cases state with
  | init => exact .init
  | disconnected =>
    rw [tasks]
    split
    · exact .stop
    · exact .readDisconnected
  | connecting =>
    rw [tasks]
    split
    · exact .start
    · exact .readConnecting
  | connected => exact .readConnected

/-- The test of the transport before a packet is sent. -/
theorem perform_send (reply : Reply) (data : Data τ) :
    (Task.send reply).perform setup data =
      .ok (if data.manager.isOpen setup.environment then [.number reply] else []) data := by
  rw [Task.perform, bind_apply, get_apply]
  dsimp only
  split
  · rfl
  · rfl

/-- A packet id is taken. -/
theorem perform_number (reply : Reply) (data : Data τ) :
    (Task.number reply).perform setup data = .ok [.write reply (data.manager.packetId + 1)]
      { data with manager := { data.manager with packetId := data.manager.packetId + 1 } } := rfl

/-- A packet is read, if there is one, and received. -/
theorem perform_read (state : State) (data : Data τ) :
    (Task.read state).perform setup data =
      match (setup.transport.read data.manager.transport).1 with
      | none => .ok [] (data.withTransport (setup.transport.read data.manager.transport).2)
      | some message =>
        receive state message
          ((data.withTransport (setup.transport.read data.manager.transport).2).reading state
            message) := by
  rw [Task.perform, bind_apply]
  unfold Slave.read
  simp only [bind_apply, get_apply, modify_apply]
  cases (setup.transport.read data.manager.transport).1 with
  | none => rfl
  | some message => rfl

/-- In state disconnected a HIP is taken in, and nothing else. -/
theorem receive_disconnected (message : Message) (data : Data τ) :
    receive .disconnected message data =
      if message.packet.type = PacketType.hip.code then
        .ok [.notify .hipReceived]
          { data with
            receivedPacketId := message.packet.id
            masterId := message.packet.blocks.foldl .setBlock data.masterId }
      else .ok [] data := by
  unfold receive
  split
  · rfl
  · rfl

/-- After the test of a packet id the id received is the packet's. -/
theorem checkPacketId_apply (packet : Packet) (data : Data τ) :
    checkPacketId packet data = .ok () { data with receivedPacketId := packet.id } := by
  unfold checkPacketId runIf
  by_cases fits : data.receivedPacketId + 1 = packet.id
  · simp only [bind_apply, modify_apply, get_apply, fits, ne_eq, not_true_eq_false, ↓reduceIte,
      pure_apply]
  · simp only [bind_apply, modify_apply, get_apply, fits, ne_eq, not_false_eq_true, ↓reduceIte]

/-- In state connecting a keepalive is answered, and nothing else. -/
theorem receive_connecting (message : Message) (data : Data τ) :
    receive .connecting message data =
      .ok (if message.packet.type = PacketType.ka.code then
          [.resetKeepalive, .send .kaAck, .notify .firstKaReceived]
        else []) { data with receivedPacketId := message.packet.id } := by
  unfold receive
  dsimp only
  rw [bind_apply, checkPacketId_apply]
  dsimp only
  split
  · rfl
  · rfl

/-- In state connected a HIP, a command or a keepalive is taken in. -/
theorem receive_connected (message : Message) (data : Data τ) :
    ∃ more next, receive .connected message data = .ok more next ∧
      next.manager = data.manager ∧ next.events = data.events ∧ next.reads = data.reads ∧
      next.receivedPacketId = message.packet.id ∧
      (message.packet.type = PacketType.hip.code ∧
          more = [.stopKeepaliveManagement, .stop, .notify .hipReceived] ∨
        message.packet.type ≠ PacketType.hip.code ∧
          (more = [.resetKeepalive, .send .kaAck, .send (.cmdAck message.packet),
              .execute message] ∨ more = [.resetKeepalive, .send .kaAck] ∨ more = [])) := by
  unfold receive
  dsimp only
  rw [bind_apply, checkPacketId_apply]
  dsimp only
  split
  · next hip => exact ⟨_, _, rfl, rfl, rfl, rfl, rfl, .inl ⟨hip, rfl⟩⟩
  · next other =>
    split
    · exact ⟨_, _, rfl, rfl, rfl, rfl, rfl, .inr ⟨other, .inl rfl⟩⟩
    · split
      · exact ⟨_, _, rfl, rfl, rfl, rfl, rfl, .inr ⟨other, .inr (.inl rfl)⟩⟩
      · exact ⟨_, _, rfl, rfl, rfl, rfl, rfl, .inr ⟨other, .inr (.inr rfl)⟩⟩

/-- The one task of a statement that returns nothing leaves nothing to do. -/
theorem more_of_action {α : Type} {action : Handler τ α} {more : List Task} {data next : Data τ}
    (performed : (do
      let _ ← action
      return []) data = .ok more next) : more = [] := by
  obtain ⟨_, middle, -, rest⟩ := (bind_eq_ok_iff _ _ _ _ _).mp performed
  cases rest
  rfl

/-- What a task can leave to do. -/
inductive Leaves : Task → List Task → Prop where
  | nothing (task : Task) : Leaves task []
  | sends (reply : Reply) : Leaves (.send reply) [.number reply]
  | numbers (reply : Reply) (packetId : UInt16) :
      Leaves (.number reply) [.write reply packetId]
  | identified : Leaves (.read .disconnected) [.notify .hipReceived]
  | firstKa : Leaves (.read .connecting)
      [.resetKeepalive, .send .kaAck, .notify .firstKaReceived]
  | again : Leaves (.read .connected)
      [.stopKeepaliveManagement, .stop, .notify .hipReceived]
  | command (message : Message) : Leaves (.read .connected)
      [.resetKeepalive, .send .kaAck, .send (.cmdAck message.packet), .execute message]
  | keepalive : Leaves (.read .connected) [.resetKeepalive, .send .kaAck]

/-- What a task leaves to do. -/
theorem perform_leaves {task : Task} {more : List Task} {data next : Data τ}
    (performed : task.perform setup data = .ok more next) : Leaves task more := by
  cases task with
  | send reply =>
    rw [perform_send] at performed
    cases performed
    split
    · exact .sends reply
    · exact .nothing _
  | number reply =>
    rw [perform_number] at performed
    cases performed
    exact .numbers reply _
  | write reply packetId =>
    obtain ⟨_, middle, -, rest⟩ := (bind_eq_ok_iff _ _ _ _ _).mp performed
    cases more_of_action rest
    exact .nothing _
  | resetKeepalive =>
    obtain ⟨_, middle, -, rest⟩ := (bind_eq_ok_iff _ _ _ _ _).mp performed
    cases more_of_action rest
    exact .nothing _
  | read state =>
    rw [perform_read] at performed
    cases found : (setup.transport.read data.manager.transport).1 with
    | none =>
      rw [found] at performed
      cases performed
      exact .nothing _
    | some message =>
      rw [found] at performed
      dsimp only at performed
      cases state with
      | init =>
        cases performed
        exact .nothing _
      | disconnected =>
        rw [receive_disconnected] at performed
        split at performed
        · cases performed
          exact .identified
        · cases performed
          exact .nothing _
      | connecting =>
        rw [receive_connecting] at performed
        cases performed
        split
        · exact .firstKa
        · exact .nothing _
      | connected =>
        obtain ⟨tasks, last, outcome, -, -, -, -, left⟩ := receive_connected message
          ((data.withTransport (setup.transport.read data.manager.transport).2).reading .connected
            message)
        rw [outcome] at performed
        cases performed
        rcases left with ⟨-, rfl⟩ | ⟨-, rfl | rfl | rfl⟩
        · exact .again
        · exact .command message
        · exact .keepalive
        · exact .nothing _
  | init | stop | clearQueues | start | startKeepaliveManagement | stopKeepaliveManagement
  | notify event | execute message =>
    cases more_of_action performed
    exact .nothing _

/-- A task of a reply, and what follows it. -/
theorem scripted_sending {state : State} {reply : Reply} {task : Task} {rest more : List Task}
    (sending : Sending reply task)
    (goes : ∀ later, Sending reply later → Scripted state (later :: rest))
    (ends : Scripted state rest) (leaves : Leaves task more) : Scripted state (more ++ rest) := by
  cases sending with
  | send =>
    cases leaves with
    | nothing => exact ends
    | sends => exact goes _ .number
  | number =>
    cases leaves with
    | nothing => exact ends
    | numbers reply packetId => exact goes _ (.write packetId)
  | write packetId =>
    cases leaves with
    | nothing => exact ends

/-- A task leads from one script of a state to another. -/
theorem Scripted.next {state : State} {script rest more : List Task} {task : Task}
    (scripted : Scripted state script) (same : script = task :: rest)
    (leaves : Leaves task more) : Scripted state (more ++ rest) := by
  cases scripted with
  | done => contradiction
  | identify sending =>
    cases same
    exact scripted_sending sending (fun _ => .identify) .watch leaves
  | firstAck sending =>
    cases same
    exact scripted_sending sending (fun _ => .firstAck) .firstKa leaves
  | commandAlive message sending =>
    cases same
    exact scripted_sending sending (fun _ => .commandAlive message) (.commandAck message .send)
      leaves
  | commandAck message sending =>
    cases same
    exact scripted_sending sending (fun _ => .commandAck message) (.execute message) leaves
  | alive sending =>
    cases same
    exact scripted_sending sending (fun _ => .alive) (.done _) leaves
  | start =>
    obtain ⟨rfl, rfl⟩ := List.cons.inj same
    cases leaves
    exact .identify .send
  | readDisconnected =>
    cases same
    cases leaves with
    | nothing => exact .done _
    | identified => exact .identified
  | readConnecting =>
    cases same
    cases leaves with
    | nothing => exact .done _
    | firstKa => exact .firstReset
  | readConnected =>
    cases same
    cases leaves with
    | nothing => exact .done _
    | again => exact .unwatch
    | command message => exact .commandReset message
    | keepalive => exact .reset
  | init =>
    cases same
    cases leaves
    exact .done _
  | stop =>
    cases same
    cases leaves
    exact .clearQueues
  | clearQueues =>
    cases same
    cases leaves
    exact .readDisconnected
  | identified | firstKa | again | execute message =>
    cases same
    cases leaves
    exact .done _
  | watch =>
    cases same
    cases leaves
    exact .readConnecting
  | firstReset =>
    cases same
    cases leaves
    exact .firstAck .send
  | unwatch =>
    cases same
    cases leaves
    exact .unstart
  | unstart =>
    cases same
    cases leaves
    exact .again
  | commandReset message =>
    cases same
    cases leaves
    exact .commandAlive message .send
  | reset =>
    cases same
    cases leaves
    exact .alive .send

end Tasks

end Hdcp.Appli.Slave
