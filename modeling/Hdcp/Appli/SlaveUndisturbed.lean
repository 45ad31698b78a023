import Hdcp.Appli.SlaveEntries
import Hdcp.Appli.SlaveScripts

/-!
# Handlers of the slave that nothing interrupts

The tasks of a handler, performed one after another, are the handler; the statements of a call of
`send_data` are the call.
-/

namespace Hdcp.Appli.Slave

open Base
open Hdcp.Slave hiding State

variable {τ : Type}

section Manager

variable {α β : Type}

/-- A sequence of operations of the request manager. -/
theorem onManager_bind (first : Action τ α) (next : α → Action τ β) :
    onManager (first >>= next) = onManager first >>= fun value => onManager (next value) := by
  funext data
  rw [bind_apply]
  unfold onManager
  rw [bind_apply]
  cases first data.manager with
  | ok value manager => rfl
  | error error manager => rfl

/-- A choice between operations of the request manager. -/
theorem onManager_choice (condition : Prop) [Decidable condition] (yes no : Action τ α) :
    onManager (if condition then yes else no) =
      if condition then onManager yes else onManager no := by
  split
  · rfl
  · rfl

/-- An operation of the request manager under a condition. -/
theorem onManager_runIf (condition : Prop) [Decidable condition] (action : Action τ Unit) :
    onManager (runIf condition action) = runIf condition (onManager action) :=
  onManager_choice condition action (pure ())

end Manager

section Scripts

variable (setup : Setup τ)

/-- The write of a reply. -/
theorem spells_write (reply : Reply) (packetId : UInt16) :
    Spells (Task.perform setup) [.write reply packetId] (do
      let packet ← onManager (reply.make setup packetId)
      onManager (write setup.environment packet)) := by
  apply Spells.single
  rw [bind_assoc]
  rfl

/-- A reply without the test of the transport. -/
theorem spells_number (reply : Reply) :
    Spells (Task.perform setup) [.number reply]
      (onManager (sendMade setup.environment fun packetId => reply.make setup packetId)) := by
  have first : (Task.number reply).perform setup =
      onManager nextPacketId >>= fun packetId => pure [.write reply packetId] := rfl
  have spelled := Spells.task first fun packetId => spells_write setup reply packetId
  unfold sendMade
  simpa only [onManager_bind] using spelled

/-- A reply is an operation of the request manager. -/
theorem spells_send (reply : Reply) :
    Spells (Task.perform setup) [.send reply]
      (onManager (sendIfOpen setup.environment fun packetId => reply.make setup packetId)) := by
  have sent : onManager (sendIfOpen setup.environment fun packetId => reply.make setup packetId) =
      get >>= fun data => runIf (data.manager.isOpen setup.environment = true)
        (onManager (sendMade setup.environment fun packetId => reply.make setup packetId)) := by
    unfold sendIfOpen
    rw [onManager_bind]
    funext data
    exact congrFun (onManager_runIf _ _) data
  have first : (Task.send reply).perform setup = get >>= fun data =>
      pure (if data.manager.isOpen setup.environment then [.number reply] else []) := by
    funext data
    exact perform_send reply data
  rw [sent]
  apply Spells.task first
  intro data
  unfold runIf
  split
  · exact spells_number setup reply
  · exact .nil

/-- A keepalive received is answered. -/
theorem spells_keepalive :
    Spells (Task.perform setup) [.resetKeepalive, .send .kaAck]
      (onManager (keepalive setup.environment)) := by
  have reset : Spells (Task.perform setup) [.resetKeepalive] (do
      let data ← get
      runIf (data.manager.keepaliveMngt = true) (onManager Hdcp.Slave.resetKeepalive)) := by
    apply Spells.single
    rw [bind_assoc]
    rfl
  have both := reset.append (spells_send setup .kaAck)
  have same : onManager (keepalive setup.environment) = (do
      let data ← get
      runIf (data.manager.keepaliveMngt = true) (onManager Hdcp.Slave.resetKeepalive)) >>=
        fun _ => onManager (sendIfOpen setup.environment fun packetId =>
          Reply.make setup packetId .kaAck) := by
    unfold keepalive
    rw [onManager_bind]
    simp only [onManager_bind, onManager_runIf, bind_assoc]
    rfl
  rw [same]
  exact both

/-- A packet is read and processed, when what follows its reception is the rest of the handler. -/
theorem spells_read {state : State} {process : Message → Handler τ Unit}
    (early rest : Message → Handler τ Unit) (more : Message → List Task)
    (received : ∀ message, receive state message = early message >>= fun _ => pure (more message))
    (processed : ∀ message, process message = early message >>= fun _ => rest message)
    (spells : ∀ message, Spells (Task.perform setup) (more message) (rest message)) :
    Spells (Task.perform setup) [.read state]
      (readPacket setup state process >>= fun _ => pure ⟨⟩) := by
  have performs : (Task.read state).perform setup = read setup state >>= fun found =>
      found.elim (pure []) fun message => early message >>= fun _ => pure (more message) := by
    rw [Task.perform]
    congr 1
    funext found
    cases found with
    | none => rfl
    | some message => exact received message
  have whole : (readPacket setup state process >>= fun _ => pure ⟨⟩) =
      read setup state >>= fun found =>
        found.elim (pure ⟨⟩) fun message => early message >>= fun _ => rest message := by
    unfold readPacket
    rw [bind_assoc]
    congr 1
    funext found
    cases found with
    | none => rfl
    | some message =>
      simp only [bind_assoc, pure_bind, bind_pure_unit, Option.elim_some]
      exact processed message
  rw [whole]
  exact Spells.found early rest more performs spells

/-- A report of an event. -/
theorem spells_notify (event : Event) :
    Spells (Task.perform setup) [.notify event] (notify event) := .single rfl

/-- A packet read in state disconnected. -/
theorem spells_readDisconnected :
    Spells (Task.perform setup) [.read .disconnected]
      (readPacket setup .disconnected processDisconnected >>= fun _ => pure ⟨⟩) := by
  apply spells_read setup
    (fun message => runIf (message.packet.type = PacketType.hip.code) (do
      modify fun data => { data with receivedPacketId := message.packet.id }
      setMasterId message.packet))
    (fun message => runIf (message.packet.type = PacketType.hip.code) (notify .hipReceived))
    (fun message =>
      if message.packet.type = PacketType.hip.code then [.notify .hipReceived] else [])
  · intro message
    unfold receive runIf
    dsimp only
    split
    · rfl
    · rfl
  · intro message
    unfold processDisconnected runIf
    split
    · rfl
    · rfl
  · intro message
    unfold runIf
    split
    · exact spells_notify setup .hipReceived
    · exact .nil

/-- A packet read in state connecting. -/
theorem spells_readConnecting :
    Spells (Task.perform setup) [.read .connecting]
      (readPacket setup .connecting (processConnecting setup) >>= fun _ => pure ⟨⟩) := by
  apply spells_read setup (fun message => checkPacketId message.packet)
    (fun message => runIf (message.packet.type = PacketType.ka.code) (do
      onManager (keepalive setup.environment)
      notify .firstKaReceived))
    (fun message =>
      if message.packet.type = PacketType.ka.code then
        [.resetKeepalive, .send .kaAck, .notify .firstKaReceived]
      else [])
  · intro message
    unfold receive
    dsimp only
    congr 1
    funext _
    split
    · rfl
    · rfl
  · intro message
    rfl
  · intro message
    unfold runIf
    split
    · exact (spells_keepalive setup).append (spells_notify setup .firstKaReceived)
    · exact .nil

/-- A packet read in state connected. -/
theorem spells_readConnected :
    Spells (Task.perform setup) [.read .connected]
      (readPacket setup .connected (processConnected setup) >>= fun _ => pure ⟨⟩) := by
  apply spells_read setup
    (fun message => do
      checkPacketId message.packet
      runIf (message.packet.type = PacketType.hip.code)
        (modify fun data => { data with masterId := .empty }))
    (fun message =>
      if message.packet.type = PacketType.hip.code then do
        onManager stopKeepaliveManagement
        onManager Hdcp.Slave.stop
        notify .hipReceived
      else if message.packet.type = PacketType.cmd.code then do
        onManager (keepalive setup.environment)
        onManager (sendCmdAck setup.environment message.packet)
        execute setup message
      else runIf (message.packet.type = PacketType.ka.code)
        (onManager (keepalive setup.environment)))
    (fun message =>
      if message.packet.type = PacketType.hip.code then
        [.stopKeepaliveManagement, .stop, .notify .hipReceived]
      else if message.packet.type = PacketType.cmd.code then
        [.resetKeepalive, .send .kaAck, .send (.cmdAck message.packet), .execute message]
      else if message.packet.type = PacketType.ka.code then [.resetKeepalive, .send .kaAck]
      else [])
  · intro message
    unfold receive runIf
    dsimp only
    rw [bind_assoc]
    congr 1
    funext _
    split
    · rfl
    · split
      · rfl
      · split
        · rfl
        · rfl
  · intro message
    unfold processConnected runIf
    rw [bind_assoc]
    congr 1
    funext _
    split
    · rfl
    · rfl
  · intro message
    unfold runIf
    split
    · have unwatch : Spells (Task.perform setup) [.stopKeepaliveManagement]
        (onManager stopKeepaliveManagement) := .single rfl
      have unstart : Spells (Task.perform setup) [.stop] (onManager Hdcp.Slave.stop) :=
        .single rfl
      exact unwatch.append (unstart.append (spells_notify setup .hipReceived))
    · split
      · have executed : Spells (Task.perform setup) [.execute message] (execute setup message) :=
          .single rfl
        exact (spells_keepalive setup).append
          ((spells_send setup (.cmdAck message.packet)).append executed)
      · split
        · exact spells_keepalive setup
        · exact .nil

/-- The tasks of a handler are the handler. -/
theorem spells_tasks (state : State) (nbLoop : Nat) :
    Spells (Task.perform setup) (tasks state nbLoop)
      (handler setup state nbLoop >>= fun _ => pure ⟨⟩) := by
  cases state with
  | init =>
    apply Spells.single
    rw [bind_assoc]
    rfl
  | disconnected =>
    rw [tasks, handler, handlerStateDisconnected, bind_assoc]
    unfold runIf
    split
    · have stopped : Spells (Task.perform setup) [.stop] (onManager Hdcp.Slave.stop) :=
        .single rfl
      have cleared : Spells (Task.perform setup) [.clearQueues]
        (onManager (modify fun manager =>
          { manager with transport := setup.transport.clearQueues manager.transport })) :=
        .single rfl
      unfold enterDisconnected
      rw [bind_assoc]
      exact stopped.append (cleared.append (spells_readDisconnected setup))
    · exact spells_readDisconnected setup
  | connecting =>
    rw [tasks, handler, handlerStateConnecting, bind_assoc]
    unfold runIf
    split
    · have started : Spells (Task.perform setup) [.start] (onManager Hdcp.Slave.start) :=
        .single rfl
      have watched : Spells (Task.perform setup) [.startKeepaliveManagement]
        (onManager (startKeepaliveManagement keepaliveTimeout)) := .single rfl
      unfold enterConnecting
      simp only [bind_assoc]
      exact started.append ((spells_send setup .dip).append
        (watched.append (spells_readConnecting setup)))
    · exact spells_readConnecting setup
  | connected => exact spells_readConnected setup

end Scripts

section Calls

/-- The call is over. -/
def DataStep.ended : DataStep → Bool
  | idle => true
  | _ => false

/-- A packet of data, taken apart; the call goes on with a longer script than it needs. -/
theorem follow_numbered (env : Environment τ) (fuel : Nat) (packetId : UInt16)
    (payload blocks : List BlockView) :
    follow DataStep.ended (DataStep.statement env) (fuel + 1) (.numbered packetId payload blocks) =
      (do
        let packet ← made (Packet.makeData env.raw packetId payload)
        write env packet
        follow DataStep.ended (DataStep.statement env) fuel
          (match blocks with
          | [] => .idle
          | block :: blocks => .packing blocks [block] block.size)) := by
  rw [follow_next _ _ _ rfl]
  simp only [DataStep.statement, bind_assoc]
  congr 1
  funext packet
  congr 1
  funext _
  cases blocks with
  | nil => exact pure_bind _ _
  | cons block blocks => exact pure_bind _ _

/-- The statements of `send_data`, one after another, are the function. -/
theorem sendDataFrom_statements (env : Environment τ) (fuel : Nat)
    (blocks payload : List BlockView) (payloadSize : Nat) :
    follow DataStep.ended (DataStep.statement env) (fuel + 2 * blocks.length + 2)
        (.packing blocks payload payloadSize) = (do
      sendDataFrom env blocks payload payloadSize
      return .idle) := by
  induction blocks generalizing fuel payload payloadSize with
  | nil =>
    rw [follow_next _ _ _ rfl, sendDataFrom, DataStep.statement]
    unfold runIf
    split
    · unfold sendMade
      simp only [bind_assoc, pure_bind]
      congr 1
      funext packetId
      rw [follow_numbered]
      congr 1
      funext packet
      congr 1
      funext _
      exact follow_ended _ _ _ rfl
    · simp only [pure_bind]
      exact follow_ended _ _ _ rfl
  | cons block blocks ih =>
    rw [follow_next _ _ _ rfl, sendDataFrom, DataStep.statement]
    unfold runIf
    split
    · rfl
    · rw [pure_bind]
      split
      · unfold sendMade
        simp only [bind_assoc, pure_bind]
        congr 1
        funext packetId
        rw [List.length_cons, Nat.mul_succ, ← Nat.add_assoc, follow_numbered]
        congr 1
        funext packet
        congr 1
        funext _
        exact ih fuel [block] block.size
      · rw [pure_bind, List.length_cons, Nat.mul_succ]
        have more : fuel + (2 * blocks.length + 2) + 1 = fuel + 1 + 2 * blocks.length + 2 := by
          omega
        rw [more]
        exact ih (fuel + 1) (payload ++ [block]) (payloadSize + block.size)

end Calls

end Hdcp.Appli.Slave
