import Hdcp.Appli.Slave
import Hdcp.Base.Script
import Mathlib.Logic.Function.Basic

/-!
# The statements of the slave

Here the slave's thread and any number of users that send data take turns by statements, and so
between the taking of a packet id and the write of the packet. A handler is a script of tasks. The
timer thread only reports timeouts, a tick of it is one turn. A call of `send_data` passes the test
of `state()`, and then goes on packet by packet; a call made inside a callback is one of a user
during which the slave's thread takes no turn.
-/

namespace Hdcp.Appli.Slave

open Base
open Hdcp.Slave hiding State

/-- A packet that the slave's thread sends. -/
inductive Reply where
  /-- `make_dip`. -/
  | dip
  /-- `make_keepalive_ack`. -/
  | kaAck
  /-- `make_cmd_ack` for a command. -/
  | cmdAck (packet : Packet)

/-- What the slave's thread has to do inside a handler. -/
inductive Task where
  /-- `handler_state_init`. -/
  | init
  /-- `request_manager_.stop()`. -/
  | stop
  /-- `transport_->clear_queues()`. -/
  | clearQueues
  /-- `request_manager_.start()`. -/
  | start
  /-- `request_manager_.start_keepalive_management(keepalive_timeout)`. -/
  | startKeepaliveManagement
  /-- `request_manager_.stop_keepalive_management()`. -/
  | stopKeepaliveManagement
  /-- The restart of the keepalive timer in `request_manager_.keepalive()`. -/
  | resetKeepalive
  /-- The `is_open()` test before a packet is sent. -/
  | send (reply : Reply)
  /-- The packet id is taken. -/
  | number (reply : Reply)
  /-- The packet is made and written. -/
  | write (reply : Reply) (packetId : UInt16)
  /-- `transport_->read(p)` and what follows without another thread seeing it. -/
  | read (state : State)
  /-- `evt_mngr_.notify(event)`. -/
  | notify (event : Event)
  /-- The call of `cmd_cb_`. -/
  | execute (message : Message)

section Tasks

variable {τ : Type} (setup : Setup τ)

/-- The packet of a reply. -/
def Reply.make (packetId : UInt16) : Reply → Action τ Packet
  | dip => made (Packet.makeDip setup.raw packetId setup.slaveId)
  | kaAck => made (Packet.makeKeepaliveAck setup.raw packetId)
  | cmdAck packet => do
    let block ← firstBlock packet
    made (Packet.makeCmdAck setup.raw packetId block.type packet.id)

/-- What a packet read leaves to do. -/
def receive (state : State) (message : Message) : Handler τ (List Task) :=
  match state with
  | .disconnected =>
    if message.packet.type = PacketType.hip.code then do
      modify fun data => { data with receivedPacketId := message.packet.id }
      setMasterId message.packet
      return [.notify .hipReceived]
    else return []
  | .connecting => do
    checkPacketId message.packet
    if message.packet.type = PacketType.ka.code then
      return [.resetKeepalive, .send .kaAck, .notify .firstKaReceived]
    else return []
  | .connected => do
    checkPacketId message.packet
    if message.packet.type = PacketType.hip.code then
      modify fun data => { data with masterId := .empty }
      return [.stopKeepaliveManagement, .stop, .notify .hipReceived]
    else if message.packet.type = PacketType.cmd.code then
      return [.resetKeepalive, .send .kaAck, .send (.cmdAck message.packet), .execute message]
    else if message.packet.type = PacketType.ka.code then
      return [.resetKeepalive, .send .kaAck]
    else
      return []
  | .init => return []

/-- Perform a task; the tasks it leaves come before the others. -/
def Task.perform : Task → Handler τ (List Task)
  | init => do
    let _ ← handlerStateInit
    return []
  | stop => do
    onManager Hdcp.Slave.stop
    return []
  | clearQueues => do
    onManager (modify fun manager =>
      { manager with transport := setup.transport.clearQueues manager.transport })
    return []
  | start => do
    onManager Hdcp.Slave.start
    return []
  | startKeepaliveManagement => do
    onManager (Hdcp.Slave.startKeepaliveManagement keepaliveTimeout)
    return []
  | stopKeepaliveManagement => do
    onManager Hdcp.Slave.stopKeepaliveManagement
    return []
  | resetKeepalive => do
    let data ← get
    runIf (data.manager.keepaliveMngt = true) (onManager Hdcp.Slave.resetKeepalive)
    return []
  | send reply => do
    let data ← get
    if data.manager.isOpen setup.environment then return [.number reply] else return []
  | number reply => do
    let packetId ← onManager nextPacketId
    return [.write reply packetId]
  | write reply packetId => do
    let packet ← onManager (reply.make setup packetId)
    onManager (Hdcp.Slave.write setup.environment packet)
    return []
  | read state => do
    match ← Slave.read setup state with
    | none => return []
    | some message => receive state message
  | notify event => do
    Slave.notify event
    return []
  | execute message => do
    Slave.execute setup message
    return []

/-- The begin of a session in `Slave::handler_state_connecting`. -/
def opening : List Task :=
  [.start, .send .dip, .startKeepaliveManagement, .read .connecting]

/-- The tasks of the handler of a state, with the number of wakeups in it. -/
def tasks : State → Nat → List Task
  | .init, _ => [.init]
  | .disconnected, nbLoop =>
    if nbLoop = 1 then [.stop, .clearQueues, .read .disconnected] else [.read .disconnected]
  | .connecting, nbLoop => if nbLoop = 1 then opening else [.read .connecting]
  | .connected, _ => [.read .connected]

end Tasks

/-- Where a call of `send_data` is. -/
inductive DataStep where
  /-- There is no call. -/
  | idle
  /-- In the loop, with the blocks still to pack, the payload packed so far and its size. -/
  | packing (blocks payload : List BlockView) (payloadSize : Nat)
  /-- Before the packet of a payload is made and written; the loop goes on after the first of the
  blocks, which begins the next payload. -/
  | numbered (packetId : UInt16) (payload blocks : List BlockView)

/-- The next statement of a call of `send_data`. -/
def DataStep.statement {τ : Type} (env : Environment τ) : DataStep → Action τ DataStep
  | idle => return .idle
  | packing [] payload _ => do
    if payload.length ≠ 0 then
      let packetId ← nextPacketId
      return .numbered packetId payload []
    else return .idle
  | packing (block :: blocks) payload payloadSize => do
    if block.size > maxPlSize then
      throw (.application .dataTooBig none)
    else if payloadSize + block.size > maxPlSize then
      let packetId ← nextPacketId
      return .numbered packetId payload (block :: blocks)
    else return .packing blocks (payload ++ [block]) (payloadSize + block.size)
  | numbered packetId payload blocks => do
    let packet ← made (Packet.makeData env.raw packetId payload)
    write env packet
    match blocks with
    | [] => return .idle
    | block :: blocks => return .packing blocks [block] block.size

/-- A slave whose threads run statement by statement, with users `ι`. -/
structure Device (τ ι : Type) where
  /-- `statemachine_`. -/
  machine : Machine State
  /-- The other fields. -/
  data : Data τ
  /-- What is left of the handler the thread of `Slave::run` is in, if it is in one. -/
  script : Option (List Task)
  /-- The threads that call `send_data`. -/
  users : ι → DataStep
  /-- The thread of `Slave::run` runs. -/
  phase : Phase

/-- What the threads, the user and the transport can do next. -/
inductive Act (τ ι : Type) where
  /-- The thread of `Slave::run` goes on. -/
  | protocol
  /-- A tick of the request manager, with the order in which expired timers are called. -/
  | tick (batch : List (Timer TimerCallback))
  /-- A user calls `send_data`. -/
  | call (user : ι) (blocks : List BlockView)
  /-- A user goes on. -/
  | user (user : ι)
  /-- The transport changes on its own. -/
  | changed (transport : τ)
  /-- The user calls `stop`. -/
  | stop
  /-- The thread has ended, and the rest of `stop` leaves the transport so. -/
  | joined (transport : τ)
  /-- The user calls `start`, which leaves the transport so. -/
  | start (transport : τ)

namespace Device

variable {τ ι : Type}

/-- A slave as constructed, not started. -/
def initial (transport : τ) : Device τ ι where
  machine := .entered .init
  data := .initial transport
  script := none
  users := fun _ => .idle
  phase := .stopped

/-- `Slave::state`. -/
def state (device : Device τ ι) : State := device.machine.current

/-- The request manager. -/
def manager (device : Device τ ι) : Hdcp.Slave.State τ := device.data.manager

/-- The state machine and the fields. -/
def party (device : Device τ ι) : Party τ := ⟨device.machine, device.data⟩

/-- What a call leaves that sees the state machine and the fields. -/
def withParty (device : Device τ ι) (party : Party τ) : Device τ ι :=
  { device with machine := party.machine, data := party.data }

/-- The slave with another request manager. -/
def withManager (device : Device τ ι) (manager : Hdcp.Slave.State τ) : Device τ ι :=
  { device with data := { device.data with manager := manager } }

/-- The slave with another transport. -/
def withTransport (device : Device τ ι) (transport : τ) : Device τ ι :=
  device.withManager { device.manager with transport := transport }

section Steps

variable (setup : Setup τ)

/-- A handler begins. -/
def begins (device : Device τ ι) : Device τ ι :=
  { device with
    machine := device.machine.begun
    script := some (tasks device.state device.machine.begun.nbLoop) }

/-- A handler returns. -/
def returns (device : Device τ ι) : Device τ ι :=
  { device with
    machine := device.machine.passed (states setup device.state).length
    script := none }

/-- A task of a handler is performed; `Slave::run` catches an exception. -/
def performs (device : Device τ ι) (task : Task) (rest : List Task) : Device τ ι :=
  match task.perform setup device.data with
  | .ok more data => { device with data := data, script := some (more ++ rest) }
  | .error _ data =>
    { device with
      machine := { device.machine with position := 0 }
      data := data
      script := none }

/-- The thread of `Slave::run` goes on: inside a handler, or with one, or with a check. -/
def advances (device : Device τ ι) : Option (Device τ ι) :=
  match device.script with
  | some [] => some (device.returns setup)
  | some (task :: rest) => some (device.performs setup task rest)
  | none =>
    if device.phase = .stopped then none
    else if device.machine.position = 0 then some device.begins
    else (device.party.wakeup setup).map device.withParty

variable [DecidableEq ι]

/-- A user executes a statement; an exception ends the call. -/
def userDoes (device : Device τ ι) (user : ι) : Device τ ι :=
  match (device.users user).statement setup.environment device.manager with
  | .ok next manager =>
    { device.withManager manager with users := Function.update device.users user next }
  | .error _ manager =>
    { device.withManager manager with users := Function.update device.users user .idle }

/-- A statement of a user that returns. -/
theorem userDoes_ok (device : Device τ ι) (user : ι) {next : DataStep}
    {manager : Hdcp.Slave.State τ}
    (outcome : (device.users user).statement setup.environment device.manager =
      .ok next manager) :
    device.userDoes setup user =
      { device.withManager manager with users := Function.update device.users user next } := by
  unfold userDoes
  rw [outcome]

/-- A statement of a user that throws. -/
theorem userDoes_error (device : Device τ ι) (user : ι) {error : Exn}
    {manager : Hdcp.Slave.State τ}
    (outcome : (device.users user).statement setup.environment device.manager =
      .error error manager) :
    device.userDoes setup user =
      { device.withManager manager with users := Function.update device.users user .idle } := by
  unfold userDoes
  rw [outcome]

/-- One act, if it can happen. -/
def step (device : Device τ ι) : Act τ ι → Option (Device τ ι)
  | .protocol => device.advances setup
  | .tick batch => (device.party.tick setup batch).map device.withParty
  | .call user blocks =>
    match device.users user with
    | .idle =>
      if device.state = .connected then
        some { device with users := Function.update device.users user (.packing blocks [] 0) }
      else some device
    | _ => none
  | .user user => some (device.userDoes setup user)
  | .changed transport => some (device.withTransport transport)
  | .stop => if device.phase = .running then some { device with phase := .stopping } else none
  | .joined transport =>
    match device.script with
    | none =>
      if device.phase = .stopping ∧ device.machine.position = 0 then
        some { device.withManager { device.manager with running := false, transport := transport }
          with phase := .stopped }
      else none
    | some _ => none
  | .start transport =>
    if device.phase = .stopped then
      some { device.withTransport transport with machine := .entered .init, phase := .running }
    else none

end Steps

end Device

end Hdcp.Appli.Slave
