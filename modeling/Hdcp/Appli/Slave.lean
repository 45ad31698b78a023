import Hdcp.Base.EventSet
import Hdcp.Base.Statemachine
import Hdcp.Slave.RequestManager

/-!
# The slave

The protocol of the device: a state machine over the transport and the request manager, driven by
the packets it reads and by the timer that watches over the master. The handlers and the checks are
the source's.
-/

namespace Hdcp.Appli.Slave

open Base
open Hdcp.Slave hiding State

/-- `Slave::State`. -/
inductive State where
  | init
  | disconnected
  | connecting
  | connected
  deriving DecidableEq

/-- `Slave::Event`. -/
inductive Event where
  | hipReceived
  | firstKaReceived
  | kaTimeout
  deriving DecidableEq

/-- What a slave is constructed with: its identification, a transport of states `τ`, a callback. -/
structure Setup (τ : Type) where
  /-- `slave_id_`. -/
  slaveId : Identification
  /-- `transport_`. -/
  transport : Transport τ
  /-- `cmd_cb_` may be empty; what it raises is caught. -/
  hasCmdCb : Bool
  /-- What a fresh packet's memory holds. -/
  raw : Packet

/-- What the request manager is constructed with; `timeout_cb` raises nothing. -/
def Setup.environment {τ : Type} (setup : Setup τ) : Environment τ where
  attached := true
  isOpen := setup.transport.isOpen
  write := setup.transport.write
  timeoutCb := some none
  raw := setup.raw

/-- The fields of `Slave` and what it read, executed and reported so far. -/
structure Data (τ : Type) where
  /-- `request_manager_`, with the transport both use. -/
  manager : Hdcp.Slave.State τ
  /-- `evt_mngr_`. -/
  events : EventSet Event
  /-- `master_id_`. -/
  masterId : Identification
  /-- `received_packet_id_`. -/
  receivedPacketId : UInt16
  /-- `errc_`. -/
  errc : Option ErrorCode
  /-- The packets read, oldest first, each with the state it was read in. -/
  reads : List (State × Message)
  /-- The commands given to `cmd_cb_`, oldest first. -/
  executed : List Message
  /-- What the status callback was given, oldest first. -/
  statuses : List (State × Option ErrorCode)

/-- A slave as constructed. -/
def Data.initial {τ : Type} (transport : τ) : Data τ where
  manager := .initial transport
  events := .empty
  masterId := .empty
  receivedPacketId := 0
  errc := none
  reads := []
  executed := []
  statuses := []

/-- A member function of the slave. -/
abbrev Handler (τ α : Type) : Type := EStateM Exn (Data τ) α

section Handlers

variable {τ α : Type} (setup : Setup τ)

/-- An operation of the request manager. -/
def onManager (action : Action τ α) : Handler τ α := fun data =>
  match action data.manager with
  | .ok value manager => .ok value { data with manager := manager }
  | .error error manager => .error error { data with manager := manager }

/-- `evt_mngr_.notify(event)`. -/
def notify (event : Event) : Handler τ Unit :=
  modify fun data => { data with events := data.events.notify event }

/-- `evt_mngr_.erase(event)`, which says whether the event was pending. -/
def eraseEvent (event : Event) : Handler τ Bool := do
  let pending := (← get).events.contains event
  modify fun data => { data with events := data.events.erase event }
  return pending

/-- `transport_->read(p)`. -/
def read (state : State) : Handler τ (Option Message) := do
  let (found, transport) := setup.transport.read (← get).manager.transport
  modify fun data => { data with manager := { data.manager with transport := transport } }
  match found with
  | none => return none
  | some message =>
    modify fun data => { data with reads := data.reads ++ [(state, message)] }
    return some message

/-- `Slave::set_master_id`. -/
def setMasterId (packet : Packet) : Handler τ Unit :=
  modify fun data => { data with masterId := packet.blocks.foldl .setBlock data.masterId }

/-- `Slave::handler_state_init`. -/
def handlerStateInit : Handler τ TransitionStatus := do
  modify fun data => { data with events := .empty }
  modify fun data => { data with masterId := .empty }
  modify fun data => { data with errc := none }
  return .stayCurrState

/-- The end of the handlers: a packet, if there is one, is processed. -/
def readPacket (state : State) (process : Message → Handler τ Unit) :
    Handler τ TransitionStatus := do
  match ← read setup state with
  | none => return .stayCurrState
  | some message =>
    process message
    return .stayCurrState

/-- The part of `Slave::handler_state_disconnected` that runs once. -/
def enterDisconnected : Handler τ Unit := do
  onManager stop
  onManager (modify fun manager =>
    { manager with transport := setup.transport.clearQueues manager.transport })

/-- A packet read in state disconnected. -/
def processDisconnected (message : Message) : Handler τ Unit :=
  runIf (message.packet.type = PacketType.hip.code) do
    modify fun data => { data with receivedPacketId := message.packet.id }
    setMasterId message.packet
    notify .hipReceived

/-- `Slave::handler_state_disconnected`. -/
def handlerStateDisconnected (nbLoop : Nat) : Handler τ TransitionStatus := do
  runIf (nbLoop = 1) (enterDisconnected setup)
  readPacket setup .disconnected processDisconnected

/-- The test of a received packet's id against the one expected, which a loss corrects. -/
def checkPacketId (packet : Packet) : Handler τ Unit := do
  modify fun data => { data with receivedPacketId := data.receivedPacketId + 1 }
  let expected := (← get).receivedPacketId
  runIf (expected ≠ packet.id)
    (modify fun data => { data with receivedPacketId := packet.id })

/-- The part of `Slave::handler_state_connecting` that runs once. -/
def enterConnecting : Handler τ Unit := do
  onManager start
  onManager (sendDip setup.environment setup.slaveId)
  onManager (startKeepaliveManagement keepaliveTimeout)

/-- A packet read in state connecting. -/
def processConnecting (message : Message) : Handler τ Unit := do
  checkPacketId message.packet
  runIf (message.packet.type = PacketType.ka.code) do
    onManager (keepalive setup.environment)
    notify .firstKaReceived

/-- `Slave::handler_state_connecting`. -/
def handlerStateConnecting (nbLoop : Nat) : Handler τ TransitionStatus := do
  runIf (nbLoop = 1) (enterConnecting setup)
  readPacket setup .connecting (processConnecting setup)

/-- The call of `cmd_cb_` for a command of one block; a `std::exception` it throws is only logged,
and it throws no other here. -/
def execute (message : Message) : Handler τ Unit :=
  runIf (message.packet.blocks.length = 1 ∧ setup.hasCmdCb = true)
    (modify fun data => { data with executed := data.executed ++ [message] })

/-- A packet read in state connected. -/
def processConnected (message : Message) : Handler τ Unit := do
  checkPacketId message.packet
  if message.packet.type = PacketType.hip.code then
    modify fun data => { data with masterId := .empty }
    onManager stopKeepaliveManagement
    onManager stop
    notify .hipReceived
  else if message.packet.type = PacketType.cmd.code then
    onManager (keepalive setup.environment)
    onManager (sendCmdAck setup.environment message.packet)
    execute setup message
  else if message.packet.type = PacketType.ka.code then
    onManager (keepalive setup.environment)
  else
    pure ()

/-- `Slave::handler_state_connected`. -/
def handlerStateConnected : Handler τ TransitionStatus :=
  readPacket setup .connected (processConnected setup)

/-- `Slave::check_true`. -/
def checkTrue : Handler τ TransitionStatus := return .gotoNextState

/-- Go to the next state when an event is pending, and erase it. -/
def checkEvent (event : Event) : Handler τ TransitionStatus := do
  if ← eraseEvent event then return .gotoNextState else return .stayCurrState

/-- `Slave::check_hip_received`. -/
def checkHipReceived : Handler τ TransitionStatus := checkEvent .hipReceived

/-- `Slave::check_connected`. -/
def checkConnected : Handler τ TransitionStatus := checkEvent .firstKaReceived

/-- `Slave::check_ka_timeout`. -/
def checkKaTimeout : Handler τ TransitionStatus := do
  if ← eraseEvent .kaTimeout then
    modify fun data => { data with errc := some (.application .kaTimeout) }
    return .gotoNextState
  else
    return .stayCurrState

/-- `Slave::check_transport_closed`, which takes the transport's error code in any case. -/
def checkTransportClosed : Handler τ TransitionStatus := do
  let transport := (← get).manager.transport
  modify fun data => { data with errc := setup.transport.errorCode transport }
  if setup.transport.isOpen transport then return .stayCurrState else return .gotoNextState

/-- `states_`. -/
def states : State → List (Entry State Exn (Data τ))
  | .init =>
    [{ target := .init, handler := fun _ => handlerStateInit },
      { target := .disconnected, handler := fun _ => checkTrue }]
  | .disconnected =>
    [{ target := .disconnected, handler := handlerStateDisconnected setup },
      { target := .disconnected, handler := fun _ => checkTransportClosed setup },
      { target := .connecting, handler := fun _ => checkHipReceived }]
  | .connecting =>
    [{ target := .connecting, handler := handlerStateConnecting setup },
      { target := .disconnected, handler := fun _ => checkTransportClosed setup },
      { target := .disconnected, handler := fun _ => checkKaTimeout },
      { target := .connected, handler := fun _ => checkConnected }]
  | .connected =>
    [{ target := .connected, handler := fun _ => handlerStateConnected setup },
      { target := .disconnected, handler := fun _ => checkTransportClosed setup },
      { target := .disconnected, handler := fun _ => checkKaTimeout },
      { target := .connecting, handler := fun _ => checkHipReceived }]

/-- The transition handler: the status callback. -/
def transition (_ target : State) (data : Data τ) : Data τ :=
  { data with statuses := data.statuses ++ [(target, data.errc)], errc := none }

/-- `statemachine_`; the handlers of `Slave::run` around a wakeup only log. -/
def statemachine : Statemachine State Exn (Data τ) where
  table := states setup
  moved := transition
  caught := fun _ data => data

end Handlers

section Calls

variable {τ : Type} (setup : Setup τ)

/-- A slave: its state machine and its fields. -/
structure Party (τ : Type) where
  /-- `statemachine_`. -/
  machine : Machine State
  /-- The other fields. -/
  data : Data τ

/-- A slave just started. -/
def Party.started (transport : τ) : Party τ := ⟨.entered .init, .initial transport⟩

/-- `Slave::state`. -/
def Party.state (slave : Party τ) : State := slave.machine.current

/-- The thread of `Slave::run` goes on. -/
def Party.wakeup (slave : Party τ) : Option (Party τ) :=
  ((statemachine setup).step slave.machine slave.data).map fun next => ⟨next.1, next.2⟩

/-- `Slave::send_data`, whether it returns or throws. -/
def Party.sendData (slave : Party τ) (blocks : List BlockView) : Party τ :=
  if slave.state = .connected then
    { slave with
      data := after (onManager (Hdcp.Slave.sendData setup.environment blocks) slave.data) }
  else slave

/-- `Slave::timeout_cb`, for each of the timeouts reported. -/
def timeoutCb (events : EventSet Event) : List Output → EventSet Event
  | [] => events
  | .timedOut :: outputs => timeoutCb (events.notify .kaTimeout) outputs
  | .written _ :: outputs => timeoutCb events outputs

/-- A tick of the request manager's thread, with the order in which expired timers are called. -/
def Party.tick (slave : Party τ) (batch : List (Timer TimerCallback)) : Option (Party τ) :=
  if slave.data.manager.running ∧
      batch.Perm (slave.data.manager.timeoutQueue.expired slave.data.manager.now) then
    let manager := after (runOnce setup.environment batch slave.data.manager)
    some { slave with
      data :=
        { slave.data with
          manager := manager
          events := timeoutCb slave.data.events
            (manager.outputs.drop slave.data.manager.outputs.length) } }
  else none

end Calls

end Hdcp.Appli.Slave
