import Hdcp.Base.EventSet
import Hdcp.Base.Statemachine
import Hdcp.Master.RequestManager

/-!
# The master

The protocol of the host: a state machine over the transport and the request manager, driven by the
events that packets, timers and the user raise. The handlers and the checks are the source's. The
user's calls, the timer thread's ticks and the entries of the state machine are the steps between
which another thread can run.
-/

namespace Hdcp.Appli.Master

open Base
open Hdcp.Master hiding State Event

/-- `max_connection_attempts`. -/
def maxConnectionAttempts : Nat := 3

/-- `Master::State`. -/
inductive State where
  | init
  | disconnected
  | connecting
  | connected
  deriving DecidableEq

/-- `Master::Event`. -/
inductive Event where
  | connectionRequested
  | disconnectionRequested
  | dipReceived
  | dipTimeout
  | kaTimeout
  | stop
  | connectionAttempt
  deriving DecidableEq

/-- What a master is constructed with: its identification, a transport of states `τ`, callbacks. -/
structure Setup (τ κ : Type) where
  /-- `master_id_`. -/
  masterId : Identification
  /-- `transport_`. -/
  transport : Transport τ
  /-- The exception a request's callback raises, if any. -/
  invoke : κ → Request κ → Option Exn
  /-- `data_cb_`, which may be empty, and the exception it raises, if any. -/
  dataCb : Option (Packet → Option Exn)
  /-- What a fresh packet's memory holds. -/
  raw : Packet

/-- What the request manager is constructed with; `timeout_cb` raises nothing. -/
def Setup.environment {τ κ : Type} (setup : Setup τ κ) : Environment τ κ where
  attached := true
  isOpen := setup.transport.isOpen
  write := setup.transport.write
  invoke := setup.invoke
  timeoutCb := some fun _ => none
  raw := setup.raw

/-- The fields of `Master` and, in the last three, what it read, gave to `data_cb_` and reported so
far. -/
structure Data (τ κ : Type) where
  /-- `request_manager_`, with the transport both use. -/
  manager : Hdcp.Master.State τ κ
  /-- `evt_mngr_`. -/
  events : EventSet Event
  /-- `slave_id_`. -/
  slaveId : Identification
  /-- `received_packet_id_`. -/
  receivedPacketId : UInt16
  /-- `connection_attempts_`, an `uint`; each attempt but the first two waits a second for the
  timeout of another, so that it takes more than a century to wrap. -/
  connectionAttempts : Nat
  /-- `errc_`. -/
  errc : Option ErrorCode
  /-- The packets read, oldest first, each with the state it was read in. -/
  reads : List (State × Message)
  /-- The packets `data_cb_` was given, oldest first. -/
  delivered : List Message
  /-- What the status callback was given, oldest first. -/
  statuses : List (State × Option ErrorCode)

/-- A master as constructed. -/
def Data.initial {τ κ : Type} (transport : τ) : Data τ κ where
  manager := .initial transport
  events := .empty
  slaveId := .empty
  receivedPacketId := 0
  connectionAttempts := 0
  errc := none
  reads := []
  delivered := []
  statuses := []

/-- A member function of the master. -/
abbrev Handler (τ κ α : Type) : Type := EStateM Exn (Data τ κ) α

section Handlers

variable {τ κ α : Type} (setup : Setup τ κ)

/-- An operation of the request manager. -/
def onManager (action : Action τ κ α) : Handler τ κ α := fun data =>
  match action data.manager with
  | .ok value manager => .ok value { data with manager := manager }
  | .error error manager => .error error { data with manager := manager }

/-- `evt_mngr_.notify(event)`. -/
def notify (event : Event) : Handler τ κ Unit :=
  modify fun data => { data with events := data.events.notify event }

/-- `evt_mngr_.erase(event)`, which says whether the event was pending. -/
def eraseEvent (event : Event) : Handler τ κ Bool := do
  let pending := (← get).events.contains event
  modify fun data => { data with events := data.events.erase event }
  return pending

/-- `transport_->read(p)`. -/
def read (state : State) : Handler τ κ (Option Message) := do
  let (found, transport) := setup.transport.read (← get).manager.transport
  modify fun data => { data with manager := { data.manager with transport := transport } }
  match found with
  | none => return none
  | some message =>
    modify fun data => { data with reads := data.reads ++ [(state, message)] }
    return some message

/-- `Master::set_slave_id`. -/
def setSlaveId (packet : Packet) : Handler τ κ Unit :=
  modify fun data => { data with slaveId := packet.blocks.foldl .setBlock data.slaveId }

/-- `Master::handler_state_init`. -/
def handlerStateInit : Handler τ κ TransitionStatus := do
  modify fun data => { data with errc := none }
  modify fun data => { data with events := .empty }
  return .stayCurrState

/-- The part of `Master::handler_state_disconnected` that runs once. -/
def enterDisconnected : Handler τ κ Unit := do
  modify fun data => { data with slaveId := .empty }
  onManager stop

/-- `Master::handler_state_disconnected`, up to its wait for an event. -/
def handlerStateDisconnected (nbLoop : Nat) : Handler τ κ TransitionStatus := do
  runIf (nbLoop = 1) enterDisconnected
  return .stayCurrState

/-- The wait of `Master::handler_state_disconnected` goes on while no event is pending. -/
def waitsForEvent (data : Data τ κ) : Bool := data.events = .empty

/-- The end of the handlers that read: a packet, if there is one, is processed. -/
def readPacket (state : State) (process : Message → Handler τ κ Unit) :
    Handler τ κ TransitionStatus := do
  match ← read setup state with
  | none => return .stayCurrState
  | some message =>
    process message
    return .stayCurrState

/-- The part of `Master::handler_state_connecting` that runs once. -/
def enterConnecting : Handler τ κ Unit := do
  onManager (modify fun manager =>
    { manager with transport := setup.transport.clearQueues manager.transport })
  onManager start
  let _ ← eraseEvent .dipReceived
  modify fun data => { data with connectionAttempts := 0 }

/-- `connection_attempts_ == 0 || evt_mngr_.erase(Event::dip_timeout)`. -/
def attemptDue : Handler τ κ Bool := do
  if (← get).connectionAttempts = 0 then return true else eraseEvent .dipTimeout

/-- A connection attempt. -/
def attemptConnection : Handler τ κ Unit := do
  modify fun data => { data with connectionAttempts := data.connectionAttempts + 1 }
  onManager (sendHip setup.environment setup.masterId connectingTimeout)

/-- A packet read in state connecting. -/
def processConnecting (message : Message) : Handler τ κ Unit :=
  runIf (message.packet.type = PacketType.dip.code) do
    modify fun data => { data with receivedPacketId := message.packet.id }
    setSlaveId message.packet
    onManager ackDip
    notify .dipReceived

/-- `Master::handler_state_connecting`. -/
def handlerStateConnecting (nbLoop : Nat) : Handler τ κ TransitionStatus := do
  runIf (nbLoop = 1) (enterConnecting setup)
  let due ← attemptDue
  runIf (due = true) (attemptConnection setup)
  readPacket setup .connecting processConnecting

/-- The test of a received packet's id against the one expected, which a loss corrects. -/
def checkPacketId (packet : Packet) : Handler τ κ Unit := do
  modify fun data => { data with receivedPacketId := data.receivedPacketId + 1 }
  let expected := (← get).receivedPacketId
  runIf (expected ≠ packet.id)
    (modify fun data => { data with receivedPacketId := packet.id })

/-- `if (data_cb_) data_cb_(p)`. -/
def giveData (message : Message) : Handler τ κ Unit :=
  match setup.dataCb with
  | none => pure ()
  | some dataCb => do
    modify fun data => { data with delivered := data.delivered ++ [message] }
    match dataCb message.packet with
    | some error => throw error
    | none => pure ()

/-- A packet read in state connected. -/
def processConnected (message : Message) : Handler τ κ Unit := do
  checkPacketId message.packet
  if message.packet.type = PacketType.cmdAck.code then
    onManager (ackCommand setup.environment message.packet)
  else if message.packet.type = PacketType.data.code then
    giveData setup message
  else if message.packet.type = PacketType.kaAck.code then
    onManager ackKeepalive
  else
    pure ()

/-- `Master::handler_state_connected`. -/
def handlerStateConnected (nbLoop : Nat) : Handler τ κ TransitionStatus := do
  runIf (nbLoop = 1) (onManager
    (startKeepaliveManagement setup.environment keepaliveInterval keepaliveTimeout))
  readPacket setup .connected (processConnected setup)

/-- `Master::check_true`. -/
def checkTrue : Handler τ κ TransitionStatus := return .gotoNextState

/-- Go to the next state when an event is pending, and erase it. -/
def checkEvent (event : Event) : Handler τ κ TransitionStatus := do
  if ← eraseEvent event then return .gotoNextState else return .stayCurrState

/-- `Master::check_connection_requested`. -/
def checkConnectionRequested : Handler τ κ TransitionStatus := checkEvent .connectionRequested

/-- `Master::check_connected`. -/
def checkConnected : Handler τ κ TransitionStatus := checkEvent .dipReceived

/-- `Master::check_disconnected`. -/
def checkDisconnected : Handler τ κ TransitionStatus := checkEvent .disconnectionRequested

/-- `Master::check_dip_timeout`. -/
def checkDipTimeout : Handler τ κ TransitionStatus := do
  let data ← get
  if data.events.contains .dipTimeout ∧ maxConnectionAttempts ≤ data.connectionAttempts then
    let _ ← eraseEvent .dipTimeout
    modify fun data => { data with errc := some (.application .dipTimeout) }
    return .gotoNextState
  else
    return .stayCurrState

/-- `Master::check_ka_timeout`. -/
def checkKaTimeout : Handler τ κ TransitionStatus := do
  if ← eraseEvent .kaTimeout then
    modify fun data => { data with errc := some (.application .kaTimeout) }
    return .gotoNextState
  else
    return .stayCurrState

/-- `Master::check_transport_closed`. -/
def checkTransportClosed : Handler τ κ TransitionStatus := do
  let transport := (← get).manager.transport
  if setup.transport.isOpen transport then return .stayCurrState
  else
    modify fun data => { data with errc := setup.transport.errorCode transport }
    return .gotoNextState

/-- `states_`. -/
def states : State → List (Entry State Exn (Data τ κ))
  | .init =>
    [{ target := .init, handler := fun _ => handlerStateInit },
      { target := .disconnected, handler := fun _ => checkTrue }]
  | .disconnected =>
    [{ target := .disconnected, handler := handlerStateDisconnected, waits := waitsForEvent },
      { target := .connecting, handler := fun _ => checkConnectionRequested }]
  | .connecting =>
    [{ target := .connecting, handler := handlerStateConnecting setup },
      { target := .disconnected, handler := fun _ => checkTransportClosed setup },
      { target := .disconnected, handler := fun _ => checkDipTimeout },
      { target := .connected, handler := fun _ => checkConnected }]
  | .connected =>
    [{ target := .connected, handler := handlerStateConnected setup },
      { target := .disconnected, handler := fun _ => checkTransportClosed setup },
      { target := .disconnected, handler := fun _ => checkKaTimeout },
      { target := .disconnected, handler := fun _ => checkDisconnected }]

/-- The transition handler: the status callback, and the event `connect` waits for. -/
def transition (source target : State) (data : Data τ κ) : Data τ κ :=
  { data with
    statuses := data.statuses ++ [(target, data.errc)]
    errc := none
    events :=
      if source = .connecting then data.events.notify .connectionAttempt else data.events }

/-- The handlers of `Master::run` around a wakeup. -/
def caught (error : Exn) (data : Data τ κ) : Data τ κ :=
  match error.code with
  | some code => { data with errc := some code }
  | none => data

/-- `statemachine_`. -/
def statemachine : Statemachine State Exn (Data τ κ) where
  table := states setup
  moved := transition
  caught := caught

end Handlers

section Calls

variable {τ κ : Type} (setup : Setup τ κ)

/-- A master: its state machine and its fields. -/
structure Party (τ κ : Type) where
  /-- `statemachine_`. -/
  machine : Machine State
  /-- The other fields. -/
  data : Data τ κ

/-- A master just started. -/
def Party.started (transport : τ) : Party τ κ := ⟨.entered .init, .initial transport⟩

/-- `Master::state`. -/
def Party.state (master : Party τ κ) : State := master.machine.current

/-- The thread of `Master::run` goes on. -/
def Party.wakeup (master : Party τ κ) : Option (Party τ κ) :=
  ((statemachine setup).step master.machine master.data).map fun next => ⟨next.1, next.2⟩

/-- `Master::async_connect`; `Master::connect` begins the same way. -/
def Party.asyncConnect (master : Party τ κ) : Party τ κ :=
  if master.state = .connected then master
  else
    { master with
      data :=
        { master.data with events := master.data.events.notify .connectionRequested } }

/-- `Master::connect` after its wait for the attempt, which ends when the event is pending. -/
def Party.connectReturns (master : Party τ κ) : Option (Party τ κ) :=
  if master.data.events.contains .connectionAttempt then
    some { master with
      data := { master.data with events := master.data.events.erase .connectionAttempt } }
  else none

/-- `Master::async_disconnect`. -/
def Party.asyncDisconnect (master : Party τ κ) : Party τ κ :=
  if master.state = .disconnected then master
  else
    { master with
      data :=
        { master.data with events := master.data.events.notify .disconnectionRequested } }

/-- `async_connect` leaves the request manager. -/
@[simp]
theorem Party.asyncConnect_manager (master : Party τ κ) :
    master.asyncConnect.data.manager = master.data.manager := by
  unfold asyncConnect
  split <;> rfl

/-- `connect` leaves the request manager. -/
theorem Party.connectReturns_manager {master next : Party τ κ}
    (returned : master.connectReturns = some next) : next.data.manager = master.data.manager := by
  unfold connectReturns at returned
  split at returned
  · cases returned
    rfl
  · contradiction

/-- `async_disconnect` leaves the request manager. -/
@[simp]
theorem Party.asyncDisconnect_manager (master : Party τ κ) :
    master.asyncDisconnect.data.manager = master.data.manager := by
  unfold asyncDisconnect
  split <;> rfl

/-- `Master::send_command`, whether it returns or throws. -/
def Party.sendCommand (master : Party τ κ) (id : UInt16) (data : Bytes) (cb : κ) : Party τ κ :=
  if master.state = .connected then
    { master with
      data := after (onManager
        (Hdcp.Master.sendCommand setup.environment id data cb commandTimeout) master.data) }
  else master

/-- `Master::timeout_cb`, for each of the timeouts reported. -/
def timeoutCb (events : EventSet Event) : List (Output κ) → EventSet Event
  | [] => events
  | .timedOut .dipTimeout :: outputs => timeoutCb (events.notify .dipTimeout) outputs
  | .timedOut .kaTimeout :: outputs => timeoutCb (events.notify .kaTimeout) outputs
  | _ :: outputs => timeoutCb events outputs

/-- A tick of the request manager's thread, with the order in which expired timers are called. -/
def Party.tick (master : Party τ κ) (batch : List (Timer TimerCallback)) : Option (Party τ κ) :=
  if master.data.manager.running ∧
      batch.Perm (master.data.manager.timeoutQueue.expired master.data.manager.now) then
    let manager := after (runOnce setup.environment batch master.data.manager)
    some { master with
      data :=
        { master.data with
          manager := manager
          events := timeoutCb master.data.events
            (manager.outputs.drop master.data.manager.outputs.length) } }
  else none

end Calls

end Hdcp.Appli.Master
