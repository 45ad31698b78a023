import Hdcp.Appli.Master
import Hdcp.Base.Script
import Hdcp.Master.Ownership
import Hdcp.Master.Statements

/-!
# The statements of the master

Here the master's thread, its timer thread and any number of users take turns by statements, and so
between the state machine's transition and the first handler call in the new state, and between the
taking of a packet id and the write of the packet. A handler is a script of tasks. A call of
`send_command` passes the test of `state()`, and then goes on statement by statement. A call made
inside a callback is a call of a user during which the thread of the callback takes no turn.
-/

namespace Hdcp.Appli.Master

open Base
open Hdcp.Master hiding State Event

/-- What the master's thread has to do inside a handler. -/
inductive Task (κ : Type) where
  /-- `handler_state_init`. -/
  | init
  /-- `slave_id_` is cleared. -/
  | forget
  /-- `transport_->clear_queues()`. -/
  | clearQueues
  /-- `evt_mngr_.erase(Event::dip_received)` and `connection_attempts_ = 0`. -/
  | resetAttempts
  /-- The test whether a connection attempt is due. -/
  | attempt
  /-- The begin of an operation of the request manager. -/
  | operate (operation : Operation)
  /-- The next statement of an operation of the request manager. -/
  | manage (place : ProtocolStep κ)
  /-- `transport_->read(p)` and what follows without another thread seeing it. -/
  | read (state : State)
  /-- `evt_mngr_.notify(Event::dip_received)`. -/
  | notifyDip
  /-- `data_cb_(p)`. -/
  | giveData (message : Message)

section Tasks

variable {τ κ : Type} (setup : Setup τ κ)

/-- The surroundings of the request manager, whose callbacks send nothing on their own thread. -/
def Setup.program : Program τ κ where
  toEnvironment := setup.environment
  calls := fun _ _ => []

/-- What is left of an operation of the request manager. -/
def remaining (place : ProtocolStep κ) : List (Task κ) :=
  if place.ended then [] else [.manage place]

/-- What a packet read leaves to do. -/
def receive (state : State) (message : Message) : Handler τ κ (List (Task κ)) :=
  match state with
  | .connecting =>
    if message.packet.type = PacketType.dip.code then do
      modify fun data => { data with receivedPacketId := message.packet.id }
      setSlaveId message.packet
      return [.operate .ackDip, .notifyDip]
    else return []
  | .connected => do
    checkPacketId message.packet
    if message.packet.type = PacketType.cmdAck.code then
      return [.operate (.ackCommand message.packet)]
    else if message.packet.type = PacketType.data.code then
      return [.giveData message]
    else if message.packet.type = PacketType.kaAck.code then
      return [.operate .ackKeepalive]
    else
      return []
  | _ => return []

/-- Perform a task; the tasks it leaves come before the others. -/
def Task.perform : Task κ → Handler τ κ (List (Task κ))
  | init => do
    let _ ← handlerStateInit
    return []
  | forget => do
    modify fun data => { data with slaveId := .empty }
    return []
  | clearQueues => do
    onManager (modify fun manager =>
      { manager with transport := setup.transport.clearQueues manager.transport })
    return []
  | resetAttempts => do
    let _ ← eraseEvent .dipReceived
    modify fun data => { data with connectionAttempts := 0 }
    return []
  | attempt => do
    if ← attemptDue then
      modify fun data => { data with connectionAttempts := data.connectionAttempts + 1 }
      return [.operate (.sendHip setup.masterId connectingTimeout)]
    else return []
  | operate operation => do
    let place ← onManager (operation.statement setup.environment)
    return remaining place
  | manage place => do
    let next ← onManager (place.statement setup.program)
    return remaining next
  | read state => do
    match ← Master.read setup state with
    | none => return []
    | some message => receive state message
  | notifyDip => do
    notify .dipReceived
    return []
  | giveData message => do
    Master.giveData setup message
    return []

/-- The begin of a session in `Master::handler_state_connecting`. -/
def opening : List (Task κ) :=
  [.clearQueues, .operate .start, .resetAttempts, .attempt, .read .connecting]

/-- The tasks of the handler of a state, with the number of wakeups in it. -/
def tasks : State → Nat → List (Task κ)
  | .init, _ => [.init]
  | .disconnected, nbLoop => if nbLoop = 1 then [.forget, .operate .stop] else []
  | .connecting, nbLoop => if nbLoop = 1 then opening else [.attempt, .read .connecting]
  | .connected, nbLoop =>
    if nbLoop = 1 then
      [.operate (.startKeepaliveManagement keepaliveInterval keepaliveTimeout), .read .connected]
    else [.read .connected]

end Tasks

/-- A master whose threads run statement by statement, with users `ι`. -/
structure Host (τ κ ι : Type) where
  /-- `statemachine_`. -/
  machine : Machine State
  /-- The other fields. -/
  data : Data τ κ
  /-- What is left of the handler the thread of `Master::run` is in, if it is in one. -/
  script : Option (List (Task κ))
  /-- The thread of `RequestManager::run`. -/
  timer : TimerStep κ
  /-- The threads that call `send_command`. -/
  users : ι → SendStep κ
  /-- The thread of `Master::run` runs. -/
  phase : Phase
  /-- How many packets had been written when the queues were cleared last, or when a HIP was. -/
  mark : Nat

/-- What the threads, the user and the transport can do next. -/
inductive Act (τ κ ι : Type) where
  /-- The thread of `Master::run` goes on. -/
  | protocol
  /-- The timer thread takes the batch of a tick. -/
  | take (batch : List (Timer TimerCallback))
  /-- The timer thread goes on. -/
  | timer
  /-- A user calls `send_command`. -/
  | call (user : ι) (type : UInt16) (data : Bytes) (cb : κ)
  /-- A user goes on. -/
  | user (user : ι)
  /-- The user calls `async_connect`, or begins `connect`. -/
  | asyncConnect
  /-- The wait of `connect` ends. -/
  | connectReturns
  /-- The user calls `async_disconnect`. -/
  | asyncDisconnect
  /-- The transport changes on its own. -/
  | changed (transport : τ)
  /-- The user calls `stop`. -/
  | stop
  /-- The thread has ended, and the rest of `stop` leaves the transport so. -/
  | joined (transport : τ)
  /-- The user calls `start`, which leaves the transport so. -/
  | start (transport : τ)

namespace Host

variable {τ κ ι : Type}

/-- A master as constructed, not started. -/
def initial (transport : τ) : Host τ κ ι where
  machine := .entered .init
  data := .initial transport
  script := none
  timer := .idle
  users := fun _ => .idle
  phase := .stopped
  mark := 0

/-- `Master::state`. -/
def state (host : Host τ κ ι) : State := host.machine.current

/-- The request manager. -/
def manager (host : Host τ κ ι) : Hdcp.Master.State τ κ := host.data.manager

/-- The state machine and the fields. -/
def party (host : Host τ κ ι) : Party τ κ := ⟨host.machine, host.data⟩

/-- Where the master's thread is in an operation of the request manager. -/
def place (host : Host τ κ ι) : ProtocolStep κ :=
  match host.script with
  | some (.manage place :: _) => place
  | _ => .idle

/-- The request manager and the threads that run its operations. -/
def crew (host : Host τ κ ι) : Crew τ κ ι := ⟨host.manager, host.timer, host.place, host.users⟩

/-- What the other threads leave; the timeouts they report become events. -/
def withCrew (host : Host τ κ ι) (crew : Crew τ κ ι) : Host τ κ ι :=
  { host with
    data :=
      { host.data with
        manager := crew.manager
        events := timeoutCb host.data.events
          (crew.manager.outputs.drop host.manager.outputs.length) }
    timer := crew.timer
    users := crew.users }

/-- What a call leaves that sees the state machine and the fields. -/
def withParty (host : Host τ κ ι) (party : Party τ κ) : Host τ κ ι :=
  { host with machine := party.machine, data := party.data }

/-- The master with another transport. -/
def withTransport (host : Host τ κ ι) (transport : τ) : Host τ κ ι :=
  { host with
    data := { host.data with manager := { host.manager with transport := transport } } }

/-- A session begins where the queues are cleared, and once more with each of its HIPs. -/
def marked (host : Host τ κ ι) : Task κ → Nat
  | .clearQueues | .manage (.hipWrite _ _ _) => (writes host.manager.outputs).length
  | _ => host.mark

section Steps

variable (setup : Setup τ κ)

/-- A handler begins. -/
def begins (host : Host τ κ ι) : Host τ κ ι :=
  { host with
    machine := host.machine.begun
    script := some (tasks host.state host.machine.begun.nbLoop) }

/-- A handler returns; that of state disconnected waits for an event first. -/
def returns (host : Host τ κ ι) : Host τ κ ι :=
  { host with
    machine :=
      if host.state = .disconnected ∧ waitsForEvent host.data then
        { host.machine with waiting := true }
      else host.machine.passed (states setup host.state).length
    script := none }

/-- A task of a handler is performed; `Master::run` catches an exception. -/
def performs (host : Host τ κ ι) (task : Task κ) (rest : List (Task κ)) : Host τ κ ι :=
  match task.perform setup host.data with
  | .ok more data =>
    { host with data := data, script := some (more ++ rest), mark := host.marked task }
  | .error error data =>
    { host with
      machine := { host.machine with position := 0 }
      data := caught error data
      script := none
      mark := host.marked task }

/-- The thread of `Master::run` goes on: inside a handler, or with one, or with a check. -/
def advances (host : Host τ κ ι) : Option (Host τ κ ι) :=
  match host.script with
  | some [] => some (host.returns setup)
  | some (task :: rest) =>
    if host.crew.protocolReady then some (host.performs setup task rest) else none
  | none =>
    if host.phase = .stopped then none
    else if host.machine.position = 0 ∧ host.machine.waiting = false then some host.begins
    else (host.party.wakeup setup).map host.withParty

variable [DecidableEq ι]

/-- Another thread takes a turn. -/
def turns (host : Host τ κ ι) (turn : Turn τ κ ι) : Option (Host τ κ ι) :=
  (host.crew.step setup.program turn).map host.withCrew

/-- One act, if it can happen. -/
def step (host : Host τ κ ι) : Act τ κ ι → Option (Host τ κ ι)
  | .protocol => host.advances setup
  | .take batch => host.turns setup (.take batch)
  | .timer => host.turns setup .timer
  | .call user type data cb =>
    if host.state = .connected then host.turns setup (.call user ⟨type, data, cb, commandTimeout⟩)
    else some host
  | .user user => host.turns setup (.user user)
  | .asyncConnect => some (host.withParty host.party.asyncConnect)
  | .connectReturns => host.party.connectReturns.map host.withParty
  | .asyncDisconnect => some (host.withParty host.party.asyncDisconnect)
  | .changed transport => some (host.withTransport transport)
  | .stop =>
    if host.phase = .running then
      some { host with
        data := { host.data with events := host.data.events.notify .stop }, phase := .stopping }
    else none
  | .joined transport =>
    match host.script, host.timer with
    | none, .idle =>
      if host.phase = .stopping ∧ host.machine.position = 0 ∧ host.machine.waiting = false then
        some { host with
          data :=
            { host.data with
              manager := { host.manager with running := false, transport := transport } }
          phase := .stopped }
      else none
    | _, _ => none
  | .start transport =>
    if host.phase = .stopped then
      some { host.withTransport transport with machine := .entered .init, phase := .running }
    else none

end Steps

end Host

end Hdcp.Appli.Master
