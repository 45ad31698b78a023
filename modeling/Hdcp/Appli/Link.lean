import Hdcp.Appli.Master
import Hdcp.Appli.Slave
import Hdcp.Base.Runs

/-!
# A master and a slave on one link

Each party writes into its queue and reads from its queue; between them the packets are on the wire,
in both directions in order, for as long as it takes, none lost and none twice. The user, the
threads of both parties and the wire take steps in any order.
-/

namespace Hdcp.Appli

open Base Hdcp.Master

/-- The two parties and the packets on the wire, oldest first. -/
structure Link (κ : Type) where
  /-- The master. -/
  master : Master.Party Queues κ
  /-- The slave. -/
  slave : Slave.Party Queues
  /-- Packets on their way to the slave. -/
  toSlave : List Message
  /-- Packets on their way to the master. -/
  toMaster : List Message

/-- What the two parties are constructed with, their transports apart. -/
structure Parties (κ : Type) where
  /-- The master's identification. -/
  masterId : Identification
  /-- The slave's identification. -/
  slaveId : Identification
  /-- The exception a request's callback raises, if any. -/
  invoke : κ → Request κ → Option Exn
  /-- The master's `data_cb_`, and the exception it raises, if any. -/
  dataCb : Option (Packet → Option Exn)
  /-- The slave has a `cmd_cb_`. -/
  hasCmdCb : Bool
  /-- What a fresh packet's memory holds. -/
  raw : Packet

/-- What can happen. -/
inductive Happening (κ : Type) where
  /-- The master's state machine goes on. -/
  | master
  /-- A tick of the master's request manager. -/
  | masterTick (batch : List (Timer TimerCallback))
  /-- The user calls `async_connect`, or begins `connect`. -/
  | asyncConnect
  /-- A call of `connect` returns or throws. -/
  | connectReturns
  /-- The user calls `async_disconnect`. -/
  | asyncDisconnect
  /-- The user calls `send_command`. -/
  | sendCommand (type : UInt16) (data : Bytes) (cb : κ)
  /-- The slave's state machine goes on. -/
  | slave
  /-- A tick of the slave's request manager. -/
  | slaveTick (batch : List (Timer Hdcp.Slave.TimerCallback))
  /-- The slave's user calls `send_data`. -/
  | sendData (blocks : List BlockView)
  /-- The oldest packet the master wrote goes on the wire. -/
  | masterSends
  /-- The oldest packet on the wire reaches the slave. -/
  | slaveReceives
  /-- The oldest packet the slave wrote goes on the wire. -/
  | slaveSends
  /-- The oldest packet on the wire reaches the master. -/
  | masterReceives

section

variable {κ : Type}

/-- The master's setup, on a transport that never fails. -/
def Parties.master (parties : Parties κ) : Master.Setup Queues κ where
  masterId := parties.masterId
  transport := Queues.transport
  invoke := parties.invoke
  dataCb := parties.dataCb
  raw := parties.raw

/-- The slave's setup, on a transport that never fails. -/
def Parties.slave (parties : Parties κ) : Slave.Setup Queues where
  slaveId := parties.slaveId
  transport := Queues.transport
  hasCmdCb := parties.hasCmdCb
  raw := parties.raw

namespace Link

/-- Both parties just started, nothing on the wire. -/
def started : Link κ := ⟨.started .empty, .started .empty, [], []⟩

/-- The master's queues. -/
def masterQueues (link : Link κ) : Queues := link.master.data.manager.transport

/-- The slave's queues. -/
def slaveQueues (link : Link κ) : Queues := link.slave.data.manager.transport

/-- The link with other queues on the master's side. -/
def withMasterQueues (link : Link κ) (queues : Queues) : Link κ :=
  { link with
    master :=
      { link.master with
        data :=
          { link.master.data with
            manager := { link.master.data.manager with transport := queues } } } }

/-- The link with other queues on the slave's side. -/
def withSlaveQueues (link : Link κ) (queues : Queues) : Link κ :=
  { link with
    slave :=
      { link.slave with
        data :=
          { link.slave.data with
            manager := { link.slave.data.manager with transport := queues } } } }

/-- One step, if it can happen. -/
def step (parties : Parties κ) (link : Link κ) : Happening κ → Option (Link κ)
  | .master =>
    (link.master.wakeup parties.master).map fun master => { link with master := master }
  | .masterTick batch =>
    (link.master.tick parties.master batch).map fun master => { link with master := master }
  | .asyncConnect => some { link with master := link.master.asyncConnect }
  | .connectReturns => link.master.connectReturns.map fun master => { link with master := master }
  | .asyncDisconnect => some { link with master := link.master.asyncDisconnect }
  | .sendCommand type data cb =>
    some { link with master := link.master.sendCommand parties.master type data cb }
  | .slave => (link.slave.wakeup parties.slave).map fun slave => { link with slave := slave }
  | .slaveTick batch =>
    (link.slave.tick parties.slave batch).map fun slave => { link with slave := slave }
  | .sendData blocks => some { link with slave := link.slave.sendData parties.slave blocks }
  | .masterSends =>
    match link.masterQueues.writeQueue with
    | [] => none
    | message :: rest =>
      some { link.withMasterQueues { link.masterQueues with writeQueue := rest } with
        toSlave := link.toSlave ++ [message] }
  | .slaveReceives =>
    match link.toSlave with
    | [] => none
    | message :: rest =>
      some { link.withSlaveQueues
          { link.slaveQueues with readQueue := link.slaveQueues.readQueue ++ [message] } with
        toSlave := rest }
  | .slaveSends =>
    match link.slaveQueues.writeQueue with
    | [] => none
    | message :: rest =>
      some { link.withSlaveQueues { link.slaveQueues with writeQueue := rest } with
        toMaster := link.toMaster ++ [message] }
  | .masterReceives =>
    match link.toMaster with
    | [] => none
    | message :: rest =>
      some { link.withMasterQueues
          { link.masterQueues with readQueue := link.masterQueues.readQueue ++ [message] } with
        toMaster := rest }

/-- What a step can do. -/
inductive Moves (parties : Parties κ) (link : Link κ) : Happening κ → Link κ → Prop where
  /-- The master's state machine moves. -/
  | master {master : Master.Party Queues κ}
      (moved : link.master.wakeup parties.master = some master) :
      Moves parties link .master { link with master := master }
  /-- The master's timers tick. -/
  | masterTick {batch : List (Timer TimerCallback)} {master : Master.Party Queues κ}
      (moved : link.master.tick parties.master batch = some master) :
      Moves parties link (.masterTick batch) { link with master := master }
  /-- The master's user calls `async_connect`. -/
  | asyncConnect : Moves parties link .asyncConnect { link with master := link.master.asyncConnect }
  /-- The master's user leaves `connect`. -/
  | connectReturns {master : Master.Party Queues κ}
      (moved : link.master.connectReturns = some master) :
      Moves parties link .connectReturns { link with master := master }
  /-- The master's user calls `async_disconnect`. -/
  | asyncDisconnect :
      Moves parties link .asyncDisconnect { link with master := link.master.asyncDisconnect }
  /-- The master's user sends a command. -/
  | sendCommand (type : UInt16) (data : Bytes) (cb : κ) :
      Moves parties link (.sendCommand type data cb)
        { link with master := link.master.sendCommand parties.master type data cb }
  /-- The slave's state machine moves. -/
  | slave {slave : Slave.Party Queues} (moved : link.slave.wakeup parties.slave = some slave) :
      Moves parties link .slave { link with slave := slave }
  /-- The slave's timers tick. -/
  | slaveTick {batch : List (Timer Hdcp.Slave.TimerCallback)} {slave : Slave.Party Queues}
      (moved : link.slave.tick parties.slave batch = some slave) :
      Moves parties link (.slaveTick batch) { link with slave := slave }
  /-- The slave's user sends data. -/
  | sendData (blocks : List BlockView) :
      Moves parties link (.sendData blocks)
        { link with slave := link.slave.sendData parties.slave blocks }
  /-- A packet leaves the master. -/
  | masterSends {message : Message} {rest : List Message}
      (queue : link.masterQueues.writeQueue = message :: rest) :
      Moves parties link .masterSends
        { link.withMasterQueues { link.masterQueues with writeQueue := rest } with
          toSlave := link.toSlave ++ [message] }
  /-- It reaches the slave. -/
  | slaveReceives {message : Message} {rest : List Message}
      (wire : link.toSlave = message :: rest) :
      Moves parties link .slaveReceives
        { link.withSlaveQueues
            { link.slaveQueues with readQueue := link.slaveQueues.readQueue ++ [message] } with
          toSlave := rest }
  /-- A packet leaves the slave. -/
  | slaveSends {message : Message} {rest : List Message}
      (queue : link.slaveQueues.writeQueue = message :: rest) :
      Moves parties link .slaveSends
        { link.withSlaveQueues { link.slaveQueues with writeQueue := rest } with
          toMaster := link.toMaster ++ [message] }
  /-- It reaches the master. -/
  | masterReceives {message : Message} {rest : List Message}
      (wire : link.toMaster = message :: rest) :
      Moves parties link .masterReceives
        { link.withMasterQueues
            { link.masterQueues with readQueue := link.masterQueues.readQueue ++ [message] } with
          toMaster := rest }

/-- A step does one of these. -/
theorem step_moves {parties : Parties κ} {link next : Link κ} {happening : Happening κ}
    (taken : link.step parties happening = some next) : Moves parties link happening next := by
  cases happening with
  | master =>
    obtain ⟨master, moved, rfl⟩ := Option.map_eq_some_iff.mp taken
    exact .master moved
  | masterTick batch =>
    obtain ⟨master, moved, rfl⟩ := Option.map_eq_some_iff.mp taken
    exact .masterTick moved
  | asyncConnect =>
    cases taken
    exact .asyncConnect
  | connectReturns =>
    obtain ⟨master, moved, rfl⟩ := Option.map_eq_some_iff.mp taken
    exact .connectReturns moved
  | asyncDisconnect =>
    cases taken
    exact .asyncDisconnect
  | sendCommand type data cb =>
    cases taken
    exact .sendCommand type data cb
  | slave =>
    obtain ⟨slave, moved, rfl⟩ := Option.map_eq_some_iff.mp taken
    exact .slave moved
  | slaveTick batch =>
    obtain ⟨slave, moved, rfl⟩ := Option.map_eq_some_iff.mp taken
    exact .slaveTick moved
  | sendData blocks =>
    cases taken
    exact .sendData blocks
  | masterSends | slaveReceives | slaveSends | masterReceives =>
    unfold step at taken
    dsimp only at taken
    split at taken
    · contradiction
    · next message rest head =>
      cases taken
      constructor
      exact head

end Link

end

end Hdcp.Appli
