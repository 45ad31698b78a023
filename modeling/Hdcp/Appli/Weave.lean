import Hdcp.Appli.Link
import Hdcp.Appli.MasterThreads
import Hdcp.Appli.SlaveThreads

/-!
# A master and a slave on one link, statement by statement

The link is the one of the coarser model: queues that never fail and a wire that carries the packets
of each direction in order, for as long as it takes. The threads of both parties take turns by
statements, with any number of users on both sides.
-/

namespace Hdcp.Appli

open Base Hdcp.Master

/-- The two parties, statement by statement, and the packets on the wire, oldest first. -/
structure Weave (κ ι μ : Type) where
  /-- The master. -/
  master : Master.Host Queues κ ι
  /-- The slave. -/
  slave : Slave.Device Queues μ
  /-- Packets on their way to the slave. -/
  toSlave : List Message
  /-- Packets on their way to the master. -/
  toMaster : List Message

/-- What can happen. -/
inductive Strand (κ ι μ : Type) where
  /-- An act of the master. -/
  | master (act : Master.Act Queues κ ι)
  /-- An act of the slave. -/
  | slave (act : Slave.Act Queues μ)
  /-- The oldest packet the master wrote goes on the wire. -/
  | masterSends
  /-- The oldest packet on the wire reaches the slave. -/
  | slaveReceives
  /-- The oldest packet the slave wrote goes on the wire. -/
  | slaveSends
  /-- The oldest packet on the wire reaches the master. -/
  | masterReceives

/-- The act leaves the transport's queues to the party and the wire. -/
def Master.Act.leaves {κ ι : Type} (queues : Queues) : Master.Act Queues κ ι → Bool
  | .changed other | .joined other | .start other => other = queues
  | _ => true

/-- The act leaves the transport's queues to the party and the wire. -/
def Slave.Act.leaves {μ : Type} (queues : Queues) : Slave.Act Queues μ → Bool
  | .changed other | .joined other | .start other => other = queues
  | _ => true

namespace Weave

variable {κ ι μ : Type}

/-- Both parties as constructed, nothing on the wire. -/
def initial : Weave κ ι μ := ⟨.initial .empty, .initial .empty, [], []⟩

/-- The master's queues. -/
def masterQueues (weave : Weave κ ι μ) : Queues := weave.master.manager.transport

/-- The slave's queues. -/
def slaveQueues (weave : Weave κ ι μ) : Queues := weave.slave.manager.transport

/-- What the slave is still to read, oldest first. -/
def ahead (weave : Weave κ ι μ) : List Message :=
  weave.slaveQueues.readQueue ++ (weave.toSlave ++ weave.masterQueues.writeQueue)

/-- What the master is still to read, oldest first. -/
def back (weave : Weave κ ι μ) : List Message :=
  weave.masterQueues.readQueue ++ (weave.toMaster ++ weave.slaveQueues.writeQueue)

section Wire

variable {weave : Weave κ ι μ} {message : Message} {rest : List Message}

/-- What the master sends stays ahead of the slave. -/
theorem ahead_masterSends (queue : weave.masterQueues.writeQueue = message :: rest) :
    ahead { weave with
      master := weave.master.withTransport { weave.masterQueues with writeQueue := rest }
      toSlave := weave.toSlave ++ [message] } = weave.ahead := by
  unfold ahead
  rw [queue, List.append_assoc weave.toSlave]
  rfl

/-- What the slave receives stays ahead of it. -/
theorem ahead_slaveReceives (wire : weave.toSlave = message :: rest) :
    ahead { weave with
      slave := weave.slave.withTransport
        { weave.slaveQueues with readQueue := weave.slaveQueues.readQueue ++ [message] }
      toSlave := rest } = weave.ahead := by
  unfold ahead
  rw [wire]
  change (weave.slaveQueues.readQueue ++ [message]) ++ _ = _
  rw [List.append_assoc]
  rfl

/-- What the slave sends stays on its way back. -/
theorem back_slaveSends (queue : weave.slaveQueues.writeQueue = message :: rest) :
    back { weave with
      slave := weave.slave.withTransport { weave.slaveQueues with writeQueue := rest }
      toMaster := weave.toMaster ++ [message] } = weave.back := by
  unfold back
  rw [queue, List.append_assoc weave.toMaster]
  rfl

/-- What the master receives stays on its way back. -/
theorem back_masterReceives (wire : weave.toMaster = message :: rest) :
    back { weave with
      master := weave.master.withTransport
        { weave.masterQueues with readQueue := weave.masterQueues.readQueue ++ [message] }
      toMaster := rest } = weave.back := by
  unfold back
  rw [wire]
  change (weave.masterQueues.readQueue ++ [message]) ++ _ = _
  rw [List.append_assoc]
  rfl

end Wire

variable [DecidableEq ι] [DecidableEq μ]

/-- One strand, if it can happen. -/
def step (parties : Parties κ) (weave : Weave κ ι μ) : Strand κ ι μ → Option (Weave κ ι μ)
  | .master act =>
    if act.leaves weave.masterQueues then
      (weave.master.step parties.master act).map fun master => { weave with master := master }
    else none
  | .slave act =>
    if act.leaves weave.slaveQueues then
      (weave.slave.step parties.slave act).map fun slave => { weave with slave := slave }
    else none
  | .masterSends =>
    match weave.masterQueues.writeQueue with
    | [] => none
    | message :: rest =>
      some { weave with
        master := weave.master.withTransport { weave.masterQueues with writeQueue := rest }
        toSlave := weave.toSlave ++ [message] }
  | .slaveReceives =>
    match weave.toSlave with
    | [] => none
    | message :: rest =>
      some { weave with
        slave := weave.slave.withTransport
          { weave.slaveQueues with readQueue := weave.slaveQueues.readQueue ++ [message] }
        toSlave := rest }
  | .slaveSends =>
    match weave.slaveQueues.writeQueue with
    | [] => none
    | message :: rest =>
      some { weave with
        slave := weave.slave.withTransport { weave.slaveQueues with writeQueue := rest }
        toMaster := weave.toMaster ++ [message] }
  | .masterReceives =>
    match weave.toMaster with
    | [] => none
    | message :: rest =>
      some { weave with
        master := weave.master.withTransport
          { weave.masterQueues with readQueue := weave.masterQueues.readQueue ++ [message] }
        toMaster := rest }

/-- What a strand can do. -/
inductive Goes (parties : Parties κ) (weave : Weave κ ι μ) :
    Strand κ ι μ → Weave κ ι μ → Prop where
  /-- The master acts. -/
  | master {act : Master.Act Queues κ ι} {host : Master.Host Queues κ ι}
      (leaves : act.leaves weave.masterQueues = true)
      (acted : weave.master.step parties.master act = some host) :
      Goes parties weave (.master act) { weave with master := host }
  /-- The slave acts. -/
  | slave {act : Slave.Act Queues μ} {device : Slave.Device Queues μ}
      (leaves : act.leaves weave.slaveQueues = true)
      (acted : weave.slave.step parties.slave act = some device) :
      Goes parties weave (.slave act) { weave with slave := device }
  /-- A packet leaves the master. -/
  | masterSends {message : Message} {rest : List Message}
      (queue : weave.masterQueues.writeQueue = message :: rest) :
      Goes parties weave .masterSends
        { weave with
          master := weave.master.withTransport { weave.masterQueues with writeQueue := rest }
          toSlave := weave.toSlave ++ [message] }
  /-- It reaches the slave. -/
  | slaveReceives {message : Message} {rest : List Message}
      (wire : weave.toSlave = message :: rest) :
      Goes parties weave .slaveReceives
        { weave with
          slave := weave.slave.withTransport
            { weave.slaveQueues with readQueue := weave.slaveQueues.readQueue ++ [message] }
          toSlave := rest }
  /-- A packet leaves the slave. -/
  | slaveSends {message : Message} {rest : List Message}
      (queue : weave.slaveQueues.writeQueue = message :: rest) :
      Goes parties weave .slaveSends
        { weave with
          slave := weave.slave.withTransport { weave.slaveQueues with writeQueue := rest }
          toMaster := weave.toMaster ++ [message] }
  /-- It reaches the master. -/
  | masterReceives {message : Message} {rest : List Message}
      (wire : weave.toMaster = message :: rest) :
      Goes parties weave .masterReceives
        { weave with
          master := weave.master.withTransport
            { weave.masterQueues with readQueue := weave.masterQueues.readQueue ++ [message] }
          toMaster := rest }

/-- A strand does one of these, and each of them can happen. -/
theorem step_eq_some_iff {parties : Parties κ} {weave next : Weave κ ι μ} {strand : Strand κ ι μ} :
    weave.step parties strand = some next ↔ weave.Goes parties strand next := by
  constructor
  · intro taken
    cases strand with
    | master act =>
      unfold step at taken
      dsimp only at taken
      split at taken
      · next leaves =>
        obtain ⟨host, acted, rfl⟩ := Option.map_eq_some_iff.mp taken
        exact .master leaves acted
      · contradiction
    | slave act =>
      unfold step at taken
      dsimp only at taken
      split at taken
      · next leaves =>
        obtain ⟨device, acted, rfl⟩ := Option.map_eq_some_iff.mp taken
        exact .slave leaves acted
      · contradiction
    | masterSends | slaveReceives | slaveSends | masterReceives =>
      unfold step at taken
      dsimp only at taken
      split at taken
      · contradiction
      · next message rest head =>
        cases taken
        constructor
        exact head
  · intro goes
    cases goes with
    | master leaves acted | slave leaves acted =>
      exact (if_pos leaves).trans (Option.map_eq_some_iff.mpr ⟨_, acted, rfl⟩)
    | masterSends head | slaveReceives head | slaveSends head | masterReceives head =>
      unfold step
      rw [head]

end Weave

end Hdcp.Appli
