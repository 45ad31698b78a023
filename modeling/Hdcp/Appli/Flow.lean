import Hdcp.Appli.Greeting
import Hdcp.Appli.MasterDelivers
import Hdcp.Appli.SlaveObeys
import Hdcp.Appli.SlaveTraffic

/-!
# What crosses the link

Whatever the two parties and their users do, each party reads only what the other wrote, in the
order in which it was written, and no packet twice. Packets are lost only where a party clears its
queues.
-/

namespace Hdcp.Appli

open Base Hdcp.Master

variable {κ ι μ : Type}

namespace Weave

/-- The packets the slave read, oldest first. -/
def heard (weave : Weave κ ι μ) : List Message := weave.slave.data.reads.map Prod.snd

/-- The packets the master read, oldest first. -/
def answered (weave : Weave κ ι μ) : List Message := weave.master.data.reads.map Prod.snd

/-- The packets the master wrote, oldest first. -/
def sent (weave : Weave κ ι μ) : List Message := writes weave.master.manager.outputs

/-- The packets the slave wrote, oldest first. -/
def posted (weave : Weave κ ι μ) : List Message := Hdcp.Slave.writes weave.slave.manager.outputs

/-- What was read and what is still to be read was written, in both directions. -/
structure Flows (parties : Parties κ) (weave : Weave κ ι μ) : Prop where
  /-- The master's thread is where it can be. -/
  host : weave.master.Sound parties.master
  /-- The slave's thread is where it can be. -/
  device : weave.slave.Sound
  /-- From the master to the slave. -/
  forth : Intact weave.heard weave.ahead weave.sent
  /-- From the slave to the master. -/
  backward : Intact weave.answered weave.back weave.posted
  /-- What the slave executes it read. -/
  obedient : weave.slave.Obedient
  /-- What the master delivers it read. -/
  attentive : weave.master.Attentive

variable {parties : Parties κ} {weave next : Weave κ ι μ}

/-- Two parties as constructed. -/
theorem flows_initial : (initial : Weave κ ι μ).Flows parties where
  host := Master.Host.sound_initial _
  device := Slave.Device.sound_initial _
  forth := .nil
  backward := .nil
  obedient := Slave.Device.obedient_initial _
  attentive := Master.Host.attentive_initial _

namespace Flows

/-- The wire moves packets, and changes no party but its queues. -/
theorem moved (flows : weave.Flows parties) (host : next.master.Sound parties.master)
    (device : next.slave.Sound) (ahead : next.ahead = weave.ahead) (back : next.back = weave.back)
    (heard : next.heard = weave.heard) (answered : next.answered = weave.answered)
    (sent : next.sent = weave.sent) (posted : next.posted = weave.posted)
    (obedient : next.slave.Obedient) (attentive : next.master.Attentive) :
    next.Flows parties := by
  refine ⟨host, device, ?_, ?_, obedient, attentive⟩
  · rw [heard, ahead, sent]
    exact flows.forth
  · rw [answered, back, posted]
    exact flows.backward

variable [DecidableEq ι] [DecidableEq μ]

omit [DecidableEq μ] in
/-- An act of the master. -/
theorem master (flows : weave.Flows parties) {act : Master.Act Queues κ ι}
    {host : Master.Host Queues κ ι} (leaves : act.leaves weave.masterQueues = true)
    (taken : weave.master.step parties.master act = some host) :
    ({ weave with master := host } : Weave κ ι μ).Flows parties := by
  have sound := Master.Host.sound_step flows.host taken
  have fetches := Master.Host.step_fetches flows.host leaves taken
  have sends := Master.Host.step_sends flows.host leaves taken
  have attentive := Master.Host.attentive_step flows.host flows.attentive taken
  refine ⟨sound, flows.device, ?_, ?_, flows.obedient, attentive⟩
  · have kept (queue : host.queue = weave.master.queue)
        (written : writes host.manager.outputs = writes weave.master.manager.outputs) :
        Intact weave.heard (weave.slaveQueues.readQueue ++ (weave.toSlave ++ host.queue))
          (writes host.manager.outputs) := by
      rw [queue, written]
      exact flows.forth
    have wrote (message : Message) (queue : host.queue = weave.master.queue ++ [message])
        (written : writes host.manager.outputs =
          writes weave.master.manager.outputs ++ [message]) :
        Intact weave.heard (weave.slaveQueues.readQueue ++ (weave.toSlave ++ host.queue))
          (writes host.manager.outputs) := by
      rw [queue, written, ← List.append_assoc weave.toSlave, ← List.append_assoc]
      exact flows.forth.writes message
    cases sends with
    | keeps held number queue written | takes thread acts takes free held number queue written
    | unmade thread id acts holds held number queue written fails
    | restarts rest script held number queue written => exact kept queue written
    | writes thread message acts holds held number queue written hip =>
      exact wrote message queue written
    | repeats message acts repeating held number queue written =>
      exact wrote message queue written
    | clears clears held number queue written mark =>
      change Intact weave.heard (weave.slaveQueues.readQueue ++ (weave.toSlave ++ host.queue))
        (writes host.manager.outputs)
      rw [queue, written]
      refine flows.forth.drops ?_
      exact ((List.nil_sublist _).append_left _).append_left _
  · cases fetches with
    | keeps queue reads =>
      change Intact (host.data.reads.map Prod.snd)
        (host.manager.transport.readQueue ++ (weave.toMaster ++ weave.slaveQueues.writeQueue))
          weave.posted
      rw [queue, reads]
      exact flows.backward
    | takes message script queue reads =>
      change Intact (host.data.reads.map Prod.snd)
        (host.manager.transport.readQueue ++ (weave.toMaster ++ weave.slaveQueues.writeQueue))
          weave.posted
      rw [reads, List.map_append]
      have before := flows.backward
      unfold back masterQueues at before
      rw [queue] at before
      exact before.reads
    | clears script queue reads =>
      change Intact (host.data.reads.map Prod.snd)
        (host.manager.transport.readQueue ++ (weave.toMaster ++ weave.slaveQueues.writeQueue))
          weave.posted
      rw [queue, reads]
      exact flows.backward.drops (List.sublist_append_right _ _)

omit [DecidableEq ι] in
/-- An act of the slave. -/
theorem slave (flows : weave.Flows parties) {act : Slave.Act Queues μ}
    {device : Slave.Device Queues μ} (leaves : act.leaves weave.slaveQueues = true)
    (taken : weave.slave.step parties.slave act = some device) :
    ({ weave with slave := device } : Weave κ ι μ).Flows parties := by
  have sound := Slave.Device.sound_step flows.device taken
  have fetches := Slave.Device.step_fetches flows.device leaves taken
  have posts := Slave.Device.step_posts flows.device leaves taken
  have obedient := Slave.Device.obedient_step flows.device flows.obedient taken
  refine ⟨flows.host, sound, ?_, ?_, obedient, flows.attentive⟩
  · change Intact (device.data.reads.map Prod.snd)
      (device.manager.transport.readQueue ++ (weave.toSlave ++ weave.masterQueues.writeQueue))
        weave.sent
    cases fetches with
    | keeps queue reads =>
      rw [queue, reads]
      exact flows.forth
    | takes message script queue reads =>
      rw [reads, List.map_append]
      have before := flows.forth
      unfold ahead slaveQueues at before
      rw [queue] at before
      exact before.reads
    | clears script queue reads =>
      rw [queue, reads]
      exact flows.forth.drops (List.sublist_append_right _ _)
  · change Intact weave.answered
      (weave.masterQueues.readQueue ++ (weave.toMaster ++ device.manager.transport.writeQueue))
        (Hdcp.Slave.writes device.manager.outputs)
    cases posts with
    | keeps queue written =>
      rw [queue, written]
      exact flows.backward
    | writes packet composes queue written =>
      rw [queue, written, ← List.append_assoc weave.toMaster, ← List.append_assoc]
      exact flows.backward.writes _
    | clears script queue written =>
      rw [queue, written]
      refine flows.backward.drops ?_
      exact ((List.nil_sublist _).append_left _).append_left _

omit [DecidableEq μ] in
/-- Another transport under the master. -/
theorem host_changed (flows : weave.Flows parties) (transport : Queues) :
    (weave.master.withTransport transport).Sound parties.master := by
  have taken : weave.master.step parties.master (.changed transport) =
      some (weave.master.withTransport transport) := rfl
  exact Master.Host.sound_step flows.host taken

omit [DecidableEq ι] in
/-- Another transport under the slave. -/
theorem device_changed (flows : weave.Flows parties) (transport : Queues) :
    (weave.slave.withTransport transport).Sound := by
  have taken : weave.slave.step parties.slave (.changed transport) =
      some (weave.slave.withTransport transport) := rfl
  exact Slave.Device.sound_step flows.device taken

/-- A strand. -/
theorem step (flows : weave.Flows parties) {strand : Strand κ ι μ}
    (taken : weave.step parties strand = some next) : next.Flows parties := by
  cases step_eq_some_iff.mp taken with
  | master leaves acted => exact flows.master leaves acted
  | slave leaves acted => exact flows.slave leaves acted
  | masterSends queue =>
    exact flows.moved (flows.host_changed _) flows.device (ahead_masterSends queue) rfl rfl rfl rfl
      rfl flows.obedient flows.attentive
  | slaveReceives wire =>
    exact flows.moved flows.host (flows.device_changed _) (ahead_slaveReceives wire) rfl rfl rfl rfl
      rfl flows.obedient flows.attentive
  | slaveSends queue =>
    exact flows.moved flows.host (flows.device_changed _) rfl (back_slaveSends queue) rfl rfl rfl
      rfl flows.obedient flows.attentive
  | masterReceives wire =>
    exact flows.moved (flows.host_changed _) flows.device rfl (back_masterReceives wire) rfl rfl rfl
      rfl flows.obedient flows.attentive

end Flows

end Weave

/-- What passes a test is kept of a sublist, and what passes a stricter one is among it. -/
theorem filter_reads {α β : Type} {reads : List (α × β)} {all : List β} {strict : α × β → Bool}
    {kind : β → Bool} (sub : (reads.map Prod.snd).Sublist all)
    (stricter : ∀ read, strict read = true → kind read.2 = true) :
    ((reads.filter strict).map Prod.snd).Sublist (all.filter kind) := by
  have weaker : (reads.filter strict).Sublist (reads.filter (kind ∘ Prod.snd)) :=
    List.monotone_filter_right reads stricter
  have same : (reads.filter (kind ∘ Prod.snd)).map Prod.snd = (reads.map Prod.snd).filter kind :=
    List.filter_map.symm
  refine (weaker.map Prod.snd).trans ?_
  rw [same]
  exact sub.filter kind

/-- In every run of the two parties, each reads what the other wrote, in this order and no packet
twice; the slave executes commands the master wrote, in this order and none twice, and the master's
user is given data the slave wrote, likewise. -/
theorem link_intact [DecidableEq ι] [DecidableEq μ] (parties : Parties κ)
    (strands : List (Strand κ ι μ)) (reached : Weave κ ι μ)
    (run : Run (Steps (Weave.step parties)) Weave.initial strands reached) :
    (reached.heard ++ reached.ahead).Sublist reached.sent ∧
      (reached.answered ++ reached.back).Sublist reached.posted ∧
      reached.slave.data.executed.Sublist (reached.sent.filter fun message => Command message) ∧
      reached.master.data.delivered.Sublist
        (reached.posted.filter fun message => message.packet.type = PacketType.data.code) := by
  have flows : reached.Flows parties :=
    run.invariant (fun weave strand next standing taken => standing.step taken) Weave.flows_initial
  refine ⟨flows.forth, flows.backward, ?_, ?_⟩
  · have executed : reached.slave.data.executed.Sublist reached.slave.data.commands :=
      flows.obedient.read_sublist
    refine executed.trans (filter_reads flows.forth.read_sublist fun read command => ?_)
    exact decide_eq_true (of_decide_eq_true command).2
  · have delivered : reached.master.data.delivered.Sublist reached.master.data.informations :=
      flows.attentive.read_sublist
    refine delivered.trans (filter_reads flows.backward.read_sublist fun read data => ?_)
    exact decide_eq_true (of_decide_eq_true data).2

/-- The slave executes the command and sends data, which the master reads. -/
def answeredSession : List (Strand Unit Unit Unit) :=
  greetedSession ++ .replicate 12 (.slave .protocol) ++ [.slave (.call () [⟨3, [1, 2]⟩])] ++
    .replicate 4 (.slave (.user ())) ++
    (List.replicate 4 [.slaveSends, .masterReceives]).flatten ++
    .replicate 60 (.master .protocol)

/-- In such a session a command is executed and data is delivered. -/
theorem link_intact_answered :
    ∃ reached, Run (Steps (Weave.step quietParties)) Weave.initial answeredSession reached ∧
      reached.slave.data.executed ≠ [] ∧ reached.master.data.delivered ≠ [] ∧
      (reached.heard ++ reached.ahead).Sublist reached.sent ∧
      (reached.answered ++ reached.back).Sublist reached.posted ∧
      reached.slave.data.executed.Sublist (reached.sent.filter fun message => Command message) ∧
      reached.master.data.delivered.Sublist
        (reached.posted.filter fun message => message.packet.type = PacketType.data.code) := by
  have executed : ((execute (Weave.step quietParties) Weave.initial answeredSession).any
      fun weave => decide (weave.slave.data.executed ≠ []) &&
        decide (weave.master.data.delivered ≠ [])) = true := by
    decide +kernel
  obtain ⟨reached, ended, found⟩ := (Option.any_eq_true _ _).mp executed
  rw [Bool.and_eq_true] at found
  have run := (execute_eq_some_iff _ _ _ _).mp ended
  exact ⟨reached, run, of_decide_eq_true found.1, of_decide_eq_true found.2,
    link_intact quietParties answeredSession reached run⟩

end Hdcp.Appli
