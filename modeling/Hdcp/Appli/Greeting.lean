import Hdcp.Appli.Delivery
import Hdcp.Appli.MasterGreets
import Hdcp.Appli.SlaveHears

/-!
# Keepalives come before commands

A slave that waits for the first keepalive discards whatever comes before it. As long as a call of
`send_command` passes the test of `state()` only after the keepalive, the packets behind every HIP
on the link have a keepalive before their first command, and the slave discards no command.
-/

namespace Hdcp.Appli

open Base Hdcp.Master

variable {κ ι μ : Type}

/-- What is behind a HIP: a keepalive comes before any command, and one is there if the session was
greeted. -/
def Ready (greeted : Prop) (stream : List Message) : Prop :=
  Announced Keepalive Command False stream ∧ (greeted → ∃ message ∈ stream, Keepalive message)

namespace Ready

variable {greeted later : Prop} {stream : List Message}

/-- Behind a HIP that was just written there is nothing. -/
theorem fresh (ungreeted : ¬ greeted) : Ready greeted [] :=
  ⟨trivial, fun before => absurd before ungreeted⟩

/-- A session that is not greeted later is ready when it was before. -/
theorem mono (ready : Ready greeted stream) (same : later → greeted) : Ready later stream :=
  ⟨ready.1, fun greets => ready.2 (same greets)⟩

/-- A packet is written. -/
theorem snoc {message : Message} (ready : Ready greeted stream)
    (command : Command message → greeted) (greets : later → greeted ∨ Keepalive message) :
    Ready later (stream ++ [message]) := by
  refine ⟨ready.1.snoc fun type => .inr (ready.2 (command type)), fun after => ?_⟩
  rcases greets after with before | keepalive
  · obtain ⟨other, inside, typed⟩ := ready.2 before
    exact ⟨other, List.mem_append_left _ inside, typed⟩
  · exact ⟨message, List.mem_append_right _ (List.mem_singleton.mpr rfl), keepalive⟩

/-- What was not sent yet is dropped. -/
theorem front {dropped : List Message} (ready : Ready greeted (stream ++ dropped))
    (ungreeted : ¬ later) : Ready later stream :=
  ⟨ready.1.front, fun after => absurd after ungreeted⟩

/-- A packet that is no keepalive is read. -/
theorem tail {message : Message} (ready : Ready greeted (message :: stream))
    (other : ¬ Keepalive message) : Ready greeted stream := by
  refine ⟨ready.1.2.mono fun opened => opened.elim id other, fun greets => ?_⟩
  obtain ⟨keepalive, inside, typed⟩ := ready.2 greets
  rcases List.mem_cons.mp inside with rfl | later
  · exact absurd typed other
  · exact ⟨keepalive, later, typed⟩

end Ready

namespace Weave

/-- The rules for a strand: the master's for its acts, the slave's for its own. -/
def civil (weave : Weave κ ι μ) : Strand κ ι μ → Prop
  | .master act => weave.master.civil act
  | .slave act => weave.slave.heedful act
  | _ => True

instance [Fintype ι] (weave : Weave κ ι μ) (strand : Strand κ ι μ) :
    Decidable (weave.civil strand) := by
  cases strand <;> unfold civil <;> infer_instance

/-- Behind every HIP, and ahead of a slave that listens, keepalives come before commands. -/
structure Greeted (parties : Parties κ) (weave : Weave κ ι μ) : Prop where
  /-- The master's thread is where it can be. -/
  host : weave.master.Sound parties.master
  /-- The master's requests are for commands. -/
  carries : weave.master.Carries
  /-- The master writes no command before its keepalive. -/
  polite : weave.master.Polite
  /-- The slave's thread is where it can be. -/
  device : weave.slave.Sound
  /-- The slave clears no queue behind a HIP. -/
  attentive : weave.slave.Attentive
  /-- Behind a HIP a keepalive comes before any command. -/
  ready : ∀ front hip back, weave.ahead = front ++ hip :: back → Hip hip →
    Ready weave.master.greeted back
  /-- So it does ahead of a slave that listens. -/
  attends : weave.slave.listens → Ready weave.master.greeted weave.ahead
  /-- The slave discarded no command. -/
  discards : ∀ message, (.connecting, message) ∈ weave.slave.data.reads → ¬ Command message

variable {parties : Parties κ} {weave next : Weave κ ι μ}

/-- Two parties as constructed. -/
theorem greeted_initial : (initial : Weave κ ι μ).Greeted parties where
  host := Master.Host.sound_initial _
  carries := Master.Host.carries_initial _
  polite := Master.Host.polite_initial _
  device := Slave.Device.sound_initial _
  attentive := Slave.Device.attentive_initial _
  ready := fun front hip back same => by
    have length := congrArg List.length same
    rw [List.length_append, List.length_cons] at length
    change 0 = _ at length
    omega
  attends := fun _ =>
    ⟨trivial, by rintro ⟨message, inside, -⟩; exact absurd inside List.not_mem_nil⟩
  discards := fun _ inside => absurd inside List.not_mem_nil

namespace Greeted

/-- The wire moves packets, and changes no party but its queues. -/
theorem moved (greeted : weave.Greeted parties) (host : next.master.Sound parties.master)
    (carries : next.master.Carries) (polite : next.master.Polite) (device : next.slave.Sound)
    (attentive : next.slave.Attentive) (same : next.ahead = weave.ahead)
    (greets : next.master.greeted → weave.master.greeted)
    (listens : next.slave.listens → weave.slave.listens)
    (reads : next.slave.data.reads = weave.slave.data.reads) : next.Greeted parties := by
  refine ⟨host, carries, polite, device, attentive, ?_, ?_, ?_⟩
  · rw [same]
    exact fun front hip back split typed => (greeted.ready front hip back split typed).mono greets
  · rw [same]
    exact fun hears => (greeted.attends (listens hears)).mono greets
  · rw [reads]
    exact greeted.discards

variable [DecidableEq ι] [DecidableEq μ]

omit [DecidableEq μ] in
/-- An act of the master. -/
theorem master (greeted : weave.Greeted parties) {act : Master.Act Queues κ ι}
    {host : Master.Host Queues κ ι} (civil : weave.master.civil act)
    (leaves : act.leaves weave.masterQueues = true)
    (taken : weave.master.step parties.master act = some host) :
    ({ weave with master := host } : Weave κ ι μ).Greeted parties := by
  have sound := Master.Host.sound_step greeted.host taken
  have carries := Master.Host.carries_step greeted.host greeted.carries taken
  have polite := Master.Host.polite_step greeted.host greeted.polite civil taken
  have greets :=
    Master.Host.step_greets greeted.host greeted.carries greeted.polite polite leaves taken
  have before : weave.ahead =
      weave.slaveQueues.readQueue ++ weave.toSlave ++ weave.master.queue :=
    (List.append_assoc _ _ _).symm
  have after : ({ weave with master := host } : Weave κ ι μ).ahead =
      weave.slaveQueues.readQueue ++ weave.toSlave ++ host.queue :=
    (List.append_assoc _ _ _).symm
  refine ⟨sound, carries, polite, greeted.device, greeted.attentive, ?_, ?_, greeted.discards⟩
  · intro front hip back split typed
    cases greets with
    | keeps queue same =>
      rw [after, queue, ← before] at split
      exact (greeted.ready front hip back split typed).mono same
    | writes message queue command same identifies =>
      rw [after, queue, ← List.append_assoc, ← before] at split
      rcases List.eq_nil_or_concat back with rfl | ⟨early, last, rfl⟩
      · obtain ⟨-, same⟩ := List.append_inj' split rfl
        obtain rfl := List.singleton_inj.mp same
        exact .fresh (identifies typed)
      · rw [List.concat_eq_append, ← List.cons_append, ← List.append_assoc] at split
        obtain ⟨earlier, ended⟩ := List.append_inj' split rfl
        obtain rfl := List.singleton_inj.mp ended
        rw [List.concat_eq_append]
        exact (greeted.ready front hip early earlier typed).snoc command same
    | clears queue ungreeted =>
      rw [after, queue, List.append_nil] at split
      rw [split, List.append_assoc, List.cons_append] at before
      exact (greeted.ready front hip _ before typed).front ungreeted
  · intro listens
    have ready := greeted.attends listens
    rw [before] at ready
    rw [after]
    cases greets with
    | keeps queue same =>
      rw [queue]
      exact ready.mono same
    | writes message queue command same identifies =>
      rw [queue, ← List.append_assoc]
      exact ready.snoc command same
    | clears queue ungreeted =>
      rw [queue, List.append_nil]
      exact ready.front ungreeted

omit [DecidableEq ι] in
/-- An act of the slave. -/
theorem slave (greeted : weave.Greeted parties) {act : Slave.Act Queues μ}
    {device : Slave.Device Queues μ} (heedful : weave.slave.heedful act)
    (leaves : act.leaves weave.slaveQueues = true)
    (taken : weave.slave.step parties.slave act = some device) :
    ({ weave with slave := device } : Weave κ ι μ).Greeted parties := by
  have sound := Slave.Device.sound_step greeted.device taken
  have attentive := Slave.Device.attentive_step greeted.device greeted.attentive heedful taken
  have hears :=
    Slave.Device.step_hears greeted.device greeted.attentive heedful leaves taken
  have before : weave.ahead = weave.slave.manager.transport.readQueue ++
      (weave.toSlave ++ weave.masterQueues.writeQueue) := rfl
  have after : ({ weave with slave := device } : Weave κ ι μ).ahead =
      device.manager.transport.readQueue ++ (weave.toSlave ++ weave.masterQueues.writeQueue) := rfl
  have keeps (read : List Message)
      (queue : weave.ahead = read ++ ({ weave with slave := device } : Weave κ ι μ).ahead)
      (front : List Message) (hip : Message) (back : List Message)
      (split : ({ weave with slave := device } : Weave κ ι μ).ahead = front ++ hip :: back)
      (typed : Hip hip) : Ready weave.master.greeted back := by
    rw [split, ← List.append_assoc] at queue
    exact greeted.ready _ hip back queue typed
  refine ⟨greeted.host, greeted.carries, greeted.polite, sound, attentive, ?_, ?_, ?_⟩
  · cases hears with
    | keeps queue reads listens =>
      refine keeps [] ?_
      rw [after, queue]
      rfl
    | reads message queue reads connecting listens =>
      refine keeps [message] ?_
      rw [before, queue]
      rfl
    | clears queue reads listens =>
      refine keeps weave.slave.manager.transport.readQueue ?_
      rw [after, queue]
      rfl
  · intro hearing
    cases hears with
    | keeps queue reads listens =>
      rw [after, queue]
      exact greeted.attends (listens hearing)
    | reads message queue reads connecting listens =>
      have split :
        weave.ahead = message :: ({ weave with slave := device } : Weave κ ι μ).ahead := by
        rw [before, queue]
        rfl
      rcases listens hearing with hip | ⟨state, other⟩
      · exact greeted.ready [] message _ split hip
      · have ready := greeted.attends (connecting state)
        rw [split] at ready
        exact ready.tail other
    | clears queue reads listens => exact absurd hearing listens
  · intro message inside
    cases hears with
    | keeps queue reads listens | clears queue reads listens =>
      rw [show ({ weave with slave := device } : Weave κ ι μ).slave.data.reads = _ from reads]
        at inside
      exact greeted.discards message inside
    | reads other queue reads connecting listens =>
      rw [show ({ weave with slave := device } : Weave κ ι μ).slave.data.reads = _ from reads]
        at inside
      rcases List.mem_append.mp inside with old | last
      · exact greeted.discards message old
      · have pair := List.mem_singleton.mp last
        have ready := greeted.attends (connecting (congrArg Prod.fst pair).symm)
        rw [before, queue] at ready
        rw [show message = other from congrArg Prod.snd pair]
        exact fun command => ready.1.1 command

omit [DecidableEq μ] in
/-- Another transport under the master. -/
theorem host_changed (greeted : weave.Greeted parties) (transport : Queues) :
    (weave.master.withTransport transport).Sound parties.master ∧
      (weave.master.withTransport transport).Carries ∧
      (weave.master.withTransport transport).Polite := by
  have taken : weave.master.step parties.master (.changed transport) =
      some (weave.master.withTransport transport) := rfl
  have civil : weave.master.civil (.changed transport) := trivial
  exact ⟨Master.Host.sound_step greeted.host taken,
    Master.Host.carries_step greeted.host greeted.carries taken,
    Master.Host.polite_step greeted.host greeted.polite civil taken⟩

omit [DecidableEq ι] in
/-- Another transport under the slave. -/
theorem device_changed (greeted : weave.Greeted parties) (transport : Queues) :
    (weave.slave.withTransport transport).Sound ∧
      (weave.slave.withTransport transport).Attentive := by
  have taken : weave.slave.step parties.slave (.changed transport) =
      some (weave.slave.withTransport transport) := rfl
  have heedful : weave.slave.heedful (.changed transport) := trivial
  exact ⟨Slave.Device.sound_step greeted.device taken,
    Slave.Device.attentive_step greeted.device greeted.attentive heedful taken⟩

/-- A strand that keeps to the rules. -/
theorem step (greeted : weave.Greeted parties) {strand : Strand κ ι μ} (civil : weave.civil strand)
    (taken : weave.step parties strand = some next) : next.Greeted parties := by
  cases step_eq_some_iff.mp taken with
  | master leaves acted => exact greeted.master civil leaves acted
  | slave leaves acted => exact greeted.slave civil leaves acted
  | masterSends queue =>
    obtain ⟨host, carries, polite⟩ := greeted.host_changed _
    exact greeted.moved host carries polite greeted.device greeted.attentive
      (ahead_masterSends queue) id id rfl
  | slaveReceives wire =>
    obtain ⟨device, attentive⟩ := greeted.device_changed _
    exact greeted.moved greeted.host greeted.carries greeted.polite device attentive
      (ahead_slaveReceives wire) id id rfl
  | slaveSends queue =>
    obtain ⟨device, attentive⟩ := greeted.device_changed _
    exact greeted.moved greeted.host greeted.carries greeted.polite device attentive rfl id id rfl
  | masterReceives wire =>
    obtain ⟨host, carries, polite⟩ := greeted.host_changed _
    exact greeted.moved host carries polite greeted.device greeted.attentive rfl id id rfl

end Greeted

end Weave

/-- In a run of a master that keeps to the rules no command is written before the keepalive of its
session; on a link where both parties do, the slave reads no command in state connecting. -/
theorem commands_after_keepalive [DecidableEq ι] [DecidableEq μ] :
    (∀ (τ : Type) (setup : Master.Setup τ κ) (transport : τ) (events : List (Master.Act τ κ ι))
        (reached : Master.Host τ κ ι),
      Run (Guarded Master.Host.civil (Steps (Master.Host.step setup)))
          (Master.Host.initial transport) events reached →
        Announced Keepalive Command False reached.since) ∧
    (∀ (parties : Parties κ) (events : List (Strand κ ι μ)) (reached : Weave κ ι μ),
      Run (Guarded Weave.civil (Steps (Weave.step parties))) Weave.initial events reached →
        Announced Keepalive Command False reached.master.since ∧
          ∀ message, (.connecting, message) ∈ reached.slave.data.reads → ¬ Command message) := by
  constructor
  · intro τ setup transport events reached run
    have kept (host : Master.Host τ κ ι) (act : Master.Act τ κ ι) (next : Master.Host τ κ ι)
        (standing : host.Sound setup ∧ host.Polite)
        (taken : Guarded Master.Host.civil (Steps (Master.Host.step setup)) host act next) :
        next.Sound setup ∧ next.Polite :=
      ⟨Master.Host.sound_step standing.1 taken.2,
        Master.Host.polite_step standing.1 standing.2 taken.1 taken.2⟩
    have ended := run.invariant kept
      ⟨Master.Host.sound_initial transport, Master.Host.polite_initial transport⟩
    exact ended.2.announced
  · intro parties events reached run
    have greeted : reached.Greeted parties :=
      run.invariant (fun weave strand next standing taken => standing.step taken.1 taken.2)
        Weave.greeted_initial
    exact ⟨greeted.polite.announced, greeted.discards⟩

/-- A slave reads the HIP, answers, and waits for the first keepalive; the master is connected. -/
def handshake : List (Strand Unit Unit Unit) :=
  [.master (.start .empty), .slave (.start .empty)] ++ .replicate 8 (.master .protocol) ++
    [.master .asyncConnect] ++ .replicate 20 (.master .protocol) ++
    .replicate 8 (.slave .protocol) ++ [.masterSends, .slaveReceives] ++
    .replicate 15 (.slave .protocol) ++ [.slaveSends, .masterReceives] ++
    .replicate 12 (.master .protocol)

/-- The keepalive is written, then a command; the slave reads both. -/
def greetedSession : List (Strand Unit Unit Unit) :=
  handshake ++ .replicate 10 (.master .protocol) ++ [.master (.call () 7 [] ())] ++
    .replicate 8 (.master (.user ())) ++ [.masterSends, .slaveReceives] ++
    .replicate 10 (.slave .protocol) ++ [.masterSends, .slaveReceives] ++
    .replicate 3 (.slave .protocol)

/-- The packet of a slave without identification. -/
def namelessDip : Packet :=
  match Packet.makeDip .cleared 1 .empty with
  | .ok packet => packet
  | .error _ => .cleared

/-- The acts of the master in such a session. -/
def greetedMaster : List (Master.Act Queues Unit Unit) :=
  [.start .empty] ++ .replicate 8 .protocol ++ [.asyncConnect] ++ .replicate 20 .protocol ++
    [.changed ⟨[], [⟨namelessDip, none⟩]⟩] ++ .replicate 22 .protocol ++ [.call () 7 [] ()] ++
    .replicate 8 (.user ())

/-- In a session that keeps to the rules a command is written after the keepalive, and the slave
reads it in state connected. -/
theorem commands_after_keepalive_session :
    (∃ host, Run (Guarded Master.Host.civil (Steps (Master.Host.step quietParties.master)))
        (Master.Host.initial .empty) greetedMaster host ∧
      (∃ message ∈ host.since, Command message) ∧
        Announced Keepalive Command False host.since) ∧
    ∃ weave, Run (Guarded Weave.civil (Steps (Weave.step quietParties))) Weave.initial
        greetedSession weave ∧
      (∃ pair ∈ weave.slave.data.reads, pair.1 = .connected ∧ Command pair.2) ∧
        Announced Keepalive Command False weave.master.since ∧
          ∀ message, (.connecting, message) ∈ weave.slave.data.reads → ¬ Command message := by
  constructor
  · have executed : ((execute (fun host act =>
        if Master.Host.civil host act then Master.Host.step quietParties.master host act else none)
          (Master.Host.initial .empty) greetedMaster).any fun host =>
            decide (∃ message ∈ host.since, Command message)) = true := by
      decide +kernel
    obtain ⟨host, reached, found⟩ := (Option.any_eq_true _ _).mp executed
    have run :=
      run_of_execute_guarded Master.Host.civil (Master.Host.step quietParties.master) _ _ _
      reached
    exact ⟨host, run, of_decide_eq_true found,
      (@commands_after_keepalive Unit Unit Unit _ _).1 Queues quietParties.master .empty
        greetedMaster host
        run⟩
  · have executed : ((execute (fun weave strand =>
        if Weave.civil weave strand then Weave.step quietParties weave strand else none)
          Weave.initial greetedSession).any fun weave =>
            decide (∃ pair ∈ weave.slave.data.reads, pair.1 = .connected ∧ Command pair.2)) =
              true := by
      decide +kernel
    obtain ⟨weave, reached, found⟩ := (Option.any_eq_true _ _).mp executed
    have run := run_of_execute_guarded Weave.civil (Weave.step quietParties) _ _ _ reached
    exact ⟨weave, run, of_decide_eq_true found,
      commands_after_keepalive.2 quietParties greetedSession weave run⟩

/-- The user calls `send_command` right after the master's state machine moved to state
connected. -/
def hastyCall : List (Strand Unit Unit Unit) :=
  handshake ++ [.master (.call () 7 [] ())] ++ .replicate 5 (.master (.user ())) ++
    [.masterSends, .slaveReceives, .slave .protocol]

/-- The command of a call made before the first handler of state connected is written before any
keepalive, and the slave discards it. -/
theorem command_discarded :
    ∃ weave, Run (Steps (Weave.step quietParties)) Weave.initial hastyCall weave ∧
      ¬ Announced Keepalive Command False weave.master.since ∧
        ∃ message, (.connecting, message) ∈ weave.slave.data.reads ∧ Command message := by
  have executed : ((execute (Weave.step quietParties) Weave.initial hastyCall).any fun weave =>
      decide (¬ Announced Keepalive Command False weave.master.since) &&
        weave.slave.data.reads.any fun pair => decide (pair.1 = .connecting ∧ Command pair.2)) =
          true := by
    decide +kernel
  obtain ⟨weave, reached, found⟩ := (Option.any_eq_true _ _).mp executed
  rw [Bool.and_eq_true] at found
  obtain ⟨⟨state, message⟩, inside, read⟩ := List.any_eq_true.mp found.2
  obtain ⟨rfl, command⟩ := of_decide_eq_true read
  exact ⟨weave, (execute_eq_some_iff _ _ _ _).mp reached, of_decide_eq_true found.1, message,
    inside, command⟩

end Hdcp.Appli
