import Hdcp.Appli.Delivery
import Hdcp.Appli.MasterLife
import Hdcp.Appli.SlaveLife
import Hdcp.Master.Transmissions

/-!
# How often a command is executed

The slave keeps no record of the commands it executed: it executes every copy it reads in state
connected. Packets are neither lost nor doubled on the way, so that it executes a command as often
as the master wrote it at most, which is four times at most.
-/

namespace Hdcp.Appli

open Base Hdcp.Master

variable {κ : Type} {counted : Message → Bool}

section SlaveSide

variable {extra bound : Nat} (parties : Parties κ)

/-- The packets of a kind that the slave executed, is to read, and others, are within a bound. -/
def SlaveBound (counted : Message → Bool) (extra bound : Nat) (data : Slave.Data Queues) : Prop :=
  data.executed.countP counted + data.manager.transport.readQueue.countP counted + extra ≤ bound

/-- Fewer packets are within a bound that more are within. -/
theorem SlaveBound.fewer {more : Nat} {data : Slave.Data Queues}
    (within : SlaveBound counted (more + extra) bound data) : SlaveBound counted extra bound data :=
  Nat.le_trans (Nat.add_le_add_left (Nat.le_add_left extra more) _) within

/-- Writing leaves the packets to read. -/
theorem readQueue_change {loses : Prop} {manager next : Hdcp.Slave.State Queues}
    (change : Hdcp.Slave.Change parties.slave.environment loses manager next) :
    next.transport.readQueue = manager.transport.readQueue := by
  cases change with
  | timers next follows packetId running transport outputs =>
    exact congrArg Queues.readQueue transport
  | sent packet named accepted => rfl
  | unsent transport refused lost =>
    rcases refused with rfl | ⟨message, refuses, -⟩
    · rfl
    · exact absurd rfl refuses
  | timedOut => rfl
  | stopped => rfl

/-- Writing leaves the packets to read. -/
theorem readQueue_changes {loses : Prop} {manager next : Hdcp.Slave.State Queues}
    (changes : Hdcp.Slave.Changes parties.slave.environment loses manager next) :
    next.transport.readQueue = manager.transport.readQueue := by
  induction changes with
  | refl => rfl
  | tail _ change ih => exact (readQueue_change parties change).trans ih

/-- An operation of the manager. -/
theorem bound_onManager {α : Type} {action : Hdcp.Slave.Action Queues α}
    (changing : Hdcp.Slave.Changing parties.slave.environment action) :
    Keeps (SlaveBound counted extra bound) (Slave.onManager action) := by
  intro data within
  have same := readQueue_changes parties (changing.changes data.manager)
  unfold SlaveBound at within ⊢
  unfold Slave.onManager
  cases outcome : action data.manager with
  | ok value manager =>
    rw [outcome] at same
    change _ + manager.transport.readQueue.countP counted + _ ≤ _
    rw [show manager.transport.readQueue = _ from same]
    exact within
  | error error manager =>
    rw [outcome] at same
    change _ + manager.transport.readQueue.countP counted + _ ≤ _
    rw [show manager.transport.readQueue = _ from same]
    exact within

/-- The test of a packet's id. -/
theorem bound_checkPacketId (packet : Packet) :
    Keeps (SlaveBound counted extra bound) (Slave.checkPacketId packet) :=
  .bind (.modify fun _ within => within) fun _ => .bind .get fun _ =>
    .runIf (.modify fun _ within => within)

/-- A packet read is one less to read. -/
theorem read_bound (state : Slave.State) :
    Leads (SlaveBound counted extra bound) (Slave.read parties.slave state)
      (fun found => SlaveBound counted (found.toList.countP counted + extra) bound)
      (SlaveBound counted extra bound) := by
  intro data within
  cases queue : data.manager.transport.readQueue with
  | nil =>
    rw [slaveRead_nil parties state queue]
    constructor
    · intro value final returned
      cases returned
      change SlaveBound counted (0 + extra) bound data
      rw [Nat.zero_add]
      exact within
    · intro error final thrown
      contradiction
  | cons message rest =>
    rw [slaveRead_cons parties state queue]
    constructor
    · intro value final returned
      cases returned
      unfold SlaveBound at within ⊢
      rw [queue, ← List.singleton_append, List.countP_append] at within
      change data.executed.countP counted + rest.countP counted +
        (List.countP counted [message] + extra) ≤ bound
      omega
    · intro error final thrown
      contradiction

/-- A handler that ends by reading. -/
theorem bound_readPacket (state : Slave.State) {process : Message → Slave.Handler Queues Unit}
    (processed : ∀ message, Leads
      (SlaveBound counted (List.countP counted [message] + extra) bound) (process message)
      (fun _ => SlaveBound counted extra bound) (SlaveBound counted extra bound)) :
    Keeps (SlaveBound counted extra bound) (Slave.readPacket parties.slave state process) := by
  refine Leads.keeps (.bind (read_bound parties state) fun found => ?_)
  cases found with
  | none => exact .of_keeps (.pure _) fun _ => SlaveBound.fewer
  | some message =>
    exact .bind (processed message) fun _ => .of_keeps (.pure _) fun _ within => within

/-- A command is executed once when it is read. -/
theorem execute_bound (message : Message) :
    Leads (SlaveBound counted (List.countP counted [message] + extra) bound)
      (Slave.execute parties.slave message) (fun _ => SlaveBound counted extra bound)
      (SlaveBound counted extra bound) := by
  intro data within
  unfold Slave.execute runIf
  unfold SlaveBound at within ⊢
  split
  · constructor
    · intro value final returned
      cases returned
      change (data.executed ++ [message]).countP counted +
        data.manager.transport.readQueue.countP counted + extra ≤ bound
      rw [List.countP_append]
      omega
    · intro error final thrown
      contradiction
  · constructor
    · intro value final returned
      cases returned
      omega
    · intro error final thrown
      contradiction

/-- A packet read in state connected. -/
theorem processConnected_bound (message : Message) :
    Leads (SlaveBound counted (List.countP counted [message] + extra) bound)
      (Slave.processConnected parties.slave message) (fun _ => SlaveBound counted extra bound)
      (SlaveBound counted extra bound) := by
  have sends : ∀ {α : Type} {action : Hdcp.Slave.Action Queues α},
      Hdcp.Slave.Changing parties.slave.environment action →
        Leads (SlaveBound counted (List.countP counted [message] + extra) bound)
          (Slave.onManager action)
          (fun _ => SlaveBound counted (List.countP counted [message] + extra) bound)
          (SlaveBound counted extra bound) :=
    fun changing => .passes (bound_onManager parties changing) fun _ => SlaveBound.fewer
  refine .bind (.passes (bound_checkPacketId _) fun _ => SlaveBound.fewer) fun _ => ?_
  by_cases command : message.packet.type = PacketType.cmd.code
  · have other : message.packet.type ≠ PacketType.hip.code := by
      rw [command]
      decide
    rw [if_neg other, if_pos command]
    exact .bind (sends Hdcp.Slave.keepalive_changing) fun _ =>
      .bind (sends (Hdcp.Slave.sendCmdAck_changing _)) fun _ => execute_bound parties message
  · rw [if_neg command]
    refine .of_keeps (.choice ?_ (.choice ?_ (.pure ()))) fun _ => SlaveBound.fewer
    · exact .bind (.modify fun _ within => within) fun _ =>
        .bind (bound_onManager parties Hdcp.Slave.stopKeepaliveManagement_changing) fun _ =>
          .bind (bound_onManager parties Hdcp.Slave.stop_changing) fun _ =>
            .modify fun _ within => within
    · exact bound_onManager parties Hdcp.Slave.keepalive_changing

/-- `start` of the request manager. -/
theorem bound_start :
    Keeps (SlaveBound counted extra bound) (Slave.onManager Hdcp.Slave.start) := by
  intro data within
  cases running : data.manager.running with
  | false =>
    rw [Slave.onManager_apply (Hdcp.Slave.start_apply data.manager running)]
    exact within
  | true =>
    rw [Slave.onManager_apply (Hdcp.Slave.start_running data.manager running)]
    exact within

/-- The handlers execute what they read, and read what is there. -/
theorem bound_handler (state : Slave.State) (nbLoop : Nat) :
    Keeps (SlaveBound counted extra bound) (Slave.handler parties.slave state nbLoop) := by
  cases state with
  | init =>
    exact .bind (.modify fun _ within => within) fun _ => .bind (.modify fun _ within => within)
      fun _ => .bind (.modify fun _ within => within) fun _ => .pure _
  | disconnected =>
    refine .bind (.runIf (.bind (bound_onManager parties Hdcp.Slave.stop_changing) fun _ => ?_))
      fun _ => bound_readPacket parties _ fun message =>
        .of_keeps (.runIf ?_) fun _ => SlaveBound.fewer
    · intro data within
      exact Nat.le_trans (Nat.add_le_add_right (Nat.add_le_add_left (Nat.zero_le _) _) _) within
    · exact .bind (.modify fun _ within => within) fun _ => .bind (.modify fun _ within => within)
        fun _ => .modify fun _ within => within
  | connecting =>
    refine .bind (.runIf (.bind bound_start fun _ => .bind ?_ fun _ => ?_)) fun _ =>
      bound_readPacket parties _ fun message =>
        .of_keeps (.bind (bound_checkPacketId _) fun _ => .runIf ?_) fun _ => SlaveBound.fewer
    · exact bound_onManager parties (Hdcp.Slave.sendDip_changing _)
    · exact bound_onManager parties (Hdcp.Slave.startKeepaliveManagement_changing _)
    · exact .bind (bound_onManager parties Hdcp.Slave.keepalive_changing) fun _ =>
        .modify fun _ within => within
  | connected => exact bound_readPacket parties _ (processConnected_bound parties)

end SlaveSide

section MasterSide

variable {away call : Nat} (parties : Parties κ)

/-- Packets of a kind in the master's queue and away are packets it wrote, and the command of a call
was written as often as its retries allow. -/
def MasterBound (counted : Message → Bool) (away call : Nat)
    (manager : Hdcp.Master.State Queues κ) : Prop :=
  manager.transport.writeQueue.countP counted + away ≤ (writes manager.outputs).countP counted ∧
    Tallied call manager

/-- No packet is written. -/
theorem MasterBound.of_same {manager next : Hdcp.Master.State Queues κ}
    (within : MasterBound counted away call manager) (tallied : Tallied call next)
    (queue : next.transport.writeQueue.countP counted ≤
      manager.transport.writeQueue.countP counted)
    (outputs : writes next.outputs = writes manager.outputs) :
    MasterBound counted away call next := by
  refine ⟨?_, tallied⟩
  rw [outputs]
  exact Nat.le_trans (Nat.add_le_add_right queue away) within.1

/-- A packet is written. -/
theorem MasterBound.sent {manager next : Hdcp.Master.State Queues κ} {message : Message}
    (within : MasterBound counted away call manager) (tallied : Tallied call next)
    (queue : next.transport.writeQueue = manager.transport.writeQueue ++ [message])
    (outputs : next.outputs = manager.outputs ++ [.written message]) :
    MasterBound counted away call next := by
  refine ⟨?_, tallied⟩
  rw [queue, outputs, writes_snoc, List.countP_append, List.countP_append]
  have before := within.1
  omega

/-- A transport that never refuses is left alone. -/
theorem unrefused {before next : Queues}
    (refused : Refuses parties.master.environment before next) : next = before := by
  rcases refused with same | ⟨message, refuses, -⟩
  · exact same
  · exact absurd rfl refuses

/-- Every change writes into the queue what it gives out. -/
theorem bound_change {loses : Prop} {manager next : Hdcp.Master.State Queues κ}
    (change : Change parties.master.environment loses manager next)
    (within : MasterBound counted away call manager) : MasterBound counted away call next := by
  have tallied := within.2.change change
  cases change with
  | timers fields follows requests packetId running =>
    exact within.of_same tallied (Nat.le_refl _) rfl
  | sent packet named => exact within.sent tallied rfl rfl
  | unsent transport refused lost =>
    obtain rfl := unrefused parties refused
    exact within.of_same tallied (Nat.le_refl _) rfl
  | overrun cmd timeout named => exact within.sent tallied rfl rfl
  | accepted cmd cb timeout requests named inserted => exact within.sent tallied rfl rfl
  | rewritten request pending left => exact within.sent tallied rfl rfl
  | unwritten request transport refused pending left =>
    obtain rfl := unrefused parties refused
    exact within.of_same tallied (Nat.le_refl _) rfl
  | reported request called pending ends =>
    refine within.of_same tallied (Nat.le_refl _) (writes_snoc_other ?_)
    exact fun message other => by contradiction
  | concluded request called requests pending ends removed =>
    refine within.of_same tallied (Nat.le_refl _) (writes_snoc_other ?_)
    exact fun message other => by contradiction
  | timedOut type =>
    refine within.of_same tallied (Nat.le_refl _) (writes_snoc_other ?_)
    exact fun message other => by contradiction
  | stopped => exact within.of_same tallied (Nat.le_refl _) rfl

/-- Changes write into the queue what they give out. -/
theorem bound_changes {loses : Prop} {manager next : Hdcp.Master.State Queues κ}
    (changes : Changes parties.master.environment loses manager next)
    (within : MasterBound counted away call manager) : MasterBound counted away call next := by
  induction changes with
  | refl => exact within
  | tail _ change ih => exact bound_change parties change ih

/-- The handlers write into the queue what they give out. -/
theorem bound_masterHandler (state : Master.State) (nbLoop : Nat) :
    Keeps (fun data => MasterBound counted away call (Master.Data.manager data))
      (Master.handler parties.master state nbLoop) := by
  refine Master.handler_keeps parties.master (MasterBound counted away call)
    (fun _ _ => bound_change parties) ?_ ?_ state nbLoop
  · intro manager transport moved within
    refine within.of_same (within.2.withTransport transport) ?_ rfl
    rcases moved with read | cleared
    · have kept : transport.writeQueue = manager.transport.writeQueue := by
        rw [read]
        exact manager.transport.read_writeQueue
      rw [kept]
    · rw [cleared]
      exact Nat.zero_le _
  · intro manager idle within
    refine within.of_same (within.2.of_same rfl (Nat.le_refl _) ?_) (Nat.le_refl _) rfl
    exact fun request inside => by contradiction

end MasterSide

namespace Link

/-- How often the slave executed the command of a call. -/
def executions (link : Link κ) (call : Nat) : Nat :=
  link.slave.data.executed.countP (Carries call)

/-- How often the master wrote the command of a call. -/
def transmissions (link : Link κ) (call : Nat) : Nat :=
  Hdcp.Master.transmissions link.master.data.manager.outputs call

/-- Packets of a kind that were executed or are underway were written, and the command of a call was
written as often as its retries allow. -/
def Conserved (counted : Message → Bool) (call : Nat) (link : Link κ) : Prop :=
  MasterBound counted (link.slave.data.executed.countP counted +
    link.slaveQueues.readQueue.countP counted + link.toSlave.countP counted) call
    link.master.data.manager

/-- Nothing is written at first. -/
theorem conserved_started (call : Nat) : (started : Link κ).Conserved counted call :=
  ⟨Nat.le_refl 0, tallied_initial call Queues.empty⟩

/-- What the slave executes it was to read. -/
theorem Conserved.slave {link : Link κ} {call : Nat} (conserved : link.Conserved counted call)
    {next : Slave.Party Queues}
    (bound : ∀ extra bound, SlaveBound counted extra bound link.slave.data →
      SlaveBound counted extra bound next.data) :
    Conserved counted call { link with slave := next } := by
  obtain ⟨before, tallied⟩ := conserved
  have after := bound (link.toSlave.countP counted + link.masterQueues.writeQueue.countP counted)
    ((writes link.master.data.manager.outputs).countP counted) (by
      unfold SlaveBound
      change link.masterQueues.writeQueue.countP counted + _ ≤ _ at before
      change _ + link.slaveQueues.readQueue.countP counted + _ ≤ _
      omega)
  refine ⟨?_, tallied⟩
  unfold SlaveBound at after
  change link.masterQueues.writeQueue.countP counted + (next.data.executed.countP counted +
    next.data.manager.transport.readQueue.countP counted + link.toSlave.countP counted) ≤
      (writes link.master.data.manager.outputs).countP counted
  omega

/-- What leaves the master's request manager conserves what is written. -/
theorem Conserved.signalled {link : Link κ} {call : Nat} {master : Master.Party Queues κ}
    (conserved : link.Conserved counted call)
    (same : master.data.manager = link.master.data.manager) :
    Conserved counted call { link with master := master } := by
  unfold Conserved
  dsimp only
  rw [same]
  exact conserved

/-- Each step conserves what is written. -/
theorem conserved_step {call : Nat} (parties : Parties κ) (link : Link κ)
    (happening : Happening κ) (next : Link κ) (conserved : link.Conserved counted call)
    (taken : Steps (step parties) link happening next) : next.Conserved counted call := by
  cases step_moves taken with
  | master moved =>
    refine Master.wakeup_keeps parties.master (bound_masterHandler parties) ?_ moved conserved
    intro data next same within
    rw [same]
    exact within
  | masterTick moved =>
    obtain ⟨-, rfl⟩ := (Master.Party.tick_eq_some_iff _ _ _ _).mp moved
    exact bound_changes parties ((runOnce_changing _).changes _) conserved
  | asyncConnect => exact conserved.signalled (Master.Party.asyncConnect_manager _)
  | connectReturns moved => exact conserved.signalled (Master.Party.connectReturns_manager moved)
  | asyncDisconnect => exact conserved.signalled (Master.Party.asyncDisconnect_manager _)
  | sendCommand type data cb =>
    obtain ⟨manager, sent, changes, -⟩ :=
      Master.Party.sendCommand_eq parties.master link.master type data cb
    unfold Conserved
    rw [sent]
    exact bound_changes parties changes conserved
  | slave moved =>
    refine conserved.slave fun extra bound within => ?_
    refine Slave.wakeup_keeps parties.slave (bound_handler parties) ?_ moved within
    intro data next manager reads executed within
    unfold SlaveBound
    rw [manager, executed]
    exact within
  | slaveTick moved =>
    obtain ⟨-, rfl⟩ := (Slave.Party.tick_eq_some_iff _ _ _ _).mp moved
    exact conserved.slave fun _ _ within => within
  | sendData blocks =>
    obtain ⟨manager, sent, -, changes⟩ :=
      Slave.Party.sendData_eq parties.slave link.slave blocks
    rw [sent]
    refine conserved.slave fun extra bound within => ?_
    have same := readQueue_changes parties changes
    change _ + manager.transport.readQueue.countP counted + _ ≤ _
    rw [same]
    exact within
  | @masterSends message rest queue =>
    obtain ⟨before, tallied⟩ := conserved
    refine ⟨?_, tallied.withTransport _⟩
    change link.masterQueues.writeQueue.countP counted + _ ≤ _ at before
    change rest.countP counted + (link.slave.data.executed.countP counted +
      link.slaveQueues.readQueue.countP counted + (link.toSlave ++ [message]).countP counted) ≤
        (writes link.master.data.manager.outputs).countP counted
    rw [queue, ← List.singleton_append, List.countP_append] at before
    rw [List.countP_append]
    omega
  | @slaveReceives message rest wire =>
    obtain ⟨before, tallied⟩ := conserved
    refine ⟨?_, tallied⟩
    change link.masterQueues.writeQueue.countP counted +
      (link.slave.data.executed.countP counted +
        (link.slaveQueues.readQueue ++ [message]).countP counted + rest.countP counted) ≤
          (writes link.master.data.manager.outputs).countP counted
    change link.masterQueues.writeQueue.countP counted + _ ≤ _ at before
    rw [wire, ← List.singleton_append, List.countP_append] at before
    rw [List.countP_append]
    omega
  | slaveSends queue => exact conserved
  | masterReceives wire => exact ⟨conserved.1, conserved.2.withTransport _⟩

end Link

/-- In every run the slave executes the command of a call as often as the master wrote it at most,
which is four times at most, and executes no other packet than the master wrote. -/
theorem executions_bounded (parties : Parties κ) (happenings : List (Happening κ)) (link : Link κ)
    (run : Run (Steps (Link.step parties)) Link.started happenings link) :
    (∀ call, link.executions call ≤ link.transmissions call ∧ link.transmissions call ≤ 4) ∧
      ∀ message ∈ link.slave.data.executed, message ∈ writes link.master.data.manager.outputs := by
  have conserved : ∀ counted call, link.Conserved counted call := fun counted call =>
    run.invariant (Link.conserved_step parties) (Link.conserved_started call)
  have written : ∀ counted, link.slave.data.executed.countP counted ≤
      (writes link.master.data.manager.outputs).countP counted := by
    intro counted
    have within := (conserved counted 0).1
    omega
  refine ⟨fun call => ⟨written (Carries call), (conserved (Carries call) call).2.bounded⟩, ?_⟩
  intro message executed
  have once : 0 < link.slave.data.executed.countP (· == message) :=
    List.countP_pos_iff.mpr ⟨message, executed, beq_self_eq_true message⟩
  have positive := Nat.lt_of_lt_of_le once (written (· == message))
  obtain ⟨other, inside, same⟩ := List.countP_pos_iff.mp positive
  rw [← eq_of_beq same]
  exact inside

/-- A command whose acks take more than three seconds: the slave reads it at once, and every time
the master writes it again. -/
def slowAck : List (Happening Unit) :=
  Happening.master.times 3 ++ [Happening.asyncConnect] ++ Happening.master.times 6 ++
    Happening.slave.times 5 ++ [Happening.masterSends, Happening.slaveReceives] ++
    Happening.slave.times 7 ++ [Happening.slaveSends, Happening.masterReceives] ++
    Happening.master.times 8 ++ [Happening.sendCommand 1 [0] ()] ++
    Happening.masterSends.times 2 ++ Happening.slaveReceives.times 2 ++ Happening.slave.times 5 ++
    (Happening.masterTick []).times 10 ++
    [Happening.masterTick [⟨3, 10, some 10, .cmdTimeoutCb⟩, ⟨4, 10, some 10, .kaMngtTimeoutCb⟩],
      Happening.masterSends, Happening.slaveReceives] ++ Happening.slave.times 4 ++
    (Happening.masterTick []).times 9 ++
    [Happening.masterTick [⟨3, 20, some 10, .cmdTimeoutCb⟩]] ++
    Happening.masterSends.times 2 ++ Happening.slaveReceives.times 2 ++ Happening.slave.times 8 ++
    (Happening.masterTick []).times 9 ++
    [Happening.masterTick [⟨3, 30, some 10, .cmdTimeoutCb⟩, ⟨2, 30, none, .kaTimeoutCb⟩],
      Happening.masterSends, Happening.slaveReceives] ++ Happening.slave.times 4

/-- The slave executes it four times, and no more. -/
theorem executions_bounded_slowAck :
    ∃ link, Run (Steps (Link.step quietParties)) Link.started slowAck link ∧
      link.executions 3 = 4 ∧ link.executions 3 ≤ link.transmissions 3 ∧
        link.transmissions 3 ≤ 4 := by
  have executed : ((execute (Link.step quietParties) Link.started slowAck).any fun link =>
      link.executions 3 = 4) = true := by
    decide +kernel
  obtain ⟨link, reached, four⟩ := (Option.any_eq_true _ _).mp executed
  have run := (execute_eq_some_iff _ _ _ _).mp reached
  exact ⟨link, run, of_decide_eq_true four,
    (executions_bounded quietParties slowAck link run).1 3⟩

/-- The slave executes one call's command more than once. -/
theorem slowAck_executedAgain :
    ∃ link, Run (Steps (Link.step quietParties)) Link.started slowAck link ∧
      ∃ call, 1 < link.executions call := by
  have executed : ((execute (Link.step quietParties) Link.started slowAck).any fun link =>
      decide (1 < link.executions 3)) = true := by
    decide +kernel
  obtain ⟨link, reached, more⟩ := (Option.any_eq_true _ _).mp executed
  exact ⟨link, (execute_eq_some_iff _ _ _ _).mp reached, 3, of_decide_eq_true more⟩

end Hdcp.Appli
