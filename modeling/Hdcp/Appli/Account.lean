import Hdcp.Appli.Link
import Hdcp.Appli.MasterEntries
import Hdcp.Appli.SlaveEntries
import Hdcp.Packet.RoundTrip

/-!
# Commands and acks underway

A command underway under the id of a pending request is that request's, and an ack underway that
names a pending request follows the delivery of its command. Every operation of the two request
managers and every handler of the two state machines keeps this account; sending a command does
when its packet id is fresh.
-/

namespace Hdcp.Appli

open Base Hdcp.Master

variable {κ : Type}

/-- What `send_command` wrote for a request, and its retries write again. -/
def transmission (request : Request κ) : Message := ⟨request.command, some request.id⟩

/-- What is underway agrees with the pending requests, and what was reported with what was read. -/
structure Accounted (pending : List (Request κ)) (outputs : List (Output κ))
    (toSlave toMaster : List Message) (reads : List (Slave.State × Message)) : Prop where
  /-- A command underway under the id of a pending request is that request's. -/
  commands : ∀ request ∈ pending, ∀ message ∈ toSlave,
    message.packet.type = PacketType.cmd.code → message.packet.id = request.commandId →
      message = transmission request
  /-- An ack underway that names a pending request follows its delivery. -/
  acks : ∀ request ∈ pending, ∀ message ∈ toMaster,
    message.packet.type = PacketType.cmdAck.code →
      ackedId message.packet = .ok request.commandId → (.connected, transmission request) ∈ reads
  /-- A request reported fulfilled was delivered. -/
  fulfilled : ∀ request, .called request ∈ outputs → request.status = .fulfilled →
    (.connected, transmission request) ∈ reads

/-- Requests go, packets arrive, more is read. -/
theorem Accounted.mono {pending pending' : List (Request κ)} {outputs : List (Output κ)}
    {toSlave toSlave' toMaster toMaster' : List Message}
    {reads reads' : List (Slave.State × Message)}
    (accounted : Accounted pending outputs toSlave toMaster reads) (fewer : pending' ⊆ pending)
    (slave : toSlave' ⊆ toSlave) (master : toMaster' ⊆ toMaster) (more : reads ⊆ reads') :
    Accounted pending' outputs toSlave' toMaster' reads' where
  commands := fun request inside message underway =>
    accounted.commands request (fewer inside) message (slave underway)
  acks := fun request inside message underway type named =>
    more (accounted.acks request (fewer inside) message (master underway) type named)
  fulfilled := fun request given status => more (accounted.fulfilled request given status)

/-! ## The request manager of the master -/

section Manager

variable (away coming : List Message) (reads : List (Slave.State × Message))

/-- The account of a manager, with what is underway beyond its queues. -/
def ManagerAccounted (state : Hdcp.Master.State Queues κ) : Prop :=
  Accounted state.requests.entries state.outputs (state.transport.writeQueue ++ away)
    (coming ++ state.transport.readQueue) reads

variable {away coming reads}

/-- A packet other than a command is written. -/
theorem ManagerAccounted.sent {state : Hdcp.Master.State Queues κ}
    (accounted : ManagerAccounted away coming reads state) (message : Message)
    (known : ∀ request ∈ state.requests.entries, message.packet.type = PacketType.cmd.code →
      message.packet.id = request.commandId → message = transmission request) :
    ManagerAccounted away coming reads
      { state with
        transport :=
          { state.transport with writeQueue := state.transport.writeQueue ++ [message] }
        outputs := state.outputs ++ [.written message] } := by
  refine ⟨?_, accounted.acks, ?_⟩
  · intro request inside other underway type named
    rcases List.mem_append.mp underway with written | far
    · rcases List.mem_append.mp written with old | new
      · exact accounted.commands request inside other (List.mem_append_left _ old) type named
      · obtain rfl := List.mem_singleton.mp new
        exact known request inside type named
    · exact accounted.commands request inside other (List.mem_append_right _ far) type named
  · intro request given status
    rcases List.mem_append.mp given with old | new
    · exact accounted.fulfilled request old status
    · cases List.mem_singleton.mp new

variable (parties : Parties κ)

/-- A packet other than a command is numbered, made and written. -/
theorem keeps_sendOther (make : UInt16 → Except PacketError Packet)
    (other : ∀ id packet, make id = .ok packet → packet.type ≠ PacketType.cmd.code) :
    Keeps (ManagerAccounted away coming reads) (do
      let packetId ← nextPacketId
      let packet ← made (make packetId)
      write parties.master.environment ⟨packet, none⟩ : Action Queues κ Unit) := by
  refine .bind ?_ fun packetId => ?_
  · intro state accounted
    exact accounted
  · intro state accounted
    cases making : make packetId with
    | error error => exact accounted
    | ok packet =>
      have written := accounted.sent ⟨packet, none⟩ fun request inside type =>
        absurd type (other packetId packet making)
      exact written

/-- The packet a maker returned has the type it was made for. -/
theorem keepalive_other (raw : Packet) (id : UInt16) (packet : Packet)
    (made : Packet.makeKeepalive raw id = .ok packet) : packet.type ≠ PacketType.cmd.code := by
  rw [(Packet.build_id_type _ _ _ _ _ _ made).2]
  decide

/-- Changing the queue of timers and its identifiers changes no account. -/
theorem keeps_addTimer (delay : Nat) (callback : TimerCallback) :
    Keeps (ManagerAccounted (κ := κ) away coming reads) (addTimer delay callback) :=
  fun _ accounted => accounted

/-- `send_hip`. -/
theorem keeps_sendHip (timeout : Nat) :
    Keeps (ManagerAccounted away coming reads)
      (sendHip parties.master.environment parties.masterId timeout) := by
  have armed : Keeps (ManagerAccounted (κ := κ) away coming reads) (do
      let id ← addTimer (timeout / timeBaseMs) .dipTimeoutCb
      modify fun state => { state with dipId := some id }) :=
    .bind (keeps_addTimer _ _) fun _ => .modify fun _ accounted => accounted
  have other (id : UInt16) (packet : Packet)
      (made : Packet.makeHip parties.master.environment.raw id parties.masterId = .ok packet) :
      packet.type ≠ PacketType.cmd.code := by
    rw [(Packet.build_id_type _ _ _ _ _ _ made).2]
    decide
  refine .bind .get fun state => .choice ?_ armed
  have both := (keeps_sendOther parties _ other).bind fun _ => armed
  simp only [bind_assoc] at both
  exact both

/-- Sending a keepalive. -/
theorem keeps_sendKeepalive :
    Keeps (ManagerAccounted away coming reads) (sendKeepalive parties.master.environment) :=
  .bind .get fun _ => .choice (keeps_sendOther parties _ (keepalive_other _)) (.pure _)

/-- Arming the keepalive timer changes no account. -/
theorem keeps_armKeepaliveMngt (interval : Nat) :
    Keeps (ManagerAccounted (κ := κ) away coming reads) (armKeepaliveMngt interval) :=
  fun _ accounted => accounted

/-- Erasing a timer changes no account. -/
theorem keeps_eraseTimer (id : Option Nat) :
    Keeps (ManagerAccounted (κ := κ) away coming reads) (eraseTimer id) := by
  intro state accounted
  rw [eraseTimer_apply, after_ok, Fields.withoutTimer_eq]
  exact accounted

/-- `start_keepalive_management`. -/
theorem keeps_startKeepaliveManagement (interval timeout : Nat) :
    Keeps (ManagerAccounted away coming reads)
      (startKeepaliveManagement parties.master.environment interval timeout) := by
  refine .bind (.modify fun _ accounted => accounted) fun _ => .bind (keeps_armKeepaliveMngt _)
    fun _ => .bind (keeps_sendKeepalive parties) fun _ =>
      .bind (.modify fun _ accounted => accounted)
      fun _ => .bind .get fun state => .bind (keeps_addTimer _ _) fun _ => .modify ?_
  exact fun _ accounted => accounted

/-- `start`. -/
theorem keeps_start : Keeps (ManagerAccounted (κ := κ) away coming reads) start := by
  refine .bind .get fun state => .choice (.pure _) (.bind (.modify ?_) fun _ =>
    .bind (.modify fun _ accounted => accounted) fun _ => .modify fun _ accounted => accounted)
  intro state accounted
  exact accounted.mono (List.nil_subset _) (List.Subset.refl _) (List.Subset.refl _)
    (List.Subset.refl _)

/-- `stop`. -/
theorem keeps_stop : Keeps (ManagerAccounted (κ := κ) away coming reads) stop :=
  .modify fun _ accounted => accounted

/-- `ack_dip`. -/
theorem keeps_ackDip : Keeps (ManagerAccounted (κ := κ) away coming reads) ackDip :=
  .bind .get fun _ => keeps_eraseTimer _

/-- `ack_keepalive`. -/
theorem keeps_ackKeepalive : Keeps (ManagerAccounted (κ := κ) away coming reads) ackKeepalive :=
  .bind (.modify fun _ accounted => accounted) fun _ => .modify fun _ accounted => accounted

/-- A callback is given a request, delivered if it is given as fulfilled, which then goes. -/
theorem keeps_conclude (request : Request κ)
    (delivered : request.status = .fulfilled → (.connected, transmission request) ∈ reads)
    (remove : RequestSet κ → RequestSet κ)
    (fewer : ∀ requests, (remove requests).entries ⊆ requests.entries) :
    Keeps (ManagerAccounted away coming reads) (do
      callCallback parties.master.environment request
      eraseTimer (some request.id)
      modify fun state => { state with requests := remove state.requests } :
        Action Queues κ Unit) := by
  refine .bind (.bind (.modify ?_) fun _ => ?_) fun _ => .bind (keeps_eraseTimer _) fun _ =>
    .modify ?_
  · intro state accounted
    refine ⟨accounted.commands, accounted.acks, ?_⟩
    intro other given status
    rcases List.mem_append.mp given with old | new
    · exact accounted.fulfilled other old status
    · cases List.mem_singleton.mp new
      exact delivered status
  · cases parties.master.environment.invoke request.cb request with
    | none => exact .pure _
    | some error => exact .throw error
  · intro state accounted
    exact accounted.mono (fewer state.requests) (List.Subset.refl _) (List.Subset.refl _)
      (List.Subset.refl _)

/-- `ack_command` of an ack that is underway. -/
theorem keeps_ackCommand (message : Message) (underway : message ∈ coming)
    (type : message.packet.type = PacketType.cmdAck.code) :
    Keeps (ManagerAccounted away coming reads)
      (ackCommand parties.master.environment message.packet) := by
  intro state accounted
  unfold ackCommand
  cases named : ackedId message.packet with
  | error error => exact accounted
  | ok id =>
    dsimp only
    rw [bind_apply, get_apply]
    dsimp only
    cases search : state.requests.findSecond id with
    | none => exact accounted
    | some found =>
      obtain ⟨inside, rfl⟩ := (TwoIndex.findSecond_eq_some_iff _ _ _).mp search
      have delivered := accounted.acks found inside message (List.mem_append_left _ underway) type
        named
      exact keeps_conclude parties { found with status := .fulfilled, ack := some message.packet }
        (fun _ => delivered) (TwoIndex.eraseSecond · found.commandId)
        (fun requests => List.filter_sublist.subset) state accounted

/-- Counting a retry changes no command. -/
theorem mem_withRetry (fields : Fields κ) (id : Nat) (request : Request κ)
    (inside : request ∈ (fields.withRetry id).requests.entries) :
    ∃ old ∈ fields.requests.entries, old.commandId = request.commandId ∧
      transmission old = transmission request := by
  rcases (fields.mem_withRetry_iff id request).mp inside with ⟨same, -⟩ | ⟨old, there, -, rfl⟩
  · exact ⟨request, same, rfl, rfl⟩
  · exact ⟨old, there, rfl, rfl⟩

/-- Counting a retry changes no account. -/
theorem ManagerAccounted.withRetry {state : Hdcp.Master.State Queues κ}
    (accounted : ManagerAccounted away coming reads state) (id : Nat) :
    ManagerAccounted away coming reads (state.withFields (state.toFields.withRetry id)) := by
  refine ⟨?_, ?_, accounted.fulfilled⟩
  · intro request inside message underway type named
    obtain ⟨old, there, sameId, same⟩ := mem_withRetry _ _ _ inside
    rw [← same]
    exact accounted.commands old there message underway type (named.trans sameId.symm)
  · intro request inside message underway type named
    obtain ⟨old, there, sameId, same⟩ := mem_withRetry _ _ _ inside
    rw [← same]
    exact accounted.acks old there message underway type (by rw [named, sameId])

/-- A retry of a pending command. -/
theorem keeps_retryCommand {state : Hdcp.Master.State Queues κ}
    (accounted : ManagerAccounted away coming reads state) (request : Request κ)
    (pending : request ∈ state.requests.entries) :
    ManagerAccounted away coming reads
      (after (retryCommand parties.master.environment request.id request state)) := by
  have counted := accounted.withRetry request.id
  have written := counted.sent (transmission request) ?_
  · have returned := (retryCommand_eq_ok_iff parties.master.environment request.id request state _
      ()).mpr ⟨fun _ _ => rfl, rfl⟩
    rw [returned, after_ok, Fields.refreshed_eq]
    exact written
  · intro other inside type named
    obtain ⟨old, there, sameId, same⟩ := mem_withRetry _ _ _ inside
    have equal : old = request := TwoIndex.eq_of_second there pending (sameId.trans named.symm)
    rw [← same, equal]

/-- The callback of a retry timer writes a pending command again or gives it up. -/
theorem keeps_cmdTimeoutCb (id : Nat) :
    Keeps (ManagerAccounted away coming reads) (cmdTimeoutCb parties.master.environment id) := by
  intro state accounted
  unfold cmdTimeoutCb
  rw [bind_apply, get_apply]
  dsimp only
  cases search : state.requests.findFirst id with
  | none => exact accounted
  | some request =>
    obtain ⟨inside, rfl⟩ := (TwoIndex.findFirst_eq_some_iff _ _ _).mp search
    dsimp only
    split
    · exact keeps_retryCommand parties accounted request inside
    · exact keeps_conclude parties { request with status := .timeout }
        (fun absurdity => by contradiction) (TwoIndex.eraseFirst · request.id)
        (fun requests => List.filter_sublist.subset) state accounted

/-- `ka_mngt_timeout_cb`. -/
theorem keeps_kaMngtTimeoutCb :
    Keeps (ManagerAccounted away coming reads) (kaMngtTimeoutCb parties.master.environment) :=
  .bind (keeps_sendKeepalive parties) fun _ => .bind .get fun _ => .bind (keeps_addTimer _ _)
    fun _ => .modify fun _ accounted => accounted

/-- Reporting a timeout changes no account. -/
theorem keeps_timeout (type : TimeoutType) :
    Keeps (ManagerAccounted away coming reads)
      (reportTimeout parties.master.environment type) := by
  refine .bind (.modify ?_) fun _ => .pure _
  intro state accounted
  refine ⟨accounted.commands, accounted.acks, ?_⟩
  intro request given status
  rcases List.mem_append.mp given with old | new
  · exact accounted.fulfilled request old status
  · cases List.mem_singleton.mp new

/-- The callback of a timer. -/
theorem keeps_fire (timer : Timer TimerCallback) :
    Keeps (ManagerAccounted away coming reads) (fire parties.master.environment timer) := by
  unfold fire
  cases timer.callback with
  | cmdTimeoutCb => exact keeps_cmdTimeoutCb parties timer.id
  | dipTimeoutCb => exact keeps_timeout parties .dipTimeout
  | kaTimeoutCb => exact keeps_timeout parties .kaTimeout
  | kaMngtTimeoutCb => exact keeps_kaMngtTimeoutCb parties

/-- A tick. -/
theorem keeps_runOnce (batch : List (Timer TimerCallback)) :
    Keeps (ManagerAccounted away coming reads) (runOnce parties.master.environment batch) := by
  refine .bind (.modify fun _ accounted => accounted) fun _ => ?_
  induction batch with
  | nil => exact .pure _
  | cons timer batch ih => exact .bind (keeps_fire parties timer) fun _ => ih

/-- The packet id `send_command` takes next is carried by no pending request, no command underway
and no ack underway. -/
def FreshId (away coming : List Message) (state : Hdcp.Master.State Queues κ) : Prop :=
  state.packetId + 1 ∉ state.requests.entries.map Request.commandId ∧
    (∀ message ∈ state.transport.writeQueue ++ away,
      message.packet.type = PacketType.cmd.code → message.packet.id ≠ state.packetId + 1) ∧
    ∀ message ∈ coming ++ state.transport.readQueue,
      message.packet.type = PacketType.cmdAck.code →
        ackedId message.packet ≠ .ok (state.packetId + 1)

/-- A request joins the pending ones, if there is room, whose commands underway are its own and
which no ack underway names. -/
theorem ManagerAccounted.inserted {state : Hdcp.Master.State Queues κ}
    (accounted : ManagerAccounted away coming reads state) (request : Request κ)
    (own : ∀ message ∈ state.transport.writeQueue ++ away,
      message.packet.type = PacketType.cmd.code → message.packet.id = request.commandId →
        message = transmission request)
    (unnamed : ∀ message ∈ coming ++ state.transport.readQueue,
      message.packet.type = PacketType.cmdAck.code →
        ackedId message.packet ≠ .ok request.commandId) :
    ManagerAccounted away coming reads (after (insertRequest request state)) := by
  unfold insertRequest
  rw [bind_apply, get_apply]
  dsimp only
  cases room : state.requests.insert request with
  | none => exact accounted
  | some requests =>
    obtain ⟨-, -, entries⟩ := (TwoIndex.insert_eq_some_iff _ _ _).mp room
    refine ⟨?_, ?_, accounted.fulfilled⟩
    · intro other inside message underway type named
      change other ∈ requests.entries at inside
      rw [entries] at inside
      rcases List.mem_cons.mp inside with rfl | old
      · exact own message underway type named
      · exact accounted.commands other old message underway type named
    · intro other inside message underway type named
      change other ∈ requests.entries at inside
      rw [entries] at inside
      rcases List.mem_cons.mp inside with rfl | old
      · exact absurd named (unnamed message underway type)
      · exact accounted.acks other old message underway type named

/-- `send_command` under a fresh id. -/
theorem sendCommand_accounted {state : Hdcp.Master.State Queues κ}
    (accounted : ManagerAccounted away coming reads state) (fresh : FreshId away coming state)
    (type : UInt16) (data : Bytes) (cb : κ) (timeout : Nat) :
    ManagerAccounted away coming reads
      (after (sendCommand parties.master.environment type data cb timeout state)) := by
  obtain ⟨free, noCommand, noAck⟩ := fresh
  have prepared : ManagerAccounted away coming reads
      (state.withFields (state.toFields.prepared timeout)) := by
    rw [Fields.prepared_eq]
    exact accounted
  rw [sendCommand_apply]
  cases making : state.newCommand parties.master.environment type data with
  | error error => exact prepared
  | ok cmd =>
    obtain ⟨hid, -⟩ := Packet.build_id_type _ _ _ _ _ _ making
    have pending : (state.toFields.prepared timeout).requests = state.requests := by
      rw [Fields.prepared_eq]
    have known : ∀ request ∈ (state.withFields (state.toFields.prepared timeout)).requests.entries,
        cmd.type = PacketType.cmd.code → cmd.id = request.commandId →
          (⟨cmd, some state.timeoutQueue.nextId⟩ : Message) = transmission request := by
      intro request inside type named
      rw [State.toFields_withFields, pending] at inside
      exact absurd (List.mem_map.mpr ⟨request, inside, named.symm.trans hid⟩) free
    have written := prepared.sent ⟨cmd, some state.timeoutQueue.nextId⟩ known
    refine written.inserted { id := state.timeoutQueue.nextId, command := cmd, cb := cb } ?_ ?_
    · intro message underway type named
      rcases List.mem_append.mp underway with near | far
      · rcases List.mem_append.mp near with old | new
        · exact absurd (named.trans hid) (noCommand message (List.mem_append_left _ old) type)
        · exact List.mem_singleton.mp new
      · exact absurd (named.trans hid) (noCommand message (List.mem_append_right _ far) type)
    · intro message underway type named
      exact noAck message underway type (named.trans (congrArg Except.ok hid))

end Manager

/-! ## The master -/

section MasterSide

variable {away coming : List Message} {reads : List (Slave.State × Message)}

/-- The account of a master, with what is underway beyond its queues. -/
def MasterAccounted (away coming : List Message) (reads : List (Slave.State × Message))
    (data : Master.Data Queues κ) : Prop :=
  ManagerAccounted away coming reads data.manager

/-- An operation of the request manager. -/
theorem keeps_onMaster {α : Type} {action : Action Queues κ α}
    (keeps : Keeps (ManagerAccounted away coming reads) action) :
    Keeps (MasterAccounted away coming reads) (Master.onManager action) := by
  intro data accounted
  have kept := keeps data.manager accounted
  unfold Master.onManager
  cases outcome : action data.manager with
  | ok value manager =>
    rw [outcome] at kept
    exact kept
  | error error manager =>
    rw [outcome] at kept
    exact kept

/-- Fields of the master other than its request manager do not matter. -/
theorem keeps_masterFields {change : Master.Data Queues κ → Master.Data Queues κ}
    (same : ∀ data, (change data).manager = data.manager) :
    Keeps (MasterAccounted away coming reads) (modify change : Master.Handler Queues κ Unit) := by
  refine .modify ?_
  intro data accounted
  unfold MasterAccounted
  rw [same]
  exact accounted

/-- Erasing an event changes no account. -/
theorem keeps_eraseEvent (event : Master.Event) :
    Keeps (MasterAccounted (κ := κ) away coming reads) (Master.eraseEvent event) :=
  .bind .get fun _ => .bind (keeps_masterFields fun _ => rfl) fun _ => .pure _

variable (parties : Parties κ)

/-- There is nothing to read. -/
theorem masterRead_nil (state : Master.State) {data : Master.Data Queues κ}
    (queue : data.manager.transport.readQueue = []) :
    Master.read parties.master state data = .ok none data := by
  have empty : Queues.read data.manager.transport = (none, data.manager.transport) := by
    rw [Queues.read, queue]
  unfold Master.read
  rw [bind_apply, get_apply]
  dsimp only [Parties.master, Queues.transport]
  rw [empty]
  rfl

/-- The oldest packet is read. -/
theorem masterRead_cons (state : Master.State) {data : Master.Data Queues κ} {message : Message}
    {rest : List Message} (queue : data.manager.transport.readQueue = message :: rest) :
    Master.read parties.master state data = .ok (some message)
      { data with
        manager :=
          { data.manager with transport := { data.manager.transport with readQueue := rest } }
        reads := data.reads ++ [(state, message)] } := by
  have found : Queues.read data.manager.transport =
      (some message, { data.manager.transport with readQueue := rest }) := by
    rw [Queues.read, queue]
  unfold Master.read
  rw [bind_apply, get_apply]
  dsimp only [Parties.master, Queues.transport]
  rw [found]
  rfl

/-- A packet is read, and is still accounted for as underway. -/
theorem masterRead_leads (state : Master.State) :
    Leads (MasterAccounted away coming reads) (Master.read parties.master state)
      (fun found => MasterAccounted away (found.toList ++ coming) reads)
      (MasterAccounted away coming reads) := by
  intro data accounted
  cases queue : data.manager.transport.readQueue with
  | nil =>
    rw [masterRead_nil parties state queue]
    constructor
    · intro value final returned
      cases returned
      exact accounted
    · intro error final thrown
      contradiction
  | cons message rest =>
    rw [masterRead_cons parties state queue]
    constructor
    · intro value final returned
      cases returned
      refine accounted.mono (List.Subset.refl _) (List.Subset.refl _) ?_ (List.Subset.refl _)
      rw [queue]
      exact List.perm_middle.symm.subset
    · intro error final thrown
      contradiction

/-- What is processed was underway. -/
theorem MasterAccounted.forget {data : Master.Data Queues κ} {message : Message}
    (accounted : MasterAccounted away (message :: coming) reads data) :
    MasterAccounted away coming reads data :=
  accounted.mono (List.Subset.refl _) (List.Subset.refl _) (List.subset_cons_self _ _)
    (List.Subset.refl _)

/-- A handler that ends by reading. -/
theorem keeps_masterReadPacket (state : Master.State)
    (process : Message → Master.Handler Queues κ Unit)
    (processed : ∀ message, Keeps (MasterAccounted away (message :: coming) reads)
      (process message)) :
    Keeps (MasterAccounted away coming reads)
      (Master.readPacket parties.master state process) := by
  refine Leads.keeps (.bind (masterRead_leads parties state) fun found => ?_)
  cases found with
  | none => exact .of_keeps (.pure _) fun _ standing => standing
  | some message =>
    exact .of_keeps (.bind (processed message) fun _ => .pure _) fun _ accounted =>
      accounted.forget

/-- The test of a packet's id changes no account. -/
theorem keeps_masterCheckPacketId (packet : Packet) :
    Keeps (MasterAccounted (κ := κ) away coming reads) (Master.checkPacketId packet) :=
  .bind (keeps_masterFields fun _ => rfl) fun _ => .bind .get fun _ =>
    .runIf (keeps_masterFields fun _ => rfl)

/-- A packet read in state connected is processed. -/
theorem keeps_masterProcessConnected (message : Message) :
    Keeps (MasterAccounted away (message :: coming) reads)
      (Master.processConnected parties.master message) := by
  refine .bind (keeps_masterCheckPacketId message.packet) fun _ => ?_
  by_cases ack : message.packet.type = PacketType.cmdAck.code
  · rw [if_pos ack]
    exact keeps_onMaster (keeps_ackCommand parties message List.mem_cons_self ack)
  · rw [if_neg ack]
    exact .choice (Master.giveData_keeps parties.master (fun _ _ accounted => accounted) message)
      (.choice (keeps_onMaster keeps_ackKeepalive) (.pure _))

/-- The first wakeup in state connecting. -/
theorem keeps_masterEnterConnecting :
    Keeps (MasterAccounted away coming reads) (Master.enterConnecting parties.master) := by
  have cleared : Keeps (ManagerAccounted (κ := κ) away coming reads)
      (modify fun manager =>
        { manager with transport := parties.master.transport.clearQueues manager.transport } :
          Action Queues κ Unit) := by
    refine .modify ?_
    intro state accounted
    refine accounted.mono (List.Subset.refl _) (List.subset_append_right _ _) ?_
      (List.Subset.refl _)
    intro message inside
    rcases List.mem_append.mp inside with old | absurdity
    · exact List.mem_append_left _ old
    · contradiction
  exact .bind (keeps_onMaster cleared) fun _ => .bind (keeps_onMaster keeps_start) fun _ =>
    .bind (keeps_eraseEvent _) fun _ => keeps_masterFields fun _ => rfl

/-- `handler_state_connecting`. -/
theorem keeps_masterConnecting (loops : Nat) :
    Keeps (MasterAccounted away coming reads)
      (Master.handlerStateConnecting parties.master loops) := by
  have due : Keeps (MasterAccounted (κ := κ) away coming reads) Master.attemptDue :=
    .bind .get fun _ => .choice (.pure _) (keeps_eraseEvent _)
  have attempt : Keeps (MasterAccounted away coming reads)
      (Master.attemptConnection parties.master) :=
    .bind (keeps_masterFields fun _ => rfl) fun _ => keeps_onMaster (keeps_sendHip parties _)
  refine .bind (.runIf (keeps_masterEnterConnecting parties)) fun _ => .bind due fun _ =>
    .bind (.runIf attempt) fun _ => keeps_masterReadPacket parties _ _ fun message => .runIf ?_
  exact .bind (keeps_masterFields fun _ => rfl) fun _ => .bind (keeps_masterFields fun _ => rfl)
    fun _ => .bind (keeps_onMaster keeps_ackDip) fun _ => keeps_masterFields fun _ => rfl

/-- The handlers of the master. -/
theorem keeps_masterHandler (state : Master.State) (loops : Nat) :
    Keeps (MasterAccounted away coming reads) (Master.handler parties.master state loops) := by
  cases state with
  | init =>
    exact .bind (keeps_masterFields fun _ => rfl) fun _ =>
      .bind (keeps_masterFields fun _ => rfl) fun _ => .pure _
  | disconnected =>
    exact .bind (.runIf (.bind (keeps_masterFields fun _ => rfl) fun _ =>
      keeps_onMaster keeps_stop)) fun _ => .pure _
  | connecting => exact keeps_masterConnecting parties loops
  | connected =>
    exact .bind (.runIf (keeps_onMaster (keeps_startKeepaliveManagement parties _ _))) fun _ =>
      keeps_masterReadPacket parties _ _ (keeps_masterProcessConnected parties)

/-- The master's state machine goes on. -/
theorem masterWakeup_accounted {master next : Master.Party Queues κ}
    (accounted : MasterAccounted away coming reads master.data)
    (taken : master.wakeup parties.master = some next) :
    MasterAccounted away coming reads next.data := by
  refine Master.wakeup_keeps parties.master (keeps_masterHandler parties) ?_ taken accounted
  intro data next same accounted
  unfold MasterAccounted
  rw [same]
  exact accounted

end MasterSide

/-! ## The slave -/

section SlaveSide

variable {pending : List (Request κ)} {outputs : List (Output κ)} {away coming : List Message}
  {seen : List (Slave.State × Message)}

/-- The account of the slave's request manager, with what is underway beyond its queues, what was
read so far and some of the reads. -/
def SlaveManagerAccounted (pending : List (Request κ)) (outputs : List (Output κ))
    (away coming : List Message) (seen reads : List (Slave.State × Message))
    (state : Hdcp.Slave.State Queues) : Prop :=
  Accounted pending outputs (away ++ state.transport.readQueue)
    (state.transport.writeQueue ++ coming) reads ∧ seen ⊆ reads

/-- The account of a slave. -/
def SlaveAccounted (pending : List (Request κ)) (outputs : List (Output κ))
    (away coming : List Message) (seen : List (Slave.State × Message))
    (data : Slave.Data Queues) : Prop :=
  SlaveManagerAccounted pending outputs away coming seen data.reads data.manager

/-- If a packet is an ack of a pending request, the request was delivered. -/
def Harmless (pending : List (Request κ)) (reads : List (Slave.State × Message))
    (packet : Packet) : Prop :=
  ∀ request ∈ pending, packet.type = PacketType.cmdAck.code →
    ackedId packet = .ok request.commandId → (.connected, transmission request) ∈ reads

variable (parties : Parties κ) {reads : List (Slave.State × Message)}

/-- A harmless packet is written. -/
theorem slaveWrite_accounted {state : Hdcp.Slave.State Queues}
    (accounted : SlaveManagerAccounted pending outputs away coming seen reads state)
    (packet : Packet) (harmless : Harmless pending reads packet) :
    SlaveManagerAccounted pending outputs away coming seen reads
      (after (Hdcp.Slave.write parties.slave.environment packet state)) := by
  obtain ⟨account, known⟩ := accounted
  refine ⟨⟨account.commands, ?_, account.fulfilled⟩, known⟩
  intro request inside message underway type named
  rcases List.mem_append.mp underway with written | far
  · rcases List.mem_append.mp written with old | new
    · exact account.acks request inside message (List.mem_append_left _ old) type named
    · obtain rfl := List.mem_singleton.mp new
      exact harmless request inside type named
  · exact account.acks request inside message (List.mem_append_right _ far) type named

/-- A packet that is harmless once made is numbered, made and written. -/
theorem keeps_sendMade (make : UInt16 → Hdcp.Slave.Action Queues Packet)
    (made : ∀ id, Leads (SlaveManagerAccounted pending outputs away coming seen reads) (make id)
      (fun packet state => SlaveManagerAccounted pending outputs away coming seen reads state ∧
        Harmless pending reads packet)
      (SlaveManagerAccounted pending outputs away coming seen reads)) :
    Keeps (SlaveManagerAccounted pending outputs away coming seen reads)
      (Hdcp.Slave.sendMade parties.slave.environment make) := by
  refine .bind (fun _ accounted => accounted) fun packetId => ?_
  refine Leads.keeps (.bind (made packetId) fun packet => ?_)
  intro state ready
  have written := slaveWrite_accounted parties ready.1 packet ready.2
  constructor
  · intro value final returned
    rw [returned] at written
    exact written
  · intro error final thrown
    rw [thrown] at written
    exact written

/-- A maker whose packets are harmless. -/
theorem made_leads (packet : Except PacketError Packet)
    (harmless : ∀ value, packet = .ok value → Harmless pending reads value) :
    Leads (SlaveManagerAccounted pending outputs away coming seen reads)
      (Hdcp.Slave.made packet)
      (fun packet state => SlaveManagerAccounted pending outputs away coming seen reads state ∧
        Harmless pending reads packet)
      (SlaveManagerAccounted pending outputs away coming seen reads) := by
  intro state accounted
  cases packet with
  | ok packet =>
    constructor
    · intro value final returned
      cases returned
      exact ⟨accounted, harmless packet rfl⟩
    · intro error final thrown
      contradiction
  | error refused =>
    constructor
    · intro value final returned
      contradiction
    · intro error final thrown
      cases thrown
      exact accounted

/-- A packet of another type than an ack is harmless. -/
theorem harmless_build (raw : Packet) (id : UInt16) (type : PacketType) (nBlock : UInt8)
    (payload : Bytes) (other : type.code ≠ PacketType.cmdAck.code) (packet : Packet)
    (made : Packet.build raw id type nBlock payload = .ok packet) :
    Harmless pending reads packet := by
  intro request inside ack
  rw [(Packet.build_id_type _ _ _ _ _ _ made).2] at ack
  exact absurd ack other

/-- `send_dip`. -/
theorem keeps_sendDip :
    Keeps (SlaveManagerAccounted pending outputs away coming seen reads)
      (Hdcp.Slave.sendDip parties.slave.environment parties.slaveId) :=
  .bind .get fun _ => .runIf (keeps_sendMade parties _ fun _ =>
    made_leads _ (harmless_build _ _ _ _ _ (by decide)))

/-- `keepalive`. -/
theorem keeps_keepalive :
    Keeps (SlaveManagerAccounted pending outputs away coming seen reads)
      (Hdcp.Slave.keepalive parties.slave.environment) := by
  have erased : Keeps (SlaveManagerAccounted pending outputs away coming seen reads)
      Hdcp.Slave.eraseKeepalive := by
    refine .modify ?_
    intro state accounted
    cases state.keepaliveId with
    | none => exact accounted
    | some id => exact accounted
  exact .bind .get fun _ => .bind (.runIf (.bind erased fun _ =>
    .modify fun _ accounted => accounted)) fun _ => .bind .get fun _ => .runIf
      (keeps_sendMade parties _ fun _ => made_leads _ (harmless_build _ _ _ _ _ (by decide)))

/-- `send_cmd_ack` of a command read in state connected. -/
theorem keeps_sendCmdAck (message : Message) (underway : message ∈ away)
    (read : (.connected, message) ∈ seen) (type : message.packet.type = PacketType.cmd.code) :
    Keeps (SlaveManagerAccounted pending outputs away coming seen reads)
      (Hdcp.Slave.sendCmdAck parties.slave.environment message.packet) := by
  refine .bind .get fun _ => .runIf (keeps_sendMade parties _ fun packetId => ?_)
  have block : Leads (SlaveManagerAccounted pending outputs away coming seen reads)
      (Hdcp.Slave.firstBlock message.packet)
      (fun _ => SlaveManagerAccounted pending outputs away coming seen reads)
      (SlaveManagerAccounted pending outputs away coming seen reads) := by
    refine .of_keeps ?_ fun _ standing => standing
    unfold Hdcp.Slave.firstBlock
    cases message.packet.blocks with
    | nil => exact .throw _
    | cons block rest => exact .pure _
  refine .bind block fun block => ?_
  intro state accounted
  -- the command read is the request's, when the ack names a pending request
  refine made_leads _ ?_ state accounted
  intro packet made request inside _ named
  rw [ackedId_makeCmdAck _ _ _ _ _ made, Except.ok.injEq] at named
  have own := accounted.1.commands request inside message (List.mem_append_left _ underway) type
    named
  rw [← own]
  exact accounted.2 read

/-- `send_data`. -/
theorem keeps_sendData (blocks : List BlockView) :
    Keeps (SlaveManagerAccounted pending outputs away coming seen reads)
      (Hdcp.Slave.sendData parties.slave.environment blocks) := by
  have sent (payload : List BlockView) :
      Keeps (SlaveManagerAccounted pending outputs away coming seen reads)
        (Hdcp.Slave.sendMade parties.slave.environment fun packetId =>
          Hdcp.Slave.made (Packet.makeData parties.slave.environment.raw packetId payload)) :=
    keeps_sendMade parties _ fun _ => made_leads _ (harmless_build _ _ _ _ _ (by decide))
  have packed (payload : List BlockView) (size : Nat) :
      Keeps (SlaveManagerAccounted pending outputs away coming seen reads)
        (Hdcp.Slave.sendDataFrom parties.slave.environment blocks payload size) := by
    induction blocks generalizing payload size with
    | nil => exact .runIf (sent payload)
    | cons block blocks ih =>
      exact .bind (.runIf (.throw _)) fun _ =>
        .choice (.bind (sent payload) fun _ => ih _ _) (ih _ _)
  exact packed [] 0

/-- A tick. -/
theorem keeps_slaveRunOnce (batch : List (Timer Hdcp.Slave.TimerCallback)) :
    Keeps (SlaveManagerAccounted pending outputs away coming seen reads)
      (Hdcp.Slave.runOnce parties.slave.environment batch) := by
  refine .bind (.modify fun _ accounted => accounted) fun _ => ?_
  induction batch with
  | nil => exact .pure _
  | cons timer batch ih =>
    refine .bind ?_ fun _ => ih
    unfold Hdcp.Slave.fire
    cases timer.callback with
    | kaTimeoutCb => exact .bind (.modify fun _ accounted => accounted) fun _ => .pure _

/-- An operation of the request manager. -/
theorem keeps_onSlave {α : Type} {action : Hdcp.Slave.Action Queues α}
    (keeps : ∀ reads, Keeps (SlaveManagerAccounted pending outputs away coming seen reads) action) :
    Keeps (SlaveAccounted pending outputs away coming seen) (Slave.onManager action) := by
  intro data accounted
  have kept := keeps data.reads data.manager accounted
  unfold Slave.onManager
  cases outcome : action data.manager with
  | ok value manager =>
    rw [outcome] at kept
    exact kept
  | error error manager =>
    rw [outcome] at kept
    exact kept

/-- Fields of the slave other than its request manager and its reads do not matter. -/
theorem keeps_slaveFields {change : Slave.Data Queues → Slave.Data Queues}
    (same : ∀ data, (change data).manager = data.manager ∧ (change data).reads = data.reads) :
    Keeps (SlaveAccounted pending outputs away coming seen)
      (modify change : Slave.Handler Queues Unit) := by
  refine .modify ?_
  intro data accounted
  unfold SlaveAccounted
  rw [(same data).1, (same data).2]
  exact accounted

/-- There is nothing to read. -/
theorem slaveRead_nil (state : Slave.State) {data : Slave.Data Queues}
    (queue : data.manager.transport.readQueue = []) :
    Slave.read parties.slave state data = .ok none data := by
  have empty : Queues.read data.manager.transport = (none, data.manager.transport) := by
    rw [Queues.read, queue]
  unfold Slave.read
  rw [bind_apply, get_apply]
  dsimp only [Parties.slave, Queues.transport]
  rw [empty]
  rfl

/-- The oldest packet is read. -/
theorem slaveRead_cons (state : Slave.State) {data : Slave.Data Queues} {message : Message}
    {rest : List Message} (queue : data.manager.transport.readQueue = message :: rest) :
    Slave.read parties.slave state data = .ok (some message)
      { data with
        manager :=
          { data.manager with transport := { data.manager.transport with readQueue := rest } }
        reads := data.reads ++ [(state, message)] } := by
  have found : Queues.read data.manager.transport =
      (some message, { data.manager.transport with readQueue := rest }) := by
    rw [Queues.read, queue]
  unfold Slave.read
  rw [bind_apply, get_apply]
  dsimp only [Parties.slave, Queues.transport]
  rw [found]
  rfl

/-- A packet is read, is still accounted for as underway, and is known to be read. -/
theorem slaveRead_leads (state : Slave.State) :
    Leads (SlaveAccounted pending outputs away coming []) (Slave.read parties.slave state)
      (fun found => SlaveAccounted pending outputs (found.toList ++ away) coming
        (found.toList.map fun message => (state, message)))
      (SlaveAccounted pending outputs away coming []) := by
  intro data accounted
  cases queue : data.manager.transport.readQueue with
  | nil =>
    rw [slaveRead_nil parties state queue]
    constructor
    · intro value final returned
      cases returned
      exact accounted
    · intro error final thrown
      contradiction
  | cons message rest =>
    rw [slaveRead_cons parties state queue]
    constructor
    · intro value final returned
      cases returned
      refine ⟨accounted.1.mono (List.Subset.refl _) ?_ (List.Subset.refl _)
        (List.subset_append_left _ _), List.subset_append_right _ _⟩
      rw [queue]
      exact List.perm_middle.symm.subset
    · intro error final thrown
      contradiction

/-- A handler that ends by reading. -/
theorem keeps_slaveReadPacket (state : Slave.State)
    (process : Message → Slave.Handler Queues Unit)
    (processed : ∀ message, Keeps
      (SlaveAccounted pending outputs (message :: away) coming [(state, message)])
      (process message)) :
    Keeps (SlaveAccounted pending outputs away coming [])
      (Slave.readPacket parties.slave state process) := by
  refine Leads.keeps (.bind (slaveRead_leads parties state) fun found => ?_)
  cases found with
  | none => exact .of_keeps (.pure _) fun _ standing => standing
  | some message =>
    refine .of_keeps (.bind (processed message) fun _ => .pure _) fun data accounted => ?_
    exact ⟨accounted.1.mono (List.Subset.refl _) (List.subset_cons_self _ _)
      (List.Subset.refl _) (List.Subset.refl _), List.nil_subset _⟩

/-- The test of a packet's id changes no account. -/
theorem keeps_slaveCheckPacketId (packet : Packet) :
    Keeps (SlaveAccounted pending outputs away coming seen) (Slave.checkPacketId packet) :=
  .bind (keeps_slaveFields fun _ => ⟨rfl, rfl⟩) fun _ => .bind .get fun _ =>
    .runIf (keeps_slaveFields fun _ => ⟨rfl, rfl⟩)

/-- `stop` of the request manager. -/
theorem keeps_slaveStop :
    Keeps (SlaveAccounted pending outputs away coming seen)
      (Slave.onManager Hdcp.Slave.stop) :=
  keeps_onSlave fun _ => .modify fun _ accounted => accounted

/-- `handler_state_disconnected`. -/
theorem keeps_slaveDisconnected (loops : Nat) :
    Keeps (SlaveAccounted pending outputs away coming [])
      (Slave.handlerStateDisconnected parties.slave loops) := by
  have cleared : Keeps (SlaveAccounted pending outputs away coming [])
      (Slave.onManager (modify fun manager => { manager with
        transport := parties.slave.transport.clearQueues manager.transport })) := by
    refine keeps_onSlave fun reads => .modify ?_
    intro state accounted
    refine ⟨accounted.1.mono (List.Subset.refl _) ?_ (List.subset_append_right _ _)
      (List.Subset.refl _), accounted.2⟩
    intro message inside
    rcases List.mem_append.mp inside with old | absurdity
    · exact List.mem_append_left _ old
    · contradiction
  refine .bind (.runIf (.bind keeps_slaveStop fun _ => cleared)) fun _ =>
    keeps_slaveReadPacket parties _ _ fun message => .runIf ?_
  exact .bind (keeps_slaveFields fun _ => ⟨rfl, rfl⟩) fun _ =>
    .bind (keeps_slaveFields fun _ => ⟨rfl, rfl⟩) fun _ => keeps_slaveFields fun _ => ⟨rfl, rfl⟩

/-- `handler_state_connecting`. -/
theorem keeps_slaveConnecting (loops : Nat) :
    Keeps (SlaveAccounted pending outputs away coming [])
      (Slave.handlerStateConnecting parties.slave loops) := by
  have started : Keeps (SlaveAccounted pending outputs away coming [])
      (Slave.onManager Hdcp.Slave.start) :=
    keeps_onSlave fun _ => .bind .get fun _ => .choice (.pure _) (.bind
      (.modify fun _ accounted => accounted) fun _ => .bind (.modify fun _ accounted => accounted)
        fun _ => .modify fun _ accounted => accounted)
  have managed : Keeps (SlaveAccounted pending outputs away coming [])
      (Slave.onManager (Hdcp.Slave.startKeepaliveManagement Hdcp.Slave.keepaliveTimeout)) :=
    keeps_onSlave fun _ => .bind (.modify fun _ accounted => accounted) fun _ =>
      .bind (.modify fun _ accounted => accounted) fun _ => .modify fun _ accounted => accounted
  refine .bind (.runIf (.bind started fun _ => .bind (keeps_onSlave fun _ => keeps_sendDip parties)
    fun _ => managed)) fun _ => keeps_slaveReadPacket parties _ _ fun message => ?_
  exact .bind (keeps_slaveCheckPacketId _) fun _ => .runIf (.bind (keeps_onSlave fun _ =>
    keeps_keepalive parties) fun _ => keeps_slaveFields fun _ => ⟨rfl, rfl⟩)

/-- A packet read in state connected is processed. -/
theorem keeps_slaveProcessConnected (message : Message) :
    Keeps (SlaveAccounted pending outputs (message :: away) coming [(.connected, message)])
      (Slave.processConnected parties.slave message) := by
  refine .bind (keeps_slaveCheckPacketId _) fun _ => .choice ?_ ?_
  · have unmanaged (reads : List (Slave.State × Message)) :
        Keeps (SlaveManagerAccounted pending outputs (message :: away) coming
          [(.connected, message)] reads) Hdcp.Slave.stopKeepaliveManagement := by
      refine .bind (.modify fun _ accounted => accounted) fun _ => .modify ?_
      intro state accounted
      cases state.keepaliveId with
      | none => exact accounted
      | some id => exact accounted
    exact .bind (keeps_slaveFields fun _ => ⟨rfl, rfl⟩) fun _ => .bind (keeps_onSlave unmanaged)
      fun _ => .bind keeps_slaveStop fun _ => keeps_slaveFields fun _ => ⟨rfl, rfl⟩
  · by_cases command : message.packet.type = PacketType.cmd.code
    · rw [if_pos command]
      exact .bind (keeps_onSlave fun _ => keeps_keepalive parties) fun _ =>
        .bind (keeps_onSlave fun _ => keeps_sendCmdAck parties message List.mem_cons_self
          List.mem_cons_self command) fun _ => .runIf (keeps_slaveFields fun _ => ⟨rfl, rfl⟩)
    · rw [if_neg command]
      exact .choice (keeps_onSlave fun _ => keeps_keepalive parties) (.pure _)

/-- The handlers of the slave. -/
theorem keeps_slaveHandler (state : Slave.State) (loops : Nat) :
    Keeps (SlaveAccounted pending outputs away coming [])
      (Slave.handler parties.slave state loops) := by
  cases state with
  | init =>
    exact .bind (keeps_slaveFields fun _ => ⟨rfl, rfl⟩) fun _ =>
      .bind (keeps_slaveFields fun _ => ⟨rfl, rfl⟩) fun _ =>
        .bind (keeps_slaveFields fun _ => ⟨rfl, rfl⟩) fun _ => .pure _
  | disconnected => exact keeps_slaveDisconnected parties loops
  | connecting => exact keeps_slaveConnecting parties loops
  | connected => exact keeps_slaveReadPacket parties _ _ (keeps_slaveProcessConnected parties)

/-- The slave's state machine goes on. -/
theorem slaveWakeup_accounted {slave next : Slave.Party Queues}
    (accounted : SlaveAccounted pending outputs away coming [] slave.data)
    (taken : slave.wakeup parties.slave = some next) :
    SlaveAccounted pending outputs away coming [] next.data := by
  refine Slave.wakeup_keeps parties.slave (keeps_slaveHandler parties) ?_ taken accounted
  intro data next manager reads _ accounted
  unfold SlaveAccounted
  rw [manager, reads]
  exact accounted

end SlaveSide

end Hdcp.Appli
