import Hdcp.Master.RequestManager
import Hdcp.Packet.RoundTrip

/-!
# What the operations of the request manager do

One lemma for each operation: when it returns and the state it returns in. The lemmas of the other
modules about the manager rest on these and do not open the operations again.
-/

namespace Hdcp.Master

open Base

variable {τ κ : Type}

/-! ## Timers -/

/-- The fields with the keepalive timer armed. -/
def Fields.withMngtTimer (fields : Fields κ) (interval : Nat) : Fields κ :=
  { fields with
    timeoutQueue :=
      fields.timeoutQueue.addRepeating fields.now (interval / timeBaseMs) .kaMngtTimeoutCb
    keepaliveMngtId := some fields.timeoutQueue.nextId }

/-- The fields with a timer erased, if there is one to erase. -/
def Fields.withoutTimer (fields : Fields κ) (id : Option Nat) : Fields κ :=
  match id with
  | none => fields
  | some id => { fields with timeoutQueue := fields.timeoutQueue.erase id }

/-- The fields with the next packet id taken. -/
def Fields.withNextId (fields : Fields κ) : Fields κ :=
  { fields with packetId := fields.packetId + 1 }

/-- The fields with the keepalive timer restarted, when keepalives are managed. -/
def Fields.refreshed (fields : Fields κ) : Fields κ :=
  if fields.keepaliveMngt then
    (fields.withoutTimer fields.keepaliveMngtId).withMngtTimer keepaliveInterval
  else fields

@[simp] theorem addTimer_apply (delay : Nat) (callback : TimerCallback) (state : State τ κ) :
    addTimer delay callback state = .ok state.timeoutQueue.nextId
      { state with timeoutQueue := state.timeoutQueue.add state.now delay callback } := rfl

@[simp] theorem addRepeatingTimer_apply (interval : Nat) (callback : TimerCallback)
    (state : State τ κ) :
    addRepeatingTimer interval callback state = .ok state.timeoutQueue.nextId
      { state with timeoutQueue := state.timeoutQueue.addRepeating state.now interval callback } :=
  rfl

@[simp] theorem nextPacketId_apply (state : State τ κ) :
    nextPacketId state =
      .ok (state.packetId + 1) { state with toFields := state.toFields.withNextId } := rfl

@[simp] theorem emit_apply (output : Output κ) (state : State τ κ) :
    emit output state = .ok () { state with outputs := state.outputs ++ [output] } := rfl

@[simp] theorem eraseTimer_apply (id : Option Nat) (state : State τ κ) :
    eraseTimer id state = .ok () { state with toFields := state.toFields.withoutTimer id } := by
  cases id <;> rfl

@[simp] theorem armKeepaliveMngt_apply (interval : Nat) (state : State τ κ) :
    armKeepaliveMngt interval state =
      .ok () { state with toFields := state.toFields.withMngtTimer interval } := rfl

@[simp] theorem resetKeepaliveMngt_apply (state : State τ κ) :
    resetKeepaliveMngt state = .ok () { state with toFields := state.toFields.refreshed } := by
  unfold resetKeepaliveMngt Fields.refreshed
  by_cases managed : state.keepaliveMngt
  · simp only [bind_apply, get_apply, managed, ↓reduceIte, eraseTimer_apply,
      armKeepaliveMngt_apply]
  · simp only [bind_apply, get_apply, managed, Bool.false_eq_true, ↓reduceIte,
      pure_apply]

/-- Erasing a timer changes the queue alone. -/
theorem Fields.withoutTimer_eq (fields : Fields κ) (id : Option Nat) :
    fields.withoutTimer id =
      { fields with timeoutQueue := (fields.withoutTimer id).timeoutQueue } := by
  cases id <;> rfl

/-- Restarting the keepalive timer changes the queue and the timer's identifier alone. -/
theorem Fields.refreshed_eq (fields : Fields κ) :
    fields.refreshed =
      { fields with
        timeoutQueue := fields.refreshed.timeoutQueue
        keepaliveMngtId := fields.refreshed.keepaliveMngtId } := by
  unfold refreshed
  split
  · rw [withMngtTimer, withoutTimer_eq]
  · rfl

/-- A manager with other fields. -/
def State.withFields (state : State τ κ) (fields : Fields κ) : State τ κ :=
  { state with toFields := fields }

@[simp] theorem State.toFields_withFields (state : State τ κ) (fields : Fields κ) :
    (state.withFields fields).toFields = fields := rfl

@[simp] theorem State.outputs_withFields (state : State τ κ) (fields : Fields κ) :
    (state.withFields fields).outputs = state.outputs := rfl

/-! ## The surroundings -/

/-- The transport, if any, takes a message. -/
def Accepts (env : Environment τ κ) (state : State τ κ) (message : Message) : Prop :=
  env.attached = true → (env.write state.transport message).1 = none

/-- A manager after its transport, if any, took a message. -/
def State.sent (env : Environment τ κ) (state : State τ κ) (message : Message) : State τ κ :=
  if env.attached then
    { state with
      transport := (env.write state.transport message).2
      outputs := state.outputs ++ [.written message] }
  else state

/-- Sending changes no field. -/
@[simp] theorem State.toFields_sent (env : Environment τ κ) (state : State τ κ)
    (message : Message) : (state.sent env message).toFields = state.toFields := by
  unfold sent
  split <;> rfl

/-- What sending gives out. -/
theorem State.outputs_sent (env : Environment τ κ) (state : State τ κ) (message : Message) :
    (state.sent env message).outputs =
      state.outputs ++ if env.attached then [.written message] else [] := by
  unfold sent
  split
  · rfl
  · exact (List.append_nil _).symm

/-- The transport does not see the fields. -/
@[simp] theorem accepts_withFields (env : Environment τ κ) (state : State τ κ)
    (fields : Fields κ) (message : Message) :
    Accepts env (state.withFields fields) message ↔ Accepts env state message := Iff.rfl

/-- Sending is independent of the fields. -/
@[simp] theorem State.sent_withFields (env : Environment τ κ) (state : State τ κ)
    (fields : Fields κ) (message : Message) :
    (state.withFields fields).sent env message = (state.sent env message).withFields fields := by
  unfold sent
  split <;> rfl

/-- A write returns exactly when the transport takes the message. -/
theorem write_eq_ok_iff (env : Environment τ κ) (message : Message) (state next : State τ κ)
    (value : Unit) :
    write env message state = .ok value next ↔
      Accepts env state message ∧ next = state.sent env message := by
  unfold write Accepts State.sent
  by_cases attached : env.attached = true
  · cases refusal : (env.write state.transport message).1 with
    | none => simp [attached, refusal, eq_comm]
    | some error => simp [attached, refusal]
  · simp [attached, eq_comm]

/-- A write that throws changes no field and gives nothing out. -/
theorem write_eq_error (env : Environment τ κ) (message : Message) (state next : State τ κ)
    (error : Exn) (failed : write env message state = .error error next) :
    next.toFields = state.toFields ∧ next.outputs = state.outputs ∧
      (∃ refusal, error = .transport refusal) ∧ ¬ Accepts env state message := by
  unfold write at failed
  unfold Accepts
  by_cases attached : env.attached = true
  · cases refusal : (env.write state.transport message).1 with
    | none => simp [attached, refusal] at failed
    | some refused =>
      simp only [attached, ↓reduceIte, bind_apply, get_apply, modify_apply, refusal, throw_apply,
        EStateM.Result.error.injEq] at failed
      obtain ⟨rfl, rfl⟩ := failed
      exact ⟨rfl, rfl, ⟨refused, rfl⟩, fun accepts => by simpa [refusal] using accepts attached⟩
  · simp [attached] at failed

/-- A request's callback returns exactly when it raises nothing; it was given the request. -/
theorem callCallback_eq_ok_iff (env : Environment τ κ) (request : Request κ)
    (state next : State τ κ) (value : Unit) :
    callCallback env request state = .ok value next ↔
      env.invoke request.cb request = none ∧
        next = { state with outputs := state.outputs ++ [.called request] } := by
  unfold callCallback
  simp only [bind_apply, emit_apply]
  cases env.invoke request.cb request with
  | none => simp [eq_comm]
  | some error => simp

/-- A maker's packet. -/
theorem made_eq_ok_iff (packet : Except PacketError Packet) (value : Packet)
    (state next : State τ κ) :
    made packet state = .ok value next ↔ packet = .ok value ∧ next = state := by
  unfold made
  cases packet with
  | ok packet => simp [eq_comm]
  | error error => simp

/-- Reporting a timeout returns exactly when the callback raises nothing. -/
theorem reportTimeout_eq_ok (env : Environment τ κ) (type : TimeoutType) (state next : State τ κ)
    (returned : reportTimeout env type state = .ok () next) :
    next = { state with outputs := next.outputs } ∧
      (next.outputs = state.outputs ∨ next.outputs = state.outputs ++ [.timedOut type]) := by
  unfold reportTimeout at returned
  cases present : env.timeoutCb with
  | none =>
    simp only [present, pure_apply, EStateM.Result.ok.injEq, true_and] at returned
    subst returned
    exact ⟨rfl, .inl rfl⟩
  | some timeoutCb =>
    simp only [present, bind_apply, emit_apply] at returned
    cases raised : timeoutCb type with
    | none =>
      simp only [raised, pure_apply, EStateM.Result.ok.injEq, true_and] at returned
      subst returned
      exact ⟨rfl, .inr rfl⟩
    | some error => simp [raised] at returned

/-- An insertion returns exactly when it succeeds. -/
theorem insertRequest_eq_ok_iff (request : Request κ) (state next : State τ κ) (value : Unit) :
    insertRequest request state = .ok value next ↔
      ∃ requests, state.requests.insert request = some requests ∧
        next = { state with requests := requests } := by
  unfold insertRequest
  simp only [bind_apply, get_apply]
  cases state.requests.insert request with
  | none => simp
  | some requests => simp [eq_comm]

/-! ## What statements keep -/

section Keeping

variable {holds : Fields κ → Prop}

/-- A property of the fields, as one of the state. -/
def OnFields (holds : Fields κ → Prop) (state : State τ κ) : Prop := holds state.toFields

/-- A write keeps what the fields satisfy. -/
theorem keeps_write (env : Environment τ κ) (message : Message) :
    Keeps (OnFields holds) (write env message) := by
  intro state standing
  cases outcome : write env message state with
  | ok value next =>
    obtain ⟨-, rfl⟩ := (write_eq_ok_iff env message state next value).mp outcome
    exact (congrArg holds (State.toFields_sent env state message)).mpr standing
  | error error next =>
    exact (congrArg holds (write_eq_error env message state next error outcome).1).mpr standing

/-- A callback keeps what the fields satisfy. -/
theorem keeps_callCallback (env : Environment τ κ) (request : Request κ) :
    Keeps (OnFields (τ := τ) holds) (callCallback env request) := by
  refine .bind (.modify fun _ standing => standing) fun _ => ?_
  cases env.invoke request.cb request with
  | none => exact .pure _
  | some error => exact .throw error

/-- Making a packet keeps everything. -/
theorem keeps_made {anything : State τ κ → Prop} (packet : Except PacketError Packet) :
    Keeps anything (made packet) := by
  cases packet with
  | ok packet => exact .pure packet
  | error error => exact .throw _

/-- Reporting a timeout keeps what the fields satisfy. -/
theorem keeps_reportTimeout (env : Environment τ κ) (type : TimeoutType) :
    Keeps (OnFields (τ := τ) holds) (reportTimeout env type) := by
  unfold reportTimeout
  cases env.timeoutCb with
  | none => exact .pure _
  | some timeoutCb =>
    refine .bind (.modify fun _ standing => standing) fun _ => ?_
    cases timeoutCb type with
    | none => exact .pure _
    | some error => exact .throw error

/-- An insertion keeps what the fields satisfy, if the request may join the others. -/
theorem keeps_insertRequest (request : Request κ)
    (joins : ∀ fields requests, holds fields →
      requests.entries = request :: fields.requests.entries →
        holds { fields with requests := requests }) :
    Keeps (OnFields (τ := τ) holds) (insertRequest request) := by
  intro state standing
  cases outcome : insertRequest request state with
  | ok value next =>
    obtain ⟨requests, inserted, same⟩ := (insertRequest_eq_ok_iff _ _ _ _).mp outcome
    have entries := ((TwoIndex.insert_eq_some_iff _ _ _).mp inserted).2.2
    rw [after_ok, same]
    exact joins state.toFields requests standing entries
  | error error next =>
    unfold insertRequest at outcome
    rw [bind_apply, get_apply] at outcome
    dsimp only at outcome
    cases found : state.requests.insert request with
    | none =>
      rw [found] at outcome
      cases outcome
      exact standing
    | some requests =>
      rw [found] at outcome
      contradiction

end Keeping

/-! ## Commands -/

/-- The fields with the retry timer of a new command armed. -/
def Fields.withCmdTimer (fields : Fields κ) (timeout : Nat) : Fields κ :=
  { fields with
    timeoutQueue :=
      fields.timeoutQueue.addRepeating fields.now (timeout / timeBaseMs) .cmdTimeoutCb }

/-- The fields `send_command` leaves before it makes its packet: the retry timer is armed, the
keepalive timer restarted and the packet id taken. -/
def Fields.prepared (fields : Fields κ) (timeout : Nat) : Fields κ :=
  (fields.withCmdTimer timeout).refreshed.withNextId

/-- The packet a call of `send_command` makes. -/
def State.newCommand (env : Environment τ κ) (state : State τ κ) (type : UInt16) (data : Bytes) :
    Except PacketError Packet :=
  Packet.makeCommand env.raw (state.packetId + 1) type data

/-- Restarting the keepalive timer leaves the packet id. -/
@[simp] theorem Fields.packetId_refreshed (fields : Fields κ) :
    fields.refreshed.packetId = fields.packetId := by
  rw [refreshed_eq]

/-- Preparing a command changes the queue, the keepalive timer's identifier and the packet id. -/
theorem Fields.prepared_eq (fields : Fields κ) (timeout : Nat) :
    fields.prepared timeout =
      { fields with
        timeoutQueue := (fields.prepared timeout).timeoutQueue
        keepaliveMngtId := (fields.prepared timeout).keepaliveMngtId
        packetId := fields.packetId + 1 } := by
  rw [prepared, withNextId, refreshed_eq]
  rfl

/-- What is left of `send_command` once it is prepared. -/
theorem sendCommand_apply (env : Environment τ κ) (type : UInt16) (data : Bytes) (cb : κ)
    (timeout : Nat) (state : State τ κ) :
    sendCommand env type data cb timeout state =
      (do
        let cmd ← made (state.newCommand env type data)
        write env ⟨cmd, some state.timeoutQueue.nextId⟩
        insertRequest { id := state.timeoutQueue.nextId, command := cmd, cb := cb } :
          Action τ κ Unit) (state.withFields (state.toFields.prepared timeout)) := by
  have armed : addRepeatingTimer (timeout / timeBaseMs) .cmdTimeoutCb state =
      .ok state.timeoutQueue.nextId
        (state.withFields (state.toFields.withCmdTimer timeout)) := rfl
  have same : (state.toFields.withCmdTimer timeout).packetId = state.packetId := rfl
  unfold sendCommand
  rw [bind_apply, armed]
  dsimp only
  rw [bind_apply, resetKeepaliveMngt_apply]
  dsimp only
  rw [bind_apply, nextPacketId_apply, Fields.packetId_refreshed]
  rfl

/-- `send_command` returns exactly when the packet can be made, the transport takes it and the
request table has room for its id. -/
theorem sendCommand_eq_ok_iff (env : Environment τ κ) (type : UInt16) (data : Bytes) (cb : κ)
    (timeout : Nat) (state next : State τ κ) :
    sendCommand env type data cb timeout state = .ok () next ↔
      ∃ cmd requests, state.newCommand env type data = .ok cmd ∧
        Accepts env state ⟨cmd, some state.timeoutQueue.nextId⟩ ∧
        state.requests.insert { id := state.timeoutQueue.nextId, command := cmd, cb := cb } =
          some requests ∧
        next = (state.sent env ⟨cmd, some state.timeoutQueue.nextId⟩).withFields
          { state.toFields.prepared timeout with requests := requests } := by
  have table : (state.toFields.prepared timeout).requests = state.requests := by
    rw [Fields.prepared_eq]
  rw [sendCommand_apply, bind_eq_ok_iff]
  simp only [made_eq_ok_iff, bind_eq_ok_iff, write_eq_ok_iff, insertRequest_eq_ok_iff]
  constructor
  · rintro ⟨cmd, _, ⟨made, rfl⟩, _, _, ⟨accepts, rfl⟩, requests, inserted, rfl⟩
    rw [State.sent_withFields, State.toFields_withFields, table] at inserted
    exact ⟨cmd, requests, made, accepts, inserted, by rw [State.sent_withFields]; rfl⟩
  · rintro ⟨cmd, requests, made, accepts, inserted, rfl⟩
    refine ⟨cmd, _, ⟨made, rfl⟩, (), _, ⟨accepts, rfl⟩, requests, ?_, ?_⟩
    · rw [State.sent_withFields, State.toFields_withFields, table]
      exact inserted
    · rw [State.sent_withFields]
      rfl

/-- Whether `send_command` returns or throws, its timers are armed and its packet id is taken. -/
theorem sendCommand_after (env : Environment τ κ) (type : UInt16) (data : Bytes) (cb : κ)
    (timeout : Nat) (state : State τ κ) :
    ∃ requests, (after (sendCommand env type data cb timeout state)).toFields =
      { state.toFields.prepared timeout with requests := requests } := by
  rw [sendCommand_apply]
  refine (Keeps.bind (keeps_made _) fun cmd => .bind (keeps_write env _) fun _ =>
    .bind .get fun state' => ?_ : Keeps (OnFields fun fields => ∃ requests, fields =
      { state.toFields.prepared timeout with requests := requests }) _) _ ⟨_, rfl⟩
  cases state'.requests.insert _ with
  | none => exact .throw _
  | some requests =>
    refine .modify ?_
    rintro next ⟨old, same⟩
    exact ⟨requests, by rw [same]⟩

/-- A manager after a request was handed to its callback. -/
def State.reported (state : State τ κ) (request : Request κ) : State τ κ :=
  { state with outputs := state.outputs ++ [.called request] }

/-- How a request ends, acknowledged or given up: callback, timer, table. -/
theorem conclude_eq_ok_iff (env : Environment τ κ) (request : Request κ)
    (remove : RequestSet κ → RequestSet κ) (state next : State τ κ) (value : Unit) :
    (do
      callCallback env request
      eraseTimer (some request.id)
      modify fun state => { state with requests := remove state.requests } :
        Action τ κ Unit) state = .ok value next ↔
      env.invoke request.cb request = none ∧
        next = (state.reported request).withFields
          { state.toFields.withoutTimer (some request.id) with
            requests := remove state.requests } := by
  rw [bind_eq_ok_iff]
  simp only [callCallback_eq_ok_iff]
  constructor
  · rintro ⟨-, _, ⟨silent, rfl⟩, rest⟩
    rw [bind_apply, eraseTimer_apply] at rest
    cases rest
    exact ⟨silent, rfl⟩
  · rintro ⟨silent, rfl⟩
    refine ⟨(), _, ⟨silent, rfl⟩, ?_⟩
    rw [bind_apply, eraseTimer_apply]
    rfl

/-- A request whose callback throws is left as it was, with its timer. -/
theorem conclude_eq_error (env : Environment τ κ) (request : Request κ)
    (remove : RequestSet κ → RequestSet κ) (state next : State τ κ) (error : Exn)
    (thrown : (do
      callCallback env request
      eraseTimer (some request.id)
      modify fun state => { state with requests := remove state.requests } :
        Action τ κ Unit) state = .error error next) :
    env.invoke request.cb request = some error ∧ next = state.reported request := by
  unfold callCallback at thrown
  rw [bind_apply, bind_apply, emit_apply] at thrown
  dsimp only at thrown
  cases raised : env.invoke request.cb request with
  | none =>
    rw [raised] at thrown
    contradiction
  | some other =>
    rw [raised] at thrown
    cases thrown
    exact ⟨rfl, rfl⟩

/-- The id an ack names is that of the command it was made for. -/
theorem ackedId_makeCmdAck (raw packet : Packet) (id type cmdId : UInt16)
    (made : Packet.makeCmdAck raw id type cmdId = .ok packet) : ackedId packet = .ok cmdId := by
  unfold ackedId
  rw [Packet.makeCmdAck_blocks raw packet id type cmdId made]
  exact congrArg Except.ok (word16_le16 cmdId)

/-- An ack is processed: the callback has run and neither the timer nor the request is left. -/
theorem ackCommand_eq_ok_iff (env : Environment τ κ) (packet : Packet) (state next : State τ κ)
    (value : Unit) :
    ackCommand env packet state = .ok value next ↔
      ∃ id found, ackedId packet = .ok id ∧ state.requests.findSecond id = some found ∧
        env.invoke found.cb { found with status := .fulfilled, ack := some packet } = none ∧
        next = (state.reported { found with status := .fulfilled, ack := some packet }).withFields
          { state.toFields.withoutTimer (some found.id) with
            requests := state.requests.eraseSecond id } := by
  unfold ackCommand
  cases ackedId packet with
  | error error => simp
  | ok id =>
    dsimp only
    rw [bind_apply, get_apply]
    dsimp only
    cases search : state.requests.findSecond id with
    | none => simp [search]
    | some found =>
      refine Iff.trans (conclude_eq_ok_iff env
        { found with status := .fulfilled, ack := some packet } (TwoIndex.eraseSecond · id) state
        next value) ?_
      constructor
      · rintro ⟨silent, rfl⟩
        exact ⟨id, found, rfl, search, silent, rfl⟩
      · rintro ⟨other, request, same, again, silent, rfl⟩
        obtain rfl := Except.ok.inj same
        obtain rfl := Option.some.inj (search.symm.trans again)
        exact ⟨silent, rfl⟩

/-- With callbacks that raise nothing, an ack that is refused changes nothing. -/
theorem ackCommand_eq_error (env : Environment τ κ) (packet : Packet) (state next : State τ κ)
    (silent : ∀ cb request, env.invoke cb request = none) (error : Exn)
    (refused : ackCommand env packet state = .error error next) :
    next = state ∧ ∀ id, ackedId packet = .ok id → state.requests.findSecond id = none := by
  unfold ackCommand at refused
  cases named : ackedId packet with
  | error error =>
    rw [named] at refused
    cases refused
    exact ⟨rfl, fun id absurdity => by contradiction⟩
  | ok id =>
    rw [named] at refused
    dsimp only at refused
    rw [bind_apply, get_apply] at refused
    dsimp only at refused
    cases search : state.requests.findSecond id with
    | none =>
      rw [search] at refused
      cases refused
      exact ⟨rfl, fun other same => by cases same; exact search⟩
    | some found =>
      rw [search] at refused
      have processed := (ackCommand_eq_ok_iff env packet state _ ()).mpr
        ⟨id, found, named, search, silent _ _, rfl⟩
      unfold ackCommand at processed
      rw [named] at processed
      dsimp only at processed
      rw [bind_apply, get_apply] at processed
      dsimp only at processed
      rw [search] at processed
      rw [processed] at refused
      contradiction

/-- The fields with a retry of a request counted. -/
def Fields.withRetry (fields : Fields κ) (id : Nat) : Fields κ :=
  { fields with requests := fields.requests.modifyFirst id incRetry incRetry_keys }

/-- The requests after a retry was counted. -/
theorem Fields.mem_withRetry_iff (fields : Fields κ) (id : Nat) (request : Request κ) :
    request ∈ (fields.withRetry id).requests.entries ↔
      (request ∈ fields.requests.entries ∧ request.id ≠ id) ∨
        ∃ old ∈ fields.requests.entries, old.id = id ∧ incRetry old = request :=
  TwoIndex.mem_modifyFirst _ _ incRetry (fun _ => ⟨rfl, rfl⟩) _

/-- A retry: it is counted, the command is written again if the transport is open, and the
keepalive timer restarted. -/
theorem retryCommand_eq_ok_iff (env : Environment τ κ) (id : Nat) (request : Request κ)
    (state next : State τ κ) (value : Unit) :
    retryCommand env id request state = .ok value next ↔
      (state.isOpen env = true → Accepts env state ⟨request.command, some id⟩) ∧
        next = (if state.isOpen env then state.sent env ⟨request.command, some id⟩
          else state).withFields (state.toFields.withRetry id).refreshed := by
  have counted : (modify fun state : State τ κ =>
      { state with requests := state.requests.modifyFirst id incRetry fun _ => ⟨rfl, rfl⟩ } :
        Action τ κ Unit) state = .ok () (state.withFields (state.toFields.withRetry id)) := rfl
  have same : (state.withFields (state.toFields.withRetry id)).isOpen env = state.isOpen env := rfl
  unfold retryCommand
  rw [bind_apply, counted]
  dsimp only
  rw [bind_apply, get_apply]
  dsimp only
  rw [same]
  by_cases opened : state.isOpen env = true
  · rw [if_pos opened, if_pos opened, bind_eq_ok_iff]
    simp only [write_eq_ok_iff, resetKeepaliveMngt_apply, EStateM.Result.ok.injEq]
    constructor
    · rintro ⟨-, _, ⟨accepts, rfl⟩, -, rfl⟩
      refine ⟨fun _ => accepts, ?_⟩
      rw [State.sent_withFields]
      rfl
    · rintro ⟨accepts, rfl⟩
      refine ⟨(), _, ⟨accepts opened, rfl⟩, trivial, ?_⟩
      rw [State.sent_withFields]
      rfl
  · rw [if_neg opened, if_neg opened]
    simp only [resetKeepaliveMngt_apply, EStateM.Result.ok.injEq, opened, true_and,
      Bool.false_eq_true, false_implies]
    exact eq_comm

/-- A request out of retries: its callback has run and neither its timer nor itself is left. -/
theorem giveUp_eq_ok_iff (env : Environment τ κ) (id : Nat) (request : Request κ)
    (state next : State τ κ) (value : Unit) :
    giveUp env id request state = .ok value next ↔
      env.invoke request.cb { request with status := .timeout } = none ∧
        next = (state.reported { request with status := .timeout }).withFields
          { state.toFields.withoutTimer (some request.id) with
            requests := state.requests.eraseFirst id } :=
  conclude_eq_ok_iff env { request with status := .timeout } (TwoIndex.eraseFirst · id) state next
    value

/-- The callback of a retry timer returns by a retry or by giving up. -/
theorem cmdTimeoutCb_eq_ok_iff (env : Environment τ κ) (id : Nat) (state next : State τ κ)
    (value : Unit) :
    cmdTimeoutCb env id state = .ok value next ↔
      ∃ request, state.requests.findFirst id = some request ∧
        if request.retry < maxRetry then retryCommand env id request state = .ok value next
        else giveUp env id request state = .ok value next := by
  unfold cmdTimeoutCb
  rw [bind_apply, get_apply]
  dsimp only
  cases search : state.requests.findFirst id with
  | none => simp
  | some request =>
    simp only [Option.some.injEq, exists_eq_left']
    split <;> rfl

/-! ## Keepalives and connection -/

/-- The part of what was given out that concerns a command. -/
def Output.concerns (id : Nat) : Output κ → Bool
  | .written message => message.call = some id
  | .called request => request.id = id
  | .timedOut _ => false

/-- What was given out about a command, oldest first. -/
def State.about (state : State τ κ) (id : Nat) : List (Output κ) :=
  state.outputs.filter (Output.concerns id)

/-- Nothing about any command is given out. -/
def Silent (state next : State τ κ) : Prop := ∀ id, next.about id = state.about id

/-- A message of no command says nothing about one. -/
theorem silent_sent (env : Environment τ κ) (state : State τ κ) (packet : Packet) :
    Silent state (state.sent env ⟨packet, none⟩) := by
  intro id
  unfold State.sent State.about
  split
  · rw [List.filter_append]
    exact List.append_nil _
  · rfl

/-- A keepalive takes a packet id at most, and says nothing about a command. -/
theorem sendKeepalive_eq_ok (env : Environment τ κ) (state next : State τ κ) (value : Unit)
    (returned : sendKeepalive env state = .ok value next) :
    next.toFields = { state.toFields with packetId := next.packetId } ∧ Silent state next := by
  unfold sendKeepalive at returned
  rw [bind_apply, get_apply] at returned
  dsimp only at returned
  split at returned
  · rw [bind_apply, nextPacketId_apply] at returned
    dsimp only at returned
    rw [bind_eq_ok_iff] at returned
    obtain ⟨packet, middle, made, rest⟩ := returned
    obtain ⟨-, rfl⟩ := (made_eq_ok_iff _ _ _ _).mp made
    obtain ⟨-, rfl⟩ := (write_eq_ok_iff _ _ _ _ _).mp rest
    refine ⟨?_, ?_⟩
    · rw [State.toFields_sent]
      rfl
    · intro id
      exact silent_sent env _ packet id
  · cases returned
    exact ⟨rfl, fun id => rfl⟩

/-- The fields with the connection timer armed. -/
def Fields.withDipTimer (fields : Fields κ) (timeout : Nat) : Fields κ :=
  { fields with
    timeoutQueue := fields.timeoutQueue.add fields.now (timeout / timeBaseMs) .dipTimeoutCb
    dipId := some fields.timeoutQueue.nextId }

/-- The fields with the timer of a keepalive armed, and held beside others. -/
def Fields.withKaTimer (fields : Fields κ) (others : List Nat) : Fields κ :=
  { fields with
    timeoutQueue := fields.timeoutQueue.add fields.now fields.timeoutKeepalive .kaTimeoutCb
    kaIds := others ++ [fields.timeoutQueue.nextId] }

/-- The fields with the timers of all keepalives erased. -/
def Fields.withoutKaTimers (fields : Fields κ) : Fields κ :=
  { fields with
    timeoutQueue := fields.kaIds.foldl TimeoutQueue.erase fields.timeoutQueue
    kaIds := [] }

/-- `send_hip` returns when the transport is closed or takes a HIP under the next packet id, and
arms the connection timer. -/
theorem sendHip_eq_ok_iff (env : Environment τ κ) (identification : Identification)
    (timeout : Nat) (state next : State τ κ) (value : Unit) :
    sendHip env identification timeout state = .ok value next ↔
      state.isOpen env = false ∧ next = state.withFields (state.toFields.withDipTimer timeout) ∨
      state.isOpen env = true ∧
        ∃ hip, Packet.makeHip env.raw (state.packetId + 1) identification = .ok hip ∧
          Accepts env state ⟨hip, none⟩ ∧
          next = (state.sent env ⟨hip, none⟩).withFields
            (state.toFields.withNextId.withDipTimer timeout) := by
  have armed : ∀ state : State τ κ, (do
      let id ← addTimer (timeout / timeBaseMs) .dipTimeoutCb
      modify fun state => { state with dipId := some id } : Action τ κ Unit) state =
        .ok () (state.withFields (state.toFields.withDipTimer timeout)) := fun _ => rfl
  unfold sendHip
  rw [bind_apply, get_apply]
  dsimp only
  cases isOpen : state.isOpen env with
  | false =>
    rw [if_neg (by decide), armed]
    simp [eq_comm]
  | true =>
    rw [if_pos rfl, bind_apply, nextPacketId_apply]
    dsimp only
    -- the state in which the packet is written has the next packet id, and nothing else is new
    have sent : ∀ hip, State.sent env
        { state with toFields := state.toFields.withNextId } ⟨hip, none⟩ =
          (state.sent env ⟨hip, none⟩).withFields state.toFields.withNextId :=
      fun hip => State.sent_withFields env state state.toFields.withNextId ⟨hip, none⟩
    constructor
    · intro returned
      obtain ⟨hip, middle, making, rest⟩ := (bind_eq_ok_iff _ _ _ _ _).mp returned
      obtain ⟨same, rfl⟩ := (made_eq_ok_iff _ _ _ _).mp making
      obtain ⟨_, middle, writing, last⟩ := (bind_eq_ok_iff _ _ _ _ _).mp rest
      obtain ⟨accepts, rfl⟩ := (write_eq_ok_iff _ _ _ _ _).mp writing
      rw [armed, sent] at last
      cases last
      exact .inr ⟨rfl, hip, same, accepts, rfl⟩
    · rintro (⟨closed, -⟩ | ⟨-, hip, making, accepts, rfl⟩)
      · contradiction
      · refine (bind_eq_ok_iff _ _ _ _ _).mpr
          ⟨hip, _, (made_eq_ok_iff _ _ _ _).mpr ⟨making, rfl⟩, ?_⟩
        have writing := (write_eq_ok_iff env ⟨hip, none⟩
          { state with toFields := state.toFields.withNextId } _ ()).mpr ⟨accepts, rfl⟩
        refine (bind_eq_ok_iff _ _ _ _ _).mpr ⟨(), _, writing, ?_⟩
        rw [armed, sent]
        rfl

/-- `send_hip` arms the connection timer. -/
theorem sendHip_eq_ok (env : Environment τ κ) (identification : Identification) (timeout : Nat)
    (state next : State τ κ) (value : Unit)
    (returned : sendHip env identification timeout state = .ok value next) :
    next.toFields =
        Fields.withDipTimer { state.toFields with packetId := next.packetId } timeout ∧
      Silent state next := by
  rcases (sendHip_eq_ok_iff env identification timeout state next value).mp returned with
    ⟨-, rfl⟩ | ⟨-, hip, -, -, rfl⟩
  · exact ⟨rfl, fun id => rfl⟩
  · exact ⟨rfl, fun id => silent_sent env state hip id⟩

/-- `ka_mngt_timeout_cb` arms the timer of the keepalive it sent. -/
theorem kaMngtTimeoutCb_eq_ok (env : Environment τ κ) (state next : State τ κ) (value : Unit)
    (returned : kaMngtTimeoutCb env state = .ok value next) :
    next.toFields =
        Fields.withKaTimer { state.toFields with packetId := next.packetId } state.kaIds ∧
      Silent state next := by
  unfold kaMngtTimeoutCb at returned
  rw [bind_eq_ok_iff] at returned
  obtain ⟨_, middle, sent, armed⟩ := returned
  obtain ⟨fields, silent⟩ := sendKeepalive_eq_ok env state middle _ sent
  rw [bind_apply, get_apply] at armed
  dsimp only at armed
  rw [bind_apply, addTimer_apply] at armed
  cases armed
  refine ⟨?_, silent⟩
  dsimp only
  rw [fields]
  rfl

/-- `start_keepalive_management` arms the keepalive timer and the timer of the first keepalive. -/
theorem startKeepaliveManagement_eq_ok (env : Environment τ κ) (interval timeout : Nat)
    (state next : State τ κ) (value : Unit)
    (returned : startKeepaliveManagement env interval timeout state = .ok value next) :
    next.toFields = Fields.withKaTimer
        { Fields.withMngtTimer { state.toFields with keepaliveMngt := true } interval with
          packetId := next.packetId
          timeoutKeepalive := timeout / timeBaseMs } [] ∧
      Silent state next := by
  unfold startKeepaliveManagement at returned
  rw [bind_apply, modify_apply] at returned
  dsimp only at returned
  rw [bind_apply, armKeepaliveMngt_apply] at returned
  dsimp only at returned
  rw [bind_eq_ok_iff] at returned
  obtain ⟨_, middle, sent, armed⟩ := returned
  obtain ⟨fields, silent⟩ := sendKeepalive_eq_ok env _ middle _ sent
  cases armed
  refine ⟨?_, silent⟩
  dsimp only
  rw [fields]
  rfl

/-- `stop_keepalive_management` erases the keepalive timer. -/
@[simp] theorem stopKeepaliveManagement_apply (state : State τ κ) :
    stopKeepaliveManagement state = .ok () (state.withFields
      (Fields.withoutTimer { state.toFields with keepaliveMngt := false }
        state.keepaliveMngtId)) := by
  unfold stopKeepaliveManagement
  rw [bind_apply, modify_apply]
  dsimp only
  rw [bind_apply, get_apply]
  dsimp only
  rw [eraseTimer_apply]
  rfl

/-- `ack_keepalive` erases the timers of all keepalives. -/
@[simp] theorem ackKeepalive_apply (state : State τ κ) :
    ackKeepalive state = .ok () (state.withFields state.toFields.withoutKaTimers) := rfl

/-- `ack_dip` erases the connection timer. -/
@[simp] theorem ackDip_apply (state : State τ κ) :
    ackDip state = .ok () (state.withFields (state.toFields.withoutTimer state.dipId)) := by
  unfold ackDip
  rw [bind_apply, get_apply]
  exact eraseTimer_apply _ _

/-- The fields after a tick took its batch. -/
def Fields.ticked (fields : Fields κ) : Fields κ :=
  { fields with now := fields.now + 1, timeoutQueue := fields.timeoutQueue.advance fields.now }

@[simp] theorem takeBatch_apply (state : State τ κ) :
    takeBatch state = .ok () (state.withFields state.toFields.ticked) := rfl

/-- The fields of a manager that was just started. -/
def Fields.started (fields : Fields κ) : Fields κ :=
  { fields with
    requests := .empty
    timeoutQueue := fields.timeoutQueue.clear
    keepaliveMngt := false
    now := 0
    packetId := 0
    running := true }

/-- `start` of a manager that is not running. -/
theorem start_apply (state : State τ κ) (idle : state.running = false) :
    start state = .ok () (state.withFields state.toFields.started) := by
  unfold start
  rw [bind_apply, get_apply]
  dsimp only
  rw [if_neg (by rw [idle]; decide)]
  rfl

/-- `start` of a manager that is running. -/
theorem start_running (state : State τ κ) (running : state.running = true) :
    start state = .ok () state := by
  unfold start
  rw [bind_apply, get_apply]
  dsimp only
  rw [if_pos running]
  rfl

end Hdcp.Master
