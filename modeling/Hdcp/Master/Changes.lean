import Hdcp.Master.Effects
import Hdcp.Packet.Codec
import Mathlib.Logic.Relation

/-!
# What an operation can change

The operations of the manager, `start` apart, change it in a few ways only: they move timers, write
packets under the next packet id, enter a command into the table, count its retries, hand it to its
callback and remove it, and report timeouts. What each of these changes preserves, every operation
preserves, whether it returns or throws.
-/

namespace Hdcp.Master

open Base

variable {τ κ : Type}

/-- A request as its callback gets it at the end: with a status other than pending. -/
structure Ends (request called : Request κ) : Prop where
  /-- The identifier of its timer. -/
  id : called.id = request.id
  /-- Its command. -/
  command : called.command = request.command
  /-- Its callback. -/
  cb : called.cb = request.cb
  /-- How it ended. -/
  status : called.status = .fulfilled ∨ called.status = .timeout

/-- A transport is left alone, or refuses a message. -/
def Refuses (env : Environment τ κ) (before after : τ) : Prop :=
  after = before ∨
    ∃ message, (env.write before message).1 ≠ none ∧ after = (env.write before message).2

/-- One change. That a packet id is taken and no packet written under it may be excluded. -/
inductive Change (env : Environment τ κ) (loses : Prop) : State τ κ → State τ κ → Prop where
  /-- Timers are armed or erased, and the fields about them change. -/
  | timers (state : State τ κ) (fields : Fields κ)
      (follows : fields.timeoutQueue.Follows state.timeoutQueue)
      (requests : fields.requests = state.requests)
      (packetId : fields.packetId = state.packetId) (running : fields.running = state.running) :
      Change env loses state (state.withFields fields)
  /-- A packet of no command is written. -/
  | sent (state : State τ κ) (packet : Packet) (named : packet.id = state.packetId + 1) :
      Change env loses state
        ((state.sent env ⟨packet, none⟩).withFields state.toFields.withNextId)
  /-- A packet id is taken and no packet written. -/
  | unsent (state : State τ κ) (transport : τ) (refused : Refuses env state.transport transport)
      (lost : loses) :
      Change env loses state
        { state with toFields := state.toFields.withNextId, transport := transport }
  /-- A command is written and, its id being pending, not entered into the table. -/
  | overrun (state : State τ κ) (cmd : Packet) (timeout : Nat)
      (named : cmd.id = state.packetId + 1) :
      Change env loses state
        ((state.sent env ⟨cmd, some state.timeoutQueue.nextId⟩).withFields
          (state.toFields.prepared timeout))
  /-- A command is written and entered into the table. -/
  | accepted (state : State τ κ) (cmd : Packet) (cb : κ) (timeout : Nat)
      (requests : RequestSet κ) (named : cmd.id = state.packetId + 1)
      (inserted : state.requests.insert
        { id := state.timeoutQueue.nextId, command := cmd, cb := cb } = some requests) :
      Change env loses state
        ((state.sent env ⟨cmd, some state.timeoutQueue.nextId⟩).withFields
          { state.toFields.prepared timeout with requests := requests })
  /-- A retry of a pending command is counted and the command written. -/
  | rewritten (state : State τ κ) (request : Request κ)
      (pending : request ∈ state.requests.entries) (left : request.retry < maxRetry) :
      Change env loses state
        ((state.sent env ⟨request.command, some request.id⟩).withFields
          (state.toFields.withRetry request.id))
  /-- A retry of a pending command is counted and the command not written. -/
  | unwritten (state : State τ κ) (request : Request κ) (transport : τ)
      (refused : Refuses env state.transport transport)
      (pending : request ∈ state.requests.entries) (left : request.retry < maxRetry) :
      Change env loses state
        { state with toFields := state.toFields.withRetry request.id, transport := transport }
  /-- A pending request is handed to its callback. -/
  | reported (state : State τ κ) (request called : Request κ)
      (pending : request ∈ state.requests.entries) (ends : Ends request called) :
      Change env loses state (state.reported called)
  /-- A pending request is handed to its callback and forgotten. -/
  | concluded (state : State τ κ) (request called : Request κ) (requests : RequestSet κ)
      (pending : request ∈ state.requests.entries) (ends : Ends request called)
      (removed : requests.entries = state.requests.entries.filter (·.id ≠ request.id)) :
      Change env loses state
        ((state.reported called).withFields
          { state.toFields.withoutTimer (some request.id) with requests := requests })
  /-- A timeout is reported. -/
  | timedOut (state : State τ κ) (type : TimeoutType) :
      Change env loses state { state with outputs := state.outputs ++ [.timedOut type] }
  /-- The manager is stopped. -/
  | stopped (state : State τ κ) :
      Change env loses state (state.withFields { state.toFields with running := false })

/-- Any number of changes. -/
abbrev Changes (env : Environment τ κ) (loses : Prop) : State τ κ → State τ κ → Prop :=
  Relation.ReflTransGen (Change env loses)

/-- Where packet ids may be lost, they need not be. -/
theorem Change.mono {env : Environment τ κ} {loses : Prop} {state next : State τ κ}
    (change : Change env False state next) : Change env loses state next := by
  cases change with
  | timers fields follows requests packetId running =>
    exact .timers state fields follows requests packetId running
  | sent packet named => exact .sent state packet named
  | unsent transport refused lost => exact lost.elim
  | overrun cmd timeout named => exact .overrun state cmd timeout named
  | accepted cmd cb timeout requests named inserted =>
    exact .accepted state cmd cb timeout requests named inserted
  | rewritten request pending left => exact .rewritten state request pending left
  | unwritten request transport refused pending left =>
    exact .unwritten state request transport refused pending left
  | reported request called pending ends => exact .reported state request called pending ends
  | concluded request called requests pending ends removed =>
    exact .concluded state request called requests pending ends removed
  | timedOut type => exact .timedOut state type
  | stopped => exact .stopped state

/-- Where packet ids may be lost, they need not be. -/
theorem Changes.mono {env : Environment τ κ} {loses : Prop} {state next : State τ κ}
    (changes : Changes env False state next) : Changes env loses state next :=
  Relation.ReflTransGen.mono (fun _ _ => Change.mono) _ _ changes

/-- An operation is a sequence of changes, in which it loses a packet id only when it throws. -/
abbrev Changing {α : Type} (env : Environment τ κ) (action : Action τ κ α) : Prop :=
  Performs (Change env False) (Change env True) action

/-- An operation that loses no packet id, even when it throws. -/
abbrev Lossless {α : Type} (env : Environment τ κ) (action : Action τ κ α) : Prop :=
  Performs (Change env False) (Change env False) action

/-- An operation that loses no packet id is a sequence of changes. -/
theorem Lossless.changing {α : Type} {env : Environment τ κ} {action : Action τ κ α}
    (lossless : Lossless env action) : Changing env action :=
  fun state => ⟨(lossless state).1, fun error next thrown =>
    Changes.mono ((lossless state).2 error next thrown)⟩

namespace Changing

variable {α β : Type} {env : Environment τ κ}

/-- Whether it returns or throws, an operation is a sequence of changes. -/
theorem changes {action : Action τ κ α} (changing : Changing env action) (state : State τ κ) :
    Changes env True state (after (action state)) :=
  Performs.steps (fun _ _ => Change.mono) changing state

/-- A sequence. -/
theorem bind {first : Action τ κ α} {rest : α → Action τ κ β} (begun : Changing env first)
    (ended : ∀ value, Changing env (rest value)) : Changing env (first >>= rest) :=
  Performs.bind (fun _ _ => Change.mono) begun ended

/-- The fields change in their timers. -/
theorem fields {action : Action τ κ α} (value : State τ κ → α) (change : Fields κ → Fields κ)
    (evaluates : ∀ state,
      action state = .ok (value state) (state.withFields (change state.toFields)))
    (follows : ∀ fields, (change fields).timeoutQueue.Follows fields.timeoutQueue)
    (requests : ∀ fields, (change fields).requests = fields.requests)
    (packetId : ∀ fields, (change fields).packetId = fields.packetId)
    (running : ∀ fields, (change fields).running = fields.running) : Changing env action :=
  Performs.single _ _ evaluates fun state =>
    .timers state _ (follows _) (requests _) (packetId _) (running _)

end Changing

section Operations

variable {env : Environment τ κ}

/-- A failed write leaves a manager with a transport that refused it. -/
theorem write_eq_error_state {message : Message} {state next : State τ κ} {error : Exn}
    (failed : write env message state = .error error next) :
    next = { state with transport := next.transport } ∧
      Refuses env state.transport next.transport := by
  unfold write at failed
  by_cases attached : env.attached = true
  · cases refusal : (env.write state.transport message).1 with
    | none => simp [attached, refusal] at failed
    | some refused =>
      simp only [attached, ↓reduceIte, bind_apply, get_apply, modify_apply, refusal, throw_apply,
        EStateM.Result.error.injEq] at failed
      obtain ⟨-, rfl⟩ := failed
      refine ⟨rfl, .inr ⟨message, ?_, rfl⟩⟩
      rw [refusal]
      exact Option.some_ne_none _
  · simp [attached] at failed

/-- A packet is made under the next id and written. -/
theorem sendNext_changing (make : UInt16 → Except PacketError Packet)
    (named : ∀ id packet, make id = .ok packet → packet.id = id) :
    Changing env (do
      let packetId ← nextPacketId
      let packet ← made (make packetId)
      write env ⟨packet, none⟩ : Action τ κ Unit) := by
  intro state
  have numbered : ((do
      let packetId ← nextPacketId
      let packet ← made (make packetId)
      write env ⟨packet, none⟩ : Action τ κ Unit) state) =
      (do
        let packet ← made (make (state.packetId + 1))
        write env ⟨packet, none⟩ : Action τ κ Unit) (state.withFields state.toFields.withNextId) :=
    rfl
  rw [numbered]
  constructor
  · intro value next returned
    obtain ⟨packet, middle, making, writing⟩ := (bind_eq_ok_iff _ _ _ _ _).mp returned
    obtain ⟨same, rfl⟩ := (made_eq_ok_iff _ _ _ _).mp making
    obtain ⟨-, rfl⟩ := (write_eq_ok_iff _ _ _ _ _).mp writing
    rw [State.sent_withFields]
    exact .single (.sent state packet (named _ _ same))
  · intro error next thrown
    rcases (bind_eq_error_iff _ _ _ _ _).mp thrown with early | ⟨packet, middle, making, writing⟩
    · cases outcome : make (state.packetId + 1) with
      | ok packet =>
        rw [outcome] at early
        contradiction
      | error refused =>
        rw [outcome] at early
        cases early
        exact .single (.unsent state state.transport (.inl rfl) trivial)
    · obtain ⟨-, rfl⟩ := (made_eq_ok_iff _ _ _ _).mp making
      obtain ⟨same, refused⟩ := write_eq_error_state writing
      rw [same]
      exact .single (.unsent state next.transport refused trivial)

/-- Restarting the keepalive timer makes no timer old. -/
theorem follows_refreshed (fields : Fields κ) :
    fields.refreshed.timeoutQueue.Follows fields.timeoutQueue := by
  unfold Fields.refreshed
  split
  · have erased : (fields.withoutTimer fields.keepaliveMngtId).timeoutQueue.Follows
        fields.timeoutQueue := by
      cases fields.keepaliveMngtId with
      | none => exact .refl _
      | some id => exact .erase _ id
    exact TimeoutQueue.Follows.trans (.arm _ _ _ _) erased
  · exact .refl _

/-- Preparing a command makes no timer old. -/
theorem follows_prepared (fields : Fields κ) (timeout : Nat) :
    (fields.prepared timeout).timeoutQueue.Follows fields.timeoutQueue :=
  (follows_refreshed (fields.withCmdTimer timeout)).trans (.arm _ _ _ _)

/-- Erasing a timer makes none old. -/
theorem follows_withoutTimer (fields : Fields κ) (id : Option Nat) :
    (fields.withoutTimer id).timeoutQueue.Follows fields.timeoutQueue := by
  cases id with
  | none => exact .refl _
  | some id => exact .erase _ id

/-- Arming a timer. -/
theorem addTimer_changing (delay : Nat) (callback : TimerCallback) :
    Changing env (addTimer delay callback : Action τ κ Nat) :=
  .fields _
    (fun fields =>
      { fields with timeoutQueue := fields.timeoutQueue.add fields.now delay callback })
    (addTimer_apply delay callback) (fun _ => .arm _ _ _ _) (fun _ => rfl) (fun _ => rfl)
    fun _ => rfl

/-- Arming the keepalive timer. -/
theorem armKeepaliveMngt_changing (interval : Nat) :
    Changing env (armKeepaliveMngt interval : Action τ κ Unit) :=
  .fields _ ((Fields.withMngtTimer · interval)) (armKeepaliveMngt_apply interval)
    (fun _ => .arm _ _ _ _) (fun _ => rfl) (fun _ => rfl) fun _ => rfl

/-- Restarting the keepalive timer. -/
theorem resetKeepaliveMngt_changing : Changing env (resetKeepaliveMngt : Action τ κ Unit) := by
  refine .fields _ _ resetKeepaliveMngt_apply follows_refreshed ?_ ?_ ?_
  · intro fields
    rw [Fields.refreshed_eq]
  · intro fields
    rw [Fields.refreshed_eq]
  · intro fields
    rw [Fields.refreshed_eq]

/-- `send_keepalive`. -/
theorem sendKeepalive_changing : Changing env (sendKeepalive env : Action τ κ Unit) := by
  refine .bind .get fun state => .choice (sendNext_changing _ ?_) (.pure _)
  intro id packet made
  exact (Packet.build_id_type _ _ _ _ _ _ made).1

/-- `send_hip`. -/
theorem sendHip_changing (identification : Identification) (timeout : Nat) :
    Changing env (sendHip env identification timeout : Action τ κ Unit) := by
  have armed : Changing env (do
      let id ← addTimer (timeout / timeBaseMs) .dipTimeoutCb
      modify fun state => { state with dipId := some id } : Action τ κ Unit) :=
    .bind (addTimer_changing _ _) fun id =>
      .fields (fun _ => ()) (fun fields => { fields with dipId := some id })
        (fun _ => rfl) (fun _ => .refl _) (fun _ => rfl) (fun _ => rfl) fun _ => rfl
  unfold sendHip
  refine .bind .get fun state => ?_
  split
  · have sent := @sendNext_changing τ κ env
      (fun id => Packet.makeHip env.raw id identification)
      fun id packet made => (Packet.build_id_type _ _ _ _ _ _ made).1
    simpa only [bind_assoc] using sent.bind fun _ => armed
  · exact armed

/-- `start_keepalive_management`. -/
theorem startKeepaliveManagement_changing (interval timeout : Nat) :
    Changing env (startKeepaliveManagement env interval timeout : Action τ κ Unit) := by
  refine .bind ?_ fun _ => .bind (armKeepaliveMngt_changing interval) fun _ =>
    .bind sendKeepalive_changing fun _ => .bind ?_ fun _ => .bind .get fun state =>
      .bind (addTimer_changing _ _) fun id => ?_
  · exact .fields (fun _ => ()) (fun fields => { fields with keepaliveMngt := true })
      (fun _ => rfl) (fun _ => .refl _) (fun _ => rfl) (fun _ => rfl) fun _ => rfl
  · exact .fields (fun _ => ())
      (fun fields => { fields with timeoutKeepalive := timeout / timeBaseMs })
      (fun _ => rfl) (fun _ => .refl _) (fun _ => rfl) (fun _ => rfl) fun _ => rfl
  · exact .fields (fun _ => ()) (fun fields => { fields with kaIds := [id] })
      (fun _ => rfl) (fun _ => .refl _) (fun _ => rfl) (fun _ => rfl) fun _ => rfl

/-- `stop_keepalive_management`. -/
theorem stopKeepaliveManagement_changing :
    Changing env (stopKeepaliveManagement : Action τ κ Unit) := by
  refine .fields (fun _ => ())
    (fun fields =>
      Fields.withoutTimer { fields with keepaliveMngt := false } fields.keepaliveMngtId)
    stopKeepaliveManagement_apply ?_ ?_ ?_ ?_
  · intro fields
    exact follows_withoutTimer _ _
  · intro fields
    rw [Fields.withoutTimer_eq]
  · intro fields
    rw [Fields.withoutTimer_eq]
  · intro fields
    rw [Fields.withoutTimer_eq]

/-- `ack_keepalive`. -/
theorem ackKeepalive_changing : Changing env (ackKeepalive : Action τ κ Unit) :=
  .fields (fun _ => ()) (Fields.withoutKaTimers) ackKeepalive_apply
    (fun _ => .foldl_erase _ _) (fun _ => rfl) (fun _ => rfl) fun _ => rfl

/-- `ack_dip`. -/
theorem ackDip_changing : Changing env (ackDip : Action τ κ Unit) := by
  refine .fields (fun _ => ())
    (fun fields => fields.withoutTimer fields.dipId) ackDip_apply ?_ ?_ ?_ ?_
  · intro fields
    exact follows_withoutTimer _ _
  · intro fields
    rw [Fields.withoutTimer_eq]
  · intro fields
    rw [Fields.withoutTimer_eq]
  · intro fields
    rw [Fields.withoutTimer_eq]

/-- A request's callback, and its removal from the table. -/
theorem conclude_lossless (request called : Request κ) (remove : RequestSet κ → RequestSet κ)
    (state : State τ κ) (pending : request ∈ state.requests.entries) (ends : Ends request called)
    (removed : (remove state.requests).entries =
      state.requests.entries.filter (·.id ≠ request.id)) :
    let conclude : Action τ κ Unit := do
      callCallback env called
      eraseTimer (some called.id)
      modify fun state => { state with requests := remove state.requests }
    (∀ value next, conclude state = .ok value next → Changes env False state next) ∧
      ∀ error next, conclude state = .error error next → Changes env False state next := by
  constructor
  · intro value next returned
    obtain ⟨-, rfl⟩ := (conclude_eq_ok_iff env called remove state next value).mp returned
    rw [ends.id]
    exact .single (.concluded state request called _ pending ends removed)
  · intro error next thrown
    rcases (bind_eq_error_iff _ _ _ _ _).mp thrown with early | ⟨passed, middle, firstly, late⟩
    · -- the callback has raised, and the request stays in the table
      unfold callCallback at early
      rw [bind_apply, emit_apply] at early
      dsimp only at early
      cases raised : env.invoke called.cb called with
      | none =>
        rw [raised] at early
        contradiction
      | some error =>
        rw [raised] at early
        cases early
        exact .single (.reported state request called pending ends)
    · rw [bind_apply, eraseTimer_apply] at late
      contradiction

/-- `ack_command`. -/
theorem ackCommand_lossless (packet : Packet) :
    Lossless env (ackCommand env packet : Action τ κ Unit) := by
  unfold ackCommand
  cases ackedId packet with
  | error error => exact .throw error
  | ok id =>
    intro state
    dsimp only
    rw [bind_apply, get_apply]
    dsimp only
    cases search : state.requests.findSecond id with
    | none => exact Performs.throw _ state
    | some found =>
      obtain ⟨pending, rfl⟩ := (TwoIndex.findSecond_eq_some_iff _ _ _).mp search
      exact conclude_lossless found { found with status := .fulfilled, ack := some packet }
        (TwoIndex.eraseSecond · found.commandId) state pending ⟨rfl, rfl, rfl, .inl rfl⟩
        (TwoIndex.eraseSecond_eq_eraseFirst _ found pending)

/-- A retry of a command. -/
theorem retryCommand_lossless (request : Request κ) (state : State τ κ)
    (pending : request ∈ state.requests.entries) (left : request.retry < maxRetry) :
    (∀ value next, retryCommand env request.id request state = .ok value next →
        Changes env False state next) ∧
      ∀ error next, retryCommand env request.id request state = .error error next →
        Changes env False state next := by
  have counted : retryCommand env request.id request state =
      ((do
        if (← get).isOpen env then
          write env ⟨request.command, some request.id⟩
        resetKeepaliveMngt : Action τ κ Unit)
          (state.withFields (state.toFields.withRetry request.id))) := rfl
  have kept : Changes env False state
      { state with
        toFields := state.toFields.withRetry request.id
        transport := state.transport } :=
    .single (.unwritten state request state.transport (.inl rfl) pending left)
  rw [counted, bind_apply, get_apply]
  dsimp only
  split
  · -- the transport is open, and the command is written again or refused
    constructor
    · intro value next returned
      obtain ⟨_, middle, writing, resetting⟩ := (bind_eq_ok_iff _ _ _ _ _).mp returned
      obtain ⟨-, rfl⟩ := (write_eq_ok_iff _ _ _ _ _).mp writing
      rw [State.sent_withFields] at resetting
      exact .head (.rewritten state request pending left)
        ((resetKeepaliveMngt_changing _).1 value next resetting)
    · intro error next thrown
      rcases (bind_eq_error_iff _ _ _ _ _).mp thrown with early | ⟨_, middle, writing, resetting⟩
      · obtain ⟨same, refused⟩ := write_eq_error_state early
        rw [same]
        exact .single (.unwritten state request next.transport refused pending left)
      · rw [resetKeepaliveMngt_apply] at resetting
        contradiction
  · constructor
    · intro value next returned
      exact kept.trans ((resetKeepaliveMngt_changing _).1 value next returned)
    · intro error next thrown
      rw [resetKeepaliveMngt_apply] at thrown
      contradiction

/-- `cmd_timeout_cb`. -/
theorem cmdTimeoutCb_lossless (id : Nat) :
    Lossless env (cmdTimeoutCb env id : Action τ κ Unit) := by
  intro state
  unfold cmdTimeoutCb
  rw [bind_apply, get_apply]
  dsimp only
  cases search : state.requests.findFirst id with
  | none => exact Performs.throw _ state
  | some request =>
    obtain ⟨pending, rfl⟩ := (TwoIndex.findFirst_eq_some_iff _ _ _).mp search
    by_cases left : request.retry < maxRetry
    · simp only [if_pos left]
      exact retryCommand_lossless request state pending left
    · simp only [if_neg left]
      exact conclude_lossless request { request with status := .timeout }
        (TwoIndex.eraseFirst · request.id) state pending ⟨rfl, rfl, rfl, .inr rfl⟩ rfl

/-- The report of a timeout. -/
theorem reportTimeout_lossless (type : TimeoutType) :
    Lossless env (reportTimeout env type : Action τ κ Unit) := by
  unfold reportTimeout
  cases env.timeoutCb with
  | none => exact .pure ()
  | some timeoutCb =>
    refine Performs.bind (fun _ _ change => change) (.single (fun _ => ()) _ (emit_apply _)
      fun state => .timedOut state type) fun _ => ?_
    cases timeoutCb type with
    | none => exact .pure ()
    | some error => exact .throw error

/-- `ka_mngt_timeout_cb`. -/
theorem kaMngtTimeoutCb_changing : Changing env (kaMngtTimeoutCb env : Action τ κ Unit) :=
  .bind sendKeepalive_changing fun _ => .bind .get fun _ =>
    .bind (addTimer_changing _ _) fun id =>
      .fields (fun _ => ())
        (fun fields => { fields with kaIds := fields.kaIds ++ [id] })
        (fun _ => rfl) (fun _ => .refl _) (fun _ => rfl) (fun _ => rfl) fun _ => rfl

/-- The callback of a timer, but for the one that sends keepalives. -/
theorem fire_lossless (timer : Timer TimerCallback) (other : timer.callback ≠ .kaMngtTimeoutCb) :
    Lossless env (fire env timer : Action τ κ Unit) := by
  unfold fire
  cases bound : timer.callback with
  | cmdTimeoutCb => exact cmdTimeoutCb_lossless timer.id
  | dipTimeoutCb => exact reportTimeout_lossless .dipTimeout
  | kaTimeoutCb => exact reportTimeout_lossless .kaTimeout
  | kaMngtTimeoutCb => exact absurd bound other

/-- The callback of a timer. -/
theorem fire_changing (timer : Timer TimerCallback) :
    Changing env (fire env timer : Action τ κ Unit) := by
  by_cases sends : timer.callback = .kaMngtTimeoutCb
  · unfold fire
    rw [sends]
    exact kaMngtTimeoutCb_changing
  · exact (fire_lossless timer sends).changing

/-- The callbacks of a batch. -/
theorem fireAll_changing (batch : List (Timer TimerCallback)) :
    Changing env (fireAll env batch : Action τ κ Unit) := by
  induction batch with
  | nil => exact .pure ()
  | cons timer batch ih => exact .bind (fire_changing timer) fun _ => ih

/-- The front of a tick. -/
theorem takeBatch_changing : Changing env (takeBatch : Action τ κ Unit) :=
  .fields (fun _ => ()) (Fields.ticked) takeBatch_apply
    (fun _ => .advance _ _) (fun _ => rfl) (fun _ => rfl) fun _ => rfl

/-- An insertion that fails changes nothing. -/
theorem insertRequest_eq_error {request : Request κ} {state next : State τ κ} {error : Exn}
    (failed : insertRequest request state = .error error next) : next = state := by
  unfold insertRequest at failed
  simp only [bind_apply, get_apply] at failed
  cases inserted : state.requests.insert request with
  | none =>
    rw [inserted] at failed
    cases failed
    rfl
  | some requests =>
    rw [inserted] at failed
    contradiction

/-- `send_command`. -/
theorem sendCommand_changing (type : UInt16) (data : Bytes) (cb : κ) (timeout : Nat) :
    Changing env (sendCommand env type data cb timeout : Action τ κ Unit) := by
  intro state
  have table : (state.toFields.prepared timeout).requests = state.requests := by
    rw [Fields.prepared_eq]
  have numbered : (state.toFields.prepared timeout).packetId = state.packetId + 1 := by
    rw [Fields.prepared_eq]
  have named : ∀ cmd, state.newCommand env type data = .ok cmd → cmd.id = state.packetId + 1 :=
    fun cmd making => (Packet.build_id_type _ _ _ _ _ _ making).1
  constructor
  · intro value next returned
    obtain ⟨cmd, requests, making, -, inserted, rfl⟩ :=
      (sendCommand_eq_ok_iff env type data cb timeout state next).mp returned
    exact .single (.accepted state cmd cb timeout requests (named cmd making) inserted)
  · intro error next thrown
    -- whatever fails, the timers are armed, and without a write the packet id is taken in vain
    have vain : ∀ transport, Refuses env state.transport transport → Changes env True state
        { state with toFields := state.toFields.prepared timeout, transport := transport } := by
      intro transport refused
      refine .head (.timers state (state.toFields.withCmdTimer timeout).refreshed ?_ ?_ ?_ ?_)
        (.single (.unsent _ transport refused trivial))
      · exact (follows_refreshed _).trans (.arm _ _ _ _)
      · rw [Fields.refreshed_eq]
        rfl
      · rw [Fields.refreshed_eq]
        rfl
      · rw [Fields.refreshed_eq]
        rfl
    rw [sendCommand_apply] at thrown
    rcases (bind_eq_error_iff _ _ _ _ _).mp thrown with early | ⟨cmd, middle, making, late⟩
    · cases outcome : state.newCommand env type data with
      | ok cmd =>
        rw [outcome] at early
        contradiction
      | error refused =>
        rw [outcome] at early
        cases early
        exact vain state.transport (.inl rfl)
    · obtain ⟨same, rfl⟩ := (made_eq_ok_iff _ _ _ _).mp making
      rcases (bind_eq_error_iff _ _ _ _ _).mp late with refused | ⟨_, last, writing, inserting⟩
      · obtain ⟨same, refusal⟩ := write_eq_error_state refused
        rw [same]
        exact vain next.transport refusal
      · obtain ⟨-, rfl⟩ := (write_eq_ok_iff _ _ _ _ _).mp writing
        rw [State.sent_withFields] at inserting
        rw [insertRequest_eq_error inserting]
        exact .single (.overrun state cmd timeout (named cmd same))

/-- Every operation but `start` is a sequence of changes. -/
theorem perform_changing (event : Event τ κ) (other : event ≠ .start)
    (own : ∀ transport, event ≠ .transport transport) : Changing env (perform env event) := by
  cases event with
  | start => contradiction
  | stop => exact .single (fun _ => ()) _ (fun _ => rfl) fun state => .stopped state
  | sendCommand type data cb timeout => exact sendCommand_changing type data cb timeout
  | sendHip identification timeout => exact sendHip_changing identification timeout
  | startKeepaliveManagement interval timeout =>
    exact startKeepaliveManagement_changing interval timeout
  | stopKeepaliveManagement => exact stopKeepaliveManagement_changing
  | ackCommand packet => exact (ackCommand_lossless packet).changing
  | ackKeepalive => exact ackKeepalive_changing
  | ackDip => exact ackDip_changing
  | runOnce batch => exact .bind takeBatch_changing fun _ => fireAll_changing batch
  | transport transport => exact absurd rfl (own transport)

end Operations

section Timers

variable {env : Environment τ κ} {loses : Prop}

/-- A change makes no timer old. -/
theorem Change.follows {state next : State τ κ} (change : Change env loses state next) :
    next.timeoutQueue.Follows state.timeoutQueue := by
  cases change with
  | timers fields follows requests packetId running => exact follows
  | sent packet named => exact .refl _
  | unsent transport refused lost => exact .refl _
  | overrun cmd timeout named => exact follows_prepared _ _
  | accepted cmd cb timeout requests named inserted => exact follows_prepared _ _
  | rewritten request pending left => exact .refl _
  | unwritten request transport refused pending left => exact .refl _
  | reported request called pending ends => exact .refl _
  | concluded request called requests pending ends removed => exact follows_withoutTimer _ _
  | timedOut type => exact .refl _
  | stopped => exact .refl _

/-- A change makes no manager run. -/
theorem Change.idle {state next : State τ κ} (change : Change env loses state next)
    (idle : state.running = false) : next.running = false := by
  cases change with
  | timers fields follows requests packetId running => exact running.trans idle
  | sent packet named => exact idle
  | unsent transport refused lost => exact idle
  | overrun cmd timeout named =>
    change (state.toFields.prepared timeout).running = false
    rw [Fields.prepared_eq]
    exact idle
  | accepted cmd cb timeout requests named inserted =>
    change (state.toFields.prepared timeout).running = false
    rw [Fields.prepared_eq]
    exact idle
  | rewritten request pending left => exact idle
  | unwritten request transport refused pending left => exact idle
  | reported request called pending ends => exact idle
  | concluded request called requests pending ends removed => exact idle
  | timedOut type => exact idle
  | stopped => rfl

/-- Changes make no manager run. -/
theorem Changes.idle {state next : State τ κ} (changes : Changes env loses state next)
    (idle : state.running = false) : next.running = false := by
  induction changes with
  | refl => exact idle
  | tail _ change ih => exact change.idle ih

/-- Timers armed in a running manager have identifiers from some first one on. -/
structure From (first : Nat) (state : State τ κ) : Prop where
  /-- The first one is at most the next one. -/
  issued : first ≤ state.timeoutQueue.nextId
  /-- Armed timers are not older. -/
  timers : state.running = true → ∀ timer ∈ state.timeoutQueue.timers, first ≤ timer.id

/-- Changes arm no old timer. -/
theorem From.change {first : Nat} {state next : State τ κ} (change : Change env loses state next)
    (recent : From first state) : From first next := by
  refine ⟨Nat.le_trans recent.issued change.follows.nextId, fun going => ?_⟩
  refine change.follows.all_from recent.issued (recent.timers ?_)
  by_contra idle
  exact absurd (going.symm.trans (change.idle (Bool.eq_false_of_not_eq_true idle))) (by decide)

/-- Changes arm no old timer. -/
theorem From.changes {first : Nat} {state next : State τ κ} (changes : Changes env loses state next)
    (recent : From first state) : From first next := by
  induction changes with
  | refl => exact recent
  | tail _ change ih => exact ih.change change

/-- A tick is a sequence of changes. -/
theorem runOnce_changing (batch : List (Timer TimerCallback)) :
    Changing env (runOnce env batch : Action τ κ Unit) :=
  .bind takeBatch_changing fun _ => fireAll_changing batch

end Timers

section Reports

variable {env : Environment τ κ} {before : List (Output κ)} {allowed : TimeoutType → Prop}

/-- The callback of the timer that reports a timeout. -/
def TimeoutType.callback : TimeoutType → TimerCallback
  | .dipTimeout => .dipTimeoutCb
  | .kaTimeout => .kaTimeoutCb

/-- Since some point no timeout was reported but for those allowed. -/
def Reports (before : List (Output κ)) (allowed : TimeoutType → Prop) (state : State τ κ) : Prop :=
  ∃ more, state.outputs = before ++ more ∧ ∀ type, .timedOut type ∈ more → allowed type

/-- What leaves the outputs alone reports nothing. -/
theorem Reports.of_same {state next : State τ κ} (reports : Reports before allowed state)
    (same : next.outputs = state.outputs) : Reports before allowed next := by
  obtain ⟨more, grown, fine⟩ := reports
  exact ⟨more, same.trans grown, fine⟩

/-- Giving out what is no timeout, or one allowed. -/
theorem keeps_reports_emit {output : Output κ}
    (fine : ∀ type, output = .timedOut type → allowed type) :
    Keeps (Reports before allowed) (emit output : Action τ κ Unit) := by
  rintro state ⟨more, grown, allowing⟩
  refine ⟨more ++ [output], ?_, fun type inside => ?_⟩
  · change state.outputs ++ [output] = _
    rw [grown, List.append_assoc]
  · rcases List.mem_append.mp inside with old | new
    · exact allowing type old
    · exact fine type (List.mem_singleton.mp new).symm

/-- Changing the fields reports nothing. -/
theorem keeps_reports_modify {change : State τ κ → State τ κ}
    (same : ∀ state, (change state).outputs = state.outputs) :
    Keeps (Reports before allowed) (modify change : Action τ κ Unit) :=
  .modify fun state reports => reports.of_same (same state)

/-- Writing reports nothing. -/
theorem keeps_reports_write (message : Message) :
    Keeps (Reports before allowed) (write env message : Action τ κ Unit) := by
  refine .choice (.bind .get fun state => .bind (keeps_reports_modify fun _ => rfl) fun _ => ?_)
    (.pure ())
  cases (env.write state.transport message).1 with
  | none => exact keeps_reports_emit fun type other => by contradiction
  | some error => exact .throw _

/-- A request's callback reports nothing. -/
theorem keeps_reports_callCallback (request : Request κ) :
    Keeps (Reports before allowed) (callCallback env request : Action τ κ Unit) := by
  refine .bind (keeps_reports_emit fun type other => by contradiction) fun _ => ?_
  cases env.invoke request.cb request with
  | none => exact .pure ()
  | some error => exact .throw error

/-- Erasing a timer reports nothing. -/
theorem keeps_reports_eraseTimer (id : Option Nat) :
    Keeps (Reports before allowed) (eraseTimer id : Action τ κ Unit) := by
  intro state reports
  rw [eraseTimer_apply]
  exact reports.of_same rfl

/-- `send_keepalive` reports nothing. -/
theorem keeps_reports_sendKeepalive :
    Keeps (Reports before allowed) (sendKeepalive env : Action τ κ Unit) := by
  refine .bind .get fun state => .choice (.bind ?_ fun id => .bind ?_ fun packet => ?_) (.pure ())
  · intro state reports
    exact reports.of_same rfl
  · exact keeps_made _
  · exact keeps_reports_write _

/-- `cmd_timeout_cb` reports nothing. -/
theorem keeps_reports_cmdTimeoutCb (id : Nat) :
    Keeps (Reports before allowed) (cmdTimeoutCb env id : Action τ κ Unit) := by
  refine .bind .get fun state => ?_
  cases state.requests.findFirst id with
  | none => exact .throw _
  | some request =>
    refine .choice ?_ ?_
    · refine .bind (keeps_reports_modify fun _ => rfl) fun _ => .bind .get fun state => ?_
      have reset : Keeps (Reports before allowed) (resetKeepaliveMngt : Action τ κ Unit) := by
        intro state reports
        rw [resetKeepaliveMngt_apply]
        exact reports.of_same rfl
      exact .choice (.bind (keeps_reports_write _) fun _ => reset) reset
    · refine .bind (keeps_reports_callCallback _) fun _ =>
        .bind (keeps_reports_eraseTimer _) fun _ => ?_
      exact keeps_reports_modify fun _ => rfl

/-- The report of a timeout that is allowed. -/
theorem keeps_reports_reportTimeout {type : TimeoutType} (fine : allowed type) :
    Keeps (Reports before allowed) (reportTimeout env type : Action τ κ Unit) := by
  unfold reportTimeout
  cases env.timeoutCb with
  | none => exact .pure ()
  | some timeoutCb =>
    refine .bind (keeps_reports_emit fun other same => ?_) fun _ => ?_
    · obtain rfl := Output.timedOut.inj same
      exact fine
    · cases timeoutCb type with
      | none => exact .pure ()
      | some error => exact .throw error

/-- The callback of a timer reports the timeout of that timer. -/
theorem keeps_reports_fire (timer : Timer TimerCallback)
    (fine : ∀ type, timer.callback = TimeoutType.callback type → allowed type) :
    Keeps (Reports before allowed) (fire env timer : Action τ κ Unit) := by
  unfold fire
  cases bound : timer.callback with
  | cmdTimeoutCb => exact keeps_reports_cmdTimeoutCb timer.id
  | dipTimeoutCb => exact keeps_reports_reportTimeout (fine .dipTimeout bound)
  | kaTimeoutCb => exact keeps_reports_reportTimeout (fine .kaTimeout bound)
  | kaMngtTimeoutCb =>
    refine .bind keeps_reports_sendKeepalive fun _ => .bind .get fun _ => .bind ?_ fun id => ?_
    · intro state reports
      exact reports.of_same rfl
    · exact keeps_reports_modify fun _ => rfl

/-- The callbacks of a batch report timeouts of its timers only. -/
theorem keeps_reports_fireAll (batch : List (Timer TimerCallback))
    (fine : ∀ timer ∈ batch, ∀ type, timer.callback = TimeoutType.callback type → allowed type) :
    Keeps (Reports before allowed) (fireAll env batch : Action τ κ Unit) := by
  induction batch with
  | nil => exact .pure ()
  | cons timer batch ih =>
    refine .bind (keeps_reports_fire timer (fine timer List.mem_cons_self)) fun _ => ih ?_
    exact fun other inside => fine other (List.mem_cons_of_mem _ inside)

/-- A tick reports timeouts of timers of its batch only. -/
theorem runOnce_reports (batch : List (Timer TimerCallback)) (state : State τ κ) :
    Reports state.outputs (fun type => ∃ timer ∈ batch, timer.callback = type.callback)
      (after (runOnce env batch state)) := by
  have begun : Reports state.outputs (fun type => ∃ timer ∈ batch, timer.callback = type.callback)
      state := ⟨[], (List.append_nil _).symm, fun type inside => by contradiction⟩
  have taken := keeps_reports_modify (fun _ => rfl) state begun
  exact keeps_reports_fireAll batch (fun timer inside type same => ⟨timer, inside, same⟩) _ taken

/-- A tick whose timers all watch over a connection attempt reports their timeouts. -/
theorem runOnce_dipTimers (quiet : env.timeoutCb = some fun _ => none)
    (batch : List (Timer TimerCallback))
    (dips : ∀ timer ∈ batch, timer.callback = .dipTimeoutCb) (state : State τ κ) :
    runOnce env batch state = .ok ()
      { toFields := state.toFields.ticked
        transport := state.transport
        outputs := state.outputs ++ List.replicate batch.length (.timedOut .dipTimeout) } := by
  have fired : ∀ (batch : List (Timer TimerCallback)) (state : State τ κ),
      (∀ timer ∈ batch, timer.callback = .dipTimeoutCb) →
      fireAll env batch state = .ok ()
        { state with
          outputs := state.outputs ++ List.replicate batch.length (.timedOut .dipTimeout) } := by
    intro batch
    induction batch with
    | nil =>
      intro state _
      rw [fireAll, List.length_nil, List.replicate_zero, List.append_nil]
      rfl
    | cons timer batch ih =>
      intro state dips
      have told : fire env timer state = .ok ()
          { state with outputs := state.outputs ++ [.timedOut .dipTimeout] } := by
        unfold fire
        rw [dips timer List.mem_cons_self]
        unfold dipTimeoutCb reportTimeout
        rw [quiet]
        rfl
      rw [fireAll, bind_apply, told]
      dsimp only
      rw [ih _ fun other inside => dips other (List.mem_cons_of_mem _ inside), List.append_assoc,
        List.length_cons, List.replicate_succ]
      rfl
  exact fired batch _ dips

end Reports

end Hdcp.Master
