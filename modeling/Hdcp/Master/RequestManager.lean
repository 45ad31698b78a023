import Hdcp.Base.Runs
import Hdcp.Base.Stateful
import Hdcp.Base.TimeoutQueue
import Hdcp.Base.TwoIndex
import Hdcp.Transport.Queues

/-!
# The request manager of the master

Commands wait in a table until they are acknowledged or given up; their retries, the keepalives and
the two connection timeouts are timers of one queue. The operations are the source's, statement by
statement, as actions on the manager's fields that may throw: what an operation did before it threw
stays done. Here an operation is one step; the threads that run them are a module of their own.
-/

namespace Hdcp.Master

open Base

/-- `time_base_ms` — the milliseconds of a tick. -/
def timeBaseMs : Nat := 100

/-- `connecting_timeout_`, in milliseconds. -/
def connectingTimeout : Nat := 1000

/-- `command_timeout_`, in milliseconds. -/
def commandTimeout : Nat := 1000

/-- `keepalive_timeout`, in milliseconds. -/
def keepaliveTimeout : Nat := 3000

/-- `keepalive_interval`, in milliseconds. -/
def keepaliveInterval : Nat := 1000

/-- `RequestManager::max_retry_`. -/
def maxRetry : Nat := 3

/-- `Request::Status`. -/
inductive Status where
  | pending
  | timeout
  | fulfilled
  deriving DecidableEq

/-- `Request` — a command that awaits its ack, with the callback `cb_` of the call. -/
structure Request (κ : Type) where
  /-- `id_`, the identifier of its retry timer. -/
  id : Nat
  /-- `command_`. -/
  command : Packet
  /-- `cb_`. -/
  cb : κ
  /-- `ack_`. -/
  ack : Option Packet := none
  /-- `status_`. -/
  status : Status := .pending
  /-- `retry_`. -/
  retry : Nat := 0

/-- `Request::get_command_id`. -/
def Request.commandId {κ : Type} (request : Request κ) : UInt16 := request.command.id

/-- `inc_retry`. -/
def incRetry {κ : Type} (request : Request κ) : Request κ :=
  { request with retry := request.retry + 1 }

/-- A retry leaves the keys of its request alone. -/
theorem incRetry_keys {κ : Type} (request : Request κ) :
    (incRetry request).id = request.id ∧ (incRetry request).commandId = request.commandId :=
  ⟨rfl, rfl⟩

/-- `RequestManager::TimeoutType`. -/
inductive TimeoutType where
  | dipTimeout
  | kaTimeout
  deriving DecidableEq

/-- The member function a timer is bound to. -/
inductive TimerCallback where
  | cmdTimeoutCb
  | dipTimeoutCb
  | kaTimeoutCb
  | kaMngtTimeoutCb
  deriving DecidableEq

/-- What the manager's surroundings see of it. -/
inductive Output (κ : Type) where
  /-- A packet the transport accepted. -/
  | written (message : Message)
  /-- A request handed to its callback. -/
  | called (request : Request κ)
  /-- A timeout reported. -/
  | timedOut (type : TimeoutType)

/-- The code around the manager: a transport of states `τ`, user callbacks `κ`. -/
structure Environment (τ κ : Type) where
  /-- `transport_` is not null. -/
  attached : Bool
  /-- `Transport::is_open`. -/
  isOpen : τ → Bool
  /-- `Transport::write` — the exception it raises, if any, and the transport after it. -/
  write : τ → Message → Option TransportExn × τ
  /-- The exception a callback raises, if any. -/
  invoke : κ → Request κ → Option Exn
  /-- `timeout_cb_`, which may be empty, and the exception it raises, if any. -/
  timeoutCb : Option (TimeoutType → Option Exn)
  /-- What a fresh packet's memory holds. -/
  raw : Packet

/-- `Set` — requests by timer and by command. -/
abbrev RequestSet (κ : Type) : Type := TwoIndex (@Request.id κ) (@Request.commandId κ)

/-- The fields of `RequestManager`, the transport apart. -/
structure Fields (κ : Type) where
  /-- `requests_`. -/
  requests : RequestSet κ
  /-- `timeout_queue_`. -/
  timeoutQueue : TimeoutQueue TimerCallback
  /-- `keepalive_mngt_id_`; before its first assignment it names no timer. -/
  keepaliveMngtId : Option Nat
  /-- `dip_id_`; before its first assignment it names no timer. -/
  dipId : Option Nat
  /-- `ka_ids_`. -/
  kaIds : List Nat
  /-- `keepalive_mngt_`. -/
  keepaliveMngt : Bool
  /-- `now_`. -/
  now : Nat
  /-- `packet_id_`. -/
  packetId : UInt16
  /-- `timeout_keepalive_`. -/
  timeoutKeepalive : Nat
  /-- `is_running()`. -/
  running : Bool

/-- A manager: its fields, its transport, and what it gave to its surroundings. -/
structure State (τ κ : Type) extends Fields κ where
  /-- `*transport_`; nothing reads it when the pointer is null. -/
  transport : τ
  /-- Everything given out, oldest first. -/
  outputs : List (Output κ)

/-- A manager as constructed. -/
def State.initial {τ κ : Type} (transport : τ) : State τ κ where
  requests := .empty
  timeoutQueue := .empty
  keepaliveMngtId := none
  dipId := none
  kaIds := []
  keepaliveMngt := false
  now := 0
  packetId := 0
  timeoutKeepalive := 0
  running := false
  transport := transport
  outputs := []

/-- An operation of the manager. -/
abbrev Action (τ κ α : Type) : Type := EStateM Exn (State τ κ) α

section Operations

variable {τ κ : Type}

/-- `transport_ && transport_->is_open()`. -/
def State.isOpen (env : Environment τ κ) (state : State τ κ) : Bool :=
  env.attached && env.isOpen state.transport

/-- Give something out. -/
def emit (output : Output κ) : Action τ κ Unit :=
  modify fun state => { state with outputs := state.outputs ++ [output] }

/-- `timeout_queue_.add(now_, delay, callback)`. -/
def addTimer (delay : Nat) (callback : TimerCallback) : Action τ κ Nat := do
  let state ← get
  modify fun state =>
    { state with timeoutQueue := state.timeoutQueue.add state.now delay callback }
  return state.timeoutQueue.nextId

/-- `timeout_queue_.add_repeating(now_, interval, callback)`. -/
def addRepeatingTimer (interval : Nat) (callback : TimerCallback) : Action τ κ Nat := do
  let state ← get
  modify fun state =>
    { state with timeoutQueue := state.timeoutQueue.addRepeating state.now interval callback }
  return state.timeoutQueue.nextId

/-- `timeout_queue_.erase(id)`, of an identifier that may be unset. -/
def eraseTimer (id : Option Nat) : Action τ κ Unit :=
  match id with
  | none => pure ()
  | some id => modify fun state => { state with timeoutQueue := state.timeoutQueue.erase id }

/-- `++packet_id_`. -/
def nextPacketId : Action τ κ UInt16 := do
  modify fun state => { state with packetId := state.packetId + 1 }
  return (← get).packetId

/-- The packet a maker returns, or the `packet_error` it throws. -/
def made (packet : Except PacketError Packet) : Action τ κ Packet :=
  match packet with
  | .ok packet => pure packet
  | .error error => throw (.packet error)

/-- `if (transport_) transport_->write(...)`. -/
def write (env : Environment τ κ) (message : Message) : Action τ κ Unit := do
  if env.attached then
    let (refusal, transport) := env.write (← get).transport message
    modify fun state => { state with transport := transport }
    match refusal with
    | some error => throw (.transport error)
    | none => emit (.written message)

/-- `Request::call_callback`. -/
def callCallback (env : Environment τ κ) (request : Request κ) : Action τ κ Unit := do
  emit (.called request)
  match env.invoke request.cb request with
  | some error => throw error
  | none => pure ()

/-- Arm the timer that sends keepalives. -/
def armKeepaliveMngt (keepaliveInterval : Nat) : Action τ κ Unit := do
  let id ← addRepeatingTimer (keepaliveInterval / timeBaseMs) .kaMngtTimeoutCb
  modify fun state => { state with keepaliveMngtId := some id }

/-- The reset of the keepalive timer that goes with every command written. -/
def resetKeepaliveMngt : Action τ κ Unit := do
  if (← get).keepaliveMngt then
    eraseTimer (← get).keepaliveMngtId
    armKeepaliveMngt keepaliveInterval

/-- `requests_.insert` and the exception of a failed insertion. -/
def insertRequest (request : Request κ) : Action τ κ Unit := do
  match (← get).requests.insert request with
  | some requests => modify fun state => { state with requests := requests }
  | none =>
    throw (.application .requestOverrun
      (some ("id " ++ toString request.commandId.toNat ++ " is pending")))

/-- `RequestManager::clear`. -/
def clear : Action τ κ Unit :=
  modify fun state =>
    { state with
      requests := .empty
      timeoutQueue := state.timeoutQueue.clear
      now := 0
      packetId := 0 }

/-- `RequestManager::start`. -/
def start : Action τ κ Unit := do
  if (← get).running then
    pure ()
  else
    clear
    modify fun state => { state with keepaliveMngt := false }
    modify fun state => { state with running := true }

/-- `RequestManager::stop`. -/
def stop : Action τ κ Unit :=
  modify fun state => { state with running := false }

/-- `RequestManager::send_command`. -/
def sendCommand (env : Environment τ κ) (type : UInt16) (data : Bytes) (cb : κ) (timeout : Nat) :
    Action τ κ Unit := do
  let id ← addRepeatingTimer (timeout / timeBaseMs) .cmdTimeoutCb
  resetKeepaliveMngt
  let packetId ← nextPacketId
  let cmd ← made (Packet.makeCommand env.raw packetId type data)
  write env ⟨cmd, some id⟩
  insertRequest { id := id, command := cmd, cb := cb }

/-- `RequestManager::send_hip`. -/
def sendHip (env : Environment τ κ) (identification : Identification) (timeout : Nat) :
    Action τ κ Unit := do
  if (← get).isOpen env then
    let packetId ← nextPacketId
    let hip ← made (Packet.makeHip env.raw packetId identification)
    write env ⟨hip, none⟩
  let id ← addTimer (timeout / timeBaseMs) .dipTimeoutCb
  modify fun state => { state with dipId := some id }

/-- `if (transport_ && transport_->is_open()) transport_->write(make_keepalive(++packet_id_))`. -/
def sendKeepalive (env : Environment τ κ) : Action τ κ Unit := do
  if (← get).isOpen env then
    let packetId ← nextPacketId
    let keepalive ← made (Packet.makeKeepalive env.raw packetId)
    write env ⟨keepalive, none⟩

/-- `RequestManager::start_keepalive_management`. -/
def startKeepaliveManagement (env : Environment τ κ) (keepaliveInterval keepaliveTimeout : Nat) :
    Action τ κ Unit := do
  modify fun state => { state with keepaliveMngt := true }
  armKeepaliveMngt keepaliveInterval
  sendKeepalive env
  modify fun state => { state with timeoutKeepalive := keepaliveTimeout / timeBaseMs }
  let kaId ← addTimer (← get).timeoutKeepalive .kaTimeoutCb
  modify fun state => { state with kaIds := [kaId] }

/-- `RequestManager::stop_keepalive_management`. -/
def stopKeepaliveManagement : Action τ κ Unit := do
  modify fun state => { state with keepaliveMngt := false }
  eraseTimer (← get).keepaliveMngtId

/-- The packet id an ack names: the data of its first block, which must be two bytes. -/
def ackedId (packet : Packet) : Except Exn UInt16 :=
  match packet.blocks with
  | [] => .error .outOfRange
  | block :: _ =>
    if block.data.length ≠ 2 then .error (.application .invalidCmdAckFormat none)
    else .ok (wordAt block.data 0)

/-- `RequestManager::ack_command`. -/
def ackCommand (env : Environment τ κ) (packet : Packet) : Action τ κ Unit := do
  match ackedId packet with
  | .error error => throw error
  | .ok id =>
    match (← get).requests.findSecond id with
    | none =>
      throw (.application .requestNotFound (some ("id " ++ toString id.toNat ++ " not found")))
    | some found =>
      let r := { found with status := .fulfilled, ack := some packet }
      callCallback env r
      eraseTimer (some r.id)
      modify fun state => { state with requests := state.requests.eraseSecond id }

/-- `RequestManager::ack_keepalive`. -/
def ackKeepalive : Action τ κ Unit := do
  modify fun state =>
    { state with timeoutQueue := state.kaIds.foldl TimeoutQueue.erase state.timeoutQueue }
  modify fun state => { state with kaIds := [] }

/-- `RequestManager::ack_dip`. -/
def ackDip : Action τ κ Unit := do
  eraseTimer (← get).dipId

/-- Count a retry of a request and write its command again. -/
def retryCommand (env : Environment τ κ) (id : Nat) (request : Request κ) : Action τ κ Unit := do
  modify fun state =>
    { state with requests := state.requests.modifyFirst id incRetry fun _ => ⟨rfl, rfl⟩ }
  if (← get).isOpen env then
    write env ⟨request.command, some id⟩
  resetKeepaliveMngt

/-- Report a request that ran out of retries and forget it. -/
def giveUp (env : Environment τ κ) (id : Nat) (request : Request κ) : Action τ κ Unit := do
  let r := { request with status := .timeout }
  callCallback env r
  eraseTimer (some r.id)
  modify fun state => { state with requests := state.requests.eraseFirst id }

/-- `RequestManager::cmd_timeout_cb`. -/
def cmdTimeoutCb (env : Environment τ κ) (id : Nat) : Action τ κ Unit := do
  match (← get).requests.findFirst id with
  | none => throw (.application .requestNotFound none)
  | some request =>
    if request.retry < maxRetry then retryCommand env id request else giveUp env id request

/-- `ka_timeout_cb` and `dip_timeout_cb` — report a timeout. -/
def reportTimeout (env : Environment τ κ) (type : TimeoutType) : Action τ κ Unit := do
  match env.timeoutCb with
  | none => pure ()
  | some timeoutCb =>
    emit (.timedOut type)
    match timeoutCb type with
    | some error => throw error
    | none => pure ()

/-- `RequestManager::ka_timeout_cb`. -/
def kaTimeoutCb (env : Environment τ κ) : Action τ κ Unit := reportTimeout env .kaTimeout

/-- `RequestManager::dip_timeout_cb`. -/
def dipTimeoutCb (env : Environment τ κ) : Action τ κ Unit := reportTimeout env .dipTimeout

/-- `RequestManager::ka_mngt_timeout_cb`. -/
def kaMngtTimeoutCb (env : Environment τ κ) : Action τ κ Unit := do
  sendKeepalive env
  let id ← addTimer (← get).timeoutKeepalive .kaTimeoutCb
  modify fun state => { state with kaIds := state.kaIds ++ [id] }

/-- Run the callback a timer is bound to. -/
def fire (env : Environment τ κ) (timer : Timer TimerCallback) : Action τ κ Unit :=
  match timer.callback with
  | .cmdTimeoutCb => cmdTimeoutCb env timer.id
  | .dipTimeoutCb => dipTimeoutCb env
  | .kaTimeoutCb => kaTimeoutCb env
  | .kaMngtTimeoutCb => kaMngtTimeoutCb env

/-- Run the callbacks of a batch, one after another. -/
def fireAll (env : Environment τ κ) : List (Timer TimerCallback) → Action τ κ Unit
  | [] => pure ()
  | timer :: batch => do
    fire env timer
    fireAll env batch

/-- The part of `run_once(now_++)` before the callbacks: the clock moves, the batch leaves. -/
def takeBatch : Action τ κ Unit :=
  modify fun state =>
    { state with now := state.now + 1, timeoutQueue := state.timeoutQueue.advance state.now }

/-- `timeout_queue_.run_once(now_++)`, with the expired timers in the order their callbacks run. -/
def runOnce (env : Environment τ κ) (batch : List (Timer TimerCallback)) : Action τ κ Unit := do
  takeBatch
  fireAll env batch

end Operations

/-- What may happen to a manager. -/
inductive Event (τ κ : Type) where
  | start
  | stop
  | sendCommand (type : UInt16) (data : Bytes) (cb : κ) (timeout : Nat)
  | sendHip (identification : Identification) (timeout : Nat)
  | startKeepaliveManagement (keepaliveInterval keepaliveTimeout : Nat)
  | stopKeepaliveManagement
  | ackCommand (packet : Packet)
  | ackKeepalive
  | ackDip
  /-- A tick of `run()`, with the order in which the expired timers are called. -/
  | runOnce (batch : List (Timer TimerCallback))
  /-- The transport changes on its own: it opens, closes or sends what it was given. -/
  | transport (state : τ)

section Runs

variable {τ κ : Type}

/-- The operation an event performs. -/
def perform (env : Environment τ κ) : Event τ κ → Action τ κ Unit
  | .start => start
  | .stop => stop
  | .sendCommand type data cb timeout => sendCommand env type data cb timeout
  | .sendHip identification timeout => sendHip env identification timeout
  | .startKeepaliveManagement interval timeout => startKeepaliveManagement env interval timeout
  | .stopKeepaliveManagement => stopKeepaliveManagement
  | .ackCommand packet => ackCommand env packet
  | .ackKeepalive => ackKeepalive
  | .ackDip => ackDip
  | .runOnce batch => runOnce env batch
  | .transport transport => modify fun state => { state with transport := transport }

/-- When an event can happen: a tick needs the timer thread, and calls what expired. -/
def Enabled (state : State τ κ) : Event τ κ → Prop
  | .runOnce batch =>
    state.running = true ∧ batch.Perm (state.timeoutQueue.expired state.now)
  | _ => True

/-- A step of the manager, whether the operation returns or throws. -/
def Step (env : Environment τ κ) (state : State τ κ) (event : Event τ κ) (next : State τ κ) :
    Prop :=
  Enabled state event ∧ after (perform env event state) = next

/-- The operation of an event returns. -/
def Returns (env : Environment τ κ) (state : State τ κ) (event : Event τ κ) : Prop :=
  ∃ next, perform env event state = .ok () next

instance (state : State τ κ) : (event : Event τ κ) → Decidable (Enabled state event)
  | .runOnce _ => inferInstanceAs (Decidable (_ ∧ _))
  | .start | .stop | .sendCommand _ _ _ _ | .sendHip _ _ | .startKeepaliveManagement _ _
  | .stopKeepaliveManagement | .ackCommand _ | .ackKeepalive | .ackDip | .transport _ =>
    .isTrue trivial

/-- A step as a function, of operations that return. -/
def State.next (env : Environment τ κ) (state : State τ κ) (event : Event τ κ) :
    Option (State τ κ) :=
  returning (Enabled state event) (perform env event) state

/-- The function computes the operations that can happen and return. -/
theorem State.next_eq_some_iff (env : Environment τ κ) (state next : State τ κ)
    (event : Event τ κ) :
    state.next env event = some next ↔
      Enabled state event ∧ perform env event state = .ok () next :=
  returning_eq_some_iff _ _ _ _

/-- What it computes is a step. -/
theorem State.step_of_next {env : Environment τ κ} {state next : State τ κ} {event : Event τ κ}
    (computed : Steps (State.next env) state event next) :
    Guarded (Returns env) (Step env) state event next := by
  obtain ⟨enabled, returned⟩ := (State.next_eq_some_iff env state next event).mp computed
  exact ⟨⟨next, returned⟩, enabled, by rw [returned, after_ok]⟩

end Runs

end Hdcp.Master
