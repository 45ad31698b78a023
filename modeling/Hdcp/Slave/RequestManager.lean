import Hdcp.Base.Stateful
import Hdcp.Base.TimeoutQueue
import Hdcp.Transport.Queues

/-!
# The request manager of the slave

It writes acks, data and the identification of the device, and watches over the keepalives of the
master with one timer. The operations are the source's, statement by statement, as actions that may
throw: what an operation did before it threw stays done.
-/

namespace Hdcp.Slave

open Base

/-- `time_base_ms` — the milliseconds of a tick. -/
def timeBaseMs : Nat := 100

/-- `keepalive_timeout`, in milliseconds. -/
def keepaliveTimeout : Nat := 3000

/-- The member function a timer is bound to. -/
inductive TimerCallback where
  | kaTimeoutCb
  deriving DecidableEq

/-- What the manager's surroundings see of it. -/
inductive Output where
  /-- A packet the transport accepted. -/
  | written (message : Message)
  /-- A timeout reported. -/
  | timedOut
  deriving DecidableEq

/-- The code around the manager: a transport of states `τ`. -/
structure Environment (τ : Type) where
  /-- `transport_` is not null. -/
  attached : Bool
  /-- `Transport::is_open`. -/
  isOpen : τ → Bool
  /-- `Transport::write` — the exception it raises, if any, and the transport after it. -/
  write : τ → Message → Option TransportExn × τ
  /-- `timeout_cb_`, which may be empty, and the exception it raises, if any. -/
  timeoutCb : Option (Option Exn)
  /-- What a fresh packet's memory holds. -/
  raw : Packet

/-- A manager: its fields, its transport, and what it gave to its surroundings. -/
structure State (τ : Type) where
  /-- `timeout_queue_`. -/
  timeoutQueue : TimeoutQueue TimerCallback
  /-- `keepalive_id_`; before its first assignment it names no timer. -/
  keepaliveId : Option Nat
  /-- `now_`. -/
  now : Nat
  /-- `packet_id_`. -/
  packetId : UInt16
  /-- `keepalive_mngt_`. -/
  keepaliveMngt : Bool
  /-- `timeout_keepalive_`. -/
  timeoutKeepalive : Nat
  /-- `is_running()`. -/
  running : Bool
  /-- `*transport_`; nothing reads it when the pointer is null. -/
  transport : τ
  /-- Everything given out, oldest first. -/
  outputs : List Output

/-- A manager as constructed. -/
def State.initial {τ : Type} (transport : τ) : State τ where
  timeoutQueue := .empty
  keepaliveId := none
  now := 0
  packetId := 0
  keepaliveMngt := false
  timeoutKeepalive := 0
  running := false
  transport := transport
  outputs := []

/-- An operation of the manager. -/
abbrev Action (τ α : Type) : Type := EStateM Exn (State τ) α

section Operations

variable {τ : Type}

/-- `transport_ && transport_->is_open()`. -/
def State.isOpen (env : Environment τ) (state : State τ) : Bool :=
  env.attached && env.isOpen state.transport

/-- Give something out. -/
def emit (output : Output) : Action τ Unit :=
  modify fun state => { state with outputs := state.outputs ++ [output] }

/-- `timeout_queue_.add(now_, timeout_keepalive_, ka_timeout_cb)`, kept in `keepalive_id_`. -/
def armKeepalive : Action τ Unit :=
  modify fun state =>
    { state with
      timeoutQueue := state.timeoutQueue.add state.now state.timeoutKeepalive .kaTimeoutCb
      keepaliveId := some state.timeoutQueue.nextId }

/-- `timeout_queue_.erase(keepalive_id_)`. -/
def eraseKeepalive : Action τ Unit :=
  modify fun state =>
    match state.keepaliveId with
    | none => state
    | some id => { state with timeoutQueue := state.timeoutQueue.erase id }

/-- `++packet_id_`. -/
def nextPacketId : Action τ UInt16 := do
  modify fun state => { state with packetId := state.packetId + 1 }
  return (← get).packetId

/-- The packet a maker returns, or the `packet_error` it throws. -/
def made (packet : Except PacketError Packet) : Action τ Packet :=
  match packet with
  | .ok packet => pure packet
  | .error error => throw (.packet error)

/-- `transport_->write(...)`. -/
def write (env : Environment τ) (packet : Packet) : Action τ Unit := do
  let (refusal, transport) := env.write (← get).transport ⟨packet, none⟩
  modify fun state => { state with transport := transport }
  match refusal with
  | some error => throw (.transport error)
  | none => emit (.written ⟨packet, none⟩)

/-- `RequestManager::clear`. -/
def clear : Action τ Unit :=
  modify fun state =>
    { state with timeoutQueue := state.timeoutQueue.clear, now := 0, packetId := 0 }

/-- `RequestManager::start`. -/
def start : Action τ Unit := do
  if (← get).running then
    pure ()
  else
    clear
    modify fun state => { state with keepaliveMngt := false }
    modify fun state => { state with running := true }

/-- `RequestManager::stop`. -/
def stop : Action τ Unit :=
  modify fun state => { state with running := false }

/-- `packet.blocks().at(0)`. -/
def firstBlock (packet : Packet) : Action τ BlockView :=
  match packet.blocks with
  | [] => throw .outOfRange
  | block :: _ => pure block

/-- `transport_->write(make(++packet_id_))`. -/
def sendMade (env : Environment τ) (make : UInt16 → Action τ Packet) : Action τ Unit := do
  let packetId ← nextPacketId
  let packet ← make packetId
  write env packet

/-- `if (transport_ && transport_->is_open()) transport_->write(make(++packet_id_))`. -/
def sendIfOpen (env : Environment τ) (make : UInt16 → Action τ Packet) : Action τ Unit := do
  let state ← get
  runIf (state.isOpen env = true) (sendMade env make)

/-- `RequestManager::send_cmd_ack`. C++ leaves open which argument of `make_cmd_ack` comes first,
the id counted or the block; here it is the id, so that a packet without a block costs one. -/
def sendCmdAck (env : Environment τ) (packet : Packet) : Action τ Unit :=
  sendIfOpen env fun packetId => do
    let block ← firstBlock packet
    made (Packet.makeCmdAck env.raw packetId block.type packet.id)

/-- The loop of `RequestManager::send_data`, at the blocks still to pack, with the payload packed so
far and its size. -/
def sendDataFrom (env : Environment τ) :
    List BlockView → List BlockView → Nat → Action τ Unit
  | [], payload, _ =>
    runIf (payload.length ≠ 0) (sendMade env fun packetId =>
      made (Packet.makeData env.raw packetId payload))
  | block :: blocks, payload, payloadSize => do
    runIf (block.size > maxPlSize) (throw (.application .dataTooBig none))
    if payloadSize + block.size > maxPlSize then
      sendMade env fun packetId => made (Packet.makeData env.raw packetId payload)
      sendDataFrom env blocks [block] block.size
    else
      sendDataFrom env blocks (payload ++ [block]) (payloadSize + block.size)

/-- `RequestManager::send_data(std::vector<Packet::BlockView>&)`. -/
def sendData (env : Environment τ) (blocks : List BlockView) : Action τ Unit :=
  sendDataFrom env blocks [] 0

/-- `RequestManager::send_data(std::vector<Packet::Block>&)`. -/
def sendDataOfBlocks (env : Environment τ) (blocks : List Block) : Action τ Unit :=
  sendData env (blocks.map .ofBlock)

/-- `RequestManager::send_dip`. -/
def sendDip (env : Environment τ) (identification : Identification) : Action τ Unit :=
  sendIfOpen env fun packetId => made (Packet.makeDip env.raw packetId identification)

/-- `RequestManager::start_keepalive_management`. -/
def startKeepaliveManagement (keepaliveTimeout : Nat) : Action τ Unit := do
  modify fun state => { state with keepaliveMngt := true }
  modify fun state => { state with timeoutKeepalive := keepaliveTimeout / timeBaseMs }
  armKeepalive

/-- `RequestManager::stop_keepalive_management`. -/
def stopKeepaliveManagement : Action τ Unit := do
  modify fun state => { state with keepaliveMngt := false }
  eraseKeepalive

/-- Restart the keepalive timer. -/
def resetKeepalive : Action τ Unit := do
  eraseKeepalive
  armKeepalive

/-- `RequestManager::keepalive`. -/
def keepalive (env : Environment τ) : Action τ Unit := do
  let state ← get
  runIf (state.keepaliveMngt = true) resetKeepalive
  sendIfOpen env fun packetId => made (Packet.makeKeepaliveAck env.raw packetId)

/-- `RequestManager::ka_timeout_cb`. -/
def kaTimeoutCb (env : Environment τ) : Action τ Unit := do
  match env.timeoutCb with
  | none => pure ()
  | some raised =>
    emit .timedOut
    match raised with
    | some error => throw error
    | none => pure ()

/-- Run the callback a timer is bound to. -/
def fire (env : Environment τ) (timer : Timer TimerCallback) : Action τ Unit :=
  match timer.callback with
  | .kaTimeoutCb => kaTimeoutCb env

/-- Run the callbacks of a batch, one after another. -/
def fireAll (env : Environment τ) : List (Timer TimerCallback) → Action τ Unit
  | [] => pure ()
  | timer :: batch => do
    fire env timer
    fireAll env batch

/-- `timeout_queue_.run_once(now_++)`, with the expired timers in the order their callbacks run. -/
def runOnce (env : Environment τ) (batch : List (Timer TimerCallback)) : Action τ Unit := do
  modify fun state =>
    { state with now := state.now + 1, timeoutQueue := state.timeoutQueue.advance state.now }
  fireAll env batch

end Operations

end Hdcp.Slave
