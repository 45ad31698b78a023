import Hdcp.Master.RequestManager

/-!
# The threads of the request manager

Three threads run the manager's operations: its own, whose loop takes batches of expired timers and
calls them, the protocol thread that processes acks, and the user's that sends commands. Here each
of them advances by the statements between which another can run: an access to the timers, the
`is_open()` test, the write, an access to the requests under their mutex. The transport changes at
any time. An exception of a timer callback ends the timer thread, whose loop has no handler.
-/

namespace Hdcp.Master

open Base

/-- Where the timer thread is. -/
inductive TimerThread (κ : Type) where
  /-- Between two calls of `run_once`. -/
  | idle
  /-- In `run_once`, with the timers whose callbacks are still to run. -/
  | calling (batch : List (Timer TimerCallback))
  /-- In `cmd_timeout_cb`, the retry counted, before the `is_open()` test. -/
  | retryTest (request : Request κ) (batch : List (Timer TimerCallback))
  /-- In `cmd_timeout_cb`, after the test, before the write. -/
  | retryWrite (request : Request κ) (batch : List (Timer TimerCallback))
  /-- In `cmd_timeout_cb`, before the keepalive timer is restarted. -/
  | retryReset (batch : List (Timer TimerCallback))
  /-- In `cmd_timeout_cb`, about to give the request up. -/
  | givingUp (request : Request κ) (batch : List (Timer TimerCallback))
  /-- In `ka_mngt_timeout_cb`, after the test, before the write. -/
  | keepaliveWrite (batch : List (Timer TimerCallback))
  /-- In `ka_mngt_timeout_cb`, before the keepalive's timer is armed. -/
  | keepaliveArm (batch : List (Timer TimerCallback))
  /-- An exception left `run()`. -/
  | escaped (error : Exn)

/-- Where the protocol thread is. -/
inductive ProtocolThread (κ : Type) where
  /-- Not in `ack_command`. -/
  | idle
  /-- In `ack_command`, the request's callback has run. -/
  | fulfilled (request : Request κ)
  /-- In `ack_command`, the request's timer is erased. -/
  | disarmed (request : Request κ)

/-- Where the user thread is. -/
inductive UserThread (κ : Type) where
  /-- Not in `send_command`. -/
  | idle
  /-- In `send_command`, the retry timer is armed. -/
  | armed (id : Nat) (type : UInt16) (data : Bytes) (cb : κ)
  /-- In `send_command`, the keepalive timer is restarted. -/
  | refreshed (id : Nat) (type : UInt16) (data : Bytes) (cb : κ)
  /-- In `send_command`, the packet is made. -/
  | made (id : Nat) (cmd : Packet) (cb : κ)
  /-- In `send_command`, the packet is written. -/
  | written (id : Nat) (cmd : Packet) (cb : κ)

/-- The timer thread holds `requests_mutex_`, which `cmd_timeout_cb` locks until it returns. -/
def TimerThread.holdsMutex {κ : Type} : TimerThread κ → Bool
  | retryTest _ _ | retryWrite _ _ | retryReset _ | givingUp _ _ => true
  | _ => false

/-- The protocol thread holds `requests_mutex_`, which `ack_command` locks until it returns. -/
def ProtocolThread.holdsMutex {κ : Type} : ProtocolThread κ → Bool
  | idle => false
  | _ => true

/-- Without the mutex the protocol thread is not in `ack_command`. -/
theorem ProtocolThread.eq_idle {κ : Type} {protocol : ProtocolThread κ}
    (free : protocol.holdsMutex = false) : protocol = .idle := by
  cases protocol with
  | idle => rfl
  | fulfilled request => contradiction
  | disarmed request => contradiction

/-- The exception that left `run()`, if one did. -/
def TimerThread.escapedWith {κ : Type} : TimerThread κ → Option Exn
  | escaped error => some error
  | _ => none

/-- The manager and its three threads. -/
structure Threads (τ κ : Type) where
  /-- The manager. -/
  manager : State τ κ
  /-- The thread of `RequestManager::run`. -/
  timer : TimerThread κ
  /-- The thread of `Master::run`. -/
  protocol : ProtocolThread κ
  /-- The thread that calls `send_command`. -/
  user : UserThread κ

/-- The threads of a manager, none of them inside an operation. -/
def Threads.atRest {τ κ : Type} (manager : State τ κ) : Threads τ κ :=
  ⟨manager, .idle, .idle, .idle⟩

section Statements

variable {τ κ : Type}

/-- The search at the front of `cmd_timeout_cb`. -/
def lookUp (id : Nat) (batch : List (Timer TimerCallback)) : Action τ κ (TimerThread κ) := do
  match (← get).requests.findFirst id with
  | none => throw (.application .requestNotFound none)
  | some request =>
    if request.retry < maxRetry then
      modify fun state =>
        { state with requests := state.requests.modifyFirst id incRetry incRetry_keys }
      return .retryTest request batch
    else
      return .givingUp request batch

/-- The next statement of the timer thread inside `run_once`. -/
def timerStatement (env : Environment τ κ) : TimerThread κ → Option (Action τ κ (TimerThread κ))
  | .idle => none
  | .calling [] => some (pure .idle)
  | .calling (timer :: batch) =>
    match timer.callback with
    | .cmdTimeoutCb => some (lookUp timer.id batch)
    | .dipTimeoutCb => some do
      dipTimeoutCb env
      return .calling batch
    | .kaTimeoutCb => some do
      kaTimeoutCb env
      return .calling batch
    | .kaMngtTimeoutCb => some do
      if (← get).isOpen env then return .keepaliveWrite batch else return .keepaliveArm batch
  | .retryTest request batch => some do
    if (← get).isOpen env then return .retryWrite request batch else return .retryReset batch
  | .retryWrite request batch => some do
    write env ⟨request.command, some request.id⟩
    return .retryReset batch
  | .retryReset batch => some do
    resetKeepaliveMngt
    return .calling batch
  | .givingUp request batch => some do
    giveUp env request.id request
    return .calling batch
  | .keepaliveWrite batch => some do
    let packetId ← nextPacketId
    let keepalive ← made (Packet.makeKeepalive env.raw packetId)
    write env ⟨keepalive, none⟩
    return .keepaliveArm batch
  | .keepaliveArm batch => some do
    let id ← addTimer (← get).timeoutKeepalive .kaTimeoutCb
    modify fun state => { state with kaIds := state.kaIds ++ [id] }
    return .calling batch
  | .escaped _ => none

/-- The search at the front of `ack_command`, and the callback of the request found. -/
def ackLookUp (env : Environment τ κ) (packet : Packet) : Action τ κ (ProtocolThread κ) := do
  match ackedId packet with
  | .error error => throw error
  | .ok id =>
    match (← get).requests.findSecond id with
    | none =>
      throw (.application .requestNotFound (some ("id " ++ toString id.toNat ++ " not found")))
    | some found =>
      callCallback env { found with status := .fulfilled, ack := some packet }
      return .fulfilled found

/-- The next statement of the protocol thread inside `ack_command`. -/
def protocolStatement : ProtocolThread κ → Option (Action τ κ (ProtocolThread κ))
  | .idle => none
  | .fulfilled request => some do
    eraseTimer (some request.id)
    return .disarmed request
  | .disarmed request => some do
    modify fun state => { state with requests := state.requests.eraseSecond request.commandId }
    return .idle

/-- The next statement of the user thread inside `send_command`. -/
def userStatement (env : Environment τ κ) : UserThread κ → Option (Action τ κ (UserThread κ))
  | .idle => none
  | .armed id type data cb => some do
    resetKeepaliveMngt
    return .refreshed id type data cb
  | .refreshed id type data cb => some do
    let packetId ← nextPacketId
    let cmd ← made (Packet.makeCommand env.raw packetId type data)
    return .made id cmd cb
  | .made id cmd cb => some do
    write env ⟨cmd, some id⟩
    return .written id cmd cb
  | .written id cmd cb => some do
    insertRequest { id := id, command := cmd, cb := cb }
    return .idle

end Statements

/-- What the threads and the transport can do next. -/
inductive Move (τ κ : Type) where
  /-- The protocol thread starts the manager, whose last timer thread it joined. -/
  | start
  /-- The timer thread takes the batch of a tick. -/
  | take (batch : List (Timer TimerCallback))
  /-- The timer thread executes its next statement. -/
  | timer
  /-- The protocol thread begins `ack_command`. -/
  | ackCommand (packet : Packet)
  /-- The protocol thread executes its next statement of `ack_command`. -/
  | ack
  /-- The protocol thread runs another operation. -/
  | protocol (event : Event τ κ)
  /-- The user thread begins `send_command`. -/
  | sendCommand (type : UInt16) (data : Bytes) (cb : κ) (timeout : Nat)
  /-- The user thread executes its next statement of `send_command`. -/
  | send
  /-- The transport changes: it opens, closes or sends what it was given. -/
  | transport (state : τ)

/-- The operations of the protocol thread that touch no request. -/
def ofProtocol {τ κ : Type} : Event τ κ → Bool
  | .stop | .sendHip _ _ | .startKeepaliveManagement _ _ | .stopKeepaliveManagement
  | .ackKeepalive | .ackDip => true
  | _ => false

namespace Threads

variable {τ κ : Type}

/-- The mutex of the requests is free. -/
def mutexFree (threads : Threads τ κ) : Bool :=
  !threads.timer.holdsMutex && !threads.protocol.holdsMutex

/-- The mutex is free when neither of the two threads that keep it has it. -/
theorem mutexFree_iff (threads : Threads τ κ) :
    threads.mutexFree = true ↔
      threads.timer.holdsMutex = false ∧ threads.protocol.holdsMutex = false := by
  unfold mutexFree
  rw [Bool.and_eq_true, Bool.not_eq_true', Bool.not_eq_true']

/-- The next statement of the user thread needs the mutex. -/
def userNeedsMutex (threads : Threads τ κ) : Bool :=
  match threads.user with
  | .written _ _ _ => true
  | _ => false

/-- The next statement of the timer thread needs the mutex it does not hold yet. -/
def timerNeedsMutex (threads : Threads τ κ) : Bool :=
  match threads.timer with
  | .calling (timer :: _) => timer.callback = .cmdTimeoutCb
  | _ => false

/-- The timer thread executes a statement; an exception leaves its loop. -/
def timerDoes (threads : Threads τ κ) (statement : Action τ κ (TimerThread κ)) : Threads τ κ :=
  match statement threads.manager with
  | .ok timer manager => { threads with manager := manager, timer := timer }
  | .error error manager => { threads with manager := manager, timer := .escaped error }

/-- The protocol thread executes a statement; an exception ends `ack_command` and is caught in
`Master::run`. -/
def protocolDoes (threads : Threads τ κ) (statement : Action τ κ (ProtocolThread κ)) :
    Threads τ κ :=
  match statement threads.manager with
  | .ok protocol manager => { threads with manager := manager, protocol := protocol }
  | .error _ manager => { threads with manager := manager, protocol := .idle }

/-- The user thread executes a statement, in a run in which `send_command` returns. -/
def userDoes (threads : Threads τ κ) (statement : Action τ κ (UserThread κ)) :
    Option (Threads τ κ) :=
  match statement threads.manager with
  | .ok user manager => some { threads with manager := manager, user := user }
  | .error _ _ => none

/-- One move of one thread, or of the transport. -/
def step (env : Environment τ κ) (threads : Threads τ κ) : Move τ κ → Option (Threads τ κ)
  | .start =>
    match threads.protocol, threads.timer with
    | .idle, .idle => some { threads with manager := after (start threads.manager) }
    | _, _ => none
  | .take batch =>
    match threads.timer with
    | .idle =>
      if threads.manager.running ∧
          batch.Perm (threads.manager.timeoutQueue.expired threads.manager.now) then
        some (threads.timerDoes do
          takeBatch
          return .calling batch)
      else none
    | _ => none
  | .timer =>
    if threads.timerNeedsMutex ∧ ¬ threads.mutexFree then none
    else (timerStatement env threads.timer).map threads.timerDoes
  | .ackCommand packet =>
    match threads.protocol with
    | .idle =>
      if threads.mutexFree then some (threads.protocolDoes (ackLookUp env packet)) else none
    | _ => none
  | .ack => (protocolStatement threads.protocol).map threads.protocolDoes
  | .protocol event =>
    match threads.protocol with
    | .idle =>
      if ofProtocol event then
        some { threads with manager := after (perform env event threads.manager) }
      else none
    | _ => none
  | .sendCommand type data cb timeout =>
    match threads.user with
    | .idle => threads.userDoes do
      let id ← addRepeatingTimer (timeout / timeBaseMs) .cmdTimeoutCb
      return .armed id type data cb
    | _ => none
  | .send =>
    if threads.userNeedsMutex ∧ ¬ threads.mutexFree then none
    else (userStatement env threads.user).bind threads.userDoes
  | .transport transport =>
    some { threads with manager := { threads.manager with transport := transport } }

end Threads

end Hdcp.Master
