import Hdcp.Master.RequestManager
import Mathlib.Data.Fintype.Basic
import Mathlib.Logic.Function.Basic

/-!
# The statements of the request manager

Any number of user threads, the timer thread and the protocol thread run the manager's operations.
Here each advances by one access to what another thread can see: the test of `keepalive_mngt_`, an
operation of the timer queue, an assignment of a timer's identifier, the taking of a packet id, the
`is_open()` test, a write, an access to the requests under their mutex. A request's callback may
send commands in turn, on the thread that calls it. An exception of a timer callback ends the timer
thread; any other ends the operation it leaves.
-/

namespace Hdcp.Master

open Base

/-- The arguments of a call of `send_command`. -/
structure CommandArgs (κ : Type) where
  /-- Block type. -/
  type : UInt16
  /-- Data of the block. -/
  data : Bytes
  /-- `request_cb`. -/
  cb : κ
  /-- `timeout`, in milliseconds. -/
  timeout : Nat

/-- The code around a manager, with callbacks that send commands. -/
structure Program (τ κ : Type) extends Environment τ κ where
  /-- The calls of `send_command` a callback makes, one after another, before it ends. -/
  calls : κ → Request κ → List (CommandArgs κ)

/-- Where a thread is in the reset of the keepalive timer, which found `keepalive_mngt_` true. -/
inductive Reset where
  /-- Before the old timer is erased. -/
  | tested
  /-- Before the new timer is armed. -/
  | erased
  /-- Before the identifier of the new timer is assigned. -/
  | added (id : Nat)
  deriving DecidableEq

/-- Where a call of `send_command` is. -/
inductive SendStep (κ : Type) where
  /-- There is no call. -/
  | idle
  /-- Before the retry timer is armed. -/
  | begun (args : CommandArgs κ)
  /-- Before the test of `keepalive_mngt_`. -/
  | armed (id : Nat) (args : CommandArgs κ)
  /-- In the reset of the keepalive timer. -/
  | resetting (reset : Reset) (id : Nat) (args : CommandArgs κ)
  /-- Before the packet id is taken. -/
  | refreshed (id : Nat) (args : CommandArgs κ)
  /-- Before the packet is made and written. -/
  | numbered (packetId : UInt16) (id : Nat) (args : CommandArgs κ)
  /-- Before the requests are locked and the request is inserted. -/
  | written (cmd : Packet) (id : Nat) (cb : κ)

/-- A callback that runs: its request, the calls still to make, and the call it is in. -/
structure Callback (κ : Type) where
  /-- The request it was given. -/
  request : Request κ
  /-- The calls it has not begun. -/
  calls : List (CommandArgs κ)
  /-- The call it is in. -/
  send : SendStep κ

/-- Where the timer thread is. -/
inductive TimerStep (κ : Type) where
  /-- Between two calls of `run_once`. -/
  | idle
  /-- In `run_once`, with the timers whose callbacks are still to run. -/
  | calling (batch : List (Timer TimerCallback))
  /-- In `cmd_timeout_cb`, the retry counted, before the `is_open()` test. -/
  | retryTest (request : Request κ) (batch : List (Timer TimerCallback))
  /-- In `cmd_timeout_cb`, before the write. -/
  | retryWrite (request : Request κ) (batch : List (Timer TimerCallback))
  /-- In `cmd_timeout_cb`, before the test of `keepalive_mngt_`. -/
  | retryReset (batch : List (Timer TimerCallback))
  /-- In `cmd_timeout_cb`, in the reset of the keepalive timer. -/
  | resetting (reset : Reset) (batch : List (Timer TimerCallback))
  /-- In `cmd_timeout_cb`, in the callback of a request that failed. -/
  | expiring (callback : Callback κ) (batch : List (Timer TimerCallback))
  /-- In `cmd_timeout_cb`, before the timer of the request that failed is erased. -/
  | expired (request : Request κ) (batch : List (Timer TimerCallback))
  /-- In `cmd_timeout_cb`, before the request that failed is erased. -/
  | forgetting (request : Request κ) (batch : List (Timer TimerCallback))
  /-- In `ka_mngt_timeout_cb`, before the packet id is taken. -/
  | keepaliveNumber (batch : List (Timer TimerCallback))
  /-- In `ka_mngt_timeout_cb`, before the write. -/
  | keepaliveWrite (packetId : UInt16) (batch : List (Timer TimerCallback))
  /-- In `ka_mngt_timeout_cb`, before the keepalive's timer is armed. -/
  | keepaliveArm (batch : List (Timer TimerCallback))
  /-- In `ka_mngt_timeout_cb`, before the identifier of that timer is stored. -/
  | keepalivePush (id : Nat) (batch : List (Timer TimerCallback))
  /-- An exception left `run()`. -/
  | escaped (error : Exn)

/-- Where the protocol thread is. -/
inductive ProtocolStep (κ : Type) where
  /-- In none of the operations. -/
  | idle
  /-- In `ack_command`, before the requests are locked and the one with a command id is searched. -/
  | finding (id : UInt16) (packet : Packet)
  /-- In `ack_command`, in the request's callback. -/
  | acking (callback : Callback κ)
  /-- In `ack_command`, before the request's timer is erased. -/
  | fulfilled (request : Request κ)
  /-- In `ack_command`, before the request is erased. -/
  | disarmed (request : Request κ)
  /-- In `ack_keepalive`, with the timers that are still to erase. -/
  | acknowledging (ids : List Nat)
  /-- In `send_hip`, before the packet id is taken. -/
  | hipNumber (identification : Identification) (timeout : Nat)
  /-- In `send_hip`, before the write. -/
  | hipWrite (packetId : UInt16) (identification : Identification) (timeout : Nat)
  /-- In `send_hip`, before the timer is armed. -/
  | hipArm (timeout : Nat)
  /-- In `send_hip`, before the timer's identifier is assigned. -/
  | hipAssign (id : Nat)
  /-- In `start_keepalive_management`, the flag set, before the timer is armed. -/
  | kaArm (keepaliveInterval keepaliveTimeout : Nat)
  /-- In `start_keepalive_management`, before the timer's identifier is assigned. -/
  | kaAssign (id keepaliveTimeout : Nat)
  /-- In `start_keepalive_management`, before the `is_open()` test. -/
  | kaTest (keepaliveTimeout : Nat)
  /-- In `start_keepalive_management`, before the packet id is taken. -/
  | kaNumber (keepaliveTimeout : Nat)
  /-- In `start_keepalive_management`, before the write. -/
  | kaWrite (packetId : UInt16) (keepaliveTimeout : Nat)
  /-- In `start_keepalive_management`, before `timeout_keepalive_` is set and its timer armed. -/
  | kaAwait (keepaliveTimeout : Nat)
  /-- In `start_keepalive_management`, before the identifier of that timer is stored. -/
  | kaPush (id : Nat)
  /-- In `stop_keepalive_management`, the flag cleared, before the timer is erased. -/
  | stopErase
  /-- In `start`, before the requests are locked and cleared. -/
  | startRequests
  /-- In `start`, before the timers are cleared. -/
  | startTimers
  /-- In `start`, before `now_` is. -/
  | startNow
  /-- In `start`, before `packet_id_` is. -/
  | startNumber
  /-- In `start`, before `keepalive_mngt_` is. -/
  | startFlag
  /-- In `start`, before the timer thread runs. -/
  | startRun
  /-- In `stop`, waiting for the timer thread. -/
  | joining

/-- What the protocol thread asks of the manager. -/
inductive Operation where
  | start
  | stop
  | sendHip (identification : Identification) (timeout : Nat)
  | startKeepaliveManagement (keepaliveInterval keepaliveTimeout : Nat)
  | stopKeepaliveManagement
  | ackCommand (packet : Packet)
  | ackKeepalive
  | ackDip

section Statements

variable {τ κ : Type}

/-- The next statement of the reset of the keepalive timer; after the last there is none. -/
def Reset.statement : Reset → Action τ κ (Option Reset)
  | tested => do
    eraseTimer (← get).keepaliveMngtId
    return some .erased
  | erased => do
    let id ← addRepeatingTimer (keepaliveInterval / timeBaseMs) .kaMngtTimeoutCb
    return some (.added id)
  | added id => do
    modify fun state => { state with keepaliveMngtId := some id }
    return none

/-- The next statement of a call of `send_command`. -/
def SendStep.statement (env : Environment τ κ) : SendStep κ → Action τ κ (SendStep κ)
  | idle => return .idle
  | begun args => do
    let id ← addRepeatingTimer (args.timeout / timeBaseMs) .cmdTimeoutCb
    return .armed id args
  | armed id args => do
    if (← get).keepaliveMngt then return .resetting .tested id args else return .refreshed id args
  | resetting reset id args => do
    match ← reset.statement with
    | some next => return .resetting next id args
    | none => return .refreshed id args
  | refreshed id args => do
    let packetId ← nextPacketId
    return .numbered packetId id args
  | numbered packetId id args => do
    let cmd ← made (Packet.makeCommand env.raw packetId args.type args.data)
    write env ⟨cmd, some id⟩
    return .written cmd id args.cb
  | written cmd id cb => do
    insertRequest { id := id, command := cmd, cb := cb }
    return .idle

/-- The call of a request's callback. -/
def callBack (program : Program τ κ) (request : Request κ) : Action τ κ (Callback κ) := do
  emit (.called request)
  return ⟨request, program.calls request.cb request, .idle⟩

/-- The next statement of a callback: of the call it is in, or the begin of the next one; after the
last it returns, or throws. -/
def Callback.statement (program : Program τ κ) (callback : Callback κ) :
    Action τ κ (Option (Callback κ)) :=
  match callback.send, callback.calls with
  | .idle, [] =>
    match program.invoke callback.request.cb callback.request with
    | some error => throw error
    | none => return none
  | .idle, args :: calls => return some { callback with calls := calls, send := .begun args }
  | send, _ => do
    let next ← send.statement program.toEnvironment
    return some { callback with send := next }

/-- The search at the front of `cmd_timeout_cb`, and what follows it under the same lock. -/
def findExpired (program : Program τ κ) (id : Nat) (batch : List (Timer TimerCallback)) :
    Action τ κ (TimerStep κ) := do
  match (← get).requests.findFirst id with
  | none => throw (.application .requestNotFound none)
  | some request =>
    if request.retry < maxRetry then
      modify fun state =>
        { state with requests := state.requests.modifyFirst id incRetry incRetry_keys }
      return .retryTest request batch
    else
      return .expiring (← callBack program { request with status := .timeout }) batch

/-- The next statement of the timer thread inside `run_once`. -/
def TimerStep.statement (program : Program τ κ) : TimerStep κ → Action τ κ (TimerStep κ)
  | idle => return .idle
  | calling [] => return .idle
  | calling (timer :: batch) =>
    match timer.callback with
    | .cmdTimeoutCb => findExpired program timer.id batch
    | .dipTimeoutCb => do
      dipTimeoutCb program.toEnvironment
      return .calling batch
    | .kaTimeoutCb => do
      kaTimeoutCb program.toEnvironment
      return .calling batch
    | .kaMngtTimeoutCb => do
      if (← get).isOpen program.toEnvironment then return .keepaliveNumber batch
      else return .keepaliveArm batch
  | retryTest request batch => do
    if (← get).isOpen program.toEnvironment then return .retryWrite request batch
    else return .retryReset batch
  | retryWrite request batch => do
    write program.toEnvironment ⟨request.command, some request.id⟩
    return .retryReset batch
  | retryReset batch => do
    if (← get).keepaliveMngt then return .resetting .tested batch else return .calling batch
  | resetting reset batch => do
    match ← reset.statement with
    | some next => return .resetting next batch
    | none => return .calling batch
  | expiring callback batch => do
    match ← callback.statement program with
    | some next => return .expiring next batch
    | none => return .expired callback.request batch
  | expired request batch => do
    eraseTimer (some request.id)
    return .forgetting request batch
  | forgetting request batch => do
    modify fun state => { state with requests := state.requests.eraseFirst request.id }
    return .calling batch
  | keepaliveNumber batch => do
    let packetId ← nextPacketId
    return .keepaliveWrite packetId batch
  | keepaliveWrite packetId batch => do
    let keepalive ← made (Packet.makeKeepalive program.raw packetId)
    write program.toEnvironment ⟨keepalive, none⟩
    return .keepaliveArm batch
  | keepaliveArm batch => do
    let id ← addTimer (← get).timeoutKeepalive .kaTimeoutCb
    return .keepalivePush id batch
  | keepalivePush id batch => do
    modify fun state => { state with kaIds := state.kaIds ++ [id] }
    return .calling batch
  | escaped error => return .escaped error

/-- The search in `ack_command`, under the lock, and the call of the callback found. -/
def findAcked (program : Program τ κ) (id : UInt16) (packet : Packet) :
    Action τ κ (ProtocolStep κ) := do
  match (← get).requests.findSecond id with
  | none =>
    throw (.application .requestNotFound (some ("id " ++ toString id.toNat ++ " not found")))
  | some found =>
    return .acking (← callBack program { found with status := .fulfilled, ack := some packet })

/-- The first statement of an operation of the protocol thread. -/
def Operation.statement (env : Environment τ κ) : Operation → Action τ κ (ProtocolStep κ)
  | start => do
    if (← get).running then return .idle else return .startRequests
  | stop => do
    if (← get).running then
      modify fun state => { state with running := false }
      return .joining
    else return .idle
  | sendHip identification timeout => do
    if (← get).isOpen env then return .hipNumber identification timeout else return .hipArm timeout
  | startKeepaliveManagement keepaliveInterval keepaliveTimeout => do
    modify fun state => { state with keepaliveMngt := true }
    return .kaArm keepaliveInterval keepaliveTimeout
  | stopKeepaliveManagement => do
    modify fun state => { state with keepaliveMngt := false }
    return .stopErase
  | ackCommand packet =>
    match ackedId packet with
    | .error error => throw error
    | .ok id => return .finding id packet
  | ackKeepalive => return .acknowledging (← get).kaIds
  | ackDip => do
    eraseTimer (← get).dipId
    return .idle

/-- The next statement of the protocol thread inside an operation. -/
def ProtocolStep.statement (program : Program τ κ) : ProtocolStep κ → Action τ κ (ProtocolStep κ)
  | idle => return .idle
  | finding id packet => findAcked program id packet
  | acking callback => do
    match ← callback.statement program with
    | some next => return .acking next
    | none => return .fulfilled callback.request
  | fulfilled request => do
    eraseTimer (some request.id)
    return .disarmed request
  | disarmed request => do
    modify fun state => { state with requests := state.requests.eraseSecond request.commandId }
    return .idle
  | acknowledging [] => do
    modify fun state => { state with kaIds := [] }
    return .idle
  | acknowledging (id :: ids) => do
    eraseTimer (some id)
    return .acknowledging ids
  | hipNumber identification timeout => do
    let packetId ← nextPacketId
    return .hipWrite packetId identification timeout
  | hipWrite packetId identification timeout => do
    let hip ← made (Packet.makeHip program.raw packetId identification)
    write program.toEnvironment ⟨hip, none⟩
    return .hipArm timeout
  | hipArm timeout => do
    let id ← addTimer (timeout / timeBaseMs) .dipTimeoutCb
    return .hipAssign id
  | hipAssign id => do
    modify fun state => { state with dipId := some id }
    return .idle
  | kaArm keepaliveInterval keepaliveTimeout => do
    let id ← addRepeatingTimer (keepaliveInterval / timeBaseMs) .kaMngtTimeoutCb
    return .kaAssign id keepaliveTimeout
  | kaAssign id keepaliveTimeout => do
    modify fun state => { state with keepaliveMngtId := some id }
    return .kaTest keepaliveTimeout
  | kaTest keepaliveTimeout => do
    if (← get).isOpen program.toEnvironment then return .kaNumber keepaliveTimeout
    else return .kaAwait keepaliveTimeout
  | kaNumber keepaliveTimeout => do
    let packetId ← nextPacketId
    return .kaWrite packetId keepaliveTimeout
  | kaWrite packetId keepaliveTimeout => do
    let keepalive ← made (Packet.makeKeepalive program.raw packetId)
    write program.toEnvironment ⟨keepalive, none⟩
    return .kaAwait keepaliveTimeout
  | kaAwait keepaliveTimeout => do
    modify fun state => { state with timeoutKeepalive := keepaliveTimeout / timeBaseMs }
    let id ← addTimer (← get).timeoutKeepalive .kaTimeoutCb
    return .kaPush id
  | kaPush id => do
    modify fun state => { state with kaIds := [id] }
    return .idle
  | stopErase => do
    eraseTimer (← get).keepaliveMngtId
    return .idle
  | startRequests => do
    modify fun state => { state with requests := .empty }
    return .startTimers
  | startTimers => do
    modify fun state => { state with timeoutQueue := state.timeoutQueue.clear }
    return .startNow
  | startNow => do
    modify fun state => { state with now := 0 }
    return .startNumber
  | startNumber => do
    modify fun state => { state with packetId := 0 }
    return .startFlag
  | startFlag => do
    modify fun state => { state with keepaliveMngt := false }
    return .startRun
  | startRun => do
    modify fun state => { state with running := true }
    return .idle
  | joining => return .idle

end Statements

/-! ## The ends of operations -/

section Ends

variable {κ : Type}

/-- The call is over. -/
def SendStep.ended : SendStep κ → Bool
  | idle => true
  | _ => false

/-- The operation is over. -/
def ProtocolStep.ended : ProtocolStep κ → Bool
  | idle => true
  | _ => false

/-- The timer callback is over. -/
def TimerStep.ended : TimerStep κ → Bool
  | idle | calling _ => true
  | _ => false

end Ends

/-! ## The mutexes -/

section Mutexes

variable {κ : Type}

/-- The next statement locks the requests. -/
def SendStep.locks : SendStep κ → Bool
  | written _ _ _ => true
  | _ => false

/-- The thread holds `requests_mutex_`, which `cmd_timeout_cb` locks until it returns. -/
def TimerStep.holds : TimerStep κ → Bool
  | retryTest _ _ | retryWrite _ _ | retryReset _ | resetting _ _ | expiring _ _ | expired _ _
  | forgetting _ _ => true
  | _ => false

/-- The next statement of the timer thread locks the requests. -/
def TimerStep.locks : TimerStep κ → Bool
  | calling (timer :: _) => timer.callback = .cmdTimeoutCb
  | expiring callback _ => callback.send.locks
  | _ => false

/-- The thread holds `requests_mutex_`, which `ack_command` locks until it returns. -/
def ProtocolStep.holds : ProtocolStep κ → Bool
  | acking _ | fulfilled _ | disarmed _ => true
  | _ => false

/-- The next statement of the protocol thread locks the requests. -/
def ProtocolStep.locks : ProtocolStep κ → Bool
  | finding _ _ | startRequests => true
  | acking callback => callback.send.locks
  | _ => false

/-- The thread holds `mutex_id_`, which `ack_keepalive` locks until it returns. -/
def ProtocolStep.holdsIds : ProtocolStep κ → Bool
  | acknowledging _ => true
  | _ => false

end Mutexes

/-! ## The threads -/

/-- The manager and the threads that run its operations, with users `ι`. -/
structure Crew (τ κ ι : Type) where
  /-- The manager. -/
  manager : State τ κ
  /-- The thread of `RequestManager::run`. -/
  timer : TimerStep κ
  /-- The thread of `Master::run`. -/
  protocol : ProtocolStep κ
  /-- The threads that call `send_command`. -/
  users : ι → SendStep κ

/-- The threads of a crew. -/
inductive Thread (ι : Type) where
  | timer
  | protocol
  | user (user : ι)
  deriving DecidableEq

/-- What holds of every thread. -/
theorem Thread.forall_iff {ι : Type} {holds : Thread ι → Prop} :
    (∀ thread, holds thread) ↔ holds .timer ∧ holds .protocol ∧ ∀ user, holds (.user user) := by
  constructor
  · intro every
    exact ⟨every .timer, every .protocol, fun user => every (.user user)⟩
  · intro each thread
    cases thread with
    | timer => exact each.1
    | protocol => exact each.2.1
    | user user => exact each.2.2 user

instance {ι : Type} [Fintype ι] {holds : Thread ι → Prop} [DecidablePred holds] :
    Decidable (∀ thread, holds thread) :=
  decidable_of_iff _ Thread.forall_iff.symm

/-- What the threads and the transport can do next. -/
inductive Turn (τ κ ι : Type) where
  /-- The protocol thread begins an operation. -/
  | operate (operation : Operation)
  /-- The protocol thread goes on. -/
  | protocol
  /-- The timer thread takes the batch of a tick. -/
  | take (batch : List (Timer TimerCallback))
  /-- The timer thread goes on. -/
  | timer
  /-- A user begins `send_command`. -/
  | call (user : ι) (args : CommandArgs κ)
  /-- A user goes on. -/
  | user (user : ι)
  /-- The transport changes: it opens, closes or sends what it was given. -/
  | transport (state : τ)

namespace Crew

variable {τ κ ι : Type}

/-- A manager as constructed, no thread inside an operation. -/
def initial (transport : τ) : Crew τ κ ι := ⟨.initial transport, .idle, .idle, fun _ => .idle⟩

/-- The mutex of the requests is free. -/
def free (crew : Crew τ κ ι) : Bool := !crew.timer.holds && !crew.protocol.holds

/-- The timer thread executes a statement; an exception leaves its loop. -/
def timerDoes (crew : Crew τ κ ι) (statement : Action τ κ (TimerStep κ)) : Crew τ κ ι :=
  match statement crew.manager with
  | .ok timer manager => { crew with manager := manager, timer := timer }
  | .error error manager => { crew with manager := manager, timer := .escaped error }

/-- A statement of the timer thread that returns. -/
theorem timerDoes_ok (crew : Crew τ κ ι) {statement : Action τ κ (TimerStep κ)}
    {timer : TimerStep κ} {manager : State τ κ}
    (outcome : statement crew.manager = .ok timer manager) :
    crew.timerDoes statement = { crew with manager := manager, timer := timer } := by
  unfold timerDoes
  rw [outcome]

/-- The protocol thread executes a statement; `Master::run` catches an exception. -/
def protocolDoes (crew : Crew τ κ ι) (statement : Action τ κ (ProtocolStep κ)) : Crew τ κ ι :=
  match statement crew.manager with
  | .ok protocol manager => { crew with manager := manager, protocol := protocol }
  | .error _ manager => { crew with manager := manager, protocol := .idle }

variable [DecidableEq ι]

/-- A user executes a statement; an exception ends the call. -/
def userDoes (crew : Crew τ κ ι) (user : ι) (statement : Action τ κ (SendStep κ)) : Crew τ κ ι :=
  match statement crew.manager with
  | .ok send manager =>
    { crew with manager := manager, users := Function.update crew.users user send }
  | .error _ manager =>
    { crew with manager := manager, users := Function.update crew.users user .idle }

/-- A statement of a user that returns. -/
theorem userDoes_ok (crew : Crew τ κ ι) (user : ι) {statement : Action τ κ (SendStep κ)}
    {send : SendStep κ} {manager : State τ κ}
    (outcome : statement crew.manager = .ok send manager) :
    crew.userDoes user statement =
      { crew with manager := manager, users := Function.update crew.users user send } := by
  unfold userDoes
  rw [outcome]

/-- A statement of a user that throws. -/
theorem userDoes_error (crew : Crew τ κ ι) (user : ι) {statement : Action τ κ (SendStep κ)}
    {error : Exn} {manager : State τ κ}
    (outcome : statement crew.manager = .error error manager) :
    crew.userDoes user statement =
      { crew with manager := manager, users := Function.update crew.users user .idle } := by
  unfold userDoes
  rw [outcome]

/-- The protocol thread can execute its next statement: the mutex it locks is free, the timer
thread it joins is out of its loop. -/
def protocolReady (crew : Crew τ κ ι) : Bool :=
  match crew.protocol, crew.timer with
  | .joining, .idle => true
  | .joining, _ => false
  | protocol, _ => !protocol.locks || crew.free

/-- The timer thread can execute its next statement. -/
def timerReady (crew : Crew τ κ ι) : Bool :=
  match crew.timer with
  | .keepalivePush _ _ => !crew.protocol.holdsIds
  | timer => !timer.locks || crew.free

/-- One turn of one thread, or of the transport. -/
def step (program : Program τ κ) (crew : Crew τ κ ι) : Turn τ κ ι → Option (Crew τ κ ι)
  | .operate operation =>
    match crew.protocol with
    | .idle => some (crew.protocolDoes (operation.statement program.toEnvironment))
    | _ => none
  | .protocol =>
    if crew.protocolReady then some (crew.protocolDoes (crew.protocol.statement program))
    else none
  | .take batch =>
    match crew.timer with
    | .idle =>
      if crew.manager.running ∧
          batch.Perm (crew.manager.timeoutQueue.expired crew.manager.now) then
        some (crew.timerDoes do
          takeBatch
          return .calling batch)
      else none
    | _ => none
  | .timer =>
    if crew.timerReady then some (crew.timerDoes (crew.timer.statement program)) else none
  | .call user args =>
    match crew.users user with
    | .idle => some { crew with users := Function.update crew.users user (.begun args) }
    | _ => none
  | .user user =>
    if !(crew.users user).locks || crew.free then
      some (crew.userDoes user ((crew.users user).statement program.toEnvironment))
    else none
  | .transport transport =>
    some { crew with manager := { crew.manager with transport := transport } }

end Crew

end Hdcp.Master
