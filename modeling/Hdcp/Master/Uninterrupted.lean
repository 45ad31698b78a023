import Hdcp.Master.Effects
import Hdcp.Master.Threads

/-!
# A thread that is not interrupted

When the other threads let it through, a thread executes statement by statement just what the
operation does in one step: the threads refine the manager's operations.
-/

namespace Hdcp.Master

open Base

variable {τ κ : Type}

/-! ## The timer thread -/

/-- What is left of `run_once`. -/
def TimerThread.rest (env : Environment τ κ) : TimerThread κ → Action τ κ Unit
  | idle => pure ()
  | calling batch => fireAll env batch
  | retryTest request batch => do
    if (← get).isOpen env then
      write env ⟨request.command, some request.id⟩
    resetKeepaliveMngt
    fireAll env batch
  | retryWrite request batch => do
    write env ⟨request.command, some request.id⟩
    resetKeepaliveMngt
    fireAll env batch
  | retryReset batch => do
    resetKeepaliveMngt
    fireAll env batch
  | givingUp request batch => do
    giveUp env request.id request
    fireAll env batch
  | keepaliveWrite batch => do
    let packetId ← nextPacketId
    let keepalive ← made (Packet.makeKeepalive env.raw packetId)
    write env ⟨keepalive, none⟩
    let id ← addTimer (← get).timeoutKeepalive .kaTimeoutCb
    modify fun state => { state with kaIds := state.kaIds ++ [id] }
    fireAll env batch
  | keepaliveArm batch => do
    let id ← addTimer (← get).timeoutKeepalive .kaTimeoutCb
    modify fun state => { state with kaIds := state.kaIds ++ [id] }
    fireAll env batch
  | escaped error => throw error

/-- The statements left are at most this many. -/
def TimerThread.left : TimerThread κ → Nat
  | idle | escaped _ => 0
  | calling batch => 4 * batch.length + 1
  | retryReset batch | givingUp _ batch | keepaliveArm batch => 4 * batch.length + 2
  | retryWrite _ batch | keepaliveWrite batch => 4 * batch.length + 3
  | retryTest _ batch => 4 * batch.length + 4

/-- A retry is counted, and the rest of it goes from the test. -/
theorem retryCommand_rest (env : Environment τ κ) (request : Request κ)
    (batch : List (Timer TimerCallback)) :
    (do
      retryCommand env request.id request
      fireAll env batch : Action τ κ Unit) = (do
      modify fun state =>
        { state with
          requests := state.requests.modifyFirst request.id incRetry fun _ => ⟨rfl, rfl⟩ }
      (TimerThread.retryTest request batch).rest env) := by
  unfold retryCommand TimerThread.rest
  rw [bind_assoc]
  congr 1
  funext _
  rw [bind_assoc]
  congr 1
  funext state
  by_cases opened : state.isOpen env = true
  · rw [if_pos opened, if_pos opened, bind_assoc]
  · rw [if_neg opened, if_neg opened]

/-- Calling back for a timer is its first statement and what is left then. -/
theorem TimerThread.rest_calling (env : Environment τ κ) (timer : Timer TimerCallback)
    (batch : List (Timer TimerCallback)) (statement : Action τ κ (TimerThread κ))
    (next : timerStatement env (.calling (timer :: batch)) = some statement) (state : State τ κ) :
    TimerThread.rest env (.calling (timer :: batch)) state = (statement >>= rest env) state := by
  have begun : rest env (calling (timer :: batch)) = (do
      fire env timer
      fireAll env batch) := rfl
  simp only [timerStatement] at next
  rw [begun, fire]
  cases bound : timer.callback with
  | cmdTimeoutCb =>
    rw [bound] at next
    cases next
    dsimp only
    simp only [cmdTimeoutCb, lookUp, bind_apply, get_apply]
    cases found : state.requests.findFirst timer.id with
    | none => rfl
    | some request =>
      obtain ⟨-, same⟩ := (TwoIndex.findFirst_eq_some_iff _ _ _).mp found
      simp only [choice_apply]
      rw [← same]
      by_cases more : request.retry < maxRetry
      · rw [if_pos more, if_pos more]
        exact congrFun (retryCommand_rest env request batch) state
      · rw [if_neg more, if_neg more]
        rfl
  | dipTimeoutCb =>
    rw [bound] at next
    cases next
    simp only [bind_assoc, pure_bind]
    rfl
  | kaTimeoutCb =>
    rw [bound] at next
    cases next
    simp only [bind_assoc, pure_bind]
    rfl
  | kaMngtTimeoutCb =>
    rw [bound] at next
    cases next
    simp only [kaMngtTimeoutCb, sendKeepalive, bind_assoc]
    rw [bind_apply, bind_apply, get_apply]
    dsimp only
    split
    · simp only [bind_assoc, pure_bind]
      rfl
    · rfl

/-- What is left is the next statement and what is left then. -/
theorem TimerThread.rest_eq (env : Environment τ κ) (timer : TimerThread κ)
    (statement : Action τ κ (TimerThread κ)) (next : timerStatement env timer = some statement)
    (state : State τ κ) : timer.rest env state = (statement >>= rest env) state := by
  cases timer with
  | idle => contradiction
  | escaped error => contradiction
  | calling batch =>
    cases batch with
    | nil =>
      cases next
      rfl
    | cons timer batch => exact rest_calling env timer batch statement next state
  | retryTest request batch =>
    cases next
    simp only [rest, bind_assoc]
    rw [bind_apply, bind_apply, get_apply]
    dsimp only
    split
    · rfl
    · rfl
  | retryWrite request batch =>
    cases next
    simp only [rest, bind_assoc, pure_bind]
  | retryReset batch =>
    cases next
    simp only [rest, bind_assoc, pure_bind]
  | givingUp request batch =>
    cases next
    simp only [rest, bind_assoc, pure_bind]
  | keepaliveWrite batch =>
    cases next
    simp only [rest, bind_assoc, pure_bind]
  | keepaliveArm batch =>
    cases next
    simp only [rest, bind_assoc, pure_bind]

/-- A statement that ends by returning a position leads there. -/
theorem TimerThread.leads_to {action : Action τ κ Unit} {position next : TimerThread κ}
    {state final : State τ κ}
    (returned : (do
      action
      return position : Action τ κ (TimerThread κ)) state = .ok next final) :
    next = position := by
  obtain ⟨_, middle, -, last⟩ := (bind_eq_ok_iff _ _ _ _ _).mp returned
  cases last
  rfl

/-- A test of `is_open()` leads to one of two positions. -/
theorem TimerThread.leads_either {env : Environment τ κ} {yes no next : TimerThread κ}
    {state final : State τ κ}
    (returned : (do
      if (← get).isOpen env then return yes else return no : Action τ κ (TimerThread κ)) state =
        .ok next final) : next = yes ∨ next = no := by
  rw [bind_apply, get_apply] at returned
  dsimp only at returned
  split at returned
  · cases returned
    exact .inl rfl
  · cases returned
    exact .inr rfl

/-- Calling back for a timer leaves less than the timer and the batch behind it. -/
theorem TimerThread.left_calling (env : Environment τ κ) (timer : Timer TimerCallback)
    (batch : List (Timer TimerCallback)) (next : TimerThread κ)
    (statement : Action τ κ (TimerThread κ))
    (taken : timerStatement env (.calling (timer :: batch)) = some statement)
    (state final : State τ κ) (returned : statement state = .ok next final) :
    next.left < 4 * batch.length + 5 := by
  simp only [timerStatement] at taken
  cases bound : timer.callback with
  | cmdTimeoutCb =>
    rw [bound] at taken
    cases taken
    simp only [lookUp, bind_apply, get_apply] at returned
    cases found : state.requests.findFirst timer.id with
    | none =>
      rw [found] at returned
      contradiction
    | some request =>
      rw [found] at returned
      dsimp only at returned
      split at returned
      · cases returned
        exact Nat.lt_succ_self _
      · cases returned
        dsimp only [left]
        omega
  | dipTimeoutCb =>
    rw [bound] at taken
    cases taken
    rw [leads_to returned]
    dsimp only [left]
    omega
  | kaTimeoutCb =>
    rw [bound] at taken
    cases taken
    rw [leads_to returned]
    dsimp only [left]
    omega
  | kaMngtTimeoutCb =>
    rw [bound] at taken
    cases taken
    rcases leads_either returned with rfl | rfl
    · dsimp only [left]
      omega
    · dsimp only [left]
      omega

/-- Every statement leaves fewer. -/
theorem TimerThread.left_lt (env : Environment τ κ) (timer next : TimerThread κ)
    (statement : Action τ κ (TimerThread κ)) (taken : timerStatement env timer = some statement)
    (state final : State τ κ) (returned : statement state = .ok next final) :
    next.left < timer.left := by
  cases timer with
  | idle => contradiction
  | escaped error => contradiction
  | calling batch =>
    cases batch with
    | nil =>
      cases taken
      cases returned
      exact Nat.zero_lt_succ _
    | cons timer batch =>
      have more : left (calling (timer :: batch) : TimerThread κ) = 4 * batch.length + 5 := by
        simp only [left, List.length_cons]
        omega
      rw [more]
      exact left_calling env timer batch next statement taken state final returned
  | retryTest request batch =>
    cases taken
    rcases leads_either returned with rfl | rfl
    · exact Nat.lt_succ_self _
    · dsimp only [left]
      omega
  | retryWrite request batch =>
    cases taken
    rw [leads_to returned]
    exact Nat.lt_succ_self _
  | retryReset batch =>
    cases taken
    rw [leads_to returned]
    exact Nat.lt_succ_self _
  | givingUp request batch =>
    cases taken
    rw [leads_to returned]
    exact Nat.lt_succ_self _
  | keepaliveWrite batch =>
    cases taken
    obtain ⟨id, counted, -, rest⟩ := (bind_eq_ok_iff _ _ _ _ _).mp returned
    obtain ⟨keepalive, made, -, last⟩ := (bind_eq_ok_iff _ _ _ _ _).mp rest
    rw [leads_to last]
    exact Nat.lt_succ_self _
  | keepaliveArm batch =>
    cases taken
    cases returned
    exact Nat.lt_succ_self _

/-- The threads once the timer thread has run its batch to the end. -/
def Threads.ended (threads : Threads τ κ) (outcome : EStateM.Result Exn (State τ κ) Unit) :
    Threads τ κ :=
  match outcome with
  | .ok _ manager => { threads with manager := manager, timer := .idle }
  | .error error manager => { threads with manager := manager, timer := .escaped error }

/-- The timer thread runs what is left of its batch, while the protocol thread lets it. -/
theorem timerThread_uninterrupted (env : Environment τ κ) (threads : Threads τ κ)
    (free : threads.protocol.holdsMutex = false) :
    ∃ count, Run (Steps (Threads.step env)) threads (List.replicate count .timer)
      (threads.ended (threads.timer.rest env threads.manager)) := by
  obtain ⟨manager, timer, protocol, user⟩ := threads
  dsimp only at free ⊢
  -- by induction on the statements left
  generalize bound : timer.left = count
  induction count using Nat.strongRecOn generalizing manager timer with
  | ind count ih =>
    cases position : timerStatement env timer with
    | none =>
      cases timer with
      | idle => exact ⟨0, .nil _⟩
      | escaped error => exact ⟨0, .nil _⟩
      | calling batch =>
        cases batch with
        | nil => contradiction
        | cons timer batch =>
          simp only [timerStatement] at position
          cases bound : timer.callback <;> rw [bound] at position <;> contradiction
      | _ => contradiction
    | some statement =>
      have allowed : ¬ (Threads.timerNeedsMutex ⟨manager, timer, protocol, user⟩ = true ∧
          ¬ Threads.mutexFree ⟨manager, timer, protocol, user⟩ = true) := by
        rintro ⟨needs, blocked⟩
        refine blocked ?_
        unfold Threads.mutexFree
        rw [free]
        cases timer with
        | calling batch => rfl
        | _ => contradiction
      have first : Steps (Threads.step env) ⟨manager, timer, protocol, user⟩ .timer
          (Threads.timerDoes ⟨manager, timer, protocol, user⟩ statement) := by
        unfold Steps
        rw [Threads.step, if_neg allowed]
        rw [position]
        rfl
      rw [TimerThread.rest_eq env timer statement position, bind_apply]
      unfold Threads.timerDoes at first
      dsimp only at first
      cases outcome : statement manager with
      | error error final =>
        rw [outcome] at first
        exact ⟨1, .cons first (.nil _)⟩
      | ok next final =>
        rw [outcome] at first
        obtain ⟨more, rest⟩ := ih next.left
          (bound ▸ TimerThread.left_lt env timer next statement position manager final outcome)
          final next rfl
        exact ⟨more + 1, .cons first rest⟩

/-- A tick, statement by statement, is `run_once`. -/
theorem runOnce_uninterrupted (env : Environment τ κ) (threads : Threads τ κ)
    (idle : threads.timer = .idle) (free : threads.protocol.holdsMutex = false)
    (batch : List (Timer TimerCallback))
    (enabled : Enabled threads.manager (.runOnce batch : Event τ κ)) :
    ∃ count, Run (Steps (Threads.step env)) threads (.take batch :: List.replicate count .timer)
      (threads.ended (runOnce env batch threads.manager)) := by
  obtain ⟨manager, timer, protocol, user⟩ := threads
  obtain rfl : timer = .idle := idle
  have taken : Steps (Threads.step env) ⟨manager, .idle, protocol, user⟩ (.take batch)
      ⟨manager.withFields manager.ticked, .calling batch, protocol, user⟩ := by
    unfold Steps
    exact if_pos enabled
  obtain ⟨count, rest⟩ := timerThread_uninterrupted env
    ⟨manager.withFields manager.ticked, .calling batch, protocol, user⟩ free
  exact ⟨count, .cons taken rest⟩

/-! ## The other threads -/

/-- A statement of the user thread that returns. -/
theorem step_send (env : Environment τ κ) {manager next : State τ κ} {timer : TimerThread κ}
    {protocol : ProtocolThread κ} {user moved : UserThread κ}
    (free : Threads.mutexFree ⟨manager, timer, protocol, user⟩ = true)
    {statement : Action τ κ (UserThread κ)} (position : userStatement env user = some statement)
    (returned : statement manager = .ok moved next) :
    Steps (Threads.step env) ⟨manager, timer, protocol, user⟩ .send
      ⟨next, timer, protocol, moved⟩ := by
  unfold Steps
  simp only [Threads.step]
  rw [if_neg (fun blocked => blocked.2 free), position, Option.bind_some, Threads.userDoes,
    returned]

/-- `send_command`, statement by statement, when it returns. -/
theorem sendCommand_uninterrupted (env : Environment τ κ) (threads : Threads τ κ)
    (idle : threads.user = .idle) (free : threads.mutexFree = true) (type : UInt16) (data : Bytes)
    (cb : κ) (timeout : Nat) (next : State τ κ)
    (returned : sendCommand env type data cb timeout threads.manager = .ok () next) :
    Run (Steps (Threads.step env)) threads
      [.sendCommand type data cb timeout, .send, .send, .send, .send]
      { threads with manager := next } := by
  obtain ⟨manager, timer, protocol, user⟩ := threads
  obtain rfl : user = .idle := idle
  unfold sendCommand at returned
  obtain ⟨id, armed, arming, rest⟩ := (bind_eq_ok_iff _ _ _ _ _).mp returned
  obtain ⟨_, refreshed, refreshing, rest⟩ := (bind_eq_ok_iff _ _ _ _ _).mp rest
  obtain ⟨packetId, counted, counting, rest⟩ := (bind_eq_ok_iff _ _ _ _ _).mp rest
  obtain ⟨cmd, prepared, making, rest⟩ := (bind_eq_ok_iff _ _ _ _ _).mp rest
  obtain ⟨_, written, writing, inserting⟩ := (bind_eq_ok_iff _ _ _ _ _).mp rest
  have began : Steps (Threads.step env) ⟨manager, timer, protocol, .idle⟩
      (.sendCommand type data cb timeout) ⟨armed, timer, protocol, .armed id type data cb⟩ := by
    unfold Steps
    simp only [Threads.step, Threads.userDoes]
    rw [bind_apply, arming]
    rfl
  have second : Steps (Threads.step env) ⟨armed, timer, protocol, .armed id type data cb⟩ .send
      ⟨refreshed, timer, protocol, .refreshed id type data cb⟩ := by
    refine step_send env free rfl ?_
    rw [bind_apply, refreshing]
    rfl
  have third : Steps (Threads.step env)
      ⟨refreshed, timer, protocol, .refreshed id type data cb⟩ .send
      ⟨prepared, timer, protocol, .made id cmd cb⟩ := by
    refine step_send env free rfl ?_
    rw [bind_apply, counting]
    dsimp only
    rw [bind_apply, making]
    rfl
  have fourth : Steps (Threads.step env) ⟨prepared, timer, protocol, .made id cmd cb⟩ .send
      ⟨written, timer, protocol, .written id cmd cb⟩ := by
    refine step_send env free rfl ?_
    rw [bind_apply, writing]
    rfl
  have fifth : Steps (Threads.step env) ⟨written, timer, protocol, .written id cmd cb⟩ .send
      ⟨next, timer, protocol, .idle⟩ := by
    refine step_send env free rfl ?_
    rw [bind_apply, inserting]
    rfl
  exact .cons began (.cons second (.cons third (.cons fourth (.cons fifth (.nil _)))))

/-- `ack_command`, statement by statement, when it returns. -/
theorem ackCommand_uninterrupted (env : Environment τ κ) (threads : Threads τ κ)
    (idle : threads.protocol = .idle) (free : threads.mutexFree = true) (packet : Packet)
    (next : State τ κ) (returned : ackCommand env packet threads.manager = .ok () next) :
    Run (Steps (Threads.step env)) threads [.ackCommand packet, .ack, .ack]
      { threads with manager := next } := by
  obtain ⟨manager, timer, protocol, user⟩ := threads
  obtain rfl : protocol = .idle := idle
  obtain ⟨id, found, named, search, silent, rfl⟩ := (ackCommand_eq_ok_iff _ _ _ _ _).mp returned
  have second : found.commandId = id := ((TwoIndex.findSecond_eq_some_iff _ _ _).mp search).2
  have began : Steps (Threads.step env) ⟨manager, timer, .idle, user⟩ (.ackCommand packet)
      ⟨manager.reported { found with status := .fulfilled, ack := some packet }, timer,
        .fulfilled found, user⟩ := by
    have called := (callCallback_eq_ok_iff env
      { found with status := .fulfilled, ack := some packet } manager _ ()).mpr ⟨silent, rfl⟩
    have looked : ackLookUp env packet manager = .ok (.fulfilled found)
        (manager.reported { found with status := .fulfilled, ack := some packet }) := by
      unfold ackLookUp
      rw [named]
      dsimp only
      rw [bind_apply, get_apply]
      dsimp only
      rw [search]
      dsimp only
      rw [bind_apply, called]
      rfl
    unfold Steps
    simp only [Threads.step]
    rw [if_pos free, Threads.protocolDoes, looked]
  refine .cons began (.cons rfl (.cons ?_ (.nil _)))
  rw [← second]
  rfl

end Hdcp.Master
