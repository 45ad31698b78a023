import Hdcp.Master.Effects
import Hdcp.Master.Statements
import Hdcp.Master.ThreadSafety

/-!
# Callbacks that send commands

`ack_command` and `cmd_timeout_cb` call a request's callback while they hold `requests_mutex_`, and
`send_command` locks it once its packet is written. A callback that gets a command written therefore
waits for the mutex its own thread holds, forever; in runs in which none does, every callback goes
on to its end without waiting.
-/

namespace Hdcp.Master

open Base

variable {τ κ ι : Type}

/-! ## Callbacks -/

/-- The callback the timer thread is in. -/
def TimerStep.callback : TimerStep κ → Option (Callback κ)
  | expiring callback _ => some callback
  | _ => none

/-- The callback the protocol thread is in. -/
def ProtocolStep.callback : ProtocolStep κ → Option (Callback κ)
  | acking callback => some callback
  | _ => none

/-- The statements left of a call. -/
def SendStep.left : SendStep κ → Nat
  | idle => 0
  | begun _ => 8
  | armed _ _ => 7
  | resetting .tested _ _ => 6
  | resetting .erased _ _ => 5
  | resetting (.added _) _ _ => 4
  | refreshed _ _ => 3
  | numbered _ _ _ => 2
  | written _ _ _ => 1

/-- The statements left of a callback, its end apart. -/
def Callback.left (callback : Callback κ) : Nat :=
  callback.send.left + 9 * callback.calls.length

/-- The call is at its write, its packet can be made and the transport takes it. -/
def SendStep.Writes (env : Environment τ κ) (state : State τ κ) : SendStep κ → Prop
  | numbered packetId id args => ∃ cmd,
      Packet.makeCommand env.raw packetId args.type args.data = .ok cmd ∧
        Accepts env state ⟨cmd, some id⟩
  | _ => False

namespace Crew

/-- The thread holds `requests_mutex_`. -/
def holds (crew : Crew τ κ ι) : Thread ι → Bool
  | .timer => crew.timer.holds
  | .protocol => crew.protocol.holds
  | .user _ => false

/-- The next statement of the thread locks `requests_mutex_`. -/
def locks (crew : Crew τ κ ι) : Thread ι → Bool
  | .timer => crew.timer.locks
  | .protocol => crew.protocol.locks
  | .user user => (crew.users user).locks

/-- The callback a thread is in. -/
def callback (crew : Crew τ κ ι) : Thread ι → Option (Callback κ)
  | .timer => crew.timer.callback
  | .protocol => crew.protocol.callback
  | .user _ => none

/-- No thread tries to lock `requests_mutex_` while it holds it. -/
def Unlocked (crew : Crew τ κ ι) : Prop :=
  ∀ thread, ¬ (crew.holds thread = true ∧ crew.locks thread = true)

end Crew

/-- A thread's next turn. -/
def Thread.turn : Thread ι → Turn τ κ ι
  | .timer => .timer
  | .protocol => .protocol
  | .user other => .user other

/-- A callback that runs can go on, and is closer to its end, or at it, after its next statement. -/
def Crew.Finishing [DecidableEq ι] (program : Program τ κ) (crew : Crew τ κ ι) : Prop :=
  ∀ thread, ∀ callback ∈ crew.callback thread, ∃ next,
    crew.step program thread.turn = some next ∧
      ∀ later ∈ next.callback thread, later.left < callback.left

/-- A turn in which no callback gets a command written: the call of `send_command` it is in is not
at its write, or its packet cannot be made, or the transport refuses it. -/
def Crew.Unsent (program : Program τ κ) (crew : Crew τ κ ι) : Turn τ κ ι → Prop
  | .timer => ∀ callback ∈ crew.timer.callback,
      ¬ callback.send.Writes program.toEnvironment crew.manager
  | .protocol => ∀ callback ∈ crew.protocol.callback,
      ¬ callback.send.Writes program.toEnvironment crew.manager
  | _ => True

/-! ## Statements -/

/-- A statement of a reset leaves less of its call, whatever the call. -/
theorem Reset.left_lt (reset : Reset) (id : Nat) (args : CommandArgs κ) :
    Yields (fun next => match next with
      | some next => (SendStep.resetting next id args).left <
          (SendStep.resetting reset id args).left
      | none => (SendStep.refreshed id args).left < (SendStep.resetting reset id args).left)
      (reset.statement : Action τ κ (Option Reset)) := by
  cases reset with
  | tested => exact .bind fun _ => .bind fun _ => .pure (Nat.lt_succ_self 5)
  | erased => exact .bind fun _ => .pure (Nat.lt_succ_self 4)
  | added id => exact .bind fun _ => .pure (Nat.lt_succ_self 3)

/-- A statement leaves less of a call. -/
theorem SendStep.left_lt (env : Environment τ κ) (send : SendStep κ) (called : send.ended = false) :
    Yields (fun next => next.left < send.left) (send.statement env) := by
  cases send with
  | idle => contradiction
  | begun args => exact .bind fun _ => .pure (Nat.lt_succ_self 7)
  | armed id args =>
    refine .bind fun state => ?_
    split
    · exact .pure (Nat.lt_succ_self 6)
    · exact .pure (by decide : 3 < 7)
  | resetting reset id args =>
    intro state value final returned
    obtain ⟨next, middle, resets, ends⟩ := (bind_eq_ok_iff _ _ _ _ _).mp returned
    have less := reset.left_lt id args state next middle resets
    cases next with
    | some next =>
      cases ends
      exact less
    | none =>
      cases ends
      exact less
  | refreshed id args => exact .bind fun _ => .pure (Nat.lt_succ_self 2)
  | numbered packetId id args => exact .bind fun _ => .bind fun _ => .pure (Nat.lt_succ_self 1)
  | written cmd id cb => exact .bind fun _ => .pure Nat.zero_lt_one

/-- A statement of a call leads to the lock exactly when it gets the command written. -/
theorem SendStep.locks_iff (env : Environment τ κ) (send next : SendStep κ)
    (state final : State τ κ) (returned : send.statement env state = .ok next final) :
    next.locks = true ↔ send.Writes env state := by
  have unlocked (yields : Yields (fun next => next.locks = false) (send.statement env))
      (silent : ¬ send.Writes env state) : next.locks = true ↔ send.Writes env state := by
    rw [yields state next final returned]
    exact ⟨nofun, fun writes => absurd writes silent⟩
  cases send with
  | numbered packetId id args =>
    obtain ⟨cmd, middle, makes, rest⟩ := (bind_eq_ok_iff _ _ _ _ _).mp returned
    obtain ⟨value, last, writes, ends⟩ := (bind_eq_ok_iff _ _ _ _ _).mp rest
    obtain ⟨made, rfl⟩ := (made_eq_ok_iff _ _ _ _).mp makes
    obtain ⟨accepts, -⟩ := (write_eq_ok_iff _ _ _ _ _).mp writes
    cases ends
    exact ⟨fun _ => ⟨cmd, made, accepts⟩, fun _ => rfl⟩
  | idle => exact unlocked (.pure rfl) nofun
  | begun args => exact unlocked (.bind fun _ => .pure rfl) nofun
  | armed id args =>
    refine unlocked (.bind fun state => ?_) nofun
    split
    · exact .pure rfl
    · exact .pure rfl
  | resetting reset id args =>
    refine unlocked (.bind fun next => ?_) nofun
    split
    · exact .pure rfl
    · exact .pure rfl
  | refreshed id args => exact unlocked (.bind fun _ => .pure rfl) nofun
  | written cmd id cb => exact unlocked (.bind fun _ => .pure rfl) nofun

/-- A call whose write the transport takes returns from it. -/
theorem SendStep.Writes.returns {env : Environment τ κ} {send : SendStep κ} {state : State τ κ}
    (writes : send.Writes env state) :
    ∃ next final, send.statement env state = .ok next final := by
  cases send with
  | numbered packetId id args =>
    obtain ⟨cmd, makes, accepts⟩ := writes
    refine ⟨.written cmd id args.cb, state.sent env ⟨cmd, some id⟩, ?_⟩
    refine (bind_eq_ok_iff _ _ _ _ _).mpr
      ⟨cmd, state, (made_eq_ok_iff _ _ _ _).mpr ⟨makes, rfl⟩, ?_⟩
    exact (bind_eq_ok_iff _ _ _ _ _).mpr
      ⟨(), _, (write_eq_ok_iff _ _ _ _ _).mpr ⟨accepts, rfl⟩, rfl⟩
  | _ => contradiction

/-- Inside a call the callback goes on with the call. -/
theorem Callback.statement_call (program : Program τ κ) (callback : Callback κ)
    (called : callback.send.ended = false) :
    callback.statement program = (do
      let next ← callback.send.statement program.toEnvironment
      return some { callback with send := next }) := by
  obtain ⟨request, calls, send⟩ := callback
  cases send with
  | idle => contradiction
  | _ => rfl

/-- A callback goes on to a lock exactly when the call it is in gets its command written. -/
theorem Callback.locks_iff (program : Program τ κ) (callback next : Callback κ)
    (state final : State τ κ)
    (returned : callback.statement program state = .ok (some next) final) :
    next.send.locks = true ↔ callback.send.Writes program.toEnvironment state := by
  by_cases called : callback.send.ended = true
  · obtain ⟨request, calls, send⟩ := callback
    cases send with
    | idle =>
      refine ⟨fun locks => ?_, nofun⟩
      cases calls with
      | nil =>
        unfold statement at returned
        dsimp only at returned
        cases raised : program.invoke request.cb request with
        | some error =>
          rw [raised] at returned
          contradiction
        | none =>
          rw [raised] at returned
          cases returned
      | cons args calls =>
        cases returned
        contradiction
    | _ => contradiction
  · rw [callback.statement_call program (Bool.eq_false_iff.mpr called)] at returned
    obtain ⟨send, middle, sends, ends⟩ := (bind_eq_ok_iff _ _ _ _ _).mp returned
    cases ends
    exact callback.send.locks_iff program.toEnvironment send state final sends

/-- A statement brings a callback closer to its end. -/
theorem Callback.left_lt (program : Program τ κ) (callback : Callback κ) :
    Yields (fun next => ∀ later ∈ next, later.left < callback.left)
      (callback.statement program) := by
  by_cases called : callback.send.ended = true
  · obtain ⟨request, calls, send⟩ := callback
    cases send with
    | idle =>
      cases calls with
      | nil =>
        unfold statement
        dsimp only
        split
        · exact .throw _
        · exact .pure nofun
      | cons args calls =>
        refine .pure fun later held => ?_
        obtain rfl := Option.some.inj held
        simp only [left, SendStep.left, List.length_cons]
        omega
    | _ => contradiction
  · have inside := Bool.eq_false_iff.mpr called
    rw [callback.statement_call program inside]
    intro state value final returned
    obtain ⟨send, middle, sends, ends⟩ := (bind_eq_ok_iff _ _ _ _ _).mp returned
    have less := callback.send.left_lt program.toEnvironment inside state send middle sends
    cases ends
    intro later held
    obtain rfl := Option.some.inj held
    exact Nat.add_lt_add_right less _

/-- A callback that gets its command written goes on to the lock. -/
theorem Callback.statement_writes (program : Program τ κ) (callback : Callback κ)
    (state : State τ κ) (writes : callback.send.Writes program.toEnvironment state) :
    ∃ next final, callback.statement program state = .ok (some next) final ∧
      next.send.locks = true := by
  have called : callback.send.ended = false := by
    cases send : callback.send with
    | numbered packetId id args => rfl
    | _ =>
      rw [send] at writes
      contradiction
  obtain ⟨send, final, returned⟩ := writes.returns
  have goes :
      callback.statement program state = .ok (some { callback with send := send }) final := by
    rw [callback.statement_call program called]
    exact (bind_eq_ok_iff _ _ _ _ _).mpr ⟨send, final, returned, rfl⟩
  exact ⟨_, final, goes, (callback.locks_iff program _ _ _ goes).mpr writes⟩

/-- A thread that goes on with a callback is at a lock inside it exactly when the callback got a
command written. -/
theorem Callback.relocks_iff {α : Type} (program : Program τ κ) (callback : Callback κ)
    {inside : α → Option (Callback κ)} {goes : Option (Callback κ) → α}
    (same : ∀ next, inside (goes next) = next) (state : State τ κ) :
    (∃ place final, (do return goes (← callback.statement program) : Action τ κ α) state =
        .ok place final ∧ ∃ later ∈ inside place, later.send.locks = true) ↔
      callback.send.Writes program.toEnvironment state := by
  constructor
  · intro found
    obtain ⟨place, final, returned, later, held, locks⟩ := found
    obtain ⟨next, middle, passes, ends⟩ := (bind_eq_ok_iff _ _ _ _ _).mp returned
    cases ends
    rw [same] at held
    cases next with
    | none => contradiction
    | some next =>
      obtain rfl := Option.some.inj held
      exact (callback.locks_iff program _ _ _ passes).mp locks
  · intro writes
    obtain ⟨next, final, passes, locks⟩ := callback.statement_writes program state writes
    refine ⟨goes (some next), final, (bind_eq_ok_iff _ _ _ _ _).mpr ⟨some next, final, passes, rfl⟩,
      next, ?_, locks⟩
    rw [same]
    rfl

/-- Where there is no callback, none is at a lock. -/
theorem unlocked_none : ∀ later ∈ (none : Option (Callback κ)), later.send.locks = false := nofun

/-- Outside callbacks a statement of the timer thread leads to no lock inside one. -/
theorem TimerStep.yields_unlocked (program : Program τ κ) (timer : TimerStep κ)
    (outside : timer.callback = none) :
    Yields (fun next => ∀ later ∈ next.callback, later.send.locks = false)
      (timer.statement program) := by
  cases timer with
  | expiring callback batch => contradiction
  | idle | escaped error => exact .pure unlocked_none
  | calling batch =>
    cases batch with
    | nil => exact .pure unlocked_none
    | cons timer batch =>
      obtain ⟨id, expiration, repeatInterval, bound⟩ := timer
      cases bound with
      | cmdTimeoutCb =>
        refine .bind fun state => ?_
        split
        · exact .throw _
        · split
          · exact .bind fun _ => .pure unlocked_none
          · intro state next final returned
            cases returned
            intro later held
            obtain rfl := Option.some.inj held
            rfl
      | dipTimeoutCb => exact .bind fun _ => .pure unlocked_none
      | kaTimeoutCb => exact .bind fun _ => .pure unlocked_none
      | kaMngtTimeoutCb =>
        refine .bind fun state => ?_
        split
        · exact .pure unlocked_none
        · exact .pure unlocked_none
  | retryTest request batch =>
    refine .bind fun state => ?_
    split
    · exact .pure unlocked_none
    · exact .pure unlocked_none
  | retryReset batch =>
    refine .bind fun state => ?_
    split
    · exact .pure unlocked_none
    · exact .pure unlocked_none
  | resetting reset batch =>
    refine .bind fun next => ?_
    split
    · exact .pure unlocked_none
    · exact .pure unlocked_none
  | keepaliveWrite packetId batch => exact .bind fun _ => .bind fun _ => .pure unlocked_none
  | keepaliveArm batch => exact .bind fun _ => .bind fun _ => .pure unlocked_none
  | _ => exact .bind fun _ => .pure unlocked_none

/-- Outside callbacks a statement of the protocol thread leads to no lock inside one. -/
theorem ProtocolStep.yields_unlocked (program : Program τ κ) (protocol : ProtocolStep κ)
    (outside : protocol.callback = none) :
    Yields (fun next => ∀ later ∈ next.callback, later.send.locks = false)
      (protocol.statement program) := by
  cases protocol with
  | acking callback => contradiction
  | idle | joining => exact .pure unlocked_none
  | finding id packet =>
    refine .bind fun state => ?_
    split
    · exact .throw _
    · intro state next final returned
      cases returned
      intro later held
      obtain rfl := Option.some.inj held
      rfl
  | acknowledging ids =>
    cases ids with
    | nil => exact .bind fun _ => .pure unlocked_none
    | cons id ids => exact .bind fun _ => .pure unlocked_none
  | kaTest timeout =>
    refine .bind fun state => ?_
    split
    · exact .pure unlocked_none
    · exact .pure unlocked_none
  | hipWrite packetId identification timeout =>
    exact .bind fun _ => .bind fun _ => .pure unlocked_none
  | kaWrite packetId timeout => exact .bind fun _ => .bind fun _ => .pure unlocked_none
  | kaAwait timeout => exact .bind fun _ => .bind fun _ => .bind fun _ => .pure unlocked_none
  | stopErase => exact .bind fun _ => .bind fun _ => .pure unlocked_none
  | _ => exact .bind fun _ => .pure unlocked_none

/-- The begin of an operation leads into no callback. -/
theorem Operation.yields_unlocked (env : Environment τ κ) (operation : Operation) :
    Yields (fun next : ProtocolStep κ => ∀ later ∈ next.callback, later.send.locks = false)
      (operation.statement env) := by
  cases operation with
  | start =>
    refine .bind fun state => ?_
    split
    · exact .pure unlocked_none
    · exact .pure unlocked_none
  | stop =>
    refine .bind fun state => ?_
    split
    · exact .bind fun _ => .pure unlocked_none
    · exact .pure unlocked_none
  | sendHip identification timeout =>
    refine .bind fun state => ?_
    split
    · exact .pure unlocked_none
    · exact .pure unlocked_none
  | startKeepaliveManagement interval timeout => exact .bind fun _ => .pure unlocked_none
  | stopKeepaliveManagement => exact .bind fun _ => .pure unlocked_none
  | ackCommand packet =>
    unfold statement
    dsimp only
    split
    · exact .throw _
    · exact .pure unlocked_none
  | ackKeepalive => exact .bind fun _ => .pure unlocked_none
  | ackDip => exact .bind fun _ => .bind fun _ => .pure unlocked_none

/-! ## The threads -/

variable {program : Program τ κ} {crew next : Crew τ κ ι}

/-- A timer thread that holds the mutex locks it inside a callback, if at all. -/
theorem TimerStep.relocks_iff (timer : TimerStep κ) :
    timer.holds = true ∧ timer.locks = true ↔
      ∃ callback ∈ timer.callback, callback.send.locks = true := by
  constructor
  · intro both
    cases timer with
    | expiring callback batch => exact ⟨callback, rfl, both.2⟩
    | calling batch => exact absurd both.1 Bool.false_ne_true
    | _ => exact absurd both.2 Bool.false_ne_true
  · intro found
    obtain ⟨callback, held, locks⟩ := found
    cases timer with
    | expiring inside batch =>
      obtain rfl := Option.some.inj held
      exact ⟨rfl, locks⟩
    | _ => contradiction

/-- So does the protocol thread. -/
theorem ProtocolStep.relocks_iff (protocol : ProtocolStep κ) :
    protocol.holds = true ∧ protocol.locks = true ↔
      ∃ callback ∈ protocol.callback, callback.send.locks = true := by
  constructor
  · intro both
    cases protocol with
    | acking callback => exact ⟨callback, rfl, both.2⟩
    | finding id packet | startRequests => exact absurd both.1 Bool.false_ne_true
    | _ => exact absurd both.2 Bool.false_ne_true
  · intro found
    obtain ⟨callback, held, locks⟩ := found
    cases protocol with
    | acking inside =>
      obtain rfl := Option.some.inj held
      exact ⟨rfl, locks⟩
    | _ => contradiction

/-- A callback is at a lock. -/
def AtLock (callback : Option (Callback κ)) : Prop := ∃ inside ∈ callback, inside.send.locks = true

/-- No thread waits for itself exactly when no callback is at a lock. -/
theorem Crew.unlocked_iff (crew : Crew τ κ ι) :
    crew.Unlocked ↔ ¬ AtLock crew.timer.callback ∧ ¬ AtLock crew.protocol.callback := by
  constructor
  · intro unlocked
    constructor
    · exact fun found => unlocked .timer (crew.timer.relocks_iff.mpr found)
    · exact fun found => unlocked .protocol (crew.protocol.relocks_iff.mpr found)
  · intro free thread both
    cases thread with
    | timer => exact free.1 (crew.timer.relocks_iff.mp both)
    | protocol => exact free.2 (crew.protocol.relocks_iff.mp both)
    | user user => exact absurd both.1 Bool.false_ne_true

/-- Where the timer thread goes from a callback. -/
def TimerStep.goes (request : Request κ) (batch : List (Timer TimerCallback)) :
    Option (Callback κ) → TimerStep κ
  | some next => expiring next batch
  | none => expired request batch

/-- Where the protocol thread goes from a callback. -/
def ProtocolStep.goes (request : Request κ) : Option (Callback κ) → ProtocolStep κ
  | some next => acking next
  | none => fulfilled request

/-- The timer thread in a callback. -/
theorem TimerStep.statement_expiring (program : Program τ κ) (callback : Callback κ)
    (batch : List (Timer TimerCallback)) :
    (expiring callback batch).statement program = (do
      return goes callback.request batch (← callback.statement program)) := by
  change (callback.statement program >>= fun next => match next with
    | some next => pure (expiring next batch)
    | none => pure (expired callback.request batch)) = _
  congr 1
  funext next
  cases next <;> rfl

/-- The protocol thread in a callback. -/
theorem ProtocolStep.statement_acking (program : Program τ κ) (callback : Callback κ) :
    (acking callback).statement program = (do
      return goes callback.request (← callback.statement program)) := by
  change (callback.statement program >>= fun next => match next with
    | some next => pure (acking next)
    | none => pure (fulfilled callback.request)) = _
  congr 1
  funext next
  cases next <;> rfl

/-- Outside callbacks a statement leads to no lock inside one, and no callback writes. -/
theorem locks_iff_of_yields {α : Type} {program : Program τ κ} {statement : Action τ κ α}
    {inside : α → Option (Callback κ)} {before : Option (Callback κ)} (outside : before = none)
    (yields : Yields (fun next => ∀ later ∈ inside next, later.send.locks = false) statement)
    (state : State τ κ) :
    (∃ place final, statement state = .ok place final ∧
        ∃ later ∈ inside place, later.send.locks = true) ↔
      ∃ callback ∈ before, callback.send.Writes program.toEnvironment state := by
  constructor
  · intro found
    obtain ⟨place, final, returned, later, held, locks⟩ := found
    rw [yields state place final returned later held] at locks
    contradiction
  · intro found
    obtain ⟨callback, held, -⟩ := found
    rw [outside] at held
    contradiction

/-- A statement of the timer thread returns at a lock inside a callback exactly when the callback
got a command written. -/
theorem TimerStep.statement_locks_iff (program : Program τ κ) (timer : TimerStep κ)
    (state : State τ κ) :
    (∃ place final, timer.statement program state = .ok place final ∧
        ∃ later ∈ place.callback, later.send.locks = true) ↔
      ∃ callback ∈ timer.callback, callback.send.Writes program.toEnvironment state := by
  by_cases outside : timer.callback = none
  · exact locks_iff_of_yields outside (timer.yields_unlocked program outside) state
  · cases timer with
    | expiring callback batch =>
      rw [statement_expiring,
        callback.relocks_iff program (fun next => by cases next <;> rfl) state]
      constructor
      · exact fun writes => ⟨callback, rfl, writes⟩
      · intro found
        obtain ⟨inside, held, writes⟩ := found
        obtain rfl := Option.some.inj held
        exact writes
    | _ => exact absurd rfl outside

/-- So does a statement of the protocol thread. -/
theorem ProtocolStep.statement_locks_iff (program : Program τ κ) (protocol : ProtocolStep κ)
    (state : State τ κ) :
    (∃ place final, protocol.statement program state = .ok place final ∧
        ∃ later ∈ place.callback, later.send.locks = true) ↔
      ∃ callback ∈ protocol.callback, callback.send.Writes program.toEnvironment state := by
  by_cases outside : protocol.callback = none
  · exact locks_iff_of_yields outside (protocol.yields_unlocked program outside) state
  · cases protocol with
    | acking callback =>
      rw [statement_acking, callback.relocks_iff program (fun next => by cases next <;> rfl) state]
      constructor
      · exact fun writes => ⟨callback, rfl, writes⟩
      · intro found
        obtain ⟨inside, held, writes⟩ := found
        obtain rfl := Option.some.inj held
        exact writes
    | _ => exact absurd rfl outside

/-! ## The turns -/

/-- After a statement of the timer thread its callback is at a lock exactly when it got a command
written. -/
theorem timerDoes_locks_iff (program : Program τ κ) (crew : Crew τ κ ι) :
    AtLock (crew.timerDoes (crew.timer.statement program)).timer.callback ↔
      ∃ callback ∈ crew.timer.callback,
        callback.send.Writes program.toEnvironment crew.manager := by
  rw [← crew.timer.statement_locks_iff program crew.manager]
  unfold Crew.timerDoes
  cases outcome : crew.timer.statement program crew.manager with
  | ok timer manager =>
    constructor
    · exact fun found => ⟨timer, manager, rfl, found⟩
    · intro found
      obtain ⟨place, final, same, locks⟩ := found
      cases same
      exact locks
  | error error manager =>
    constructor
    · intro found
      obtain ⟨later, absurdity, -⟩ := found
      cases absurdity
    · intro found
      obtain ⟨place, final, absurdity, -⟩ := found
      cases absurdity

/-- After a statement of the protocol thread its callback is at a lock exactly when it got a command
written. -/
theorem protocolDoes_locks_iff (program : Program τ κ) (crew : Crew τ κ ι) :
    AtLock (crew.protocolDoes (crew.protocol.statement program)).protocol.callback ↔
      ∃ callback ∈ crew.protocol.callback,
        callback.send.Writes program.toEnvironment crew.manager := by
  rw [← crew.protocol.statement_locks_iff program crew.manager]
  unfold Crew.protocolDoes
  cases outcome : crew.protocol.statement program crew.manager with
  | ok protocol manager =>
    constructor
    · exact fun found => ⟨protocol, manager, rfl, found⟩
    · intro found
      obtain ⟨place, final, same, locks⟩ := found
      cases same
      exact locks
  | error error manager =>
    constructor
    · intro found
      obtain ⟨later, absurdity, -⟩ := found
      cases absurdity
    · intro found
      obtain ⟨place, final, absurdity, -⟩ := found
      cases absurdity

/-- A thread's statement leaves the places of the other threads. -/
theorem protocol_timerDoes (crew : Crew τ κ ι) (statement : Action τ κ (TimerStep κ)) :
    (crew.timerDoes statement).protocol = crew.protocol := by
  unfold Crew.timerDoes
  split <;> rfl

theorem timer_protocolDoes (crew : Crew τ κ ι) (statement : Action τ κ (ProtocolStep κ)) :
    (crew.protocolDoes statement).timer = crew.timer := by
  unfold Crew.protocolDoes
  split <;> rfl

theorem places_userDoes [DecidableEq ι] (crew : Crew τ κ ι) (user : ι)
    (statement : Action τ κ (SendStep κ)) :
    (crew.userDoes user statement).timer = crew.timer ∧
      (crew.userDoes user statement).protocol = crew.protocol := by
  unfold Crew.userDoes
  split <;> exact ⟨rfl, rfl⟩

/-- The callback the timer thread is in after a statement is one the statement yields. -/
theorem callback_timerDoes {holds : Callback κ → Prop} {statement : Action τ κ (TimerStep κ)}
    (crew : Crew τ κ ι)
    (yields : Yields (fun place => ∀ later ∈ place.callback, holds later) statement) :
    ∀ later ∈ (crew.timerDoes statement).timer.callback, holds later := by
  unfold Crew.timerDoes
  cases outcome : statement crew.manager with
  | ok timer manager => exact yields crew.manager timer manager outcome
  | error error manager => exact nofun

/-- So is that of the protocol thread. -/
theorem callback_protocolDoes {holds : Callback κ → Prop}
    {statement : Action τ κ (ProtocolStep κ)} (crew : Crew τ κ ι)
    (yields : Yields (fun place => ∀ later ∈ place.callback, holds later) statement) :
    ∀ later ∈ (crew.protocolDoes statement).protocol.callback, holds later := by
  unfold Crew.protocolDoes
  cases outcome : statement crew.manager with
  | ok protocol manager => exact yields crew.manager protocol manager outcome
  | error error manager => exact nofun

/-- The begin of an operation leads to no lock inside a callback. -/
theorem operate_unlocked (program : Program τ κ) (crew : Crew τ κ ι) (operation : Operation) :
    ¬ AtLock (crew.protocolDoes (operation.statement program.toEnvironment)).protocol.callback := by
  intro found
  obtain ⟨later, held, locks⟩ := found
  rw [callback_protocolDoes crew (operation.yields_unlocked _) later held] at locks
  contradiction

/-- What a turn of a crew does, thread by thread. -/
theorem unlocked_step_iff [DecidableEq ι] (unlocked : crew.Unlocked) (turn : Turn τ κ ι)
    (taken : crew.step program turn = some next) :
    next.Unlocked ↔ crew.Unsent program turn := by
  obtain ⟨timer, protocol⟩ := crew.unlocked_iff.mp unlocked
  have stays (sameTimer : next.timer = crew.timer) (sameProtocol : next.protocol = crew.protocol) :
      next.Unlocked := by
    rw [Crew.unlocked_iff, sameTimer, sameProtocol]
    exact ⟨timer, protocol⟩
  cases turn with
  | operate operation =>
    unfold Crew.step at taken
    dsimp only at taken
    split at taken
    · cases taken
      rw [Crew.unlocked_iff, timer_protocolDoes]
      exact ⟨fun _ => trivial, fun _ => ⟨timer, operate_unlocked program crew operation⟩⟩
    · contradiction
  | protocol =>
    unfold Crew.step at taken
    dsimp only at taken
    split at taken
    · cases taken
      rw [Crew.unlocked_iff, timer_protocolDoes, protocolDoes_locks_iff]
      constructor
      · exact fun free callback held writes => free.2 ⟨callback, held, writes⟩
      · exact fun unsent => ⟨timer, fun ⟨callback, held, writes⟩ => unsent callback held writes⟩
    · contradiction
  | timer =>
    unfold Crew.step at taken
    dsimp only at taken
    split at taken
    · cases taken
      rw [Crew.unlocked_iff, protocol_timerDoes, timerDoes_locks_iff]
      constructor
      · exact fun free callback held writes => free.1 ⟨callback, held, writes⟩
      · exact fun unsent => ⟨fun ⟨callback, held, writes⟩ => unsent callback held writes, protocol⟩
    · contradiction
  | take batch =>
    unfold Crew.step at taken
    dsimp only at taken
    split at taken
    · split at taken
      · cases taken
        rw [Crew.unlocked_iff, protocol_timerDoes]
        exact ⟨fun _ => trivial, fun _ => ⟨nofun, protocol⟩⟩
      · contradiction
    · contradiction
  | call user args =>
    unfold Crew.step at taken
    dsimp only at taken
    split at taken
    · cases taken
      exact ⟨fun _ => trivial, fun _ => stays rfl rfl⟩
    · contradiction
  | user user =>
    unfold Crew.step at taken
    dsimp only at taken
    split at taken
    · cases taken
      have places := places_userDoes crew user
        ((crew.users user).statement program.toEnvironment)
      exact ⟨fun _ => trivial, fun _ => stays places.1 places.2⟩
    · contradiction
  | transport transport =>
    cases taken
    exact ⟨fun _ => trivial, fun _ => unlocked⟩

/-- A thread goes on from a callback to less of it. -/
theorem Callback.goes_less {α : Type} (program : Program τ κ) (callback : Callback κ)
    {inside : α → Option (Callback κ)} {goes : Option (Callback κ) → α}
    (same : ∀ next, inside (goes next) = next) :
    Yields (fun place => ∀ later ∈ inside place, later.left < callback.left)
      (do return goes (← callback.statement program) : Action τ κ α) := by
  intro state place final returned
  obtain ⟨next, middle, passes, ends⟩ := (bind_eq_ok_iff _ _ _ _ _).mp returned
  have less := callback.left_lt program state next middle passes
  cases ends
  rw [same]
  exact less

/-- Where no thread waits for itself, every callback that runs goes on. -/
theorem finishing_of_unlocked [DecidableEq ι] (program : Program τ κ) (unlocked : crew.Unlocked) :
    crew.Finishing program := by
  obtain ⟨timerFree, protocolFree⟩ := crew.unlocked_iff.mp unlocked
  have free {callback : Callback κ} (none : ¬ AtLock (some callback)) :
      callback.send.locks = false := by
    rw [← Bool.not_eq_true]
    exact fun locks => none ⟨callback, rfl, locks⟩
  obtain ⟨manager, timer, protocol, users⟩ := crew
  intro thread callback held
  cases thread with
  | timer =>
    cases timer with
    | expiring inside batch =>
      obtain rfl := Option.some.inj held
      have ready : Crew.timerReady ⟨manager, .expiring inside batch, protocol, users⟩ = true := by
        change (!inside.send.locks || _) = true
        rw [free timerFree]
        rfl
      refine ⟨_, if_pos ready, callback_timerDoes _ ?_⟩
      rw [TimerStep.statement_expiring]
      exact inside.goes_less program fun next => by cases next <;> rfl
    | _ => contradiction
  | protocol =>
    cases protocol with
    | acking inside =>
      obtain rfl := Option.some.inj held
      have ready : Crew.protocolReady ⟨manager, timer, .acking inside, users⟩ = true := by
        change (!inside.send.locks || _) = true
        rw [free protocolFree]
        rfl
      refine ⟨_, if_pos ready, callback_protocolDoes _ ?_⟩
      rw [ProtocolStep.statement_acking]
      exact inside.goes_less program fun next => by cases next <;> rfl
    | _ => contradiction
  | user user => contradiction

/-! ## Runs -/

/-- In a run from a manager as constructed, with callbacks that send commands, no thread ever tries
to lock `requests_mutex_` while it holds it and every callback goes on to its end, exactly when no
callback gets a command written. -/
theorem callbacks_finish_iff [DecidableEq ι] (program : Program τ κ) (transport : τ)
    (turns : List (Turn τ κ ι)) (finish : Crew τ κ ι)
    (run : Run (Steps (Crew.step program)) (Crew.initial transport) turns finish) :
    (∀ front back middle, turns = front ++ back →
      Run (Steps (Crew.step program)) (Crew.initial transport) front middle →
        middle.Unlocked ∧ middle.Finishing program) ↔
      Run (Guarded (Crew.Unsent program) (Steps (Crew.step program))) (Crew.initial transport)
        turns finish := by
  have initial : (Crew.initial transport : Crew τ κ ι).Unlocked := by
    rw [Crew.unlocked_iff]
    exact ⟨nofun, nofun⟩
  refine Run.throughout_iff (fun crew unlocked => ?_)
    (fun crew turn next unlocked unsent taken => ?_)
    (fun crew turn next unlocked sends taken => ?_) run initial
  · exact ⟨unlocked, finishing_of_unlocked program unlocked⟩
  · exact (unlocked_step_iff unlocked turn taken).mpr unsent
  · exact fun safe => sends ((unlocked_step_iff unlocked turn taken).mp safe.1)

instance (env : Environment τ κ) (state : State τ κ) (message : Message) :
    Decidable (Accepts env state message) :=
  inferInstanceAs (Decidable (_ → _ = none))

instance (env : Environment τ κ) (state : State τ κ) (send : SendStep κ) :
    Decidable (send.Writes env state) :=
  match send with
  | .numbered packetId id args =>
    match makes : Packet.makeCommand env.raw packetId args.type args.data with
    | .ok cmd => decidable_of_iff (Accepts env state ⟨cmd, some id⟩)
        ⟨fun accepts => ⟨cmd, makes, accepts⟩, fun ⟨other, same, accepts⟩ => by
          rw [makes] at same
          cases same
          exact accepts⟩
    | .error error => .isFalse fun ⟨cmd, same, accepts⟩ => by
        rw [makes] at same
        contradiction
  | .idle | .begun _ | .armed _ _ | .resetting _ _ _ | .refreshed _ _ | .written _ _ _ =>
    .isFalse id

instance (callback : Option (Callback κ)) (holds : Callback κ → Prop) [DecidablePred holds] :
    Decidable (∀ inside ∈ callback, holds inside) :=
  match callback with
  | none => .isTrue nofun
  | some inside => decidable_of_iff (holds inside)
      ⟨fun fine other same => by
        obtain rfl := Option.some.inj same
        exact fine, fun every => every inside rfl⟩

instance (program : Program τ κ) (crew : Crew τ κ ι) (turn : Turn τ κ ι) :
    Decidable (crew.Unsent program turn) :=
  match turn with
  | .timer => inferInstanceAs (Decidable (∀ callback ∈ crew.timer.callback, ¬ _))
  | .protocol => inferInstanceAs (Decidable (∀ callback ∈ crew.protocol.callback, ¬ _))
  | .operate _ | .take _ | .call _ _ | .user _ | .transport _ => .isTrue trivial

/-- A manager in which every callback sends the next command, of one byte. -/
def chainProgram : Program Bool Unit where
  toEnvironment := doorEnvironment
  calls := fun _ _ => [⟨1, [0], (), commandTimeout⟩]

/-- A user sends a command, its ack is processed and its callback begins to send the next one. -/
def acknowledged : List (Turn Bool Unit Unit) :=
  .call () ⟨1, [0], (), commandTimeout⟩ :: List.replicate 5 (.user ()) ++
    .operate (.ackCommand ((Packet.makeCmdAck .cleared 1 1 1).toOption.getD .cleared)) ::
      List.replicate 5 .protocol

/-- The transport closes before the callback's command is written, and the callback ends. -/
theorem callbacks_finish_closed :
    ∃ crew : Crew Bool Unit Unit,
      Run (Guarded (Crew.Unsent chainProgram) (Steps (Crew.step chainProgram)))
        (Crew.initial true) (acknowledged ++ [.transport false, .protocol]) crew ∧
      crew.Unlocked ∧ crew.protocol.callback.isNone = true := by
  have executed : ((execute (fun crew turn =>
      if crew.Unsent chainProgram turn then Crew.step chainProgram crew turn else none)
      (Crew.initial true : Crew Bool Unit Unit) (acknowledged ++ [.transport false, .protocol])).any
        fun crew => crew.protocol.callback.isNone) = true := by
    decide +kernel
  obtain ⟨crew, reached, ended⟩ := (Option.any_eq_true _ _).mp executed
  have guarded := run_of_execute_guarded (Crew.Unsent chainProgram) (Crew.step chainProgram) _ _ _
    reached
  have run := guarded.unguarded
  have safe := (callbacks_finish_iff chainProgram true _ crew run).mpr guarded _ [] crew
    (List.append_nil _).symm run
  exact ⟨crew, guarded, safe.1, ended⟩

/-- The callback's command is written: the protocol thread, which holds `requests_mutex_`, locks it
again, and the callback never ends. -/
theorem callback_relocks :
    ∃ crew : Crew Bool Unit Unit,
      Run (Steps (Crew.step chainProgram)) (Crew.initial true) (acknowledged ++ [.protocol]) crew ∧
        ¬ crew.Unlocked ∧ crew.step chainProgram .protocol = none := by
  have executed : ((execute (Crew.step chainProgram) (Crew.initial true : Crew Bool Unit Unit)
      (acknowledged ++ [.protocol])).any fun crew => crew.holds .protocol && crew.locks .protocol &&
        (crew.step chainProgram .protocol).isNone) = true := by
    decide +kernel
  obtain ⟨crew, reached, ended⟩ := (Option.any_eq_true _ _).mp executed
  rw [Bool.and_eq_true, Bool.and_eq_true] at ended
  obtain ⟨⟨holds, locks⟩, stuck⟩ := ended
  exact ⟨crew, (execute_eq_some_iff _ _ _ _).mp reached,
    fun unlocked => unlocked .protocol ⟨holds, locks⟩, Option.isNone_iff_eq_none.mp stuck⟩

end Hdcp.Master
