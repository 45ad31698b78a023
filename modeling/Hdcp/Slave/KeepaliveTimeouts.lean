import Hdcp.Base.Runs
import Hdcp.Slave.DataBatches

/-!
# Keepalive timeouts of the slave

One timer watches over the keepalives of the master. It is armed when they come to be managed, and
each keepalive erases it and arms another; the identifier kept is that of the last one, which may
have expired by then. So at most one timer is armed, and it expires thirty ticks after the last
keepalive.
-/

namespace Hdcp.Slave

open Base

variable {τ : Type}

/-! ## Runs -/

/-- What may happen to a manager. -/
inductive Event (τ : Type) where
  | start
  | stop
  | sendCmdAck (packet : Packet)
  | sendData (blocks : List BlockView)
  | sendDataOfBlocks (blocks : List Block)
  | sendDip (identification : Identification)
  | startKeepaliveManagement (keepaliveTimeout : Nat)
  | stopKeepaliveManagement
  | keepalive
  /-- A tick of `run()`, with the order in which the expired timers are called. -/
  | runOnce (batch : List (Timer TimerCallback))
  /-- The transport changes on its own: it opens, closes or sends what it was given. -/
  | transport (state : τ)

/-- The operation an event performs. -/
def perform (env : Environment τ) : Event τ → Action τ Unit
  | .start => start
  | .stop => stop
  | .sendCmdAck packet => sendCmdAck env packet
  | .sendData blocks => sendData env blocks
  | .sendDataOfBlocks blocks => sendDataOfBlocks env blocks
  | .sendDip identification => sendDip env identification
  | .startKeepaliveManagement timeout => startKeepaliveManagement timeout
  | .stopKeepaliveManagement => stopKeepaliveManagement
  | .keepalive => keepalive env
  | .runOnce batch => runOnce env batch
  | .transport transport => modify fun state => { state with transport := transport }

/-- When an event can happen: a tick needs the timer thread, and calls what expired. -/
def Enabled (state : State τ) : Event τ → Prop
  | .runOnce batch =>
    state.running = true ∧ batch.Perm (state.timeoutQueue.expired state.now)
  | _ => True

/-- A step of the manager, whether the operation returns or throws. -/
def Step (env : Environment τ) (state : State τ) (event : Event τ) (next : State τ) : Prop :=
  Enabled state event ∧ after (perform env event state) = next

instance (state : State τ) : (event : Event τ) → Decidable (Enabled state event)
  | .runOnce _ => inferInstanceAs (Decidable (_ ∧ _))
  | .start | .stop | .sendCmdAck _ | .sendData _ | .sendDataOfBlocks _ | .sendDip _
  | .startKeepaliveManagement _ | .stopKeepaliveManagement | .keepalive | .transport _ =>
    .isTrue trivial

/-- A step as a function, of operations that return. -/
def State.next (env : Environment τ) (state : State τ) (event : Event τ) : Option (State τ) :=
  returning (Enabled state event) (perform env event) state

/-- The function computes the operations that can happen and return. -/
theorem State.next_eq_some_iff (env : Environment τ) (state next : State τ) (event : Event τ) :
    state.next env event = some next ↔
      Enabled state event ∧ perform env event state = .ok () next :=
  returning_eq_some_iff _ _ _ _

/-- An operation of one session that returns: it starts neither the manager nor the management of
keepalives, and does not end the latter. -/
def Proceeds (env : Environment τ) (state : State τ) (event : Event τ) : Prop :=
  (∃ next, perform env event state = .ok () next) ∧
    match event with
    | .start => state.running = true
    | .startKeepaliveManagement _ => False
    | .stopKeepaliveManagement => False
    | _ => True

/-- The event is a tick. -/
def isTick : Event τ → Bool
  | .runOnce _ => true
  | _ => false

/-- The ticks among events. -/
def ticks (events : List (Event τ)) : Nat := events.countP isTick

/-- The event is a keepalive of the master. -/
def isKeepalive : Event τ → Bool
  | .keepalive => true
  | _ => false

/-- What `now_` was at the last keepalive among events that begin at an instant; without one, what
it was before, at the last one then. -/
def refreshedAt (last now : Nat) : List (Event τ) → Nat
  | [] => last
  | event :: events =>
    refreshedAt (if isKeepalive event then now else last) (now + ticks [event]) events

/-- A timeout is reported between two states. -/
def Calls (state next : State τ) : Prop :=
  ∃ more, next.outputs = state.outputs ++ more ∧ .timedOut ∈ more

/-- The ticks of one event and of others. -/
theorem ticks_cons (event : Event τ) (events : List (Event τ)) :
    ticks (event :: events) = ticks [event] + ticks events :=
  @List.countP_append _ isTick [event] events

/-! ## The invariant -/

/-- Keepalives are not managed, and no timer is armed. -/
structure Unwatched (state : State τ) : Prop where
  /-- `keepalive_mngt_`. -/
  unmanaged : state.keepaliveMngt = false
  /-- The timers. -/
  timers : state.timeoutQueue.timers = []

/-- Since the last keepalive, at an instant, one timer is armed until it expires. -/
structure Watches (delay last : Nat) (state : State τ) : Prop where
  /-- `keepalive_mngt_`. -/
  managed : state.keepaliveMngt = true
  /-- `timeout_keepalive_`. -/
  timed : state.timeoutKeepalive = delay
  /-- The timer armed is the one `keepalive_id_` names. -/
  timers : (state.now ≤ last + delay ∧ ∃ id, state.keepaliveId = some id ∧
      state.timeoutQueue.timers = [⟨id, last + delay, none, .kaTimeoutCb⟩]) ∨
    (last + delay < state.now ∧ state.timeoutQueue.timers = [])

/-! ## Operations -/

section Operations

variable {env : Environment τ} {state next : State τ} {delay last : Nat}

/-- A manager whose keepalive timer was restarted. -/
def State.reset (state : State τ) : State τ :=
  { state with
    timeoutQueue := (state.keepaliveId.elim state.timeoutQueue state.timeoutQueue.erase).add
      state.now state.timeoutKeepalive .kaTimeoutCb
    keepaliveId := some state.timeoutQueue.nextId }

/-- Restarting the timer. -/
theorem resetKeepalive_apply (state : State τ) : resetKeepalive state = .ok () state.reset := by
  unfold resetKeepalive eraseKeepalive armKeepalive State.reset
  rw [bind_apply, modify_apply]
  cases state.keepaliveId with
  | none => rfl
  | some id => rfl

/-- `keepalive` restarts the timer if keepalives are managed, and then acknowledges. -/
theorem keepalive_apply (state : State τ) :
    keepalive env state = sendIfOpen env
      (fun packetId => made (Packet.makeKeepaliveAck env.raw packetId))
      (if state.keepaliveMngt = true then state.reset else state) := by
  unfold keepalive
  rw [bind_apply, get_apply]
  dsimp only
  rw [bind_apply]
  unfold runIf
  by_cases managed : state.keepaliveMngt = true
  · rw [if_pos managed, if_pos managed, resetKeepalive_apply]
  · rw [if_neg managed, if_neg managed]
    rfl

/-- A tick that returns, with a callback set, reports one timeout for each timer of its batch. -/
theorem runOnce_eq_ok (present : env.timeoutCb ≠ none) {batch : List (Timer TimerCallback)}
    (returned : runOnce env batch state = .ok () next) : next = state.ticked batch := by
  cases set : env.timeoutCb with
  | none => exact absurd set present
  | some raised =>
    cases raised with
    | none =>
      have ticked := runOnce_apply set batch state
      rw [returned] at ticked
      exact (EStateM.Result.ok.inj ticked).2
    | some error =>
      cases batch with
      | nil =>
        cases returned
        unfold State.ticked
        rw [List.length_nil, List.replicate_zero, List.append_nil]
      | cons timer batch =>
        -- the callback throws
        have thrown : fire env timer { state with
            now := state.now + 1, timeoutQueue := state.timeoutQueue.advance state.now } =
            .error error { state with
              now := state.now + 1, timeoutQueue := state.timeoutQueue.advance state.now
              outputs := state.outputs ++ [.timedOut] } := by
          unfold fire kaTimeoutCb
          rw [set]
          rfl
        unfold runOnce fireAll at returned
        rw [bind_apply, modify_apply] at returned
        dsimp only at returned
        rw [bind_apply, thrown] at returned
        contradiction

/-- A tick reports a timeout exactly when its batch is not empty. -/
theorem calls_ticked_iff (state : State τ) (batch : List (Timer TimerCallback)) :
    Calls state (state.ticked batch) ↔ batch ≠ [] := by
  constructor
  · rintro ⟨more, grown, reported⟩ rfl
    have same : more = [] := List.append_cancel_left grown.symm
    rw [same] at reported
    contradiction
  · intro some
    refine ⟨List.replicate batch.length .timedOut, rfl, List.mem_replicate.mpr ⟨?_, rfl⟩⟩
    exact fun none => some (List.length_eq_zero_iff.mp none)

/-- What a manager that keeps time shows does not depend on what is written. -/
theorem unwritten_unwatched (now : Nat) :
    Unwritten fun state : State τ => Unwatched state ∧ state.now = now :=
  fun _ _ _ _ standing => ⟨⟨standing.1.unmanaged, standing.1.timers⟩, standing.2⟩

/-- Nor does the timer. -/
theorem unwritten_watches (delay last now : Nat) :
    Unwritten fun state : State τ => Watches delay last state ∧ state.now = now :=
  fun _ _ _ _ standing =>
    ⟨⟨standing.1.managed, standing.1.timed, standing.1.timers⟩, standing.2⟩

/-- What does not depend on what is written, nor on the timer thread being asked to stop, is kept by
every operation that is neither a keepalive nor a tick. -/
theorem keeps_perform {holds : State τ → Prop} (unwritten : Unwritten holds)
    (stops : ∀ state, holds state → holds { state with running := false }) {event : Event τ}
    (noTick : isTick event = false) (noKeepalive : isKeepalive event = false)
    (proceeds : Proceeds env state event) (standing : holds state) :
    holds (after (perform env event state)) := by
  obtain ⟨-, fine⟩ := proceeds
  cases event with
  | start =>
    rw [show perform env .start state = .ok () state from start_running state fine]
    exact standing
  | stop => exact stops state standing
  | sendCmdAck packet => exact unwritten.sendCmdAck packet state standing
  | sendData blocks => exact unwritten.sendData blocks state standing
  | sendDataOfBlocks blocks => exact unwritten.sendData _ state standing
  | sendDip identification => exact unwritten.sendIfOpen (fun _ _ => made_still _ _) state standing
  | startKeepaliveManagement timeout => exact fine.elim
  | stopKeepaliveManagement => exact fine.elim
  | keepalive => contradiction
  | runOnce batch => contradiction
  | transport transport => exact unwritten _ _ _ _ standing

namespace Unwatched

/-- One step. -/
theorem step (present : env.timeoutCb ≠ none) (unwatched : Unwatched state) {event : Event τ}
    (proceeds : Proceeds env state event) :
    Unwatched (after (perform env event state)) ∧
      (after (perform env event state)).now = state.now + ticks [event] := by
  cases event with
  | keepalive =>
    have applied : perform env .keepalive state = _ := keepalive_apply state
    rw [if_neg (by rw [unwatched.unmanaged]; decide)] at applied
    rw [applied]
    exact (unwritten_unwatched state.now).sendIfOpen (fun _ _ => made_still _ _) state
      ⟨unwatched, rfl⟩
  | runOnce batch =>
    obtain ⟨next, returned⟩ := proceeds.1
    rw [returned, after_ok, runOnce_eq_ok present returned]
    refine ⟨⟨unwatched.unmanaged, ?_⟩, rfl⟩
    change state.timeoutQueue.timers.filterMap _ = []
    rw [unwatched.timers]
    rfl
  | _ =>
    exact keeps_perform (unwritten_unwatched state.now)
      (fun _ standing => ⟨⟨standing.1.unmanaged, standing.1.timers⟩, standing.2⟩) rfl rfl proceeds
      ⟨unwatched, rfl⟩

end Unwatched

namespace Watches

/-- Restarting the timer, whether it is armed still or expired. -/
theorem reset (watches : Watches delay last state) : Watches delay state.now state.reset := by
  have erased : (state.keepaliveId.elim state.timeoutQueue state.timeoutQueue.erase).timers =
      [] := by
    rcases watches.timers with ⟨-, id, named, one⟩ | ⟨-, none⟩
    · rw [named]
      change state.timeoutQueue.timers.filter _ = []
      rw [one]
      simp
    · cases state.keepaliveId with
      | none => exact none
      | some id =>
        change state.timeoutQueue.timers.filter _ = []
        rw [none]
        rfl
  refine ⟨watches.managed, watches.timed, .inl ⟨Nat.le_add_right _ _, _, rfl, ?_⟩⟩
  unfold State.reset
  dsimp only
  rw [TimeoutQueue.timers_add, erased, watches.timed]
  cases state.keepaliveId with
  | none => rfl
  | some id => rfl

/-- What a tick takes: the timer, when it expires. -/
theorem expired_eq_nil_iff (watches : Watches delay last state) :
    state.timeoutQueue.expired state.now = [] ↔ state.now ≠ last + delay := by
  unfold TimeoutQueue.expired
  rcases watches.timers with ⟨early, id, -, one⟩ | ⟨late, none⟩
  · rw [one, List.filter_cons, List.filter_nil]
    dsimp only
    by_cases now : last + delay ≤ state.now
    · simp [now]
      omega
    · simp [now]
      omega
  · rw [none]
    simp
    omega

/-- A tick. -/
theorem ticked (watches : Watches delay last state) (batch : List (Timer TimerCallback)) :
    Watches delay last (state.ticked batch) := by
  refine ⟨watches.managed, watches.timed, ?_⟩
  change (state.now + 1 ≤ last + delay ∧ ∃ id, state.keepaliveId = some id ∧
      state.timeoutQueue.timers.filterMap (Timer.advance state.now) = _) ∨
    (last + delay < state.now + 1 ∧
      state.timeoutQueue.timers.filterMap (Timer.advance state.now) = [])
  rcases watches.timers with ⟨early, id, named, one⟩ | ⟨late, none⟩
  · rw [one, List.filterMap_cons, List.filterMap_nil]
    unfold Timer.advance
    dsimp only
    by_cases now : last + delay ≤ state.now
    · rw [if_pos now]
      exact .inr ⟨by omega, rfl⟩
    · rw [if_neg now]
      exact .inl ⟨by omega, id, named, rfl⟩
  · rw [none]
    exact .inr ⟨by omega, rfl⟩

/-- One step. -/
theorem step (present : env.timeoutCb ≠ none) (watches : Watches delay last state)
    {event : Event τ} (proceeds : Proceeds env state event) :
    Watches delay (if isKeepalive event then state.now else last)
        (after (perform env event state)) ∧
      (after (perform env event state)).now = state.now + ticks [event] := by
  cases event with
  | keepalive =>
    have applied : perform env .keepalive state = _ := keepalive_apply state
    rw [if_pos watches.managed] at applied
    rw [applied]
    exact (unwritten_watches delay state.now state.now).sendIfOpen (fun _ _ => made_still _ _) _
      ⟨watches.reset, rfl⟩
  | runOnce batch =>
    obtain ⟨next, returned⟩ := proceeds.1
    rw [returned, after_ok, runOnce_eq_ok present returned]
    exact ⟨watches.ticked batch, rfl⟩
  | _ =>
    exact keeps_perform (unwritten_watches delay last state.now)
      (fun _ standing => ⟨⟨standing.1.managed, standing.1.timed, standing.1.timers⟩, standing.2⟩)
      rfl rfl proceeds ⟨watches, rfl⟩

end Watches

/-- The management of keepalives begins with the first timer. -/
theorem Unwatched.begin (unwatched : Unwatched state) (timeout : Nat)
    (returned : startKeepaliveManagement timeout state = .ok () next) :
    Watches (timeout / timeBaseMs) state.now next ∧ next.now = state.now := by
  cases returned
  refine ⟨⟨rfl, rfl, .inl ⟨Nat.le_add_right _ _, _, rfl, ?_⟩⟩, rfl⟩
  change _ :: state.timeoutQueue.timers = _
  rw [unwatched.timers]

/-! ## Sessions -/

/-- Before keepalives are managed. -/
theorem run_unwatched (present : env.timeoutCb ≠ none) {start finish : State τ}
    {events : List (Event τ)} (run : Run (Guarded (Proceeds env) (Step env)) start events finish)
    (unwatched : Unwatched start) :
    Unwatched finish ∧ finish.now = start.now + ticks events := by
  induction run with
  | nil start => exact ⟨unwatched, rfl⟩
  | @cons start middle finish event events taken rest ih =>
    obtain ⟨proceeds, -, rfl⟩ := taken
    obtain ⟨still, now⟩ := unwatched.step present proceeds
    obtain ⟨final, instant⟩ := ih still
    exact ⟨final, by rw [instant, now, ticks_cons event events, Nat.add_assoc]⟩

/-- Once they are. -/
theorem run_watches (present : env.timeoutCb ≠ none) {start finish : State τ}
    {events : List (Event τ)} (run : Run (Guarded (Proceeds env) (Step env)) start events finish)
    (watches : Watches delay last start) :
    Watches delay (refreshedAt last start.now events) finish ∧
      finish.now = start.now + ticks events := by
  induction run generalizing last with
  | nil start => exact ⟨watches, rfl⟩
  | @cons start middle finish event events taken rest ih =>
    obtain ⟨proceeds, -, rfl⟩ := taken
    obtain ⟨still, now⟩ := watches.step present proceeds
    obtain ⟨final, instant⟩ := ih still
    rw [now] at final
    exact ⟨final, by rw [instant, now, ticks_cons event events, Nat.add_assoc]⟩

end Operations

/-- In every run of a session whose operations return and in which keepalives come to be managed
once: `now_` counts the ticks, at most one keepalive timer is armed, and the tick at an instant
reports a timeout if and only if `now_` was that instant less thirty at the last of
`start_keepalive_management` and `keepalive`. -/
theorem keepaliveTimer_exact (env : Environment τ) (present : env.timeoutCb ≠ none)
    (opening events : List (Event τ)) (idle ready begun state : State τ)
    (stopped : idle.running = false)
    (opened : Run (Guarded (Proceeds env) (Step env)) (after (start idle)) opening ready)
    (returned : startKeepaliveManagement keepaliveTimeout ready = .ok () begun)
    (run : Run (Guarded (Proceeds env) (Step env)) begun events state) :
    ready.timeoutQueue.timersOf .kaTimeoutCb = [] ∧ begun.now = ticks opening ∧
      state.now = begun.now + ticks events ∧
      (state.timeoutQueue.timersOf .kaTimeoutCb).length ≤ 1 ∧
      ∀ batch next, Enabled state (.runOnce batch) → runOnce env batch state = .ok () next →
        (Calls state next ↔ state.now = refreshedAt begun.now begun.now events + 30) := by
  rw [start_apply idle stopped, after_ok] at opened
  obtain ⟨unwatched, instant⟩ := run_unwatched present opened ⟨rfl, rfl⟩
  obtain ⟨begins, still⟩ := unwatched.begin keepaliveTimeout returned
  rw [← still] at begins
  obtain ⟨watches, now⟩ := run_watches present run begins
  have early : idle.started.now = 0 := rfl
  rw [early, Nat.zero_add] at instant
  refine ⟨?_, still.trans instant, now, ?_, ?_⟩
  · unfold TimeoutQueue.timersOf
    rw [unwatched.timers]
    rfl
  · have few : state.timeoutQueue.timers.length ≤ 1 := by
      rcases watches.timers with ⟨-, id, -, one⟩ | ⟨-, none⟩
      · rw [one, List.length_singleton]
      · rw [none]
        exact Nat.zero_le 1
    exact Nat.le_trans (List.length_filter_le _ _) few
  · intro batch next enabled ticked
    rw [runOnce_eq_ok present ticked, calls_ticked_iff]
    have taken : batch = [] ↔ state.timeoutQueue.expired state.now = [] := by
      constructor
      · rintro rfl
        exact enabled.2.symm.eq_nil
      · intro none
        have order : batch.Perm _ := enabled.2
        rw [none] at order
        exact order.eq_nil
    rw [Ne, taken, watches.expired_eq_nil_iff, not_not]
    rfl

/-- The event starts the manager, or the management of keepalives, or ends it. -/
def managesItself : Event τ → Bool
  | .start | .startKeepaliveManagement _ | .stopKeepaliveManagement => true
  | _ => false

/-- What an execution computes is a run of a session, unless it is about the management itself. -/
theorem proceeds_of_execute {env : Environment τ} {events : List (Event τ)} {start finish : State τ}
    (executed : execute (State.next env) start events = some finish)
    (others : ∀ event ∈ events, managesItself event = false) :
    Run (Guarded (Proceeds env) (Step env)) start events finish := by
  refine (((execute_eq_some_iff _ _ _ _).mp executed).guarded others).mono ?_
  intro state event next taken
  obtain ⟨enabled, returned⟩ := (State.next_eq_some_iff _ _ _ _).mp taken.2
  refine ⟨⟨⟨next, returned⟩, ?_⟩, enabled, by rw [returned, after_ok]⟩
  cases event with
  | start => exact absurd taken.1 Bool.noConfusion
  | startKeepaliveManagement timeout => exact absurd taken.1 Bool.noConfusion
  | stopKeepaliveManagement => exact absurd taken.1 Bool.noConfusion
  | _ => exact trivial

/-- A keepalive that arrives five ticks after they came to be managed, and some ticks after it. -/
def refreshedOnce (count : Nat) : List (Event Unit) :=
  List.replicate 5 (.runOnce []) ++ .keepalive :: List.replicate count (.runOnce [])

/-- The manager of a session two ticks old, as keepalives come to be managed. -/
def watching : State Unit :=
  after (startKeepaliveManagement keepaliveTimeout (after (runOnce quietEnvironment []
    (after (runOnce quietEnvironment [] (after (start (State.initial ()))))))))

/-- Keepalives are managed from the instant two, and one arrives at the instant seven: the tick at
the instant thirty-two reports nothing, the one at the instant thirty-seven reports the timeout. -/
theorem keepaliveTimer_exact_once :
    ∃ early earlyNext late lateNext,
      Run (Guarded (Proceeds quietEnvironment) (Step quietEnvironment)) watching
        (refreshedOnce 25) early ∧
      early.now = 32 ∧ runOnce quietEnvironment [] early = .ok () earlyNext ∧
      ¬ Calls early earlyNext ∧
      Run (Guarded (Proceeds quietEnvironment) (Step quietEnvironment)) watching
        (refreshedOnce 30) late ∧
      late.now = 37 ∧
      runOnce quietEnvironment [⟨1, 37, none, .kaTimeoutCb⟩] late = .ok () lateNext ∧
      Calls late lateNext := by
  have opened : Run (Guarded (Proceeds quietEnvironment) (Step quietEnvironment))
      (after (start (State.initial ()))) [.runOnce [], .runOnce []] _ :=
    .cons ⟨⟨⟨_, rfl⟩, trivial⟩, ⟨rfl, .refl _⟩, rfl⟩
      (.cons ⟨⟨⟨_, rfl⟩, trivial⟩, ⟨rfl, .refl _⟩, rfl⟩ (.nil _))
  have begins : startKeepaliveManagement keepaliveTimeout _ = .ok () watching := rfl
  have exactly (events : List (Event Unit)) (batch : List (Timer TimerCallback))
      (others : ∀ event ∈ events, managesItself event = false)
      (executed : ((execute (State.next quietEnvironment) watching events).bind fun state =>
        state.next quietEnvironment (.runOnce batch)).isSome = true) :
      ∃ state next,
        Run (Guarded (Proceeds quietEnvironment) (Step quietEnvironment)) watching events state ∧
        state.now = 2 + ticks events ∧ runOnce quietEnvironment batch state = .ok () next ∧
        (Calls state next ↔ state.now = refreshedAt 2 2 events + 30) := by
    obtain ⟨next, executed⟩ := Option.isSome_iff_exists.mp executed
    obtain ⟨state, executed, taken⟩ := Option.bind_eq_some_iff.mp executed
    obtain ⟨enabled, returned⟩ := (State.next_eq_some_iff _ _ _ _).mp taken
    have run := proceeds_of_execute executed others
    obtain ⟨-, -, now, -, calls⟩ := keepaliveTimer_exact quietEnvironment (Option.some_ne_none _)
      [.runOnce [], .runOnce []] events (State.initial ()) _ watching state rfl opened begins run
    exact ⟨state, next, run, now, returned, calls batch next enabled returned⟩
  obtain ⟨early, earlyNext, run, now, returned, calls⟩ := exactly (refreshedOnce 25) []
    (by decide) (by decide +kernel)
  obtain ⟨late, lateNext, run', now', returned', calls'⟩ := exactly (refreshedOnce 30)
    [⟨1, 37, none, .kaTimeoutCb⟩] (by decide) (by decide +kernel)
  have silent : ¬ Calls early earlyNext := by
    rw [calls, now]
    decide
  have reported : Calls late lateNext := by
    rw [calls', now']
    rfl
  exact ⟨early, earlyNext, late, lateNext, run, now, returned, silent, run', now', returned',
    reported⟩

end Hdcp.Slave
