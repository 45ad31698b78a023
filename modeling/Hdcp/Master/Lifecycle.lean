import Hdcp.Master.Untouched
import Hdcp.Master.TimerTable

/-!
# The life of a command

Seen from one command, the manager is a clock that counts ticks since the command was accepted and
an ack that may come: three retransmissions, ten ticks apart, then a timeout, unless an ack that
names the command comes first. The manager simulates this machine for every command, whatever it
does for the others.
-/

namespace Hdcp.Master

open Base

variable {τ κ : Type}

/-! ## One command -/

/-- A command as accepted: its identifier, its packet and its callback. -/
structure Call (κ : Type) where
  /-- The identifier of its request and its retry timer. -/
  id : Nat
  /-- Its packet. -/
  cmd : Packet
  /-- Its callback. -/
  cb : κ

/-- The request of a command after some retries. -/
def Call.request (call : Call κ) (retry : Nat) : Request κ :=
  { id := call.id, command := call.cmd, cb := call.cb, retry := retry }

/-- How often a command was retried, ticks after it was accepted. -/
def retries (ticks : Nat) : Nat := (ticks - 1) / 10

/-- The retry timer of a command, ticks after it was accepted. -/
def Call.timer (call : Call κ) (accepted ticks : Nat) : Timer TimerCallback where
  id := call.id
  expiration := accepted + 10 * (retries ticks + 1)
  repeatInterval := some 10
  callback := .cmdTimeoutCb

/-- An event is a tick. -/
def isTick : Event τ κ → Bool
  | .runOnce _ => true
  | _ => false

/-- A packet is a well-formed ack that names a command. -/
def names (cmd packet : Packet) : Bool :=
  match ackedId packet with
  | .ok id => id = cmd.id
  | .error _ => false

/-- An event is the processing of an ack that names a command. -/
def acknowledges (cmd : Packet) : Event τ κ → Bool
  | .ackCommand packet => names cmd packet
  | _ => false

/-- The ticks among some events. -/
def ticks (events : List (Event τ κ)) : Nat := events.countP isTick

/-- The ticks since a command was accepted, or nothing once it was acknowledged or given up. -/
def phase (cmd : Packet) (events : List (Event τ κ)) : Option Nat :=
  if events.any (acknowledges cmd) ∨ 40 < ticks events then none else some (ticks events)

/-- What one event gives out about a command in a phase. -/
def due (call : Call κ) : Option Nat → Event τ κ → List (Output κ)
  | some ticks, .runOnce _ =>
    if ticks = 10 ∨ ticks = 20 ∨ ticks = 30 then [.written ⟨call.cmd, some call.id⟩]
    else if ticks = 40 then [.called { call.request maxRetry with status := .timeout }]
    else []
  | some ticks, .ackCommand packet =>
    if names call.cmd packet then
      [.called { call.request (retries ticks) with status := .fulfilled, ack := some packet }]
    else []
  | _, _ => []

/-- The phase after an event. -/
def nextPhase (cmd : Packet) : Option Nat → Event τ κ → Option Nat
  | some ticks, .runOnce _ => if ticks = 40 then none else some (ticks + 1)
  | some ticks, .ackCommand packet => if names cmd packet then none else some ticks
  | phase, _ => phase

/-- The phase moves with each event. -/
theorem phase_append (cmd : Packet) (events : List (Event τ κ)) (event : Event τ κ) :
    phase cmd (events ++ [event]) = nextPhase cmd (phase cmd events) event := by
  have count : ticks (events ++ [event]) = ticks events + if isTick event then 1 else 0 := by
    rw [ticks, List.countP_append, List.countP_singleton]
    rfl
  have acked : (events ++ [event]).any (acknowledges cmd) =
      (events.any (acknowledges cmd) || acknowledges cmd event) := by
    rw [List.any_append, List.any_cons, List.any_nil, Bool.or_false]
  unfold phase
  rw [count, acked]
  by_cases ended : events.any (acknowledges cmd) = true ∨ 40 < ticks events
  · have still : (events.any (acknowledges cmd) || acknowledges cmd event) = true ∨
        40 < ticks events + if isTick event then 1 else 0 := by
      rcases ended with already | late
      · exact .inl (by rw [already, Bool.true_or])
      · exact .inr (Nat.lt_add_right _ late)
    rw [if_pos ended, if_pos still]
    cases event <;> rfl
  · rw [if_neg ended]
    rw [not_or, Bool.not_eq_true, Nat.not_lt] at ended
    obtain ⟨silent, early⟩ := ended
    rw [silent, Bool.false_or]
    cases event with
    | runOnce batch =>
      simp only [acknowledges, isTick, nextPhase, Bool.false_eq_true, false_or, if_true]
      by_cases last : ticks events = 40
      · rw [if_pos (by omega), if_pos last]
      · rw [if_neg (by omega), if_neg last]
    | ackCommand packet =>
      simp only [acknowledges, isTick, nextPhase, Bool.false_eq_true, if_false, Nat.add_zero]
      by_cases named : names cmd packet = true
      · rw [if_pos (.inl named), if_pos named]
      · have still : ¬ (names cmd packet = true ∨ 40 < ticks events) := by
          rw [not_or]
          exact ⟨named, by omega⟩
        rw [if_neg still, if_neg named]
    | _ =>
      simp only [acknowledges, isTick, nextPhase, Bool.false_eq_true, if_false, Nat.add_zero,
        false_or]
      rw [if_neg (by omega)]

/-! ## What the manager holds of it -/

/-- The manager waits for the command's ack: its request and its timer are there. -/
structure Waiting (call : Call κ) (accepted ticks : Nat) (fields : Fields κ) : Prop where
  /-- The clock. -/
  now : fields.now = accepted + ticks
  /-- The last tick has not passed. -/
  bound : ticks ≤ 40
  /-- The request. -/
  request : call.request (retries ticks) ∈ fields.requests.entries
  /-- The retry timer. -/
  timer : call.timer accepted ticks ∈ fields.timeoutQueue.timers

/-- Neither the command's request nor its timer exists. -/
structure Gone (id : Nat) (fields : Fields κ) : Prop where
  /-- No request. -/
  request : ∀ request ∈ fields.requests.entries, request.id ≠ id
  /-- No timer. -/
  timer : ∀ timer ∈ fields.timeoutQueue.timers, timer.id ≠ id

/-- The manager is in a phase of the command. -/
def InPhase (call : Call κ) (accepted : Nat) (fields : Fields κ) : Option Nat → Prop
  | some ticks => Waiting call accepted ticks fields
  | none => Gone call.id fields

/-- A command left alone stays in its phase. -/
theorem Untouched.inPhase {call : Call κ} {accepted : Nat} {fields next : Fields κ}
    {phase : Option Nat} (untouched : Untouched call.id fields next)
    (current : InPhase call accepted fields phase) : InPhase call accepted next phase := by
  cases phase with
  | some ticks =>
    exact ⟨untouched.now.trans current.now, current.bound,
      (untouched.requests _ rfl).mpr current.request, (untouched.timers _ rfl).mpr current.timer⟩
  | none =>
    constructor
    · intro request inside same
      exact current.request request ((untouched.requests request same).mp inside) same
    · intro timer inside same
      exact current.timer timer ((untouched.timers timer same).mp inside) same

/-- The transport is there and stays open. -/
structure AlwaysOpen (env : Environment τ κ) : Prop where
  /-- There is a transport. -/
  attached : env.attached = true
  /-- It is open. -/
  isOpen : ∀ transport, env.isOpen transport = true

/-- A step moved a command as its machine moves. -/
structure Moves (call : Call κ) (accepted : Nat) (current : Option Nat) (event : Event τ κ)
    (state next : State τ κ) : Prop where
  /-- Its identifier is still apart. -/
  apart : Apart call.id next.toFields
  /-- It is in the machine's next phase. -/
  phase : InPhase call accepted next.toFields (nextPhase call.cmd current event)
  /-- What the machine gives out was given out. -/
  about : next.about call.id = state.about call.id ++ due call current event
  /-- Only a tick moved the clock. -/
  now : next.now = state.now + if isTick event then 1 else 0

/-- Only an ack may be refused. -/
def Smooth (env : Environment τ κ) (state : State τ κ) (event : Event τ κ) : Prop :=
  Returns env state event ∨ ∃ packet, event = .ackCommand packet

section Steps

variable {env : Environment τ κ} {call : Call κ} {accepted : Nat} {state next : State τ κ}

/-- A retry counts, writes the command again and leaves it waiting. -/
theorem retry_waiting (openly : AlwaysOpen env) {ticks : Nat}
    (apart : Apart call.id state.toFields)
    (now : state.now = accepted + (ticks + 1)) (bound : ticks + 1 ≤ 40)
    (request : call.request (retries ticks) ∈ state.requests.entries)
    (timer : call.timer accepted (ticks + 1) ∈ state.timeoutQueue.timers)
    (counted : retries (ticks + 1) = retries ticks + 1)
    (returned : retryCommand env call.id (call.request (retries ticks)) state = .ok () next) :
    Apart call.id next.toFields ∧ Waiting call accepted (ticks + 1) next.toFields ∧
      next.about call.id = state.about call.id ++ [.written ⟨call.cmd, some call.id⟩] ∧
        next.now = state.now := by
  obtain ⟨-, rfl⟩ := (retryCommand_eq_ok_iff _ _ _ _ _ _).mp returned
  have opened : state.isOpen env = true := by
    unfold State.isOpen
    rw [openly.attached, openly.isOpen]
    rfl
  have retried : Apart call.id (state.toFields.withRetry call.id) :=
    ⟨apart.issued, apart.mngt, apart.dip, apart.ka⟩
  have waiting : Waiting call accepted (ticks + 1) (state.toFields.withRetry call.id) := by
    refine ⟨now, bound, ?_, timer⟩
    refine (TwoIndex.mem_modifyFirst state.requests call.id incRetry (fun _ => ⟨rfl, rfl⟩) _).mpr
      (.inr ⟨_, request, rfl, ?_⟩)
    rw [counted]
    rfl
  have phased : InPhase call accepted _ (some (ticks + 1)) := waiting
  have refreshed := Untouched.refreshed retried
  rw [if_pos opened]
  exact ⟨refreshed.apart, refreshed.inPhase phased,
    about_sent_self env state call.cmd call.id openly.attached, refreshed.now⟩

/-- Giving up reports the timeout and leaves nothing. -/
theorem giveUp_gone (apart : Apart call.id state.toFields)
    (returned : giveUp env call.id (call.request maxRetry) state = .ok () next) :
    Apart call.id next.toFields ∧ Gone call.id next.toFields ∧
      next.about call.id = state.about call.id ++
        [.called { call.request maxRetry with status := .timeout }] ∧ next.now = state.now := by
  obtain ⟨-, rfl⟩ := (giveUp_eq_ok_iff _ _ _ _ _ _).mp returned
  refine ⟨⟨apart.issued, apart.mngt, apart.dip, apart.ka⟩, ⟨?_, ?_⟩,
    about_reported_self state { call.request maxRetry with status := .timeout }, rfl⟩
  · intro request inside
    exact ((TwoIndex.mem_eraseFirst _ _ _).mp inside).2
  · intro timer inside
    exact ((TimeoutQueue.mem_erase _ _ _).mp inside).2

/-- The command's timer, called at a tick it is due at. -/
theorem fire_own (openly : AlwaysOpen env) {ticks : Nat}
    (apart : Apart call.id state.toFields)
    (now : state.now = accepted + (ticks + 1))
    (request : call.request (retries ticks) ∈ state.requests.entries)
    (timer : call.timer accepted (ticks + 1) ∈ state.timeoutQueue.timers)
    (dueNow : ticks = 10 ∨ ticks = 20 ∨ ticks = 30 ∨ ticks = 40)
    (returned : fire env (call.timer accepted ticks) state = .ok () next) (batch) :
    Apart call.id next.toFields ∧
      InPhase call accepted next.toFields
        (nextPhase call.cmd (some ticks) (.runOnce batch : Event τ κ)) ∧
      next.about call.id = state.about call.id ++
        due call (some ticks) (.runOnce batch : Event τ κ) ∧ next.now = state.now := by
  obtain ⟨found, search, outcome⟩ := (cmdTimeoutCb_eq_ok_iff env call.id state next ()).mp returned
  obtain ⟨inside, same⟩ := (TwoIndex.findFirst_eq_some_iff _ _ _).mp search
  obtain rfl : found = call.request (retries ticks) := TwoIndex.eq_of_first inside request same
  by_cases last : ticks = 40
  · subst last
    have spent : ¬ (call.request (retries 40)).retry < maxRetry := by
      change ¬ (40 - 1) / 10 < 3
      decide
    rw [if_neg spent] at outcome
    exact giveUp_gone apart outcome
  · have few : (call.request (retries ticks)).retry < maxRetry := by
      change (ticks - 1) / 10 < 3
      omega
    have counted : retries (ticks + 1) = retries ticks + 1 := by
      unfold retries
      omega
    rw [if_pos few] at outcome
    have waiting := retry_waiting openly apart now (by omega) request timer counted outcome
    have again : ticks = 10 ∨ ticks = 20 ∨ ticks = 30 := by omega
    simp only [nextPhase, due, if_neg last, if_pos again]
    exact waiting

/-- A tick that does not take the command's timer leaves the command where it is. -/
theorem tick_other (current : Option Nat) {batch : List (Timer TimerCallback)}
    (apart : Apart call.id state.toFields)
    (ticked : InPhase call accepted state.toFields.ticked current)
    (others : ∀ timer ∈ batch, timer.id ≠ call.id)
    (returned : runOnce env batch state = .ok () next) :
    Apart call.id next.toFields ∧ InPhase call accepted next.toFields current ∧
      next.about call.id = state.about call.id ∧ next.now = state.now + 1 := by
  have began : Apart call.id state.toFields.ticked :=
    ⟨apart.issued, apart.mngt, apart.dip, apart.ka⟩
  obtain ⟨untouched, silent⟩ := fireAll_leftAlone env
    (state.withFields state.toFields.ticked) _ began others returned
  exact ⟨untouched.apart, untouched.inPhase ticked, silent, untouched.now⟩

/-- A tick at which a waiting command's timer is due calls it, among others. -/
theorem tick_due (openly : AlwaysOpen env) {ticks : Nat} {batch : List (Timer TimerCallback)}
    (apart : Apart call.id state.toFields) (waiting : Waiting call accepted ticks state.toFields)
    (order : batch.Perm (state.timeoutQueue.expired state.now))
    (dueNow : ticks = 10 ∨ ticks = 20 ∨ ticks = 30 ∨ ticks = 40)
    (returned : runOnce env batch state = .ok () next) :
    Moves call accepted (some ticks) (.runOnce batch) state next := by
  have time := waiting.now
  have expires : (call.timer accepted ticks).expiration ≤ state.now := by
    rw [time]
    change accepted + 10 * ((ticks - 1) / 10 + 1) ≤ accepted + ticks
    omega
  have inside : call.timer accepted ticks ∈ batch := order.mem_iff.mpr
    ((TimeoutQueue.mem_expired _ _ _).mpr ⟨waiting.timer, expires⟩)
  have unique : (batch.map Timer.id).Nodup :=
    (order.map Timer.id).nodup_iff.mpr (TimeoutQueue.nodup_expired _ _)
  obtain ⟨front, back, rfl⟩ := List.append_of_mem inside
  rw [List.map_append, List.map_cons, List.nodup_append] at unique
  obtain ⟨-, alone, apartFrom⟩ := unique
  have frontOthers : ∀ timer ∈ front, timer.id ≠ call.id := fun timer inFront =>
    apartFrom timer.id (List.mem_map_of_mem inFront) call.id List.mem_cons_self
  have backOthers : ∀ timer ∈ back, timer.id ≠ call.id := by
    intro timer inBack same
    exact (List.nodup_cons.mp alone).1 (List.mem_map.mpr ⟨timer, inBack, same⟩)
  -- the timer was armed again before any callback of its batch ran
  have rearmed :
    call.timer accepted (ticks + 1) ∈ (state.timeoutQueue.advance state.now).timers := by
    refine (TimeoutQueue.mem_advance _ _ _).mpr ⟨_, waiting.timer, ?_⟩
    rw [Timer.advance_of_repeats state.now _ (show _ = some 10 from rfl), if_pos expires, time]
    have later : accepted + ticks + 10 = accepted + 10 * (retries (ticks + 1) + 1) := by
      unfold retries
      omega
    unfold Call.timer
    rw [later]
  have began : Apart call.id state.toFields.ticked :=
    ⟨apart.issued, apart.mngt, apart.dip, apart.ka⟩
  obtain ⟨before, calledFront, calledRest⟩ := (fireAll_append env front
    (call.timer accepted ticks :: back) (state.withFields state.toFields.ticked) next).mp returned
  obtain ⟨_, called, fired, calledBack⟩ := (bind_eq_ok_iff _ _ _ _ _).mp calledRest
  obtain ⟨untouched, silent⟩ := fireAll_leftAlone env
    (state.withFields state.toFields.ticked) _ began frontOthers calledFront
  have clock : before.now = accepted + (ticks + 1) := by
    rw [untouched.now]
    change state.now + 1 = accepted + (ticks + 1)
    omega
  obtain ⟨still, current, told, same⟩ := fire_own openly untouched.apart clock
    ((untouched.requests _ rfl).mpr waiting.request) ((untouched.timers _ rfl).mpr rearmed)
    dueNow fired (front ++ call.timer accepted ticks :: back)
  obtain ⟨untouchedAfter, silentAfter⟩ := fireAll_leftAlone env _ _ still backOthers calledBack
  refine ⟨untouchedAfter.apart, untouchedAfter.inPhase current, ?_, ?_⟩
  · rw [silentAfter, told, silent]
    rfl
  · exact untouchedAfter.now.trans (same.trans untouched.now)

/-- A tick moves a command as its machine moves. -/
theorem tick_tracks (openly : AlwaysOpen env) {current : Option Nat}
    {batch : List (Timer TimerCallback)} (apart : Apart call.id state.toFields)
    (tracked : InPhase call accepted state.toFields current)
    (order : batch.Perm (state.timeoutQueue.expired state.now))
    (returned : runOnce env batch state = .ok () next) :
    Moves call accepted current (.runOnce batch) state next := by
  have armed {timer : Timer TimerCallback} (inside : timer ∈ batch) :=
    (TimeoutQueue.mem_expired _ _ _).mp (order.mem_iff.mp inside)
  cases current with
  | none =>
    have ticked : Gone call.id state.toFields.ticked := by
      refine ⟨tracked.request, ?_⟩
      intro timer inside
      obtain ⟨old, oldIn, kept⟩ := (TimeoutQueue.mem_advance _ _ _).mp inside
      rw [(Timer.advance_keeps kept).1]
      exact tracked.timer old oldIn
    obtain ⟨still, gone, silent, clock⟩ := tick_other none apart ticked
      (fun timer inside => tracked.timer timer (armed inside).1) returned
    exact ⟨still, gone, silent.trans (List.append_nil _).symm, clock⟩
  | some ticks =>
    by_cases dueNow : ticks = 10 ∨ ticks = 20 ∨ ticks = 30 ∨ ticks = 40
    · exact tick_due openly apart tracked order dueNow returned
    · have time := tracked.now
      have bound := tracked.bound
      have later : ¬ (call.timer accepted ticks).expiration ≤ state.now := by
        rw [time]
        change ¬ accepted + 10 * ((ticks - 1) / 10 + 1) ≤ accepted + ticks
        omega
      have same : retries (ticks + 1) = retries ticks := by
        unfold retries
        omega
      have ticked : Waiting call accepted (ticks + 1) state.toFields.ticked := by
        refine ⟨?_, by omega, ?_, ?_⟩
        · change state.now + 1 = accepted + (ticks + 1)
          omega
        · rw [same]
          exact tracked.request
        · refine (TimeoutQueue.mem_advance _ _ _).mpr ⟨_, tracked.timer, ?_⟩
          rw [Timer.advance_of_repeats state.now _ (show _ = some 10 from rfl), if_neg later]
          unfold Call.timer
          rw [same]
      have others : ∀ timer ∈ batch, timer.id ≠ call.id := by
        intro timer inside same
        have own := TimeoutQueue.eq_of_id (armed inside).1 tracked.timer same
        exact later (own ▸ (armed inside).2)
      obtain ⟨still, waiting, silent, clock⟩ := tick_other (some (ticks + 1)) apart ticked
        others returned
      have last : ticks ≠ 40 := fun same => dueNow (.inr (.inr (.inr same)))
      have none : ¬ (ticks = 10 ∨ ticks = 20 ∨ ticks = 30) := by omega
      refine ⟨still, ?_, ?_, clock⟩
      · simp only [nextPhase, if_neg last]
        exact waiting
      · simp only [due, if_neg last, if_neg none, List.append_nil]
        exact silent

/-- An ack that does not name a command leaves it alone. -/
theorem ack_alone {current : Option Nat} {packet : Packet}
    (tracked : InPhase call accepted state.toFields current)
    (unnamed : current = none ∨ names call.cmd packet = false)
    (left : LeftAlone call.id state next) :
    Moves call accepted current (.ackCommand packet) state next := by
  refine ⟨left.1.apart, ?_, ?_, left.1.now⟩
  · have still := left.1.inPhase tracked
    rcases unnamed with rfl | unnamed
    · exact still
    · cases current with
      | none => exact still
      | some ticks =>
        simp only [nextPhase, unnamed]
        exact still
  · rcases unnamed with rfl | unnamed
    · exact left.2.trans (List.append_nil _).symm
    · cases current with
      | none => exact left.2.trans (List.append_nil _).symm
      | some ticks =>
        simp only [due, unnamed]
        exact left.2.trans (List.append_nil _).symm

/-- An ack moves a command as its machine moves: it is fulfilled if the ack names it. -/
theorem ack_tracks (quiet : Quiet env) {current : Option Nat} {packet : Packet}
    (apart : Apart call.id state.toFields)
    (tracked : InPhase call accepted state.toFields current)
    (finished : after (ackCommand env packet state) = next) :
    Moves call accepted current (.ackCommand packet) state next := by
  cases outcome : ackCommand env packet state with
  | error error final =>
    rw [outcome, after_error] at finished
    subst finished
    obtain ⟨rfl, absent⟩ := ackCommand_eq_error env packet state final quiet.invoke error outcome
    refine ack_alone tracked ?_ ⟨.refl apart, rfl⟩
    cases current with
    | none => exact .inl rfl
    | some ticks =>
      right
      unfold names
      cases named : ackedId packet with
      | error error => rfl
      | ok id =>
        refine decide_eq_false ?_
        rintro rfl
        exact (TwoIndex.findSecond_eq_none_iff _ _).mp (absent _ named)
          (List.mem_map.mpr ⟨_, tracked.request, rfl⟩)
  | ok value final =>
    rw [outcome, after_ok] at finished
    subst finished
    obtain ⟨id, found, named, search, -, rfl⟩ := (ackCommand_eq_ok_iff _ _ _ _ _).mp outcome
    obtain ⟨inside, rfl⟩ := (TwoIndex.findSecond_eq_some_iff _ _ _).mp search
    have entries := TwoIndex.eraseSecond_eq_eraseFirst _ found inside
    by_cases own : found.id = call.id
    · cases current with
      | none => exact absurd own (tracked.request found inside)
      | some ticks =>
        obtain rfl : found = call.request (retries ticks) :=
          TwoIndex.eq_of_first inside tracked.request own
        have ours : names call.cmd packet = true := by
          unfold names
          rw [named]
          exact decide_eq_true rfl
        refine ⟨⟨apart.issued, apart.mngt, apart.dip, apart.ka⟩, ?_, ?_, rfl⟩
        · simp only [nextPhase, ours, if_true]
          refine ⟨?_, fun timer held => ((TimeoutQueue.mem_erase _ _ _).mp held).2⟩
          intro request held
          have left : request ∈ (state.requests.eraseSecond
              (call.request (retries ticks)).commandId).entries := held
          rw [entries] at left
          exact ((TwoIndex.mem_eraseFirst _ _ _).mp left).2
        · simp only [due, ours, if_true]
          exact about_reported_self state
            { call.request (retries ticks) with status := .fulfilled, ack := some packet }
    · refine ack_alone tracked ?_
        ⟨.concluded apart found own _ entries, about_reported state _ _ own⟩
      cases current with
      | none => exact .inl rfl
      | some ticks =>
        right
        unfold names
        rw [named]
        refine decide_eq_false ?_
        intro same
        exact own (congrArg Request.id (TwoIndex.eq_of_second inside tracked.request same))

/-- What neither ticks nor acks, and leaves a command alone, leaves its machine where it is. -/
theorem step_alone {current : Option Nat} {event : Event τ κ}
    (tracked : InPhase call accepted state.toFields current)
    (other : isTick event = false ∧ ∀ packet, event ≠ .ackCommand packet)
    (left : LeftAlone call.id state next) : Moves call accepted current event state next := by
  have idle : nextPhase call.cmd current event = current ∧ due call current event = [] := by
    cases event with
    | runOnce batch => exact absurd other.1 Bool.noConfusion
    | ackCommand packet => exact absurd rfl (other.2 packet)
    | _ => cases current <;> exact ⟨rfl, rfl⟩
  refine ⟨left.1.apart, ?_, ?_, ?_⟩
  · rw [idle.1]
    exact left.1.inPhase tracked
  · rw [idle.2, List.append_nil]
    exact left.2
  · rw [other.1]
    exact left.1.now

/-- Every step moves a command as its machine moves. -/
theorem step_tracks (quiet : Quiet env) (openly : AlwaysOpen env) {current : Option Nat}
    {event : Event τ κ} (apart : Apart call.id state.toFields)
    (tracked : InPhase call accepted state.toFields current) (session : event ≠ .start)
    (taken : Guarded (Smooth env) (Step env) state event next) :
    Moves call accepted current event state next := by
  obtain ⟨smooth, enabled, finished⟩ := taken
  by_cases acked : ∃ packet, event = .ackCommand packet
  · obtain ⟨packet, rfl⟩ := acked
    exact ack_tracks quiet apart tracked finished
  · obtain ⟨result, returned⟩ := smooth.resolve_right acked
    rw [returned, after_ok] at finished
    subst finished
    cases event with
    | start => contradiction
    | ackCommand packet => exact absurd ⟨packet, rfl⟩ acked
    | runOnce batch => exact tick_tracks openly apart tracked enabled.2 returned
    | stop =>
      cases returned
      refine step_alone tracked ⟨rfl, by simp⟩ ⟨?_, rfl⟩
      exact .renumber apart state.keepaliveMngt state.packetId state.timeoutKeepalive false
    | transport transport =>
      cases returned
      exact step_alone tracked ⟨rfl, by simp⟩ ⟨.refl apart, rfl⟩
    | sendCommand type data cb timeout =>
      obtain ⟨cmd, requests, -, -, inserted, rfl⟩ :=
        (sendCommand_eq_ok_iff _ _ _ _ _ _ _).mp returned
      obtain ⟨-, -, entries⟩ := (TwoIndex.insert_eq_some_iff _ _ _).mp inserted
      refine step_alone tracked ⟨rfl, by simp⟩ ⟨.prepared apart timeout requests _ rfl entries, ?_⟩
      exact about_sent env state cmd _ call.id fun same =>
        Untouched.new_ne apart (congrArg some same)
    | sendHip identification timeout =>
      obtain ⟨fields, silent⟩ := sendHip_eq_ok _ _ _ _ _ _ returned
      refine step_alone tracked ⟨rfl, by simp⟩ ⟨?_, silent call.id⟩
      rw [fields]
      have numbered := Untouched.renumber apart state.keepaliveMngt result.packetId
        state.timeoutKeepalive state.running
      exact numbered.trans (.withDipTimer numbered.apart timeout)
    | startKeepaliveManagement interval timeout =>
      obtain ⟨fields, silent⟩ := startKeepaliveManagement_eq_ok _ _ _ _ _ _ returned
      refine step_alone tracked ⟨rfl, by simp⟩ ⟨?_, silent call.id⟩
      rw [fields]
      have flagged := Untouched.renumber apart true state.packetId state.timeoutKeepalive
        state.running
      have armed := flagged.trans (.withMngtTimer flagged.apart interval)
      have numbered := armed.trans (.renumber armed.apart true result.packetId
        (timeout / timeBaseMs) state.running)
      exact numbered.trans (.withKaTimer numbered.apart [] (List.not_mem_nil))
    | stopKeepaliveManagement =>
      have same := (EStateM.Result.ok.inj
        ((stopKeepaliveManagement_apply state).symm.trans returned)).2
      rw [← same]
      have flagged := Untouched.renumber apart false state.packetId state.timeoutKeepalive
        state.running
      exact step_alone tracked ⟨rfl, by simp⟩
        ⟨flagged.trans (.withoutTimer flagged.apart _ apart.mngt), rfl⟩
    | ackKeepalive =>
      cases returned
      exact step_alone tracked ⟨rfl, by simp⟩ ⟨.withoutKaTimers apart, rfl⟩
    | ackDip =>
      have same := (EStateM.Result.ok.inj ((ackDip_apply state).symm.trans returned)).2
      rw [← same]
      exact step_alone tracked ⟨rfl, by simp⟩ ⟨.withoutTimer apart _ apart.dip, rfl⟩

/-! ## Runs -/

/-- The retransmissions still to come. -/
def writesLeft : Option Nat → Nat
  | none => 0
  | some ticks => if ticks ≤ 10 then 3 else if ticks ≤ 20 then 2 else if ticks ≤ 30 then 1 else 0

/-- The reports still to come. -/
def callsLeft : Option Nat → Nat
  | none => 0
  | some _ => 1

/-- Something given out is a packet. -/
def isWritten : Output κ → Bool
  | .written _ => true
  | _ => false

/-- Something given out is a report of a request. -/
def isCalled : Output κ → Bool
  | .called _ => true
  | _ => false

/-- What an event gives out is taken from what is still to come. -/
theorem due_count (call : Call κ) (current : Option Nat) (event : Event τ κ) :
    (due call current event).countP isWritten + writesLeft (nextPhase call.cmd current event) ≤
        writesLeft current ∧
      (due call current event).countP isCalled + callsLeft (nextPhase call.cmd current event) ≤
        callsLeft current := by
  cases current with
  | none => cases event <;> exact ⟨Nat.le_refl _, Nat.le_refl _⟩
  | some ticks =>
    cases event with
    | runOnce batch =>
      by_cases again : ticks = 10 ∨ ticks = 20 ∨ ticks = 30
      · rcases again with rfl | rfl | rfl <;> exact ⟨Nat.le_refl _, Nat.le_refl _⟩
      · by_cases last : ticks = 40
        · subst last
          exact ⟨Nat.le_refl _, Nat.le_refl _⟩
        · simp only [due, nextPhase, if_neg again, if_neg last, List.countP_nil, Nat.zero_add]
          refine ⟨?_, Nat.le_refl _⟩
          simp only [writesLeft]
          split_ifs <;> omega
    | ackCommand packet =>
      by_cases named : names call.cmd packet = true
      · simp only [due, nextPhase, named, if_true]
        exact ⟨Nat.zero_le _, Nat.le_refl _⟩
      · simp only [due, nextPhase, named, Bool.false_eq_true, if_false, List.countP_nil,
          Nat.zero_add]
        exact ⟨Nat.le_refl _, Nat.le_refl _⟩
    | _ => exact ⟨Nat.le_of_eq (Nat.zero_add _), Nat.le_refl _⟩

/-- A run moves a command as its machine moves, from any point of its life. -/
theorem run_tracks (quiet : Quiet env) (openly : AlwaysOpen env)
    (passed : List (Event τ κ)) {events : List (Event τ κ)} {finish : State τ κ}
    (run : Run (Guarded (Smooth env) (Step env)) state events finish)
    (session : ∀ event ∈ events, event ≠ .start) (apart : Apart call.id state.toFields)
    (tracked : InPhase call accepted state.toFields (phase call.cmd passed))
    (clock : state.now = accepted + ticks passed) :
    Apart call.id finish.toFields ∧
      InPhase call accepted finish.toFields (phase call.cmd (passed ++ events)) ∧
      finish.now = accepted + ticks (passed ++ events) ∧
      ∃ given, finish.about call.id = state.about call.id ++ given ∧
        given.countP isWritten + writesLeft (phase call.cmd (passed ++ events)) ≤
          writesLeft (phase call.cmd passed) ∧
        given.countP isCalled + callsLeft (phase call.cmd (passed ++ events)) ≤
          callsLeft (phase call.cmd passed) := by
  induction run generalizing passed with
  | nil =>
    rw [List.append_nil]
    exact ⟨apart, tracked, clock, [], (List.append_nil _).symm, Nat.le_of_eq (Nat.zero_add _),
      Nat.le_of_eq (Nat.zero_add _)⟩
  | @cons start middle finish event events taken rest ih =>
    have moved := step_tracks quiet openly apart tracked (session event List.mem_cons_self) taken
    have phased := moved.phase
    rw [← phase_append] at phased
    have ticked : middle.now = accepted + ticks (passed ++ [event]) := by
      have count : ticks (passed ++ [event]) = ticks passed + if isTick event then 1 else 0 := by
        rw [ticks, List.countP_append, List.countP_singleton]
        rfl
      rw [moved.now, clock, count, Nat.add_assoc]
    obtain ⟨still, last, late, given, told, writes, calls⟩ := ih (passed ++ [event])
      (fun other inside => session other (List.mem_cons_of_mem _ inside)) moved.apart phased ticked
    obtain ⟨written, called⟩ := due_count call (phase call.cmd passed) event
    rw [← phase_append] at written called
    rw [List.append_assoc, List.singleton_append] at last late writes calls
    refine ⟨still, last, late, due call (phase call.cmd passed) event ++ given, ?_, ?_, ?_⟩
    · rw [told, moved.about, List.append_assoc]
    · rw [List.countP_append]
      omega
    · rw [List.countP_append]
      omega

/-- A command just accepted has been written once and waits. -/
theorem accepted_waits (openly : AlwaysOpen env) {type : UInt16} {data : Bytes} {cb : κ}
    (issued : Issued state.toFields)
    (returned : sendCommand env type data cb commandTimeout state = .ok () next) :
    ∃ call : Call κ, call.id = state.timeoutQueue.nextId ∧ call.cb = cb ∧
      state.newCommand env type data = .ok call.cmd ∧ Apart call.id next.toFields ∧
      Waiting call state.now 0 next.toFields ∧
      next.about call.id = state.about call.id ++ [.written ⟨call.cmd, some call.id⟩] := by
  obtain ⟨cmd, requests, made, -, inserted, rfl⟩ :=
    (sendCommand_eq_ok_iff _ _ _ _ _ _ _).mp returned
  obtain ⟨-, -, entries⟩ := (TwoIndex.insert_eq_some_iff _ _ _).mp inserted
  have armed : Apart state.timeoutQueue.nextId (state.toFields.withCmdTimer commandTimeout) := by
    refine ⟨Nat.lt_succ_self _, ?_, ?_, ?_⟩
    · exact fun held => Nat.lt_irrefl _ (issued.mngt _ held)
    · exact fun held => Nat.lt_irrefl _ (issued.dip _ held)
    · exact fun held => Nat.lt_irrefl _ (issued.ka _ held)
  have refreshed := Untouched.refreshed armed
  have prepared := refreshed.trans (.withNextId refreshed.apart)
  have apart := prepared.apart
  refine ⟨⟨state.timeoutQueue.nextId, cmd, cb⟩, rfl, rfl, made,
    ⟨apart.issued, apart.mngt, apart.dip, apart.ka⟩, ⟨prepared.now, by decide, ?_, ?_⟩,
    about_sent_self env state cmd _ openly.attached⟩
  · change _ ∈ requests.entries
    rw [entries]
    exact List.mem_cons_self
  · exact (prepared.timers _ rfl).mpr List.mem_cons_self

/-- The life of a command. It is written once when it is accepted. Every later event gives out
about it just what its machine says: until an ack names it or 41 ticks have passed since, the same
packet again at the ticks ten, twenty and thirty after its acceptance, the report of its
fulfilment by the first ack that names it, or the report of its timeout at the tick forty after;
from then on nothing, and neither its request nor its timer exists. In all it is written at most
four times and reported at most once. -/
theorem command_lifecycle (env : Environment τ κ) (quiet : Quiet env) (openly : AlwaysOpen env)
    (transport : τ) (earlier later : List (Event τ κ)) (ready sent finish : State τ κ)
    (type : UInt16) (data : Bytes) (cb : κ)
    (before : Run (Step env) (State.initial transport) earlier ready)
    (returned : sendCommand env type data cb commandTimeout ready = .ok () sent)
    (run : Run (Guarded (Smooth env) (Step env)) sent later finish)
    (session : ∀ event ∈ later, event ≠ .start) :
    ∃ call : Call κ, call.id = ready.timeoutQueue.nextId ∧ call.cb = cb ∧
      ready.newCommand env type data = .ok call.cmd ∧
      sent.about call.id = ready.about call.id ++ [.written ⟨call.cmd, some call.id⟩] ∧
      (∀ front event back, later = front ++ event :: back → ∃ state next,
        Run (Guarded (Smooth env) (Step env)) sent front state ∧ Step env state event next ∧
        Run (Guarded (Smooth env) (Step env)) next back finish ∧
        state.now = ready.now + ticks front ∧
        next.about call.id = state.about call.id ++ due call (phase call.cmd front) event) ∧
      (phase call.cmd later = none → Gone call.id finish.toFields) ∧
      ∃ given, finish.about call.id = ready.about call.id ++ given ∧
        given.countP isWritten ≤ 4 ∧ given.countP isCalled ≤ 1 := by
  obtain ⟨call, named, back, made, apart, waiting, written⟩ :=
    accepted_waits openly (issued_run before) returned
  have began : phase call.cmd ([] : List (Event τ κ)) = some 0 := rfl
  refine ⟨call, named, back, made, written, ?_, ?_, ?_⟩
  · rintro front event rest rfl
    obtain ⟨state, toEvent, fromEvent⟩ := run.split
    obtain ⟨still, current, clock, -⟩ := run_tracks quiet openly [] toEvent
      (fun other inside => session other (List.mem_append_left _ inside)) apart waiting waiting.now
    cases fromEvent with
    | @cons _ next _ _ _ taken after =>
      have moved := step_tracks quiet openly still current
        (session event (List.mem_append_right _ List.mem_cons_self)) taken
      exact ⟨state, next, toEvent, taken.2, after, clock, moved.about⟩
  · intro ended
    obtain ⟨-, last, -⟩ := run_tracks quiet openly [] run session apart waiting waiting.now
    rw [List.nil_append, ended] at last
    exact last
  · obtain ⟨-, -, -, given, told, writes, calls⟩ := run_tracks quiet openly [] run session apart
      waiting waiting.now
    rw [began] at writes calls
    refine ⟨.written ⟨call.cmd, some call.id⟩ :: given, ?_, ?_, ?_⟩
    · rw [told, written, List.append_assoc]
      rfl
    · rw [List.countP_cons_of_pos rfl]
      change _ + _ ≤ 3 at writes
      omega
    · rw [List.countP_cons_of_neg Bool.noConfusion]
      change _ + _ ≤ 1 at calls
      omega

/-- A manager just started, after a command of one byte. -/
def byteSent : State Unit Unit :=
  after (sendCommand quietEnvironment 1 [0] () commandTimeout (after (start (State.initial ()))))

/-- What expires at an instant while the first command is retried. -/
def retryBatch (tick : Nat) : List (Timer TimerCallback) :=
  if 0 < tick ∧ tick % 10 = 0 then [⟨0, tick, some 10, .cmdTimeoutCb⟩] else []

/-- Ticks while the first command is retried. -/
def retryTicks (count : Nat) : List (Event Unit Unit) :=
  (List.range count).map fun tick => .runOnce (retryBatch tick)

/-- The ack of the command comes after fifteen ticks. -/
def answered : List (Event Unit Unit) := retryTicks 15 ++ [.ackCommand firstAck]

/-- What an execution computes is a run in which everything returns. -/
theorem smooth_of_execute {events : List (Event Unit Unit)} {start finish : State Unit Unit}
    (executed : execute (State.next quietEnvironment) start events = some finish) :
    Run (Guarded (Smooth quietEnvironment) (Step quietEnvironment)) start events finish := by
  refine ((execute_eq_some_iff _ _ _ _).mp executed).mono fun _ _ _ taken => ?_
  obtain ⟨returns, stepped⟩ := State.step_of_next taken
  exact ⟨.inl returns, stepped⟩

/-- Without an ack the command is written again at the ticks ten, twenty and thirty and reported as
timed out at the tick forty; with one after fifteen ticks it is reported as fulfilled. Nothing is
left of it then. -/
theorem command_lifecycle_byte :
    (∃ finish, ∃ call : Call Unit,
      Run (Guarded (Smooth quietEnvironment) (Step quietEnvironment)) byteSent (retryTicks 41)
        finish ∧
      (∀ tick ∈ [10, 20, 30], ∃ state next,
        Run (Guarded (Smooth quietEnvironment) (Step quietEnvironment)) byteSent (retryTicks tick)
          state ∧
        Step quietEnvironment state (.runOnce (retryBatch tick)) next ∧
        next.about call.id = state.about call.id ++ [.written ⟨call.cmd, some call.id⟩]) ∧
      (∃ state next,
        Run (Guarded (Smooth quietEnvironment) (Step quietEnvironment)) byteSent (retryTicks 40)
          state ∧
        Step quietEnvironment state (.runOnce (retryBatch 40)) next ∧
        next.about call.id = state.about call.id ++
          [.called { call.request maxRetry with status := .timeout }]) ∧
      Gone call.id finish.toFields) ∧
    ∃ finish, ∃ call : Call Unit,
      Run (Guarded (Smooth quietEnvironment) (Step quietEnvironment)) byteSent answered finish ∧
      (∃ state next,
        Run (Guarded (Smooth quietEnvironment) (Step quietEnvironment)) byteSent (retryTicks 15)
          state ∧
        Step quietEnvironment state (.ackCommand firstAck) next ∧
        next.about call.id = state.about call.id ++
          [.called { call.request 1 with status := .fulfilled, ack := some firstAck }]) ∧
      Gone call.id finish.toFields := by
  have started : Run (Step quietEnvironment) (State.initial ()) [.start]
      (after (start (State.initial ()))) := .cons ⟨trivial, rfl⟩ (.nil _)
  obtain ⟨sent, returned⟩ := (sendCommand_returns_iff quietEnvironment _ (issued_run started) 1
    [0] () commandTimeout).mpr sendable_byte
  obtain rfl : sent = byteSent := by
    unfold byteSent
    rw [returned, after_ok]
  have life (later : List (Event Unit Unit)) (finish : State Unit Unit)
      (executed : execute (State.next quietEnvironment) byteSent later = some finish) :=
    command_lifecycle quietEnvironment quiet_quietEnvironment ⟨rfl, fun _ => rfl⟩ () [.start] later
      _ byteSent finish 1 [0] () started returned (smooth_of_execute executed)
  constructor
  · have executed : (execute (State.next quietEnvironment) byteSent (retryTicks 41)).isSome =
        true := by
      decide +kernel
    obtain ⟨finish, executed⟩ := Option.isSome_iff_exists.mp executed
    obtain ⟨call, -, -, -, -, given, gone, -⟩ := life _ _ executed (by simp [retryTicks])
    refine ⟨finish, call, smooth_of_execute executed, ?_, ?_, gone rfl⟩
    · intro tick inside
      simp only [List.mem_cons, List.not_mem_nil, or_false] at inside
      rcases inside with rfl | rfl | rfl
      · obtain ⟨state, next, before, stepped, -, -, told⟩ := given (retryTicks 10) _ _ rfl
        exact ⟨state, next, before, stepped, told⟩
      · obtain ⟨state, next, before, stepped, -, -, told⟩ := given (retryTicks 20) _ _ rfl
        exact ⟨state, next, before, stepped, told⟩
      · obtain ⟨state, next, before, stepped, -, -, told⟩ := given (retryTicks 30) _ _ rfl
        exact ⟨state, next, before, stepped, told⟩
    · obtain ⟨state, next, before, stepped, -, -, told⟩ := given (retryTicks 40) _ [] rfl
      exact ⟨state, next, before, stepped, told⟩
  · have executed : (execute (State.next quietEnvironment) byteSent answered).isSome = true := by
      decide +kernel
    obtain ⟨finish, executed⟩ := Option.isSome_iff_exists.mp executed
    obtain ⟨call, -, -, made, -, given, gone, -⟩ :=
      life _ _ executed (by simp [answered, retryTicks, or_imp, forall_and])
    have named : names call.cmd firstAck = true := by
      unfold State.newCommand Packet.makeCommand at made
      unfold names
      rw [(Packet.build_id_type _ _ _ _ _ _ made).1]
      decide +kernel
    have phased : phase call.cmd (retryTicks 15) = some 15 := rfl
    refine ⟨finish, call, smooth_of_execute executed, ?_, gone ?_⟩
    · obtain ⟨state, next, before, stepped, -, -, told⟩ := given (retryTicks 15) _ [] rfl
      refine ⟨state, next, before, stepped, told.trans ?_⟩
      rw [phased]
      simp only [due, named, if_true]
      rfl
    · unfold answered
      rw [phase_append, phased]
      simp only [nextPhase, named, if_true]

end Steps

end Hdcp.Master
