import Mathlib.Data.List.Nodup

/-!
# Queues of timers

A timer has an identifier no other ever had, an expiration and, when it repeats, an interval. A
tick takes every expired timer as one batch, arms those that repeat again under the same
identifier, and leaves the callbacks of the batch to its caller; removing a timer keeps it from
being taken, not a batch that holds it from being run. Uniqueness and freshness of the identifiers
are part of the type.
-/

namespace Hdcp.Base

/-- An armed timer. -/
structure Timer (κ : Type) where
  /-- Identifier. -/
  id : Nat
  /-- The tick at which it expires. -/
  expiration : Nat
  /-- The interval of a repeating timer. -/
  repeatInterval : Option Nat
  /-- What it calls. -/
  callback : κ
  deriving DecidableEq

/-- The armed timers and the next identifier. -/
structure TimeoutQueue (κ : Type) where
  /-- Armed timers. -/
  timers : List (Timer κ)
  /-- The identifier of the next timer. -/
  nextId : Nat
  /-- No two armed timers share an identifier. -/
  nodup_ids : (timers.map Timer.id).Nodup
  /-- Armed timers have identifiers already issued. -/
  ids_lt : ∀ timer ∈ timers, timer.id < nextId

/-- A timer after a tick: itself when not expired, armed again when it repeats, otherwise gone. -/
def Timer.advance {κ : Type} (now : Nat) (timer : Timer κ) : Option (Timer κ) :=
  if timer.expiration ≤ now then
    timer.repeatInterval.map fun interval => { timer with expiration := now + interval }
  else some timer

/-- A timer keeps its identifier, its interval and its callback over a tick. -/
theorem Timer.advance_keeps {κ : Type} {now : Nat} {timer next : Timer κ}
    (kept : timer.advance now = some next) :
    next.id = timer.id ∧ next.repeatInterval = timer.repeatInterval ∧
      next.callback = timer.callback := by
  unfold advance at kept
  split at kept
  · obtain ⟨interval, -, rfl⟩ := Option.map_eq_some_iff.mp kept
    exact ⟨rfl, rfl, rfl⟩
  · obtain rfl := Option.some.inj kept
    exact ⟨rfl, rfl, rfl⟩

/-- A repeating timer survives every tick. -/
theorem Timer.advance_of_repeats {κ : Type} (now : Nat) (timer : Timer κ) {interval : Nat}
    (repeats : timer.repeatInterval = some interval) :
    timer.advance now = some (if timer.expiration ≤ now then
      { timer with expiration := now + interval } else timer) := by
  unfold advance
  split
  · rw [repeats, Option.map_some]
  · rfl

/-- A tick leaves the identifiers of a list of timers distinct. -/
theorem Timer.nodup_advance {κ : Type} (now : Nat) (timers : List (Timer κ))
    (unique : (timers.map Timer.id).Nodup) :
    ((timers.filterMap (Timer.advance now)).map Timer.id).Nodup := by
  induction timers with
  | nil => exact List.nodup_nil
  | cons timer timers ih =>
    rw [List.map_cons, List.nodup_cons] at unique
    cases kept : timer.advance now with
    | none =>
      rw [List.filterMap_cons_none kept]
      exact ih unique.2
    | some next =>
      rw [List.filterMap_cons_some kept, List.map_cons, List.nodup_cons]
      refine ⟨?_, ih unique.2⟩
      intro taken
      obtain ⟨other, inside, same⟩ := List.mem_map.mp taken
      obtain ⟨old, oldIn, armed⟩ := List.mem_filterMap.mp inside
      rw [(Timer.advance_keeps armed).1, (Timer.advance_keeps kept).1] at same
      exact unique.1 (List.mem_map.mpr ⟨old, oldIn, same⟩)

/-- A tick keeps the identifiers of the timers of a callback when they all repeat. -/
theorem Timer.map_id_advance {κ : Type} [DecidableEq κ] (now : Nat) (callback : κ)
    (timers : List (Timer κ))
    (repeats : ∀ timer ∈ timers, timer.callback = callback → timer.repeatInterval ≠ none) :
    ((timers.filterMap (Timer.advance now)).filter fun timer => timer.callback = callback).map
        Timer.id = (timers.filter fun timer => timer.callback = callback).map Timer.id := by
  induction timers with
  | nil => rfl
  | cons timer timers ih =>
    have rest := ih fun other inside => repeats other (List.mem_cons_of_mem _ inside)
    cases kept : timer.advance now with
    | none =>
      -- only a timer that does not repeat is gone, and such a timer has another callback
      have other : timer.callback ≠ callback := by
        intro same
        obtain ⟨interval, repeating⟩ :=
          Option.ne_none_iff_exists'.mp (repeats timer List.mem_cons_self same)
        rw [Timer.advance_of_repeats now timer repeating] at kept
        contradiction
      rw [List.filterMap_cons_none kept, List.filter_cons_of_neg (by simpa using other)]
      exact rest
    | some next =>
      obtain ⟨id, -, same⟩ := Timer.advance_keeps kept
      rw [List.filterMap_cons_some kept, List.filter_cons, List.filter_cons, same]
      split
      · rw [List.map_cons, List.map_cons, rest, id]
      · exact rest

namespace TimeoutQueue

variable {κ : Type}

/-- No timer, and no identifier issued. -/
def empty : TimeoutQueue κ where
  timers := []
  nextId := 0
  nodup_ids := List.nodup_nil
  ids_lt := by simp

/-- Arm a timer under the next identifier. -/
def arm (queue : TimeoutQueue κ) (expiration : Nat) (repeatInterval : Option Nat) (callback : κ) :
    TimeoutQueue κ where
  timers := ⟨queue.nextId, expiration, repeatInterval, callback⟩ :: queue.timers
  nextId := queue.nextId + 1
  nodup_ids := by
    refine List.nodup_cons.mpr ⟨?_, queue.nodup_ids⟩
    intro taken
    obtain ⟨timer, inside, same⟩ := List.mem_map.mp taken
    have issued := queue.ids_lt timer inside
    simp only at same
    omega
  ids_lt := by
    intro timer inside
    rcases List.mem_cons.mp inside with rfl | old
    · exact Nat.lt_succ_self _
    · exact Nat.lt_succ_of_lt (queue.ids_lt timer old)

/-- Arm a timer that expires once, after a delay. -/
def add (queue : TimeoutQueue κ) (now delay : Nat) (callback : κ) : TimeoutQueue κ :=
  queue.arm (now + delay) none callback

/-- Arm a timer that expires after every interval. -/
def addRepeating (queue : TimeoutQueue κ) (now interval : Nat) (callback : κ) : TimeoutQueue κ :=
  queue.arm (now + interval) (some interval) callback

/-- Remove the timer with an identifier, if it is armed. -/
def erase (queue : TimeoutQueue κ) (id : Nat) : TimeoutQueue κ where
  timers := queue.timers.filter fun timer => timer.id ≠ id
  nextId := queue.nextId
  nodup_ids := queue.nodup_ids.sublist (List.filter_sublist.map Timer.id)
  ids_lt := fun timer inside => queue.ids_lt timer (List.mem_of_mem_filter inside)

/-- Remove every timer; identifiers already issued stay so. -/
def clear (queue : TimeoutQueue κ) : TimeoutQueue κ where
  timers := []
  nextId := queue.nextId
  nodup_ids := List.nodup_nil
  ids_lt := by simp

/-- The timers a tick takes. -/
def expired (queue : TimeoutQueue κ) (now : Nat) : List (Timer κ) :=
  queue.timers.filter fun timer => timer.expiration ≤ now

/-- The queue after a tick took its batch. -/
def advance (queue : TimeoutQueue κ) (now : Nat) : TimeoutQueue κ where
  timers := queue.timers.filterMap (Timer.advance now)
  nextId := queue.nextId
  nodup_ids := Timer.nodup_advance now queue.timers queue.nodup_ids
  ids_lt := by
    intro timer inside
    obtain ⟨old, oldIn, kept⟩ := List.mem_filterMap.mp inside
    rw [(Timer.advance_keeps kept).1]
    exact queue.ids_lt old oldIn

/-- The armed timers with a callback. -/
def timersOf [DecidableEq κ] (queue : TimeoutQueue κ) (callback : κ) : List (Timer κ) :=
  queue.timers.filter fun timer => timer.callback = callback

/-- The identifiers of the armed timers with a callback. -/
def idsOf [DecidableEq κ] (queue : TimeoutQueue κ) (callback : κ) : List Nat :=
  (queue.timers.filter fun timer => timer.callback = callback).map Timer.id

/-- An identifier determines its armed timer. -/
theorem eq_of_id {queue : TimeoutQueue κ} {left right : Timer κ} (leftIn : left ∈ queue.timers)
    (rightIn : right ∈ queue.timers) (same : left.id = right.id) : left = right :=
  List.inj_on_of_nodup_map queue.nodup_ids leftIn rightIn same

@[simp] theorem timers_add (queue : TimeoutQueue κ) (now delay : Nat) (callback : κ) :
    (queue.add now delay callback).timers =
      ⟨queue.nextId, now + delay, none, callback⟩ :: queue.timers := rfl

/-- The timers left after a removal. -/
@[simp] theorem mem_erase (queue : TimeoutQueue κ) (id : Nat) (timer : Timer κ) :
    timer ∈ (queue.erase id).timers ↔ timer ∈ queue.timers ∧ timer.id ≠ id := by
  simp [erase]

/-- The timers a tick takes are the armed ones that expired. -/
@[simp] theorem mem_expired (queue : TimeoutQueue κ) (now : Nat) (timer : Timer κ) :
    timer ∈ queue.expired now ↔ timer ∈ queue.timers ∧ timer.expiration ≤ now := by
  simp [expired]

/-- The timers armed after a tick. -/
theorem mem_advance (queue : TimeoutQueue κ) (now : Nat) (timer : Timer κ) :
    timer ∈ (queue.advance now).timers ↔
      ∃ old ∈ queue.timers, old.advance now = some timer :=
  List.mem_filterMap

/-- A tick that leaves no timer of some took a batch. -/
theorem expired_ne_nil {queue : TimeoutQueue κ} {now : Nat} (some : queue.timers ≠ [])
    (none : (queue.advance now).timers = []) : queue.expired now ≠ [] := by
  intro unexpired
  obtain ⟨timer, armed⟩ := List.exists_mem_of_ne_nil _ some
  by_cases late : timer.expiration ≤ now
  · have taken := (queue.mem_expired now timer).mpr ⟨armed, late⟩
    rw [unexpired] at taken
    contradiction
  · have kept : timer.advance now = Option.some timer := if_neg late
    have still := (queue.mem_advance now timer).mpr ⟨timer, armed, kept⟩
    rw [none] at still
    contradiction

/-- The batch of a tick names no identifier twice. -/
theorem nodup_expired (queue : TimeoutQueue κ) (now : Nat) :
    ((queue.expired now).map Timer.id).Nodup :=
  queue.nodup_ids.sublist (List.filter_sublist.map Timer.id)

/-- No armed timer has the identifier with another callback. -/
def Reserved (queue : TimeoutQueue κ) (id : Nat) (callback : κ) : Prop :=
  ∀ timer ∈ queue.timers, timer.id = id → timer.callback = callback

/-- Arming a timer leaves issued identifiers reserved. -/
theorem Reserved.arm {queue : TimeoutQueue κ} {id : Nat} {callback : κ}
    (reserved : queue.Reserved id callback) (issued : id < queue.nextId) (expiration : Nat)
    (repeatInterval : Option Nat) (armed : κ) :
    (queue.arm expiration repeatInterval armed).Reserved id callback := by
  intro timer inside same
  rcases List.mem_cons.mp inside with rfl | old
  · exact absurd same (Nat.ne_of_gt issued)
  · exact reserved timer old same

/-- The identifier of a timer just armed is reserved for its callback. -/
theorem reserved_arm_self (queue : TimeoutQueue κ) (expiration : Nat)
    (repeatInterval : Option Nat) (callback : κ) :
    (queue.arm expiration repeatInterval callback).Reserved queue.nextId callback := by
  intro timer inside same
  rcases List.mem_cons.mp inside with rfl | old
  · rfl
  · exact absurd same (Nat.ne_of_lt (queue.ids_lt timer old))

/-- Removing a timer leaves identifiers reserved. -/
theorem Reserved.erase {queue : TimeoutQueue κ} {id : Nat} {callback : κ}
    (reserved : queue.Reserved id callback) (gone : Nat) :
    (queue.erase gone).Reserved id callback :=
  fun timer inside same => reserved timer ((queue.mem_erase gone timer).mp inside).1 same

/-- A tick leaves identifiers reserved. -/
theorem Reserved.advance {queue : TimeoutQueue κ} {id : Nat} {callback : κ}
    (reserved : queue.Reserved id callback) (now : Nat) :
    (queue.advance now).Reserved id callback := by
  intro timer inside same
  obtain ⟨old, armed, kept⟩ := (queue.mem_advance now timer).mp inside
  obtain ⟨sameId, -, sameCallback⟩ := Timer.advance_keeps kept
  rw [sameCallback]
  exact reserved old armed (sameId ▸ same)

/-- A queue comes after another: identifiers stay issued, and a timer armed under one that was
issued before was armed then, with the same callback. -/
structure Follows (next queue : TimeoutQueue κ) : Prop where
  /-- The next identifier never falls. -/
  nextId : queue.nextId ≤ next.nextId
  /-- A timer is old or has a new identifier. -/
  timers : ∀ timer ∈ next.timers, timer.id < queue.nextId →
    ∃ old ∈ queue.timers, old.id = timer.id ∧ old.callback = timer.callback

namespace Follows

variable {queue middle next : TimeoutQueue κ}

/-- Nothing happens. -/
theorem refl (queue : TimeoutQueue κ) : queue.Follows queue :=
  ⟨Nat.le_refl _, fun timer inside _ => ⟨timer, inside, rfl, rfl⟩⟩

/-- One thing after another. -/
theorem trans (second : next.Follows middle) (first : middle.Follows queue) :
    next.Follows queue := by
  refine ⟨Nat.le_trans first.nextId second.nextId, ?_⟩
  intro timer inside issued
  obtain ⟨between, armed, sameId, sameCallback⟩ :=
    second.timers timer inside (Nat.lt_of_lt_of_le issued first.nextId)
  obtain ⟨old, oldIn, agreeId, agreeCallback⟩ := first.timers between armed (sameId ▸ issued)
  exact ⟨old, oldIn, agreeId.trans sameId, agreeCallback.trans sameCallback⟩

/-- A timer is armed. -/
theorem arm (queue : TimeoutQueue κ) (expiration : Nat) (repeatInterval : Option Nat)
    (callback : κ) : (queue.arm expiration repeatInterval callback).Follows queue := by
  refine ⟨Nat.le_succ _, ?_⟩
  intro timer inside issued
  rcases List.mem_cons.mp inside with rfl | old
  · exact absurd issued (Nat.lt_irrefl _)
  · exact ⟨timer, old, rfl, rfl⟩

/-- A timer is removed. -/
theorem erase (queue : TimeoutQueue κ) (id : Nat) : (queue.erase id).Follows queue :=
  ⟨Nat.le_refl _, fun timer inside _ => ⟨timer, ((queue.mem_erase id timer).mp inside).1, rfl, rfl⟩⟩

/-- Every timer is removed. -/
theorem clear (queue : TimeoutQueue κ) : queue.clear.Follows queue :=
  ⟨Nat.le_refl _, fun _ inside _ => absurd inside List.not_mem_nil⟩

/-- Several timers are removed. -/
theorem foldl_erase (ids : List Nat) (queue : TimeoutQueue κ) :
    (ids.foldl TimeoutQueue.erase queue).Follows queue := by
  induction ids generalizing queue with
  | nil => exact refl queue
  | cons id ids ih => exact (ih (queue.erase id)).trans (erase queue id)

/-- A tick takes its batch. -/
theorem advance (queue : TimeoutQueue κ) (now : Nat) : (queue.advance now).Follows queue := by
  refine ⟨Nat.le_refl _, ?_⟩
  intro timer inside _
  obtain ⟨old, armed, kept⟩ := (queue.mem_advance now timer).mp inside
  obtain ⟨sameId, -, sameCallback⟩ := Timer.advance_keeps kept
  exact ⟨old, armed, sameId.symm, sameCallback.symm⟩

/-- When every armed timer was armed under an identifier from some point on, so is every timer of
a queue that comes after. -/
theorem all_from (follows : next.Follows queue) {first : Nat} (issued : first ≤ queue.nextId)
    (recent : ∀ timer ∈ queue.timers, first ≤ timer.id) :
    ∀ timer ∈ next.timers, first ≤ timer.id := by
  intro timer inside
  by_cases old : timer.id < queue.nextId
  · obtain ⟨former, armed, same, -⟩ := follows.timers timer inside old
    rw [← same]
    exact recent former armed
  · omega

end Follows

section Callbacks

variable [DecidableEq κ]

/-- The timers with a callback are the armed ones with it. -/
@[simp] theorem mem_timersOf (queue : TimeoutQueue κ) (callback : κ) (timer : Timer κ) :
    timer ∈ queue.timersOf callback ↔ timer ∈ queue.timers ∧ timer.callback = callback := by
  simp [timersOf]

/-- Arming a timer adds it to those of its callback. -/
theorem timersOf_arm (queue : TimeoutQueue κ) (expiration : Nat) (repeatInterval : Option Nat)
    (armed callback : κ) :
    (queue.arm expiration repeatInterval armed).timersOf callback =
      if armed = callback then
        ⟨queue.nextId, expiration, repeatInterval, armed⟩ :: queue.timersOf callback
      else queue.timersOf callback := by
  simp only [timersOf, arm, List.filter_cons, decide_eq_true_eq]

/-- Removing a timer removes it from those of its callback. -/
theorem timersOf_erase (queue : TimeoutQueue κ) (id : Nat) (callback : κ) :
    (queue.erase id).timersOf callback =
      (queue.timersOf callback).filter fun timer => timer.id ≠ id := by
  simp only [timersOf, erase, List.filter_filter]
  apply List.filter_congr
  intro timer inside
  rw [Bool.and_comm]

/-- Removing several timers removes them from those of their callbacks. -/
theorem timersOf_foldl_erase (ids : List Nat) (queue : TimeoutQueue κ) (callback : κ) :
    (ids.foldl erase queue).timersOf callback =
      (queue.timersOf callback).filter fun timer => timer.id ∉ ids := by
  induction ids generalizing queue with
  | nil => simp
  | cons id ids ih =>
    rw [List.foldl_cons, ih, timersOf_erase, List.filter_filter]
    apply List.filter_congr
    intro timer inside
    simp only [List.mem_cons, not_or, Bool.decide_and, Bool.and_comm]

/-- Removing an identifier reserved for one callback leaves the timers of the others. -/
theorem timersOf_erase_of_reserved {queue : TimeoutQueue κ} {id : Nat} {callback other : κ}
    (reserved : queue.Reserved id callback) (different : other ≠ callback) :
    (queue.erase id).timersOf other = queue.timersOf other := by
  rw [timersOf_erase, List.filter_eq_self]
  intro timer inside
  obtain ⟨armed, bound⟩ := (queue.mem_timersOf other timer).mp inside
  rw [decide_eq_true_eq]
  intro same
  exact different (bound.symm.trans (reserved timer armed same))

/-- A tick treats the timers of a callback like all others. -/
theorem timersOf_advance (queue : TimeoutQueue κ) (now : Nat) (callback : κ) :
    (queue.advance now).timersOf callback =
      (queue.timersOf callback).filterMap (Timer.advance now) := by
  simp only [timersOf, advance]
  induction queue.timers with
  | nil => rfl
  | cons timer timers ih =>
    cases kept : timer.advance now with
    | none =>
      rw [List.filterMap_cons_none kept, ih, List.filter_cons]
      split
      · rw [List.filterMap_cons_none kept]
      · rfl
    | some next =>
      have bound := (Timer.advance_keeps kept).2.2
      rw [List.filterMap_cons_some kept, List.filter_cons, List.filter_cons, ih, bound]
      split
      · rw [List.filterMap_cons_some kept]
      · rfl

end Callbacks

section Ids

variable [DecidableEq κ]

/-- An identifier of a callback is the identifier of an armed timer with that callback. -/
theorem mem_idsOf (queue : TimeoutQueue κ) (callback : κ) (id : Nat) :
    id ∈ queue.idsOf callback ↔
      ∃ timer ∈ queue.timers, timer.callback = callback ∧ timer.id = id := by
  simp [idsOf, and_assoc]

/-- Removing a timer removes its identifier. -/
@[simp] theorem idsOf_erase (queue : TimeoutQueue κ) (id : Nat) (callback : κ) :
    (queue.erase id).idsOf callback = (queue.idsOf callback).filter (· ≠ id) := by
  simp only [idsOf, erase, List.filter_map, List.filter_filter, Function.comp_def]
  congr 1
  apply List.filter_congr
  intro timer inside
  rw [Bool.and_comm]

/-- Removing several timers removes their identifiers. -/
theorem idsOf_foldl_erase (ids : List Nat) (queue : TimeoutQueue κ) (callback : κ) :
    (ids.foldl erase queue).idsOf callback = (queue.idsOf callback).filter (· ∉ ids) := by
  induction ids generalizing queue with
  | nil => simp
  | cons id ids ih =>
    rw [List.foldl_cons, ih, idsOf_erase, List.filter_filter]
    apply List.filter_congr
    intro held inside
    simp only [List.mem_cons, not_or, Bool.decide_and, Bool.and_comm]

/-- Arming a timer adds its identifier to those of its callback. -/
theorem idsOf_arm (queue : TimeoutQueue κ) (expiration : Nat) (repeatInterval : Option Nat)
    (armed callback : κ) :
    (queue.arm expiration repeatInterval armed).idsOf callback =
      if armed = callback then queue.nextId :: queue.idsOf callback else queue.idsOf callback := by
  simp only [idsOf, arm, List.filter_cons, decide_eq_true_eq]
  split
  · rfl
  · rfl

@[simp] theorem idsOf_add (queue : TimeoutQueue κ) (now delay : Nat) (armed callback : κ) :
    (queue.add now delay armed).idsOf callback =
      if armed = callback then queue.nextId :: queue.idsOf callback else queue.idsOf callback :=
  queue.idsOf_arm _ _ _ _

@[simp] theorem idsOf_addRepeating (queue : TimeoutQueue κ) (now interval : Nat)
    (armed callback : κ) :
    (queue.addRepeating now interval armed).idsOf callback =
      if armed = callback then queue.nextId :: queue.idsOf callback else queue.idsOf callback :=
  queue.idsOf_arm _ _ _ _

/-- Removing an identifier reserved for one callback leaves the others' identifiers. -/
theorem idsOf_erase_of_reserved {queue : TimeoutQueue κ} {id : Nat} {callback other : κ}
    (reserved : queue.Reserved id callback) (different : other ≠ callback) :
    (queue.erase id).idsOf other = queue.idsOf other := by
  rw [idsOf_erase, List.filter_eq_self]
  intro held inside
  obtain ⟨timer, armed, bound, rfl⟩ := (queue.mem_idsOf other held).mp inside
  rw [decide_eq_true_eq]
  intro same
  exact different (bound.symm.trans (reserved timer armed same))

/-- A tick keeps the identifiers of a callback all of whose timers repeat. -/
theorem idsOf_advance (queue : TimeoutQueue κ) (now : Nat) (callback : κ)
    (repeats : ∀ timer ∈ queue.timers, timer.callback = callback → timer.repeatInterval ≠ none) :
    (queue.advance now).idsOf callback = queue.idsOf callback :=
  Timer.map_id_advance now callback queue.timers repeats

/-- After a tick a callback has no identifier it did not have before. -/
theorem mem_idsOf_of_advance {queue : TimeoutQueue κ} {now : Nat} {callback : κ} {id : Nat}
    (held : id ∈ (queue.advance now).idsOf callback) : id ∈ queue.idsOf callback := by
  obtain ⟨timer, inside, bound, rfl⟩ := (mem_idsOf _ callback id).mp held
  obtain ⟨old, armed, kept⟩ := (queue.mem_advance now timer).mp inside
  obtain ⟨sameId, -, sameCallback⟩ := Timer.advance_keeps kept
  exact (queue.mem_idsOf callback _).mpr ⟨old, armed, sameCallback ▸ bound, sameId.symm⟩

end Ids

end TimeoutQueue

end Hdcp.Base
