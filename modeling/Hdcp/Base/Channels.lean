import Mathlib.Data.List.Sublists
import Mathlib.Order.Monotone.Basic

/-!
# Channels and what alternates on them

A channel that keeps the order of its items may drop some. What is read, and then what is still to
be read, is then a sublist of what was written. A count that only grows, and that a larger start
never makes smaller, is therefore at most what it is for the writer. Such a count is how often two
kinds of items alternate.
-/

namespace Hdcp.Base

variable {α β : Type}

/-- What was read, and then what is still to be read, was written in this order, each item once. -/
def Intact (read queue written : List α) : Prop := (read ++ queue).Sublist written

namespace Intact

variable {read queue written : List α}

/-- Nothing was written. -/
theorem nil : Intact ([] : List α) [] [] := List.Sublist.refl []

/-- An item is written. -/
theorem writes (intact : Intact read queue written) (item : α) :
    Intact read (queue ++ [item]) (written ++ [item]) := by
  unfold Intact
  rw [← List.append_assoc]
  exact List.Sublist.append intact (List.Sublist.refl [item])

/-- The oldest item is read. -/
theorem reads {item : α} (intact : Intact read (item :: queue) written) :
    Intact (read ++ [item]) queue written := by
  unfold Intact
  rw [List.append_assoc]
  exact intact

/-- Items are dropped on their way. -/
theorem drops {kept : List α} (intact : Intact read queue written) (sub : kept.Sublist queue) :
    Intact read kept written :=
  (List.Sublist.append (List.Sublist.refl read) sub).trans intact

/-- What is read was written in this order. -/
theorem read_sublist (intact : Intact read queue written) : read.Sublist written :=
  (List.sublist_append_left read queue).trans intact

end Intact

section Counts

variable [Preorder β] {step : β → α → β}

/-- A fold that a larger start never makes smaller. -/
theorem foldl_mono (mono : ∀ item, Monotone fun count => step count item) (items : List α) :
    Monotone fun count => items.foldl step count := by
  induction items with
  | nil => exact monotone_id
  | cons item rest ih => exact fun _ _ less => ih (mono item less)

/-- A fold that only grows is at most what it is on a longer list. -/
theorem foldl_sublist_le (mono : ∀ item, Monotone fun count => step count item)
    (grows : ∀ count item, count ≤ step count item) {items all : List α}
    (sub : items.Sublist all) (count : β) : items.foldl step count ≤ all.foldl step count := by
  induction sub generalizing count with
  | slnil => exact le_refl count
  | @cons items all item sub ih =>
    exact (ih count).trans (foldl_mono mono all (grows count item))
  | cons_cons item sub ih => exact ih (step count item)

end Counts

section Alternations

variable (opens closes : α → Prop) [DecidablePred opens] [DecidablePred closes]

/-- An item of the kind that is awaited is counted. -/
def alternate (count : Nat) (item : α) : Nat :=
  if (if count % 2 = 0 then opens item else closes item) then count + 1 else count

/-- The items of a longest sublist in which the two kinds alternate, the first of them to begin. -/
def alternations (items : List α) : Nat := items.foldl (alternate opens closes) 0

/-- An item counts at most once. -/
theorem alternate_le (count : Nat) (item : α) :
    count ≤ alternate opens closes count item ∧ alternate opens closes count item ≤ count + 1 := by
  unfold alternate
  by_cases awaited : if count % 2 = 0 then opens item else closes item
  · rw [if_pos awaited]
    omega
  · rw [if_neg awaited]
    omega

/-- A larger count stays at least as large. -/
theorem alternate_mono (item : α) : Monotone fun count => alternate opens closes count item := by
  intro count other less
  rcases Nat.eq_or_lt_of_le less with rfl | more
  · exact le_refl _
  · have upper := (alternate_le opens closes count item).2
    have lower := (alternate_le opens closes other item).1
    dsimp only
    omega

/-- A reader counts no more than was written. -/
theorem alternations_le_of_sublist {items all : List α} (sub : items.Sublist all) :
    alternations opens closes items ≤ alternations opens closes all :=
  foldl_sublist_le (alternate_mono opens closes)
    (fun count item => (alternate_le opens closes count item).1) sub 0

/-- More items count no less. -/
theorem alternations_le_snoc (items : List α) (item : α) :
    alternations opens closes items ≤ alternations opens closes (items ++ [item]) :=
  alternations_le_of_sublist opens closes (List.sublist_append_left items [item])

/-- An item at the end is counted last. -/
theorem alternations_snoc (items : List α) (item : α) :
    alternations opens closes (items ++ [item]) =
      alternate opens closes (alternations opens closes items) item := by
  unfold alternations
  rw [List.foldl_append]
  rfl

variable {opens closes}

/-- An item of the first kind is counted unless more was before. -/
theorem alternations_open {items : List α} {item : α} {rounds : Nat} (kind : opens item)
    (before : 2 * rounds ≤ alternations opens closes items) :
    2 * rounds + 1 ≤ alternations opens closes (items ++ [item]) := by
  have grows := alternations_le_snoc opens closes items item
  by_cases same : alternations opens closes items = 2 * rounds
  · rw [alternations_snoc, same, alternate, if_pos]
    rw [if_pos (by omega)]
    exact kind
  · omega

/-- An item of the second kind is counted unless more was before. -/
theorem alternations_close {items : List α} {item : α} {rounds : Nat} (kind : closes item)
    (before : 2 * rounds + 1 ≤ alternations opens closes items) :
    2 * (rounds + 1) ≤ alternations opens closes (items ++ [item]) := by
  have grows := alternations_le_snoc opens closes items item
  by_cases same : alternations opens closes items = 2 * rounds + 1
  · rw [alternations_snoc, same, alternate, if_pos]
    · omega
    · rw [if_neg (by omega)]
      exact kind
  · omega

/-- While only items of the second kind end a round, the round goes on. -/
theorem alternations_within {items : List α} {item : α} {rounds : Nat} (kind : ¬ closes item)
    (before : alternations opens closes items ≤ 2 * rounds + 1) :
    alternations opens closes (items ++ [item]) ≤ 2 * rounds + 1 := by
  have most := (alternate_le opens closes (alternations opens closes items) item).2
  rw [alternations_snoc]
  by_cases same : alternations opens closes items = 2 * rounds + 1
  · rw [same, alternate, if_neg]
    rw [if_neg (by omega)]
    exact kind
  · omega

/-- Between two rounds an item of the first kind begins the next one. -/
theorem alternations_between {items : List α} {item : α} {rounds : Nat} (kind : ¬ opens item)
    (before : alternations opens closes items ≤ 2 * rounds) :
    alternations opens closes (items ++ [item]) ≤ 2 * rounds := by
  have most := (alternate_le opens closes (alternations opens closes items) item).2
  rw [alternations_snoc]
  by_cases same : alternations opens closes items = 2 * rounds
  · rw [same, alternate, if_neg]
    rw [if_pos (by omega)]
    exact kind
  · omega

end Alternations

end Hdcp.Base
