import Mathlib.Data.List.Basic

/-!
# Checksums that detect a change of two neighbours

A checksum is the state a fold ends in. When each step is injective in the state, a difference once
made is never lost; when two steps in a row are injective in their two elements, a change of two
neighbours makes one. Together they detect every change inside two adjacent elements.
-/

namespace Hdcp.Base

variable {α σ : Type}

/-- Two strings of one length that differ at most at a position and at the next. -/
structure Near (position : Nat) (left right : List α) : Prop where
  /-- The lengths. -/
  length : right.length = left.length
  /-- Every other element. -/
  same : ∀ offset, offset ≠ position → offset ≠ position + 1 → right[offset]? = left[offset]?

namespace Near

variable {position : Nat} {left right : List α}

/-- The beginnings of two such strings are two such strings. -/
theorem take (near : Near position left right) (count : Nat) :
    Near position (left.take count) (right.take count) := by
  refine ⟨?_, ?_⟩
  · rw [List.length_take, List.length_take, near.length]
  · intro offset other next
    rw [List.getElem?_take, List.getElem?_take, near.same offset other next]

/-- So are their ends; a position before the end counts as its first. -/
theorem drop (near : Near position left right) (count : Nat) :
    Near (position - count) (left.drop count) (right.drop count) := by
  refine ⟨?_, ?_⟩
  · rw [List.length_drop, List.length_drop, near.length]
  · intro offset other next
    rw [List.getElem?_drop, List.getElem?_drop]
    exact near.same (count + offset) (by omega) (by omega)

/-- A beginning before the position is the same. -/
theorem take_eq (near : Near position left right) (count : Nat) (before : count ≤ position) :
    right.take count = left.take count := by
  apply List.ext_getElem?
  intro offset
  rw [List.getElem?_take, List.getElem?_take]
  split
  · exact near.same offset (by omega) (by omega)
  · rfl

end Near

/-- A step that loses no difference of states and makes one of every two changed elements. -/
structure Sensitive (step : σ → α → σ) : Prop where
  /-- Different states lead to different states. -/
  state : ∀ element, Function.Injective fun state => step state element
  /-- Two different pairs of elements lead to different states. -/
  pair : ∀ state first second first' second',
    step (step state first) second = step (step state first') second' →
      first = first' ∧ second = second'

namespace Sensitive

variable {step : σ → α → σ}

/-- A string leads different states to different states. -/
theorem foldl_injective (sensitive : Sensitive step) (string : List α) :
    Function.Injective fun state => string.foldl step state := by
  induction string with
  | nil => exact fun _ _ same => same
  | cons element string ih => exact fun _ _ same => sensitive.state element (ih same)

/-- One element is detected, since a second one after it is. -/
theorem single (sensitive : Sensitive step) (state : σ) {element element' : α}
    (same : step state element = step state element') : element = element' :=
  (sensitive.pair state element element element' element (by rw [same])).1

/-- Strings of one checksum that differ at most in two neighbours do not differ. -/
theorem eq_of_foldl_eq (sensitive : Sensitive step) {position : Nat} {left right : List α}
    {state : σ} (near : Near position left right)
    (same : right.foldl step state = left.foldl step state) : right = left := by
  induction left generalizing right position state with
  | nil => exact List.eq_nil_of_length_eq_zero near.length
  | cons first rest ih =>
    cases right with
    | nil => exact absurd near.length (by simp)
    | cons first' rest' =>
      have behind : Near (position - 1) rest rest' := near.drop 1
      cases position with
      | succ position =>
        have front := Option.some.inj (near.same 0 (by omega) (by omega))
        subst front
        rw [ih behind same]
      | zero =>
        cases rest with
        | nil =>
          obtain rfl := List.eq_nil_of_length_eq_zero behind.length
          rw [sensitive.single state same]
        | cons second rest =>
          cases rest' with
          | nil => exact absurd behind.length (by simp)
          | cons second' rest' =>
            -- behind the two neighbours nothing differs, so the states before it are equal
            have equal : rest' = rest := by
              apply List.ext_getElem?
              intro offset
              exact near.same (offset + 2) (by omega) (by omega)
            subst equal
            obtain ⟨one, two⟩ := sensitive.pair state _ _ _ _
              (sensitive.foldl_injective rest' same)
            rw [one, two]

end Sensitive

end Hdcp.Base
