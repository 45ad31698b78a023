import Hdcp.Base.Bytes

/-!
# Memory read through views

A view is an offset and a size. Reading one reads all of its bytes, and a byte outside the memory
is an outcome of its own, as is a loop that exceeds its bound. The search for a needle looks at
one window after the other, and never at one that leaves the view it searches.
-/

namespace Hdcp.Base

variable {ε α : Type}

/-- Why code that reads memory does not return. -/
inductive Stop (ε : Type) where
  /-- It threw an exception. -/
  | thrown (error : ε)
  /-- It read a byte outside the memory. -/
  | readOutside
  /-- It stored a byte outside its destination. -/
  | storedOutside
  /-- A loop went on beyond its bound. -/
  | endless

/-- The result of code that does not read memory. -/
def raised (result : Except ε α) : Except (Stop ε) α := result.mapError .thrown

/-- The bytes of a view, all of them read. -/
def readView (memory : Bytes) (offset size : Nat) : Except (Stop ε) Bytes :=
  if offset + size ≤ memory.length then .ok ((memory.drop offset).take size)
  else .error .readOutside

/-- A view inside the memory is read. -/
theorem readView_inside (memory : Bytes) (offset size : Nat)
    (inside : offset + size ≤ memory.length) :
    readView memory offset size = (.ok ((memory.drop offset).take size) : Except (Stop ε) Bytes) :=
  if_pos inside

/-- `std::string_view::find`, from a position on: the windows of the needle's size that end inside
the view, one after the other. -/
def findFrom (memory needle : Bytes) (size : Nat) : Nat → Nat → Except (Stop ε) (Option Nat)
  | 0, _ => .error .endless
  | fuel + 1, pos =>
    if pos + needle.length ≤ size then do
      let window ← readView memory pos needle.length
      if window = needle then .ok (some pos) else findFrom memory needle size fuel (pos + 1)
    else .ok none

/-- A needle is a prefix exactly when the window of its size is it. -/
theorem prefix_iff_take (needle hay : Bytes) :
    needle <+: hay ↔ hay.take needle.length = needle := by
  rw [List.prefix_iff_eq_take]
  exact eq_comm

/-- A needle that is too long occurs nowhere. -/
theorem firstOccurrence_of_short (needle hay : Bytes) (short : hay.length < needle.length) :
    firstOccurrence needle hay = none := by
  cases found : firstOccurrence needle hay with
  | none => rfl
  | some offset =>
    obtain ⟨-, stands, -⟩ := (firstOccurrence_eq_some_iff needle hay offset).mp found
    have bound := stands.length_le
    rw [List.length_drop] at bound
    omega

/-- The search reads inside the memory, ends, and finds the first occurrence. -/
theorem findFrom_eq (memory needle : Bytes) (fuel pos : Nat) (start : pos ≤ memory.length)
    (enough : memory.length < fuel + pos) (nonempty : 0 < needle.length) :
    findFrom memory needle memory.length fuel pos =
      (.ok ((firstOccurrence needle (memory.drop pos)).map (· + pos)) :
        Except (Stop ε) (Option Nat)) := by
  induction fuel generalizing pos with
  | zero => omega
  | succ fuel ih =>
    have left : (memory.drop pos).length = memory.length - pos := List.length_drop
    by_cases inside : pos + needle.length ≤ memory.length
    · cases rest : memory.drop pos with
      | nil =>
        rw [rest, List.length_nil] at left
        omega
      | cons head tail =>
        have next : memory.drop (pos + 1) = tail := by
          rw [← List.drop_drop, rest, List.drop_succ_cons, List.drop_zero]
        rw [findFrom, if_pos inside, readView_inside memory pos needle.length inside, rest]
        by_cases stands : (head :: tail).take needle.length = needle
        · have front : needle.isPrefixOf (head :: tail) = true :=
            List.isPrefixOf_iff_prefix.mpr ((prefix_iff_take _ _).mpr stands)
          simp only [bind, Except.bind, stands, ↓reduceIte, firstOccurrence, front,
            Option.map_some, Nat.zero_add]
        · have absent : needle.isPrefixOf (head :: tail) = false := by
            rw [← Bool.not_eq_true]
            exact fun front =>
              stands ((prefix_iff_take _ _).mp (List.isPrefixOf_iff_prefix.mp front))
          simp only [bind, Except.bind, stands, firstOccurrence, absent, Bool.false_eq_true,
            ↓reduceIte]
          rw [ih (pos + 1) (by omega) (by omega), next, Option.map_map]
          congr 2
          funext offset
          simp only [Function.comp_apply]
          omega
    · rw [findFrom, if_neg inside, firstOccurrence_of_short needle _ (by rw [left]; omega)]
      rfl

/-- A needle at the front of the memory is found at once. -/
theorem findFrom_front (memory needle : Bytes) (size fuel : Nat) (stands : needle <+: memory)
    (room : needle.length ≤ size) :
    findFrom memory needle size (fuel + 1) 0 = (.ok (some 0) : Except (Stop ε) (Option Nat)) := by
  have inside := stands.length_le
  have window := (prefix_iff_take needle memory).mp stands
  rw [findFrom, if_pos (by omega), readView_inside memory 0 _ (by omega), List.drop_zero, window]
  simp only [bind, Except.bind, ↓reduceIte]

end Hdcp.Base
