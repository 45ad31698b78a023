import Mathlib.Data.List.Basic

/-!
# Byte strings

Two-byte words in little-endian order, the first occurrence of a needle in a list, and
windows of a list. Reading a word back returns the word written, and reading at an offset
past some leading elements is reading the rest.
-/

namespace Hdcp.Base

/-- A byte string; positions count from its first byte. -/
abbrev Bytes := List UInt8

/-- The two bytes of a word, low byte first. -/
def le16 (word : UInt16) : Bytes :=
  [word.toUInt8, UInt8.ofNat (word.toNat / 256)]

/-- The word whose low byte comes first. -/
def word16 (low high : UInt8) : UInt16 := UInt16.ofNat (low.toNat + 256 * high.toNat)

/-- The byte at an offset, zero past the end. -/
def byteAt (bytes : Bytes) (offset : Nat) : UInt8 := bytes.getD offset 0

/-- The little-endian word at an offset. -/
def wordAt (bytes : Bytes) (offset : Nat) : UInt16 :=
  word16 (byteAt bytes offset) (byteAt bytes (offset + 1))

/-- A word is two bytes long. -/
@[simp] theorem le16_length (word : UInt16) : (le16 word).length = 2 := rfl

/-- The two bytes of a word read back as the word. -/
@[simp] theorem word16_le16 (word : UInt16) :
    word16 word.toUInt8 (UInt8.ofNat (word.toNat / 256)) = word := by
  have bound := word.toNat_lt
  apply UInt16.toNat_inj.mp
  simp only [word16, UInt16.toNat_toUInt8, UInt8.toNat_ofNat', UInt16.toNat_ofNat']
  omega

/-- Writing the word read from two bytes gives the two bytes. -/
theorem le16_word16 (low high : UInt8) : le16 (word16 low high) = [low, high] := by
  have lowBound := low.toNat_lt
  have highBound := high.toNat_lt
  have value : (word16 low high).toNat = low.toNat + 256 * high.toNat := by
    simp only [word16, UInt16.toNat_ofNat']
    omega
  simp only [le16, value, List.cons.injEq, and_true]
  constructor
  · apply UInt8.toNat_inj.mp
    simp only [UInt16.toNat_toUInt8, value]
    omega
  · apply UInt8.toNat_inj.mp
    simp only [UInt8.toNat_ofNat']
    omega

/-- A byte read from a long enough beginning of a string is the string's. -/
theorem byteAt_take (bytes : Bytes) (count offset : Nat) (inside : offset < count) :
    byteAt (bytes.take count) offset = byteAt bytes offset := by
  simp [byteAt, inside]

/-- A word read from a long enough beginning of a string is the string's. -/
theorem wordAt_take (bytes : Bytes) (count offset : Nat) (inside : offset + 1 < count) :
    wordAt (bytes.take count) offset = wordAt bytes offset := by
  rw [wordAt, wordAt, byteAt_take bytes count offset (by omega),
    byteAt_take bytes count (offset + 1) inside]

section Search

variable {α : Type} [DecidableEq α]

/-- The offset at which a needle first occurs. -/
def firstOccurrence (needle : List α) : List α → Option Nat
  | [] => if needle.isPrefixOf [] then some 0 else none
  | head :: tail =>
    if needle.isPrefixOf (head :: tail) then some 0
    else (firstOccurrence needle tail).map (· + 1)

/-- A needle at the front is found at once. -/
theorem firstOccurrence_append (needle back : List α) :
    firstOccurrence needle (needle ++ back) = some 0 := by
  cases appended : needle ++ back with
  | nil =>
    obtain ⟨rfl, -⟩ := List.append_eq_nil_iff.mp appended
    rfl
  | cons head tail =>
    have front : needle.isPrefixOf (head :: tail) = true :=
      List.isPrefixOf_iff_prefix.mpr ⟨back, appended⟩
    simp [firstOccurrence, front]

/-- The offset found is one at which the needle stands, and no smaller offset is. -/
theorem firstOccurrence_eq_some_iff (needle hay : List α) (offset : Nat) :
    firstOccurrence needle hay = some offset ↔
      offset ≤ hay.length ∧ needle <+: hay.drop offset ∧
        ∀ earlier < offset, ¬ needle <+: hay.drop earlier := by
  induction hay generalizing offset with
  | nil =>
    by_cases empty : needle = []
    · subst empty
      cases offset with
      | zero => simp [firstOccurrence]
      | succ offset => simp [firstOccurrence]
    · have absent : needle.isPrefixOf ([] : List α) = false := by
        cases needle with
        | nil => exact absurd rfl empty
        | cons head tail => rfl
      simp [firstOccurrence, absent, empty]
  | cons head tail ih =>
    by_cases front : needle.isPrefixOf (head :: tail)
    · have stands := List.isPrefixOf_iff_prefix.mp front
      cases offset with
      | zero => simp [firstOccurrence, front, stands]
      | succ offset =>
        simp only [firstOccurrence, front, ↓reduceIte, Option.some.injEq]
        constructor
        · intro absurdity
          omega
        · rintro ⟨-, -, none⟩
          exact absurd (by simpa using stands) (none 0 (by omega))
    · have absent : ¬ needle <+: head :: tail :=
        fun stands => front (List.isPrefixOf_iff_prefix.mpr stands)
      cases offset with
      | zero => simp [firstOccurrence, front, absent]
      | succ offset =>
        simp only [firstOccurrence, front, Bool.false_eq_true, ↓reduceIte, Option.map_eq_some_iff,
          Nat.add_right_cancel_iff, exists_eq_right, ih, List.length_cons, List.drop_succ_cons,
          Nat.add_le_add_iff_right]
        refine and_congr_right fun _ => and_congr_right fun _ => ⟨fun none => ?_, fun none => ?_⟩
        · intro earlier below
          cases earlier with
          | zero => simpa using absent
          | succ earlier => simpa using none earlier (by omega)
        · intro earlier below
          simpa using none (earlier + 1) (by omega)

end Search

end Hdcp.Base
