import Mathlib.Data.List.Nodup

/-!
# Sets with two unique indices

A multi-index container whose two indices are both unique: no two elements share their first key,
no two share their second. The uniqueness is part of the type, so that a search by either key finds
the only element there can be.
-/

namespace Hdcp.Base

/-- Elements no two of which share either key. -/
structure TwoIndex {α β γ : Type} (first : α → β) (second : α → γ) where
  /-- The elements. -/
  entries : List α
  /-- The first index is unique. -/
  nodup_first : (entries.map first).Nodup
  /-- The second index is unique. -/
  nodup_second : (entries.map second).Nodup

namespace TwoIndex

variable {α β γ : Type} {first : α → β} {second : α → γ}

/-- No element. -/
def empty : TwoIndex first second := ⟨[], List.nodup_nil, List.nodup_nil⟩

/-- A first key determines its element. -/
theorem eq_of_first {table : TwoIndex first second} {left right : α}
    (leftIn : left ∈ table.entries) (rightIn : right ∈ table.entries)
    (same : first left = first right) : left = right :=
  List.inj_on_of_nodup_map table.nodup_first leftIn rightIn same

/-- A second key determines its element. -/
theorem eq_of_second {table : TwoIndex first second} {left right : α}
    (leftIn : left ∈ table.entries) (rightIn : right ∈ table.entries)
    (same : second left = second right) : left = right :=
  List.inj_on_of_nodup_map table.nodup_second leftIn rightIn same

section First

variable [DecidableEq β]

/-- The element with a first key. -/
def findFirst (table : TwoIndex first second) (key : β) : Option α :=
  table.entries.find? fun entry => first entry = key

/-- Remove the element with a first key, if any. -/
def eraseFirst (table : TwoIndex first second) (key : β) : TwoIndex first second where
  entries := table.entries.filter fun entry => first entry ≠ key
  nodup_first := table.nodup_first.sublist (List.filter_sublist.map first)
  nodup_second := table.nodup_second.sublist (List.filter_sublist.map second)

/-- Change the element with a first key, in a way that keeps its keys. -/
def modifyFirst (table : TwoIndex first second) (key : β) (change : α → α)
    (keeps : ∀ entry, first (change entry) = first entry ∧ second (change entry) = second entry) :
    TwoIndex first second where
  entries := table.entries.map fun entry => if first entry = key then change entry else entry
  nodup_first := by
    have same :
      ∀ entry, first (if first entry = key then change entry else entry) = first entry := by
      intro entry
      split
      · exact (keeps entry).1
      · rfl
    simpa only [List.map_map, Function.comp_def, same] using table.nodup_first
  nodup_second := by
    have same : ∀ entry, second (if first entry = key then change entry else entry) =
        second entry := by
      intro entry
      split
      · exact (keeps entry).2
      · rfl
    simpa only [List.map_map, Function.comp_def, same] using table.nodup_second

/-- A search by first key finds exactly the element with that key. -/
theorem findFirst_eq_some_iff (table : TwoIndex first second) (key : β) (entry : α) :
    table.findFirst key = some entry ↔ entry ∈ table.entries ∧ first entry = key := by
  constructor
  · intro found
    exact ⟨List.mem_of_find?_eq_some found, by simpa using List.find?_some found⟩
  · rintro ⟨inside, rfl⟩
    cases found : table.findFirst (first entry) with
    | none =>
      have absent := List.find?_eq_none.mp found entry inside
      simp at absent
    | some other =>
      have otherIn := List.mem_of_find?_eq_some found
      have same : first other = first entry := by simpa using List.find?_some found
      rw [eq_of_first otherIn inside same]

/-- A search by first key fails exactly when no element has the key. -/
theorem findFirst_eq_none_iff (table : TwoIndex first second) (key : β) :
    table.findFirst key = none ↔ key ∉ table.entries.map first := by
  simp [findFirst, List.find?_eq_none]

/-- What remains after a removal by first key. -/
@[simp] theorem mem_eraseFirst (table : TwoIndex first second) (key : β) (entry : α) :
    entry ∈ (table.eraseFirst key).entries ↔ entry ∈ table.entries ∧ first entry ≠ key := by
  simp [eraseFirst]

/-- The first keys left after a removal by first key. -/
theorem map_first_eraseFirst (table : TwoIndex first second) (key : β) :
    (table.eraseFirst key).entries.map first = (table.entries.map first).filter (· ≠ key) := by
  rw [List.filter_map]
  rfl

/-- What a change by first key leaves. -/
theorem mem_modifyFirst (table : TwoIndex first second) (key : β) (change : α → α)
    (keeps : ∀ entry, first (change entry) = first entry ∧ second (change entry) = second entry)
    (entry : α) :
    entry ∈ (table.modifyFirst key change keeps).entries ↔
      (entry ∈ table.entries ∧ first entry ≠ key) ∨
        ∃ old ∈ table.entries, first old = key ∧ change old = entry := by
  simp only [modifyFirst, List.mem_map]
  constructor
  · rintro ⟨old, inside, rfl⟩
    by_cases chosen : first old = key
    · rw [if_pos chosen]
      exact .inr ⟨old, inside, chosen, rfl⟩
    · rw [if_neg chosen]
      exact .inl ⟨inside, chosen⟩
  · rintro (⟨inside, other⟩ | ⟨old, inside, chosen, rfl⟩)
    · exact ⟨entry, inside, if_neg other⟩
    · exact ⟨old, inside, if_pos chosen⟩

/-- A change by first key leaves the first keys. -/
@[simp] theorem map_first_modifyFirst (table : TwoIndex first second) (key : β) (change : α → α)
    (keeps : ∀ entry, first (change entry) = first entry ∧ second (change entry) = second entry) :
    (table.modifyFirst key change keeps).entries.map first = table.entries.map first := by
  simp only [modifyFirst, List.map_map]
  apply List.map_congr_left
  intro entry inside
  simp only [Function.comp_apply]
  split
  · exact (keeps entry).1
  · rfl

end First

section Second

variable [DecidableEq γ]

/-- The element with a second key. -/
def findSecond (table : TwoIndex first second) (key : γ) : Option α :=
  table.entries.find? fun entry => second entry = key

/-- Remove the element with a second key, if any. -/
def eraseSecond (table : TwoIndex first second) (key : γ) : TwoIndex first second where
  entries := table.entries.filter fun entry => second entry ≠ key
  nodup_first := table.nodup_first.sublist (List.filter_sublist.map first)
  nodup_second := table.nodup_second.sublist (List.filter_sublist.map second)

/-- A search by second key finds exactly the element with that key. -/
theorem findSecond_eq_some_iff (table : TwoIndex first second) (key : γ) (entry : α) :
    table.findSecond key = some entry ↔ entry ∈ table.entries ∧ second entry = key := by
  constructor
  · intro found
    exact ⟨List.mem_of_find?_eq_some found, by simpa using List.find?_some found⟩
  · rintro ⟨inside, rfl⟩
    cases found : table.findSecond (second entry) with
    | none =>
      have absent := List.find?_eq_none.mp found entry inside
      simp at absent
    | some other =>
      have otherIn := List.mem_of_find?_eq_some found
      have same : second other = second entry := by simpa using List.find?_some found
      rw [eq_of_second otherIn inside same]

/-- A search by second key fails exactly when no element has the key. -/
theorem findSecond_eq_none_iff (table : TwoIndex first second) (key : γ) :
    table.findSecond key = none ↔ key ∉ table.entries.map second := by
  simp [findSecond, List.find?_eq_none]

/-- What remains after a removal by second key. -/
@[simp] theorem mem_eraseSecond (table : TwoIndex first second) (key : γ) (entry : α) :
    entry ∈ (table.eraseSecond key).entries ↔ entry ∈ table.entries ∧ second entry ≠ key := by
  simp [eraseSecond]

end Second

section Both

variable [DecidableEq β] [DecidableEq γ]

/-- Add an element, unless one of its keys is taken. -/
def insert (table : TwoIndex first second) (entry : α) : Option (TwoIndex first second) :=
  if free : first entry ∉ table.entries.map first ∧ second entry ∉ table.entries.map second then
    some
      { entries := entry :: table.entries
        nodup_first := List.nodup_cons.mpr ⟨free.1, table.nodup_first⟩
        nodup_second := List.nodup_cons.mpr ⟨free.2, table.nodup_second⟩ }
  else none

/-- Insertion succeeds exactly when both keys are free, and adds just the element. -/
theorem insert_eq_some_iff (table next : TwoIndex first second) (entry : α) :
    table.insert entry = some next ↔
      first entry ∉ table.entries.map first ∧ second entry ∉ table.entries.map second ∧
        next.entries = entry :: table.entries := by
  obtain ⟨entries, nodupFirst, nodupSecond⟩ := next
  rw [insert]
  split
  · next free =>
    simp only [Option.some.injEq, mk.injEq, free, not_false_eq_true, true_and]
    exact eq_comm
  · next taken =>
    constructor
    · intro absurdity
      contradiction
    · rintro ⟨freeFirst, freeSecond, -⟩
      exact absurd ⟨freeFirst, freeSecond⟩ taken

/-- Insertion fails exactly when one of the keys is taken. -/
theorem insert_eq_none_iff (table : TwoIndex first second) (entry : α) :
    table.insert entry = none ↔
      first entry ∈ table.entries.map first ∨ second entry ∈ table.entries.map second := by
  rw [insert]
  split
  · next free => simp [free.1, free.2]
  · next taken => simpa [Classical.or_iff_not_imp_left] using taken

/-- Removing the element found by one key is removing it by its other key. -/
theorem eraseSecond_eq_eraseFirst (table : TwoIndex first second) (entry : α)
    (inside : entry ∈ table.entries) :
    (table.eraseSecond (second entry)).entries = (table.eraseFirst (first entry)).entries := by
  apply List.filter_congr
  intro other otherIn
  have agree : second other = second entry ↔ first other = first entry :=
    ⟨fun same => by rw [eq_of_second otherIn inside same],
      fun same => by rw [eq_of_first otherIn inside same]⟩
  simp only [ne_eq, decide_not, decide_eq_decide.mpr agree]

end Both

end TwoIndex

end Hdcp.Base
