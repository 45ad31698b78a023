import Mathlib.Data.List.Range
import Mathlib.Data.List.Sublists

/-!
# What becomes of the things given to a queue

Things are given one after another, wait in order, and leave from the front: they are sent. Some
never are, refused when they come or removed while they wait. A ledger records each of the four;
it balances when the things sent and those that wait are, in the order given, exactly those that
were neither refused nor removed.
-/

namespace Hdcp.Base

variable {α : Type}

/-- A thing with the number it was given under, counted from zero. -/
structure Numbered (α : Type) where
  /-- How many were given before it. -/
  number : Nat
  /-- The thing. -/
  value : α
  deriving DecidableEq

/-- The record of what was given. -/
structure Ledger (α : Type) where
  /-- Everything given, oldest first. -/
  posted : List (Numbered α)
  /-- Everything sent, oldest first. -/
  sent : List (Numbered α)
  /-- Everything refused. -/
  refused : List (Numbered α)
  /-- Everything removed. -/
  removed : List (Numbered α)

namespace Ledger

/-- Nothing was given yet. -/
def empty : Ledger α := ⟨[], [], [], []⟩

/-- The number and the value of the next thing given. -/
def next (ledger : Ledger α) (value : α) : Numbered α := ⟨ledger.posted.length, value⟩

/-- One more thing is given. -/
def post (ledger : Ledger α) (value : α) : Ledger α :=
  { ledger with posted := ledger.posted ++ [ledger.next value] }

/-- A thing is sent. -/
def send (ledger : Ledger α) (item : Numbered α) : Ledger α :=
  { ledger with sent := ledger.sent ++ [item] }

/-- A thing is refused. -/
def refuse (ledger : Ledger α) (item : Numbered α) : Ledger α :=
  { ledger with refused := ledger.refused ++ [item] }

/-- A thing is removed. -/
def remove (ledger : Ledger α) (item : Numbered α) : Ledger α :=
  { ledger with removed := ledger.removed ++ [item] }

variable [DecidableEq α]

/-- What was given and neither refused nor removed, oldest first. -/
def kept (ledger : Ledger α) : List (Numbered α) :=
  ledger.posted.filter fun item => item ∉ ledger.refused ∧ item ∉ ledger.removed

/-- The ledger balances with these things waiting. -/
structure Balanced (ledger : Ledger α) (waiting : List (Numbered α)) : Prop where
  /-- Things are numbered in the order given. -/
  numbers : ledger.posted.map Numbered.number = List.range ledger.posted.length
  /-- Sent or waiting is everything kept, in the order given. -/
  order : ledger.sent ++ waiting = ledger.kept
  /-- Only what was given is refused. -/
  refused : ∀ item ∈ ledger.refused, item ∈ ledger.posted
  /-- Only what was given is removed. -/
  removed : ∀ item ∈ ledger.removed, item ∈ ledger.posted

namespace Balanced

variable {ledger : Ledger α} {waiting : List (Numbered α)}

/-- An empty ledger balances. -/
theorem empty : (Ledger.empty : Ledger α).Balanced [] := by
  refine ⟨rfl, rfl, ?_, ?_⟩
  · intro item inside
    contradiction
  · intro item inside
    contradiction

/-- Nothing was given twice. -/
theorem nodup (balanced : ledger.Balanced waiting) : ledger.posted.Nodup := by
  have numbers : (ledger.posted.map Numbered.number).Nodup := by
    rw [balanced.numbers]
    exact List.nodup_range
  exact numbers.of_map _

/-- Whatever was given has a smaller number than what comes next. -/
theorem number_lt (balanced : ledger.Balanced waiting) {item : Numbered α}
    (posted : item ∈ ledger.posted) : item.number < ledger.posted.length := by
  have listed : item.number ∈ ledger.posted.map Numbered.number := List.mem_map_of_mem posted
  rw [balanced.numbers] at listed
  exact List.mem_range.mp listed

/-- What is sent is a subsequence of what was given. -/
theorem sent_sublist (balanced : ledger.Balanced waiting) : ledger.sent.Sublist ledger.posted := by
  have kept : (ledger.sent ++ waiting).Sublist ledger.posted := by
    rw [balanced.order]
    exact List.filter_sublist
  exact (List.sublist_append_left _ _).trans kept

/-- Nothing is sent twice. -/
theorem sent_nodup (balanced : ledger.Balanced waiting) : ledger.sent.Nodup :=
  balanced.sent_sublist.nodup balanced.nodup

/-- What was given and not sent was refused, was removed or waits. -/
theorem accounted (balanced : ledger.Balanced waiting) {item : Numbered α}
    (posted : item ∈ ledger.posted) (unsent : item ∉ ledger.sent) :
    item ∈ ledger.refused ∨ item ∈ ledger.removed ∨ item ∈ waiting := by
  by_cases refused : item ∈ ledger.refused
  · exact .inl refused
  · by_cases removed : item ∈ ledger.removed
    · exact .inr (.inl removed)
    · have kept : item ∈ ledger.sent ++ waiting := by
        rw [balanced.order]
        exact List.mem_filter.mpr ⟨posted, decide_eq_true ⟨refused, removed⟩⟩
      exact .inr (.inr ((List.mem_append.mp kept).resolve_left unsent))

/-- One more thing is given, and waits behind the others. -/
theorem post (balanced : ledger.Balanced waiting) (value : α) :
    (ledger.post value).Balanced (waiting ++ [ledger.next value]) := by
  have fresh : ledger.next value ∉ ledger.posted :=
    fun posted => Nat.lt_irrefl _ (balanced.number_lt posted)
  have unrefused : ledger.next value ∉ ledger.refused :=
    fun inside => fresh (balanced.refused _ inside)
  have unremoved : ledger.next value ∉ ledger.removed :=
    fun inside => fresh (balanced.removed _ inside)
  refine ⟨?_, ?_, ?_, ?_⟩
  · rw [Ledger.post, List.map_append, balanced.numbers, List.length_append, List.length_singleton,
      List.range_succ]
    rfl
  · have last : [ledger.next value].filter
        (fun item => item ∉ ledger.refused ∧ item ∉ ledger.removed) = [ledger.next value] := by
      simp [unrefused, unremoved]
    show ledger.sent ++ (waiting ++ [ledger.next value]) = (ledger.post value).kept
    rw [← List.append_assoc, balanced.order, kept, kept, Ledger.post, List.filter_append, last]
  · exact fun item inside => List.mem_append_left _ (balanced.refused item inside)
  · exact fun item inside => List.mem_append_left _ (balanced.removed item inside)

/-- What waits longest is sent. -/
theorem send {item : Numbered α} (balanced : ledger.Balanced (item :: waiting)) :
    (ledger.send item).Balanced waiting := by
  refine ⟨balanced.numbers, ?_, balanced.refused, balanced.removed⟩
  show (ledger.sent ++ [item]) ++ waiting = ledger.kept
  rw [List.append_assoc]
  exact balanced.order

/-- Of what is kept, everything but one thing that waits. -/
theorem kept_without {front back : List (Numbered α)} {item : Numbered α}
    (balanced : ledger.Balanced (front ++ item :: back)) :
    ledger.kept.filter (fun other => other ≠ item) = ledger.sent ++ (front ++ back) := by
  have once : ledger.kept.Nodup := balanced.nodup.sublist List.filter_sublist
  rw [← balanced.order, ← List.append_assoc] at once ⊢
  have absent := (List.nodup_cons.mp (List.nodup_middle.mp once)).1
  have stays : ∀ items : List (Numbered α), item ∉ items →
      items.filter (fun other => other ≠ item) = items := by
    intro items absent
    rw [List.filter_eq_self]
    intro other inside
    exact decide_eq_true fun same => absent (same ▸ inside)
  rw [List.filter_append, List.filter_cons_of_neg (by simp),
    stays _ fun inside => absent (List.mem_append_left _ inside),
    stays _ fun inside => absent (List.mem_append_right _ inside), List.append_assoc]

/-- A thing that waits is in the ledger. -/
theorem waiting_posted (balanced : ledger.Balanced waiting) {item : Numbered α}
    (inside : item ∈ waiting) : item ∈ ledger.posted := by
  have kept : item ∈ ledger.kept := by
    rw [← balanced.order]
    exact List.mem_append_right _ inside
  exact (List.mem_filter.mp kept).1

/-- A thing that waits is lost, one way or the other. -/
theorem lose {front back : List (Numbered α)} {item : Numbered α}
    (balanced : ledger.Balanced (front ++ item :: back)) {next : Ledger α}
    (posted : next.posted = ledger.posted) (sent : next.sent = ledger.sent)
    (lost : ∀ other, other ∈ next.refused ∨ other ∈ next.removed ↔
      (other ∈ ledger.refused ∨ other ∈ ledger.removed) ∨ other = item) :
    next.Balanced (front ++ back) := by
  have given := balanced.waiting_posted (List.mem_append_right _ List.mem_cons_self)
  have known : ∀ other, other ∈ next.refused ∨ other ∈ next.removed → other ∈ next.posted := by
    intro other inside
    rw [posted]
    rcases (lost other).mp inside with (refused | removed) | same
    · exact balanced.refused other refused
    · exact balanced.removed other removed
    · rw [same]
      exact given
  refine ⟨?_, ?_, fun other inside => known other (.inl inside),
    fun other inside => known other (.inr inside)⟩
  · rw [posted]
    exact balanced.numbers
  · rw [sent, ← balanced.kept_without, kept, kept, posted, List.filter_filter]
    refine List.filter_congr fun other _ => ?_
    rw [← Bool.decide_and]
    refine decide_eq_decide.mpr ?_
    have split := not_congr (lost other)
    rw [not_or, not_or, not_or] at split
    rw [split, and_comm]

/-- A thing that waits is refused after all. -/
theorem refuse {front back : List (Numbered α)} {item : Numbered α}
    (balanced : ledger.Balanced (front ++ item :: back)) :
    (ledger.refuse item).Balanced (front ++ back) := by
  refine balanced.lose rfl rfl fun other => ?_
  simp only [Ledger.refuse, List.mem_append, List.mem_singleton]
  exact or_right_comm

/-- A thing that waits is removed. -/
theorem remove {front back : List (Numbered α)} {item : Numbered α}
    (balanced : ledger.Balanced (front ++ item :: back)) :
    (ledger.remove item).Balanced (front ++ back) := by
  refine balanced.lose rfl rfl fun other => ?_
  simp only [Ledger.remove, List.mem_append, List.mem_singleton]
  exact or_assoc.symm

end Balanced

end Ledger

end Hdcp.Base
