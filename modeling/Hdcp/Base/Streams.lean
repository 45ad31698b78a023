import Mathlib.Data.List.Basic

/-!
# Announced streams

A stream passes from those who write to one who reads. Items that must not come before another kind
of item are announced when one of that kind is ahead of them.
-/

namespace Hdcp.Base

variable {α : Type}

section Announced

variable (opens needs : α → Prop)

/-- Each item that needs one ahead of it that opens has one, unless it was open before. -/
def Announced : Prop → List α → Prop
  | _, [] => True
  | opened, item :: rest => (needs item → opened) ∧ Announced (opened ∨ opens item) rest

instance decidableAnnounced [DecidablePred opens] [DecidablePred needs] :
    (opened : Prop) → [Decidable opened] → (items : List α) →
      Decidable (Announced opens needs opened items)
  | _, _, [] => isTrue trivial
  | opened, _, item :: rest =>
    have := decidableAnnounced (opened ∨ opens item) rest
    inferInstanceAs (Decidable ((needs item → opened) ∧ _))

variable {opens needs}

/-- What may come later may come when the stream is open before. -/
theorem Announced.mono {opened wider : Prop} {items : List α}
    (announced : Announced opens needs opened items) (wide : opened → wider) :
    Announced opens needs wider items := by
  induction items generalizing opened wider with
  | nil => exact trivial
  | cons item rest ih =>
    exact ⟨fun need => wide (announced.1 need), ih announced.2 (Or.imp_left wide)⟩

/-- A stream is announced when its parts are, the second after the first. -/
theorem announced_append (opened : Prop) (front back : List α) :
    Announced opens needs opened (front ++ back) ↔
      Announced opens needs opened front ∧
        Announced opens needs (opened ∨ ∃ item ∈ front, opens item) back := by
  induction front generalizing opened with
  | nil =>
    rw [List.nil_append, Announced, true_and]
    have same : (opened ∨ ∃ item ∈ ([] : List α), opens item) ↔ opened := by simp
    constructor
    · intro announced
      exact announced.mono same.mpr
    · intro announced
      exact announced.mono same.mp
  | cons item front ih =>
    rw [List.cons_append, Announced, ih, Announced, and_assoc]
    have same : ((opened ∨ opens item) ∨ ∃ later ∈ front, opens later) ↔
        (opened ∨ ∃ later ∈ item :: front, opens later) := by
      simp only [List.mem_cons, exists_eq_or_imp, or_assoc]
    refine and_congr Iff.rfl (and_congr Iff.rfl ?_)
    constructor
    · intro announced
      exact announced.mono same.mp
    · intro announced
      exact announced.mono same.mpr

/-- An item goes at the end of an announced stream when it needs nothing or the stream is open. -/
theorem Announced.snoc {opened : Prop} {items : List α} {item : α}
    (announced : Announced opens needs opened items)
    (fine : needs item → opened ∨ ∃ ahead ∈ items, opens ahead) :
    Announced opens needs opened (items ++ [item]) :=
  (announced_append opened items [item]).mpr ⟨announced, fine, trivial⟩

/-- The front of an announced stream. -/
theorem Announced.front {opened : Prop} {items back : List α}
    (announced : Announced opens needs opened (items ++ back)) :
    Announced opens needs opened items :=
  ((announced_append opened items back).mp announced).1

end Announced

end Hdcp.Base
