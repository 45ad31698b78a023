import Hdcp.Base.Runs

/-!
# Simulation

A system simulates another when each step of the other between related states is a run of it.
-/

namespace Hdcp.Base

variable {σ ε ς δ : Type} {step : σ → ε → σ → Prop} {other : ς → δ → ς → Prop}

/-- Each step is a run of the other system, from every state related to the one before to some state
related to the one after. -/
def Simulated (related : σ → ς → Prop) (step : σ → ε → σ → Prop) (other : ς → δ → ς → Prop) :
    Prop :=
  ∀ state event next, step state event next → ∀ start, related state start →
    ∃ events finish, Run other start events finish ∧ related next finish

/-- A run of a simulated system is a run of the other. -/
theorem Run.simulated {related : σ → ς → Prop} (simulated : Simulated related step other)
    {start finish : σ} {events : List ε} (run : Run step start events finish) {place : ς}
    (begun : related start place) :
    ∃ events final, Run other place events final ∧ related finish final := by
  induction run generalizing place with
  | nil => exact ⟨[], place, .nil _, begun⟩
  | cons taken _ ih =>
    obtain ⟨front, middle, first, reached⟩ := simulated _ _ _ taken place begun
    obtain ⟨back, final, rest, ends⟩ := ih reached
    exact ⟨front ++ back, final, first.append rest, ends⟩

end Hdcp.Base
