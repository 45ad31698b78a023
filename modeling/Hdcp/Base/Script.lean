import Hdcp.Base.Runs
import Hdcp.Base.Stateful

/-!
# Scripts

Code that other threads interrupt is a list of tasks; performing one may put others before the rest.
A script that nothing interrupts leads to an outcome, and so does an action: where the two agree
from every state, the action is what the script does in one piece. A system of threads runs a script
undisturbed when one of its threads takes all the turns.
-/

namespace Hdcp.Base

open EStateM (Result)

universe u

variable {ε σ : Type u} {α : Type u} (perform : α → EStateM ε σ (List α))

/-- Performing tasks to the end, or to an exception, without interruption. -/
inductive Completes : List α → σ → Result ε σ PUnit → Prop where
  /-- Nothing is left. -/
  | done (state : σ) : Completes [] state (.ok ⟨⟩ state)
  /-- The first task, what it leaves to do, and the rest. -/
  | next {task : α} {rest more : List α} {state middle : σ} {result : Result ε σ PUnit}
      (performed : perform task state = .ok more middle)
      (completes : Completes (more ++ rest) middle result) :
        Completes (task :: rest) state result
  /-- An exception of the first task ends the script. -/
  | throws {task : α} {rest : List α} {state final : σ} {error : ε}
      (thrown : perform task state = .error error final) :
        Completes (task :: rest) state (.error error final)

/-- The script is the action, taken apart. -/
def Spells (script : List α) (action : EStateM ε σ PUnit) : Prop :=
  ∀ state, Completes perform script state (action state)

variable {perform}

/-- An exception ends a longer script as well. -/
theorem Completes.append_error {script : List α} {state final : σ} {error : ε}
    (completes : Completes perform script state (.error error final)) (rest : List α) :
    Completes perform (script ++ rest) state (.error error final) := by
  generalize same : (Result.error error final : Result ε σ PUnit) = result at completes ⊢
  induction completes with
  | done state => contradiction
  | next performed _ ih =>
    refine .next performed ?_
    have later := ih same
    rw [List.append_assoc] at later
    exact later
  | throws thrown => exact .throws thrown

/-- One script after another. -/
theorem Completes.append {script rest : List α} {state middle : σ} {result : Result ε σ PUnit}
    (first : Completes perform script state (.ok ⟨⟩ middle))
    (second : Completes perform rest middle result) :
    Completes perform (script ++ rest) state result := by
  generalize same : (Result.ok ⟨⟩ middle : Result ε σ PUnit) = passed at first
  induction first with
  | done state =>
    cases same
    exact second
  | next performed _ ih =>
    refine .next performed ?_
    have later := ih same
    rw [List.append_assoc] at later
    exact later
  | throws thrown => contradiction

/-- What a script leads to is determined. -/
theorem Completes.unique {script : List α} {state : σ} {first second : Result ε σ PUnit}
    (one : Completes perform script state first) (other : Completes perform script state second) :
    first = second := by
  induction one with
  | done state =>
    cases other
    rfl
  | next performed _ ih =>
    cases other with
    | next again completes =>
      rw [performed] at again
      cases again
      exact ih completes
    | throws thrown =>
      rw [performed] at thrown
      contradiction
  | throws thrown =>
    cases other with
    | next again completes =>
      rw [thrown] at again
      contradiction
    | throws again =>
      rw [thrown] at again
      cases again
      rfl

namespace Spells

/-- No task is no statement. -/
theorem nil : Spells perform [] (pure ⟨⟩) := fun state => .done state

/-- Two scripts are two actions. -/
theorem append {first second : List α} {action other : EStateM ε σ PUnit}
    (one : Spells perform first action) (two : Spells perform second other) :
    Spells perform (first ++ second) (action >>= fun _ => other) := by
  intro state
  have begun := one state
  rw [bind_apply]
  cases outcome : action state with
  | ok value middle =>
    rw [outcome] at begun
    exact begun.append (two middle)
  | error error middle =>
    rw [outcome] at begun
    exact begun.append_error second

/-- A task is an action, and what it leaves to do depends on what that returns. -/
theorem task {β : Type u} {task : α} {action : EStateM ε σ β} {more : β → List α}
    {rest : β → EStateM ε σ PUnit}
    (performs : perform task = action >>= fun value => pure (more value))
    (spells : ∀ value, Spells perform (more value) (rest value)) :
    Spells perform [task] (action >>= rest) := by
  intro state
  have first : perform task state = (action >>= fun value => pure (more value)) state := by
    rw [performs]
  rw [bind_apply] at first ⊢
  cases outcome : action state with
  | ok value middle =>
    rw [outcome] at first
    refine .next first ?_
    rw [List.append_nil]
    exact spells value middle
  | error error middle =>
    rw [outcome] at first
    exact .throws first

/-- A task that leaves nothing to do. -/
theorem single {task : α} {action : EStateM ε σ PUnit}
    (performs : perform task = action >>= fun _ => pure []) : Spells perform [task] action := by
  have spelled : Spells perform [task] (action >>= fun value => pure value) :=
    Spells.task performs fun _ => nil
  rwa [bind_pure] at spelled

/-- A task that looks for something, and does and leaves more when it finds it. -/
theorem found {β : Type u} {task : α} {action : EStateM ε σ (Option β)}
    (early rest : β → EStateM ε σ PUnit) (more : β → List α)
    (performs : perform task = action >>= fun found =>
      found.elim (pure []) fun value => early value >>= fun _ => pure (more value))
    (spells : ∀ value, Spells perform (more value) (rest value)) :
    Spells perform [task] (action >>= fun found =>
      found.elim (pure ⟨⟩) fun value => early value >>= fun _ => rest value) := by
  let taken (found : Option β) : EStateM ε σ (Option β) :=
    found.elim (pure none) fun value => early value >>= fun _ => pure (some value)
  have first : perform task = (action >>= taken) >>= fun found => pure (found.elim [] more) := by
    rw [performs, bind_assoc]
    congr 1
    funext found
    cases found with
    | none => rfl
    | some value => simp only [taken, Option.elim_some, bind_assoc, pure_bind]
  have whole : (action >>= fun found =>
      found.elim (pure ⟨⟩) fun value => early value >>= fun _ => rest value) =
        (action >>= taken) >>= fun found => found.elim (pure ⟨⟩) rest := by
    rw [bind_assoc]
    congr 1
    funext found
    cases found with
    | none => rfl
    | some value => simp only [taken, Option.elim_some, bind_assoc, pure_bind]
  rw [whole]
  apply Spells.task first
  intro found
  cases found with
  | none => exact nil
  | some value => exact spells value

end Spells

section Turns

variable {ς τ : Type} {step : ς → τ → ς → Prop} {turn : τ}

/-- Where a turn that ends with an outcome leaves a system. -/
def Arrives {β : Type u} (stands : β → σ → ς → Prop) (fails : ε → σ → ς → Prop) :
    Result ε σ β → ς → Prop
  | .ok value state => stands value state
  | .error error state => fails error state

/-- A thread that takes all the turns performs its script to the end, or to an exception. -/
theorem Completes.run (stands : List α → σ → ς → Prop) (fails : ε → σ → ς → Prop)
    (turns : ∀ task rest state system, stands (task :: rest) state system → ∃ next,
      step system turn next ∧
        Arrives (fun more => stands (more ++ rest)) fails (perform task state) next)
    {script : List α} {state : σ} {result : Result ε σ PUnit}
    (completes : Completes perform script state result) {system : ς}
    (begun : stands script state system) :
    ∃ count final, Run step system (List.replicate count turn) final ∧
      Arrives (fun _ => stands []) fails result final := by
  induction completes generalizing system with
  | done state => exact ⟨0, system, .nil _, begun⟩
  | next performed _ ih =>
    obtain ⟨next, taken, arrived⟩ := turns _ _ _ _ begun
    rw [performed] at arrived
    obtain ⟨count, final, run, reached⟩ := ih arrived
    exact ⟨count + 1, final, .cons taken run, reached⟩
  | throws thrown =>
    obtain ⟨next, taken, arrived⟩ := turns _ _ _ _ begun
    rw [thrown] at arrived
    exact ⟨1, next, .cons taken (.nil _), arrived⟩

/-- A thread that takes all the turns goes from place to place until one is an end. -/
theorem follow_run {ended : α → Bool} {statement : α → EStateM ε σ α}
    (stands : α → σ → ς → Prop) (fails : ε → σ → ς → Prop)
    (turns : ∀ place state system, ended place = false → stands place state system → ∃ next,
      step system turn next ∧ Arrives stands fails (statement place state) next)
    (fuel : Nat) {place : α} {state : σ} {system : ς} (begun : stands place state system) :
    ∃ count final, Run step system (List.replicate count turn) final ∧
      Arrives stands fails (follow ended statement fuel place state) final := by
  induction fuel generalizing place state system with
  | zero => exact ⟨0, system, .nil _, begun⟩
  | succ fuel ih =>
    cases finished : ended place with
    | true =>
      rw [follow_ended _ _ _ finished]
      exact ⟨0, system, .nil _, begun⟩
    | false =>
      obtain ⟨next, taken, arrived⟩ := turns place state system finished begun
      rw [follow_next _ _ _ finished, bind_apply]
      cases outcome : statement place state with
      | error error final =>
        rw [outcome] at arrived
        exact ⟨1, next, .cons taken (.nil _), arrived⟩
      | ok later middle =>
        rw [outcome] at arrived
        obtain ⟨count, final, run, reached⟩ := ih arrived
        exact ⟨count + 1, final, .cons taken run, reached⟩

end Turns

end Hdcp.Base
