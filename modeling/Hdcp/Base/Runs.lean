import Mathlib.Data.List.Basic

/-!
# Runs of a labelled transition system

A system is a step relation between states, labelled by events. A run is a finite sequence of
steps. What every step preserves, every run preserves; a condition asked of every step is the run
of a guarded system.
-/

namespace Hdcp.Base

variable {σ ε : Type}

/-- The states a sequence of events leads between. -/
inductive Run (step : σ → ε → σ → Prop) : σ → List ε → σ → Prop where
  /-- No event. -/
  | nil (start : σ) : Run step start [] start
  /-- One event, then the rest. -/
  | cons {start middle finish : σ} {event : ε} {events : List ε} :
      step start event middle → Run step middle events finish →
        Run step start (event :: events) finish

/-- The system whose steps are those that meet a condition on the state and the event. -/
def Guarded (good : σ → ε → Prop) (step : σ → ε → σ → Prop) : σ → ε → σ → Prop :=
  fun state event next => good state event ∧ step state event next

namespace Run

variable {step : σ → ε → σ → Prop}

/-- One run after another. -/
theorem append {start middle finish : σ} {front back : List ε}
    (first : Run step start front middle) (second : Run step middle back finish) :
    Run step start (front ++ back) finish := by
  induction first with
  | nil => exact second
  | cons taken _ ih => exact .cons taken (ih second)

/-- A run of joined event lists passes through a state between them. -/
theorem split {start finish : σ} {front back : List ε}
    (run : Run step start (front ++ back) finish) :
    ∃ middle, Run step start front middle ∧ Run step middle back finish := by
  induction front generalizing start with
  | nil => exact ⟨start, .nil start, run⟩
  | cons event front ih =>
    cases run with
    | cons taken rest =>
      obtain ⟨middle, first, second⟩ := ih rest
      exact ⟨middle, .cons taken first, second⟩

/-- What each step preserves, a run preserves. -/
theorem invariant {holds : σ → Prop}
    (preserved : ∀ state event next, holds state → step state event next → holds next)
    {start finish : σ} {events : List ε} (run : Run step start events finish)
    (initial : holds start) : holds finish := by
  induction run with
  | nil => exact initial
  | cons taken _ ih => exact ih (preserved _ _ _ initial taken)

/-- A run of a system whose steps are steps of another is a run of the other. -/
theorem mono {other : σ → ε → σ → Prop}
    (weaker : ∀ state event next, step state event next → other state event next)
    {start finish : σ} {events : List ε} (run : Run step start events finish) :
    Run other start events finish := by
  induction run with
  | nil => exact .nil _
  | cons taken _ ih => exact .cons (weaker _ _ _ taken) ih

/-- Where an invariant holds, steps of one system may have to be compared with another's only in
the states it allows. -/
theorem mono_of {other : σ → ε → σ → Prop} (holds : σ → Prop)
    (weaker : ∀ state event next, holds state → step state event next →
      other state event next ∧ holds next)
    {start finish : σ} {events : List ε} (run : Run step start events finish)
    (initial : holds start) : Run other start events finish := by
  induction run with
  | nil => exact .nil _
  | cons taken _ ih =>
    obtain ⟨same, kept⟩ := weaker _ _ _ initial taken
    exact .cons same (ih kept)

/-- A guarded run is a run. -/
theorem unguarded {good : σ → ε → Prop} {start finish : σ} {events : List ε}
    (run : Run (Guarded good step) start events finish) : Run step start events finish :=
  run.mono fun _ _ _ taken => taken.2

/-- A run whose events all meet a condition is a guarded run. -/
theorem guarded {good : ε → Prop} {start finish : σ} {events : List ε}
    (run : Run step start events finish) (all : ∀ event ∈ events, good event) :
    Run (Guarded (fun _ event => good event) step) start events finish := by
  induction run with
  | nil => exact .nil _
  | cons taken _ ih =>
    exact .cons ⟨all _ List.mem_cons_self, taken⟩
      (ih fun event inside => all event (List.mem_cons_of_mem _ inside))

/-- A run has a last step of some kind, or none at all. -/
theorem last_or_none {start finish : σ} {events : List ε} (bad : σ → ε → Prop)
    (run : Run step start events finish) :
    Run (Guarded (fun state event => ¬ bad state event) step) start events finish ∨
      ∃ front event back before next, events = front ++ event :: back ∧
        Run step start front before ∧ bad before event ∧ step before event next ∧
          Run (Guarded (fun state event => ¬ bad state event) step) next back finish := by
  induction run with
  | nil => exact .inl (.nil _)
  | @cons start middle finish event events taken rest ih =>
    rcases ih with none | ⟨front, last, back, before, next, same, run, found, lasts, quiet⟩
    · by_cases found : bad start event
      · exact .inr ⟨[], event, events, start, middle, rfl, .nil _, found, taken, none⟩
      · exact .inl (.cons ⟨found, taken⟩ none)
    · exact .inr ⟨event :: front, last, back, before, next, by rw [same]; rfl, .cons taken run,
        found, lasts, quiet⟩

end Run

/-- The step relation of a partial step function. -/
def Steps (next : σ → ε → Option σ) : σ → ε → σ → Prop :=
  fun state event result => next state event = some result

/-- The state a partial step function reaches over a list of events. -/
def execute (next : σ → ε → Option σ) : σ → List ε → Option σ
  | state, [] => some state
  | state, event :: events =>
    match next state event with
    | none => none
    | some result => execute next result events

/-- Executing is running. -/
theorem execute_eq_some_iff (next : σ → ε → Option σ) (start finish : σ) (events : List ε) :
    execute next start events = some finish ↔ Run (Steps next) start events finish := by
  induction events generalizing start with
  | nil =>
    constructor
    · intro same
      obtain rfl := Option.some.inj same
      exact .nil _
    · intro run
      cases run
      rfl
  | cons event events ih =>
    constructor
    · intro reached
      rw [execute] at reached
      cases taken : next start event with
      | none => simp [taken] at reached
      | some result =>
        simp only [taken] at reached
        exact .cons taken ((ih result).mp reached)
    · intro run
      cases run with
      | cons taken rest =>
        rw [execute, taken]
        exact (ih _).mpr rest

/-- Events lead to one state. -/
theorem Run.deterministic {next : σ → ε → Option σ} {start first second : σ} {events : List ε}
    (run : Run (Steps next) start events first) (other : Run (Steps next) start events second) :
    first = second := by
  have reached := (execute_eq_some_iff next start first events).mpr run
  rw [(execute_eq_some_iff next start second events).mpr other] at reached
  exact (Option.some.inj reached).symm

/-- Where an invariant gives safety, steps that meet a condition keep it and other steps end in an
unsafe state, a run is safe throughout exactly when all its steps meet the condition. -/
theorem Run.throughout_iff {next : σ → ε → Option σ} {holds safe : σ → Prop} {good : σ → ε → Prop}
    (gives : ∀ state, holds state → safe state)
    (kept : ∀ state event result, holds state → good state event →
      Steps next state event result → holds result)
    (broken : ∀ state event result, holds state → ¬ good state event →
      Steps next state event result → ¬ safe result)
    {start finish : σ} {events : List ε} (run : Run (Steps next) start events finish)
    (initial : holds start) :
    (∀ front back middle, events = front ++ back → Run (Steps next) start front middle →
      safe middle) ↔ Run (Guarded good (Steps next)) start events finish := by
  constructor
  · intro throughout
    induction run with
    | nil => exact .nil _
    | @cons start middle finish event events taken rest ih =>
      by_cases fine : good start event
      · refine .cons ⟨fine, taken⟩ (ih (kept start event middle initial fine taken) ?_)
        intro front back later same passed
        exact throughout (event :: front) back later (by rw [same]; rfl) (.cons taken passed)
      · -- the state right after the event is on the run
        have now := throughout [event] events middle rfl (.cons taken (.nil middle))
        exact absurd now (broken start event middle initial fine taken)
  · intro guarded front back middle same passed
    rw [same] at guarded
    obtain ⟨reached, first, -⟩ := guarded.split
    have one : reached = middle := first.unguarded.deterministic passed
    rw [← one]
    have keeps (state : σ) (event : ε) (result : σ) (standing : holds state)
        (taken : Guarded good (Steps next) state event result) : holds result :=
      kept state event result standing taken.1 taken.2
    exact gives reached (first.invariant keeps initial)

/-- Executing under a condition is running the guarded system. -/
theorem run_of_execute_guarded (good : σ → ε → Prop) [∀ state event, Decidable (good state event)]
    (next : σ → ε → Option σ) (start finish : σ) (events : List ε)
    (executed : execute (fun state event => if good state event then next state event else none)
      start events = some finish) : Run (Guarded good (Steps next)) start events finish := by
  refine ((execute_eq_some_iff _ _ _ _).mp executed).mono ?_
  intro state event result taken
  unfold Steps at taken
  dsimp only at taken
  split at taken
  · next fine => exact ⟨fine, taken⟩
  · contradiction

end Hdcp.Base
