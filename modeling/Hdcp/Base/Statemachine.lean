import Hdcp.Base.Stateful

/-!
# Table-driven state machines

A machine has for each of its states a list of entries: a state to go to, and a function that says
whether to go there. A wakeup runs the entries of the current state in order until one says to go;
an exception ends it in the same state. Other threads run between the entries, so an entry is one
step here, and one more when its function ends by waiting.
-/

namespace Hdcp.Base

/-- What the function of an entry says. -/
inductive TransitionStatus where
  | stayCurrState
  | gotoNextState
  deriving DecidableEq

/-- An entry of the table. -/
structure Entry (α ε σ : Type) where
  /-- The state to go to. -/
  target : α
  /-- Whether to go there, after some work; it sees the number of wakeups in the current state. -/
  handler : Nat → EStateM ε σ TransitionStatus
  /-- The function still waits before it returns. -/
  waits : σ → Bool := fun _ => false

/-- Where a machine is. -/
structure Machine (α : Type) where
  /-- The current state. -/
  current : α
  /-- The wakeups begun in it. -/
  nbLoop : Nat
  /-- The entry that is next. -/
  position : Nat
  /-- Its work is done and it waits. -/
  waiting : Bool
  deriving DecidableEq

/-- A machine with its table, what it does at a transition and with an exception. -/
structure Statemachine (α ε σ : Type) where
  /-- The entries of a state. -/
  table : α → List (Entry α ε σ)
  /-- The transition handler, given the two states. -/
  moved : α → α → σ → σ
  /-- The handler around a wakeup. -/
  caught : ε → σ → σ

/-- Whether the thread that runs a machine runs. -/
inductive Phase where
  | running
  /-- The thread is asked to stop, and in its last wakeup. -/
  | stopping
  | stopped
  deriving DecidableEq

variable {α ε σ : Type}

/-- A machine in a state just entered. -/
def Machine.entered (state : α) : Machine α := ⟨state, 0, 0, false⟩

/-- The entry is over; after the last one the wakeup is. -/
def Machine.passed (machine : Machine α) (entries : Nat) : Machine α :=
  { machine with
    position := if machine.position + 1 < entries then machine.position + 1 else 0
    waiting := false }

/-- A wakeup begins with the first entry. -/
def Machine.begun (machine : Machine α) : Machine α :=
  { machine with nbLoop := if machine.position = 0 then machine.nbLoop + 1 else machine.nbLoop }

namespace Statemachine

/-- The next entry runs. -/
def runEntry (statemachine : Statemachine α ε σ) (entry : Entry α ε σ) (machine : Machine α)
    (data : σ) : Machine α × σ :=
  match entry.handler machine.nbLoop data with
  | .ok .stayCurrState data =>
    if entry.waits data then ({ machine with waiting := true }, data)
    else (machine.passed (statemachine.table machine.current).length, data)
  | .ok .gotoNextState data =>
    (.entered entry.target, statemachine.moved machine.current entry.target data)
  | .error error data => ({ machine with position := 0 }, statemachine.caught error data)

/-- The machine goes on, unless it waits. -/
def step (statemachine : Statemachine α ε σ) (machine : Machine α) (data : σ) :
    Option (Machine α × σ) :=
  match (statemachine.table machine.current)[machine.position]? with
  | none => none
  | some entry =>
    if machine.waiting then
      if entry.waits data then none
      else some (machine.passed (statemachine.table machine.current).length, data)
    else some (statemachine.runEntry entry machine.begun data)

/-- The next entry of a machine that does not wait, case by case. -/
theorem step_at (statemachine : Statemachine α ε σ) (state : α) (nbLoop position : Nat) (data : σ)
    (entry : Entry α ε σ) (found : (statemachine.table state)[position]? = some entry) :
    statemachine.step ⟨state, nbLoop, position, false⟩ data = some
      (match entry.handler (if position = 0 then nbLoop + 1 else nbLoop) data with
      | .ok .stayCurrState data =>
        if entry.waits data then
          (⟨state, if position = 0 then nbLoop + 1 else nbLoop, position, true⟩, data)
        else
          (⟨state, if position = 0 then nbLoop + 1 else nbLoop,
            if position + 1 < (statemachine.table state).length then position + 1 else 0, false⟩,
            data)
      | .ok .gotoNextState data =>
        (.entered entry.target, statemachine.moved state entry.target data)
      | .error error data =>
        (⟨state, if position = 0 then nbLoop + 1 else nbLoop, 0, false⟩,
          statemachine.caught error data)) := by
  unfold step runEntry
  dsimp only
  rw [found]
  rfl

/-- What the entries of the current state keep, a step keeps. -/
theorem step_keeps (statemachine : Statemachine α ε σ) {holds : σ → Prop} {machine next : Machine α}
    {data result : σ} (taken : statemachine.step machine data = some (next, result))
    (handlers : ∀ entry ∈ statemachine.table machine.current, ∀ loops,
      Keeps holds (entry.handler loops))
    (moved : ∀ source target data, holds data → holds (statemachine.moved source target data))
    (caught : ∀ error data, holds data → holds (statemachine.caught error data))
    (standing : holds data) : holds result := by
  unfold step at taken
  cases found : (statemachine.table machine.current)[machine.position]? with
  | none =>
    rw [found] at taken
    contradiction
  | some entry =>
    rw [found] at taken
    dsimp only at taken
    split at taken
    · split at taken
      · contradiction
      · cases taken
        exact standing
    · have kept := handlers entry (List.mem_of_getElem? found) machine.begun.nbLoop data standing
      have ran := Option.some.inj taken
      unfold runEntry at ran
      cases outcome : entry.handler machine.begun.nbLoop data with
      | error error after =>
        rw [outcome] at ran kept
        cases ran
        exact caught error after kept
      | ok status after =>
        rw [outcome] at ran kept
        cases status with
        | gotoNextState =>
          cases ran
          exact moved _ _ after kept
        | stayCurrState =>
          dsimp only at ran
          split at ran
          · cases ran
            exact kept
          · cases ran
            exact kept

end Statemachine

end Hdcp.Base
