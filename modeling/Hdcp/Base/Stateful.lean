import Mathlib.Data.List.Basic
import Mathlib.Logic.Relation

/-!
# Code with a state that may throw

A function that changes a state and may throw is an `EStateM` action; what it did before it threw
stays done. The equations below evaluate an action one statement at a time, and the inversion
lemmas take the outcome of a sequence apart.
-/

namespace Hdcp.Base

open EStateM (Result)

universe u

variable {ε σ α β : Type u}

/-- The state an outcome leaves, normal or not. -/
def after : Result ε σ α → σ
  | .ok _ state => state
  | .error _ state => state

/-- The state after a normal outcome. -/
@[simp] theorem after_ok (value : α) (state : σ) : after (.ok value state : Result ε σ α) = state :=
  rfl

/-- The state after an exception. -/
@[simp] theorem after_error (error : ε) (state : σ) :
    after (.error error state : Result ε σ α) = state := rfl

/-- Returning a value leaves the state. -/
@[simp] theorem pure_apply (value : α) (state : σ) :
    (pure value : EStateM ε σ α) state = .ok value state := rfl

/-- A sequence goes on from the state of its first statement, unless that throws. -/
@[simp] theorem bind_apply (first : EStateM ε σ α) (next : α → EStateM ε σ β) (state : σ) :
    (first >>= next) state =
      match first state with
      | .ok value middle => next value middle
      | .error error middle => .error error middle := rfl

/-- Reading the state. -/
@[simp] theorem get_apply (state : σ) : (get : EStateM ε σ σ) state = .ok state state := rfl

/-- Changing the state. -/
@[simp] theorem modify_apply (change : σ → σ) (state : σ) :
    (modify change : EStateM ε σ PUnit) state = .ok ⟨⟩ (change state) := rfl

/-- Throwing. -/
@[simp] theorem throw_apply (error : ε) (state : σ) :
    (throw error : EStateM ε σ α) state = .error error state := rfl

/-- A handler takes over from the state in which the exception was thrown. -/
@[simp] theorem tryCatch_apply (body : EStateM ε σ α) (handler : ε → EStateM ε σ α) (state : σ) :
    (tryCatch body handler : EStateM ε σ α) state =
      match body state with
      | .ok value middle => .ok value middle
      | .error error middle => handler error middle := by
  change EStateM.tryCatch body handler state = _
  rw [EStateM.tryCatch]
  cases body state <;> rfl

/-- A choice between two actions is made before either runs. -/
@[simp] theorem choice_apply (condition : Prop) [Decidable condition] (first second : EStateM ε σ α)
    (state : σ) : (if condition then first else second) state =
      if condition then first state else second state := by
  split <;> rfl

/-- An action that runs only under a condition. -/
def runIf (condition : Prop) [Decidable condition] (action : EStateM ε σ PUnit) :
    EStateM ε σ PUnit :=
  if condition then action else pure ⟨⟩

/-- A sequence that returns: its first statement returned, and the rest did from there. -/
theorem bind_eq_ok_iff (first : EStateM ε σ α) (next : α → EStateM ε σ β) (state final : σ)
    (value : β) :
    (first >>= next) state = .ok value final ↔
      ∃ passed middle, first state = .ok passed middle ∧ next passed middle = .ok value final := by
  rw [bind_apply]
  cases first state <;> simp

/-- A sequence that throws: its first statement threw, or the rest did after it returned. -/
theorem bind_eq_error_iff (first : EStateM ε σ α) (next : α → EStateM ε σ β) (state final : σ)
    (error : ε) :
    (first >>= next) state = .error error final ↔
      first state = .error error final ∨
        ∃ passed middle, first state = .ok passed middle ∧
          next passed middle = .error error final := by
  rw [bind_apply]
  cases first state <;> simp

/-- The state an action leaves when it may run and returns. -/
def returning (condition : Prop) [Decidable condition] (action : EStateM ε σ PUnit) (state : σ) :
    Option σ :=
  if condition then
    match action state with
    | .ok _ next => some next
    | .error _ _ => none
  else none

/-- There is one exactly when it may and does. -/
theorem returning_eq_some_iff (condition : Prop) [Decidable condition]
    (action : EStateM ε σ PUnit) (state next : σ) :
    returning condition action state = some next ↔ condition ∧ action state = .ok ⟨⟩ next := by
  unfold returning
  by_cases allowed : condition
  · rw [if_pos allowed]
    cases action state <;> simp [allowed]
  · simp [allowed]

/-- Go from place to place until one is an end, with so many statements at most. -/
def follow (ended : α → Bool) (next : α → EStateM ε σ α) : Nat → α → EStateM ε σ α
  | 0, place => pure place
  | fuel + 1, place =>
    if ended place then pure place
    else do
      let passed ← next place
      follow ended next fuel passed

/-- At an end nothing follows. -/
theorem follow_ended (ended : α → Bool) (next : α → EStateM ε σ α) (fuel : Nat) {place : α}
    (last : ended place = true) : follow ended next fuel place = pure place := by
  cases fuel with
  | zero => rfl
  | succ fuel => rw [follow, if_pos last]

/-- Elsewhere the next statement does. -/
theorem follow_next (ended : α → Bool) (next : α → EStateM ε σ α) (fuel : Nat) {place : α}
    (more : ended place = false) :
    follow ended next (fuel + 1) place = next place >>= follow ended next fuel := by
  rw [follow, if_neg (by rw [more]; exact Bool.false_ne_true)]

/-- An action leaves a property of the state standing, whether it returns or throws. -/
def Keeps (holds : σ → Prop) (action : EStateM ε σ α) : Prop :=
  ∀ state, holds state → holds (after (action state))

namespace Keeps

variable {holds : σ → Prop}

/-- Returning a value keeps everything. -/
theorem pure (value : α) : Keeps holds (Pure.pure value : EStateM ε σ α) :=
  fun _ standing => standing

/-- Throwing keeps everything. -/
theorem throw (error : ε) : Keeps holds (MonadExcept.throw error : EStateM ε σ α) :=
  fun _ standing => standing

/-- Reading keeps everything. -/
theorem get : Keeps holds (MonadState.get : EStateM ε σ σ) := fun _ standing => standing

/-- A change keeps what it preserves. -/
theorem modify {change : σ → σ} (preserved : ∀ state, holds state → holds (change state)) :
    Keeps holds (modify change : EStateM ε σ PUnit) := preserved

/-- A sequence keeps what its parts keep. -/
theorem bind {first : EStateM ε σ α} {next : α → EStateM ε σ β} (kept : Keeps holds first)
    (rest : ∀ value, Keeps holds (next value)) : Keeps holds (first >>= next) := by
  intro state standing
  have passed := kept state standing
  rw [bind_apply]
  cases outcome : first state with
  | ok value middle =>
    rw [outcome] at passed
    exact rest value middle passed
  | error error middle =>
    rw [outcome] at passed
    exact passed

/-- A choice keeps what both sides keep. -/
theorem choice {condition : Prop} [Decidable condition] {yes no : EStateM ε σ α}
    (first : Keeps holds yes) (second : Keeps holds no) :
    Keeps holds (if condition then yes else no) := by
  split
  · exact first
  · exact second

/-- A conditional action keeps what the action keeps. -/
theorem runIf {condition : Prop} [Decidable condition] {action : EStateM ε σ PUnit}
    (kept : Keeps holds action) : Keeps holds (runIf condition action) :=
  .choice kept (.pure _)

end Keeps

/-- An action throws nothing but what is allowed. -/
def Raises (allowed : ε → Prop) (action : EStateM ε σ α) : Prop :=
  ∀ state error final, action state = .error error final → allowed error

namespace Raises

variable {allowed : ε → Prop}

/-- Returning a value throws nothing. -/
theorem pure (value : α) : Raises allowed (Pure.pure value : EStateM ε σ α) := by
  intro state error final thrown
  contradiction

/-- Throwing what is allowed. -/
theorem throw {error : ε} (fine : allowed error) :
    Raises allowed (MonadExcept.throw error : EStateM ε σ α) := by
  intro state other final thrown
  cases thrown
  exact fine

/-- Reading throws nothing. -/
theorem get : Raises allowed (MonadState.get : EStateM ε σ σ) := by
  intro state error final thrown
  contradiction

/-- Changing the state throws nothing. -/
theorem modify (change : σ → σ) : Raises allowed (modify change : EStateM ε σ PUnit) := by
  intro state error final thrown
  contradiction

/-- A sequence throws what its parts throw. -/
theorem bind {first : EStateM ε σ α} {next : α → EStateM ε σ β} (raised : Raises allowed first)
    (rest : ∀ value, Raises allowed (next value)) : Raises allowed (first >>= next) := by
  intro state error final thrown
  rcases (bind_eq_error_iff first next state final error).mp thrown with early | late
  · exact raised state error final early
  · obtain ⟨value, middle, -, later⟩ := late
    exact rest value middle error final later

/-- A choice throws what its sides throw. -/
theorem choice {condition : Prop} [Decidable condition] {yes no : EStateM ε σ α}
    (first : Raises allowed yes) (second : Raises allowed no) :
    Raises allowed (if condition then yes else no) := by
  split
  · exact first
  · exact second

end Raises

/-- An action returns nothing but what is allowed. -/
def Yields (allowed : α → Prop) (action : EStateM ε σ α) : Prop :=
  ∀ state value final, action state = .ok value final → allowed value

namespace Yields

variable {allowed : α → Prop}

/-- Returning what is allowed. -/
theorem pure {value : α} (fine : allowed value) :
    Yields allowed (Pure.pure value : EStateM ε σ α) := by
  intro state other final returned
  cases returned
  exact fine

/-- Throwing returns nothing. -/
theorem throw (error : ε) : Yields allowed (MonadExcept.throw error : EStateM ε σ α) := by
  intro state value final returned
  contradiction

/-- A sequence returns what its last part returns. -/
theorem bind {first : EStateM ε σ β} {rest : β → EStateM ε σ α}
    (yields : ∀ value, Yields allowed (rest value)) : Yields allowed (first >>= rest) := by
  intro state value final returned
  obtain ⟨passed, middle, -, later⟩ := (bind_eq_ok_iff first rest state final value).mp returned
  exact yields passed middle value final later

end Yields

/-- A triple: from a state before, an action that returns leads to what is stated of its value and
state, and one that throws to what is stated of its failures. -/
def Leads (before : σ → Prop) (action : EStateM ε σ α) (returned : α → σ → Prop)
    (thrown : σ → Prop) : Prop :=
  ∀ state, before state →
    (∀ value final, action state = .ok value final → returned value final) ∧
      ∀ error final, action state = .error error final → thrown final

namespace Leads

variable {before : σ → Prop} {thrown : σ → Prop}

/-- What is kept, and what follows from it. -/
theorem of_keeps {kept : σ → Prop} {action : EStateM ε σ α} (keeps : Keeps kept action)
    (follows : ∀ state, kept state → thrown state) :
    Leads kept action (fun _ => thrown) thrown := by
  intro state standing
  have final := keeps state standing
  constructor
  · intro value last returns
    rw [returns] at final
    exact follows last final
  · intro error last throws
    rw [throws] at final
    exact follows last final

/-- What is kept, and what follows from it when it throws. -/
theorem passes {kept : σ → Prop} {action : EStateM ε σ α} (keeps : Keeps kept action)
    (follows : ∀ state, kept state → thrown state) :
    Leads kept action (fun _ => kept) thrown := by
  intro state standing
  have final := keeps state standing
  constructor
  · intro value last returns
    rw [returns] at final
    exact final
  · intro error last throws
    rw [throws] at final
    exact follows last final

/-- Returning a value. -/
theorem pure {value : α} {returned : α → σ → Prop}
    (follows : ∀ state, before state → returned value state) :
    Leads before (Pure.pure value : EStateM ε σ α) returned thrown := by
  intro state standing
  constructor
  · intro other final returns
    cases returns
    exact follows state standing
  · intro error final throws
    contradiction

/-- An action that returns. -/
theorem of_ok {action : EStateM ε σ α} {returned : α → σ → Prop}
    (evaluates : ∀ state, before state →
      ∃ value final, action state = .ok value final ∧ returned value final) :
    Leads before action returned thrown := by
  intro state standing
  obtain ⟨passed, middle, returns, follows⟩ := evaluates state standing
  rw [returns]
  constructor
  · intro value final same
    cases same
    exact follows
  · intro error final absurdity
    contradiction

/-- A triple that ends, either way, as it began. -/
theorem keeps {action : EStateM ε σ α} (leads : Leads before action (fun _ => before) before) :
    Keeps before action := by
  intro state standing
  obtain ⟨returns, throws⟩ := leads state standing
  cases outcome : action state with
  | ok value final => exact returns value final outcome
  | error error final => exact throws error final outcome

/-- A sequence. -/
theorem bind {first : EStateM ε σ α} {next : α → EStateM ε σ β} {between : α → σ → Prop}
    {returned : β → σ → Prop} (begun : Leads before first between thrown)
    (rest : ∀ value, Leads (between value) (next value) returned thrown) :
    Leads before (first >>= next) returned thrown := by
  intro state standing
  obtain ⟨returns, throws⟩ := begun state standing
  constructor
  · intro value final outcome
    obtain ⟨passed, middle, firstly, secondly⟩ := (bind_eq_ok_iff _ _ _ _ _).mp outcome
    exact (rest passed middle (returns passed middle firstly)).1 value final secondly
  · intro error final outcome
    rcases (bind_eq_error_iff _ _ _ _ _).mp outcome with early | ⟨passed, middle, firstly, late⟩
    · exact throws error final early
    · exact (rest passed middle (returns passed middle firstly)).2 error final late

end Leads

/-- An action that returns makes some steps of one relation, one that throws some of another. -/
def Performs (whole partly : σ → σ → Prop) (action : EStateM ε σ α) : Prop :=
  ∀ state, (∀ value next, action state = .ok value next →
      Relation.ReflTransGen whole state next) ∧
    ∀ error next, action state = .error error next → Relation.ReflTransGen partly state next

namespace Performs

variable {whole partly : σ → σ → Prop}

/-- Returning a value makes no step. -/
theorem pure (value : α) : Performs whole partly (Pure.pure value : EStateM ε σ α) := by
  intro state
  constructor
  · intro value next returned
    cases returned
    exact .refl
  · intro error next thrown
    contradiction

/-- Throwing makes no step. -/
theorem throw (error : ε) :
    Performs whole partly (MonadExcept.throw error : EStateM ε σ α) := by
  intro state
  constructor
  · intro value next returned
    contradiction
  · intro error next thrown
    cases thrown
    exact .refl

/-- Reading makes no step. -/
theorem get : Performs whole partly (MonadState.get : EStateM ε σ σ) := by
  intro state
  constructor
  · intro value next returned
    cases returned
    exact .refl
  · intro error next thrown
    contradiction

/-- An action that is one step and cannot throw. -/
theorem single {action : EStateM ε σ α} (value : σ → α) (change : σ → σ)
    (evaluates : ∀ state, action state = .ok (value state) (change state))
    (changed : ∀ state, whole state (change state)) : Performs whole partly action := by
  intro state
  rw [evaluates state]
  constructor
  · intro value next returned
    cases returned
    exact .single (changed state)
  · intro error next thrown
    contradiction

/-- A choice makes the steps of its sides. -/
theorem choice {condition : Prop} [Decidable condition] {yes no : EStateM ε σ α}
    (first : Performs whole partly yes) (second : Performs whole partly no) :
    Performs whole partly (if condition then yes else no) := by
  split
  · exact first
  · exact second

/-- A conditional action makes the steps of the action. -/
theorem runIf {condition : Prop} [Decidable condition] {action : EStateM ε σ PUnit}
    (performs : Performs whole partly action) : Performs whole partly (runIf condition action) :=
  .choice performs (.pure _)

/-- Steps of one relation are steps of the other, and so are the steps of an action that returns. -/
theorem weaken (weaker : ∀ first next, whole first next → partly first next) {first next : σ}
    (steps : Relation.ReflTransGen whole first next) : Relation.ReflTransGen partly first next :=
  Relation.ReflTransGen.mono weaker _ _ steps

/-- Whether it returns or throws, an action makes steps of the weaker relation. -/
theorem steps (weaker : ∀ first next, whole first next → partly first next)
    {action : EStateM ε σ α} (performs : Performs whole partly action) (state : σ) :
    Relation.ReflTransGen partly state (after (action state)) := by
  obtain ⟨returns, throws⟩ := performs state
  cases outcome : action state with
  | ok value next => exact weaken weaker (returns value next outcome)
  | error error next => exact throws error next outcome

/-- What every step keeps, an action keeps. -/
theorem keeps (weaker : ∀ first next, whole first next → partly first next) {holds : σ → Prop}
    (preserved : ∀ first next, partly first next → holds first → holds next)
    {action : EStateM ε σ α} (performs : Performs whole partly action) : Keeps holds action := by
  intro state standing
  have taken := performs.steps weaker state
  generalize after (action state) = final at taken ⊢
  induction taken with
  | refl => exact standing
  | tail _ step ih => exact preserved _ _ step ih

/-- A sequence makes the steps of its parts. -/
theorem bind (weaker : ∀ first next, whole first next → partly first next)
    {first : EStateM ε σ α} {rest : α → EStateM ε σ β} (begun : Performs whole partly first)
    (ended : ∀ value, Performs whole partly (rest value)) :
    Performs whole partly (first >>= rest) := by
  intro state
  constructor
  · intro value next returned
    obtain ⟨passed, middle, firstly, secondly⟩ := (bind_eq_ok_iff _ _ _ _ _).mp returned
    exact ((begun state).1 passed middle firstly).trans
      ((ended passed middle).1 value next secondly)
  · intro error next thrown
    rcases (bind_eq_error_iff _ _ _ _ _).mp thrown with early | ⟨passed, middle, firstly, late⟩
    · exact (begun state).2 error next early
    · exact (weaken weaker ((begun state).1 passed middle firstly)).trans
        ((ended passed middle).2 error next late)

end Performs

end Hdcp.Base
