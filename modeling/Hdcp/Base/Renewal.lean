import Mathlib.Data.List.Basic

/-!
# Renewing a shared resource without a lock

Threads that share one resource renew it in three steps, each atomic: the resource whose identifier
is remembered is released, a new one is acquired, its identifier is remembered. Whoever begins
while another is between its first step and its last leaves two resources or a stale identifier; a
renewal at a time keeps exactly one, under the identifier remembered.
-/

namespace Hdcp.Base

/-- Where a thread is in a renewal. -/
inductive Stage where
  /-- Before the release, or after the identifier is remembered. -/
  | outside
  /-- Before the new resource is acquired. -/
  | released
  /-- Before its identifier is remembered. -/
  | acquired (id : Nat)
  deriving DecidableEq

/-- What the threads `ι` share, and where each of them is. -/
structure Renewal (ι : Type) where
  /-- There is to be a resource. -/
  wanted : Bool
  /-- The identifier remembered. -/
  held : Option Nat
  /-- The identifiers of the resources there are. -/
  present : List Nat
  /-- Where the threads are. -/
  stage : ι → Stage

namespace Renewal

variable {ι : Type}

/-- No thread is in the middle of a renewal. -/
def Settled (renewal : Renewal ι) : Prop := ∀ thread, renewal.stage thread = .outside

/-- No other thread is in the middle of a renewal. -/
def Alone (renewal : Renewal ι) (thread : ι) : Prop :=
  ∀ other, other ≠ thread → renewal.stage other = .outside

/-- A thread goes to another stage, the others stay. -/
structure Goes (renewal next : Renewal ι) (thread : ι) (stage : Stage) : Prop where
  /-- The thread. -/
  moves : next.stage thread = stage
  /-- The others. -/
  others : ∀ other, other ≠ thread → next.stage other = renewal.stage other

/-- The resource released is the one whose identifier is remembered. -/
def released (renewal : Renewal ι) : List Nat :=
  renewal.present.filter fun id => some id ≠ renewal.held

/-- Steps in which a renewal begins only while there is no other. -/
inductive Renews (renewal next : Renewal ι) : Prop where
  /-- Nothing of it changes. -/
  | same (wanted : next.wanted = renewal.wanted) (held : next.held = renewal.held)
      (present : next.present = renewal.present) (stage : ∀ thread, next.stage thread =
        renewal.stage thread)
  /-- There is not to be a resource. -/
  | unwanted (wanted : next.wanted = false)
  /-- There is to be a first resource, and a thread is to acquire it. -/
  | first (thread : ι) (settled : renewal.Settled) (absent : renewal.present = [])
      (present : next.present = []) (goes : renewal.Goes next thread .released)
  /-- A thread releases the resource. -/
  | release (thread : ι) (wanted : next.wanted = renewal.wanted)
      (alone : renewal.wanted = true → renewal.Alone thread)
      (outside : renewal.stage thread = .outside) (held : next.held = renewal.held)
      (present : next.present = renewal.released) (goes : renewal.Goes next thread .released)
  /-- It acquires a new one. -/
  | acquire (thread : ι) (id : Nat) (wanted : next.wanted = renewal.wanted)
      (released : renewal.stage thread = .released) (held : next.held = renewal.held)
      (present : next.present = id :: renewal.present)
      (goes : renewal.Goes next thread (.acquired id))
  /-- It remembers the identifier. -/
  | remember (thread : ι) (id : Nat) (wanted : next.wanted = renewal.wanted)
      (acquired : renewal.stage thread = .acquired id) (held : next.held = some id)
      (present : next.present = renewal.present) (goes : renewal.Goes next thread .outside)

/-- The resource remembered is the only one. -/
def Remembered (renewal : Renewal ι) : Prop :=
  ∃ id, renewal.held = some id ∧ renewal.present = [id]

/-- A thread is alone in a renewal, with the resource it acquired, if it did. -/
def Underway (renewal : Renewal ι) (thread : ι) : Prop :=
  renewal.Alone thread ∧ (renewal.stage thread = .released ∧ renewal.present = [] ∨
    ∃ id, renewal.stage thread = .acquired id ∧ renewal.present = [id])

/-- While there is to be a resource, the one remembered is the only one, or one thread is renewing
it. -/
def Single (renewal : Renewal ι) : Prop :=
  renewal.wanted = true →
    renewal.Settled ∧ renewal.Remembered ∨ ∃ thread, renewal.Underway thread

namespace Single

variable {renewal next : Renewal ι}

/-- Between renewals the resource remembered is the only one. -/
theorem remembered (single : renewal.Single) (wanted : renewal.wanted = true)
    (settled : renewal.Settled) : renewal.Remembered := by
  rcases single wanted with ⟨-, remembered⟩ | ⟨thread, -, stage⟩
  · exact remembered
  · rw [settled thread] at stage
    rcases stage with ⟨absurdity, -⟩ | ⟨id, absurdity, -⟩
    · contradiction
    · contradiction

/-- The thread that is renewing is the one underway. -/
theorem underway (single : renewal.Single) (wanted : renewal.wanted = true) {thread : ι}
    (busy : renewal.stage thread ≠ .outside) : renewal.Underway thread := by
  rcases single wanted with ⟨settled, -⟩ | ⟨other, alone, stage⟩
  · exact absurd (settled thread) busy
  · by_cases same : thread = other
    · rw [same]
      exact ⟨alone, stage⟩
    · exact absurd (alone thread same) busy

/-- A thread that goes on alone stays alone. -/
theorem alone_goes {thread : ι} {stage : Stage} (alone : renewal.Alone thread)
    (goes : renewal.Goes next thread stage) : next.Alone thread := by
  intro other different
  rw [goes.others other different]
  exact alone other different

/-- One renewal at a time keeps one resource. -/
theorem renews (single : renewal.Single) (step : Renews renewal next) : next.Single := by
  intro on
  cases step with
  | same wanted held present stage =>
    rcases single (wanted ▸ on) with ⟨settled, id, remembered, only⟩ | ⟨thread, alone, place⟩
    · exact .inl ⟨fun thread => (stage thread).trans (settled thread), id,
        held.trans remembered, present.trans only⟩
    · refine .inr ⟨thread, fun other different => (stage other).trans (alone other different), ?_⟩
      rw [stage thread, present]
      exact place
  | unwanted wanted =>
    rw [wanted] at on
    contradiction
  | first thread settled absent present goes =>
    have alone : renewal.Alone thread := fun other _ => settled other
    exact .inr ⟨thread, alone_goes alone goes, .inl ⟨goes.moves, present⟩⟩
  | release thread wanted alone outside held present goes =>
    have before := alone (wanted ▸ on)
    have settled : renewal.Settled := by
      intro other
      by_cases same : other = thread
      · rw [same]
        exact outside
      · exact before other same
    obtain ⟨id, remembered, only⟩ := single.remembered (wanted ▸ on) settled
    -- the one resource there is is the one remembered, which the thread releases
    have none : next.present = [] := by
      rw [present, released, only, remembered]
      simp
    exact .inr ⟨thread, alone_goes before goes, .inl ⟨goes.moves, none⟩⟩
  | acquire thread id wanted released held present goes =>
    have busy : renewal.stage thread ≠ .outside := by
      rw [released]
      exact Stage.noConfusion
    obtain ⟨alone, stage⟩ := single.underway (wanted ▸ on) busy
    refine .inr ⟨thread, alone_goes alone goes, .inr ⟨id, goes.moves, ?_⟩⟩
    rcases stage with ⟨-, absent⟩ | ⟨other, absurdity, -⟩
    · rw [present, absent]
    · rw [released] at absurdity
      contradiction
  | remember thread id wanted acquired held present goes =>
    have busy : renewal.stage thread ≠ .outside := by
      rw [acquired]
      exact Stage.noConfusion
    obtain ⟨alone, stage⟩ := single.underway (wanted ▸ on) busy
    have settled : next.Settled := by
      intro other
      by_cases same : other = thread
      · rw [same]
        exact goes.moves
      · exact alone_goes alone goes other same
    refine .inl ⟨settled, id, held, ?_⟩
    rcases stage with ⟨absurdity, -⟩ | ⟨other, same, only⟩
    · rw [acquired] at absurdity
      contradiction
    · rw [acquired] at same
      rw [present, only, Stage.acquired.inj same]

end Single

end Renewal

end Hdcp.Base
