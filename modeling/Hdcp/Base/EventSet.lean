import Mathlib.Data.Finset.Erase
import Mathlib.Data.Finset.Insert

/-!
# Pending events

Threads notify events, and one of them consumes those that are pending: an event notified twice
before it is consumed is pending once.
-/

namespace Hdcp.Base

/-- The pending events. -/
abbrev EventSet (ε : Type) : Type := Finset ε

namespace EventSet

variable {ε : Type} [DecidableEq ε]

/-- No event is pending. -/
def empty : EventSet ε := ∅

/-- An event becomes pending. -/
def notify (events : EventSet ε) (event : ε) : EventSet ε := insert event events

/-- An event is pending. -/
def contains (events : EventSet ε) (event : ε) : Bool := decide (event ∈ events)

/-- An event is no longer pending. -/
def erase (events : EventSet ε) (event : ε) : EventSet ε := Finset.erase events event

end EventSet

end Hdcp.Base
