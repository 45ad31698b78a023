import Hdcp.Appli.MasterCalls

/-!
# Which attempt connect reports

Every attempt raises an event as state connecting is left, and only `connect` consumes it: the event
of an asynchronous attempt stays pending. A call of `connect` made then does not wait, and reports
an attempt that was over before the call. When no call is made while the event is pending, what
ends its wait was raised after it.
-/

namespace Hdcp.Appli.Master

open Base
open Hdcp.Master hiding State Event

variable {τ κ : Type}

/-- No attempt is reported pending as `connect` is called. -/
def Users.Unannounced (users : Users τ κ) : UserMove τ κ → Prop
  | .call .connect =>
    users.life.state ≠ .connected → .connectionAttempt ∉ users.life.data.events
  | _ => True

/-- What was reported to a call happened after it, as far as the call has come. -/
def Call.Informed (events : EventSet Event) (call : Call) : Prop :=
  match call.stage with
  | .notifyConnect true => Event.connectionAttempt ∈ events → call.left = true
  | .wait => Event.connectionAttempt ∈ events → call.left = true
  | .erase => call.left = true
  | .test => call.left = true
  | .returned => call.left = true
  | .failed => call.left = true
  | _ => True

/-- What is known of every call: what was reported to it happened after it. -/
def Users.Informed (users : Users τ κ) : Prop :=
  users.life.Sound ∧ ∀ call ∈ users.calls, call.Informed users.life.data.events

/-- A call since which state connecting was left may be told anything. -/
theorem Call.informed_of_left {call : Call} (events : EventSet Event) (left : call.left = true) :
    call.Informed events := by
  obtain ⟨stage, mark⟩ := call
  cases stage with
  | notifyConnect waits =>
    cases waits with
    | true => exact fun _ => left
    | false => trivial
  | wait => exact fun _ => left
  | notifyDisconnect => trivial
  | ended => trivial
  | erase => exact left
  | test => exact left
  | returned => exact left
  | failed => exact left

/-- A call stays informed while no attempt is reported. -/
theorem Call.Informed.mono {call : Call} {events later : EventSet Event}
    (informed : call.Informed events)
    (unraised : .connectionAttempt ∈ later → .connectionAttempt ∈ events) :
    call.Informed later := by
  obtain ⟨stage, mark⟩ := call
  cases stage with
  | notifyConnect waits =>
    cases waits with
    | true => exact fun pending => informed (unraised pending)
    | false => trivial
  | wait => exact fun pending => informed (unraised pending)
  | notifyDisconnect => trivial
  | ended => trivial
  | erase => exact informed
  | test => exact informed
  | returned => exact informed
  | failed => exact informed

/-- The next statement of a call reports no attempt, and leaves the call informed. -/
theorem Call.Informed.resumed {call : Call} {state : State} {events later : EventSet Event}
    {stage : Stage} (informed : call.Informed events)
    (ran : call.stage.run state events = some (stage, later)) :
    (.connectionAttempt ∈ later → .connectionAttempt ∈ events) ∧
      ({ call with stage := stage } : Call).Informed later := by
  have notified (event : Event) (other : .connectionAttempt ≠ event) :
      .connectionAttempt ∈ events.notify event → .connectionAttempt ∈ events :=
    fun pending => Finset.mem_of_mem_insert_of_ne pending other
  obtain ⟨current, mark⟩ := call
  cases current with
  | notifyConnect waits =>
    cases ran
    have unraised := notified .connectionRequested (by decide)
    cases waits with
    | true => exact ⟨unraised, fun pending => informed (unraised pending)⟩
    | false => exact ⟨unraised, trivial⟩
  | notifyDisconnect =>
    cases ran
    exact ⟨notified .disconnectionRequested (by decide), trivial⟩
  | wait =>
    simp only [Stage.run] at ran
    split at ran
    · next pending =>
      cases ran
      exact ⟨fun still => still, informed (of_decide_eq_true pending)⟩
    · contradiction
  | erase =>
    cases ran
    exact ⟨fun pending => Finset.mem_of_mem_erase pending, informed⟩
  | test =>
    simp only [Stage.run] at ran
    split at ran
    · cases ran
      exact ⟨fun pending => pending, informed⟩
    · cases ran
      exact ⟨fun pending => pending, informed⟩
  | ended => contradiction
  | returned => contradiction
  | failed => contradiction

/-- Each step leaves every call informed, unless an attempt is reported as `connect` is called. -/
theorem informed_step (setup : Setup τ κ) (users : Users τ κ) (move : UserMove τ κ)
    (next : Users τ κ) (informed : users.Informed)
    (taken : Guarded Users.Unannounced (Steps (Users.step setup)) users move next) :
    next.Informed := by
  obtain ⟨unannounced, stepped⟩ := taken
  obtain ⟨uses, still⟩ := Users.step_uses informed.1 stepped
  refine ⟨still, ?_⟩
  cases uses with
  | life move party phase own acted lives =>
    intro call inside
    obtain ⟨before, known, rfl⟩ := List.mem_map.mp inside
    by_cases left : users.life.leaves move party = true
    · refine Call.informed_of_left _ ?_
      change (before.left || users.life.leaves move party) = true
      rw [left, Bool.or_true]
    · have same : before.seen (users.life.leaves move party) = before := by
        rw [Call.seen, Bool.eq_false_iff.mpr left, Bool.or_false]
      have kept : before.Informed party.data.events := (informed.2 before known).mono
        fun pending => (attempt_lives lives pending).resolve_right left
      change (before.seen (users.life.leaves move party)).Informed party.data.events
      rw [same]
      exact kept
  | skipped method refuses => exact informed.2
  | called method stage begins =>
    intro call inside
    rcases List.mem_append.mp inside with before | last
    · exact informed.2 call before
    · obtain rfl := List.mem_singleton.mp last
      cases method with
      | asyncConnect =>
        simp only [Method.begins] at begins
        split at begins
        · contradiction
        · cases begins
          trivial
      | asyncDisconnect =>
        simp only [Method.begins] at begins
        split at begins
        · contradiction
        · cases begins
          trivial
      | connect =>
        simp only [Method.begins] at begins
        split at begins
        · contradiction
        · next outside =>
          cases begins
          exact fun pending => absurd pending (unannounced outside)
  | resumed index call stage events found ran =>
    have known := informed.2 call (List.mem_of_getElem? found)
    obtain ⟨unraised, fine⟩ := known.resumed ran
    intro other inside
    rcases List.mem_or_eq_of_mem_set inside with before | rfl
    · exact (informed.2 other before).mono unraised
    · exact fine

instance (users : Users τ κ) (move : UserMove τ κ) : Decidable (users.Unannounced move) :=
  match move with
  | .call .connect => inferInstanceAs (Decidable (users.life.state ≠ .connected →
      Event.connectionAttempt ∉ users.life.data.events))
  | .call .asyncConnect => isTrue trivial
  | .call .asyncDisconnect => isTrue trivial
  | .life _ => isTrue trivial
  | .resume _ => isTrue trivial

/-- Steps of the master alone. -/
def lived (moves : List (Move (Bool × List Message) Unit)) :
    List (UserMove (Bool × List Message) Unit) := moves.map .life

/-- The master is started, and its connection opens. -/
def opened : List (UserMove (Bool × List Message) Unit) :=
  lived (started ++ [.changed (true, [])])

/-- A request to connect is consumed, and the DIP that arrives is accepted. -/
def attempted : List (UserMove (Bool × List Message) Unit) :=
  lived (wakeups 6 ++ [dipArrives] ++ wakeups 4)

/-- A call of `connect`, which waits for the attempt. -/
def waited : List (UserMove (Bool × List Message) Unit) :=
  opened ++ [.call .connect, .resume 0] ++ attempted ++ List.replicate 3 (.resume 0)

/-- A session that `async_connect` begins and `async_disconnect` ends, then a call of `connect`. -/
def hasty : List (UserMove (Bool × List Message) Unit) :=
  opened ++ [.call .asyncConnect, .resume 0] ++ attempted ++
    [.call .asyncDisconnect, .resume 1] ++ lived (wakeups 4) ++ [.call .connect] ++
      List.replicate 4 (.resume 2)

end Hdcp.Appli.Master
