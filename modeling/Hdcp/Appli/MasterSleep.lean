import Hdcp.Appli.MasterConnect
import Hdcp.Appli.MasterErrors

/-!
# Whether the disconnected master sleeps

State disconnected waits for any event and consumes one kind of them. Whatever else is pending when
it is entered, or gets pending there, ends every wait at once. When a session leaves nothing but
requests behind, nothing is raised for it afterwards, and a call of `connect` has taken notice of
the last attempt, the master sleeps until it is asked to connect or to stop.
-/

namespace Hdcp.Appli.Master

open Base
open Hdcp.Master hiding State Event

variable {τ κ : Type}

/-- What state disconnected is to wake up for. -/
def Waking (event : Event) : Prop := event = .connectionRequested ∨ event = .stop

instance (event : Event) : Decidable (Waking event) := inferInstanceAs (Decidable (_ ∨ _))

/-- The next entry is the handler of state disconnected, which waits for an event. -/
def Life.CallsWait (life : Life τ κ) : Prop :=
  life.state = .disconnected ∧ life.party.machine.position = 0 ∧
    life.party.machine.waiting = false

instance (life : Life τ κ) : Decidable life.CallsWait :=
  inferInstanceAs (Decidable (_ ∧ _ ∧ _))

/-- Where it is then. -/
theorem Life.CallsWait.at_disconnected {life : Life τ κ} (waits : life.CallsWait) :
    life.party = .at .disconnected life.party.machine.nbLoop 0 life.data := by
  obtain ⟨⟨⟨state, nbLoop, position, waiting⟩, data⟩, phase, firstTimer, raised, asked⟩ := life
  obtain ⟨here, first, awake⟩ := waits
  obtain rfl : state = .disconnected := here
  obtain rfl : position = 0 := first
  obtain rfl : waiting = false := awake
  rfl

/-- The event that the next check consumes as it ends the session. -/
def Party.consumes (master : Party τ κ) : Option Event :=
  match master.state, master.machine.position with
  | .connecting, 2 => some .dipTimeout
  | .connected, 2 => some .kaTimeout
  | .connected, 3 => some .disconnectionRequested
  | _, _ => none

/-- Nothing is pending that state disconnected would inherit: what is pending is a request, the end
of an attempt, or what the next check consumes. -/
def Party.LeavesNothing (master : Party τ κ) : Prop :=
  ∀ event ∈ master.data.events,
    Waking event ∨ event = .connectionAttempt ∨ master.consumes = some event

/-- State disconnected inherits nothing, no batch taken there holds the timer of a timeout, no
disconnection is raised there, and it waits only when a call of `connect` has erased the event of
the last attempt. -/
def Users.Orderly (setup : Setup τ κ) (users : Users τ κ) : UserMove τ κ → Prop
  | .life .wakeup =>
    (∀ next ∈ users.life.party.wakeup setup, users.life.state ≠ .disconnected →
      next.state = .disconnected → users.life.party.LeavesNothing) ∧
      (users.life.CallsWait → users.unclaimed = false)
  | .life (.tick batch) => users.life.state = .disconnected → ∀ timer ∈ batch,
      timer.callback ≠ .dipTimeoutCb ∧ timer.callback ≠ .kaTimeoutCb
  | .resume index => users.life.state = .disconnected →
      ∀ call ∈ users.calls[index]?, call.stage ≠ .notifyDisconnect
  | _ => True

/-- What is pending in state disconnected, and what the end of an attempt leaves pending. -/
structure Users.Tidy (users : Users τ κ) : Prop where
  /-- The master is sound. -/
  sound : users.life.Sound
  /-- Requests, and the end of an attempt. -/
  disconnected : users.life.state = .disconnected → ∀ event ∈ users.life.data.events,
    Waking event ∨ event = .connectionAttempt
  /-- The end of an attempt is pending only if no call of `connect` erased it. -/
  claimed : .connectionAttempt ∈ users.life.data.events → users.unclaimed = true

section Steps

variable {setup : Setup τ κ}

/-- The handler of state disconnected leaves the events alone. -/
theorem disconnected_events (nbLoop : Nat) (data : Data τ κ) :
    (after (handler setup .disconnected nbLoop data)).events = data.events := by
  have kept : Keeps (fun next : Data τ κ => next.events = data.events)
      (handler setup .disconnected nbLoop) :=
    .bind (.runIf (.bind (.modify fun _ same => same) fun _ =>
      onManager_keeps (fun _ _ same => same) _)) fun _ => .pure _
  exact kept data rfl

/-- The handler of state disconnected waits exactly when nothing is pending. -/
theorem wakeup_disconnected (nbLoop : Nat) (data : Data τ κ) :
    Party.wakeup setup (.at .disconnected nbLoop 0 data) =
      if data.events = .empty then
        some (.waiting (nbLoop + 1) (after (handler setup .disconnected (nbLoop + 1) data)))
      else some (.at .disconnected (nbLoop + 1) 1
        (after (handler setup .disconnected (nbLoop + 1) data))) := by
  obtain ⟨last, returned⟩ := handler_returns setup (.inr rfl) (nbLoop + 1) data
  have same := @disconnected_events _ _ setup (nbLoop + 1) data
  have ran : handlerStateDisconnected (nbLoop + 1) data = .ok .stayCurrState last := returned
  rw [returned] at same ⊢
  change last.events = data.events at same
  unfold Party.wakeup Party.at
  rw [Statemachine.step_at (statemachine setup) .disconnected nbLoop 0 data _ rfl, if_pos rfl]
  dsimp only
  rw [ran]
  dsimp only
  have waits : waitsForEvent last = decide (data.events = .empty) := by
    unfold waitsForEvent
    rw [same]
  by_cases quiet : data.events = .empty
  · rw [if_pos quiet, if_pos (waits.trans (decide_eq_true quiet))]
    rfl
  · rw [if_neg quiet, if_neg fun empty => quiet (of_decide_eq_true (waits.symm.trans empty))]
    rfl

/-- A master that waits in state disconnected goes on waiting while nothing is pending. -/
theorem wakeup_waiting (nbLoop : Nat) (data : Data τ κ) (quiet : data.events = .empty) :
    Party.wakeup setup (.waiting nbLoop data) = none := by
  simp [Party.wakeup, Party.waiting, Statemachine.step, statemachine, states, waitsForEvent, quiet]

/-- What is pending after a transition was pending before, or is the end of an attempt. -/
theorem pending_moved (source target : State) (data : Data τ κ) {event : Event}
    (pending : event ∈ (transition source target data).events) :
    event = .connectionAttempt ∨ event ∈ data.events := by
  by_cases left : source = .connecting
  · change event ∈ (if source = .connecting then _ else _) at pending
    rw [if_pos left] at pending
    exact Finset.mem_insert.mp pending
  · change event ∈ (if source = .connecting then _ else _) at pending
    rw [if_neg left] at pending
    exact .inr pending

/-- What is pending in state disconnected after an entry was pending there, or the entry moved there
and did not consume it. -/
theorem pending_disconnected {master next : Party τ κ} {event : Event}
    (wakes : Wakes setup master next) (inside : next.state = .disconnected)
    (pending : event ∈ next.data.events) :
    master.state = .disconnected ∧ event ∈ master.data.events ∨
      master.state ≠ .disconnected ∧ (event = .connectionAttempt ∨
        event ∈ master.data.events ∧ master.consumes ≠ some event) := by
  have consumed {data : Data τ κ} {event other : Event}
      (left : event = .connectionAttempt ∨ event ∈ (data.without other).events) :
      event = .connectionAttempt ∨ event ∈ data.events ∧ some other ≠ some event := by
    rcases left with attempt | before
    · exact .inl attempt
    · obtain ⟨unlike, still⟩ := Finset.mem_erase.mp before
      exact .inr ⟨still, fun same => unlike (Option.some.inj same).symm⟩
  cases wakes with
  | handled state nbLoop data returns =>
    obtain rfl : state = .disconnected := inside
    change event ∈ (after (handler setup .disconnected (nbLoop + 1) data)).events at pending
    rw [disconnected_events] at pending
    exact .inl ⟨rfl, pending⟩
  | thrown state nbLoop data errc throws =>
    obtain rfl : state = .disconnected := inside
    change event ∈ (after (handler setup .disconnected (nbLoop + 1) data)).events at pending
    rw [disconnected_events] at pending
    exact .inl ⟨rfl, pending⟩
  | waits nbLoop data =>
    change event ∈ (after (handler setup .disconnected (nbLoop + 1) data)).events at pending
    rw [disconnected_events] at pending
    exact .inl ⟨rfl, pending⟩
  | woken nbLoop data some => exact .inl ⟨rfl, pending⟩
  | begun nbLoop data =>
    refine .inr ⟨(fun same => by cases same),
      (pending_moved .init .disconnected data pending).imp_right
      fun before => ?_⟩
    exact ⟨before, fun same => by cases same⟩
  | requested nbLoop data some => cases inside
  | unrequested nbLoop data absent => exact .inl ⟨rfl, pending⟩
  | closed state nbLoop data session isClosed =>
    have before := pending_moved state .disconnected _ pending
    rcases session with rfl | rfl
    · exact .inr ⟨(fun same => by cases same),
        before.imp_right fun still => ⟨still, fun same => by cases same⟩⟩
    · exact .inr ⟨(fun same => by cases same),
        before.imp_right fun still => ⟨still, fun same => by cases same⟩⟩
  | stillOpen state nbLoop data session isOpen =>
    obtain rfl : state = .disconnected := inside
    rcases session with other | other <;> cases other
  | dipTimeout nbLoop data some exhausted =>
    exact .inr ⟨(fun same => by cases same),
      consumed (pending_moved .connecting .disconnected _ pending)⟩
  | noDipTimeout nbLoop data left => cases inside
  | connected nbLoop data some => cases inside
  | notConnected nbLoop data absent => cases inside
  | kaTimeout nbLoop data some =>
    exact .inr ⟨(fun same => by cases same),
      consumed (pending_moved .connected .disconnected _ pending)⟩
  | noKaTimeout nbLoop data absent => cases inside
  | dismissed nbLoop data some =>
    exact .inr ⟨(fun same => by cases same),
      consumed (pending_moved .connected .disconnected _ pending)⟩
  | undismissed nbLoop data absent => cases inside

/-- A statement of a call raises a request to connect or to disconnect only. -/
theorem pending_run {state : State} {events later : EventSet Event} {stage next : Stage}
    {event : Event} (ran : stage.run state events = some (next, later)) (pending : event ∈ later) :
    event ∈ events ∨ event = .connectionRequested ∨
      event = .disconnectionRequested ∧ stage = .notifyDisconnect := by
  cases stage with
  | notifyConnect waits =>
    cases ran
    rcases Finset.mem_insert.mp pending with rfl | before
    · exact .inr (.inl rfl)
    · exact .inl before
  | notifyDisconnect =>
    cases ran
    rcases Finset.mem_insert.mp pending with rfl | before
    · exact .inr (.inr ⟨rfl, rfl⟩)
    · exact .inl before
  | wait =>
    simp only [Stage.run] at ran
    split at ran
    · cases ran
      exact .inl pending
    · contradiction
  | erase =>
    cases ran
    exact .inl (Finset.mem_of_mem_erase pending)
  | test =>
    simp only [Stage.run] at ran
    split at ran
    · cases ran
      exact .inl pending
    · cases ran
      exact .inl pending
  | ended => contradiction
  | returned => contradiction
  | failed => contradiction

/-- A step of the master leaves in state disconnected what it may. -/
theorem Users.Tidy.lives {users : Users τ κ} {move : Move τ κ} {party : Party τ κ} {phase : Phase}
    (tidy : users.Tidy) (orderly : users.Orderly setup (.life move)) (own : move.isCall = false)
    (acted : users.life.act setup move = some (party, phase))
    (lives : Lives setup users.life move party phase) (inside : party.state = .disconnected)
    {event : Event} (pending : event ∈ party.data.events) :
    Waking event ∨ event = .connectionAttempt := by
  by_cases wakes : move = .wakeup
  · subst wakes
    cases lives with
    | wakeup _ alive wakes =>
      have went := Life.wakeup_of_act acted
      rcases pending_disconnected wakes inside pending with
        ⟨here, before⟩ | ⟨elsewhere, attempt | ⟨before, unconsumed⟩⟩
      · exact tidy.disconnected here event before
      · exact .inr attempt
      · rcases orderly.1 party went elsewhere inside event before with waking | attempt | consumed
        · exact .inl waking
        · exact .inr attempt
        · exact absurd consumed unconsumed
  · by_cases starts : ∃ transport, move = .start transport
    · obtain ⟨transport, rfl⟩ := starts
      cases lives with
      | start _ stopped => cases inside
    · have machine := state_lives lives wakes fun transport starting => starts ⟨transport, starting⟩
      have here : users.life.state = .disconnected := by
        rw [← inside]
        exact (congrArg Machine.current machine).symm
      rcases raised_lives lives wakes pending with before | raised
      · exact tidy.disconnected here event before
      · cases raised with
        | expired batch type timer inside bound running armed told =>
          obtain ⟨notDip, notKa⟩ := orderly here timer inside
          cases type with
          | dipTimeout => exact absurd bound notDip
          | kaTimeout => exact absurd bound notKa
        | requested => contradiction
        | dismissed heard => contradiction
        | stopped => exact .inl (.inr rfl)

/-- The handler of state init leaves no event pending. -/
theorem cleared_lives {life : Life τ κ} {move : Move τ κ} {party : Party τ κ} {phase : Phase}
    (lives : Lives setup life move party phase) (clears : life.clears move = true) :
    party.data.events = .empty := by
  obtain ⟨master, before, firstTimer, raised, asked⟩ := life
  cases lives with
  | wakeup _ alive wakes =>
    obtain ⟨init, first⟩ := (Bool.and_eq_true _ _).mp clears
    have inside : master.state = .init := of_decide_eq_true init
    have start : master.machine.position = 0 := of_decide_eq_true first
    cases wakes with
    | handled state nbLoop data returns =>
      obtain rfl : state = .init := inside
      rfl
    | thrown state nbLoop data errc throws =>
      obtain rfl : state = .init := inside
      rfl
    | waits nbLoop data => cases inside
    | woken nbLoop data some => cases inside
    | begun nbLoop data => cases start
    | requested nbLoop data some => cases inside
    | unrequested nbLoop data absent => cases inside
    | closed state nbLoop data session isClosed => cases start
    | stillOpen state nbLoop data session isOpen => cases start
    | dipTimeout nbLoop data some exhausted => cases start
    | noDipTimeout nbLoop data left => cases start
    | connected nbLoop data some => cases start
    | notConnected nbLoop data absent => cases start
    | kaTimeout nbLoop data some => cases start
    | noKaTimeout nbLoop data absent => cases start
    | dismissed nbLoop data some => cases start
    | undismissed nbLoop data absent => cases start
  | _ => cases clears

/-- A step of the master leaves the end of an attempt pending only if no call erased it. -/
theorem Users.Tidy.claims {users : Users τ κ} {move : Move τ κ} {party : Party τ κ} {phase : Phase}
    (tidy : users.Tidy) (lives : Lives setup users.life move party phase)
    (pending : .connectionAttempt ∈ party.data.events) :
    (users.life.leaves move party || (users.unclaimed && !users.life.clears move)) = true := by
  rcases attempt_lives lives pending with before | left
  · rw [tidy.claimed before, Bool.true_and]
    cases clears : users.life.clears move with
    | false =>
      rw [Bool.not_false]
      exact Bool.or_true _
    | true =>
      rw [cleared_lives lives clears] at pending
      exact absurd pending (Finset.notMem_empty _)
  · rw [left, Bool.true_or]

/-- A statement of a call keeps what is pending tidy. -/
theorem Users.Tidy.resumed {users : Users τ κ} {index : Nat} {call : Call} {stage : Stage}
    {events : EventSet Event} (tidy : users.Tidy)
    (orderly : users.Orderly setup (.resume index)) (found : users.calls[index]? = some call)
    (ran : call.stage.run users.life.state users.life.data.events = some (stage, events))
    (still : (users.resumed index call stage events).life.Sound) :
    (users.resumed index call stage events).Tidy := by
  refine ⟨still, fun here event pending => ?_, fun pending => ?_⟩
  · rcases pending_run ran pending with before | requested | ⟨-, dismisses⟩
    · exact tidy.disconnected here event before
    · exact .inl (.inl requested)
    · exact absurd dismisses (orderly here call found)
  · change (users.unclaimed && decide (call.stage ≠ .erase)) = true
    rcases pending_run ran pending with before | requested | ⟨dismissed, -⟩
    · have kept : call.stage ≠ .erase := by
        intro erases
        rw [erases] at ran
        cases ran
        exact absurd pending (Finset.notMem_erase _ _)
      rw [tidy.claimed before, decide_eq_true kept]
      rfl
    · cases requested
    · cases dismissed

/-- Each orderly step keeps what is pending tidy. -/
theorem tidy_step (setup : Setup τ κ) (users : Users τ κ) (move : UserMove τ κ) (next : Users τ κ)
    (tidy : users.Tidy)
    (taken : Guarded (Users.Orderly setup) (Steps (Users.step setup)) users move next) :
    next.Tidy := by
  obtain ⟨orderly, stepped⟩ := taken
  obtain ⟨uses, still⟩ := Users.step_uses tidy.sound stepped
  cases uses with
  | life move party phase own acted lives =>
    exact ⟨still, fun inside event pending => tidy.lives orderly own acted lives inside pending,
      tidy.claims lives⟩
  | skipped method refuses => exact tidy
  | called method stage begins => exact ⟨tidy.sound, tidy.disconnected, tidy.claimed⟩
  | resumed index call stage events found ran => exact tidy.resumed orderly found ran still

end Steps

/-- Where the handler of state disconnected waits, only requests to connect or to stop are pending,
when every event of an attempt has its call. -/
theorem Users.Tidy.waking {users : Users τ κ} (tidy : users.Tidy)
    (waits : users.life.CallsWait) (claimed : users.unclaimed = false) :
    ∀ event ∈ users.life.data.events, Waking event := by
  have absent : .connectionAttempt ∉ users.life.data.events := by
    intro pending
    have unclaimed := tidy.claimed pending
    rw [claimed] at unclaimed
    contradiction
  intro event pending
  refine (tidy.disconnected waits.1 event pending).resolve_right ?_
  rintro rfl
  exact absent pending

/-- With only such requests pending, the handler of state disconnected sleeps if there is none. -/
theorem sleeps_of_waking (setup : Setup τ κ) {nbLoop : Nat} {data : Data τ κ} {party : Party τ κ}
    (fine : ∀ event ∈ data.events, Waking event)
    (went : Party.wakeup setup (.at .disconnected nbLoop 0 data) = some party) :
    (∀ event ∈ party.data.events, Waking event) ∧
      (.connectionRequested ∉ party.data.events → .stop ∉ party.data.events →
        party.machine.waiting = true ∧ party.wakeup setup = none) := by
  have same := @disconnected_events _ _ setup (nbLoop + 1) data
  rw [wakeup_disconnected] at went
  split at went
  · next quiet =>
    cases went
    refine ⟨fun event pending => fine event ?_, fun _ _ => ⟨rfl, ?_⟩⟩
    · rw [← same]
      exact pending
    · exact wakeup_waiting _ _ (same.trans quiet)
  · next awake =>
    cases went
    refine ⟨fun event pending => fine event ?_, fun unrequested running => absurd ?_ awake⟩
    · rw [← same]
      exact pending
    · -- what is pending is a request, and neither is
      refine Finset.eq_empty_of_forall_notMem fun event pending => ?_
      change .connectionRequested ∉
        (after (handler setup .disconnected _ _)).events at unrequested
      change .stop ∉ (after (handler setup .disconnected _ _)).events at running
      rw [same] at unrequested running
      rcases fine event pending with rfl | rfl
      · exact unrequested pending
      · exact running pending

instance (master : Party τ κ) : Decidable master.LeavesNothing :=
  inferInstanceAs (Decidable (∀ event ∈ master.data.events, _))

instance (setup : Setup τ κ) (users : Users τ κ) (move : UserMove τ κ) :
    Decidable (users.Orderly setup move) :=
  match move with
  | .life .wakeup => inferInstanceAs (Decidable ((∀ next ∈ users.life.party.wakeup setup,
      users.life.state ≠ .disconnected → next.state = .disconnected →
        users.life.party.LeavesNothing) ∧ (users.life.CallsWait → users.unclaimed = false)))
  | .life (.tick batch) => inferInstanceAs (Decidable (users.life.state = .disconnected →
      ∀ timer ∈ batch, timer.callback ≠ .dipTimeoutCb ∧ timer.callback ≠ .kaTimeoutCb))
  | .resume index => inferInstanceAs (Decidable (users.life.state = .disconnected →
      ∀ call ∈ users.calls[index]?, call.stage ≠ .notifyDisconnect))
  | .call _ => isTrue trivial
  | .life .asyncConnect => isTrue trivial
  | .life .connectReturns => isTrue trivial
  | .life .asyncDisconnect => isTrue trivial
  | .life (.sendCommand _ _ _) => isTrue trivial
  | .life (.changed _) => isTrue trivial
  | .life .stop => isTrue trivial
  | .life (.joined _) => isTrue trivial
  | .life (.start _) => isTrue trivial

/-- A session that `connect` begins and `async_disconnect` ends. -/
def rested : List (UserMove (Bool × List Message) Unit) :=
  waited ++ [.call .asyncDisconnect, .resume 1] ++ lived (wakeups 4)

/-- An attempt that `async_connect` began, and the transport ended. -/
def restless : List (UserMove (Bool × List Message) Unit) :=
  opened ++ [.call .asyncConnect, .resume 0] ++ lived (wakeups 6 ++ [closes] ++ wakeups 2)

end Hdcp.Appli.Master
