import Hdcp.Appli.MasterEvents

/-!
# The calls of the master's users

Any number of threads call `connect`, `async_connect` and `async_disconnect`, each statement of
which is a step between those of the state machine, of the timer thread and of other calls. Marks
beside the state tell whether the state machine has left state connecting since a call, and whether
a call of `connect` has taken notice of it.
-/

namespace Hdcp.Appli.Master

open Base
open Hdcp.Master hiding State Event

variable {τ κ : Type}

/-- The functions called. -/
inductive Method where
  /-- `Master::async_connect`. -/
  | asyncConnect
  /-- `Master::async_disconnect`. -/
  | asyncDisconnect
  /-- `Master::connect`. -/
  | connect
  deriving DecidableEq

/-- The statement a call has come to. -/
inductive Stage where
  /-- `evt_mngr_.notify(Event::connection_requested)`, after which `connect` waits. -/
  | notifyConnect (waits : Bool)
  /-- `evt_mngr_.notify(Event::disconnection_requested)`. -/
  | notifyDisconnect
  /-- `evt_mngr_.wait(Event::connection_attempt)`. -/
  | wait
  /-- `evt_mngr_.erase(Event::connection_attempt)`. -/
  | erase
  /-- The test of the state that `connect` ends with. -/
  | test
  /-- An asynchronous call has returned. -/
  | ended
  /-- `connect` has returned. -/
  | returned
  /-- `connect` has thrown `connection_failed`. -/
  | failed
  deriving DecidableEq

/-- The test of the state that a call begins with; it may return at once. -/
def Method.begins : Method → State → Option Stage
  | .asyncConnect, state => if state = .connected then none else some (.notifyConnect false)
  | .asyncDisconnect, state => if state = .disconnected then none else some .notifyDisconnect
  | .connect, state => if state = .connected then none else some (.notifyConnect true)

/-- The next statement of a call, if it can run. -/
def Stage.run (state : State) (events : EventSet Event) :
    Stage → Option (Stage × EventSet Event)
  | .notifyConnect waits =>
    some (if waits then .wait else .ended, events.notify .connectionRequested)
  | .notifyDisconnect => some (.ended, events.notify .disconnectionRequested)
  | .wait => if events.contains .connectionAttempt then some (.erase, events) else none
  | .erase => some (.test, events.erase .connectionAttempt)
  | .test => some (if state ≠ .connected then .failed else .returned, events)
  | .ended => none
  | .returned => none
  | .failed => none

/-- A call. -/
structure Call where
  /-- Where it is. -/
  stage : Stage
  /-- The state machine has left state connecting since. -/
  left : Bool
  deriving DecidableEq

/-- A master with the calls made. -/
structure Users (τ κ : Type) where
  /-- The master. -/
  life : Life τ κ
  /-- The calls, oldest first. -/
  calls : List Call
  /-- State connecting was left, and no call of `connect` has erased the event since. -/
  unclaimed : Bool

/-- What can happen. -/
inductive UserMove (τ κ : Type) where
  /-- The master goes on, its timers or its transport. -/
  | life (move : Move τ κ)
  /-- A call begins. -/
  | call (method : Method)
  /-- A call goes on. -/
  | resume (index : Nat)

/-- The moves that stand for whole calls, which are made statement by statement here. -/
def Move.isCall : Move τ κ → Bool
  | .asyncConnect => true
  | .connectReturns => true
  | .asyncDisconnect => true
  | _ => false

/-- The same master with other events pending. -/
def Life.withEvents (life : Life τ κ) (events : EventSet Event) : Life τ κ :=
  { life with party := { life.party with data := { life.data with events := events } } }

/-- A step leaves state connecting. -/
def Life.leaves (life : Life τ κ) (move : Move τ κ) (party : Party τ κ) : Bool :=
  match move with
  | .wakeup => life.state = .connecting && party.state ≠ .connecting
  | _ => false

/-- A step is the handler of state init, which clears the events. -/
def Life.clears (life : Life τ κ) : Move τ κ → Bool
  | .wakeup => life.state = .init && life.party.machine.position = 0
  | _ => false

/-- A call after a step of the master. -/
def Call.seen (left : Bool) (call : Call) : Call := { call with left := call.left || left }

namespace Users

/-- A master as constructed. -/
def initial (transport : τ) : Users τ κ := ⟨.initial transport, [], false⟩

/-- The users after a step of the master. -/
def lived (users : Users τ κ) (move : Move τ κ) (next : Life τ κ) : Users τ κ where
  life := next
  calls := users.calls.map (Call.seen (users.life.leaves move next.party))
  unclaimed := users.life.leaves move next.party ||
    (users.unclaimed && !users.life.clears move)

/-- The users after a statement of a call. -/
def resumed (users : Users τ κ) (index : Nat) (call : Call) (stage : Stage)
    (events : EventSet Event) : Users τ κ where
  life := users.life.withEvents events
  calls := users.calls.set index { call with stage := stage }
  unclaimed := users.unclaimed && call.stage ≠ .erase

/-- One step, if it can happen. -/
def step (setup : Setup τ κ) (users : Users τ κ) : UserMove τ κ → Option (Users τ κ)
  | .life move =>
    if move.isCall then none else (users.life.step setup move).map (users.lived move)
  | .call method =>
    match method.begins users.life.state with
    | none => some users
    | some stage => some { users with calls := users.calls ++ [⟨stage, false⟩] }
  | .resume index =>
    match users.calls[index]? with
    | none => none
    | some call =>
      (call.stage.run users.life.state users.life.data.events).map fun next =>
        users.resumed index call next.1 next.2

end Users

section Steps

variable {setup : Setup τ κ}

/-- A transition raises the event of an attempt when it leaves state connecting. -/
theorem attempt_moved {source target : State} {data : Data τ κ}
    (pending : .connectionAttempt ∈ (Party.movedTo source target data).data.events) :
    .connectionAttempt ∈ data.events ∨ source = .connecting := by
  by_cases left : source = .connecting
  · exact .inr left
  · change Event.connectionAttempt ∈ (if source = .connecting then _ else _) at pending
    rw [if_neg left] at pending
    exact .inl pending

/-- An entry raises the event of an attempt as it leaves state connecting only. -/
theorem attempt_wakes {master next : Party τ κ} (wakes : Wakes setup master next)
    (pending : .connectionAttempt ∈ next.data.events) :
    .connectionAttempt ∈ master.data.events ∨
      master.state = .connecting ∧ next.state ≠ .connecting := by
  have ran {state : State} {nbLoop : Nat} {data : Data τ κ}
      (raised : .connectionAttempt ∈ (after (handler setup state nbLoop data)).events) :
      .connectionAttempt ∈ data.events := by
    by_contra absent
    exact handler_absent setup (by decide) state nbLoop data absent raised
  cases wakes with
  | handled state nbLoop data returns => exact .inl (ran pending)
  | thrown state nbLoop data errc throws => exact .inl (ran pending)
  | waits nbLoop data => exact .inl (@ran .disconnected _ data pending)
  | woken nbLoop data some => exact .inl pending
  | begun nbLoop data => exact .inl ((attempt_moved pending).resolve_right (by decide))
  | requested nbLoop data some =>
    have before := (attempt_moved pending).resolve_right (by decide)
    exact .inl (Finset.mem_of_mem_erase before)
  | unrequested nbLoop data absent => exact .inl pending
  | closed state nbLoop data session isClosed =>
    rcases attempt_moved pending with before | left
    · exact .inl before
    · exact .inr ⟨left, fun same => by cases same⟩
  | stillOpen state nbLoop data session isOpen => exact .inl pending
  | dipTimeout nbLoop data some exhausted => exact .inr ⟨rfl, fun same => by cases same⟩
  | noDipTimeout nbLoop data left => exact .inl pending
  | connected nbLoop data some => exact .inr ⟨rfl, fun same => by cases same⟩
  | notConnected nbLoop data absent => exact .inl pending
  | kaTimeout nbLoop data some =>
    have before := (attempt_moved pending).resolve_right (by decide)
    exact .inl (Finset.mem_of_mem_erase before)
  | noKaTimeout nbLoop data absent => exact .inl pending
  | dismissed nbLoop data some =>
    have before := (attempt_moved pending).resolve_right (by decide)
    exact .inl (Finset.mem_of_mem_erase before)
  | undismissed nbLoop data absent => exact .inl pending

/-- A step of the master raises the event of an attempt as it leaves state connecting only. -/
theorem attempt_lives {life : Life τ κ} {move : Move τ κ} {party : Party τ κ} {phase : Phase}
    (lives : Lives setup life move party phase)
    (pending : .connectionAttempt ∈ party.data.events) :
    .connectionAttempt ∈ life.data.events ∨ life.leaves move party = true := by
  by_cases wakes : move = .wakeup
  · subst wakes
    cases lives with
    | wakeup _ alive wakes =>
      rcases attempt_wakes wakes pending with before | ⟨inside, outside⟩
      · exact .inl before
      · right
        change (decide (life.party.state = .connecting) && decide (party.state ≠ .connecting)) =
          true
        rw [decide_eq_true inside, decide_eq_true outside]
        rfl
  · rcases raised_lives lives wakes pending with before | raised
    · exact .inl before
    · generalize same : Event.connectionAttempt = event at raised
      cases raised with
      | expired batch type _ _ _ _ _ _ => cases type <;> cases same
      | requested => cases same
      | dismissed heard => cases same
      | stopped => cases same

/-- What a step does. -/
inductive Uses (setup : Setup τ κ) (users : Users τ κ) : UserMove τ κ → Users τ κ → Prop where
  /-- The master goes on. -/
  | life (move : Move τ κ) (party : Party τ κ) (phase : Phase) (own : move.isCall = false)
      (acted : users.life.act setup move = some (party, phase))
      (lives : Lives setup users.life move party phase) :
      Uses setup users (.life move) (users.lived move (users.life.marked move party phase))
  /-- A call returns at once. -/
  | skipped (method : Method) (refuses : method.begins users.life.state = none) :
      Uses setup users (.call method) users
  /-- A call begins. -/
  | called (method : Method) (stage : Stage)
      (begins : method.begins users.life.state = some stage) :
      Uses setup users (.call method) { users with calls := users.calls ++ [⟨stage, false⟩] }
  /-- A call goes on. -/
  | resumed (index : Nat) (call : Call) (stage : Stage) (events : EventSet Event)
      (found : users.calls[index]? = some call)
      (ran : call.stage.run users.life.state users.life.data.events = some (stage, events)) :
      Uses setup users (.resume index) (users.resumed index call stage events)

/-- What a step of a sound master's users does; the master is sound after it. -/
theorem Users.step_uses {users next : Users τ κ} {move : UserMove τ κ} (sound : users.life.Sound)
    (taken : users.step setup move = some next) : Uses setup users move next ∧ next.life.Sound := by
  cases move with
  | life move =>
    rw [Users.step] at taken
    split at taken
    · contradiction
    · next own =>
      obtain ⟨life, stepped, rfl⟩ := Option.map_eq_some_iff.mp taken
      obtain ⟨party, phase, acted, lives, rfl, still⟩ := sound.step stepped
      exact ⟨.life move party phase (Bool.eq_false_iff.mpr own) acted lives, still⟩
  | call method =>
    rw [Users.step] at taken
    split at taken
    · next refuses =>
      cases taken
      exact ⟨.skipped method refuses, sound⟩
    · next stage begins =>
      cases taken
      exact ⟨.called method stage begins, sound⟩
  | resume index =>
    rw [Users.step] at taken
    split at taken
    · contradiction
    · next call found =>
      obtain ⟨⟨stage, events⟩, ran, rfl⟩ := Option.map_eq_some_iff.mp taken
      exact ⟨.resumed index call stage events found ran, Sound.of_idle sound fun idle => idle⟩

end Steps

end Hdcp.Appli.Master
