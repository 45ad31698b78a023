import Hdcp.Appli.Master
import Hdcp.Master.Changes

/-!
# What an entry of the master's state machine can do

The handler of a state runs, waits in state disconnected for an event, then the checks run in order
until one of them moves the machine. Said once here for every state: where the machine is after an
entry, what the handlers do with events, and what they can change in the request manager.
-/

namespace Hdcp.Appli.Master

open Base
open Hdcp.Master hiding State Event

variable {τ κ : Type}

section Entries

variable (setup : Setup τ κ)

/-- The handler of a state. -/
def handler : State → Nat → Handler τ κ TransitionStatus
  | .init => fun _ => handlerStateInit
  | .disconnected => handlerStateDisconnected
  | .connecting => handlerStateConnecting setup
  | .connected => handlerStateConnected setup

/-- The handler of a state returns. -/
def Returns (state : State) (nbLoop : Nat) (data : Data τ κ) : Prop :=
  ∃ status next, handler setup state nbLoop data = .ok status next

/-- A master in the middle of a wakeup, or at its beginning. -/
def Party.at (state : State) (nbLoop position : Nat) (data : Data τ κ) : Party τ κ :=
  ⟨⟨state, nbLoop, position, false⟩, data⟩

/-- A master that waits in state disconnected for an event. -/
def Party.waiting (nbLoop : Nat) (data : Data τ κ) : Party τ κ :=
  ⟨⟨.disconnected, nbLoop, 0, true⟩, data⟩

/-- A master that moved to a state, its callback told. -/
def Party.movedTo (source target : State) (data : Data τ κ) : Party τ κ :=
  ⟨.entered target, transition source target data⟩

/-- The state with an event consumed. -/
def Data.without (data : Data τ κ) (event : Event) : Data τ κ :=
  { data with events := data.events.erase event }

/-- The state with another error to report. -/
def Data.withErrc (data : Data τ κ) (errc : Option ErrorCode) : Data τ κ :=
  { data with errc := errc }

/-- The state with another request manager. -/
def Data.withManager (data : Data τ κ) (manager : Hdcp.Master.State τ κ) : Data τ κ :=
  { data with manager := manager }

/-- The state with another transport. -/
def Data.withTransport (data : Data τ κ) (transport : τ) : Data τ κ :=
  data.withManager { data.manager with transport := transport }

/-- The state with a packet read. -/
def Data.reading (data : Data τ κ) (state : State) (message : Message) : Data τ κ :=
  { data with reads := data.reads ++ [(state, message)] }

/-- What the next entry can do. -/
inductive Wakes : Party τ κ → Party τ κ → Prop where
  /-- The handler of the state returns. -/
  | handled (state : State) (nbLoop : Nat) (data : Data τ κ)
      (returns : Returns setup state (nbLoop + 1) data) :
      Wakes (.at state nbLoop 0 data)
        (.at state (nbLoop + 1) 1 (after (handler setup state (nbLoop + 1) data)))
  /-- The handler of the state throws. -/
  | thrown (state : State) (nbLoop : Nat) (data : Data τ κ) (errc : Option ErrorCode)
      (throws : ¬ Returns setup state (nbLoop + 1) data) :
      Wakes (.at state nbLoop 0 data)
        (.at state (nbLoop + 1) 0
          ((after (handler setup state (nbLoop + 1) data)).withErrc errc))
  /-- No event is pending in state disconnected. -/
  | waits (nbLoop : Nat) (data : Data τ κ) :
      Wakes (.at .disconnected nbLoop 0 data)
        (.waiting (nbLoop + 1) (after (handler setup .disconnected (nbLoop + 1) data)))
  /-- An event ends the wait. -/
  | woken (nbLoop : Nat) (data : Data τ κ) (pending : data.events ≠ .empty) :
      Wakes (.waiting nbLoop data) (.at .disconnected nbLoop 1 data)
  /-- State init is left. -/
  | begun (nbLoop : Nat) (data : Data τ κ) :
      Wakes (.at .init nbLoop 1 data) (.movedTo .init .disconnected data)
  /-- A connection is requested. -/
  | requested (nbLoop : Nat) (data : Data τ κ) (pending : .connectionRequested ∈ data.events) :
      Wakes (.at .disconnected nbLoop 1 data)
        (.movedTo .disconnected .connecting (data.without .connectionRequested))
  /-- No connection is requested. -/
  | unrequested (nbLoop : Nat) (data : Data τ κ) (absent : .connectionRequested ∉ data.events) :
      Wakes (.at .disconnected nbLoop 1 data) (.at .disconnected nbLoop 0 data)
  /-- The transport is closed. -/
  | closed (state : State) (nbLoop : Nat) (data : Data τ κ)
      (session : state = .connecting ∨ state = .connected)
      (isClosed : setup.transport.isOpen data.manager.transport = false) :
      Wakes (.at state nbLoop 1 data)
        (.movedTo state .disconnected
          (data.withErrc (setup.transport.errorCode data.manager.transport)))
  /-- The transport is open. -/
  | stillOpen (state : State) (nbLoop : Nat) (data : Data τ κ)
      (session : state = .connecting ∨ state = .connected)
      (isOpen : setup.transport.isOpen data.manager.transport = true) :
      Wakes (.at state nbLoop 1 data) (.at state nbLoop 2 data)
  /-- The last connection attempt timed out. -/
  | dipTimeout (nbLoop : Nat) (data : Data τ κ) (pending : .dipTimeout ∈ data.events)
      (exhausted : maxConnectionAttempts ≤ data.connectionAttempts) :
      Wakes (.at .connecting nbLoop 2 data)
        (.movedTo .connecting .disconnected
          ((data.without .dipTimeout).withErrc (some (.application .dipTimeout))))
  /-- No connection attempt timed out, or others are left. -/
  | noDipTimeout (nbLoop : Nat) (data : Data τ κ)
      (left : ¬(.dipTimeout ∈ data.events ∧ maxConnectionAttempts ≤ data.connectionAttempts)) :
      Wakes (.at .connecting nbLoop 2 data) (.at .connecting nbLoop 3 data)
  /-- A DIP was received. -/
  | connected (nbLoop : Nat) (data : Data τ κ) (pending : .dipReceived ∈ data.events) :
      Wakes (.at .connecting nbLoop 3 data)
        (.movedTo .connecting .connected (data.without .dipReceived))
  /-- No DIP was received. -/
  | notConnected (nbLoop : Nat) (data : Data τ κ) (absent : .dipReceived ∉ data.events) :
      Wakes (.at .connecting nbLoop 3 data) (.at .connecting nbLoop 0 data)
  /-- The keepalive timeout is pending. -/
  | kaTimeout (nbLoop : Nat) (data : Data τ κ) (pending : .kaTimeout ∈ data.events) :
      Wakes (.at .connected nbLoop 2 data)
        (.movedTo .connected .disconnected
          ((data.without .kaTimeout).withErrc (some (.application .kaTimeout))))
  /-- The keepalive timeout is not pending. -/
  | noKaTimeout (nbLoop : Nat) (data : Data τ κ) (absent : .kaTimeout ∉ data.events) :
      Wakes (.at .connected nbLoop 2 data) (.at .connected nbLoop 3 data)
  /-- A disconnection is requested. -/
  | dismissed (nbLoop : Nat) (data : Data τ κ)
      (pending : .disconnectionRequested ∈ data.events) :
      Wakes (.at .connected nbLoop 3 data)
        (.movedTo .connected .disconnected (data.without .disconnectionRequested))
  /-- No disconnection is requested. -/
  | undismissed (nbLoop : Nat) (data : Data τ κ)
      (absent : .disconnectionRequested ∉ data.events) :
      Wakes (.at .connected nbLoop 3 data) (.at .connected nbLoop 0 data)

/-- The test of an event, which consumes it. -/
theorem eraseEvent_apply (event : Event) (data : Data τ κ) :
    eraseEvent event data = .ok (decide (event ∈ data.events)) (data.without event) := rfl

/-- The check of an event. -/
theorem checkEvent_apply (event : Event) (data : Data τ κ) :
    checkEvent event data = .ok
      (if event ∈ data.events then .gotoNextState else .stayCurrState) (data.without event) := by
  unfold checkEvent
  rw [bind_apply, eraseEvent_apply]
  by_cases pending : event ∈ data.events
  · simp [pending]
  · simp [pending]

/-- The check of the keepalive timeout. -/
theorem checkKaTimeout_apply (data : Data τ κ) :
    checkKaTimeout data =
      if .kaTimeout ∈ data.events then
        .ok .gotoNextState ((data.without .kaTimeout).withErrc (some (.application .kaTimeout)))
      else .ok .stayCurrState (data.without .kaTimeout) := by
  unfold checkKaTimeout
  rw [bind_apply, eraseEvent_apply]
  by_cases pending : Event.kaTimeout ∈ data.events
  · simp [pending, Data.withErrc]
  · simp [pending]

/-- The check of the connection timeout. -/
theorem checkDipTimeout_apply (data : Data τ κ) :
    checkDipTimeout data =
      if .dipTimeout ∈ data.events ∧ maxConnectionAttempts ≤ data.connectionAttempts then
        .ok .gotoNextState ((data.without .dipTimeout).withErrc (some (.application .dipTimeout)))
      else .ok .stayCurrState data := by
  unfold checkDipTimeout
  rw [bind_apply, get_apply]
  dsimp only
  by_cases failed : .dipTimeout ∈ data.events ∧ maxConnectionAttempts ≤ data.connectionAttempts
  · have tested : data.events.contains .dipTimeout = true ∧
        maxConnectionAttempts ≤ data.connectionAttempts :=
      ⟨decide_eq_true failed.1, failed.2⟩
    rw [if_pos failed, if_pos tested]
    rfl
  · have tested : ¬(data.events.contains .dipTimeout = true ∧
        maxConnectionAttempts ≤ data.connectionAttempts) :=
      fun tested => failed ⟨of_decide_eq_true tested.1, tested.2⟩
    rw [if_neg failed, if_neg tested]
    rfl

/-- Consuming an event that is not pending changes nothing. -/
theorem Data.without_of_notMem (data : Data τ κ) {event : Event} (absent : event ∉ data.events) :
    data.without event = data := by
  unfold Data.without EventSet.erase
  rw [Finset.erase_eq_of_notMem absent]

/-- The check of the transport. -/
theorem checkTransportClosed_apply (data : Data τ κ) :
    checkTransportClosed setup data =
      if setup.transport.isOpen data.manager.transport then .ok .stayCurrState data
      else .ok .gotoNextState
        (data.withErrc (setup.transport.errorCode data.manager.transport)) := by
  unfold checkTransportClosed
  rw [bind_apply, get_apply]
  dsimp only
  split <;> rfl

/-- The end of a handler that reads. -/
theorem readPacket_apply (state : State) (process : Message → Handler τ κ Unit)
    (data : Data τ κ) :
    readPacket setup state process data =
      match (setup.transport.read data.manager.transport).1 with
      | none =>
        .ok .stayCurrState
          (data.withTransport (setup.transport.read data.manager.transport).2)
      | some message =>
        (process message >>= fun _ => pure .stayCurrState)
          ((data.withTransport (setup.transport.read data.manager.transport).2).reading
            state message) := by
  unfold readPacket read
  rw [bind_apply, bind_apply, get_apply]
  dsimp only
  rw [bind_apply, modify_apply]
  dsimp only
  cases (setup.transport.read data.manager.transport).1 with
  | none => rfl
  | some message => rfl

/-- A handler never says to go on. -/
theorem handler_stays (state : State) (nbLoop : Nat) (data next : Data τ κ)
    (status : TransitionStatus) (returned : handler setup state nbLoop data = .ok status next) :
    status = .stayCurrState := by
  have reading : ∀ (state : State) (process : Message → Handler τ κ Unit) (data : Data τ κ),
      readPacket setup state process data = .ok status next → status = .stayCurrState := by
    intro state process data returned
    rw [readPacket_apply] at returned
    cases found : (setup.transport.read data.manager.transport).1 with
    | none =>
      rw [found] at returned
      cases returned
      rfl
    | some message =>
      rw [found] at returned
      obtain ⟨_, last, -, stay⟩ := (bind_eq_ok_iff _ _ _ _ _).mp returned
      cases stay
      rfl
  cases state with
  | init =>
    cases returned
    rfl
  | disconnected =>
    obtain ⟨_, middle, -, rest⟩ := (bind_eq_ok_iff _ _ _ _ _).mp returned
    cases rest
    rfl
  | connecting =>
    obtain ⟨_, middle, -, rest⟩ := (bind_eq_ok_iff _ _ _ _ _).mp returned
    obtain ⟨_, later, -, rest⟩ := (bind_eq_ok_iff _ _ _ _ _).mp rest
    obtain ⟨_, last, -, rest⟩ := (bind_eq_ok_iff _ _ _ _ _).mp rest
    exact reading _ _ last rest
  | connected =>
    obtain ⟨_, middle, -, rest⟩ := (bind_eq_ok_iff _ _ _ _ _).mp returned
    exact reading _ _ middle rest

/-- An exception leaves an error to report, at most. -/
theorem caught_eq (error : Exn) (data : Data τ κ) :
    ∃ errc, caught error data = data.withErrc errc := by
  unfold caught
  cases error.code with
  | none => exact ⟨data.errc, rfl⟩
  | some code => exact ⟨some code, rfl⟩

/-- The first entry of a state is its handler; only that of state disconnected waits. -/
theorem handler_entry (state : State) : ∃ entry,
    ((statemachine setup).table state)[0]? = some entry ∧ entry.handler = handler setup state ∧
      ∀ data, entry.waits data = true → state = .disconnected := by
  cases state with
  | init => exact ⟨_, rfl, rfl, fun _ waits => by contradiction⟩
  | disconnected => exact ⟨_, rfl, rfl, fun _ _ => rfl⟩
  | connecting => exact ⟨_, rfl, rfl, fun _ waits => by contradiction⟩
  | connected => exact ⟨_, rfl, rfl, fun _ waits => by contradiction⟩

/-- A handler that throws ends its wakeup. -/
theorem wakeup_throws {state : State} {nbLoop : Nat} {data last : Data τ κ} {error : Exn}
    (outcome : handler setup state (nbLoop + 1) data = .error error last) :
    Party.wakeup setup (.at state nbLoop 0 data) =
      some (.at state (nbLoop + 1) 0 (caught error last)) := by
  obtain ⟨entry, found, runs, -⟩ := handler_entry setup state
  unfold Party.wakeup Party.at
  rw [Statemachine.step_at _ state nbLoop 0 data entry found, runs]
  simp only [if_true, outcome]
  rfl

/-- The handler of a state runs. -/
theorem wakes_handler (state : State) (nbLoop : Nat) (data : Data τ κ) (next : Party τ κ)
    (taken : Party.wakeup setup (.at state nbLoop 0 data) = some next) :
    Wakes setup (.at state nbLoop 0 data) next := by
  obtain ⟨entry, found, runs, waiting⟩ := handler_entry setup state
  have more : 0 + 1 < ((statemachine setup).table state).length := by
    cases state <;> simp [statemachine, states]
  unfold Party.wakeup Party.at at taken
  rw [Statemachine.step_at _ state nbLoop 0 data entry found, runs] at taken
  simp only [if_true, if_pos more] at taken
  cases outcome : handler setup state (nbLoop + 1) data with
  | ok status last =>
    obtain rfl := handler_stays setup state _ data last status outcome
    rw [outcome] at taken
    dsimp only at taken
    split at taken
    · next waits =>
      obtain rfl := waiting last waits
      have stays := @Wakes.waits τ κ setup nbLoop data
      rw [outcome] at stays
      cases taken
      exact stays
    · have returns := @Wakes.handled τ κ setup state nbLoop data ⟨_, _, outcome⟩
      rw [outcome] at returns
      cases taken
      exact returns
  | error error last =>
    obtain ⟨errc, same⟩ := caught_eq error last
    have throws := @Wakes.thrown τ κ setup state nbLoop data errc (by
      rintro ⟨status, next, returned⟩
      rw [outcome] at returned
      contradiction)
    rw [outcome] at taken throws
    change some _ = some next at taken
    obtain rfl := Option.some.inj taken
    change Wakes setup _ (.at state (nbLoop + 1) 0 (caught error last))
    rw [same]
    exact throws

/-- An entry after the first of a wakeup is over, or the machine moves. -/
theorem wakeup_check {state : State} {position : Nat} {data last : Data τ κ}
    {status : TransitionStatus} (nbLoop : Nat) (entry : Entry State Exn (Data τ κ))
    (found : (states setup state)[position + 1]? = some entry)
    (plain : entry.waits = fun _ => false)
    (outcome : entry.handler nbLoop data = .ok status last) :
    Party.wakeup setup (.at state nbLoop (position + 1) data) = some
      (if status = .gotoNextState then .movedTo state entry.target last
      else .at state nbLoop
        (if position + 2 < (states setup state).length then position + 2 else 0) last) := by
  unfold Party.wakeup Party.at
  rw [Statemachine.step_at (statemachine setup) state nbLoop (position + 1) data entry found,
    if_neg (Nat.succ_ne_zero position), outcome, plain]
  cases status with
  | stayCurrState => rfl
  | gotoNextState => rfl

/-- The last check of a wakeup, of an event. -/
theorem wakes_event {state : State} (nbLoop : Nat) {position : Nat} (data : Data τ κ)
    {next : Party τ κ} (event : Event) (target : State)
    (found : (states setup state)[position + 1]? =
      some { target := target, handler := fun _ => checkEvent event })
    (last : (states setup state).length = position + 2)
    (taken : Party.wakeup setup (.at state nbLoop (position + 1) data) = some next) :
    event ∈ data.events ∧ next = .movedTo state target (data.without event) ∨
      event ∉ data.events ∧ next = .at state nbLoop 0 data := by
  have went := wakeup_check setup nbLoop _ found rfl (checkEvent_apply event data)
  rw [went, last] at taken
  by_cases pending : event ∈ data.events
  · rw [if_pos pending, if_pos rfl] at taken
    exact .inl ⟨pending, (Option.some.inj taken).symm⟩
  · rw [if_neg pending, if_neg (by decide), if_neg (Nat.lt_irrefl _),
      data.without_of_notMem pending] at taken
    exact .inr ⟨pending, (Option.some.inj taken).symm⟩

/-- The check of the transport, in the two states of a session. -/
theorem wakes_transport {state : State} (nbLoop : Nat) (data : Data τ κ) {next : Party τ κ}
    (session : state = .connecting ∨ state = .connected)
    (taken : Party.wakeup setup (.at state nbLoop 1 data) = some next) :
    Wakes setup (.at state nbLoop 1 data) next := by
  have found : (states setup state)[0 + 1]? =
      some { target := .disconnected, handler := fun _ => checkTransportClosed setup } := by
    rcases session with rfl | rfl
    · rfl
    · rfl
  have more : 0 + 2 < (states setup state).length := by
    rcases session with rfl | rfl
    · exact Nat.lt_succ_of_lt (Nat.lt_succ_self _)
    · exact Nat.lt_succ_of_lt (Nat.lt_succ_self _)
  have checked := checkTransportClosed_apply setup data
  cases isOpen : setup.transport.isOpen data.manager.transport with
  | false =>
    rw [isOpen, if_neg (by decide)] at checked
    have went := wakeup_check setup nbLoop _ found rfl checked
    rw [went, if_pos rfl] at taken
    cases taken
    exact .closed state nbLoop data session isOpen
  | true =>
    rw [isOpen, if_pos rfl] at checked
    have went := wakeup_check setup nbLoop _ found rfl checked
    rw [went, if_neg (by decide), if_pos more] at taken
    cases taken
    exact .stillOpen state nbLoop data session isOpen

/-- The check of the connection timeout. -/
theorem wakes_dipTimeout (nbLoop : Nat) (data : Data τ κ) {next : Party τ κ}
    (taken : Party.wakeup setup (.at .connecting nbLoop 2 data) = some next) :
    Wakes setup (.at .connecting nbLoop 2 data) next := by
  have found : (states setup .connecting)[1 + 1]? =
      some { target := .disconnected, handler := fun _ => checkDipTimeout } := rfl
  have more : 1 + 2 < (states setup .connecting).length := Nat.lt_succ_self _
  have checked := checkDipTimeout_apply data
  by_cases failed : .dipTimeout ∈ data.events ∧ maxConnectionAttempts ≤ data.connectionAttempts
  · rw [if_pos failed] at checked
    have went := wakeup_check setup nbLoop _ found rfl checked
    rw [went, if_pos rfl] at taken
    cases taken
    exact .dipTimeout nbLoop data failed.1 failed.2
  · rw [if_neg failed] at checked
    have went := wakeup_check setup nbLoop _ found rfl checked
    rw [went, if_neg (by decide), if_pos more] at taken
    cases taken
    exact .noDipTimeout nbLoop data failed

/-- The check of the keepalive timeout. -/
theorem wakes_kaTimeout (nbLoop : Nat) (data : Data τ κ) {next : Party τ κ}
    (taken : Party.wakeup setup (.at .connected nbLoop 2 data) = some next) :
    Wakes setup (.at .connected nbLoop 2 data) next := by
  have found : (states setup .connected)[1 + 1]? =
      some { target := .disconnected, handler := fun _ => checkKaTimeout } := rfl
  have more : 1 + 2 < (states setup .connected).length := Nat.lt_succ_self _
  have checked := checkKaTimeout_apply data
  by_cases pending : Event.kaTimeout ∈ data.events
  · rw [if_pos pending] at checked
    have went := wakeup_check setup nbLoop _ found rfl checked
    rw [went, if_pos rfl] at taken
    cases taken
    exact .kaTimeout nbLoop data pending
  · rw [if_neg pending, data.without_of_notMem pending] at checked
    have went := wakeup_check setup nbLoop _ found rfl checked
    rw [went, if_neg (by decide), if_pos more] at taken
    cases taken
    exact .noKaTimeout nbLoop data pending

/-- A state has no entry behind its last one. -/
theorem wakeup_beyond {state : State} {nbLoop position : Nat} {data : Data τ κ}
    (beyond : (states setup state).length ≤ position) :
    Party.wakeup setup (.at state nbLoop position data) = none := by
  have missing : ((statemachine setup).table state)[position]? = none :=
    List.getElem?_eq_none beyond
  unfold Party.wakeup Party.at Statemachine.step
  dsimp only
  rw [missing]
  rfl

/-- The master waits between entries in state disconnected only. -/
def Calm (master : Party τ κ) : Prop :=
  master.machine.waiting = true →
    master.machine.current = .disconnected ∧ master.machine.position = 0

/-- A wakeup of the waiting master. -/
theorem wakes_waiting {nbLoop : Nat} {data : Data τ κ} {next : Party τ κ}
    (taken : Party.wakeup setup (.waiting nbLoop data) = some next) :
    Wakes setup (.waiting nbLoop data) next := by
  by_cases quiet : data.events = .empty
  · have still : Party.wakeup setup (.waiting nbLoop data) = none := by
      simp [Party.wakeup, Party.waiting, Statemachine.step, statemachine, states, waitsForEvent,
        quiet]
    rw [still] at taken
    contradiction
  · have went : Party.wakeup setup (.waiting nbLoop data) =
        some (.at .disconnected nbLoop 1 data) := by
      simp [Party.wakeup, Party.waiting, Statemachine.step, statemachine, states, waitsForEvent,
        quiet, Machine.passed, Party.at]
    rw [went] at taken
    cases taken
    exact .woken nbLoop data quiet

/-- What an entry of the master can do. -/
theorem wakeup_wakes {master next : Party τ κ} (taken : master.wakeup setup = some next)
    (calm : Calm master) : Wakes setup master next := by
  obtain ⟨⟨state, nbLoop, position, waiting⟩, data⟩ := master
  cases waiting with
  | true =>
    obtain ⟨rfl, rfl⟩ : state = .disconnected ∧ position = 0 := calm rfl
    exact wakes_waiting setup taken
  | false =>
    change Wakes setup (.at state nbLoop position data) next
    change Party.wakeup setup (.at state nbLoop position data) = some next at taken
    match position with
    | 0 => exact wakes_handler setup state nbLoop data next taken
    | 1 =>
      cases state with
      | init =>
        have checked : checkTrue data = .ok .gotoNextState data := rfl
        have found : (states setup .init)[0 + 1]? =
            some { target := .disconnected, handler := fun _ => checkTrue } := rfl
        have went := wakeup_check setup nbLoop _ found rfl checked
        rw [went] at taken
        cases taken
        exact .begun nbLoop data
      | disconnected =>
        rcases wakes_event setup nbLoop data .connectionRequested .connecting rfl rfl taken with
          ⟨pending, rfl⟩ | ⟨absent, rfl⟩
        · exact .requested nbLoop data pending
        · exact .unrequested nbLoop data absent
      | connecting => exact wakes_transport setup nbLoop data (.inl rfl) taken
      | connected => exact wakes_transport setup nbLoop data (.inr rfl) taken
    | 2 =>
      cases state with
      | init =>
        rw [wakeup_beyond setup (Nat.le_refl 2)] at taken
        contradiction
      | disconnected =>
        rw [wakeup_beyond setup (Nat.le_refl 2)] at taken
        contradiction
      | connecting => exact wakes_dipTimeout setup nbLoop data taken
      | connected => exact wakes_kaTimeout setup nbLoop data taken
    | 3 =>
      cases state with
      | init =>
        rw [wakeup_beyond setup (Nat.le_succ 2)] at taken
        contradiction
      | disconnected =>
        rw [wakeup_beyond setup (Nat.le_succ 2)] at taken
        contradiction
      | connecting =>
        rcases wakes_event setup nbLoop data .dipReceived .connected rfl rfl taken with
          ⟨pending, rfl⟩ | ⟨absent, rfl⟩
        · exact .connected nbLoop data pending
        · exact .notConnected nbLoop data absent
      | connected =>
        rcases wakes_event setup nbLoop data .disconnectionRequested .disconnected rfl rfl taken
          with ⟨pending, rfl⟩ | ⟨absent, rfl⟩
        · exact .dismissed nbLoop data pending
        · exact .undismissed nbLoop data absent
    | beyond + 4 =>
      have longest : (states setup state).length ≤ 4 := by
        cases state with
        | init => exact Nat.le_add_right 2 2
        | disconnected => exact Nat.le_add_right 2 2
        | connecting => exact Nat.le_refl 4
        | connected => exact Nat.le_refl 4
      rw [wakeup_beyond setup (Nat.le_trans longest (Nat.le_add_left 4 beyond))] at taken
      contradiction

end Entries

section Touches

variable (setup : Setup τ κ)

/-- What a handler does to the request manager, `start` apart. That a packet id is taken and no
packet written under it may be excluded. -/
inductive Touch (loses : Prop) : Data τ κ → Data τ κ → Prop where
  /-- The manager changes. -/
  | manager (data : Data τ κ) (next : Hdcp.Master.State τ κ)
      (change : Change setup.environment loses data.manager next) :
      Touch loses data (data.withManager next)
  /-- A packet is read, or the queues are cleared. -/
  | transport (data : Data τ κ) (transport : τ)
      (moved : setup.transport.Moves data.manager.transport transport) :
      Touch loses data (data.withTransport transport)
  /-- The manager is left alone. -/
  | fields (data next : Data τ κ) (same : next.manager = data.manager) : Touch loses data next

/-- Where packet ids may be lost, they need not be. -/
theorem Touch.mono {setup : Setup τ κ} {loses : Prop} {data next : Data τ κ}
    (touch : Touch setup False data next) : Touch setup loses data next := by
  cases touch with
  | manager next change => exact .manager data next change.mono
  | transport transport moved => exact .transport data transport moved
  | fields _ same => exact .fields data next same

/-- What a handler does touches the manager so; what it may do when it throws is a parameter. -/
abbrev Touching {α : Type} (setup : Setup τ κ) (loses : Prop) (action : Handler τ κ α) : Prop :=
  Performs (Touch setup False) (Touch setup loses) action

namespace Touching

variable {setup} {loses : Prop} {α β : Type}

/-- A sequence. -/
theorem bind {first : Handler τ κ α} {rest : α → Handler τ κ β}
    (begun : Touching setup loses first) (ended : ∀ value, Touching setup loses (rest value)) :
    Touching setup loses (first >>= rest) :=
  Performs.bind (fun _ _ => Touch.mono) begun ended

/-- The manager is left alone. -/
theorem fields {change : Data τ κ → Data τ κ}
    (same : ∀ data, (change data).manager = data.manager) :
    Touching setup loses (modify change : Handler τ κ Unit) :=
  .single (fun _ => ()) _ (fun _ => rfl) fun data => .fields data _ (same data)

/-- The test of an event leaves the manager alone. -/
theorem eraseEvent (event : Event) : Touching setup loses (eraseEvent event : Handler τ κ Bool) :=
  .single _ _ (eraseEvent_apply event) fun data => .fields data _ rfl

/-- Changes of the manager are changes of the master. -/
theorem of_changes {data : Data τ κ} {manager : Hdcp.Master.State τ κ}
    (changes : Changes setup.environment loses data.manager manager) :
    Relation.ReflTransGen (Touch setup loses) data (data.withManager manager) := by
  induction changes with
  | refl => exact .refl
  | tail _ change ih => exact ih.tail (.manager _ _ change)

/-- An operation of the manager. -/
theorem onManager {action : Action τ κ α}
    (performs : Performs (Change setup.environment False) (Change setup.environment loses) action) :
    Touching setup loses (onManager action) := by
  intro data
  obtain ⟨returns, throws⟩ := performs data.manager
  unfold Master.onManager
  cases outcome : action data.manager with
  | ok value manager =>
    constructor
    · intro result next returned
      cases returned
      exact of_changes (returns value manager outcome)
    · intro error next thrown
      contradiction
  | error error manager =>
    constructor
    · intro result next returned
      contradiction
    · intro result next thrown
      cases thrown
      exact of_changes (throws error manager outcome)

/-- What every touch keeps of the manager, touches keep. -/
theorem keeps_touches {holds : Hdcp.Master.State τ κ → Prop}
    (changes : ∀ manager next, Change setup.environment loses manager next → holds manager →
      holds next)
    (transports : ∀ manager transport,
      setup.transport.Moves manager.transport transport → holds manager →
        holds { manager with transport := transport }) {data next : Data τ κ}
    (touches : Relation.ReflTransGen (Touch setup loses) data next)
    (standing : holds data.manager) : holds next.manager := by
  induction touches with
  | refl => exact standing
  | tail _ touch ih =>
    cases touch with
    | manager manager change => exact changes _ _ change ih
    | transport transport moved => exact transports _ transport moved ih
    | fields _ same =>
      rw [same]
      exact ih

/-- What every touch keeps of the manager, a handler keeps. -/
theorem keeps {action : Handler τ κ α} (touching : Touching setup loses action)
    (holds : Hdcp.Master.State τ κ → Prop)
    (changes : ∀ manager next, Change setup.environment loses manager next → holds manager →
      holds next)
    (transports : ∀ manager transport,
      setup.transport.Moves manager.transport transport → holds manager →
        holds { manager with transport := transport }) :
    Keeps (fun data => holds data.manager) action :=
  fun data standing => keeps_touches changes transports
    (touching.steps (fun _ _ => Touch.mono) data) standing

/-- What every touch that loses no packet id keeps of the manager, a handler that returns keeps. -/
theorem returns {action : Handler τ κ α} (touching : Touching setup loses action)
    (holds : Hdcp.Master.State τ κ → Prop)
    (changes : ∀ manager next, Change setup.environment False manager next → holds manager →
      holds next)
    (transports : ∀ manager transport,
      setup.transport.Moves manager.transport transport → holds manager →
        holds { manager with transport := transport })
    {data next : Data τ κ} {value : α} (returned : action data = .ok value next)
    (standing : holds data.manager) : holds next.manager :=
  keeps_touches changes transports ((touching data).1 value next returned) standing

end Touching

/-- Reading and processing a packet. -/
theorem readPacket_touching {loses : Prop} (state : State) {process : Message → Handler τ κ Unit}
    (touching : ∀ message, Touching setup loses (process message)) :
    Touching setup loses (readPacket setup state process) := by
  intro data
  rw [readPacket_apply]
  have read := @Touch.transport τ κ setup False data
    (setup.transport.read data.manager.transport).2 (.inl rfl)
  cases (setup.transport.read data.manager.transport).1 with
  | none =>
    constructor
    · intro value next returned
      cases returned
      exact .single read
    · intro error next thrown
      contradiction
  | some message =>
    have heard := @Touch.fields τ κ setup False
      (data.withTransport (setup.transport.read data.manager.transport).2)
      ((data.withTransport (setup.transport.read data.manager.transport).2).reading state message)
      rfl
    have rest : Touching setup loses
        (process message >>= fun _ => pure TransitionStatus.stayCurrState) :=
      .bind (touching message) fun _ => .pure _
    obtain ⟨returns, throws⟩ := rest ((data.withTransport
      (setup.transport.read data.manager.transport).2).reading state message)
    constructor
    · intro value next returned
      exact .head read (.head heard (returns value next returned))
    · intro error next thrown
      exact .head read.mono (.head heard.mono (throws error next thrown))

/-- Reading and processing in state connecting loses no packet id. -/
theorem readConnecting_touching {loses : Prop} :
    Touching setup loses (readPacket setup .connecting processConnecting) := by
  refine readPacket_touching setup _ fun message => .runIf ?_
  refine Touching.bind (.fields fun _ => rfl) fun _ => Touching.bind (.fields fun _ => rfl)
    fun _ => Touching.bind (.onManager ?_) fun _ => .fields fun _ => rfl
  intro manager
  refine ⟨(ackDip_changing manager).1, fun error next thrown => ?_⟩
  rw [ackDip_apply] at thrown
  contradiction

/-- Reading and processing in state connected loses no packet id. -/
theorem readConnected_touching {loses : Prop} :
    Touching setup loses (readPacket setup .connected (processConnected setup)) := by
  have acked :
    ∀ packet, Touching setup loses (onManager (ackCommand setup.environment packet)) := by
    refine fun packet => .onManager fun manager => ⟨(ackCommand_lossless packet manager).1, ?_⟩
    intro error next thrown
    exact Changes.mono ((ackCommand_lossless packet manager).2 error next thrown)
  have kept : Touching setup loses (onManager ackKeepalive) := by
    refine .onManager fun manager => ⟨(ackKeepalive_changing manager).1, ?_⟩
    intro error next thrown
    rw [ackKeepalive_apply] at thrown
    contradiction
  refine readPacket_touching setup _ fun message => .bind ?_ fun _ =>
    .choice (acked message.packet) (.choice ?_ (.choice kept (.pure ())))
  · refine .bind (.fields fun _ => rfl) fun _ => .bind .get fun _ => ?_
    exact .runIf (Touching.fields fun _ => rfl)
  · unfold giveData
    cases setup.dataCb with
    | none => exact .pure ()
    | some dataCb =>
      refine Touching.bind (.fields fun _ => rfl) fun _ => ?_
      cases dataCb message.packet with
      | none => exact .pure ()
      | some error => exact .throw error

/-- A connection attempt, if one is due, and a packet: each wakeup in state connecting. -/
def attempt : Handler τ κ TransitionStatus := do
  let due ← attemptDue
  runIf (due = true) (attemptConnection setup)
  readPacket setup .connecting processConnecting

/-- An attempt touches the manager so. -/
theorem attempt_touching : Touching setup True (attempt setup) := by
  refine .bind ?_ fun _ => .bind (.runIf ?_) fun _ => readConnecting_touching setup
  · exact .bind .get fun _ => .choice (.pure true) (Touching.eraseEvent .dipTimeout)
  · exact Touching.bind (.fields fun _ => rfl) fun _ => .onManager (sendHip_changing _ _)

/-- The later wakeups in state connecting. -/
theorem handler_later (nbLoop : Nat) (later : nbLoop ≠ 1) :
    handler setup .connecting nbLoop = attempt setup := by
  change (runIf (nbLoop = 1) (enterConnecting setup) >>= fun _ => attempt setup) = _
  unfold runIf
  rw [if_neg later, pure_bind]

/-- A master whose session begins: its queues are cleared and its manager is started. -/
def Data.begun (data : Data τ κ) : Data τ κ :=
  { data with
    manager :=
      { toFields := data.manager.toFields.started
        transport := setup.transport.clearQueues data.manager.transport
        outputs := data.manager.outputs }
    events := data.events.erase .dipReceived
    connectionAttempts := 0 }

/-- An operation of the manager that returns. -/
theorem onManager_apply {α : Type} {action : Action τ κ α} {data : Data τ κ} {value : α}
    {manager : Hdcp.Master.State τ κ} (returned : action data.manager = .ok value manager) :
    onManager action data = .ok value (data.withManager manager) := by
  unfold onManager
  rw [returned]
  rfl

/-- An operation of the manager that returned. -/
theorem onManager_eq_ok {α : Type} {action : Action τ κ α} {data next : Data τ κ} {value : α}
    (returned : onManager action data = .ok value next) :
    ∃ manager, action data.manager = .ok value manager ∧ next = data.withManager manager := by
  unfold onManager at returned
  cases outcome : action data.manager with
  | ok result manager =>
    rw [outcome] at returned
    cases returned
    exact ⟨manager, rfl, rfl⟩
  | error error manager =>
    rw [outcome] at returned
    contradiction

/-- A manager that does not run is started. -/
theorem onManager_start (data : Data τ κ) (idle : data.manager.running = false) :
    onManager start data =
      .ok () (data.withManager (data.manager.withFields data.manager.toFields.started)) :=
  onManager_apply (start_apply data.manager idle)

/-- The first wakeup in state connecting, with a manager that does not run. -/
theorem handler_first (data : Data τ κ) (idle : data.manager.running = false) :
    handler setup .connecting 1 data = attempt setup (data.begun setup) := by
  have started : onManager start
      (data.withTransport (setup.transport.clearQueues data.manager.transport)) =
        .ok () (data.withManager (data.begun setup).manager) := onManager_start _ idle
  have entered : enterConnecting setup data = .ok () (data.begun setup) := by
    change (onManager start >>= fun _ => eraseEvent .dipReceived >>= fun _ => modify fun data =>
      { data with connectionAttempts := 0 })
        (data.withTransport (setup.transport.clearQueues data.manager.transport)) = _
    rw [bind_apply, started]
    rfl
  change (enterConnecting setup >>= fun _ => attempt setup) data = _
  rw [bind_apply, entered]

/-- The handlers touch the manager so, but for the first wakeup in state connecting. -/
theorem handler_touching (state : State) (nbLoop : Nat)
    (later : state = .connecting → nbLoop ≠ 1) :
    Touching setup True (handler setup state nbLoop) := by
  cases state with
  | init =>
    exact Touching.bind (.fields fun _ => rfl) fun _ =>
      Touching.bind (.fields fun _ => rfl) fun _ => .pure _
  | disconnected =>
    refine Touching.bind (.runIf (Touching.bind (.fields fun _ => rfl) fun _ => .onManager ?_))
      fun _ => .pure _
    exact .single (fun _ => ()) _ (fun _ => rfl) fun manager => .stopped manager
  | connecting =>
    rw [handler_later setup nbLoop (later rfl)]
    exact attempt_touching setup
  | connected =>
    refine Touching.bind (.runIf (Touching.onManager ?_)) fun _ => readConnected_touching setup
    exact startKeepaliveManagement_changing _ _

/-- What `start` and every touch keep of the manager, a handler keeps. -/
theorem handler_keeps (holds : Hdcp.Master.State τ κ → Prop)
    (changes : ∀ manager next, Change setup.environment True manager next → holds manager →
      holds next)
    (transports : ∀ manager transport,
      setup.transport.Moves manager.transport transport → holds manager →
        holds { manager with transport := transport })
    (starts : ∀ manager, manager.running = false → holds manager →
      holds (manager.withFields manager.toFields.started))
    (state : State) (nbLoop : Nat) :
    Keeps (fun data => holds data.manager) (handler setup state nbLoop) := by
  by_cases first : state = .connecting ∧ nbLoop = 1
  · obtain ⟨rfl, rfl⟩ := first
    refine .bind (.runIf ?_) fun _ => (attempt_touching setup).keeps holds changes transports
    refine .bind (fun data => transports data.manager _ (.inr rfl)) fun _ => .bind ?_ fun _ =>
      .bind (fun _ standing => standing) fun _ => .modify fun _ standing => standing
    intro data standing
    cases running : data.manager.running with
    | false =>
      rw [onManager_start data running]
      exact starts data.manager running standing
    | true =>
      rw [onManager_apply (start_running data.manager running)]
      exact standing
  · refine (handler_touching setup state nbLoop ?_).keeps holds changes transports
    exact fun connecting same => first ⟨connecting, same⟩

/-- A manager that does not run does not run after a handler, but for the first wakeup in state
connecting. -/
theorem handler_idle {state : State} {nbLoop : Nat} {data : Data τ κ}
    (idle : data.manager.running = false) (later : state = .connecting → nbLoop ≠ 1) :
    (after (handler setup state nbLoop data)).manager.running = false := by
  have touching := handler_touching setup state nbLoop later
  exact touching.keeps (fun manager => manager.running = false)
    (fun _ _ change idle => change.idle idle) (fun _ _ _ idle => idle) data idle

/-- What the handlers keep, and what depends on the manager only, a wakeup keeps. -/
theorem wakeup_keeps {holds : Data τ κ → Prop}
    (handled : ∀ state nbLoop, Keeps holds (handler setup state nbLoop))
    (others : ∀ data next : Data τ κ, next.manager = data.manager → holds data → holds next)
    {master next : Party τ κ} (taken : master.wakeup setup = some next)
    (standing : holds master.data) : holds next.data := by
  obtain ⟨⟨machine, data⟩, stepped, rfl⟩ := Option.map_eq_some_iff.mp taken
  have event : ∀ event, Keeps holds (checkEvent event) := fun event =>
    .bind (.bind .get fun _ => .bind (.modify fun data => others data _ rfl) fun _ => .pure _)
      fun _ => .choice (.pure _) (.pure _)
  have closed : Keeps holds (checkTransportClosed setup) :=
    .bind .get fun _ => .choice (.pure _) (.bind (.modify fun data => others data _ rfl)
      fun _ => .pure _)
  refine Statemachine.step_keeps _ stepped ?_ (fun _ _ data => others data _ rfl) ?_ standing
  · intro entry inside loops
    cases current : master.machine.current with
    | init =>
      simp only [current, statemachine, states, List.mem_cons, List.not_mem_nil, or_false] at inside
      rcases inside with rfl | rfl
      · exact handled .init loops
      · exact .pure _
    | disconnected =>
      simp only [current, statemachine, states, List.mem_cons, List.not_mem_nil, or_false] at inside
      rcases inside with rfl | rfl
      · exact handled .disconnected loops
      · exact event .connectionRequested
    | connecting =>
      simp only [current, statemachine, states, List.mem_cons, List.not_mem_nil, or_false] at inside
      rcases inside with rfl | rfl | rfl | rfl
      · exact handled .connecting loops
      · exact closed
      · refine .bind .get fun _ => .choice (.bind ?_ fun _ => .bind ?_ fun _ => .pure _) (.pure _)
        · exact .bind .get fun _ => .bind (.modify fun data => others data _ rfl) fun _ => .pure _
        · exact .modify fun data => others data _ rfl
      · exact event .dipReceived
    | connected =>
      simp only [current, statemachine, states, List.mem_cons, List.not_mem_nil, or_false] at inside
      rcases inside with rfl | rfl | rfl | rfl
      · exact handled .connected loops
      · exact closed
      · refine .bind ?_ fun _ => .choice (.bind ?_ fun _ => .pure _) (.pure _)
        · exact .bind .get fun _ => .bind (.modify fun data => others data _ rfl) fun _ => .pure _
        · exact .modify fun data => others data _ rfl
      · exact event .disconnectionRequested
  · intro error data holding
    change holds (caught error data)
    unfold caught
    cases error.code with
    | none => exact holding
    | some code => exact others data _ rfl holding

/-- After the first wakeup in state disconnected the manager does not run. -/
theorem disconnected_idle (data : Data τ κ) :
    (after (handler setup .disconnected 1 data)).manager.running = false := rfl

end Touches

section Keeping

variable (setup : Setup τ κ) {holds : Data τ κ → Prop}

/-- What does not depend on the manager, its operations keep. -/
theorem onManager_keeps {α : Type}
    (managers : ∀ data manager, holds data → holds (data.withManager manager))
    (action : Action τ κ α) : Keeps holds (onManager action) := by
  intro data standing
  unfold onManager
  cases action data.manager with
  | ok value manager => exact managers data manager standing
  | error error manager => exact managers data manager standing

/-- A packet is noted as given to `data_cb_` if that is set, and nothing else changes. -/
theorem giveData_leaves (message : Message) (data : Data τ κ) :
    ∃ delivered, (delivered = data.delivered ∨ delivered = data.delivered ++ [message]) ∧
      after (giveData setup message data) = { data with delivered := delivered } := by
  unfold giveData
  cases setup.dataCb with
  | none => exact ⟨data.delivered, .inl rfl, rfl⟩
  | some dataCb =>
    refine ⟨data.delivered ++ [message], .inr rfl, ?_⟩
    dsimp only
    rw [bind_apply, modify_apply]
    cases dataCb message.packet with
    | none => rfl
    | some error => rfl

/-- What does not depend on what was given to `data_cb_`, giving more keeps. -/
theorem giveData_keeps
    (gives : ∀ data delivered, holds data → holds { data with delivered := delivered })
    (message : Message) : Keeps holds (giveData setup message) := by
  intro data standing
  obtain ⟨delivered, -, left⟩ := giveData_leaves setup message data
  rw [left]
  exact gives data delivered standing

/-- What processing a packet keeps, reading one and processing it keeps. -/
theorem readPacket_keeps (state : State) {process : Message → Handler τ κ Unit}
    (managers : ∀ data manager, holds data → holds (data.withManager manager))
    (reads : ∀ data message, holds data → holds (data.reading state message))
    (processing : ∀ message, Keeps holds (process message)) :
    Keeps holds (readPacket setup state process) := by
  intro data standing
  rw [readPacket_apply]
  have transported := managers data
    { data.manager with transport := (setup.transport.read data.manager.transport).2 } standing
  cases (setup.transport.read data.manager.transport).1 with
  | none => exact transported
  | some message =>
    have processed : Keeps holds
        (process message >>= fun _ => pure TransitionStatus.stayCurrState) :=
      .bind (processing message) fun _ => .pure _
    exact processed _ (reads _ message transported)

/-- What depends on no manager, no packet id and nothing delivered, processing in state connected
keeps. -/
theorem processConnected_keeps
    (managers : ∀ data manager, holds data → holds (data.withManager manager))
    (counts : ∀ data id, holds data → holds { data with receivedPacketId := id })
    (gives : ∀ data delivered, holds data → holds { data with delivered := delivered })
    (message : Message) : Keeps holds (processConnected setup message) := by
  refine .bind ?_ fun _ => .choice (onManager_keeps managers _) (.choice ?_
    (.choice (onManager_keeps managers _) (.pure ())))
  · refine .bind (.modify fun data => counts data _) fun _ => .bind .get fun _ => ?_
    exact .runIf (.modify fun data => counts data _)
  · exact giveData_keeps setup gives message

/-- What depends on no manager, no packet id, nothing delivered and no packet read there, state
connected keeps. -/
theorem connected_keeps
    (managers : ∀ data manager, holds data → holds (data.withManager manager))
    (counts : ∀ data id, holds data → holds { data with receivedPacketId := id })
    (gives : ∀ data delivered, holds data → holds { data with delivered := delivered })
    (reads : ∀ data message, holds data → holds (data.reading .connected message))
    (nbLoop : Nat) : Keeps holds (handler setup .connected nbLoop) := by
  refine .bind (.runIf (onManager_keeps managers _)) fun _ => ?_
  exact readPacket_keeps setup .connected managers reads
    (processConnected_keeps setup managers counts gives)

/-- What depends on the pending events only through others, the test of an event keeps. -/
theorem eraseEvent_keeps (event : Event)
    (erased : ∀ data, holds data → holds (data.without event)) :
    Keeps holds (eraseEvent event : Handler τ κ Bool) := fun data => erased data

end Keeping

end Hdcp.Appli.Master
