import Hdcp.Appli.Slave
import Hdcp.Base.Runs
import Hdcp.Slave.Changes

/-!
# What an entry of the slave's state machine can do

The handler of a state runs, then the checks in order until one of them moves the machine. Said
once here for every state: where the machine is after an entry, what the handlers do with events
and packets, and what they can change in the request manager.
-/

namespace Hdcp.Appli.Slave

open Base
open Hdcp.Slave hiding State

variable {τ : Type}

section Entries

variable (setup : Setup τ)

/-- The handler of a state. -/
def handler : State → Nat → Handler τ TransitionStatus
  | .init => fun _ => handlerStateInit
  | .disconnected => handlerStateDisconnected setup
  | .connecting => handlerStateConnecting setup
  | .connected => fun _ => handlerStateConnected setup

/-- The handler of a state returns. -/
def Returns (state : State) (nbLoop : Nat) (data : Data τ) : Prop :=
  ∃ status next, handler setup state nbLoop data = .ok status next

/-- A slave in the middle of a wakeup, or at its beginning. -/
def Party.at (state : State) (nbLoop position : Nat) (data : Data τ) : Party τ :=
  ⟨⟨state, nbLoop, position, false⟩, data⟩

/-- A slave that moved to a state, its callback told. -/
def Party.movedTo (target : State) (data : Data τ) : Party τ :=
  ⟨.entered target, transition target target data⟩

/-- The state with an event consumed. -/
def Data.without (data : Data τ) (event : Event) : Data τ :=
  { data with events := data.events.erase event }

/-- The state with another transport. -/
def Data.withTransport (data : Data τ) (transport : τ) : Data τ :=
  { data with manager := { data.manager with transport := transport } }

/-- The state with a packet read. -/
def Data.reading (data : Data τ) (state : State) (message : Message) : Data τ :=
  { data with reads := data.reads ++ [(state, message)] }

/-- What the next entry can do. -/
inductive Wakes : Party τ → Party τ → Prop where
  /-- The handler of the state returns. -/
  | handled (state : State) (nbLoop : Nat) (data : Data τ)
      (returns : Returns setup state (nbLoop + 1) data) :
      Wakes (.at state nbLoop 0 data)
        (.at state (nbLoop + 1) 1 (after (handler setup state (nbLoop + 1) data)))
  /-- The handler of the state throws. -/
  | thrown (state : State) (nbLoop : Nat) (data : Data τ)
      (throws : ¬ Returns setup state (nbLoop + 1) data) :
      Wakes (.at state nbLoop 0 data)
        (.at state (nbLoop + 1) 0 (after (handler setup state (nbLoop + 1) data)))
  /-- State init is left. -/
  | begun (nbLoop : Nat) (data : Data τ) :
      Wakes (.at .init nbLoop 1 data) (.movedTo .disconnected data)
  /-- The transport is closed. -/
  | closed (state : State) (nbLoop : Nat) (data : Data τ) (other : state ≠ .init)
      (isClosed : setup.transport.isOpen data.manager.transport = false) :
      Wakes (.at state nbLoop 1 data)
        (.movedTo .disconnected
          { data with errc := setup.transport.errorCode data.manager.transport })
  /-- The transport is open. -/
  | stillOpen (state : State) (nbLoop : Nat) (data : Data τ) (other : state ≠ .init)
      (isOpen : setup.transport.isOpen data.manager.transport = true) :
      Wakes (.at state nbLoop 1 data)
        (.at state nbLoop 2
          { data with errc := setup.transport.errorCode data.manager.transport })
  /-- The keepalive timeout is pending. -/
  | kaTimeout (state : State) (nbLoop : Nat) (data : Data τ)
      (session : state = .connecting ∨ state = .connected) (pending : .kaTimeout ∈ data.events) :
      Wakes (.at state nbLoop 2 data)
        (.movedTo .disconnected
          { data.without .kaTimeout with errc := some (.application .kaTimeout) })
  /-- The keepalive timeout is not pending. -/
  | noKaTimeout (state : State) (nbLoop : Nat) (data : Data τ)
      (session : state = .connecting ∨ state = .connected) (absent : .kaTimeout ∉ data.events) :
      Wakes (.at state nbLoop 2 data) (.at state nbLoop 3 data)
  /-- A HIP was received. -/
  | hipReceived (state : State) (nbLoop position : Nat) (data : Data τ)
      (last : state = .disconnected ∧ position = 2 ∨ state = .connected ∧ position = 3)
      (pending : .hipReceived ∈ data.events) :
      Wakes (.at state nbLoop position data) (.movedTo .connecting (data.without .hipReceived))
  /-- No HIP was received. -/
  | noHip (state : State) (nbLoop position : Nat) (data : Data τ)
      (last : state = .disconnected ∧ position = 2 ∨ state = .connected ∧ position = 3)
      (absent : .hipReceived ∉ data.events) :
      Wakes (.at state nbLoop position data) (.at state nbLoop 0 data)
  /-- A keepalive was received. -/
  | connected (nbLoop : Nat) (data : Data τ) (pending : .firstKaReceived ∈ data.events) :
      Wakes (.at .connecting nbLoop 3 data)
        (.movedTo .connected (data.without .firstKaReceived))
  /-- No keepalive was received. -/
  | notConnected (nbLoop : Nat) (data : Data τ) (absent : .firstKaReceived ∉ data.events) :
      Wakes (.at .connecting nbLoop 3 data) (.at .connecting nbLoop 0 data)

/-- The check of an event. -/
theorem checkEvent_apply (event : Event) (data : Data τ) :
    checkEvent event data = .ok
      (if event ∈ data.events then .gotoNextState else .stayCurrState) (data.without event) := by
  unfold checkEvent eraseEvent
  rw [bind_apply, bind_apply, get_apply]
  by_cases pending : event ∈ data.events
  · simp [pending, EventSet.contains, Data.without]
  · simp [pending, EventSet.contains, Data.without]

/-- The check of the keepalive timeout. -/
theorem checkKaTimeout_apply (data : Data τ) :
    checkKaTimeout data =
      if .kaTimeout ∈ data.events then
        .ok .gotoNextState
          { data.without .kaTimeout with errc := some (.application .kaTimeout) }
      else .ok .stayCurrState (data.without .kaTimeout) := by
  unfold checkKaTimeout eraseEvent
  rw [bind_apply, bind_apply, get_apply]
  by_cases pending : Event.kaTimeout ∈ data.events
  · simp [pending, EventSet.contains, Data.without]
  · simp [pending, EventSet.contains, Data.without]

/-- Consuming an event that is not pending changes nothing. -/
theorem Data.without_of_notMem (data : Data τ) {event : Event} (absent : event ∉ data.events) :
    data.without event = data := by
  unfold Data.without EventSet.erase
  rw [Finset.erase_eq_of_notMem absent]

/-- The check of the transport. -/
theorem checkTransportClosed_apply (data : Data τ) :
    checkTransportClosed setup data = .ok
      (if setup.transport.isOpen data.manager.transport then .stayCurrState else .gotoNextState)
      { data with errc := setup.transport.errorCode data.manager.transport } := by
  unfold checkTransportClosed
  rw [bind_apply, get_apply]
  dsimp only
  rw [bind_apply, modify_apply]
  dsimp only
  split <;> rfl

/-- A handler never says to go on. -/
theorem handler_stays (state : State) (nbLoop : Nat) (data next : Data τ)
    (status : TransitionStatus) (returned : handler setup state nbLoop data = .ok status next) :
    status = .stayCurrState := by
  have reading : ∀ (state : State) (process : Message → Handler τ Unit) (data : Data τ),
      readPacket setup state process data = .ok status next → status = .stayCurrState := by
    intro state process data returned
    obtain ⟨found, middle, -, rest⟩ := (bind_eq_ok_iff _ _ _ _ _).mp returned
    cases found with
    | none =>
      cases rest
      rfl
    | some message =>
      obtain ⟨_, last, -, stay⟩ := (bind_eq_ok_iff _ _ _ _ _).mp rest
      cases stay
      rfl
  cases state with
  | init =>
    cases returned
    rfl
  | disconnected =>
    obtain ⟨_, middle, -, rest⟩ := (bind_eq_ok_iff _ _ _ _ _).mp returned
    exact reading _ _ middle rest
  | connecting =>
    obtain ⟨_, middle, -, rest⟩ := (bind_eq_ok_iff _ _ _ _ _).mp returned
    exact reading _ _ middle rest
  | connected => exact reading _ _ data returned

/-- The handler of a state runs. -/
theorem wakes_handler (state : State) (nbLoop : Nat) (data : Data τ) (next : Party τ)
    (taken : Party.wakeup setup (.at state nbLoop 0 data) = some next) :
    Wakes setup (.at state nbLoop 0 data) next := by
  obtain ⟨entry, found, runs, plain⟩ :
    ∃ entry, ((statemachine setup).table state)[0]? = some entry ∧
      entry.handler = handler setup state ∧ entry.waits = fun _ => false := by
    cases state <;> exact ⟨_, rfl, rfl, rfl⟩
  have more : 0 + 1 < ((statemachine setup).table state).length := by
    cases state <;> simp [statemachine, states]
  unfold Party.wakeup Party.at at taken
  rw [Statemachine.step_at _ state nbLoop 0 data entry found, runs, plain] at taken
  simp only [if_true, if_pos more, Bool.false_eq_true, if_false] at taken
  cases outcome : handler setup state (nbLoop + 1) data with
  | ok status last =>
    obtain rfl := handler_stays setup state _ data last status outcome
    have returns := @Wakes.handled τ setup state nbLoop data ⟨_, _, outcome⟩
    rw [outcome] at taken returns
    cases taken
    exact returns
  | error error last =>
    have throws := @Wakes.thrown τ setup state nbLoop data (by
      rintro ⟨status, next, returned⟩
      rw [outcome] at returned
      contradiction)
    rw [outcome] at taken throws
    cases taken
    exact throws

/-- An entry after the first of a wakeup is over, or the machine moves. -/
theorem wakeup_check {state : State} {position : Nat} {data last : Data τ}
    {status : TransitionStatus} (nbLoop : Nat) (entry : Entry State Exn (Data τ))
    (found : (states setup state)[position + 1]? = some entry)
    (plain : entry.waits = fun _ => false)
    (outcome : entry.handler nbLoop data = .ok status last) :
    Party.wakeup setup (.at state nbLoop (position + 1) data) = some
      (if status = .gotoNextState then .movedTo entry.target last
      else .at state nbLoop
        (if position + 2 < (states setup state).length then position + 2 else 0) last) := by
  unfold Party.wakeup Party.at
  rw [Statemachine.step_at (statemachine setup) state nbLoop (position + 1) data entry found,
    if_neg (Nat.succ_ne_zero position), outcome, plain]
  cases status with
  | stayCurrState => rfl
  | gotoNextState => rfl

/-- The check of the transport, in the three states that have it. -/
theorem wakes_transport {state : State} (nbLoop : Nat) (data : Data τ) {next : Party τ}
    (other : state ≠ .init) (taken : Party.wakeup setup (.at state nbLoop 1 data) = some next) :
    Wakes setup (.at state nbLoop 1 data) next := by
  have found : (states setup state)[0 + 1]? =
      some { target := .disconnected, handler := fun _ => checkTransportClosed setup } := by
    cases state with
    | init => contradiction
    | disconnected => rfl
    | connecting => rfl
    | connected => rfl
  have more : 0 + 2 < (states setup state).length := by
    cases state with
    | init => contradiction
    | disconnected => exact Nat.lt_succ_self _
    | connecting => exact Nat.lt_succ_of_lt (Nat.lt_succ_self _)
    | connected => exact Nat.lt_succ_of_lt (Nat.lt_succ_self _)
  have went := wakeup_check setup nbLoop _ found rfl (checkTransportClosed_apply setup data)
  rw [went, if_pos more] at taken
  cases isOpen : setup.transport.isOpen data.manager.transport with
  | false =>
    rw [isOpen] at taken
    cases taken
    exact .closed state nbLoop data other isOpen
  | true =>
    rw [isOpen] at taken
    cases taken
    exact .stillOpen state nbLoop data other isOpen

/-- The check of the keepalive timeout, in the two states of a session. -/
theorem wakes_kaTimeout {state : State} (nbLoop : Nat) (data : Data τ) {next : Party τ}
    (session : state = .connecting ∨ state = .connected)
    (taken : Party.wakeup setup (.at state nbLoop 2 data) = some next) :
    Wakes setup (.at state nbLoop 2 data) next := by
  have found : (states setup state)[1 + 1]? =
      some { target := .disconnected, handler := fun _ => checkKaTimeout } := by
    rcases session with rfl | rfl
    · rfl
    · rfl
  have more : 1 + 2 < (states setup state).length := by
    rcases session with rfl | rfl
    · exact Nat.lt_succ_self _
    · exact Nat.lt_succ_self _
  have checked := checkKaTimeout_apply data
  by_cases pending : Event.kaTimeout ∈ data.events
  · rw [if_pos pending] at checked
    have went := wakeup_check setup nbLoop _ found rfl checked
    rw [went, if_pos rfl] at taken
    cases taken
    exact .kaTimeout state nbLoop data session pending
  · rw [if_neg pending, data.without_of_notMem pending] at checked
    have went := wakeup_check setup nbLoop _ found rfl checked
    rw [went, if_neg (by decide), if_pos more] at taken
    cases taken
    exact .noKaTimeout state nbLoop data session pending

/-- The last check of a wakeup, of an event. -/
theorem wakes_event {state : State} (nbLoop : Nat) {position : Nat} (data : Data τ)
    {next : Party τ} (event : Event) (target : State)
    (found : (states setup state)[position + 1]? =
      some { target := target, handler := fun _ => checkEvent event })
    (last : (states setup state).length = position + 2)
    (taken : Party.wakeup setup (.at state nbLoop (position + 1) data) = some next) :
    event ∈ data.events ∧ next = .movedTo target (data.without event) ∨
      event ∉ data.events ∧ next = .at state nbLoop 0 data := by
  have went := wakeup_check setup nbLoop _ found rfl (checkEvent_apply event data)
  rw [went, last] at taken
  by_cases pending : event ∈ data.events
  · rw [if_pos pending, if_pos rfl] at taken
    exact .inl ⟨pending, (Option.some.inj taken).symm⟩
  · rw [if_neg pending, if_neg (by decide), if_neg (Nat.lt_irrefl _),
      data.without_of_notMem pending] at taken
    exact .inr ⟨pending, (Option.some.inj taken).symm⟩

/-- A state has no entry behind its last one. -/
theorem wakeup_beyond {state : State} {nbLoop position : Nat} {data : Data τ}
    (beyond : (states setup state).length ≤ position) :
    Party.wakeup setup (.at state nbLoop position data) = none := by
  have missing : ((statemachine setup).table state)[position]? = none :=
    List.getElem?_eq_none beyond
  unfold Party.wakeup Party.at Statemachine.step
  dsimp only
  rw [missing]
  rfl

/-- What an entry of the slave can do. -/
theorem wakeup_wakes {slave next : Party τ} (taken : slave.wakeup setup = some next)
    (awake : slave.machine.waiting = false) : Wakes setup slave next := by
  obtain ⟨⟨state, nbLoop, position, waiting⟩, data⟩ := slave
  obtain rfl : waiting = false := awake
  change Wakes setup (.at state nbLoop position data) next
  change Party.wakeup setup (.at state nbLoop position data) = some next at taken
  match position with
  | 0 => exact wakes_handler setup state nbLoop data next taken
  | 1 =>
    by_cases first : state = .init
    · subst first
      have checked : checkTrue data = .ok .gotoNextState data := rfl
      have found : (states setup .init)[0 + 1]? =
          some { target := .disconnected, handler := fun _ => checkTrue } := rfl
      have went := wakeup_check setup nbLoop _ found rfl checked
      rw [went] at taken
      cases taken
      exact .begun nbLoop data
    · exact wakes_transport setup nbLoop data first taken
  | 2 =>
    cases state with
    | init =>
      rw [wakeup_beyond setup (Nat.le_refl 2)] at taken
      contradiction
    | disconnected =>
      rcases wakes_event setup nbLoop data .hipReceived .connecting rfl rfl taken with
        ⟨pending, rfl⟩ | ⟨absent, rfl⟩
      · exact .hipReceived _ nbLoop 2 data (.inl ⟨rfl, rfl⟩) pending
      · exact .noHip _ nbLoop 2 data (.inl ⟨rfl, rfl⟩) absent
    | connecting => exact wakes_kaTimeout setup nbLoop data (.inl rfl) taken
    | connected => exact wakes_kaTimeout setup nbLoop data (.inr rfl) taken
  | 3 =>
    cases state with
    | init =>
      rw [wakeup_beyond setup (Nat.le_succ 2)] at taken
      contradiction
    | disconnected =>
      rw [wakeup_beyond setup (Nat.le_refl 3)] at taken
      contradiction
    | connecting =>
      rcases wakes_event setup nbLoop data .firstKaReceived .connected rfl rfl taken with
        ⟨pending, rfl⟩ | ⟨absent, rfl⟩
      · exact .connected nbLoop data pending
      · exact .notConnected nbLoop data absent
    | connected =>
      rcases wakes_event setup nbLoop data .hipReceived .connecting rfl rfl taken with
        ⟨pending, rfl⟩ | ⟨absent, rfl⟩
      · exact .hipReceived _ nbLoop 3 data (.inr ⟨rfl, rfl⟩) pending
      · exact .noHip _ nbLoop 3 data (.inr ⟨rfl, rfl⟩) absent
  | beyond + 4 =>
    have longest : (states setup state).length ≤ 4 := by
      cases state with
      | init => exact Nat.le_add_right 2 2
      | disconnected => exact Nat.le_succ 3
      | connecting => exact Nat.le_refl 4
      | connected => exact Nat.le_refl 4
    rw [wakeup_beyond setup (Nat.le_trans longest (Nat.le_add_left 4 beyond))] at taken
    contradiction

/-- What the checks leave alone: the manager, what is known of the master, the packets read. -/
structure Data.Rests (data next : Data τ) : Prop where
  /-- `request_manager_`. -/
  manager : next.manager = data.manager
  /-- `master_id_`. -/
  masterId : next.masterId = data.masterId
  /-- The packets read. -/
  reads : next.reads = data.reads

/-- An entry runs the handler of its state, or leaves what the checks do. -/
theorem Wakes.ran_or_rests {setup : Setup τ} {slave next : Party τ}
    (wakes : Wakes setup slave next) :
    (slave.machine.position = 0 ∧ next.machine.current = slave.machine.current ∧
      ∃ nbLoop, next.data = after (handler setup slave.machine.current nbLoop slave.data)) ∨
    slave.data.Rests next.data := by
  cases wakes with
  | handled state nbLoop data returns => exact .inl ⟨rfl, rfl, _, rfl⟩
  | thrown state nbLoop data throws => exact .inl ⟨rfl, rfl, _, rfl⟩
  | begun nbLoop data => exact .inr ⟨rfl, rfl, rfl⟩
  | closed state nbLoop data other isClosed => exact .inr ⟨rfl, rfl, rfl⟩
  | stillOpen state nbLoop data other isOpen => exact .inr ⟨rfl, rfl, rfl⟩
  | kaTimeout state nbLoop data session pending => exact .inr ⟨rfl, rfl, rfl⟩
  | noKaTimeout state nbLoop data session absent => exact .inr ⟨rfl, rfl, rfl⟩
  | hipReceived state nbLoop position data last pending => exact .inr ⟨rfl, rfl, rfl⟩
  | noHip state nbLoop position data last absent => exact .inr ⟨rfl, rfl, rfl⟩
  | connected nbLoop data pending => exact .inr ⟨rfl, rfl, rfl⟩
  | notConnected nbLoop data absent => exact .inr ⟨rfl, rfl, rfl⟩

/-- What the handlers keep of the manager, every entry keeps. -/
theorem Wakes.keeps_manager {setup : Setup τ} {slave next : Party τ}
    {holds : Hdcp.Slave.State τ → Prop} (wakes : Wakes setup slave next)
    (handled : ∀ state nbLoop, Keeps (fun data => holds data.manager) (handler setup state nbLoop))
    (standing : holds slave.data.manager) : holds next.data.manager := by
  rcases wakes.ran_or_rests with ⟨-, -, nbLoop, ran⟩ | rests
  · rw [ran]
    exact handled _ nbLoop slave.data standing
  · rw [rests.manager]
    exact standing

end Entries

section Packets

variable (setup : Setup τ)

/-- A packet read in a state raises an event. -/
inductive Raises : State → Message → Event → Prop where
  /-- A HIP opens a session. -/
  | hip (state : State) (message : Message) (listens : state = .disconnected ∨ state = .connected)
      (type : message.packet.type = PacketType.hip.code) : Raises state message .hipReceived
  /-- The first keepalive connects. -/
  | ka (message : Message) (type : message.packet.type = PacketType.ka.code) :
      Raises .connecting message .firstKaReceived

/-- Processing a packet raises nothing but what the packet raises; a HIP that ends a session leaves
the manager stopped. -/
def Processing (state : State) (process : Message → Handler τ Unit) : Prop :=
  ∀ message data, (after (process message data)).reads = data.reads ∧
    ((after (process message data)).events = data.events ∨
      ∃ event, Raises state message event ∧
        (after (process message data)).events = data.events.notify event ∧
        (state = .connected → (after (process message data)).manager.running = false))

/-- What a handler does with packets and events: at most one packet is read, and the events are the
same but for one that the packet raises. -/
inductive Heard (state : State) (data next : Data τ) : Prop where
  /-- No event is raised. -/
  | nothing (events : next.events = data.events) (reads : data.reads <+: next.reads)
  /-- A packet raises an event. -/
  | raised (message : Message) (event : Event) (raises : Raises state message event)
      (events : next.events = data.events.notify event)
      (reads : next.reads = data.reads ++ [(state, message)])
      (stopped : state = .connected → next.manager.running = false)

/-- The packets read and the pending events are these. -/
def Data.Tells (data : Data τ) (reads : List (State × Message)) (events : EventSet Event) : Prop :=
  data.reads = reads ∧ data.events = events

variable {reads : List (State × Message)} {events : EventSet Event}

/-- The request manager reads no packet and raises no event. -/
theorem onManager_tells {α : Type} (action : Action τ α) :
    Keeps (fun data => data.Tells reads events) (onManager action) := by
  intro data told
  unfold onManager
  cases action data.manager with
  | ok value manager => exact told
  | error error manager => exact told

/-- The test of a packet's id. -/
theorem checkPacketId_tells (packet : Packet) :
    Keeps (fun data => Data.Tells data reads events) (checkPacketId packet : Handler τ Unit) := by
  refine .bind (.modify fun _ told => told) fun _ => .bind .get fun _ => ?_
  exact .runIf (.modify fun _ told => told)

/-- Processing in state disconnected. -/
theorem processDisconnected_processing :
    Processing .disconnected (processDisconnected : Message → Handler τ Unit) := by
  intro message data
  unfold processDisconnected runIf
  by_cases hip : message.packet.type = PacketType.hip.code
  · rw [if_pos hip]
    exact ⟨rfl, .inr ⟨.hipReceived, .hip _ message (.inl rfl) hip, rfl,
      by intro other; contradiction⟩⟩
  · rw [if_neg hip]
    exact ⟨rfl, .inl rfl⟩

/-- Processing in state connecting. -/
theorem processConnecting_processing : Processing .connecting (processConnecting setup) := by
  intro message data
  have checked : Keeps (fun state => state.Tells data.reads data.events)
      (checkPacketId message.packet : Handler τ Unit) := checkPacketId_tells message.packet
  have counted := checked data ⟨rfl, rfl⟩
  unfold processConnecting
  rw [bind_apply]
  cases outcome : (checkPacketId message.packet : Handler τ Unit) data with
  | error error middle =>
    rw [outcome] at counted
    exact ⟨counted.1, .inl counted.2⟩
  | ok value middle =>
    rw [outcome] at counted
    obtain ⟨sameReads, sameEvents⟩ := counted
    rw [← sameReads, ← sameEvents]
    dsimp only [after]
    unfold runIf
    by_cases ka : message.packet.type = PacketType.ka.code
    · rw [if_pos ka, bind_apply]
      have acked : Keeps (fun state => state.Tells middle.reads middle.events)
        (onManager (keepalive setup.environment)) := onManager_tells _
      have told := acked middle ⟨rfl, rfl⟩
      cases acking : onManager (keepalive setup.environment) middle with
      | error error last =>
        rw [acking] at told
        exact ⟨told.1, .inl told.2⟩
      | ok value last =>
        rw [acking] at told
        refine ⟨told.1, .inr ⟨.firstKaReceived, .ka message ka, ?_, by intro other; contradiction⟩⟩
        rw [← told.2]
        rfl
    · rw [if_neg ka]
      exact ⟨rfl, .inl rfl⟩

/-- Processing in state connected. -/
theorem processConnected_processing : Processing .connected (processConnected setup) := by
  intro message data
  have checked : Keeps (fun state => state.Tells data.reads data.events)
      (checkPacketId message.packet : Handler τ Unit) := checkPacketId_tells message.packet
  have counted := checked data ⟨rfl, rfl⟩
  unfold processConnected
  rw [bind_apply]
  cases outcome : (checkPacketId message.packet : Handler τ Unit) data with
  | error error middle =>
    rw [outcome] at counted
    exact ⟨counted.1, .inl counted.2⟩
  | ok value middle =>
    rw [outcome] at counted
    obtain ⟨sameReads, sameEvents⟩ := counted
    rw [← sameReads, ← sameEvents]
    dsimp only [after]
    by_cases hip : message.packet.type = PacketType.hip.code
    · rw [if_pos hip]
      exact ⟨rfl, .inr ⟨.hipReceived, .hip _ message (.inr rfl) hip, rfl, fun _ => rfl⟩⟩
    · rw [if_neg hip]
      have quiet : Keeps (fun state => state.Tells middle.reads middle.events)
          (if message.packet.type = PacketType.cmd.code then do
            onManager (keepalive setup.environment)
            onManager (sendCmdAck setup.environment message.packet)
            execute setup message
          else if message.packet.type = PacketType.ka.code then
            onManager (keepalive setup.environment)
          else pure ()) := by
        refine .choice ?_ (.choice (onManager_tells _) (.pure _))
        refine .bind (onManager_tells _) fun _ => .bind (onManager_tells _) fun _ => ?_
        exact .runIf (.modify fun _ told => told)
      have told := quiet middle ⟨rfl, rfl⟩
      exact ⟨told.1, .inl told.2⟩

/-- The end of a handler. -/
theorem readPacket_apply (state : State) (process : Message → Handler τ Unit) (data : Data τ) :
    readPacket setup state process data =
      match (setup.transport.read data.manager.transport).1 with
      | none =>
        .ok .stayCurrState
          (data.withTransport (setup.transport.read data.manager.transport).2)
      | some message =>
        (process message >>= fun _ => pure .stayCurrState)
          ((data.withTransport (setup.transport.read data.manager.transport).2).reading
            state message) := by
  unfold readPacket read
  rw [bind_apply, bind_apply, get_apply]
  dsimp only
  rw [bind_apply, modify_apply]
  dsimp only
  cases (setup.transport.read data.manager.transport).1 with
  | none => rfl
  | some message => rfl

/-- What the end of a handler does with packets and events. -/
theorem readPacket_heard {state : State} {process : Message → Handler τ Unit}
    (processing : Processing state process) (data : Data τ) :
    Heard state data (after (readPacket setup state process data)) := by
  rw [readPacket_apply]
  generalize (setup.transport.read data.manager.transport).2 = transport
  cases (setup.transport.read data.manager.transport).1 with
  | none => exact .nothing rfl (List.prefix_refl _)
  | some message =>
    obtain ⟨sameReads, heard⟩ := processing message
      ((data.withTransport transport).reading state message)
    have last : Heard state data (after (process message
        ((data.withTransport transport).reading state message))) := by
      rcases heard with same | ⟨event, raises, raised, stopped⟩
      · exact .nothing same (sameReads ▸ List.prefix_append _ _)
      · exact .raised message event raises raised sameReads stopped
    dsimp only
    rw [bind_apply]
    cases outcome : process message ((data.withTransport transport).reading state message) with
    | ok value next =>
      rw [outcome] at last
      exact last
    | error error next =>
      rw [outcome] at last
      exact last

/-- What comes before reading neither reads nor raises. -/
theorem heard_after {state : State} {before : Handler τ Unit} {process : Message → Handler τ Unit}
    (processing : Processing state process) (data : Data τ)
    (quiet : Keeps (fun next => Data.Tells next data.reads data.events) before) :
    Heard state data (after ((before >>= fun _ => readPacket setup state process) data)) := by
  have told := quiet data ⟨rfl, rfl⟩
  rw [bind_apply]
  cases outcome : before data with
  | error error middle =>
    rw [outcome] at told
    exact .nothing told.2 (told.1 ▸ List.prefix_refl _)
  | ok value middle =>
    rw [outcome] at told
    obtain ⟨sameReads, sameEvents⟩ : middle.reads = data.reads ∧ middle.events = data.events := told
    dsimp only
    rcases readPacket_heard setup processing middle with ⟨same, grown⟩ |
      ⟨message, event, raises, raised, grown, stopped⟩
    · exact .nothing (same.trans sameEvents) (sameReads ▸ grown)
    · refine .raised message event raises ?_ ?_ stopped
      · rw [raised, sameEvents]
      · rw [grown, sameReads]

/-- What a handler does with packets and events. -/
theorem handler_heard {state : State} (nbLoop : Nat) (data : Data τ) (other : state ≠ .init) :
    Heard state data (after (handler setup state nbLoop data)) := by
  cases state with
  | init => contradiction
  | disconnected =>
    refine heard_after setup processDisconnected_processing data (.runIf ?_)
    exact .bind (onManager_tells _) fun _ => onManager_tells _
  | connecting =>
    refine heard_after setup (processConnecting_processing setup) data (.runIf ?_)
    exact .bind (onManager_tells _) fun _ => .bind (onManager_tells _) fun _ => onManager_tells _
  | connected => exact readPacket_heard setup (processConnected_processing setup) data

/-- A handler leaves pending events pending, but for the one that forgets them all. -/
theorem handler_pending {state : State} {data : Data τ} {event : Event} (nbLoop : Nat)
    (other : state ≠ .init) (pending : event ∈ data.events) :
    event ∈ (after (handler setup state nbLoop data)).events := by
  rcases handler_heard setup nbLoop data other with ⟨same, -⟩ | ⟨_, raised, -, notified, -, -⟩
  · exact same ▸ pending
  · rw [notified]
    exact Finset.mem_insert_of_mem pending

end Packets

section Touches

variable (setup : Setup τ)

/-- What a handler does to the request manager, `start` apart. That a packet id is taken and no
packet written under it may be excluded. -/
inductive Touch (loses : Prop) : Data τ → Data τ → Prop where
  /-- The manager changes. -/
  | manager (data : Data τ) (next : Hdcp.Slave.State τ)
      (change : Change setup.environment loses data.manager next) :
      Touch loses data { data with manager := next }
  /-- A packet is read, or the queues are cleared. -/
  | transport (data : Data τ) (transport : τ)
      (moved : setup.transport.Moves data.manager.transport transport) :
      Touch loses data (data.withTransport transport)
  /-- The manager is left alone. -/
  | fields (data next : Data τ) (same : next.manager = data.manager) : Touch loses data next

/-- Where packet ids may be lost, they need not be. -/
theorem Touch.mono {setup : Setup τ} {loses : Prop} {data next : Data τ}
    (touch : Touch setup False data next) : Touch setup loses data next := by
  cases touch with
  | manager next change => exact .manager data next change.mono
  | transport transport moved => exact .transport data transport moved
  | fields _ same => exact .fields data next same

/-- What a handler does touches the manager so, and loses a packet id only when it throws. -/
abbrev Touching {α : Type} (setup : Setup τ) (action : Handler τ α) : Prop :=
  Performs (Touch setup False) (Touch setup True) action

namespace Touching

variable {setup} {α β : Type}

/-- A sequence. -/
theorem bind {first : Handler τ α} {rest : α → Handler τ β} (begun : Touching setup first)
    (ended : ∀ value, Touching setup (rest value)) : Touching setup (first >>= rest) :=
  Performs.bind (fun _ _ => Touch.mono) begun ended

/-- The manager's fields are left alone. -/
theorem fields {change : Data τ → Data τ} (same : ∀ data, (change data).manager = data.manager) :
    Touching setup (modify change : Handler τ Unit) :=
  .single (fun _ => ()) _ (fun _ => rfl) fun data => .fields data _ (same data)

/-- Changes of the manager are changes of the slave. -/
theorem of_changes {loses : Prop} {data : Data τ} {manager : Hdcp.Slave.State τ}
    (changes : Changes setup.environment loses data.manager manager) :
    Relation.ReflTransGen (Touch setup loses) data { data with manager := manager } := by
  induction changes with
  | refl => exact .refl
  | tail _ change ih => exact ih.tail (.manager _ _ change)

/-- An operation of the manager. -/
theorem onManager {action : Action τ α} (changing : Changing setup.environment action) :
    Touching setup (onManager action) := by
  intro data
  obtain ⟨returns, throws⟩ := changing data.manager
  unfold Slave.onManager
  cases outcome : action data.manager with
  | ok value manager =>
    constructor
    · intro result next returned
      cases returned
      exact of_changes (returns value manager outcome)
    · intro error next thrown
      contradiction
  | error error manager =>
    constructor
    · intro result next returned
      contradiction
    · intro result next thrown
      cases thrown
      exact of_changes (throws error manager outcome)

/-- What every touch keeps of the manager, a handler keeps. -/
theorem keeps {action : Handler τ α} (touching : Touching setup action)
    (holds : Hdcp.Slave.State τ → Prop)
    (changes : ∀ manager next, Change setup.environment True manager next → holds manager →
      holds next)
    (transports : ∀ manager transport,
      setup.transport.Moves manager.transport transport → holds manager →
        holds { manager with transport := transport }) :
    Keeps (fun data => holds data.manager) action := by
  refine Performs.keeps (fun _ _ => Touch.mono) ?_ touching
  intro first next touch standing
  cases touch with
  | manager manager change => exact changes _ _ change standing
  | transport transport moved => exact transports _ transport moved standing
  | fields _ same =>
    rw [same]
    exact standing

/-- What every touch that loses no packet id keeps of the manager, a handler that returns keeps. -/
theorem returns {action : Handler τ α} (touching : Touching setup action)
    (holds : Hdcp.Slave.State τ → Prop)
    (changes : ∀ manager next, Change setup.environment False manager next → holds manager →
      holds next)
    (transports : ∀ manager transport,
      setup.transport.Moves manager.transport transport → holds manager →
        holds { manager with transport := transport })
    {data next : Data τ} {value : α} (returned : action data = .ok value next)
    (standing : holds data.manager) : holds next.manager := by
  have touches := (touching data).1 value next returned
  clear returned
  induction touches with
  | refl => exact standing
  | tail _ touch ih =>
    cases touch with
    | manager manager change => exact changes _ _ change ih
    | transport transport moved => exact transports _ transport moved ih
    | fields _ same =>
      rw [same]
      exact ih

end Touching

/-- An operation of the manager that returns. -/
theorem onManager_apply {α : Type} {action : Action τ α} {data : Data τ} {value : α}
    {manager : Hdcp.Slave.State τ} (returned : action data.manager = .ok value manager) :
    onManager action data = .ok value { data with manager := manager } := by
  unfold onManager
  rw [returned]

/-- An operation of the manager that returned. -/
theorem onManager_eq_ok {α : Type} {action : Action τ α} {data next : Data τ} {value : α}
    (returned : onManager action data = .ok value next) :
    ∃ manager, action data.manager = .ok value manager ∧
      next = { data with manager := manager } := by
  unfold onManager at returned
  cases outcome : action data.manager with
  | ok result manager =>
    rw [outcome] at returned
    cases returned
    exact ⟨manager, rfl, rfl⟩
  | error error manager =>
    rw [outcome] at returned
    contradiction

/-- Reading and processing a packet. -/
theorem readPacket_touching (state : State) {process : Message → Handler τ Unit}
    (touching : ∀ message, Touching setup (process message)) :
    Touching setup (readPacket setup state process) := by
  intro data
  rw [readPacket_apply]
  have read := @Touch.transport τ setup False data
    (setup.transport.read data.manager.transport).2 (.inl rfl)
  cases (setup.transport.read data.manager.transport).1 with
  | none =>
    constructor
    · intro value next returned
      cases returned
      exact .single read
    · intro error next thrown
      contradiction
  | some message =>
    have heard := @Touch.fields τ setup False
      (data.withTransport (setup.transport.read data.manager.transport).2)
      ((data.withTransport (setup.transport.read data.manager.transport).2).reading state message)
      rfl
    have rest : Touching setup (process message >>= fun _ => pure TransitionStatus.stayCurrState) :=
      .bind (touching message) fun _ => .pure _
    obtain ⟨returns, throws⟩ := rest ((data.withTransport
      (setup.transport.read data.manager.transport).2).reading state message)
    constructor
    · intro value next returned
      exact .head read (.head heard (returns value next returned))
    · intro error next thrown
      exact .head read.mono (.head heard.mono (throws error next thrown))

/-- The test of a packet's id. -/
theorem checkPacketId_touching (packet : Packet) :
    Touching setup (checkPacketId packet : Handler τ Unit) := by
  refine .bind (.fields fun _ => rfl) fun _ => .bind .get fun _ => ?_
  exact .runIf (Touching.fields fun _ => rfl)

/-- Reading and processing in state disconnected. -/
theorem readDisconnected_touching :
    Touching setup (readPacket setup .disconnected processDisconnected) := by
  refine readPacket_touching setup _ fun message => .runIf ?_
  refine Touching.bind (.fields fun _ => rfl) fun _ => Touching.bind ?_ fun _ => ?_
  · exact .fields fun _ => rfl
  · exact .fields fun _ => rfl

/-- Reading and processing in state connecting. -/
theorem readConnecting_touching :
    Touching setup (readPacket setup .connecting (processConnecting setup)) := by
  refine readPacket_touching setup _ fun message => ?_
  refine .bind (checkPacketId_touching setup _) fun _ => .runIf ?_
  exact Touching.bind (.onManager keepalive_changing) fun _ => .fields fun _ => rfl

/-- Reading and processing in state connected. -/
theorem readConnected_touching :
    Touching setup (readPacket setup .connected (processConnected setup)) := by
  refine readPacket_touching setup _ fun message => ?_
  refine .bind (checkPacketId_touching setup _) fun _ => .choice ?_ (.choice ?_ (.choice ?_ ?_))
  · refine Touching.bind (.fields fun _ => rfl) fun _ => ?_
    refine Touching.bind (.onManager stopKeepaliveManagement_changing) fun _ => ?_
    exact Touching.bind (.onManager stop_changing) fun _ => .fields fun _ => rfl
  · refine Touching.bind (.onManager keepalive_changing) fun _ => ?_
    refine Touching.bind (.onManager (sendCmdAck_changing _)) fun _ => ?_
    exact .runIf (Touching.fields fun _ => rfl)
  · exact Touching.onManager keepalive_changing
  · exact .pure ()

/-- The later wakeups in state connecting. -/
theorem handler_later (nbLoop : Nat) (later : nbLoop ≠ 1) :
    handler setup .connecting nbLoop = readPacket setup .connecting (processConnecting setup) := by
  change (runIf (nbLoop = 1) (enterConnecting setup) >>= fun _ =>
    readPacket setup .connecting (processConnecting setup)) = _
  unfold runIf
  rw [if_neg later, pure_bind]

/-- The handlers touch the manager so, but for the first wakeup in state connecting. -/
theorem handler_touching (state : State) (nbLoop : Nat)
    (later : state = .connecting → nbLoop ≠ 1) : Touching setup (handler setup state nbLoop) := by
  cases state with
  | init =>
    refine Touching.bind (.fields fun _ => rfl) fun _ => Touching.bind (.fields fun _ => rfl)
      fun _ => Touching.bind (.fields fun _ => rfl) fun _ => .pure _
  | disconnected =>
    refine Touching.bind (.runIf (Touching.bind (.onManager stop_changing) fun _ => ?_))
      fun _ => readDisconnected_touching setup
    exact .single (fun _ => ()) _ (fun _ => rfl) fun data =>
      .transport data (setup.transport.clearQueues data.manager.transport) (.inr rfl)
  | connecting =>
    rw [handler_later setup nbLoop (later rfl)]
    exact readConnecting_touching setup
  | connected => exact readConnected_touching setup

/-- The first wakeup in state connecting, with a manager that does not run. -/
theorem handler_first (data : Data τ) (idle : data.manager.running = false) :
    handler setup .connecting 1 data =
      (onManager (sendDip setup.environment setup.slaveId) >>= fun _ =>
        onManager (startKeepaliveManagement keepaliveTimeout) >>= fun _ =>
          readPacket setup .connecting (processConnecting setup))
        { data with manager := data.manager.started } := by
  have started := onManager_apply (start_apply data.manager idle)
  change (enterConnecting setup >>= fun _ =>
    readPacket setup .connecting (processConnecting setup)) data = _
  unfold enterConnecting
  rw [bind_assoc, bind_apply, started, bind_assoc]

/-- What `start` and every touch keep of the manager, a handler keeps. -/
theorem handler_keeps (holds : Hdcp.Slave.State τ → Prop)
    (changes : ∀ manager next, Change setup.environment True manager next → holds manager →
      holds next)
    (transports : ∀ manager transport,
      setup.transport.Moves manager.transport transport → holds manager →
        holds { manager with transport := transport })
    (starts : ∀ manager, manager.running = false → holds manager → holds manager.started)
    (state : State) (nbLoop : Nat) :
    Keeps (fun data => holds data.manager) (handler setup state nbLoop) := by
  by_cases first : state = .connecting ∧ nbLoop = 1
  · obtain ⟨rfl, rfl⟩ := first
    have rest : Touching setup (onManager (sendDip setup.environment setup.slaveId) >>= fun _ =>
        onManager (startKeepaliveManagement keepaliveTimeout) >>= fun _ =>
          readPacket setup .connecting (processConnecting setup)) :=
      .bind (.onManager (sendDip_changing _)) fun _ =>
        .bind (.onManager (startKeepaliveManagement_changing _)) fun _ =>
          readConnecting_touching setup
    intro data standing
    cases running : data.manager.running with
    | false =>
      rw [handler_first setup data running]
      exact rest.keeps holds changes transports _ (starts _ running standing)
    | true =>
      have begun : handler setup .connecting 1 data =
          (onManager (sendDip setup.environment setup.slaveId) >>= fun _ =>
            onManager (startKeepaliveManagement keepaliveTimeout) >>= fun _ =>
              readPacket setup .connecting (processConnecting setup)) data := by
        have started := onManager_apply (start_running data.manager running)
        change (enterConnecting setup >>= fun _ =>
          readPacket setup .connecting (processConnecting setup)) data = _
        unfold enterConnecting
        rw [bind_assoc, bind_apply, started, bind_assoc]
      rw [begun]
      exact rest.keeps holds changes transports _ standing
  · refine (handler_touching setup state nbLoop ?_).keeps holds changes transports
    exact fun connecting same => first ⟨connecting, same⟩

/-- Only `start` makes a manager run. -/
theorem idle_change {env : Environment τ} {loses : Prop} {manager next : Hdcp.Slave.State τ}
    (change : Change env loses manager next) (idle : manager.running = false) :
    next.running = false := by
  cases change with
  | timers next follows packetId running transport outputs => exact running.trans idle
  | sent packet named accepted => exact idle
  | unsent transport refused lost => exact idle
  | timedOut => exact idle
  | stopped => rfl

/-- What keeps the manager as it is but for a call of `start` keeps it from running. -/
theorem Touching.idle {setup : Setup τ} {α : Type} {action : Handler τ α}
    (touching : Touching setup action) : Keeps (fun data => data.manager.running = false) action :=
  touching.keeps (fun manager => manager.running = false)
    (fun _ _ change idle => idle_change change idle) fun _ _ _ idle => idle

/-- A manager that does not run does not run after a handler, but for the first wakeup in state
connecting. -/
theorem handler_idle {state : State} {nbLoop : Nat} {data : Data τ}
    (idle : data.manager.running = false) (later : state = .connecting → nbLoop ≠ 1) :
    (after (handler setup state nbLoop data)).manager.running = false :=
  (handler_touching setup state nbLoop later).idle data idle

/-- What the handlers keep, and what depends on the manager, the packets read and the commands
executed only, a wakeup keeps. -/
theorem wakeup_keeps {holds : Data τ → Prop}
    (handled : ∀ state nbLoop, Keeps holds (handler setup state nbLoop))
    (others : ∀ data next : Data τ, next.manager = data.manager → next.reads = data.reads →
      next.executed = data.executed → holds data → holds next)
    {slave next : Party τ} (taken : slave.wakeup setup = some next)
    (standing : holds slave.data) : holds next.data := by
  obtain ⟨⟨machine, data⟩, stepped, rfl⟩ := Option.map_eq_some_iff.mp taken
  have event : ∀ event, Keeps holds (checkEvent event) := fun event =>
    .bind (.bind .get fun _ =>
      .bind (.modify fun data => others data _ rfl rfl rfl) fun _ => .pure _)
      fun _ => .choice (.pure _) (.pure _)
  have closed : Keeps holds (checkTransportClosed setup) :=
    .bind .get fun _ => .bind (.modify fun data => others data _ rfl rfl rfl) fun _ =>
      .choice (.pure _) (.pure _)
  have timeout : Keeps holds checkKaTimeout := by
    refine .bind ?_ fun _ => .choice (.bind ?_ fun _ => .pure _) (.pure _)
    · exact .bind .get fun _ =>
        .bind (.modify fun data => others data _ rfl rfl rfl) fun _ => .pure _
    · exact .modify fun data => others data _ rfl rfl rfl
  refine Statemachine.step_keeps _ stepped ?_ (fun _ _ data => others data _ rfl rfl rfl)
    (fun _ _ holding => holding) standing
  intro entry inside loops
  cases current : slave.machine.current with
  | init =>
    simp only [current, statemachine, states, List.mem_cons, List.not_mem_nil, or_false] at inside
    rcases inside with rfl | rfl
    · exact handled .init loops
    · exact .pure _
  | disconnected =>
    simp only [current, statemachine, states, List.mem_cons, List.not_mem_nil, or_false] at inside
    rcases inside with rfl | rfl | rfl
    · exact handled .disconnected loops
    · exact closed
    · exact event .hipReceived
  | connecting =>
    simp only [current, statemachine, states, List.mem_cons, List.not_mem_nil, or_false] at inside
    rcases inside with rfl | rfl | rfl | rfl
    · exact handled .connecting loops
    · exact closed
    · exact timeout
    · exact event .firstKaReceived
  | connected =>
    simp only [current, statemachine, states, List.mem_cons, List.not_mem_nil, or_false] at inside
    rcases inside with rfl | rfl | rfl | rfl
    · exact handled .connected loops
    · exact closed
    · exact timeout
    · exact event .hipReceived

/-- After the first wakeup in state disconnected the manager does not run. -/
theorem disconnected_idle (data : Data τ) :
    (after (handler setup .disconnected 1 data)).manager.running = false := by
  have stopped : handler setup .disconnected 1 data =
      readPacket setup .disconnected processDisconnected
        { data with
          manager :=
            { data.manager with
              running := false
              transport := setup.transport.clearQueues data.manager.transport } } := rfl
  rw [stopped]
  exact (readDisconnected_touching setup).idle _ rfl

end Touches

end Hdcp.Appli.Slave
