import Hdcp.Appli.SlaveLife

/-!
# The slave never waits without a timeout, when its answer can be sent

The first wakeup in state connecting starts the manager, sends the answer to the master and arms
the keepalive timer, in this order: an answer that cannot be sent leaves the slave in state
connecting without a timer, and nothing ever arms it there. When every answer can be sent, a slave
in a session has a keepalive timer armed, or its timeout pending.
-/

namespace Hdcp.Appli.Slave

open Base
open Hdcp.Slave hiding State

variable {τ : Type}

/-- A keepalive timer is armed in the running manager. -/
def Watched (manager : Hdcp.Slave.State τ) : Prop :=
  manager.running = true ∧ ∃ timer ∈ manager.timeoutQueue.timers, timer.callback = .kaTimeoutCb

/-- The slave is past the first handler call in a session, and no transition is pending. -/
def Life.Waits (life : Life τ) : Prop :=
  life.phase ≠ .stopped ∧
    (life.state = .connecting ∧ life.party.machine.nbLoop ≠ 0 ∧
        .firstKaReceived ∉ life.data.events ∨
      life.state = .connected ∧ .hipReceived ∉ life.data.events)

/-- A slave that waits on an open transport has a timeout. -/
def Life.HasTimeout (setup : Setup τ) (life : Life τ) : Prop :=
  life.Waits → life.isOpen setup = true →
    Watched life.data.manager ∨ .kaTimeout ∈ life.data.events

/-- The answer that opens a session can be sent. -/
def Answerable (setup : Setup τ) (transport : τ) : Prop :=
  ∃ dip, Packet.makeDip setup.raw 1 setup.slaveId = .ok dip ∧
    (setup.transport.write transport ⟨dip, none⟩).1 = none

/-- The session that begins, if one does, begins on a closed transport or with an answer. -/
def Life.Answers (setup : Setup τ) (life : Life τ) : Move τ → Prop
  | .wakeup => life.party.machine = .entered .connecting → life.isOpen setup = true →
      Answerable setup life.data.manager.transport
  | _ => True

/-- The watch of the manager is on and has a timer. -/
structure Armed (manager : Hdcp.Slave.State τ) : Prop where
  /-- The manager runs. -/
  running : manager.running = true
  /-- Keepalives restart the timer. -/
  managed : manager.keepaliveMngt = true
  /-- A timer is armed. -/
  timed : manager.timeoutQueue.timers ≠ []

/-- Every timer of the slave is a keepalive timer. -/
theorem Armed.watched {manager : Hdcp.Slave.State τ} (armed : Armed manager) : Watched manager := by
  obtain ⟨timer, inside⟩ := List.exists_mem_of_ne_nil _ armed.timed
  refine ⟨armed.running, timer, inside, ?_⟩
  cases timer.callback with
  | kaTimeoutCb => rfl

/-- What leaves timers alone leaves the watch on. -/
theorem Armed.of_same {manager next : Hdcp.Slave.State τ} (armed : Armed manager)
    (same : manager.Same next) : Armed next :=
  ⟨same.running.trans armed.running, same.keepaliveMngt.trans armed.managed,
    fun none => armed.timed (same.timeoutQueue ▸ none)⟩

section Operations

variable {env : Environment τ}

/-- Sending leaves the watch on. -/
theorem keeps_armed_sendIfOpen {make : UInt16 → Action τ Packet}
    (still : ∀ id state, after (make id state) = state) :
    Keeps Armed (sendIfOpen env make) := by
  intro manager armed
  exact armed.of_same
    ((State.Same.unwritten manager).sendIfOpen still manager ⟨rfl, rfl, rfl, rfl⟩)

/-- Restarting the timer leaves one armed. -/
theorem keeps_armed_resetKeepalive : Keeps Armed (resetKeepalive : Action τ Unit) := by
  intro manager armed
  unfold resetKeepalive eraseKeepalive
  rw [bind_apply, modify_apply]
  cases manager.keepaliveId with
  | none => exact ⟨armed.running, armed.managed, List.cons_ne_nil _ _⟩
  | some id => exact ⟨armed.running, armed.managed, List.cons_ne_nil _ _⟩

/-- `keepalive` leaves the watch on. -/
theorem keeps_armed_keepalive : Keeps Armed (keepalive env) :=
  .bind .get fun _ => .bind (.runIf keeps_armed_resetKeepalive) fun _ =>
    keeps_armed_sendIfOpen fun _ _ => made_still _ _

/-- `send_cmd_ack` leaves the watch on. -/
theorem keeps_armed_sendCmdAck (packet : Packet) : Keeps Armed (sendCmdAck env packet) := by
  intro manager armed
  exact armed.of_same
    ((State.Same.unwritten manager).sendCmdAck packet manager ⟨rfl, rfl, rfl, rfl⟩)

end Operations

section Handlers

variable (setup : Setup τ)

/-- An operation of the manager leaves the watch on, or the HIP pending. -/
theorem keeps_armed_onManager {α : Type} {action : Action τ α} (keeps : Keeps Armed action) :
    Keeps (fun data => Armed data.manager ∨ .hipReceived ∈ data.events) (onManager action) := by
  intro data standing
  rcases standing with armed | pending
  · have kept := keeps data.manager armed
    unfold onManager
    cases outcome : action data.manager with
    | ok value manager =>
      rw [outcome] at kept
      exact .inl kept
    | error error manager =>
      rw [outcome] at kept
      exact .inl kept
  · have tells : Keeps (fun next => Data.Tells next data.reads data.events) (onManager action) :=
      onManager_tells action
    have told := tells data ⟨rfl, rfl⟩
    exact .inr (told.2 ▸ pending)

/-- Reading a packet leaves the watch on, or the HIP pending, when processing does. -/
theorem keeps_armed_readPacket (state : State) {process : Message → Handler τ Unit}
    (keeps : ∀ message,
      Keeps (fun data => Armed data.manager ∨ .hipReceived ∈ data.events) (process message)) :
    Keeps (fun data => Armed data.manager ∨ .hipReceived ∈ data.events)
      (readPacket setup state process) := by
  intro data standing
  have moved : ∀ transport, Armed (data.withTransport transport).manager ∨
      .hipReceived ∈ data.events := by
    intro transport
    rcases standing with armed | pending
    · exact .inl ⟨armed.running, armed.managed, armed.timed⟩
    · exact .inr pending
  rw [readPacket_apply]
  cases (setup.transport.read data.manager.transport).1 with
  | none => exact moved _
  | some message =>
    have processed : Keeps (fun data => Armed data.manager ∨ .hipReceived ∈ data.events)
        (process message >>= fun _ => pure TransitionStatus.stayCurrState) :=
      .bind (keeps message) fun _ => .pure _
    exact processed _ (moved _)

/-- The test of a packet's id leaves the watch on, or the HIP pending. -/
theorem keeps_armed_checkPacketId (packet : Packet) :
    Keeps (fun data => Armed (Data.manager data) ∨ .hipReceived ∈ data.events)
      (checkPacketId packet : Handler τ Unit) := by
  refine .bind (.modify fun _ standing => standing) fun _ => .bind .get fun _ => .runIf ?_
  exact .modify fun _ standing => standing

/-- A packet read in state connecting leaves the watch on. -/
theorem keeps_armed_readConnecting :
    Keeps (fun data => Armed data.manager ∨ .hipReceived ∈ data.events)
      (readPacket setup .connecting (processConnecting setup)) := by
  refine keeps_armed_readPacket setup _ fun message => ?_
  refine .bind (keeps_armed_checkPacketId _) fun _ => .runIf ?_
  refine .bind (keeps_armed_onManager keeps_armed_keepalive) fun _ =>
    .modify fun data standing => ?_
  rcases standing with armed | pending
  · exact .inl armed
  · exact .inr (Finset.mem_insert_of_mem pending)

/-- A packet read in state connected leaves the watch on, unless it is a HIP, which is pending
then. -/
theorem keeps_armed_readConnected :
    Keeps (fun data => Armed data.manager ∨ .hipReceived ∈ data.events)
      (readPacket setup .connected (processConnected setup)) := by
  refine keeps_armed_readPacket setup _ fun message => ?_
  refine .bind (keeps_armed_checkPacketId _) fun _ => .choice ?_ (.choice ?_ (.choice ?_ ?_))
  · intro data _
    exact .inr (Finset.mem_insert_self _ _)
  · refine .bind (keeps_armed_onManager keeps_armed_keepalive) fun _ => ?_
    refine .bind (keeps_armed_onManager (keeps_armed_sendCmdAck _)) fun _ => .runIf ?_
    exact .modify fun _ standing => standing
  · exact keeps_armed_onManager keeps_armed_keepalive
  · exact .pure ()

/-- An answer that can be sent is sent, which leaves a manager just started as it is otherwise. -/
theorem sendDip_answers (manager : Hdcp.Slave.State τ)
    (answerable : setup.transport.isOpen manager.transport = true →
      Answerable setup manager.transport) :
    ∃ next, sendDip setup.environment setup.slaveId manager.started = .ok () next ∧
      manager.started.Same next := by
  cases isOpen : setup.transport.isOpen manager.transport with
  | false =>
    refine ⟨manager.started, ?_, ⟨rfl, rfl, rfl, rfl⟩⟩
    exact (sendIfOpen_eq_ok_iff _ _ _ _).mpr (.inl ⟨isOpen, rfl⟩)
  | true =>
    obtain ⟨dip, made, accepted⟩ := answerable isOpen
    refine ⟨manager.started.sent setup.environment dip, ?_, ⟨rfl, rfl, rfl, rfl⟩⟩
    exact (sendIfOpen_eq_ok_iff _ _ _ _).mpr (.inr ⟨isOpen, dip, made, accepted, rfl⟩)

/-- The first wakeup in state connecting turns the watch on. -/
theorem connecting_armed (data : Data τ) (idle : data.manager.running = false)
    (answerable : setup.transport.isOpen data.manager.transport = true →
      Answerable setup data.manager.transport) :
    Armed (after (handler setup .connecting 1 data)).manager ∨
      .hipReceived ∈ (after (handler setup .connecting 1 data)).events := by
  obtain ⟨next, sending, same⟩ := sendDip_answers setup data.manager answerable
  have sent : onManager (sendDip setup.environment setup.slaveId)
      { data with manager := data.manager.started } = .ok () { data with manager := next } := by
    unfold onManager
    dsimp only
    rw [sending]
  have armed : ∃ watching, onManager (startKeepaliveManagement keepaliveTimeout)
      { data with manager := next } = .ok () { data with manager := watching } ∧
        Armed watching :=
    ⟨_, rfl, same.running, rfl, List.cons_ne_nil _ _⟩
  obtain ⟨watching, managing, armed⟩ := armed
  rw [handler_first setup data idle, bind_apply, sent]
  dsimp only
  rw [bind_apply, managing]
  exact keeps_armed_readConnecting setup { data with manager := watching } (.inl armed)

end Handlers

/-- In a session the watch is on, or the HIP that ends the session or the timeout is pending. -/
def Watching (slave : Party τ) : Prop :=
  slave.state = .connecting ∧ slave.machine.nbLoop ≠ 0 ∨ slave.state = .connected →
    (Armed slave.data.manager ∨ .hipReceived ∈ slave.data.events) ∨
      .kaTimeout ∈ slave.data.events

section Lives

variable {setup : Setup τ}

/-- A handler leaves the slave watching, when the answer of a first wakeup can be sent. -/
theorem watching_handled {state : State} {nbLoop : Nat} {data : Data τ} {phase : Phase}
    (sound : Sound (.at state nbLoop 0 data) phase) (watching : Watching (.at state nbLoop 0 data))
    (answers : state = .connecting → nbLoop = 0 →
      setup.transport.isOpen data.manager.transport = true →
        Answerable setup data.manager.transport) (position : Nat) :
    Watching (.at state (nbLoop + 1) position
      (after (handler setup state (nbLoop + 1) data))) := by
  intro session
  have other : state ≠ .init := by
    rintro rfl
    rcases session with ⟨elsewhere, -⟩ | elsewhere <;> contradiction
  by_cases first : state = .connecting ∧ nbLoop = 0
  · obtain ⟨rfl, rfl⟩ := first
    exact .inl (connecting_armed setup data (sound.connecting rfl rfl) (answers rfl rfl))
  · have later : Party.state (.at state nbLoop 0 data) = .connecting ∧ nbLoop ≠ 0 ∨
        Party.state (.at state nbLoop 0 data) = .connected := by
      rcases session with ⟨connecting, -⟩ | connected
      · exact .inl ⟨connecting, fun none => first ⟨connecting, none⟩⟩
      · exact .inr connected
    rcases watching later with standing | pending
    · left
      rcases later with ⟨rfl, again⟩ | rfl
      · rw [handler_later setup (nbLoop + 1) fun same => again (Nat.succ_injective same)]
        exact keeps_armed_readConnecting setup data standing
      · exact keeps_armed_readConnected setup data standing
    · exact .inr (handler_pending setup (nbLoop + 1) other pending)

/-- An entry leaves the slave watching, when the answer of a first wakeup can be sent. -/
theorem Watching.wakes {slave next : Party τ} {phase : Phase} (sound : Sound slave phase)
    (watching : Watching slave) (wakes : Wakes setup slave next)
    (answers : slave.machine = .entered .connecting →
      setup.transport.isOpen slave.data.manager.transport = true →
        Answerable setup slave.data.manager.transport) : Watching next := by
  cases wakes with
  | handled state nbLoop data returns =>
    refine watching_handled sound watching ?_ 1
    rintro rfl rfl
    exact answers rfl
  | thrown state nbLoop data throws =>
    refine watching_handled sound watching ?_ 0
    rintro rfl rfl
    exact answers rfl
  | begun nbLoop data => exact fun session => by rcases session with ⟨_, _⟩ | _ <;> contradiction
  | closed state nbLoop data other isClosed =>
    exact fun session => by rcases session with ⟨_, _⟩ | _ <;> contradiction
  | stillOpen state nbLoop data other isOpen => exact watching
  | kaTimeout state nbLoop data session pending =>
    exact fun session => by rcases session with ⟨_, _⟩ | _ <;> contradiction
  | noKaTimeout state nbLoop data session absent => exact watching
  | hipReceived state nbLoop position data last pending =>
    exact fun session => by rcases session with ⟨_, later⟩ | _ <;> contradiction
  | noHip state nbLoop position data last absent => exact watching
  | connected nbLoop data pending =>
    intro _
    rcases watching (.inl ⟨rfl, sound.begun (Nat.succ_ne_zero 2)⟩) with (armed | hip) | timeout
    · exact .inl (.inl armed)
    · exact absurd hip (sound.unpending rfl)
    · exact .inr (Finset.mem_erase_of_ne_of_mem (by decide) timeout)
  | notConnected nbLoop data absent => exact watching

/-- A tick leaves the slave watching. -/
theorem Watching.ticked {slave : Party τ} (watching : Watching slave)
    {batch : List (Timer TimerCallback)}
    (taken : batch.Perm (slave.data.manager.timeoutQueue.expired slave.data.manager.now)) :
    Watching (slave.ticked batch) := by
  intro session
  rcases watching session with (armed | hip) | timeout
  · by_cases none : (slave.data.manager.ticked batch).timeoutQueue.timers = []
    · have some := TimeoutQueue.expired_ne_nil armed.timed none
      have called : batch ≠ [] := by
        rintro rfl
        exact some taken.symm.eq_nil
      right
      unfold Party.ticked
      rw [if_neg called]
      exact Finset.mem_insert_self _ _
    · exact .inl (.inl ⟨armed.running, armed.managed, none⟩)
  · exact .inl (.inr ((slave.hip_mem_ticked batch).mpr hip))
  · right
    unfold Party.ticked
    dsimp only
    split
    · exact timeout
    · exact Finset.mem_insert_of_mem timeout

/-- What leaves the machine, the events and the watch alone leaves the slave watching. -/
theorem Watching.of_same {slave : Party τ} (watching : Watching slave)
    {manager : Hdcp.Slave.State τ} (same : slave.data.manager.Same manager) :
    Watching { slave with data := { slave.data with manager := manager } } := by
  intro session
  rcases watching session with (armed | hip) | timeout
  · exact .inl (.inl (armed.of_same same))
  · exact .inl (.inr hip)
  · exact .inr timeout

/-- The slave watches while its thread runs. -/
def Life.Watching (life : Life τ) : Prop :=
  life.Sound ∧ (life.phase ≠ .stopped → Slave.Watching life.party)

/-- Each step whose answer can be sent leaves the slave watching. -/
theorem watching_step (setup : Setup τ) (life : Life τ) (move : Move τ) (next : Life τ)
    (watching : life.Watching)
    (taken : Guarded (Life.Answers setup) (Steps (Life.step setup)) life move next) :
    next.Watching := by
  obtain ⟨sound, watched⟩ := watching
  obtain ⟨answers, stepped⟩ := taken
  obtain ⟨party, phase, -, lives, rfl, after⟩ := sound.step stepped
  refine ⟨after, fun going => ?_⟩
  cases lives with
  | wakeup _ alive wakes => exact (watched alive).wakes sound wakes answers
  | tick batch running perm => exact (watched going).ticked perm
  | sendData blocks =>
    obtain ⟨manager, sent, same, -⟩ := Party.sendData_eq setup life.party blocks
    have kept := (watched going).of_same same
    rw [← sent] at kept
    exact kept
  | changed transport unopened => exact (watched going).of_same ⟨rfl, rfl, rfl, rfl⟩
  | opened transport isOpen => exact (watched going).of_same ⟨rfl, rfl, rfl, rfl⟩
  | stop running =>
    have alive : life.phase ≠ .stopped := by
      rw [running]
      decide
    exact watched alive
  | joined transport stopping first => exact absurd rfl going
  | start transport stopped =>
    intro session
    rcases session with ⟨elsewhere, -⟩ | elsewhere <;> contradiction

end Lives

/-- In every run in which each session begins on a closed transport or with an answer that can be
sent, a slave that waits on an open transport has a timeout. -/
theorem session_hasTimeout (setup : Setup τ) (transport : τ) (moves : List (Move τ))
    (life : Life τ)
    (run : Run (Guarded (Life.Answers setup) (Steps (Life.step setup))) (.initial transport) moves
      life) : life.HasTimeout setup := by
  have initially : (Life.initial transport).Watching :=
    ⟨sound_started transport, fun going => absurd rfl going⟩
  obtain ⟨sound, watched⟩ := run.invariant (watching_step setup) initially
  rintro ⟨alive, session⟩ _
  have unended : .hipReceived ∉ life.data.events := by
    rcases session with ⟨connecting, -, -⟩ | ⟨-, absent⟩
    · exact sound.unpending connecting
    · exact absent
  have inside : life.party.state = .connecting ∧ life.party.machine.nbLoop ≠ 0 ∨
      life.party.state = .connected := by
    rcases session with ⟨connecting, called, -⟩ | ⟨connected, -⟩
    · exact .inl ⟨connecting, called⟩
    · exact .inr connected
  rcases watched alive inside with (armed | hip) | timeout
  · exact .inl armed.watched
  · exact absurd hip unended
  · exact .inr timeout

/-! ## Two runs -/

instance (setup : Setup τ) (transport : τ) : Decidable (Answerable setup transport) :=
  match made : Packet.makeDip setup.raw 1 setup.slaveId with
  | .ok dip =>
    decidable_of_iff ((setup.transport.write transport ⟨dip, none⟩).1 = none)
      ⟨fun accepted => ⟨dip, made, accepted⟩, fun ⟨_, same, accepted⟩ => by
        obtain rfl := Except.ok.inj (made.symm.trans same)
        exact accepted⟩
  | .error _ => .isFalse fun ⟨_, same, _⟩ => by
    rw [made] at same
    contradiction

instance (setup : Setup τ) (life : Life τ) (move : Move τ) :
    Decidable (life.Answers setup move) :=
  match move with
  | .wakeup => inferInstanceAs (Decidable (_ → _ → _))
  | .tick _ | .sendData _ | .changed _ | .opened _ | .stop | .joined _ | .start _ =>
    inferInstanceAs (Decidable True)

instance (life : Life τ) : Decidable life.Waits := inferInstanceAs (Decidable (_ ∧ _))

instance (manager : Hdcp.Slave.State τ) : Decidable (Watched manager) :=
  inferInstanceAs (Decidable (_ ∧ _))

/-- A slave of some identification, on queues. -/
def onQueues (slaveId : Identification) : Setup Queues where
  slaveId := slaveId
  transport := Queues.transport
  hasCmdCb := true
  raw := .cleared

/-- What a maker returns, as it waits to be read. -/
def unread (made : Except PacketError Packet) : Queues :=
  ⟨[], made.toOption.toList.map fun packet => ⟨packet, none⟩⟩

/-- A slave is started, reads a HIP and enters state connecting, in which it is woken once. -/
def answering : List (Move Queues) :=
  [.start .empty] ++ List.replicate 5 .wakeup ++
    [.changed (unread (Packet.makeHip .cleared 1 .empty))] ++ List.replicate 4 .wakeup

/-- Its answer is sent, and it has a timeout. -/
theorem session_hasTimeout_answered :
    ∃ life, Run (Guarded (Life.Answers (onQueues .empty)) (Steps (Life.step (onQueues .empty))))
        (.initial .empty) answering life ∧
      life.Waits ∧ (Watched life.data.manager ∨ .kaTimeout ∈ life.data.events) := by
  have executed : ((Base.execute (fun life move =>
      if Life.Answers (onQueues .empty) life move then Life.step (onQueues .empty) life move
      else none) (.initial .empty) answering).any fun life => decide life.Waits) = true := by
    decide +kernel
  obtain ⟨life, reached, waits⟩ := (Option.any_eq_true _ _).mp executed
  have run := run_of_execute_guarded (Life.Answers (onQueues .empty))
    (Life.step (onQueues .empty)) _ _ _ reached
  exact ⟨life, run, of_decide_eq_true waits,
    session_hasTimeout (onQueues .empty) .empty answering life run (of_decide_eq_true waits) rfl⟩

/-- An identification whose name fits no packet. -/
def oversized : Identification := { Identification.empty with name := List.replicate 2048 65 }

/-- A slave whose identification fits no packet waits without a timeout. -/
theorem oversized_hasNoTimeout :
    ∃ life, Run (Steps (Life.step (onQueues oversized))) (.initial .empty) answering life ∧
      ¬ life.HasTimeout (onQueues oversized) := by
  have executed : ((Base.execute (Life.step (onQueues oversized)) (.initial .empty) answering).any
      fun life => decide (life.Waits ∧ ¬ Watched life.data.manager ∧
        .kaTimeout ∉ life.data.events)) = true := by
    decide +kernel
  obtain ⟨life, reached, waits⟩ := (Option.any_eq_true _ _).mp executed
  obtain ⟨waiting, unwatched, quiet⟩ := of_decide_eq_true waits
  refine ⟨life, (execute_eq_some_iff _ _ _ _).mp reached, fun timeout => ?_⟩
  rcases timeout waiting rfl with watched | pending
  · exact unwatched watched
  · exact quiet pending

end Hdcp.Appli.Slave
