import Hdcp.Packet.Codec
import Hdcp.Slave.RequestManager

/-!
# What an operation of the slave's manager can change

The operations, `start` apart, move timers, write packets under the next packet id, report the
timeout and stop the manager. What each of these changes preserves, every operation preserves,
whether it returns or throws.
-/

namespace Hdcp.Slave

open Base

variable {τ : Type}

/-- A transport is left alone, or refuses a message. -/
def Refuses (env : Environment τ) (before after : τ) : Prop :=
  after = before ∨
    ∃ message, (env.write before message).1 ≠ none ∧ after = (env.write before message).2

/-- A manager after its transport took a packet under the next id. -/
def State.sent (env : Environment τ) (state : State τ) (packet : Packet) : State τ :=
  { state with
    packetId := state.packetId + 1
    transport := (env.write state.transport ⟨packet, none⟩).2
    outputs := state.outputs ++ [.written ⟨packet, none⟩] }

/-- One change. That a packet id is taken and no packet written under it may be excluded. -/
inductive Change (env : Environment τ) (loses : Prop) : State τ → State τ → Prop where
  /-- Timers are armed or erased, and the fields about them change. -/
  | timers (state next : State τ) (follows : next.timeoutQueue.Follows state.timeoutQueue)
      (packetId : next.packetId = state.packetId) (running : next.running = state.running)
      (transport : next.transport = state.transport) (outputs : next.outputs = state.outputs) :
      Change env loses state next
  /-- A packet is written. -/
  | sent (state : State τ) (packet : Packet) (named : packet.id = state.packetId + 1)
      (accepted : (env.write state.transport ⟨packet, none⟩).1 = none) :
      Change env loses state (state.sent env packet)
  /-- A packet id is taken and no packet written. -/
  | unsent (state : State τ) (transport : τ) (refused : Refuses env state.transport transport)
      (lost : loses) :
      Change env loses state
        { state with packetId := state.packetId + 1, transport := transport }
  /-- A timeout is reported. -/
  | timedOut (state : State τ) :
      Change env loses state { state with outputs := state.outputs ++ [.timedOut] }
  /-- The manager is stopped. -/
  | stopped (state : State τ) : Change env loses state { state with running := false }

/-- Any number of changes. -/
abbrev Changes (env : Environment τ) (loses : Prop) : State τ → State τ → Prop :=
  Relation.ReflTransGen (Change env loses)

/-- Where packet ids may be lost, they need not be. -/
theorem Change.mono {env : Environment τ} {loses : Prop} {state next : State τ}
    (change : Change env False state next) : Change env loses state next := by
  cases change with
  | timers next follows packetId running transport outputs =>
    exact .timers state next follows packetId running transport outputs
  | sent packet named accepted => exact .sent state packet named accepted
  | unsent transport refused lost => exact lost.elim
  | timedOut => exact .timedOut state
  | stopped => exact .stopped state

/-- An operation is a sequence of changes, in which it loses a packet id only when it throws. -/
abbrev Changing {α : Type} (env : Environment τ) (action : Action τ α) : Prop :=
  Performs (Change env False) (Change env True) action

namespace Changing

variable {α β : Type} {env : Environment τ}

/-- Whether it returns or throws, an operation is a sequence of changes. -/
theorem changes {action : Action τ α} (changing : Changing env action) (state : State τ) :
    Changes env True state (after (action state)) :=
  Performs.steps (fun _ _ => Change.mono) changing state

/-- A sequence. -/
theorem bind {first : Action τ α} {rest : α → Action τ β} (begun : Changing env first)
    (ended : ∀ value, Changing env (rest value)) : Changing env (first >>= rest) :=
  Performs.bind (fun _ _ => Change.mono) begun ended

/-- The state changes in its timers. -/
theorem timers {change : State τ → State τ}
    (follows : ∀ state, (change state).timeoutQueue.Follows state.timeoutQueue)
    (packetId : ∀ state, (change state).packetId = state.packetId)
    (running : ∀ state, (change state).running = state.running)
    (transport : ∀ state, (change state).transport = state.transport)
    (outputs : ∀ state, (change state).outputs = state.outputs) :
    Changing env (modify change : Action τ Unit) :=
  .single (fun _ => ()) _ (fun _ => rfl) fun state =>
    .timers state _ (follows state) (packetId state) (running state) (transport state)
      (outputs state)

end Changing

section Operations

variable {env : Environment τ}

/-- A write returns exactly when the transport takes the packet. -/
theorem write_eq_ok_iff (packet : Packet) (state next : State τ) (value : Unit) :
    write env packet state = .ok value next ↔
      (env.write state.transport ⟨packet, none⟩).1 = none ∧
        next = { state with
          transport := (env.write state.transport ⟨packet, none⟩).2
          outputs := state.outputs ++ [.written ⟨packet, none⟩] } := by
  unfold write
  rw [bind_apply, get_apply]
  dsimp only
  rw [bind_apply, modify_apply]
  dsimp only
  cases (env.write state.transport ⟨packet, none⟩).1 with
  | none => simp [emit, eq_comm]
  | some error => simp

/-- A failed write leaves a manager with a transport that refused it. -/
theorem write_eq_error {packet : Packet} {state next : State τ} {error : Exn}
    (failed : write env packet state = .error error next) :
    next = { state with transport := next.transport } ∧
      Refuses env state.transport next.transport := by
  unfold write at failed
  rw [bind_apply, get_apply] at failed
  dsimp only at failed
  rw [bind_apply, modify_apply] at failed
  dsimp only at failed
  cases refusal : (env.write state.transport ⟨packet, none⟩).1 with
  | none =>
    rw [refusal] at failed
    contradiction
  | some refused =>
    rw [refusal] at failed
    cases failed
    refine ⟨rfl, .inr ⟨⟨packet, none⟩, ?_, rfl⟩⟩
    rw [refusal]
    exact Option.some_ne_none _

/-- A packet is made under the next id and written. -/
theorem sendMade_changing (make : UInt16 → Action τ Packet)
    (still : ∀ id state, after (make id state) = state)
    (named : ∀ id state packet next, make id state = .ok packet next → packet.id = id) :
    Changing env (sendMade env make) := by
  intro state
  have numbered : sendMade env make state =
      ((make (state.packetId + 1) >>= write env) { state with packetId := state.packetId + 1 }) :=
    rfl
  have same := still (state.packetId + 1) { state with packetId := state.packetId + 1 }
  rw [numbered]
  constructor
  · intro value next returned
    obtain ⟨packet, middle, making, writing⟩ := (bind_eq_ok_iff _ _ _ _ _).mp returned
    rw [making] at same
    obtain rfl : middle = _ := same
    obtain ⟨accepted, rfl⟩ := (write_eq_ok_iff _ _ _ _).mp writing
    exact .single (.sent state packet (named _ _ _ _ making) accepted)
  · intro error next thrown
    rcases (bind_eq_error_iff _ _ _ _ _).mp thrown with early | ⟨packet, middle, making, writing⟩
    · rw [early] at same
      obtain rfl : next = _ := same
      exact .single (.unsent state state.transport (.inl rfl) trivial)
    · rw [making] at same
      obtain rfl : middle = _ := same
      obtain ⟨kept, refused⟩ := write_eq_error writing
      rw [kept]
      exact .single (.unsent state next.transport refused trivial)

/-- Making a packet leaves the state. -/
theorem made_still (packet : Except PacketError Packet) (state : State τ) :
    after (made packet state) = state := by
  cases packet with
  | ok packet => rfl
  | error error => rfl

/-- A maker's packet. -/
theorem made_eq_ok_iff (packet : Except PacketError Packet) (value : Packet)
    (state next : State τ) :
    made packet state = .ok value next ↔ packet = .ok value ∧ next = state := by
  unfold made
  cases packet with
  | ok packet => simp [eq_comm]
  | error error => simp

/-- A maker's packet is sent exactly when it is made and the transport takes it. -/
theorem sendMade_eq_ok_iff (packet : UInt16 → Except PacketError Packet) (state next : State τ)
    (value : Unit) :
    sendMade env (fun packetId => made (packet packetId)) state = .ok value next ↔
      ∃ sent, packet (state.packetId + 1) = .ok sent ∧
        (env.write state.transport ⟨sent, none⟩).1 = none ∧ next = state.sent env sent := by
  have numbered : sendMade env (fun packetId => made (packet packetId)) state =
      (made (packet (state.packetId + 1)) >>= write env)
        { state with packetId := state.packetId + 1 } := rfl
  rw [numbered, bind_eq_ok_iff]
  constructor
  · rintro ⟨sent, middle, making, writing⟩
    obtain ⟨same, rfl⟩ := (made_eq_ok_iff _ _ _ _).mp making
    obtain ⟨accepted, rfl⟩ := (write_eq_ok_iff _ _ _ _).mp writing
    exact ⟨sent, same, accepted, rfl⟩
  · rintro ⟨sent, same, accepted, rfl⟩
    exact ⟨sent, _, (made_eq_ok_iff _ _ _ _).mpr ⟨same, rfl⟩,
      (write_eq_ok_iff _ _ _ _).mpr ⟨accepted, rfl⟩⟩

/-- On an open transport a maker's packet is sent exactly when it is made and the transport takes
it; on a closed one nothing happens. -/
theorem sendIfOpen_eq_ok_iff (packet : UInt16 → Except PacketError Packet) (state next : State τ)
    (value : Unit) :
    sendIfOpen env (fun packetId => made (packet packetId)) state = .ok value next ↔
      state.isOpen env = false ∧ next = state ∨
        state.isOpen env = true ∧ ∃ sent, packet (state.packetId + 1) = .ok sent ∧
          (env.write state.transport ⟨sent, none⟩).1 = none ∧ next = state.sent env sent := by
  unfold sendIfOpen runIf
  rw [bind_apply, get_apply]
  dsimp only
  cases isOpen : state.isOpen env with
  | false =>
    rw [if_neg (by decide)]
    simp [eq_comm]
  | true =>
    rw [if_pos rfl, sendMade_eq_ok_iff]
    simp

/-- A maker's packet is sent. -/
theorem sendPacket_changing (packet : UInt16 → Except PacketError Packet)
    (named : ∀ id value, packet id = .ok value → value.id = id) :
    Changing env (sendMade env fun packetId => made (packet packetId)) :=
  sendMade_changing _ (fun _ state => made_still _ state) fun id _ value _ making =>
    named id value ((made_eq_ok_iff _ _ _ _).mp making).1

/-- A maker's packet is sent if the transport is open. -/
theorem sendIfOpen_changing (packet : UInt16 → Except PacketError Packet)
    (named : ∀ id value, packet id = .ok value → value.id = id) :
    Changing env (sendIfOpen env fun packetId => made (packet packetId)) :=
  .bind .get fun _ => .runIf (sendPacket_changing packet named)

/-- `send_cmd_ack`. -/
theorem sendCmdAck_changing (packet : Packet) : Changing env (sendCmdAck env packet) := by
  refine .bind .get fun _ => .runIf (sendMade_changing _ ?_ ?_)
  · intro id state
    unfold firstBlock
    rw [bind_apply]
    cases packet.blocks with
    | nil => rfl
    | cons block blocks => exact made_still _ _
  · intro id state value next making
    unfold firstBlock at making
    cases found : packet.blocks with
    | nil =>
      rw [found] at making
      contradiction
    | cons block blocks =>
      rw [found] at making
      have made := ((made_eq_ok_iff _ _ _ _).mp making).1
      exact (Packet.build_id_type _ _ _ _ _ _ made).1

/-- The ack `send_cmd_ack` writes names the command it was given. -/
theorem sendCmdAck_written (packet ack : Packet) (state next : State τ)
    (returned : sendCmdAck env packet state = .ok () next)
    (given : next.outputs = state.outputs ++ [.written ⟨ack, none⟩]) :
    ∃ id type, Packet.makeCmdAck env.raw id type packet.id = .ok ack := by
  unfold sendCmdAck firstBlock at returned
  cases found : packet.blocks with
  | nil =>
    rw [found] at returned
    unfold sendIfOpen runIf at returned
    rw [bind_apply, get_apply] at returned
    dsimp only at returned
    split at returned
    · contradiction
    · cases returned
      have empty := List.self_eq_append_right.mp given
      contradiction
  | cons block blocks =>
    rw [found] at returned
    have sending : sendIfOpen env (fun packetId =>
        made (Packet.makeCmdAck env.raw packetId block.type packet.id)) state = .ok () next :=
      returned
    rcases (sendIfOpen_eq_ok_iff _ _ _ _).mp sending with ⟨-, rfl⟩ | ⟨-, sent, making, -, rfl⟩
    · have empty := List.self_eq_append_right.mp given
      contradiction
    · have same := List.append_cancel_left given
      cases same
      exact ⟨_, _, making⟩

/-- `send_dip`. -/
theorem sendDip_changing (identification : Identification) :
    Changing env (sendDip env identification) :=
  sendIfOpen_changing _ fun _ _ made => (Packet.build_id_type _ _ _ _ _ _ made).1

/-- What depends neither on packet ids, nor on the transport, nor on what was given out. -/
def Unwritten (holds : State τ → Prop) : Prop :=
  ∀ state packetId transport outputs, holds state →
    holds { state with packetId := packetId, transport := transport, outputs := outputs }

namespace Unwritten

variable {holds : State τ → Prop}

/-- Writing a packet keeps it. -/
theorem sendMade (unwritten : Unwritten holds) {make : UInt16 → Action τ Packet}
    (still : ∀ id state, after (make id state) = state) : Keeps holds (sendMade env make) := by
  have writes : ∀ packet, Keeps holds (write env packet) := by
    intro packet
    refine .bind .get fun state => .bind (.modify fun _ => unwritten _ _ _ _) fun _ => ?_
    split
    · exact .throw _
    · exact .modify fun _ => unwritten _ _ _ _
  refine .bind (.bind (.modify fun _ => unwritten _ _ _ _) fun _ => .bind .get fun _ => .pure _)
    fun id => .bind ?_ writes
  intro state standing
  rw [still id state]
  exact standing

/-- Writing a packet if the transport is open keeps it. -/
theorem sendIfOpen (unwritten : Unwritten holds) {make : UInt16 → Action τ Packet}
    (still : ∀ id state, after (make id state) = state) : Keeps holds (sendIfOpen env make) :=
  .bind .get fun _ => .runIf (unwritten.sendMade still)

/-- `send_cmd_ack` keeps it. -/
theorem sendCmdAck (unwritten : Unwritten holds) (packet : Packet) :
    Keeps holds (sendCmdAck env packet) := by
  refine unwritten.sendIfOpen fun id state => ?_
  unfold firstBlock
  rw [bind_apply]
  cases packet.blocks with
  | nil => rfl
  | cons block blocks => exact made_still _ _

/-- `send_data` keeps it. -/
theorem sendData (unwritten : Unwritten holds) (blocks : List BlockView) :
    Keeps holds (sendData env blocks) := by
  have sent : ∀ payload, Keeps holds
      (Slave.sendMade env fun packetId => made (Packet.makeData env.raw packetId payload)) :=
    fun payload => unwritten.sendMade fun _ state => made_still _ state
  unfold Slave.sendData
  generalize ([] : List BlockView) = payload
  generalize 0 = size
  induction blocks generalizing payload size with
  | nil => exact .runIf (sent payload)
  | cons block blocks ih =>
    refine .bind (.runIf (.throw _)) fun _ => .choice (.bind (sent payload) fun _ => ?_) ?_
    · exact ih _ _
    · exact ih _ _

end Unwritten

/-- Two managers do not differ in what a call that only writes leaves alone. -/
structure State.Same (state next : State τ) : Prop where
  /-- `timeout_queue_`. -/
  timeoutQueue : next.timeoutQueue = state.timeoutQueue
  /-- `keepalive_id_`. -/
  keepaliveId : next.keepaliveId = state.keepaliveId
  /-- `keepalive_mngt_`. -/
  keepaliveMngt : next.keepaliveMngt = state.keepaliveMngt
  /-- `is_running()`. -/
  running : next.running = state.running

/-- None of it is written. -/
theorem State.Same.unwritten (first : State τ) : Unwritten first.Same :=
  fun _ _ _ _ same => ⟨same.timeoutQueue, same.keepaliveId, same.keepaliveMngt, same.running⟩

/-- The loop of `send_data`. -/
theorem sendDataFrom_changing (blocks payload : List BlockView) (size : Nat) :
    Changing env (sendDataFrom env blocks payload size) := by
  have sent : ∀ payload, Changing env
      (sendMade env fun packetId => made (Packet.makeData env.raw packetId payload)) :=
    fun payload => sendPacket_changing _ fun _ _ made => (Packet.build_id_type _ _ _ _ _ _ made).1
  induction blocks generalizing payload size with
  | nil => exact .runIf (sent payload)
  | cons block blocks ih =>
    refine .bind (.runIf (.throw _)) fun _ => ?_
    exact .choice (Changing.bind (sent payload) fun _ => ih _ _) (ih _ _)

/-- `send_data`. -/
theorem sendData_changing (blocks : List BlockView) : Changing env (sendData env blocks) :=
  sendDataFrom_changing blocks [] 0

/-- Arming the keepalive timer. -/
theorem armKeepalive_changing : Changing env armKeepalive :=
  .timers (fun _ => .arm _ _ _ _) (fun _ => rfl) (fun _ => rfl) (fun _ => rfl) fun _ => rfl

/-- Erasing the keepalive timer. -/
theorem eraseKeepalive_changing : Changing env eraseKeepalive := by
  refine .timers ?_ ?_ ?_ ?_ ?_
  · intro state
    cases state.keepaliveId with
    | none => exact .refl _
    | some id => exact .erase _ id
  all_goals
    intro state
    cases state.keepaliveId with
    | none => rfl
    | some id => rfl

/-- `start_keepalive_management`. -/
theorem startKeepaliveManagement_changing (keepaliveTimeout : Nat) :
    Changing env (startKeepaliveManagement keepaliveTimeout) := by
  refine .bind ?_ fun _ => .bind ?_ fun _ => armKeepalive_changing
  · exact .timers (fun _ => .refl _) (fun _ => rfl) (fun _ => rfl) (fun _ => rfl) fun _ => rfl
  · exact .timers (fun _ => .refl _) (fun _ => rfl) (fun _ => rfl) (fun _ => rfl) fun _ => rfl

/-- `stop_keepalive_management`. -/
theorem stopKeepaliveManagement_changing : Changing env stopKeepaliveManagement := by
  refine .bind ?_ fun _ => eraseKeepalive_changing
  exact .timers (fun _ => .refl _) (fun _ => rfl) (fun _ => rfl) (fun _ => rfl) fun _ => rfl

/-- `keepalive`. -/
theorem keepalive_changing : Changing env (keepalive env) := by
  refine .bind .get fun _ => .bind (.runIf (Changing.bind eraseKeepalive_changing fun _ =>
    armKeepalive_changing)) fun _ => sendIfOpen_changing _ ?_
  exact fun _ _ made => (Packet.build_id_type _ _ _ _ _ _ made).1

/-- `stop`. -/
theorem stop_changing : Changing env stop :=
  .single (fun _ => ()) _ (fun _ => rfl) fun state => .stopped state

/-- The callback of a timer. -/
theorem fire_changing (timer : Timer TimerCallback) : Changing env (fire env timer) := by
  unfold fire kaTimeoutCb
  cases env.timeoutCb with
  | none => exact .pure ()
  | some raised =>
    refine .bind (.single (fun _ => ()) _ (fun _ => rfl) fun state => .timedOut state)
      fun _ => ?_
    cases raised with
    | none => exact .pure ()
    | some error => exact .throw error

/-- A tick. -/
theorem runOnce_changing (batch : List (Timer TimerCallback)) :
    Changing env (runOnce env batch) := by
  refine .bind ?_ fun _ => ?_
  · exact .timers (fun _ => .advance _ _) (fun _ => rfl) (fun _ => rfl) (fun _ => rfl) fun _ => rfl
  · induction batch with
    | nil => exact .pure ()
    | cons timer batch ih => exact .bind (fire_changing timer) fun _ => ih

/-- A manager after a tick that reports its timeouts. -/
def State.ticked (state : State τ) (batch : List (Timer TimerCallback)) : State τ :=
  { state with
    now := state.now + 1
    timeoutQueue := state.timeoutQueue.advance state.now
    outputs := state.outputs ++ List.replicate batch.length .timedOut }

/-- The callbacks of a batch report one timeout each. -/
theorem fireAll_apply (reports : env.timeoutCb = some none) (batch : List (Timer TimerCallback))
    (state : State τ) :
    fireAll env batch state =
      .ok () { state with outputs := state.outputs ++ List.replicate batch.length .timedOut } := by
  induction batch generalizing state with
  | nil =>
    rw [List.length_nil, List.replicate_zero, List.append_nil]
    rfl
  | cons timer batch ih =>
    have fired : fire env timer state =
        .ok () { state with outputs := state.outputs ++ [.timedOut] } := by
      unfold fire kaTimeoutCb
      rw [reports]
      rfl
    unfold fireAll
    rw [bind_apply, fired]
    dsimp only
    rw [ih, List.append_assoc, List.length_cons, List.replicate_succ, List.singleton_append]

/-- A tick of a manager whose timeout callback raises nothing. -/
theorem runOnce_apply (reports : env.timeoutCb = some none) (batch : List (Timer TimerCallback))
    (state : State τ) : runOnce env batch state = .ok () (state.ticked batch) := by
  unfold runOnce
  rw [bind_apply, modify_apply]
  dsimp only
  rw [fireAll_apply reports]
  rfl

/-- A manager that was just started. -/
def State.started (state : State τ) : State τ :=
  { state with
    timeoutQueue := state.timeoutQueue.clear
    now := 0
    packetId := 0
    keepaliveMngt := false
    running := true }

/-- `start` of a manager that is not running. -/
theorem start_apply (state : State τ) (idle : state.running = false) :
    start state = .ok () state.started := by
  unfold start
  rw [bind_apply, get_apply]
  dsimp only
  rw [if_neg (by rw [idle]; decide)]
  rfl

/-- `start` of a manager that is running. -/
theorem start_running (state : State τ) (running : state.running = true) :
    start state = .ok () state := by
  unfold start
  rw [bind_apply, get_apply]
  dsimp only
  rw [if_pos running]
  rfl

end Operations

end Hdcp.Slave
