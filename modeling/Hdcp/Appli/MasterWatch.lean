import Hdcp.Appli.MasterLife

/-!
# The master never waits for a DIP without a timeout, when its requests can be sent

A connection attempt is counted, then a HIP is sent, then the dip timer is armed: a HIP that cannot
be sent leaves the master in state connecting without a timer, and as the attempt counts nothing
ever makes another one. When every attempt on an open transport can send its HIP, a master that
waits for a DIP has a dip timer armed, or the timeout or the DIP itself is pending.
-/

namespace Hdcp.Appli.Master

open Base
open Hdcp.Master hiding State Event

variable {τ κ : Type}

/-- A dip timer is armed in the running manager. -/
def Watched (manager : Hdcp.Master.State τ κ) : Prop :=
  manager.running = true ∧ ∃ timer ∈ manager.timeoutQueue.timers, timer.callback = .dipTimeoutCb

/-- The master is past the first handler call in state connecting. -/
def Life.Waits (life : Life τ κ) : Prop :=
  life.phase ≠ .stopped ∧ life.state = .connecting ∧ life.party.machine.nbLoop ≠ 0

/-- A master that waits on an open transport has a timeout, or has no need of one. -/
def Life.HasTimeout (setup : Setup τ κ) (life : Life τ κ) : Prop :=
  life.Waits → life.isOpen setup = true →
    Watched life.data.manager ∨ .dipTimeout ∈ life.data.events ∨ .dipReceived ∈ life.data.events

/-- A HIP of a packet id can be sent. -/
def Attemptable (setup : Setup τ κ) (id : UInt16) (transport : τ) : Prop :=
  setup.transport.isOpen transport = true →
    ∃ hip, Packet.makeHip setup.raw id setup.masterId = .ok hip ∧
      (setup.transport.write transport ⟨hip, none⟩).1 = none

/-- A connection attempt is due. -/
def Data.Due (data : Data τ κ) : Prop :=
  data.connectionAttempts = 0 ∨ .dipTimeout ∈ data.events

instance (data : Data τ κ) : Decidable data.Due := inferInstanceAs (Decidable (_ ∨ _))

/-- The attempt of the next wakeup in state connecting, if one is due, can be made. -/
def Data.CanAttempt (setup : Setup τ κ) (nbLoop : Nat) (data : Data τ κ) : Prop :=
  if nbLoop = 0 then Attemptable setup 1 (setup.transport.clearQueues data.manager.transport)
  else data.Due → Attemptable setup (data.manager.packetId + 1) data.manager.transport

/-- A wakeup in state connecting is on a closed transport, or its attempt can send its HIP. -/
def Life.Attempts (setup : Setup τ κ) (life : Life τ κ) : Move τ κ → Prop
  | .wakeup => life.state = .connecting → life.party.machine.position = 0 →
      life.data.CanAttempt setup life.party.machine.nbLoop
  | _ => True

/-- The manager runs and watches over connection attempts only. -/
structure Dialing (manager : Hdcp.Master.State τ κ) : Prop where
  /-- The manager runs. -/
  running : manager.running = true
  /-- Every timer is a dip timer. -/
  dips : ∀ timer ∈ manager.timeoutQueue.timers, timer.callback = .dipTimeoutCb

/-- What a master waits for: a timer that is armed, or an event. -/
structure Awaits (data : Data τ κ) : Prop where
  /-- The manager watches over attempts only. -/
  dialing : Dialing data.manager
  /-- Something will end the wait. -/
  ends : data.manager.timeoutQueue.timers ≠ [] ∨ .dipTimeout ∈ data.events ∨
    .dipReceived ∈ data.events

/-- A timer armed in a dialing manager is a dip timer. -/
theorem Dialing.watched {manager : Hdcp.Master.State τ κ} (dialing : Dialing manager)
    (armed : manager.timeoutQueue.timers ≠ []) : Watched manager := by
  obtain ⟨timer, inside⟩ := List.exists_mem_of_ne_nil _ armed
  exact ⟨dialing.running, timer, inside, dialing.dips timer inside⟩

section Attempts

variable (setup : Setup τ κ)

/-- A DIP ends the wait. -/
theorem keeps_awaits_processConnecting (message : Message) :
    Keeps Awaits (processConnecting message : Handler τ κ Unit) := by
  unfold processConnecting runIf
  refine .choice (fun data awaits => ?_) (.pure _)
  have dialing : Dialing (data.manager.withFields
      (data.manager.toFields.withoutTimer data.manager.dipId)) := by
    refine ⟨?_, fun timer inside => ?_⟩
    · change (data.manager.toFields.withoutTimer data.manager.dipId).running = true
      rw [Fields.withoutTimer_eq]
      exact awaits.dialing.running
    · cases named : data.manager.dipId with
      | none =>
        rw [named] at inside
        exact awaits.dialing.dips timer inside
      | some id =>
        rw [named] at inside
        exact awaits.dialing.dips timer ((TimeoutQueue.mem_erase _ id timer).mp inside).1
  have acked : ∀ data : Data τ κ, onManager ackDip data = .ok () (data.withManager
      (data.manager.withFields (data.manager.toFields.withoutTimer data.manager.dipId))) :=
    fun data => onManager_apply (ackDip_apply data.manager)
  rw [bind_apply, modify_apply]
  dsimp only
  unfold setSlaveId
  rw [bind_apply, modify_apply]
  dsimp only
  rw [bind_apply, acked]
  exact ⟨dialing, .inr (.inr (Finset.mem_insert_self _ _))⟩

/-- A packet read leaves the master waiting for what ends its wait. -/
theorem keeps_awaits_read :
    Keeps (Awaits (τ := τ) (κ := κ)) (readPacket setup .connecting processConnecting) := by
  intro data awaits
  have moved : ∀ transport, Awaits (data.withTransport transport) :=
    fun transport => ⟨⟨awaits.dialing.running, awaits.dialing.dips⟩, awaits.ends⟩
  rw [readPacket_apply]
  cases (setup.transport.read data.manager.transport).1 with
  | none => exact moved _
  | some message =>
    have processed : Keeps (Awaits (τ := τ) (κ := κ))
        (processConnecting message >>= fun _ => pure TransitionStatus.stayCurrState) :=
      .bind (keeps_awaits_processConnecting message) fun _ => .pure _
    exact processed _ ⟨(moved _).dialing, (moved _).ends⟩

/-- `send_hip` returns when its HIP can be sent, and arms a timer. -/
theorem sendHip_arms (manager : Hdcp.Master.State τ κ)
    (attemptable : Attemptable setup (manager.packetId + 1) manager.transport) :
    ∃ next, sendHip setup.environment setup.masterId connectingTimeout manager = .ok () next ∧
      ∃ id, next.toFields =
        Fields.withDipTimer { manager.toFields with packetId := id } connectingTimeout := by
  cases isOpen : setup.transport.isOpen manager.transport with
  | false =>
    refine ⟨_, (sendHip_eq_ok_iff _ _ _ _ _ _).mpr (.inl ⟨isOpen, rfl⟩), manager.packetId, rfl⟩
  | true =>
    obtain ⟨hip, making, accepted⟩ := attemptable isOpen
    refine ⟨_, (sendHip_eq_ok_iff _ _ _ _ _ _).mpr
      (.inr ⟨isOpen, hip, making, fun _ => accepted, rfl⟩), manager.packetId + 1, rfl⟩

/-- Whether an attempt is due; asking consumes the timeout. -/
theorem attemptDue_apply (data : Data τ κ) :
    attemptDue data = .ok (decide data.Due)
      (if data.connectionAttempts = 0 then data else data.without .dipTimeout) := by
  unfold attemptDue
  rw [bind_apply, get_apply]
  dsimp only
  by_cases none : data.connectionAttempts = 0
  · rw [if_pos none, if_pos none, decide_eq_true (.inl none)]
    rfl
  · rw [if_neg none, if_neg none, eraseEvent_apply]
    congr 1
    exact decide_eq_decide.mpr ⟨.inr, fun due => due.resolve_left none⟩

/-- A wakeup in state connecting leaves a dialing master waiting for what will end its wait, when
the attempt that is due can be made. -/
theorem attempt_awaits (data : Data τ κ) (dialing : Dialing data.manager)
    (ends : ¬ data.Due → Awaits data)
    (attemptable : data.Due →
      Attemptable setup (data.manager.packetId + 1) data.manager.transport) :
    Awaits (after (attempt setup data)) := by
  unfold attempt
  rw [bind_apply, attemptDue_apply]
  dsimp only
  by_cases due : data.Due
  · obtain ⟨next, sending, id, fields⟩ := sendHip_arms setup data.manager (attemptable due)
    have attempted : ∀ polled : Data τ κ, polled.manager = data.manager →
        attemptConnection setup polled = .ok ()
          { polled with
            connectionAttempts := polled.connectionAttempts + 1
            manager := next } := by
      intro polled same
      unfold attemptConnection
      rw [bind_apply, modify_apply]
      dsimp only
      refine onManager_apply ?_
      rw [← sending, ← same]
    have unchanged : (if data.connectionAttempts = 0 then data
        else data.without .dipTimeout).manager = data.manager := by
      split <;> rfl
    rw [decide_eq_true due, runIf, if_pos rfl, bind_apply, attempted _ unchanged]
    dsimp only
    refine keeps_awaits_read setup _ ⟨⟨?_, ?_⟩, .inl ?_⟩
    · rw [fields]
      exact dialing.running
    · rw [fields]
      intro timer inside
      rcases List.mem_cons.mp inside with rfl | old
      · rfl
      · exact dialing.dips timer old
    · rw [fields]
      exact List.cons_ne_nil _ _
  · have attempted : data.connectionAttempts ≠ 0 := fun none => due (.inl none)
    have quiet : data.without .dipTimeout = data :=
      data.without_of_notMem fun pending => due (.inr pending)
    rw [decide_eq_false due, if_neg attempted, quiet, runIf, if_neg (by decide), bind_apply,
      pure_apply]
    exact keeps_awaits_read setup data (ends due)

end Attempts

/-- What leaves the manager and the two events alone leaves the master waiting for what ends its
wait. -/
theorem Awaits.of_same {data next : Data τ κ} (awaits : Awaits data)
    (same : next.manager = data.manager)
    (timeout : .dipTimeout ∈ data.events → .dipTimeout ∈ next.events)
    (received : .dipReceived ∈ data.events → .dipReceived ∈ next.events) : Awaits next := by
  refine ⟨same ▸ awaits.dialing, ?_⟩
  rcases awaits.ends with armed | pending | pending
  · exact .inl (same ▸ armed)
  · exact .inr (.inl (timeout pending))
  · exact .inr (.inr (received pending))

/-- Past the first handler call in state connecting, something will end the wait. -/
def Watching (master : Party τ κ) : Prop :=
  master.state = .connecting → master.machine.nbLoop ≠ 0 → Awaits master.data

section Lives

variable {setup : Setup τ κ}

/-- The handler of state connecting leaves the master waiting for what will end its wait, when the
attempt that is due can be made. -/
theorem connecting_awaits {nbLoop : Nat} {data : Data τ κ} {phase : Phase}
    (sound : Sound (.at .connecting nbLoop 0 data) phase)
    (watching : Watching (.at .connecting nbLoop 0 data))
    (attempts : data.CanAttempt setup nbLoop) :
    Awaits (after (handler setup .connecting (nbLoop + 1) data)) := by
  unfold Data.CanAttempt at attempts
  by_cases first : nbLoop = 0
  · subst first
    rw [if_pos rfl] at attempts
    have idle : data.manager.running = false := sound.connecting rfl rfl
    rw [handler_first setup data idle]
    have dialing : Dialing (data.begun setup).manager :=
      ⟨rfl, fun timer inside => by contradiction⟩
    exact attempt_awaits setup (data.begun setup) dialing (fun undue => absurd (.inl rfl) undue)
      fun _ => attempts
  · rw [if_neg first] at attempts
    have awaits : Awaits data := watching rfl first
    rw [handler_later setup (nbLoop + 1) fun same => first (Nat.succ_injective same)]
    exact attempt_awaits setup data awaits.dialing (fun _ => awaits) attempts

/-- An entry leaves the master watching, when the attempt that is due can be made. -/
theorem Watching.wakes {master next : Party τ κ} {phase : Phase} (sound : Sound master phase)
    (watching : Watching master) (wakes : Wakes setup master next)
    (attempts : master.state = .connecting → master.machine.position = 0 →
      master.data.CanAttempt setup master.machine.nbLoop) :
    Watching next := by
  cases wakes with
  | handled state nbLoop data returns =>
    rintro ⟨⟩ _
    exact connecting_awaits sound watching (attempts rfl rfl)
  | thrown state nbLoop data errc throws =>
    rintro ⟨⟩ _
    have awaits := connecting_awaits sound watching (attempts rfl rfl)
    exact awaits.of_same rfl (fun pending => pending) fun pending => pending
  | waits nbLoop data => exact fun elsewhere => by contradiction
  | woken nbLoop data pending => exact fun elsewhere => by contradiction
  | begun nbLoop data => exact fun elsewhere => by contradiction
  | requested nbLoop data pending => exact fun _ later => absurd rfl later
  | unrequested nbLoop data absent => exact fun elsewhere => by contradiction
  | closed state nbLoop data session isClosed => exact fun elsewhere => by contradiction
  | stillOpen state nbLoop data session isOpen => exact watching
  | dipTimeout nbLoop data pending exhausted => exact fun elsewhere => by contradiction
  | noDipTimeout nbLoop data left => exact watching
  | connected nbLoop data pending => exact fun elsewhere => by contradiction
  | notConnected nbLoop data absent => exact watching
  | kaTimeout nbLoop data pending => exact fun elsewhere => by contradiction
  | noKaTimeout nbLoop data absent => exact fun elsewhere => by contradiction
  | dismissed nbLoop data pending => exact fun elsewhere => by contradiction
  | undismissed nbLoop data absent => exact fun elsewhere => by contradiction

/-- A tick leaves the master watching. -/
theorem Watching.ticked {master : Party τ κ} (watching : Watching master)
    {batch : List (Timer TimerCallback)}
    (taken : batch.Perm (master.data.manager.timeoutQueue.expired master.data.manager.now)) :
    Watching (master.ticked setup batch) := by
  intro connecting later
  have awaits := watching connecting later
  have dips : ∀ timer ∈ batch, timer.callback = .dipTimeoutCb := by
    intro timer inside
    exact awaits.dialing.dips timer ((TimeoutQueue.mem_expired _ _ _).mp (taken.subset inside)).1
  have ran := @runOnce_dipTimers τ κ setup.environment rfl batch dips master.data.manager
  have dialing : Dialing (after (runOnce setup.environment batch master.data.manager)) := by
    rw [ran]
    refine ⟨awaits.dialing.running, fun timer inside => ?_⟩
    obtain ⟨old, armed, kept⟩ := (TimeoutQueue.mem_advance _ _ _).mp inside
    rw [(Timer.advance_keeps kept).2.2]
    exact awaits.dialing.dips old armed
  refine ⟨dialing, ?_⟩
  rcases awaits.ends with armed | pending | pending
  · by_cases none : master.data.manager.toFields.ticked.timeoutQueue.timers = []
    · -- the last timer has expired, and its timeout is reported
      have some := TimeoutQueue.expired_ne_nil armed none
      have called : batch ≠ [] := by
        rintro rfl
        exact some taken.symm.eq_nil
      obtain ⟨timer, inside⟩ := List.exists_mem_of_ne_nil batch called
      refine .inr (.inl ((mem_timeoutCb _ _ _).mpr (.inr ⟨.dipTimeout, ?_, rfl⟩)))
      rw [ran]
      change Output.timedOut TimeoutType.dipTimeout ∈ List.drop _
        (master.data.manager.outputs ++ List.replicate batch.length (.timedOut .dipTimeout))
      rw [List.drop_left]
      exact List.mem_replicate.mpr ⟨(List.length_pos_of_mem inside).ne', rfl⟩
    · left
      change (after (runOnce setup.environment batch master.data.manager)).timeoutQueue.timers ≠ []
      rw [ran]
      exact none
  · exact .inr (.inl (master.pending_ticked setup batch pending))
  · exact .inr (.inr (master.pending_ticked setup batch pending))

/-- The master watches while its thread runs. -/
def Life.Watching (life : Life τ κ) : Prop :=
  life.Sound ∧ (life.phase ≠ .stopped → Master.Watching life.party)

/-- Each step whose attempt can be made leaves the master watching. -/
theorem watching_step (setup : Setup τ κ) (life : Life τ κ) (move : Move τ κ) (next : Life τ κ)
    (watching : life.Watching)
    (taken : Guarded (Life.Attempts setup) (Steps (Life.step setup)) life move next) :
    next.Watching := by
  obtain ⟨sound, watched⟩ := watching
  obtain ⟨attempts, stepped⟩ := taken
  obtain ⟨party, phase, -, lives, rfl, after⟩ := sound.step stepped
  refine ⟨after, fun going => ?_⟩
  cases lives with
  | wakeup _ alive wakes => exact (watched alive).wakes sound wakes attempts
  | tick batch running perm => exact (watched going).ticked perm
  | asyncConnect =>
    change Master.Watching life.party.asyncConnect
    unfold Party.asyncConnect
    split
    · exact watched going
    · intro connecting later
      exact (watched going connecting later).of_same rfl Finset.mem_insert_of_mem
        Finset.mem_insert_of_mem
  | connectReturns =>
    intro connecting later
    exact (watched going connecting later).of_same rfl
      (Finset.mem_erase_of_ne_of_mem (by decide)) (Finset.mem_erase_of_ne_of_mem (by decide))
  | asyncDisconnect =>
    change Master.Watching life.party.asyncDisconnect
    unfold Party.asyncDisconnect
    split
    · exact watched going
    · intro connecting later
      exact (watched going connecting later).of_same rfl Finset.mem_insert_of_mem
        Finset.mem_insert_of_mem
  | sendCommand id data cb =>
    obtain ⟨manager, sent, -, same⟩ := Party.sendCommand_eq setup life.party id data cb
    change Master.Watching (life.party.sendCommand setup id data cb)
    rw [sent]
    intro connecting later
    have outside : life.party.state ≠ .connected := by
      rw [show life.party.state = .connecting from connecting]
      decide
    exact (watched going connecting later).of_same (same outside) (fun pending => pending)
      fun pending => pending
  | changed transport =>
    intro connecting later
    have awaits := watched going connecting later
    exact ⟨⟨awaits.dialing.running, awaits.dialing.dips⟩, awaits.ends⟩
  | stop running =>
    have alive : life.phase ≠ .stopped := by
      rw [running]
      decide
    intro connecting later
    exact (watched alive connecting later).of_same rfl Finset.mem_insert_of_mem
      Finset.mem_insert_of_mem
  | joined transport stopping first awake => exact absurd rfl going
  | start transport stopped => exact fun elsewhere => by contradiction

end Lives

/-- In every run in which each attempt is made on a closed transport or with a HIP that can be sent,
a master that waits on an open transport has a timeout. -/
theorem connecting_hasTimeout (setup : Setup τ κ) (transport : τ) (moves : List (Move τ κ))
    (life : Life τ κ)
    (run : Run (Guarded (Life.Attempts setup) (Steps (Life.step setup))) (.initial transport) moves
      life) : life.HasTimeout setup := by
  have initially : (Life.initial transport : Life τ κ).Watching :=
    ⟨sound_started transport, fun going => absurd rfl going⟩
  obtain ⟨-, watched⟩ := run.invariant (watching_step setup) initially
  rintro ⟨alive, connecting, later⟩ _
  have awaits := watched alive connecting later
  rcases awaits.ends with armed | pending | pending
  · exact .inl (awaits.dialing.watched armed)
  · exact .inr (.inl pending)
  · exact .inr (.inr pending)

/-! ## Two runs -/

instance (setup : Setup τ κ) (id : UInt16) (transport : τ) :
    Decidable (Attemptable setup id transport) :=
  match made : Packet.makeHip setup.raw id setup.masterId with
  | .ok hip =>
    decidable_of_iff (setup.transport.isOpen transport = true →
        (setup.transport.write transport ⟨hip, none⟩).1 = none)
      ⟨fun accepted isOpen => ⟨hip, made, accepted isOpen⟩, fun attemptable isOpen => by
        obtain ⟨other, same, accepted⟩ := attemptable isOpen
        obtain rfl := Except.ok.inj (made.symm.trans same)
        exact accepted⟩
  | .error _ =>
    decidable_of_iff (¬ setup.transport.isOpen transport = true)
      ⟨fun closed isOpen => absurd isOpen closed, fun attemptable isOpen => by
        obtain ⟨_, same, _⟩ := attemptable isOpen
        rw [made] at same
        contradiction⟩

instance (setup : Setup τ κ) (nbLoop : Nat) (data : Data τ κ) :
    Decidable (data.CanAttempt setup nbLoop) :=
  inferInstanceAs (Decidable (if nbLoop = 0 then
    Attemptable setup 1 (setup.transport.clearQueues data.manager.transport)
  else data.Due → Attemptable setup (data.manager.packetId + 1) data.manager.transport))

instance (setup : Setup τ κ) (life : Life τ κ) (move : Move τ κ) :
    Decidable (life.Attempts setup move) :=
  match move with
  | .wakeup => inferInstanceAs (Decidable (_ → _ → _))
  | .tick _ | .asyncConnect | .connectReturns | .asyncDisconnect | .sendCommand _ _ _
  | .changed _ | .stop | .joined _ | .start _ => inferInstanceAs (Decidable True)

instance (life : Life τ κ) : Decidable life.Waits := inferInstanceAs (Decidable (_ ∧ _))

instance (manager : Hdcp.Master.State τ κ) : Decidable (Watched manager) :=
  inferInstanceAs (Decidable (_ ∧ _))

/-- A master of some identification, on queues. -/
def onQueues (masterId : Identification) : Setup Queues Unit where
  masterId := masterId
  transport := Queues.transport
  invoke := fun _ _ => none
  dataCb := none
  raw := .cleared

/-- A master is started and asked to connect, and enters state connecting, in which it is woken
once. -/
def attempting : List (Move Queues Unit) :=
  [.start .empty, .wakeup, .wakeup, .asyncConnect] ++ List.replicate 3 .wakeup

/-- Its HIP is sent, and it has a timeout. -/
theorem connecting_hasTimeout_attempted :
    ∃ life, Run (Guarded (Life.Attempts (onQueues .empty)) (Steps (Life.step (onQueues .empty))))
        (.initial .empty) attempting life ∧
      life.Waits ∧ (Watched life.data.manager ∨ .dipTimeout ∈ life.data.events ∨
        .dipReceived ∈ life.data.events) := by
  have executed : ((Base.execute (fun life move =>
      if Life.Attempts (onQueues .empty) life move then Life.step (onQueues .empty) life move
      else none) (.initial .empty) attempting).any fun life => decide life.Waits) = true := by
    decide +kernel
  obtain ⟨life, reached, waits⟩ := (Option.any_eq_true _ _).mp executed
  have run := run_of_execute_guarded (Life.Attempts (onQueues .empty))
    (Life.step (onQueues .empty)) _ _ _ reached
  exact ⟨life, run, of_decide_eq_true waits,
    connecting_hasTimeout (onQueues .empty) .empty attempting life run (of_decide_eq_true waits)
      rfl⟩

/-- An identification whose name fits no packet. -/
def unsendable : Identification := { Identification.empty with name := List.replicate 2048 65 }

/-- A master whose identification fits no packet waits without a timeout. -/
theorem unsendable_hasNoTimeout :
    ∃ life, Run (Steps (Life.step (onQueues unsendable))) (.initial .empty) attempting life ∧
      ¬ life.HasTimeout (onQueues unsendable) := by
  have executed : ((Base.execute (Life.step (onQueues unsendable)) (.initial .empty)
      attempting).any fun life => decide (life.Waits ∧ ¬ Watched life.data.manager ∧
        .dipTimeout ∉ life.data.events ∧ .dipReceived ∉ life.data.events)) = true := by
    decide +kernel
  obtain ⟨life, reached, waits⟩ := (Option.any_eq_true _ _).mp executed
  obtain ⟨waiting, unwatched, quiet, unreceived⟩ := of_decide_eq_true waits
  refine ⟨life, (execute_eq_some_iff _ _ _ _).mp reached, fun timeout => ?_⟩
  rcases timeout waiting rfl with watched | pending | pending
  · exact unwatched watched
  · exact quiet pending
  · exact unreceived pending

end Hdcp.Appli.Master
