import Hdcp.Master.TimerTable
import Hdcp.Master.Threads

/-!
# When no exception leaves the timer thread

Three things end the loop of the timer thread: an ack is processed while the timer of its command
waits in the batch, the timer of a command is called before `send_command` inserted the request, the
transport refuses what a callback writes, as when it closes between the `is_open()` test and the
write. In every run without them no callback throws.
-/

namespace Hdcp.Master

open Base

variable {τ κ : Type}

/-- The timers whose callbacks are still to run. -/
def TimerThread.batch : TimerThread κ → List (Timer TimerCallback)
  | idle | escaped _ => []
  | calling batch | retryTest _ batch | retryWrite _ batch | retryReset batch | givingUp _ batch
  | keepaliveWrite batch | keepaliveArm batch => batch

/-- The request about to be given up. -/
def TimerThread.givesUp : TimerThread κ → Option (Request κ)
  | givingUp request _ => some request
  | _ => none

/-- The message a callback writes in the next statement. -/
def TimerThread.writes (env : Environment τ κ) (manager : State τ κ) :
    TimerThread κ → Option Message
  | retryWrite request _ => some ⟨request.command, some request.id⟩
  | keepaliveWrite _ => (Packet.makeKeepalive env.raw (manager.packetId + 1)).toOption.map
    fun keepalive => ⟨keepalive, none⟩
  | _ => none

/-- The request `ack_command` is at. -/
def ProtocolThread.request : ProtocolThread κ → Option (Request κ)
  | idle => none
  | fulfilled request | disarmed request => some request

/-- The request `ack_command` removes next. -/
def ProtocolThread.removes : ProtocolThread κ → Option (Request κ)
  | disarmed request => some request
  | _ => none

/-- The identifier of the command `send_command` is sending. -/
def UserThread.call : UserThread κ → Option Nat
  | idle => none
  | armed id _ _ _ | refreshed id _ _ _ | made id _ _ | written id _ _ => some id

/-- A move that is none of the three that go wrong. -/
def Lucky (env : Environment τ κ) (threads : Threads τ κ) : Move τ κ → Prop
  | .ack => ∀ request ∈ threads.protocol.removes, ∀ timer ∈ threads.timer.batch,
    timer.callback = .cmdTimeoutCb → timer.id ≠ request.id
  | .timer =>
    (∀ timer ∈ threads.timer.batch.head?, threads.timerNeedsMutex = true →
      threads.user.call ≠ some timer.id) ∧
    ∀ message ∈ threads.timer.writes env threads.manager, Accepts env threads.manager message
  | _ => True

/-! ## What other operations do to commands -/

/-- The identifiers of the pending requests, each with its command's. -/
def Fields.keys (fields : Fields κ) : List (Nat × UInt16) :=
  fields.requests.entries.map fun request => (request.id, request.commandId)

/-- The same requests are pending and no retry timer is new. -/
structure Mild (fields next : Fields κ) : Prop where
  /-- The requests. -/
  keys : next.keys = fields.keys
  /-- The retry timers. -/
  commands : ∀ id ∈ next.timeoutQueue.idsOf .cmdTimeoutCb,
    id ∈ fields.timeoutQueue.idsOf .cmdTimeoutCb
  /-- Identifiers stay issued. -/
  nextId : fields.timeoutQueue.nextId ≤ next.timeoutQueue.nextId

namespace Mild

variable {fields middle next : Fields κ}

/-- Nothing happens. -/
theorem refl (fields : Fields κ) : Mild fields fields := ⟨rfl, fun _ held => held, Nat.le_refl _⟩

/-- One thing after another. -/
theorem trans (first : Mild fields middle) (second : Mild middle next) : Mild fields next :=
  ⟨second.keys.trans first.keys, fun id held => first.commands id (second.commands id held),
    Nat.le_trans first.nextId second.nextId⟩

/-- A timer with another callback is armed. -/
theorem arm (fields : Fields κ) (expiration : Nat) (repeatInterval : Option Nat)
    (callback : TimerCallback) (other : callback ≠ .cmdTimeoutCb) :
    Mild fields { fields with
      timeoutQueue := fields.timeoutQueue.arm expiration repeatInterval callback } := by
  refine ⟨rfl, ?_, Nat.le_succ _⟩
  intro id held
  rw [TimeoutQueue.idsOf_arm, if_neg other] at held
  exact held

/-- A timer is erased. -/
theorem withoutTimer (fields : Fields κ) (gone : Option Nat) :
    Mild fields (fields.withoutTimer gone) := by
  cases gone with
  | none => exact .refl fields
  | some gone =>
    refine ⟨rfl, ?_, Nat.le_refl _⟩
    intro id held
    rw [Fields.withoutTimer, TimeoutQueue.idsOf_erase] at held
    exact (List.mem_filter.mp held).1

/-- The keepalive timer is armed. -/
theorem withMngtTimer (fields : Fields κ) (interval : Nat) :
    Mild fields (fields.withMngtTimer interval) := by
  have armed := arm fields (fields.now + interval / timeBaseMs) (some (interval / timeBaseMs))
    .kaMngtTimeoutCb (by decide)
  exact ⟨rfl, armed.commands, armed.nextId⟩

/-- The keepalive timer is restarted. -/
theorem refreshed (fields : Fields κ) : Mild fields fields.refreshed := by
  unfold Fields.refreshed
  split
  · exact (withoutTimer fields _).trans (withMngtTimer _ _)
  · exact .refl fields

/-- A tick takes its batch. -/
theorem ticked (fields : Fields κ) : Mild fields fields.ticked :=
  ⟨rfl, fun _ held => TimeoutQueue.mem_idsOf_of_advance held, Nat.le_refl _⟩

end Mild

section Operations

variable (env : Environment τ κ) (fields : Fields κ)

/-- Sending a keepalive touches no command. -/
theorem sendKeepalive_mild : Keeps (OnFields (τ := τ) (Mild fields)) (sendKeepalive env) := by
  refine .bind .get fun state => .choice (.bind ?_ fun _ => .bind (keeps_made _) fun _ =>
    keeps_write env _) (.pure _)
  intro state mild
  exact ⟨mild.keys, mild.commands, mild.nextId⟩

/-- Arming the timer of a keepalive touches no command. -/
theorem awaitKeepalive_mild (hold : List Nat → Nat → List Nat) :
    Keeps (OnFields (τ := τ) (Mild fields)) (do
      let id ← addTimer (← get).timeoutKeepalive .kaTimeoutCb
      modify fun state : State τ κ => { state with kaIds := hold state.kaIds id }) := by
  intro state mild
  have armed := Mild.trans mild (.arm state.toFields (state.now + state.timeoutKeepalive) none
    .kaTimeoutCb (by decide))
  exact ⟨armed.keys, armed.commands, armed.nextId⟩

/-- The other operations of the protocol thread touch no command, whether they return or throw. -/
theorem perform_mild (event : Event τ κ) (other : ofProtocol event = true) :
    Keeps (OnFields (τ := τ) (Mild fields)) (perform env event) := by
  cases event with
  | stop =>
    intro state mild
    exact ⟨mild.keys, mild.commands, mild.nextId⟩
  | stopKeepaliveManagement =>
    intro state mild
    rw [show perform env .stopKeepaliveManagement state = _ from
      stopKeepaliveManagement_apply state]
    have erased := Mild.withoutTimer { state.toFields with keepaliveMngt := false }
      state.keepaliveMngtId
    exact mild.trans ⟨erased.keys, erased.commands, erased.nextId⟩
  | sendHip identification timeout =>
    have armed : Keeps (OnFields (τ := τ) (Mild fields)) (do
        let id ← addTimer (timeout / timeBaseMs) .dipTimeoutCb
        modify fun state : State τ κ => { state with dipId := some id }) := by
      intro state mild
      have armed := Mild.trans mild (.arm state.toFields (state.now + timeout / timeBaseMs) none
        .dipTimeoutCb (by decide))
      exact ⟨armed.keys, armed.commands, armed.nextId⟩
    refine .bind .get fun state => ?_
    split
    · refine .bind ?_ fun _ => .bind (keeps_made _) fun _ => .bind (keeps_write env _)
        fun _ => armed
      intro state mild
      exact ⟨mild.keys, mild.commands, mild.nextId⟩
    · exact armed
  | startKeepaliveManagement interval timeout =>
    refine .bind (.modify ?_) fun _ => .bind ?_ fun _ => .bind (sendKeepalive_mild env fields)
      fun _ => .bind (.modify ?_) fun _ => awaitKeepalive_mild fields fun _ id => [id]
    · intro state mild
      exact ⟨mild.keys, mild.commands, mild.nextId⟩
    · intro state mild
      exact Mild.trans mild (.withMngtTimer _ interval)
    · intro state mild
      exact ⟨mild.keys, mild.commands, mild.nextId⟩
  | ackKeepalive =>
    intro state mild
    have erased : ∀ (ids : List Nat) (fields : Fields κ), Mild fields
        { fields with timeoutQueue := ids.foldl TimeoutQueue.erase fields.timeoutQueue } := by
      intro ids
      induction ids with
      | nil => exact fun fields => .refl fields
      | cons id ids ih => exact fun fields => (Mild.withoutTimer fields (some id)).trans (ih _)
    have all := Mild.trans mild (erased state.kaIds state.toFields)
    exact ⟨all.keys, all.commands, all.nextId⟩
  | ackDip =>
    intro state mild
    rw [show perform env .ackDip state = _ from ackDip_apply state]
    exact Mild.trans mild (.withoutTimer _ _)
  | _ => contradiction

end Operations

/-- Making a keepalive never fails. -/
theorem makeKeepalive_ok (raw : Packet) (id : UInt16) :
    ∃ packet, Packet.makeKeepalive raw id = .ok packet :=
  ⟨_, (Packet.build_ok_iff raw id .ka 0 [] _).mpr ⟨by decide, rfl, rfl, rfl⟩⟩

/-! ## The requests by their keys -/

/-- Counting a retry touches no key. -/
theorem Mild.withRetry (fields : Fields κ) (id : Nat) : Mild fields (fields.withRetry id) := by
  refine ⟨?_, fun _ held => held, Nat.le_refl _⟩
  simp only [Fields.keys, Fields.withRetry, TwoIndex.modifyFirst, List.map_map]
  apply List.map_congr_left
  intro request inside
  simp only [Function.comp_apply]
  split <;> rfl

/-- The keys are those of the requests. -/
theorem Fields.mem_keys (fields : Fields κ) (key : Nat × UInt16) :
    key ∈ fields.keys ↔
      ∃ request ∈ fields.requests.entries, (request.id, request.commandId) = key :=
  List.mem_map

/-- Requests of one command have one identifier. -/
theorem Fields.keys_unique {fields : Fields κ} {left right : Nat × UInt16}
    (leftIn : left ∈ fields.keys) (rightIn : right ∈ fields.keys) (same : left.2 = right.2) :
    left.1 = right.1 := by
  obtain ⟨request, inside, rfl⟩ := (fields.mem_keys left).mp leftIn
  obtain ⟨other, otherIn, rfl⟩ := (fields.mem_keys right).mp rightIn
  rw [TwoIndex.eq_of_second inside otherIn same]

/-! ## What the threads agree on -/

/-- A retry timer has its request, or the call of `send_command` that is about to insert it. -/
def Threads.Backed (threads : Threads τ κ) (id : Nat) : Prop :=
  (∃ key ∈ threads.manager.keys, key.1 = id) ∨ threads.user.call = some id

/-- What holds between any two statements of the threads. -/
structure Sound (threads : Threads τ κ) : Prop where
  /-- The timer thread runs. -/
  calm : threads.timer.escapedWith = none
  /-- No timer is twice in the batch. -/
  nodup : (threads.timer.batch.map Timer.id).Nodup
  /-- The retry timers of the batch have their requests. -/
  batch : ∀ timer ∈ threads.timer.batch, timer.callback = .cmdTimeoutCb →
    threads.Backed timer.id
  /-- The timer of the request about to be given up is not in the batch again. -/
  given : ∀ request ∈ threads.timer.givesUp, ∀ timer ∈ threads.timer.batch, timer.id ≠ request.id
  /-- The retry timers armed have their requests. -/
  armed : ∀ id ∈ threads.manager.timeoutQueue.idsOf .cmdTimeoutCb, threads.Backed id
  /-- The mutex of the requests has one owner. -/
  exclusive : threads.timer.holdsMutex = true → threads.protocol.holdsMutex = false
  /-- The request `ack_command` is at is still there. -/
  held : ∀ request ∈ threads.protocol.request,
    (request.id, request.commandId) ∈ threads.manager.keys
  /-- The timer of the request `ack_command` is about to remove is not armed. -/
  disarmed : ∀ request ∈ threads.protocol.removes,
    request.id ∉ threads.manager.timeoutQueue.idsOf .cmdTimeoutCb
  /-- The identifiers of requests were issued. -/
  issued : ∀ key ∈ threads.manager.keys, key.1 < threads.manager.timeoutQueue.nextId
  /-- So was that of the command being sent. -/
  called : ∀ id ∈ threads.user.call, id < threads.manager.timeoutQueue.nextId

/-- A manager as constructed, its threads at rest. -/
theorem sound_initial (transport : τ) :
    Sound (Threads.atRest (State.initial transport : State τ κ)) where
  calm := rfl
  nodup := List.nodup_nil
  batch := fun timer inside => by contradiction
  given := fun request present => by contradiction
  armed := fun id held => by contradiction
  exclusive := fun _ => rfl
  held := fun request present => by contradiction
  disarmed := fun request present => by contradiction
  issued := fun key inside => by contradiction
  called := fun id present => by contradiction

namespace Sound

variable {threads : Threads τ κ}

/-- The manager changes without a change of the requests. -/
theorem withManager (sound : Sound threads) (manager : State τ κ)
    (mild : Mild threads.manager.toFields manager.toFields) :
    Sound { threads with manager := manager } := by
  have backed : ∀ id, threads.Backed id →
      Threads.Backed { threads with manager := manager } id := by
    intro id backed
    unfold Threads.Backed
    rw [mild.keys]
    exact backed
  refine ⟨sound.calm, sound.nodup, ?_, sound.given, ?_, sound.exclusive, ?_, ?_, ?_, ?_⟩
  · exact fun timer inside bound => backed _ (sound.batch timer inside bound)
  · exact fun id held => backed id (sound.armed id (mild.commands id held))
  · intro request present
    rw [mild.keys]
    exact sound.held request present
  · exact fun request present held => sound.disarmed request present (mild.commands _ held)
  · intro key inside
    rw [mild.keys] at inside
    exact Nat.lt_of_lt_of_le (sound.issued key inside) mild.nextId
  · exact fun id present => Nat.lt_of_lt_of_le (sound.called id present) mild.nextId

/-- The timer thread moves on, with what is left of its batch. -/
theorem withTimer (sound : Sound threads) {timer : TimerThread κ}
    (calm : timer.escapedWith = none) (left : timer.batch.Sublist threads.timer.batch)
    (given : ∀ request ∈ timer.givesUp, ∀ other ∈ timer.batch, other.id ≠ request.id)
    (exclusive : timer.holdsMutex = true → threads.protocol.holdsMutex = false) :
    Sound { threads with timer := timer } where
  calm := calm
  nodup := sound.nodup.sublist (left.map Timer.id)
  batch := fun other inside bound => sound.batch other (left.subset inside) bound
  given := given
  armed := sound.armed
  exclusive := exclusive
  held := sound.held
  disarmed := sound.disarmed
  issued := sound.issued
  called := sound.called

/-- A statement of the timer thread that gives no request up and changes none. -/
theorem timerDoes (sound : Sound threads) {statement : Action τ κ (TimerThread κ)}
    (timer : TimerThread κ) (manager : State τ κ)
    (returned : statement threads.manager = .ok timer manager)
    (mild : Mild threads.manager.toFields manager.toFields)
    (calm : timer.escapedWith = none) (left : timer.batch.Sublist threads.timer.batch)
    (given : timer.givesUp = none)
    (exclusive : timer.holdsMutex = true → threads.protocol.holdsMutex = false) :
    Sound (threads.timerDoes statement) := by
  unfold Threads.timerDoes
  rw [returned]
  refine (sound.withManager _ mild).withTimer calm left ?_ exclusive
  rw [given]
  intro request absurdity
  contradiction

/-- The protocol thread moves on. -/
theorem withProtocol (sound : Sound threads) {protocol : ProtocolThread κ}
    (exclusive : threads.timer.holdsMutex = true → protocol.holdsMutex = false)
    (held : ∀ request ∈ protocol.request,
      (request.id, request.commandId) ∈ threads.manager.keys)
    (disarmed : ∀ request ∈ protocol.removes,
      request.id ∉ threads.manager.timeoutQueue.idsOf .cmdTimeoutCb) :
    Sound { threads with protocol := protocol } where
  calm := sound.calm
  nodup := sound.nodup
  batch := sound.batch
  given := sound.given
  armed := sound.armed
  exclusive := exclusive
  held := held
  disarmed := disarmed
  issued := sound.issued
  called := sound.called

/-- The user thread moves on in the call it is in. -/
theorem withUser (sound : Sound threads) {user : UserThread κ}
    (same : user.call = threads.user.call) : Sound { threads with user := user } := by
  have backed : ∀ id, threads.Backed id → Threads.Backed { threads with user := user } id := by
    intro id backed
    unfold Threads.Backed
    rw [same]
    exact backed
  refine ⟨sound.calm, sound.nodup, ?_, sound.given, ?_, sound.exclusive, sound.held,
    sound.disarmed, sound.issued, ?_⟩
  · exact fun timer inside bound => backed _ (sound.batch timer inside bound)
  · exact fun id held => backed id (sound.armed id held)
  · intro id present
    rw [same] at present
    exact sound.called id present

/-- A request goes, with its timer, while no other thread needs it. -/
theorem withoutRequest (sound : Sound threads) {manager : State τ κ} (gone : Nat)
    (keys : ∀ key, key ∈ manager.keys ↔ key ∈ threads.manager.keys ∧ key.1 ≠ gone)
    (commands : ∀ id ∈ manager.timeoutQueue.idsOf .cmdTimeoutCb,
      id ∈ threads.manager.timeoutQueue.idsOf .cmdTimeoutCb ∧ id ≠ gone)
    (nextId : manager.timeoutQueue.nextId = threads.manager.timeoutQueue.nextId)
    (taken : ∀ timer ∈ threads.timer.batch, timer.callback = .cmdTimeoutCb → timer.id ≠ gone)
    (idle : threads.protocol = .idle) : Sound { threads with manager := manager } := by
  have backed : ∀ id, id ≠ gone → threads.Backed id →
      Threads.Backed { threads with manager := manager } id := by
    intro id other backed
    rcases backed with ⟨key, inside, rfl⟩ | sending
    · exact .inl ⟨key, (keys key).mpr ⟨inside, other⟩, rfl⟩
    · exact .inr sending
  refine ⟨sound.calm, sound.nodup, ?_, sound.given, ?_, sound.exclusive, ?_, ?_, ?_, ?_⟩
  · exact fun timer inside bound => backed _ (taken timer inside bound)
      (sound.batch timer inside bound)
  · exact fun id held => backed id (commands id held).2 (sound.armed id (commands id held).1)
  · rw [idle]
    intro request absurdity
    contradiction
  · rw [idle]
    intro request absurdity
    contradiction
  · intro key inside
    rw [nextId]
    exact sound.issued key ((keys key).mp inside).1
  · rw [nextId]
    exact sound.called

/-- Who owns the mutex keeps the protocol thread out of `ack_command`. -/
theorem protocol_idle (sound : Sound threads) (owner : threads.timer.holdsMutex = true) :
    threads.protocol = .idle :=
  ProtocolThread.eq_idle (sound.exclusive owner)

end Sound

/-! ## The timer thread -/

/-- A timeout is reported without a change of the fields. -/
theorem reportTimeout_returns (env : Environment τ κ) (quiet : Quiet env) (type : TimeoutType)
    (state : State τ κ) :
    ∃ next, reportTimeout env type state = .ok () next ∧ next.toFields = state.toFields := by
  unfold reportTimeout
  cases present : env.timeoutCb with
  | none => exact ⟨state, rfl, rfl⟩
  | some timeoutCb =>
    refine ⟨{ state with outputs := state.outputs ++ [.timedOut type] }, ?_, rfl⟩
    simp only [bind_apply, emit_apply, quiet.timeoutCb timeoutCb present type, pure_apply]

section Timer

variable {env : Environment τ κ} {threads : Threads τ κ}

/-- A retry timer is called whose request is there. -/
theorem sound_lookUp (sound : Sound threads) {timer : Timer TimerCallback}
    {batch : List (Timer TimerCallback)} (calling : threads.timer = .calling (timer :: batch))
    (bound : timer.callback = .cmdTimeoutCb) (lucky : threads.user.call ≠ some timer.id)
    (free : threads.protocol.holdsMutex = false) :
    Sound (threads.timerDoes (lookUp timer.id batch)) := by
  have taken : threads.timer.batch = timer :: batch := by rw [calling]; rfl
  have left : batch.Sublist threads.timer.batch := by
    rw [taken]
    exact List.sublist_cons_self _ _
  have known : ∃ key ∈ threads.manager.keys, key.1 = timer.id := by
    have backed := sound.batch timer (by rw [taken]; exact List.mem_cons_self) bound
    exact backed.resolve_right lucky
  obtain ⟨key, inside, same⟩ := known
  obtain ⟨request, present, rfl⟩ := (Fields.mem_keys _ _).mp inside
  have found : threads.manager.requests.findFirst timer.id = some request :=
    (TwoIndex.findFirst_eq_some_iff _ _ _).mpr ⟨present, same⟩
  by_cases more : request.retry < maxRetry
  · have returned : lookUp timer.id batch threads.manager = .ok (.retryTest request batch)
        (threads.manager.withFields (threads.manager.withRetry timer.id)) := by
      simp only [lookUp, bind_apply, get_apply, found, if_pos more]
      rfl
    exact sound.timerDoes _ _ returned (.withRetry _ _) rfl left rfl fun _ => free
  · have returned : lookUp timer.id batch threads.manager =
        .ok (.givingUp request batch) threads.manager := by
      simp only [lookUp, bind_apply, get_apply, found, if_neg more]
      rfl
    unfold Threads.timerDoes
    rw [returned]
    refine sound.withTimer rfl left ?_ fun _ => free
    intro given chosen other otherIn
    obtain rfl := Option.some.inj chosen
    have distinct := sound.nodup
    rw [taken, List.map_cons, List.nodup_cons] at distinct
    intro clash
    exact distinct.1 (List.mem_map.mpr ⟨other, otherIn, clash.trans same⟩)

/-- A request is given up. -/
theorem sound_giveUp (quiet : Quiet env) (sound : Sound threads) {request : Request κ}
    {batch : List (Timer TimerCallback)} (giving : threads.timer = .givingUp request batch) :
    Sound (threads.timerDoes do
      giveUp env request.id request
      return .calling batch) := by
  have idle := sound.protocol_idle (by rw [giving]; rfl)
  have moved : Sound { threads with timer := .calling batch } := by
    refine sound.withTimer rfl ?_ (fun given absurdity => by contradiction) fun held => ?_
    · rw [giving]
      exact .refl _
    · contradiction
  have returned := (giveUp_eq_ok_iff env request.id request threads.manager _ ()).mpr
    ⟨quiet.invoke _ _, rfl⟩
  unfold Threads.timerDoes
  rw [bind_apply, returned]
  refine moved.withoutRequest request.id ?_ ?_ rfl ?_ idle
  · intro key
    simp only [State.toFields_withFields, Fields.mem_keys, TwoIndex.mem_eraseFirst]
    constructor
    · rintro ⟨other, ⟨inside, different⟩, rfl⟩
      exact ⟨⟨other, inside, rfl⟩, different⟩
    · rintro ⟨⟨other, inside, rfl⟩, different⟩
      exact ⟨other, ⟨inside, different⟩, rfl⟩
  · intro id held
    rw [State.toFields_withFields, Fields.withoutTimer, TimeoutQueue.idsOf_erase] at held
    obtain ⟨armed, other⟩ := List.mem_filter.mp held
    exact ⟨armed, of_decide_eq_true other⟩
  · intro timer inside bound
    have apart := sound.given
    rw [giving] at apart
    exact apart request rfl timer inside

/-- A callback of the batch is begun. -/
theorem sound_calling (quiet : Quiet env) (sound : Sound threads) {timer : Timer TimerCallback}
    {batch : List (Timer TimerCallback)} (calling : threads.timer = .calling (timer :: batch))
    (lucky : threads.timerNeedsMutex = true → threads.user.call ≠ some timer.id)
    (free : threads.timerNeedsMutex = true → threads.mutexFree = true)
    {statement : Action τ κ (TimerThread κ)}
    (next : timerStatement env threads.timer = some statement) :
    Sound (threads.timerDoes statement) := by
  have left : batch.Sublist threads.timer.batch := by
    rw [calling]
    exact List.sublist_cons_self _ _
  have same : Mild threads.manager.toFields threads.manager.toFields := .refl _
  rw [calling] at next
  simp only [timerStatement] at next
  have report (type : TimeoutType) : Sound (threads.timerDoes do
      reportTimeout env type
      return .calling batch) := by
    obtain ⟨manager, returned, fields⟩ := reportTimeout_returns env quiet type threads.manager
    have whole : (do
        reportTimeout env type
        return .calling batch : Action τ κ (TimerThread κ)) threads.manager =
          .ok (.calling batch) manager := by
      rw [bind_apply, returned]
      rfl
    refine sound.timerDoes _ _ whole ?_ rfl left rfl fun absurdity => by contradiction
    rw [fields]
    exact same
  cases bound : timer.callback with
  | cmdTimeoutCb =>
    rw [bound] at next
    cases next
    have needs : threads.timerNeedsMutex = true := by
      unfold Threads.timerNeedsMutex
      rw [calling]
      exact decide_eq_true bound
    have open' := free needs
    exact sound_lookUp sound calling bound (lucky needs)
      ((Threads.mutexFree_iff _).mp open').2
  | dipTimeoutCb =>
    rw [bound] at next
    cases next
    exact report .dipTimeout
  | kaTimeoutCb =>
    rw [bound] at next
    cases next
    exact report .kaTimeout
  | kaMngtTimeoutCb =>
    rw [bound] at next
    cases next
    by_cases opened : threads.manager.isOpen env = true
    · refine sound.timerDoes (.keepaliveWrite batch) threads.manager ?_ same
        rfl left rfl fun absurdity => by contradiction
      rw [bind_apply, get_apply]
      simp only [opened, if_true, pure_apply]
    · refine sound.timerDoes (.keepaliveArm batch) threads.manager ?_ same
        rfl left rfl fun absurdity => by contradiction
      rw [bind_apply, get_apply]
      simp only [opened]
      rfl

/-- The timers left to call are among those that were. -/
theorem sublist_batch {timer : TimerThread κ} (position : threads.timer = timer) :
    timer.batch.Sublist threads.timer.batch := by
  rw [position]

/-- A keepalive is made and written. -/
theorem sound_keepaliveWrite (sound : Sound threads) {batch : List (Timer TimerCallback)}
    (position : threads.timer = .keepaliveWrite batch)
    (taken : ∀ message ∈ threads.timer.writes env threads.manager,
      Accepts env threads.manager message) :
    Sound (threads.timerDoes do
      let packetId ← nextPacketId
      let keepalive ← made (Packet.makeKeepalive env.raw packetId)
      write env ⟨keepalive, none⟩
      return .keepaliveArm batch) := by
  have left : batch.Sublist threads.timer.batch := sublist_batch position
  obtain ⟨keepalive, making⟩ := makeKeepalive_ok env.raw (threads.manager.packetId + 1)
  have accepted : Accepts env threads.manager ⟨keepalive, none⟩ := by
    apply taken
    rw [position, TimerThread.writes, making]
    rfl
  have counted : Mild threads.manager.toFields
      (threads.manager.withFields threads.manager.withNextId).toFields :=
    ⟨rfl, fun _ held => held, Nat.le_refl _⟩
  have written := (write_eq_ok_iff env ⟨keepalive, none⟩
    (threads.manager.withFields threads.manager.withNextId) _ ()).mpr
      ⟨(accepts_withFields env _ _ _).mpr accepted, rfl⟩
  refine sound.timerDoes (.keepaliveArm batch)
    ((threads.manager.withFields threads.manager.withNextId).sent env ⟨keepalive, none⟩) ?_ ?_
    rfl left rfl fun absurdity => by contradiction
  · rw [bind_apply, nextPacketId_apply]
    dsimp only
    rw [bind_apply, (made_eq_ok_iff _ keepalive _ _).mpr ⟨making, rfl⟩]
    dsimp only
    unfold State.withFields at written ⊢
    rw [bind_apply, written]
    rfl
  · rw [State.toFields_sent]
    exact counted

/-- The next statement of the timer thread. -/
theorem sound_timerStatement (quiet : Quiet env) (sound : Sound threads)
    (lucky : Lucky env threads .timer)
    (free : threads.timerNeedsMutex = true → threads.mutexFree = true)
    {statement : Action τ κ (TimerThread κ)}
    (next : timerStatement env threads.timer = some statement) :
    Sound (threads.timerDoes statement) := by
  obtain ⟨apart, taken⟩ := lucky
  have same : Mild threads.manager.toFields threads.manager.toFields := .refl _
  cases position : threads.timer with
  | idle =>
    rw [position] at next
    contradiction
  | escaped error =>
    rw [position] at next
    contradiction
  | calling batch =>
    cases batch with
    | nil =>
      rw [position] at next
      cases next
      exact sound.timerDoes _ _ rfl same rfl (List.nil_sublist _) rfl fun absurdity => by
        contradiction
    | cons timer batch =>
      refine sound_calling quiet sound position ?_ free next
      exact apart timer (by rw [position]; rfl)
  | retryTest request batch =>
    have left : batch.Sublist threads.timer.batch := sublist_batch position
    have owner := sound.exclusive (by rw [position]; rfl)
    rw [position] at next
    cases next
    by_cases opened : threads.manager.isOpen env = true
    · refine sound.timerDoes (.retryWrite request batch) threads.manager ?_
        same rfl left rfl fun _ => owner
      rw [bind_apply, get_apply]
      simp only [opened, if_true, pure_apply]
    · refine sound.timerDoes (.retryReset batch) threads.manager ?_
        same rfl left rfl fun _ => owner
      rw [bind_apply, get_apply]
      simp only [opened]
      rfl
  | retryWrite request batch =>
    have left : batch.Sublist threads.timer.batch := sublist_batch position
    have owner := sound.exclusive (by rw [position]; rfl)
    have accepted := taken ⟨request.command, some request.id⟩ (by rw [position]; rfl)
    have written :=
      (write_eq_ok_iff env ⟨request.command, some request.id⟩ threads.manager _ ()).mpr
      ⟨accepted, rfl⟩
    rw [position] at next
    cases next
    refine sound.timerDoes (.retryReset batch)
      (threads.manager.sent env ⟨request.command, some request.id⟩) ?_ ?_ rfl left rfl
      fun _ => owner
    · rw [bind_apply, written]
      rfl
    · rw [State.toFields_sent]
      exact same
  | retryReset batch =>
    have left : batch.Sublist threads.timer.batch := sublist_batch position
    rw [position] at next
    cases next
    refine sound.timerDoes (.calling batch)
      (threads.manager.withFields threads.manager.refreshed) ?_ ?_ rfl left rfl
      fun absurdity => by contradiction
    · rw [bind_apply, resetKeepaliveMngt_apply]
      rfl
    · exact .refreshed _
  | givingUp request batch =>
    have giving := position
    rw [position] at next
    cases next
    exact sound_giveUp quiet sound giving
  | keepaliveWrite batch =>
    have writing := position
    rw [position] at next
    cases next
    exact sound_keepaliveWrite sound writing taken
  | keepaliveArm batch =>
    have left : batch.Sublist threads.timer.batch := sublist_batch position
    rw [position] at next
    cases next
    refine sound.timerDoes (.calling batch) _ rfl ?_ rfl left rfl
      fun absurdity => by contradiction
    have armed := Mild.arm threads.manager.toFields
      (threads.manager.now + threads.manager.timeoutKeepalive) none .kaTimeoutCb (by decide)
    exact ⟨armed.keys, armed.commands, armed.nextId⟩

end Timer

/-! ## The other threads -/

section Others

variable {env : Environment τ κ} {threads : Threads τ κ}

/-- The manager is started. -/
theorem sound_start (sound : Sound threads) (protocol : threads.protocol = .idle)
    (timer : threads.timer = .idle) :
    Sound { threads with manager := after (start threads.manager) } := by
  by_cases running : threads.manager.running = true
  · rw [start_running threads.manager running, after_ok]
    exact sound
  · rw [start_apply threads.manager (Bool.eq_false_iff.mpr running), after_ok]
    refine ⟨sound.calm, sound.nodup, ?_, sound.given, ?_, sound.exclusive, ?_, ?_, ?_, sound.called⟩
    · rw [timer]
      intro other absurdity
      contradiction
    · intro id absurdity
      contradiction
    · rw [protocol]
      intro request absurdity
      contradiction
    · rw [protocol]
      intro request absurdity
      contradiction
    · intro key absurdity
      contradiction

/-- The timer thread takes a batch. -/
theorem sound_take (sound : Sound threads) (batch : List (Timer TimerCallback))
    (expired : batch.Perm (threads.manager.timeoutQueue.expired threads.manager.now)) :
    Sound (threads.timerDoes do
      takeBatch
      return .calling batch) := by
  have moved := sound.withManager (threads.manager.withFields threads.manager.ticked) (.ticked _)
  have distinct : (batch.map Timer.id).Nodup :=
    (expired.map Timer.id).nodup_iff.mpr (TimeoutQueue.nodup_expired _ _)
  have backed : ∀ timer ∈ batch, timer.callback = .cmdTimeoutCb →
      Threads.Backed { threads with
        manager := threads.manager.withFields threads.manager.ticked } timer.id := by
    intro timer inside bound
    have armed := ((TimeoutQueue.mem_expired _ _ _).mp (expired.subset inside)).1
    exact sound.armed timer.id ((TimeoutQueue.mem_idsOf _ _ _).mpr ⟨timer, armed, bound, rfl⟩)
  exact ⟨rfl, distinct, backed, fun request absurdity => by contradiction, moved.armed,
    fun absurdity => by contradiction, moved.held, moved.disarmed, moved.issued, moved.called⟩

/-- The protocol thread finds the request of an ack, or throws and is back in its loop. -/
theorem sound_ackLookUp (quiet : Quiet env) (sound : Sound threads) (packet : Packet)
    (free : threads.mutexFree = true) :
    Sound (threads.protocolDoes (ackLookUp env packet)) := by
  rw [Threads.mutexFree_iff] at free
  have back : Sound { threads with protocol := .idle } :=
    sound.withProtocol (fun _ => rfl) (fun request absurdity => by contradiction)
      (fun request absurdity => by contradiction)
  unfold Threads.protocolDoes ackLookUp
  cases named : ackedId packet with
  | error error => exact back
  | ok id =>
    dsimp only
    rw [bind_apply, get_apply]
    dsimp only
    cases search : threads.manager.requests.findSecond id with
    | none => exact back
    | some found =>
      dsimp only
      have returned := (callCallback_eq_ok_iff env
        { found with status := .fulfilled, ack := some packet } threads.manager _ ()).mpr
          ⟨quiet.invoke _ _, rfl⟩
      have called := sound.withManager
        (threads.manager.reported { found with status := .fulfilled, ack := some packet })
        (.refl _)
      have moved : Sound { threads with
          manager :=
            threads.manager.reported { found with status := .fulfilled, ack := some packet }
          protocol := .fulfilled found } := by
        refine called.withProtocol ?_ ?_ ?_
        · intro owner
          rw [free.1] at owner
          contradiction
        · intro request chosen
          obtain rfl := Option.some.inj chosen
          obtain ⟨inside, -⟩ := (TwoIndex.findSecond_eq_some_iff _ _ _).mp search
          exact (Fields.mem_keys _ _).mpr ⟨found, inside, rfl⟩
        · intro request absurdity
          contradiction
      rw [bind_apply, returned]
      exact moved

/-- The protocol thread goes on in `ack_command`. -/
theorem sound_protocolStatement (sound : Sound threads) (lucky : Lucky env threads .ack)
    {statement : Action τ κ (ProtocolThread κ)}
    (next : protocolStatement threads.protocol = some statement) :
    Sound (threads.protocolDoes statement) := by
  cases position : threads.protocol with
  | idle =>
    rw [position] at next
    contradiction
  | fulfilled request =>
    have here := sound.held request (by rw [position]; rfl)
    have mild := Mild.withoutTimer threads.manager.toFields (some request.id)
    have moved := sound.withManager
      (threads.manager.withFields (threads.manager.withoutTimer (some request.id))) mild
    have owner : threads.protocol.holdsMutex = true := by
      rw [position]
      rfl
    rw [position] at next
    cases next
    unfold Threads.protocolDoes
    rw [bind_apply, eraseTimer_apply]
    refine moved.withProtocol ?_ ?_ ?_
    · intro other
      have free := sound.exclusive other
      rw [owner] at free
      contradiction
    · intro chosen present
      obtain rfl := Option.some.inj present
      exact here
    · intro chosen present held
      obtain rfl := Option.some.inj present
      rw [State.toFields_withFields, Fields.withoutTimer, TimeoutQueue.idsOf_erase] at held
      exact of_decide_eq_true (List.mem_filter.mp held).2 rfl
  | disarmed request =>
    have here := sound.held request (by rw [position]; rfl)
    have gone := sound.disarmed request (by rw [position]; rfl)
    have apart : ∀ timer ∈ threads.timer.batch, timer.callback = .cmdTimeoutCb →
        timer.id ≠ request.id := lucky request (by rw [position]; rfl)
    rw [position] at next
    cases next
    have back : Sound { threads with protocol := .idle } :=
      sound.withProtocol (fun _ => rfl) (fun request absurdity => by contradiction)
        (fun request absurdity => by contradiction)
    unfold Threads.protocolDoes
    rw [bind_apply, modify_apply]
    refine back.withoutRequest request.id ?_ ?_ rfl apart rfl
    · intro key
      simp only [Fields.mem_keys, TwoIndex.mem_eraseSecond]
      constructor
      · rintro ⟨other, ⟨inside, different⟩, rfl⟩
        refine ⟨⟨other, inside, rfl⟩, ?_⟩
        intro same
        obtain ⟨entry, entryIn, equal⟩ := (Fields.mem_keys _ _).mp here
        obtain rfl := TwoIndex.eq_of_first inside entryIn
          (same.trans (congrArg Prod.fst equal).symm)
        exact different (congrArg Prod.snd equal)
      · rintro ⟨⟨other, inside, rfl⟩, different⟩
        refine ⟨other, ⟨inside, ?_⟩, rfl⟩
        intro same
        exact different (Fields.keys_unique ((Fields.mem_keys _ _).mpr ⟨other, inside, rfl⟩) here
          same)
    · intro id held
      refine ⟨held, ?_⟩
      rintro rfl
      exact gone held

/-- The user thread begins `send_command`: a retry timer is armed. -/
theorem sound_sendCommand (sound : Sound threads) (idle : threads.user = .idle)
    {next : Threads τ κ} {type : UInt16} {data : Bytes} {cb : κ} {timeout : Nat}
    (moved : (threads.userDoes do
      let id ← addRepeatingTimer (timeout / timeBaseMs) .cmdTimeoutCb
      return .armed id type data cb) = some next) : Sound next := by
  unfold Threads.userDoes at moved
  rw [bind_apply, addRepeatingTimer_apply] at moved
  cases moved
  have free : threads.user.call = none := by
    rw [idle]
    rfl
  have known : ∀ id, threads.Backed id → ∃ key ∈ threads.manager.keys, key.1 = id := by
    intro id backed
    refine backed.resolve_right ?_
    rw [free]
    intro absurdity
    contradiction
  have armed := TimeoutQueue.idsOf_addRepeating threads.manager.timeoutQueue threads.manager.now
    (timeout / timeBaseMs) .cmdTimeoutCb .cmdTimeoutCb
  rw [if_pos rfl] at armed
  refine ⟨sound.calm, sound.nodup, ?_, sound.given, ?_, sound.exclusive, sound.held, ?_, ?_, ?_⟩
  · exact fun timer inside bound => .inl (known _ (sound.batch timer inside bound))
  · intro id held
    rw [armed] at held
    rcases List.mem_cons.mp held with rfl | old
    · exact .inr rfl
    · exact .inl (known id (sound.armed id old))
  · intro request present held
    rw [armed] at held
    have issued := sound.issued _ (sound.held request ?_)
    · rcases List.mem_cons.mp held with same | old
      · exact absurd same (Nat.ne_of_lt issued)
      · exact sound.disarmed request present old
    · change request ∈ threads.protocol.removes at present
      cases position : threads.protocol with
      | idle =>
        rw [position] at present
        contradiction
      | fulfilled chosen =>
        rw [position] at present
        contradiction
      | disarmed chosen =>
        rw [position] at present
        exact present
  · exact fun key inside => Nat.lt_succ_of_lt (sound.issued key inside)
  · intro id present
    obtain rfl := Option.some.inj present
    exact Nat.lt_succ_self _

/-- A request is inserted, and backs what its call backed. -/
theorem sound_inserted (sound : Sound threads) {id : Nat} {cmd : Packet} {cb : κ}
    (sending : threads.user = .written id cmd cb) {requests : RequestSet κ}
    (room : threads.manager.requests.insert { id := id, command := cmd, cb := cb } =
      some requests) :
    Sound { threads with
      manager := { threads.manager with requests := requests }, user := .idle } := by
  have issued := sound.called id (by rw [sending]; rfl)
  obtain ⟨-, -, entries⟩ := (TwoIndex.insert_eq_some_iff _ _ _).mp room
  have keys : Fields.keys { threads.manager.toFields with requests := requests } =
      (id, cmd.id) :: threads.manager.keys := congrArg (List.map _) entries
  have backed : ∀ held, threads.Backed held →
      ∃ key ∈ Fields.keys { threads.manager.toFields with requests := requests },
        key.1 = held := by
    intro held backed
    rw [keys]
    rcases backed with ⟨key, inside, rfl⟩ | call
    · exact ⟨key, List.mem_cons_of_mem _ inside, rfl⟩
    · rw [sending] at call
      obtain rfl := Option.some.inj call
      exact ⟨(id, cmd.id), List.mem_cons_self, rfl⟩
  refine ⟨sound.calm, sound.nodup, ?_, sound.given, ?_, sound.exclusive, ?_, sound.disarmed,
    ?_, fun call absurdity => by contradiction⟩
  · exact fun timer inside bound => .inl (backed _ (sound.batch timer inside bound))
  · exact fun held armed => .inl (backed held (sound.armed held armed))
  · intro request present
    refine keys ▸ List.mem_cons_of_mem _ (sound.held request present)
  · intro key inside
    change key ∈ Fields.keys { threads.manager.toFields with requests := requests } at inside
    rw [keys] at inside
    rcases List.mem_cons.mp inside with rfl | old
    · exact issued
    · exact sound.issued key old

/-- The user thread goes on in `send_command`. -/
theorem sound_userStatement (sound : Sound threads) {statement : Action τ κ (UserThread κ)}
    (position : userStatement env threads.user = some statement) {next : Threads τ κ}
    (moved : threads.userDoes statement = some next) : Sound next := by
  have mildly (user : UserThread κ) (manager : State τ κ)
      (same : user.call = threads.user.call)
      (mild : Mild threads.manager.toFields manager.toFields) :
      Sound { threads with manager := manager, user := user } :=
    (sound.withManager _ mild).withUser same
  unfold Threads.userDoes at moved
  cases outcome : statement threads.manager with
  | error error manager =>
    rw [outcome] at moved
    contradiction
  | ok user manager =>
    rw [outcome] at moved
    cases moved
    cases sending : threads.user with
    | idle =>
      rw [sending] at position
      contradiction
    | armed id type data cb =>
      rw [sending] at position
      cases position
      rw [bind_apply, resetKeepaliveMngt_apply] at outcome
      cases outcome
      refine mildly _ _ ?_ (.refreshed _)
      rw [sending]
      rfl
    | refreshed id type data cb =>
      rw [sending] at position
      cases position
      rw [bind_apply, nextPacketId_apply] at outcome
      dsimp only at outcome
      rw [bind_eq_ok_iff] at outcome
      obtain ⟨cmd, middle, making, last⟩ := outcome
      obtain ⟨-, rfl⟩ := (made_eq_ok_iff _ _ _ _).mp making
      cases last
      refine mildly _ _ ?_ ⟨rfl, fun _ held => held, Nat.le_refl _⟩
      rw [sending]
      rfl
    | made id cmd cb =>
      rw [sending] at position
      cases position
      rw [bind_eq_ok_iff] at outcome
      obtain ⟨_, middle, written, last⟩ := outcome
      obtain ⟨-, rfl⟩ := (write_eq_ok_iff _ _ _ _ _).mp written
      cases last
      refine mildly _ _ ?_ ?_
      · rw [sending]
        rfl
      · rw [State.toFields_sent]
        exact .refl _
    | written id cmd cb =>
      have writing := sending
      rw [sending] at position
      cases position
      rw [bind_eq_ok_iff] at outcome
      obtain ⟨_, middle, inserted, last⟩ := outcome
      obtain ⟨requests, room, rfl⟩ := (insertRequest_eq_ok_iff _ _ _ _).mp inserted
      cases last
      exact sound_inserted sound writing room

end Others

/-! ## Runs -/

/-- One move. -/
theorem sound_step {env : Environment τ κ} (quiet : Quiet env) (threads : Threads τ κ)
    (move : Move τ κ) (next : Threads τ κ) (sound : Sound threads)
    (taken : Guarded (Lucky env) (Steps (Threads.step env)) threads move next) : Sound next := by
  obtain ⟨lucky, moved⟩ := taken
  unfold Steps at moved
  cases move with
  | start =>
    simp only [Threads.step] at moved
    split at moved
    · next protocol timer =>
      cases moved
      exact sound_start sound protocol timer
    · contradiction
  | take batch =>
    simp only [Threads.step] at moved
    split at moved
    · split at moved
      · next enabled =>
        cases moved
        exact sound_take sound batch enabled.2
      · contradiction
    · contradiction
  | timer =>
    simp only [Threads.step] at moved
    split at moved
    · contradiction
    · next free =>
      obtain ⟨statement, position, rfl⟩ := Option.map_eq_some_iff.mp moved
      refine sound_timerStatement quiet sound lucky ?_ position
      intro needs
      by_contra blocked
      exact free ⟨needs, blocked⟩
  | ackCommand packet =>
    simp only [Threads.step] at moved
    split at moved
    · split at moved
      · next free =>
        cases moved
        exact sound_ackLookUp quiet sound packet free
      · contradiction
    · contradiction
  | ack =>
    obtain ⟨statement, position, rfl⟩ := Option.map_eq_some_iff.mp moved
    exact sound_protocolStatement sound lucky position
  | protocol event =>
    simp only [Threads.step] at moved
    split at moved
    · split at moved
      · next other =>
        cases moved
        exact sound.withManager _ (perform_mild env _ event other threads.manager (.refl _))
      · contradiction
    · contradiction
  | sendCommand type data cb timeout =>
    simp only [Threads.step] at moved
    split at moved
    · next idle => exact sound_sendCommand sound idle moved
    · contradiction
  | send =>
    simp only [Threads.step] at moved
    split at moved
    · contradiction
    · obtain ⟨statement, position, done⟩ := Option.bind_eq_some_iff.mp moved
      exact sound_userStatement sound position done
  | transport transport =>
    cases moved
    exact sound.withManager _ (.refl _)

/-- In every run of a manager and its threads, through any number of starts and stops and without
the three moves that go wrong, no exception leaves the timer thread. -/
theorem timerThread_survives (env : Environment τ κ) (quiet : Quiet env) (transport : τ)
    (moves : List (Move τ κ)) (finish : Threads τ κ)
    (run : Run (Guarded (Lucky env) (Steps (Threads.step env)))
      (Threads.atRest (State.initial transport)) moves finish) :
    finish.timer.escapedWith = none :=
  (run.invariant (sound_step quiet) (sound_initial transport)).calm

/-- A transport that is open or closed, and refuses packets while closed. -/
def doorEnvironment : Environment Bool Unit where
  attached := true
  isOpen := id
  write := fun isOpen _ => (if isOpen then none else some (.transport .writeWhileClosed), isOpen)
  invoke := fun _ _ => none
  timeoutCb := some fun _ => none
  raw := quietEnvironment.raw

/-- It raises nothing else. -/
theorem quiet_doorEnvironment : Quiet doorEnvironment where
  invoke := fun _ _ => rfl
  timeoutCb := by
    intro timeoutCb present type
    obtain rfl := Option.some.inj present
    rfl

instance (env : Environment τ κ) (threads : Threads τ κ) (move : Move τ κ) :
    Decidable (Lucky env threads move) :=
  match move with
  | .ack => inferInstanceAs (Decidable (∀ request ∈ threads.protocol.removes,
      ∀ timer ∈ threads.timer.batch, timer.callback = .cmdTimeoutCb → timer.id ≠ request.id))
  | .timer => inferInstanceAs (Decidable ((∀ timer ∈ threads.timer.batch.head?,
      threads.timerNeedsMutex = true → threads.user.call ≠ some timer.id) ∧
    ∀ message ∈ threads.timer.writes env threads.manager,
      env.attached = true → (env.write threads.manager.transport message).1 = none))
  | .start => isTrue trivial
  | .take _ => isTrue trivial
  | .ackCommand _ => isTrue trivial
  | .protocol _ => isTrue trivial
  | .sendCommand _ _ _ _ => isTrue trivial
  | .send => isTrue trivial
  | .transport _ => isTrue trivial

/-- Keepalives are begun and a command is sent. When the timers of both expire, the command is
retried and the keepalive taken in the same batch is sent too. The transport closes before the
second retry, and the command is acknowledged after it. -/
def retried : List (Move Bool Unit) :=
  [.start, .protocol (.startKeepaliveManagement keepaliveInterval keepaliveTimeout),
      .sendCommand 1 [0] () commandTimeout, .send, .send, .send, .send] ++
    (List.replicate 10 [.take [], .timer]).flatten ++
    [.take [⟨2, 10, some 10, .cmdTimeoutCb⟩, ⟨3, 10, some 10, .kaMngtTimeoutCb⟩]] ++
    List.replicate 8 .timer ++ (List.replicate 9 [.take [], .timer]).flatten ++
    [.transport false, .take [⟨2, 20, some 10, .cmdTimeoutCb⟩], .timer, .timer, .timer, .timer,
      .ackCommand ((Packet.makeCmdAck .cleared 1 1 2).toOption.getD .cleared), .ack, .ack]

/-- The callbacks write the command and a keepalive and do without a closed transport; none of them
throws, and the ack finds its request. -/
theorem timerThread_survives_retried :
    ∃ finish, Run (Guarded (Lucky doorEnvironment) (Steps (Threads.step doorEnvironment)))
        (Threads.atRest (State.initial true)) retried finish ∧
      finish.manager.outputs.length = 5 ∧ finish.manager.requests.entries = [] ∧
      finish.timer.escapedWith = none := by
  have executed : ((execute (fun threads move =>
      if Lucky doorEnvironment threads move then Threads.step doorEnvironment threads move
      else none) (Threads.atRest (State.initial true)) retried).any fun threads =>
          decide (threads.manager.outputs.length = 5) &&
            threads.manager.requests.entries.isEmpty) = true := by
    decide +kernel
  obtain ⟨finish, reached, ended⟩ := (Option.any_eq_true _ _).mp executed
  have run := run_of_execute_guarded _ _ _ _ _ reached
  obtain ⟨given, empty⟩ := (Bool.and_eq_true _ _).mp ended
  exact ⟨finish, run, of_decide_eq_true given, List.isEmpty_iff.mp empty,
    timerThread_survives doorEnvironment quiet_doorEnvironment true _ _ run⟩

/-- A command is sent; at its first expiry the ack is processed after the batch is taken and before
the callback runs. -/
def lateAck : List (Move Bool Unit) :=
  [.start, .sendCommand 1 [0] () commandTimeout, .send, .send, .send, .send] ++
    (List.replicate 10 [.take [], .timer]).flatten ++
    [.take [⟨0, 10, some 10, .cmdTimeoutCb⟩],
      .ackCommand firstAck, .ack, .ack, .timer]

/-- The retry timer's callback finds no request, and its exception ends the timer thread. -/
theorem lateAck_escapes :
    ∃ finish, Run (Steps (Threads.step doorEnvironment)) (Threads.atRest (State.initial true))
        lateAck finish ∧
      finish.timer.escapedWith = some unknownRequest := by
  have reached : (execute (Threads.step doorEnvironment) (Threads.atRest (State.initial true))
      lateAck).map (fun threads => threads.timer.escapedWith) = some (some unknownRequest) := by
    decide +kernel
  obtain ⟨finish, executed, escaped⟩ := Option.map_eq_some_iff.mp reached
  exact ⟨finish, (execute_eq_some_iff _ _ _ _).mp executed, escaped⟩

end Hdcp.Master
