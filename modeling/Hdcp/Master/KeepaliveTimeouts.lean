import Hdcp.Master.KeepaliveTimers
import Hdcp.Master.Lifecycle

/-!
# Keepalive timeouts of the master

Seen from its outstanding keepalives the manager is a set of instants: a keepalive sent adds the
current one, an ack empties the set, and a tick reports a timeout when the instant thirty ticks
before it is in the set. The timers armed are those of the instants not yet thirty ticks old, all of
them held in `ka_ids_`, so that one ack erases every one; identifiers of timers that already expired
stay there and name nothing.
-/

namespace Hdcp.Master

open Base

variable {τ κ : Type}

/-! ## What is observed -/

/-- A keepalive timeout is armed in the course of the event. -/
def Arms : Event τ κ → Prop
  | .startKeepaliveManagement _ _ => True
  | .runOnce batch => ∃ timer ∈ batch, timer.callback = .kaMngtTimeoutCb
  | _ => False

/-- Among events that begin at an instant, a keepalive timeout was armed while `now_` had a value,
and no ack was processed after it. -/
def ArmedSince (start : Nat) (events : List (Event τ κ)) (value : Nat) : Prop :=
  ∃ before event rest, events = before ++ event :: rest ∧ Arms event ∧
    value = start + ticks (before ++ [event]) ∧ Event.ackKeepalive ∉ rest

/-- A timeout is reported between two states. -/
def Calls (state next : State τ κ) (type : TimeoutType) : Prop :=
  ∃ more, next.outputs = state.outputs ++ more ∧ .timedOut type ∈ more

/-- Something given out is the report of a keepalive timeout. -/
def isKaTimeout : Output κ → Bool
  | .timedOut .kaTimeout => true
  | _ => false

/-- Where no keepalive timeout was ever reported, none was in between. -/
theorem not_calls_of_silent {state next : State τ κ}
    (silent : next.outputs.any isKaTimeout = false) : ¬ Calls state next .kaTimeout := by
  rintro ⟨more, grown, reported⟩
  have told : isKaTimeout (.timedOut .kaTimeout : Output κ) = true := rfl
  have some := List.any_eq_true.mpr ⟨_, List.mem_append_right state.outputs reported, told⟩
  rw [← grown, silent] at some
  exact Bool.false_ne_true some

/-- An operation of one session: it returns, and does not start the manager anew. -/
def Continues (env : Environment τ κ) (state : State τ κ) (event : Event τ κ) : Prop :=
  Returns env state event ∧ (event = .start → state.running = true)

/-- The ticks of one event and of others. -/
theorem ticks_cons (event : Event τ κ) (events : List (Event τ κ)) :
    ticks (event :: events) = ticks [event] + ticks events :=
  @List.countP_append _ isTick [event] events

/-- One event, and then others. -/
theorem armedSince_cons (start : Nat) (event : Event τ κ) (events : List (Event τ κ))
    (value : Nat) :
    ArmedSince start (event :: events) value ↔
      (Arms event ∧ value = start + ticks [event] ∧ Event.ackKeepalive ∉ events) ∨
        ArmedSince (start + ticks [event]) events value := by
  constructor
  · rintro ⟨before, other, rest, split, arms, instant, unacked⟩
    cases before with
    | nil =>
      obtain ⟨rfl, rfl⟩ := List.cons.inj split
      exact .inl ⟨arms, instant, unacked⟩
    | cons first before =>
      obtain ⟨rfl, rfl⟩ := List.cons.inj split
      refine .inr ⟨before, other, rest, rfl, arms, ?_, unacked⟩
      rw [instant, List.cons_append, ticks_cons, Nat.add_assoc]
  · rintro (⟨arms, instant, unacked⟩ | ⟨before, other, rest, rfl, arms, instant, unacked⟩)
    · exact ⟨[], event, events, rfl, arms, instant, unacked⟩
    · refine ⟨event :: before, other, rest, rfl, arms, ?_, unacked⟩
      rw [instant, List.cons_append, ticks_cons event (before ++ [other]), Nat.add_assoc]

/-- No instant before the last ack. -/
theorem ArmedSince.acked {start : Nat} {front back : List (Event τ κ)} {value : Nat}
    (since : ArmedSince start (front ++ .ackKeepalive :: back) value) :
    start + ticks front ≤ value := by
  induction front generalizing start with
  | nil =>
    obtain ⟨before, event, rest, -, -, rfl, -⟩ := since
    exact Nat.le_add_right _ _
  | cons event front ih =>
    rw [List.cons_append, armedSince_cons] at since
    rcases since with ⟨-, -, unacked⟩ | later
    · exact absurd (List.mem_append_right _ List.mem_cons_self) unacked
    · rw [ticks_cons, ← Nat.add_assoc]
      exact ih later

/-! ## The invariant -/

/-- The timers armed are those of the instants at which a keepalive was sent that is neither
acknowledged nor overdue. -/
structure Watched (delay : Nat) (begun : Prop) (armed : Nat → Prop) (fields : Fields κ) : Prop where
  /-- What identifiers are held for. -/
  assigned : Assigned fields
  /-- Every timer is that of an instant; it is not overdue, and an ack erases it. -/
  sound : ∀ timer ∈ fields.awaited, timer.repeatInterval = none ∧ timer.id ∈ fields.kaIds ∧
    fields.now ≤ timer.expiration ∧ ∃ value, armed value ∧ timer.expiration = value + delay
  /-- Every instant that is not overdue has its timer. -/
  complete : ∀ value, armed value → fields.now ≤ value + delay →
    ∃ timer ∈ fields.awaited, timer.expiration = value + delay
  /-- The delay is set once keepalives are managed. -/
  timed : begun → fields.timeoutKeepalive = delay
  /-- Before, nothing is about keepalives. -/
  idle : ¬ begun → fields.keepaliveMngt = false ∧ fields.sending = [] ∧ ∀ value, ¬ armed value

namespace Watched

variable {delay : Nat} {begun : Prop} {armed : Nat → Prop} {fields next : Fields κ}

/-- Instants are a set. -/
theorem congr (watched : Watched delay begun armed fields) {other : Nat → Prop}
    (same : ∀ value, armed value ↔ other value) : Watched delay begun other fields := by
  have equal : armed = other := funext fun value => propext (same value)
  rw [← equal]
  exact watched

/-- Whether keepalives came to be managed may be said otherwise. -/
theorem recast (watched : Watched delay begun armed fields) {other : Prop}
    (same : begun ↔ other) : Watched delay other armed fields := by
  rw [← propext same]
  exact watched

/-- What leaves the timers that await an ack leaves the instants. -/
theorem aside (watched : Watched delay begun armed fields) (alone : SameAwaited fields next)
    (idle : fields.keepaliveMngt = false → fields.sending = [] →
      next.keepaliveMngt = false ∧ next.sending = []) : Watched delay begun armed next where
  assigned := alone.assigned
  sound := by
    rw [alone.awaited, alone.kaIds, alone.now]
    exact watched.sound
  complete := by
    rw [alone.awaited, alone.now]
    exact watched.complete
  timed := by
    rw [alone.delay]
    exact watched.timed
  idle := by
    intro early
    obtain ⟨unmanaged, none, unarmed⟩ := watched.idle early
    obtain ⟨unmanaged', none'⟩ := idle unmanaged none
    exact ⟨unmanaged', none', unarmed⟩

/-- Before keepalives are managed no timer awaits an ack. -/
theorem awaited_eq_nil (watched : Watched delay begun armed fields) (early : ¬ begun) :
    fields.awaited = [] := by
  apply List.eq_nil_iff_forall_not_mem.mpr
  intro timer inside
  obtain ⟨-, -, -, value, standing, -⟩ := watched.sound timer inside
  exact (watched.idle early).2.2 value standing

/-- A timer is armed at the current instant. -/
theorem arm (watched : Watched delay begun armed fields) (begins : begun)
    {timer : Timer TimerCallback}
    (assigned : Assigned next) (awaited : next.awaited = timer :: fields.awaited)
    (held : next.kaIds = fields.kaIds ++ [timer.id]) (now : next.now = fields.now)
    (same : next.timeoutKeepalive = fields.timeoutKeepalive) (single : timer.repeatInterval = none)
    (expires : timer.expiration = fields.now + delay) :
    Watched delay begun (fun value => armed value ∨ value = fields.now) next where
  assigned := assigned
  sound := by
    rw [awaited, held, now]
    intro other inside
    rcases List.mem_cons.mp inside with rfl | old
    · refine ⟨single, List.mem_append.mpr (.inr (List.mem_singleton_self _)), ?_, fields.now,
        .inr rfl, expires⟩
      rw [expires]
      exact Nat.le_add_right _ _
    · obtain ⟨once, known, ahead, value, standing, instant⟩ := watched.sound other old
      exact ⟨once, List.mem_append.mpr (.inl known), ahead, value, .inl standing, instant⟩
  complete := by
    rw [awaited, now]
    rintro value (standing | rfl) ahead
    · obtain ⟨other, inside, instant⟩ := watched.complete value standing ahead
      exact ⟨other, List.mem_cons_of_mem _ inside, instant⟩
    · exact ⟨timer, List.mem_cons_self, expires⟩
  timed := by
    intro _
    rw [same]
    exact watched.timed begins
  idle := fun early => absurd begins early

/-- A tick leaves the instants. -/
theorem ticked (watched : Watched delay begun armed fields) :
    Watched delay begun armed fields.ticked := by
  have awaited : fields.ticked.awaited = fields.awaited.filterMap (Timer.advance fields.now) :=
    TimeoutQueue.timersOf_advance _ _ _
  refine ⟨watched.assigned.ticked, ?_, ?_, watched.timed, ?_⟩
  · rw [awaited]
    intro timer inside
    obtain ⟨old, armedBefore, kept⟩ := List.mem_filterMap.mp inside
    obtain ⟨single, known, ahead, value, standing, instant⟩ := watched.sound old armedBefore
    -- a timer that expires once and survives the tick was not expired
    unfold Timer.advance at kept
    rw [single, Option.map_none] at kept
    split at kept
    · contradiction
    · obtain rfl := Option.some.inj kept
      refine ⟨single, known, ?_, value, standing, instant⟩
      change fields.now + 1 ≤ old.expiration
      omega
  · rw [awaited]
    intro value standing ahead
    change fields.now + 1 ≤ value + delay at ahead
    obtain ⟨timer, inside, instant⟩ := watched.complete value standing (by omega)
    refine ⟨timer, List.mem_filterMap.mpr ⟨timer, inside, ?_⟩, instant⟩
    unfold Timer.advance
    rw [if_neg (by omega)]
  · intro early
    obtain ⟨unmanaged, none, unarmed⟩ := watched.idle early
    refine ⟨unmanaged, ?_, unarmed⟩
    have sending : fields.ticked.sending = fields.sending.filterMap (Timer.advance fields.now) :=
      TimeoutQueue.timersOf_advance _ _ _
    rw [sending, none]
    rfl

/-- An ack erases every timer that awaits one. -/
theorem acknowledged (watched : Watched delay begun armed fields) :
    Watched delay begun (fun _ => False) fields.withoutKaTimers ∧
      SameSender fields fields.withoutKaTimers := by
  have awaited : fields.withoutKaTimers.awaited = [] := by
    refine (TimeoutQueue.timersOf_foldl_erase _ _ _).trans (List.filter_eq_nil_iff.mpr ?_)
    intro timer inside
    have known := (watched.sound timer inside).2.1
    simp [known]
  have sending : fields.withoutKaTimers.sending = fields.sending := by
    refine (TimeoutQueue.timersOf_foldl_erase _ _ _).trans (List.filter_eq_self.mpr ?_)
    intro timer inside
    obtain ⟨armed, bound⟩ := (TimeoutQueue.mem_timersOf _ _ _).mp inside
    rw [decide_eq_true_eq]
    intro held
    have other := (watched.assigned.owned.ka timer.id held).2 timer armed rfl
    rw [bound] at other
    contradiction
  have kept : ∀ (ids : List Nat) (queue : TimeoutQueue TimerCallback) (id : Nat),
      IssuedFor queue .cmdTimeoutCb id →
        IssuedFor (ids.foldl TimeoutQueue.erase queue) .cmdTimeoutCb id := by
    intro ids
    induction ids with
    | nil => exact fun _ _ issued => issued
    | cons gone ids ih => exact fun queue id issued => ih _ id (issued.erase gone)
  refine ⟨⟨⟨watched.assigned.owned.withoutKaTimers, ?_⟩, ?_, ?_, watched.timed, ?_⟩, sending, rfl,
    rfl⟩
  · intro request inside
    exact kept _ _ _ (watched.assigned.requests request inside)
  · rw [awaited]
    exact nofun
  · exact nofun
  · intro early
    obtain ⟨unmanaged, none, -⟩ := watched.idle early
    exact ⟨unmanaged, sending.trans none, fun _ => id⟩

/-- A manager just started has no keepalive outstanding. -/
theorem started (issued : Issued fields) (delay : Nat) :
    Watched delay False (fun _ => False) fields.started := by
  refine ⟨.started issued, nofun, nofun, nofun, ?_⟩
  intro _
  exact ⟨rfl, rfl, fun _ => id⟩

end Watched

/-! ## Operations -/

section Operations

variable {env : Environment τ κ} {delay : Nat} {begun : Prop} {armed : Nat → Prop}

/-- A restart of the keepalive timer, while keepalives are not managed, leaves none. -/
theorem Resends.idle {fields next : Fields κ} (resends : Resends fields next)
    (unmanaged : fields.keepaliveMngt = false) (none : fields.sending = []) :
    next.keepaliveMngt = false ∧ next.sending = [] := by
  rcases resends with ⟨-, same⟩ | ⟨managed, -⟩
  · exact ⟨same.managed.trans unmanaged, same.sending.trans none⟩
  · rw [unmanaged] at managed
    contradiction

/-- While the timer that sends is left alone, there is none if there was none. -/
theorem SameSender.idle {fields next : Fields κ} (same : SameSender fields next)
    (unmanaged : fields.keepaliveMngt = false) (none : fields.sending = []) :
    next.keepaliveMngt = false ∧ next.sending = [] :=
  ⟨same.managed.trans unmanaged, same.sending.trans none⟩

/-- The callbacks of a batch that return add the current instant when one of them sends a
keepalive. -/
theorem fireAll_watched {batch : List (Timer TimerCallback)} {state next : State τ κ}
    (watched : Watched delay begun armed state.toFields)
    (begins : ∀ timer ∈ batch, timer.callback = .kaMngtTimeoutCb → begun)
    (returned : fireAll env batch state = .ok () next) :
    Watched delay begun (fun value => armed value ∨
        (∃ timer ∈ batch, timer.callback = .kaMngtTimeoutCb) ∧ value = state.now) next.toFields ∧
      next.now = state.now := by
  induction batch generalizing state armed with
  | nil =>
    cases returned
    exact ⟨watched.congr (by simp), rfl⟩
  | cons timer batch ih =>
    obtain ⟨_, middle, first, rest⟩ := (bind_eq_ok_iff _ _ _ _ _).mp returned
    have later (other : Timer TimerCallback) (inside : other ∈ batch) :
        other.callback = .kaMngtTimeoutCb → begun := begins other (List.mem_cons_of_mem _ inside)
    by_cases bound : timer.callback = .kaMngtTimeoutCb
    · have begin := begins timer List.mem_cons_self bound
      obtain ⟨assigned, same, awaited, held, now, kept⟩ := fire_sends bound watched.assigned first
      have expires : state.now + state.timeoutKeepalive = state.now + delay := by
        rw [watched.timed begin]
      obtain ⟨final, instant⟩ := ih (watched.arm begin assigned awaited held now kept rfl expires)
        later rest
      refine ⟨final.congr ?_, instant.trans now⟩
      intro value
      rw [now]
      simp only [List.mem_cons, exists_eq_or_imp, bound, true_or, true_and]
      tauto
    · obtain ⟨alone, sender⟩ := fire_keepalives bound watched.assigned first
      have still := watched.aside alone fun unmanaged none => by
        rcases sender with same | ⟨-, resends⟩
        · exact same.idle unmanaged none
        · exact resends.idle unmanaged none
      obtain ⟨final, instant⟩ := ih still later rest
      refine ⟨final.congr ?_, instant.trans alone.now⟩
      intro value
      rw [show middle.now = state.now from alone.now]
      simp only [List.mem_cons, exists_eq_or_imp, bound, false_or]

/-- An operation that is no tick, and neither begins the management of keepalives nor acknowledges
one, leaves the timers that await an ack. -/
theorem perform_sameAwaited {event : Event τ κ} {state next : State τ κ}
    (assigned : Assigned state.toFields) (noTick : isTick event = false)
    (noBegin : managesKeepalives event = false) (noAck : event ≠ .ackKeepalive)
    (continues : event = .start → state.running = true)
    (returned : perform env event state = .ok () next) :
    SameAwaited state.toFields next.toFields ∧
      (state.keepaliveMngt = false → state.sending = [] →
        next.keepaliveMngt = false ∧ next.sending = []) := by
  have unrelated (apart : Unrelated event) : SameAwaited state.toFields next.toFields ∧
      (state.keepaliveMngt = false → state.sending = [] →
        next.keepaliveMngt = false ∧ next.sending = []) := by
    obtain ⟨alone, sender⟩ := unrelated_keepalives apart assigned returned
    exact ⟨alone, sender.idle⟩
  cases event with
  | stop => exact unrelated trivial
  | sendHip identification timeout => exact unrelated trivial
  | ackCommand packet => exact unrelated trivial
  | ackDip => exact unrelated trivial
  | transport transport => exact unrelated trivial
  | start =>
    have same := (EStateM.Result.ok.inj
      ((start_running state (continues rfl)).symm.trans returned)).2
    rw [← same]
    exact ⟨.refl assigned, fun unmanaged none => ⟨unmanaged, none⟩⟩
  | sendCommand type data cb timeout =>
    have prepared : _ ∧ _ := @sendCommand_keepalives _ _ env _ assigned type data cb timeout
    rw [show sendCommand env type data cb timeout state = .ok () next from returned,
      after_ok] at prepared
    exact ⟨prepared.1, prepared.2.idle⟩
  | stopKeepaliveManagement =>
    have stopped := (EStateM.Result.ok.inj
      ((stopKeepaliveManagement_apply state).symm.trans returned)).2
    have unmanaged : Assigned { state.toFields with keepaliveMngt := false } :=
      ⟨⟨assigned.owned.repeats, assigned.owned.mngt, assigned.owned.dip, assigned.owned.ka⟩,
        assigned.requests⟩
    rw [← stopped, State.toFields_withFields]
    have erased := Fields.withoutTimer_eq { state.toFields with keepaliveMngt := false }
      state.keepaliveMngtId
    refine ⟨⟨unmanaged.withoutTimer _, ?_, ?_, ?_, ?_⟩, fun _ none => ⟨?_, ?_⟩⟩
    · exact timersOf_withoutTimer _ _ .kaMngtTimeoutCb _ unmanaged.owned.mngt nofun
    · rw [erased]
    · rw [erased]
    · rw [erased]
    · rw [erased]
    · unfold Fields.sending at none ⊢
      cases state.keepaliveMngtId with
      | none => exact none
      | some id =>
        refine (TimeoutQueue.timersOf_erase _ _ _).trans ?_
        rw [none]
        rfl
  | startKeepaliveManagement interval timeout => contradiction
  | ackKeepalive => exact absurd rfl noAck
  | runOnce batch => contradiction

/-- What an event does to the instants. -/
def afterwards (armed : Nat → Prop) (event : Event τ κ) (now : Nat) : Nat → Prop :=
  fun value => (event ≠ .ackKeepalive ∧ armed value) ∨ (Arms event ∧ value = now)

/-- The management of keepalives begins with the first instant. -/
theorem Watched.begin {state next : State τ κ}
    (watched : Watched delay begun armed state.toFields) (early : ¬ begun) {interval timeout : Nat}
    (timed : timeout / timeBaseMs = delay)
    (returned : startKeepaliveManagement env interval timeout state = .ok () next) :
    Watched delay True (fun value => armed value ∨ value = state.now) next.toFields ∧
      next.now = state.now := by
  obtain ⟨fields, -⟩ := startKeepaliveManagement_eq_ok _ _ _ _ _ _ returned
  -- the fields once the timer that sends is armed; no timer awaits an ack yet
  let sending : Fields κ :=
    { Fields.withMngtTimer { state.toFields with keepaliveMngt := true } interval with
      packetId := next.packetId, timeoutKeepalive := timeout / timeBaseMs, kaIds := [] }
  have owned : Owned sending := by
    have managed : Owned { state.toFields with keepaliveMngt := true } :=
      ⟨watched.assigned.owned.repeats, watched.assigned.owned.mngt, watched.assigned.owned.dip,
        watched.assigned.owned.ka⟩
    have armed := managed.withMngtTimer interval
    exact ⟨armed.repeats, armed.mngt, armed.dip, nofun⟩
  have assigned : Assigned sending := ⟨owned, watched.assigned.arm _ _ _⟩
  have none : sending.awaited = [] :=
    ((TimeoutQueue.timersOf_arm _ _ _ _ _).trans (if_neg (by decide))).trans
      (watched.awaited_eq_nil early)
  have unarmed := (watched.idle early).2.2
  have begun : Watched delay True armed sending := by
    refine ⟨assigned, ?_, ?_, fun _ => timed, fun early => absurd trivial early⟩
    · rw [none]
      exact nofun
    · intro value standing
      exact absurd standing (unarmed value)
  have same : next.toFields = sending.withKaTimer [] := fields
  have final : Assigned (sending.withKaTimer []) :=
    ⟨owned.withKaTimer [] nofun, assigned.arm _ _ _⟩
  have awaited : (sending.withKaTimer []).awaited = _ := TimeoutQueue.timersOf_arm _ _ _ _ _
  rw [if_pos rfl] at awaited
  rw [same]
  exact ⟨begun.arm trivial final awaited rfl rfl rfl rfl (by rw [← timed]), rfl⟩

/-- A tick that returns adds the current instant when it sends a keepalive. -/
theorem Watched.tick {batch : List (Timer TimerCallback)} {state next : State τ κ}
    (watched : Watched delay begun armed state.toFields)
    (order : batch.Perm (state.timeoutQueue.expired state.now))
    (returned : runOnce env batch state = .ok () next) :
    Watched delay begun (fun value => armed value ∨
        (∃ timer ∈ batch, timer.callback = .kaMngtTimeoutCb) ∧ value = state.now + 1)
        next.toFields ∧
      next.now = state.now + 1 := by
  refine fireAll_watched watched.ticked ?_ returned
  intro timer inside bound
  by_contra early
  have armed := ((TimeoutQueue.mem_expired _ _ _).mp (order.mem_iff.mp inside)).1
  have sent : timer ∈ state.sending := (TimeoutQueue.mem_timersOf _ _ _).mpr ⟨armed, bound⟩
  rw [(watched.idle early).2.1] at sent
  contradiction

/-- Every operation of a session that returns, `start_keepalive_management` if it was not called
before, changes the instants as stated. -/
theorem perform_watched {event : Event τ κ} {state next : State τ κ}
    (watched : Watched delay begun armed state.toFields) (enabled : Enabled state event)
    (once : managesKeepalives event = true → ¬ begun)
    (timed : ∀ interval timeout, event = .startKeepaliveManagement interval timeout →
      timeout / timeBaseMs = delay)
    (continues : event = .start → state.running = true)
    (returned : perform env event state = .ok () next) :
    Watched delay (begun ∨ managesKeepalives event = true) (afterwards armed event next.now)
        next.toFields ∧
      next.now = state.now + ticks [event] := by
  by_cases plain : isTick event = false ∧ managesKeepalives event = false ∧ event ≠ .ackKeepalive
  · obtain ⟨noTick, noBegin, noAck⟩ := plain
    obtain ⟨alone, idle⟩ :=
      perform_sameAwaited watched.assigned noTick noBegin noAck continues returned
    have unarmed : ¬ Arms event := by
      cases event with
      | startKeepaliveManagement interval timeout => contradiction
      | runOnce batch => contradiction
      | _ => exact id
    have same : (begun ∨ managesKeepalives event = true) = begun := by simp [noBegin]
    have none : ticks [event] = 0 := by simp [ticks, noTick]
    rw [same, none]
    refine ⟨(watched.aside alone idle).congr ?_, alone.now⟩
    intro value
    simp [afterwards, unarmed, noAck]
  · cases event with
    | ackKeepalive =>
      have acked := (EStateM.Result.ok.inj ((ackKeepalive_apply state).symm.trans returned)).2
      have same : (begun ∨ managesKeepalives (.ackKeepalive : Event τ κ) = true) = begun := by
        simp [managesKeepalives]
      rw [same, ← acked, State.toFields_withFields]
      refine ⟨watched.acknowledged.1.congr ?_, rfl⟩
      intro value
      simp [afterwards, Arms]
    | startKeepaliveManagement interval timeout =>
      obtain ⟨begins, now⟩ := watched.begin (once rfl) (timed interval timeout rfl) returned
      have same : (begun ∨ managesKeepalives
          (.startKeepaliveManagement interval timeout : Event τ κ) = true) = True := by
        simp [managesKeepalives]
      rw [same]
      refine ⟨begins.congr ?_, now⟩
      intro value
      rw [now]
      simp [afterwards, Arms]
    | runOnce batch =>
      obtain ⟨still, now⟩ := watched.tick enabled.2 returned
      have same : (begun ∨ managesKeepalives (.runOnce batch : Event τ κ) = true) = begun := by
        simp [managesKeepalives]
      rw [same]
      refine ⟨still.congr ?_, now⟩
      intro value
      rw [now]
      simp [afterwards, Arms]
    | start => exact absurd ⟨rfl, rfl, fun same => by cases same⟩ plain
    | stop => exact absurd ⟨rfl, rfl, fun same => by cases same⟩ plain
    | sendCommand type data cb timeout => exact absurd ⟨rfl, rfl, fun same => by cases same⟩ plain
    | sendHip identification timeout => exact absurd ⟨rfl, rfl, fun same => by cases same⟩ plain
    | stopKeepaliveManagement => exact absurd ⟨rfl, rfl, fun same => by cases same⟩ plain
    | ackCommand packet => exact absurd ⟨rfl, rfl, fun same => by cases same⟩ plain
    | ackDip => exact absurd ⟨rfl, rfl, fun same => by cases same⟩ plain
    | transport transport => exact absurd ⟨rfl, rfl, fun same => by cases same⟩ plain

/-! ## Runs -/

/-- Over the operations of a session that return, in which keepalives come to be managed at most
once, the instants are those at which a timeout was armed since the last ack. -/
theorem run_watched {start finish : State τ κ} {events : List (Event τ κ)}
    (run : Run (Guarded (Continues env) (Step env)) start events finish)
    (watched : Watched delay begun armed start.toFields)
    (once : events.countP managesKeepalives ≤ 1)
    (early : begun → events.countP managesKeepalives = 0)
    (timed : ∀ interval timeout, .startKeepaliveManagement interval timeout ∈ events →
      timeout / timeBaseMs = delay) :
    Watched delay (begun ∨ 0 < events.countP managesKeepalives)
      (fun value => (Event.ackKeepalive ∉ events ∧ armed value) ∨
        ArmedSince start.now events value) finish.toFields ∧
      finish.now = start.now + ticks events := by
  induction run generalizing begun armed with
  | nil start =>
    refine ⟨(watched.congr ?_).recast (by simp), rfl⟩
    intro value
    simp [ArmedSince]
  | @cons start middle finish event events taken rest ih =>
    obtain ⟨⟨⟨next, returned⟩, continues⟩, enabled, rfl⟩ := taken
    rw [returned, after_ok] at rest ih
    rw [List.countP_cons] at once early
    have first : managesKeepalives event = true → ¬ begun := by
      intro manages begins
      have none := early begins
      rw [if_pos manages] at none
      omega
    obtain ⟨still, now⟩ := perform_watched watched enabled first
      (fun interval timeout same => timed interval timeout (by rw [same]; exact List.mem_cons_self))
      continues returned
    have later : (begun ∨ managesKeepalives event = true) →
        events.countP managesKeepalives = 0 := by
      rintro (begins | manages)
      · have none := early begins
        omega
      · rw [if_pos manages] at once
        omega
    obtain ⟨final, instant⟩ := ih still (by omega) later fun interval timeout inside =>
      timed interval timeout (List.mem_cons_of_mem _ inside)
    refine ⟨(final.congr ?_).recast ?_, ?_⟩
    · intro value
      rw [armedSince_cons, now]
      constructor
      · rintro (⟨unacked, ⟨other, standing⟩ | ⟨arms, instant⟩⟩ | later)
        · exact .inl ⟨List.not_mem_cons_of_ne_of_not_mem other.symm unacked, standing⟩
        · exact .inr (.inl ⟨arms, instant, unacked⟩)
        · exact .inr (.inr later)
      · rintro (⟨unacked, standing⟩ | ⟨arms, instant, unacked⟩ | later)
        · obtain ⟨other, unacked⟩ := List.ne_and_not_mem_of_not_mem_cons unacked
          exact .inl ⟨unacked, .inl ⟨other.symm, standing⟩⟩
        · exact .inl ⟨unacked, .inr ⟨arms, instant⟩⟩
        · exact .inr later
    · rw [List.countP_cons, or_assoc]
      apply or_congr_right
      by_cases manages : managesKeepalives event = true
      · simp [manages]
      · simp [manages]
    · rw [instant, now, ticks_cons event events, Nat.add_assoc]

/-- With a callback set, the report of a timeout that returns is given out. -/
theorem reportTimeout_calls (present : env.timeoutCb ≠ none) (type : TimeoutType)
    {state next : State τ κ} (returned : reportTimeout env type state = .ok () next) :
    next.outputs = state.outputs ++ [.timedOut type] := by
  unfold reportTimeout at returned
  cases set : env.timeoutCb with
  | none => exact absurd set present
  | some timeoutCb =>
    simp only [set, bind_apply, emit_apply] at returned
    cases raised : timeoutCb type with
    | none =>
      simp only [raised, pure_apply, EStateM.Result.ok.injEq, true_and] at returned
      rw [← returned]
    | some error => simp [raised] at returned

/-- A tick that returns reports a keepalive timeout exactly when a timer that awaited an ack is in
its batch. -/
theorem runOnce_calls_iff (present : env.timeoutCb ≠ none) {batch : List (Timer TimerCallback)}
    {state next : State τ κ} (returned : runOnce env batch state = .ok () next) :
    Calls state next .kaTimeout ↔ ∃ timer ∈ batch, timer.callback = .kaTimeoutCb := by
  have grows (batch : List (Timer TimerCallback)) (first last : State τ κ)
      (fired : fireAll env batch first = .ok () last) :
      ∃ more, last.outputs = first.outputs ++ more := by
    have reports : Reports first.outputs (fun _ => True) (after (fireAll env batch first)) :=
      keeps_reports_fireAll batch (fun _ _ _ _ => trivial) first
        ⟨[], (List.append_nil _).symm, fun _ _ => trivial⟩
    rw [fired, after_ok] at reports
    obtain ⟨more, grown, -⟩ := reports
    exact ⟨more, grown⟩
  constructor
  · rintro ⟨more, grown, reported⟩
    have reports : Reports state.outputs _ (after (runOnce env batch state)) :=
      runOnce_reports batch state
    rw [returned, after_ok] at reports
    obtain ⟨given, same, allowed⟩ := reports
    rw [grown, List.append_cancel_left_eq] at same
    rw [same] at reported
    exact allowed .kaTimeout reported
  · rintro ⟨timer, inside, bound⟩
    obtain ⟨front, back, rfl⟩ := List.append_of_mem inside
    have fired : fireAll env (front ++ timer :: back)
        (state.withFields state.toFields.ticked) = .ok () next := returned
    obtain ⟨middle, early, late⟩ := (fireAll_append env front (timer :: back) _ next).mp fired
    obtain ⟨_, reported, called, rest⟩ := (bind_eq_ok_iff _ _ _ _ _).mp late
    unfold fire at called
    rw [bound] at called
    have given := reportTimeout_calls present .kaTimeout called
    obtain ⟨more, before⟩ := grows _ _ _ early
    obtain ⟨others, behind⟩ := grows _ _ _ rest
    refine ⟨more ++ .timedOut .kaTimeout :: others, ?_, by simp⟩
    rw [behind, given, before, State.outputs_withFields]
    simp

end Operations

/-- In every run of a session whose operations return and in which `start_keepalive_management` is
called at most once: `now_` counts the ticks, and the tick at an instant reports a keepalive timeout
if and only if one was armed thirty ticks before it and no ack was processed since. -/
theorem keepaliveTimeouts_exact (env : Environment τ κ) (present : env.timeoutCb ≠ none)
    (transport : τ) (history events : List (Event τ κ)) (idle state next : State τ κ)
    (batch : List (Timer TimerCallback))
    (before : Run (Step env) (State.initial transport) history idle)
    (stopped : idle.running = false)
    (run : Run (Guarded (Continues env) (Step env)) (after (start idle)) events state)
    (once : events.countP managesKeepalives ≤ 1)
    (timed : ∀ interval timeout, .startKeepaliveManagement interval timeout ∈ events →
      timeout = keepaliveTimeout)
    (enabled : Enabled state (.runOnce batch : Event τ κ))
    (returned : runOnce env batch state = .ok () next) :
    state.now = ticks events ∧
      (Calls state next .kaTimeout ↔
        ∃ value, state.now = value + 30 ∧ ArmedSince 0 events value) := by
  rw [start_apply idle stopped, after_ok] at run
  obtain ⟨watched, now⟩ := run_watched run (Watched.started (issued_run before) 30) once
    False.elim fun interval timeout inside => by
      rw [timed interval timeout inside]
      rfl
  have begins : (idle.withFields idle.toFields.started).now = 0 := rfl
  rw [begins] at watched now
  rw [Nat.zero_add] at now
  refine ⟨now, ?_⟩
  rw [runOnce_calls_iff present returned]
  constructor
  · rintro ⟨timer, inside, bound⟩
    obtain ⟨armed, expired⟩ :=
      (TimeoutQueue.mem_expired _ _ _).mp (enabled.2.mem_iff.mp inside)
    obtain ⟨-, -, ahead, value, standing, instant⟩ :=
      watched.sound timer ((TimeoutQueue.mem_timersOf _ _ _).mpr ⟨armed, bound⟩)
    refine ⟨value, by omega, ?_⟩
    rcases standing with ⟨-, absurdity⟩ | standing
    · exact absurdity.elim
    · exact standing
  · rintro ⟨value, instant, standing⟩
    obtain ⟨timer, inside, expires⟩ := watched.complete value (.inr standing) (by omega)
    obtain ⟨armed, bound⟩ := (TimeoutQueue.mem_timersOf _ _ _).mp inside
    refine ⟨timer, enabled.2.mem_iff.mpr ?_, bound⟩
    exact (TimeoutQueue.mem_expired _ _ _).mpr ⟨armed, by omega⟩

/-- A session that begins the management of keepalives and does nothing else. -/
def managementBegun : List (Event Unit Unit) :=
  [.startKeepaliveManagement keepaliveInterval keepaliveTimeout]

/-- The state that session ends in. -/
def managing : State Unit Unit :=
  after (startKeepaliveManagement quietEnvironment keepaliveInterval keepaliveTimeout
    (after (start (State.initial ()))))

/-- What expires at an instant at which the first keepalive is not overdue. -/
def keepaliveBatch (tick : Nat) : List (Timer TimerCallback) :=
  if 0 < tick ∧ tick % 10 = 0 then [⟨0, tick, some 10, .kaMngtTimeoutCb⟩] else []

/-- Ticks from an instant on while keepalives are managed. -/
def keepaliveTicks (first count : Nat) : List (Event Unit Unit) :=
  (List.range' first count).map fun tick => .runOnce (keepaliveBatch tick)

/-- Thirty ticks without an ack. -/
def unacked : List (Event Unit Unit) := managementBegun ++ keepaliveTicks 0 30

/-- Thirty ticks, with an ack after twenty-five. -/
def acked : List (Event Unit Unit) :=
  managementBegun ++ keepaliveTicks 0 25 ++ .ackKeepalive :: keepaliveTicks 25 5

/-- What an execution without a start computes is a run of a session. -/
theorem continues_of_execute {events : List (Event Unit Unit)} {start finish : State Unit Unit}
    (executed : execute (State.next quietEnvironment) start events = some finish)
    (session : .start ∉ events) :
    Run (Guarded (Continues quietEnvironment) (Step quietEnvironment)) start events finish := by
  have others : ∀ event ∈ events, event ≠ .start := fun event inside same => session (same ▸ inside)
  refine (((execute_eq_some_iff _ _ _ _).mp executed).guarded others).mono ?_
  intro state event next taken
  obtain ⟨returns, stepped⟩ := State.step_of_next taken.2
  exact ⟨⟨returns, fun same => absurd same taken.1⟩, stepped⟩

/-- Without an ack the tick at the instant thirty reports a timeout, that of the first keepalive;
after an ack that finds three outstanding it reports none. -/
theorem keepaliveTimeouts_exact_thirty :
    (∃ state next,
      Run (Guarded (Continues quietEnvironment) (Step quietEnvironment))
        (after (start (State.initial ()))) unacked state ∧ state.now = 30 ∧
      runOnce quietEnvironment (⟨1, 30, none, .kaTimeoutCb⟩ :: keepaliveBatch 30) state =
        .ok () next ∧
      Calls state next .kaTimeout) ∧
    ∃ outstanding state next,
      Run (Guarded (Continues quietEnvironment) (Step quietEnvironment))
        (after (start (State.initial ()))) (managementBegun ++ keepaliveTicks 0 25) outstanding ∧
      outstanding.awaited.length = 3 ∧
      Run (Guarded (Continues quietEnvironment) (Step quietEnvironment))
        (after (start (State.initial ()))) acked state ∧ state.now = 30 ∧
      runOnce quietEnvironment (keepaliveBatch 30) state = .ok () next ∧
      ¬ Calls state next .kaTimeout := by
  have exactly (events : List (Event Unit Unit)) (batch : List (Timer TimerCallback))
      (session : .start ∉ events) (once : events.countP managesKeepalives ≤ 1)
      (timed : ∀ interval timeout, .startKeepaliveManagement interval timeout ∈ events →
        timeout = keepaliveTimeout)
      (executed : ((execute (State.next quietEnvironment) (after (start (State.initial ())))
        events).bind fun state => state.next quietEnvironment (.runOnce batch)).isSome = true) :
      ∃ state next,
        Run (Guarded (Continues quietEnvironment) (Step quietEnvironment))
          (after (start (State.initial ()))) events state ∧
        state.now = ticks events ∧ runOnce quietEnvironment batch state = .ok () next ∧
        (Calls state next .kaTimeout ↔
          ∃ value, state.now = value + 30 ∧ ArmedSince 0 events value) := by
    obtain ⟨next, executed⟩ := Option.isSome_iff_exists.mp executed
    obtain ⟨state, executed, taken⟩ := Option.bind_eq_some_iff.mp executed
    obtain ⟨enabled, returned⟩ := (State.next_eq_some_iff _ _ _ _).mp taken
    have run := continues_of_execute executed session
    obtain ⟨now, calls⟩ := keepaliveTimeouts_exact quietEnvironment (Option.some_ne_none _) () []
      events _ state next batch (.nil _) rfl run once timed enabled returned
    exact ⟨state, next, run, now, returned, calls⟩
  constructor
  · obtain ⟨state, next, run, now, returned, calls⟩ := exactly unacked
      (⟨1, 30, none, .kaTimeoutCb⟩ :: keepaliveBatch 30)
      (by simp [unacked, managementBegun, keepaliveTicks]) (by decide)
      (by simp [unacked, managementBegun, keepaliveTicks]) (by decide +kernel)
    have armed : ArmedSince 0 unacked 0 := by
      refine ⟨[], .startKeepaliveManagement keepaliveInterval keepaliveTimeout,
        keepaliveTicks 0 30, rfl, trivial, rfl, ?_⟩
      simp [keepaliveTicks]
    exact ⟨state, next, run, now, returned, calls.mpr ⟨0, now, armed⟩⟩
  · obtain ⟨state, next, run, now, returned, calls⟩ := exactly acked (keepaliveBatch 30)
      (by simp [acked, managementBegun, keepaliveTicks]) (by decide)
      (by simp [acked, managementBegun, keepaliveTicks]) (by decide +kernel)
    have outstanding : ((execute (State.next quietEnvironment) (after (start (State.initial ())))
        (managementBegun ++ keepaliveTicks 0 25)).any fun state =>
          decide (state.awaited.length = 3)) = true := by
      decide +kernel
    obtain ⟨before, reached, three⟩ := (Option.any_eq_true _ _).mp outstanding
    have early := continues_of_execute reached (by simp [managementBegun, keepaliveTicks])
    refine ⟨before, state, next, early, of_decide_eq_true three, run, now, returned, ?_⟩
    -- every instant since the ack is later than the one thirty ticks ago
    intro called
    obtain ⟨value, instant, since⟩ := calls.mp called
    have late : 0 + ticks (managementBegun ++ keepaliveTicks 0 25) ≤ value := since.acked
    have count : ticks (managementBegun ++ keepaliveTicks 0 25) = 25 := by decide
    have thirty : state.now = 30 := now
    omega

end Hdcp.Master
