import Hdcp.Master.KeepaliveTimeouts
import Hdcp.Master.Settlement

/-!
# A dead peer under traffic

A peer that no longer acknowledges keepalives is noticed when the timeout of one expires, thirty
ticks after it was sent; the next one is sent at most ten ticks after the last ack, so that fifty
ticks are ample. But every command written, or written again, restarts the timer that sends
keepalives and arms no timeout of its own: commands that follow one another closely put the next
keepalive off for ever. The bound holds as long as no restart comes later than eight ticks after the
last ack while no keepalive is outstanding.
-/

namespace Hdcp.Master

open Base

variable {τ κ : Type}

/-- A manager, and what it was when keepalives came to be managed or when the last one was
acknowledged, whichever is later. -/
structure Watch (τ κ : Type) where
  /-- The manager then. -/
  base : State τ κ
  /-- The manager now. -/
  state : State τ κ

/-- The event restarts the timer that sends keepalives: a command is written, or written again. -/
def Restarts (state : State τ κ) : Event τ κ → Prop
  | .sendCommand _ _ _ _ => True
  | .runOnce batch => ∃ timer ∈ batch, Retries state.toFields timer
  | _ => False

namespace Watch

/-- An ack begins the watch anew. -/
def rebase (watch : Watch τ κ) (event : Event τ κ) (next : State τ κ) : State τ κ :=
  match event with
  | .ackKeepalive => next
  | _ => watch.base

/-- A step of the manager watched. -/
def Step (env : Environment τ κ) (watch : Watch τ κ) (event : Event τ κ) (next : Watch τ κ) :
    Prop :=
  Master.Step env watch.state event next.state ∧ next.base = watch.rebase event next.state

/-- An operation while keepalives are managed: it may be a command that is refused, anything else
returns, and the management goes on. -/
def Proceeds (env : Environment τ κ) (watch : Watch τ κ) : Event τ κ → Prop
  | .start => watch.state.running = true
  | .sendCommand _ _ _ _ => True
  | .startKeepaliveManagement _ _ => False
  | .stopKeepaliveManagement => False
  | event => Returns env watch.state event

/-- A restart comes while a keepalive is outstanding, or with a keepalive sent, or once a timeout
was reported, or within the first eight ticks. -/
def Harmless (watch : Watch τ κ) (event : Event τ κ) : Prop :=
  Restarts watch.state event →
    watch.state.awaited ≠ [] ∨ Arms event ∨ Calls watch.base watch.state .kaTimeout ∨
      watch.state.now + ticks [event] ≤ watch.base.now + 8

/-- Fifty ticks later a keepalive timeout was reported. -/
def Detects (watch : Watch τ κ) : Prop :=
  watch.base.now + 50 ≤ watch.state.now → Calls watch.base watch.state .kaTimeout

/-- The report was given, or the timeout of a keepalive is armed in time, or none is outstanding and
the next keepalive is sent in time. -/
def Due (watch : Watch τ κ) (armed : Nat → Prop) : Prop :=
  Calls watch.base watch.state .kaTimeout ∨
    (∃ value, armed value ∧ watch.state.now ≤ value + 30 ∧ value ≤ watch.base.now + 19) ∨
    watch.state.awaited = [] ∧ ∃ timer ∈ watch.state.sending,
      watch.state.now ≤ timer.expiration ∧ timer.expiration ≤ watch.base.now + 18

end Watch

/-- Keepalives are managed, and the next one is sent at most ten ticks from now. -/
structure Beats (fields : Fields κ) : Prop where
  /-- `keepalive_mngt_`. -/
  managed : fields.keepaliveMngt = true
  /-- The timer that sends it. -/
  sender : ∃ timer ∈ fields.sending, timer.repeatInterval = some 10 ∧
    fields.now ≤ timer.expiration ∧ timer.expiration ≤ fields.now + 10

/-- What holds of a manager watched. -/
structure Watch.Kept (watch : Watch τ κ) (armed : Nat → Prop) : Prop where
  /-- What was given out then is given out now. -/
  grown : ∃ more, watch.state.outputs = watch.base.outputs ++ more
  /-- The timers armed are those of outstanding keepalives. -/
  watched : Watched 30 True armed watch.state.toFields
  /-- The next keepalive. -/
  beats : Beats watch.state.toFields
  /-- The report. -/
  due : watch.Due armed

/-! ## Restarts -/

namespace SameSender

variable {fields middle next : Fields κ}

/-- Nothing happens. -/
theorem refl (fields : Fields κ) : SameSender fields fields := ⟨rfl, rfl, rfl⟩

/-- One thing after another. -/
theorem trans (first : SameSender fields middle) (second : SameSender middle next) :
    SameSender fields next :=
  ⟨second.sending.trans first.sending, second.id.trans first.id,
    second.managed.trans first.managed⟩

/-- The timer left alone, then restarted. -/
theorem resends (first : SameSender fields middle) (now : middle.now = fields.now)
    (second : Resends middle next) : Resends fields next := by
  unfold Resends at second ⊢
  rw [first.managed, now] at second
  rcases second with ⟨unmanaged, same⟩ | restarted
  · exact .inl ⟨unmanaged, first.trans same⟩
  · exact .inr restarted

end SameSender

namespace Resends

variable {fields middle next : Fields κ}

/-- The timer restarted, then left alone. -/
theorem sameSender (first : Resends fields middle) (second : SameSender middle next) :
    Resends fields next := by
  rcases first with ⟨unmanaged, same⟩ | ⟨managed, still, timer, armed, held⟩
  · exact .inl ⟨unmanaged, same.trans second⟩
  · refine .inr ⟨managed, second.managed.trans still, timer, ?_, ?_⟩
    · rw [second.sending]
      exact armed
    · rw [second.id]
      exact held

/-- The timer restarted twice. -/
theorem trans (first : Resends fields middle) (now : middle.now = fields.now)
    (second : Resends middle next) : Resends fields next := by
  rcases first with ⟨unmanaged, same⟩ | ⟨managed, still, -⟩
  · exact same.resends now second
  · rcases second with ⟨unmanaged, -⟩ | ⟨-, restarted⟩
    · rw [still] at unmanaged
      contradiction
    · rw [now] at restarted
      exact .inr ⟨managed, restarted⟩

end Resends

section Operations

variable {env : Environment τ κ}

/-- A retry that is left after a callback was left before it. -/
theorem retries_of_fire {timer other : Timer TimerCallback} {state next : State τ κ}
    (returned : fire env timer state = .ok () next) (retries : Retries next.toFields other) :
    Retries state.toFields other := by
  obtain ⟨about, request, inside, same, left⟩ := retries
  unfold fire at returned
  cases bound : timer.callback with
  | cmdTimeoutCb =>
    rw [bound] at returned
    obtain ⟨found, -, outcome⟩ := (cmdTimeoutCb_eq_ok_iff _ _ _ _ _).mp returned
    split at outcome
    · obtain ⟨-, rfl⟩ := (retryCommand_eq_ok_iff _ _ _ _ _ _).mp outcome
      rw [State.toFields_withFields, Fields.refreshed_eq] at inside
      rcases (state.mem_withRetry_iff timer.id request).mp inside with
        ⟨old, -⟩ | ⟨old, held, -, rfl⟩
      · exact ⟨about, request, old, same, left⟩
      · exact ⟨about, old, held, same, Nat.lt_of_succ_lt left⟩
    · obtain ⟨-, rfl⟩ := (giveUp_eq_ok_iff _ _ _ _ _ _).mp outcome
      rw [State.toFields_withFields] at inside
      exact ⟨about, request, List.mem_of_mem_filter inside, same, left⟩
  | dipTimeoutCb =>
    rw [bound] at returned
    obtain ⟨fields, -⟩ := reportTimeout_eq_ok env .dipTimeout state next returned
    rw [fields] at inside
    exact ⟨about, request, inside, same, left⟩
  | kaTimeoutCb =>
    rw [bound] at returned
    obtain ⟨fields, -⟩ := reportTimeout_eq_ok env .kaTimeout state next returned
    rw [fields] at inside
    exact ⟨about, request, inside, same, left⟩
  | kaMngtTimeoutCb =>
    rw [bound] at returned
    obtain ⟨fields, -⟩ := kaMngtTimeoutCb_eq_ok env state next () returned
    rw [fields] at inside
    exact ⟨about, request, inside, same, left⟩

/-- The callbacks of a batch that return restart the timer that sends keepalives only for a
retry. -/
theorem fireAll_sender {batch : List (Timer TimerCallback)} {state next : State τ κ}
    (assigned : Assigned state.toFields) (returned : fireAll env batch state = .ok () next) :
    next.now = state.now ∧
      (SameSender state.toFields next.toFields ∨
        (∃ timer ∈ batch, Retries state.toFields timer) ∧
          Resends state.toFields next.toFields) := by
  induction batch generalizing state with
  | nil =>
    cases returned
    exact ⟨rfl, .inl (.refl _)⟩
  | cons timer batch ih =>
    obtain ⟨_, middle, first, rest⟩ := (bind_eq_ok_iff _ _ _ _ _).mp returned
    -- what the first callback does, and that it leaves the identifiers assigned
    have early : Assigned middle.toFields ∧ middle.now = state.now ∧
        (SameSender state.toFields middle.toFields ∨
          Retries state.toFields timer ∧ Resends state.toFields middle.toFields) := by
      by_cases bound : timer.callback = .kaMngtTimeoutCb
      · obtain ⟨still, same, -, -, now, -⟩ := fire_sends bound assigned first
        exact ⟨still, now, .inl same⟩
      · obtain ⟨alone, sender⟩ := fire_keepalives bound assigned first
        exact ⟨alone.assigned, alone.now, sender⟩
    obtain ⟨still, now, sender⟩ := early
    obtain ⟨instant, later⟩ := ih still rest
    refine ⟨instant.trans now, ?_⟩
    rcases sender with same | ⟨retries, resends⟩
    · rcases later with same' | ⟨⟨other, inside, retries⟩, resends⟩
      · exact .inl (same.trans same')
      · exact .inr ⟨⟨other, List.mem_cons_of_mem _ inside, retries_of_fire first retries⟩,
          same.resends now resends⟩
    · refine .inr ⟨⟨timer, List.mem_cons_self, retries⟩, ?_⟩
      rcases later with same | ⟨-, again⟩
      · exact resends.sameSender same
      · exact resends.trans now again

/-- What a session gives out grows. -/
theorem step_grows {state next : State τ κ} {event : Event τ κ} (taken : Step env state event next)
    (session : event = .start → state.running = true) :
    ∃ more, next.outputs = state.outputs ++ more := by
  have settling : Settling state event := by
    intro begins stopped
    rw [session begins] at stopped
    contradiction
  obtain ⟨more, grown, -⟩ := (step_settled_iff taken).mpr settling
  exact ⟨more, grown⟩

end Operations

namespace Calls

variable {first middle next : State τ κ} {type : TimeoutType}

/-- A report stays given. -/
theorem before (called : Calls first middle type)
    (grown : ∃ more, next.outputs = middle.outputs ++ more) : Calls first next type := by
  obtain ⟨begun, firstly, reported⟩ := called
  obtain ⟨more, grown⟩ := grown
  refine ⟨begun ++ more, ?_, List.mem_append_left _ reported⟩
  rw [grown, firstly, List.append_assoc]

/-- A report is given since any earlier point. -/
theorem behind (grown : ∃ more, middle.outputs = first.outputs ++ more)
    (called : Calls middle next type) : Calls first next type := by
  obtain ⟨begun, grown⟩ := grown
  obtain ⟨more, lastly, reported⟩ := called
  refine ⟨begun ++ more, ?_, List.mem_append_right _ reported⟩
  rw [lastly, grown, List.append_assoc]

end Calls

/-! ## The next keepalive -/

namespace Beats

variable {fields next : Fields κ}

/-- A restart sends the next keepalive ten ticks from now. -/
theorem resent (resends : Resends fields next) (managed : fields.keepaliveMngt = true)
    (now : next.now = fields.now) : Beats next := by
  rcases resends with ⟨unmanaged, -⟩ | ⟨-, still, timer, armed, -, interval, expires⟩
  · rw [managed] at unmanaged
    contradiction
  · refine ⟨still, timer, armed, interval, ?_, ?_⟩
    · rw [expires, now]
      exact Nat.le_add_right _ _
    · rw [expires, now]

/-- The timer that sends keepalives is left alone, or restarted. -/
theorem aside (beats : Beats fields) (now : next.now = fields.now)
    (sender : SameSender fields next ∨ Resends fields next) : Beats next := by
  rcases sender with same | resends
  · obtain ⟨timer, armed, interval, ahead, soon⟩ := beats.sender
    rw [← now] at ahead soon
    refine ⟨same.managed.trans beats.managed, timer, ?_, interval, ahead, soon⟩
    rw [same.sending]
    exact armed
  · exact resent resends beats.managed now

/-- A tick leaves the timer armed or arms it anew. -/
theorem ticked (beats : Beats fields) : Beats fields.ticked := by
  obtain ⟨timer, armed, interval, ahead, soon⟩ := beats.sender
  have sending : fields.ticked.sending = fields.sending.filterMap (Timer.advance fields.now) :=
    TimeoutQueue.timersOf_advance _ _ _
  refine ⟨beats.managed, ?_⟩
  rw [sending]
  change ∃ timer ∈ (_ : List (Timer TimerCallback)), _ ∧ fields.now + 1 ≤ timer.expiration ∧
    timer.expiration ≤ fields.now + 1 + 10
  by_cases expired : timer.expiration ≤ fields.now
  · refine ⟨{ timer with expiration := fields.now + 10 },
      List.mem_filterMap.mpr ⟨timer, armed, ?_⟩, interval, ?_, ?_⟩
    · unfold Timer.advance
      rw [if_pos expired, interval]
      rfl
    · exact Nat.add_le_add_left (by decide) _
    · exact Nat.add_le_add_right (Nat.le_succ _) _
  · refine ⟨timer, List.mem_filterMap.mpr ⟨timer, armed, ?_⟩, interval, by omega, by omega⟩
    unfold Timer.advance
    rw [if_neg expired]

end Beats

/-! ## The report -/

namespace Watch.Kept

variable {env : Environment τ κ} {watch : Watch τ κ} {armed : Nat → Prop} {next : State τ κ}

/-- With a keepalive outstanding, its instant is known. -/
theorem outstanding {fields : Fields κ} (watched : Watched 30 True armed fields)
    (some : fields.awaited ≠ []) : ∃ value, armed value ∧ fields.now ≤ value + 30 := by
  obtain ⟨timer, inside⟩ := List.exists_mem_of_ne_nil _ some
  obtain ⟨-, -, ahead, value, standing, instant⟩ := watched.sound timer inside
  rw [instant] at ahead
  exact ⟨value, standing, ahead⟩

/-- What is put out further on is put out after the base as well. -/
theorem onward (kept : watch.Kept armed)
    (grown : ∃ more, next.outputs = watch.state.outputs ++ more) :
    ∃ more, next.outputs = watch.base.outputs ++ more := by
  obtain ⟨begun, firstly⟩ := kept.grown
  obtain ⟨more, grown⟩ := grown
  exact ⟨begun ++ more, by rw [grown, firstly, List.append_assoc]⟩

/-- An operation that is neither a tick nor an ack. -/
theorem aside (kept : watch.Kept armed)
    (grown : ∃ more, next.outputs = watch.state.outputs ++ more)
    (alone : SameAwaited watch.state.toFields next.toFields)
    (sender : SameSender watch.state.toFields next.toFields ∨
      Resends watch.state.toFields next.toFields ∧ (watch.state.awaited ≠ [] ∨
        Calls watch.base watch.state .kaTimeout ∨ watch.state.now ≤ watch.base.now + 8)) :
    Watch.Kept ⟨watch.base, next⟩ armed := by
  have either : SameSender watch.state.toFields next.toFields ∨
      Resends watch.state.toFields next.toFields := sender.imp id And.left
  have beats := kept.beats.aside alone.now either
  have managed := kept.beats.managed
  have now : next.now = watch.state.now := alone.now
  refine ⟨kept.onward grown, kept.watched.aside alone ?_, beats, ?_⟩
  · intro unmanaged
    rw [managed] at unmanaged
    contradiction
  · rcases kept.due with called | outstanding | ⟨none, timer, sends, ahead, soon⟩
    · exact .inl (called.before grown)
    · refine .inr (.inl ?_)
      rw [now]
      exact outstanding
    · rcases sender with same | ⟨-, some | called | early⟩
      · refine .inr (.inr ⟨alone.awaited.trans none, timer, ?_, ?_, soon⟩)
        · rw [same.sending]
          exact sends
        · rw [now]
          exact ahead
      · exact absurd none some
      · exact .inl (called.before grown)
      · obtain ⟨timer, sends, -, ahead, soon⟩ := beats.sender
        refine .inr (.inr ⟨alone.awaited.trans none, timer, sends, ahead, ?_⟩)
        change timer.expiration ≤ watch.base.now + 18
        have late : timer.expiration ≤ next.now + 10 := soon
        omega

/-- An ack: no keepalive is outstanding, and the next one is sent in time. -/
theorem acknowledged (kept : watch.Kept armed) :
    Watch.Kept ⟨watch.state.withFields watch.state.toFields.withoutKaTimers,
      watch.state.withFields watch.state.toFields.withoutKaTimers⟩ fun _ => False := by
  obtain ⟨watched, same⟩ := kept.watched.acknowledged
  have beats : Beats watch.state.toFields.withoutKaTimers := kept.beats.aside rfl (.inl same)
  obtain ⟨timer, sends, -, ahead, soon⟩ := beats.sender
  refine ⟨⟨[], (List.append_nil _).symm⟩, watched, beats, .inr (.inr ⟨?_, timer, sends, ahead, ?_⟩)⟩
  · by_contra some
    obtain ⟨value, absurdity, -⟩ := outstanding watched some
    exact absurdity
  · exact Nat.le_trans soon (Nat.add_le_add_left (by decide) _)

/-- The tick at the end of a keepalive's time calls its timeout. -/
theorem called_at (kept : watch.Kept armed) (present : env.timeoutCb ≠ none)
    {batch : List (Timer TimerCallback)}
    (order : batch.Perm (watch.state.timeoutQueue.expired watch.state.now))
    (returned : runOnce env batch watch.state = .ok () next) {value : Nat} (standing : armed value)
    (expired : watch.state.now = value + 30) : Calls watch.base next .kaTimeout := by
  obtain ⟨timer, inside, expires⟩ := kept.watched.complete value standing (Nat.le_of_eq expired)
  obtain ⟨armed, bound⟩ := (TimeoutQueue.mem_timersOf _ _ _).mp inside
  have fired : timer ∈ batch := by
    refine order.mem_iff.mpr ((TimeoutQueue.mem_expired _ _ _).mpr ⟨armed, ?_⟩)
    rw [expires, expired]
  have called := (runOnce_calls_iff present returned).mpr ⟨timer, fired, bound⟩
  exact called.behind kept.grown

/-- A tick that sends no keepalive leaves none outstanding where none was. -/
theorem unarmed (kept : watch.Kept armed) {batch : List (Timer TimerCallback)}
    (watched : Watched 30 True (fun value => armed value ∨
      (∃ timer ∈ batch, timer.callback = .kaMngtTimeoutCb) ∧ value = watch.state.now + 1)
      next.toFields)
    (now : next.now = watch.state.now + 1) (none : watch.state.awaited = [])
    (unsent : ¬ ∃ timer ∈ batch, timer.callback = .kaMngtTimeoutCb) : next.awaited = [] := by
  by_contra some
  obtain ⟨value, standing | ⟨sent, -⟩, ahead⟩ := outstanding watched some
  · change next.now ≤ value + 30 at ahead
    rw [now] at ahead
    obtain ⟨other, inside, -⟩ := kept.watched.complete value standing (Nat.le_of_succ_le ahead)
    rw [none] at inside
    contradiction
  · exact unsent sent

/-- A tick that sends no keepalive leaves the timer that sends the next one, which is not due. -/
theorem stays_sending {batch : List (Timer TimerCallback)} {timer : Timer TimerCallback}
    (order : batch.Perm (watch.state.timeoutQueue.expired watch.state.now))
    (sends : timer ∈ watch.state.sending)
    (unsent : ¬ ∃ timer ∈ batch, timer.callback = .kaMngtTimeoutCb) :
    watch.state.now < timer.expiration ∧ timer ∈ watch.state.toFields.ticked.sending := by
  obtain ⟨inside, bound⟩ := (TimeoutQueue.mem_timersOf _ _ _).mp sends
  have later : watch.state.now < timer.expiration := by
    by_contra expired
    exact unsent ⟨timer, order.mem_iff.mpr
      ((TimeoutQueue.mem_expired _ _ _).mpr ⟨inside, by omega⟩), bound⟩
  have sending : watch.state.toFields.ticked.sending =
      watch.state.sending.filterMap (Timer.advance watch.state.now) :=
    TimeoutQueue.timersOf_advance _ _ _
  refine ⟨later, ?_⟩
  rw [sending]
  refine List.mem_filterMap.mpr ⟨timer, sends, ?_⟩
  unfold Timer.advance
  rw [if_neg (Nat.not_le_of_lt later)]

/-- A tick that returns, with its restarts harmless. -/
theorem tick (present : env.timeoutCb ≠ none) {batch : List (Timer TimerCallback)}
    (kept : watch.Kept armed) (harmless : watch.Harmless (.runOnce batch))
    (order : batch.Perm (watch.state.timeoutQueue.expired watch.state.now))
    (grown : ∃ more, next.outputs = watch.state.outputs ++ more)
    (returned : runOnce env batch watch.state = .ok () next) :
    Watch.Kept ⟨watch.base, next⟩ (fun value => armed value ∨
      (∃ timer ∈ batch, timer.callback = .kaMngtTimeoutCb) ∧ value = watch.state.now + 1) := by
  obtain ⟨watched, now⟩ := kept.watched.tick order returned
  have fired : fireAll env batch (watch.state.withFields watch.state.toFields.ticked) =
    .ok () next := returned
  have sender := (fireAll_sender kept.watched.assigned.ticked fired).2
  rw [State.toFields_withFields] at sender
  have beats := kept.beats.ticked.aside now (sender.imp id And.right)
  refine ⟨kept.onward grown, watched, beats, ?_⟩
  unfold Watch.Due
  dsimp only
  rw [now]
  rcases kept.due with called | ⟨value, standing, ahead, early⟩ |
    ⟨none, timer, sends, ahead, soon⟩
  · exact .inl (called.before grown)
  · by_cases expired : watch.state.now = value + 30
    · exact .inl (kept.called_at present order returned standing expired)
    · exact .inr (.inl ⟨value, .inl standing, by omega, early⟩)
  · by_cases arms : ∃ timer ∈ batch, timer.callback = .kaMngtTimeoutCb
    · exact .inr (.inl ⟨watch.state.now + 1, .inr ⟨arms, rfl⟩, by omega, by omega⟩)
    · -- no keepalive is sent: none is outstanding still, and the next one is not late
      have unarmed := kept.unarmed watched now none arms
      rcases sender with same | ⟨retries, -⟩
      · obtain ⟨later, stays⟩ := stays_sending order sends arms
        rw [← same.sending] at stays
        exact .inr (.inr ⟨unarmed, timer, stays, later, soon⟩)
      · rcases harmless retries with some | sent | called | early
        · exact absurd none some
        · exact absurd sent arms
        · exact .inl (called.before grown)
        · obtain ⟨other, sends, -, ahead, soon⟩ := beats.sender
          change watch.state.now + 1 ≤ watch.base.now + 8 at early
          have instant : next.toFields.now = watch.state.now + 1 := now
          rw [instant] at ahead soon
          exact .inr (.inr ⟨unarmed, other, sends, ahead, by omega⟩)

/-- An operation that neither concerns keepalives nor writes a command. -/
theorem unrelated (kept : watch.Kept armed) {event : Event τ κ} (unrelated : Unrelated event)
    (returns : Returns env watch.state event)
    (grown : ∃ more, (after (perform env event watch.state)).outputs =
      watch.state.outputs ++ more) :
    Watch.Kept ⟨watch.base, after (perform env event watch.state)⟩ armed ∧
      (after (perform env event watch.state)).now = watch.state.now := by
  obtain ⟨next, returned⟩ := returns
  rw [returned, after_ok] at grown ⊢
  obtain ⟨alone, same⟩ := unrelated_keepalives unrelated kept.watched.assigned returned
  exact ⟨kept.aside grown alone (.inl same), alone.now⟩

/-- One step whose restart, if it has one, is harmless. -/
theorem step (present : env.timeoutCb ≠ none) (kept : watch.Kept armed) {event : Event τ κ}
    {later : Watch τ κ} (proceeds : watch.Proceeds env event) (harmless : watch.Harmless event)
    (taken : Watch.Step env watch event later) :
    (∃ armed, later.Kept armed) ∧ later.state.now = watch.state.now + ticks [event] := by
  obtain ⟨base, state⟩ := later
  obtain ⟨stepped, rebased⟩ := taken
  have session : event = .start → watch.state.running = true := by
    rintro rfl
    exact proceeds
  have grown := step_grows stepped session
  obtain ⟨enabled, performed⟩ := stepped
  change base = watch.rebase event state at rebased
  change after (perform env event watch.state) = state at performed
  subst performed rebased
  have aside (unrelated : Unrelated event) (returns : Returns env watch.state event)
      (same : watch.rebase event (after (perform env event watch.state)) = watch.base)
      (still : ticks [event] = 0) :
      (∃ armed, Watch.Kept ⟨watch.rebase event (after (perform env event watch.state)),
        after (perform env event watch.state)⟩ armed) ∧
      (after (perform env event watch.state)).now = watch.state.now + ticks [event] := by
    obtain ⟨kept, now⟩ := kept.unrelated unrelated returns grown
    rw [same, still]
    exact ⟨⟨armed, kept⟩, now⟩
  cases event with
  | start =>
    have idle : perform env .start watch.state = .ok () watch.state :=
      start_running watch.state proceeds
    rw [idle, after_ok]
    exact ⟨⟨armed, kept⟩, rfl⟩
  | sendCommand type data cb timeout =>
    have sent : _ ∧ _ :=
      @sendCommand_keepalives _ _ env _ kept.watched.assigned type data cb timeout
    obtain ⟨alone, resends⟩ := sent
    have restart := harmless trivial
    rw [show ticks [(.sendCommand type data cb timeout : Event τ κ)] = 0 from rfl] at restart ⊢
    refine ⟨⟨armed, kept.aside grown alone (.inr ⟨resends, ?_⟩)⟩, alone.now⟩
    rcases restart with some | absurdity | others
    · exact .inl some
    · exact absurdity.elim
    · exact .inr others
  | startKeepaliveManagement interval timeout => exact proceeds.elim
  | stopKeepaliveManagement => exact proceeds.elim
  | ackKeepalive =>
    have acked : perform env .ackKeepalive watch.state = .ok () _ := ackKeepalive_apply watch.state
    rw [acked, after_ok]
    exact ⟨⟨_, kept.acknowledged⟩, rfl⟩
  | runOnce batch =>
    obtain ⟨next, returned⟩ := proceeds
    rw [returned, after_ok] at grown ⊢
    have now := (kept.watched.tick enabled.2 returned).2
    exact ⟨⟨_, kept.tick present harmless enabled.2 grown returned⟩, now⟩
  | stop => exact aside trivial proceeds rfl rfl
  | sendHip identification timeout => exact aside trivial proceeds rfl rfl
  | ackCommand packet => exact aside trivial proceeds rfl rfl
  | ackDip => exact aside trivial proceeds rfl rfl
  | transport transport => exact aside trivial proceeds rfl rfl

/-- A run whose restarts are harmless. -/
theorem run (present : env.timeoutCb ≠ none) {start finish : Watch τ κ}
    {events : List (Event τ κ)} (kept : start.Kept armed)
    (run : Run (Guarded (fun watch event => watch.Proceeds env event ∧ watch.Harmless event)
      (Watch.Step env)) start events finish) :
    (∃ armed, finish.Kept armed) ∧ finish.state.now = start.state.now + ticks events := by
  induction run generalizing armed with
  | nil start => exact ⟨⟨armed, kept⟩, rfl⟩
  | @cons start middle finish event events taken rest ih =>
    obtain ⟨⟨proceeds, harmless⟩, stepped⟩ := taken
    obtain ⟨⟨standing, still⟩, now⟩ := kept.step present proceeds harmless stepped
    obtain ⟨final, instant⟩ := ih still
    exact ⟨final, by rw [instant, now, ticks_cons event events, Nat.add_assoc]⟩

/-- A manager that just came to manage keepalives: the first one is outstanding. -/
theorem begun {state : State τ κ} {begun : Prop} (watched : Watched 30 begun armed state.toFields)
    (early : ¬ begun)
    (returned : startKeepaliveManagement env keepaliveInterval keepaliveTimeout state =
      .ok () next) :
    Watch.Kept ⟨next, next⟩ fun value => armed value ∨ value = state.now := by
  obtain ⟨begins, now⟩ := watched.begin early rfl returned
  obtain ⟨fields, -⟩ := startKeepaliveManagement_eq_ok _ _ _ _ _ _ returned
  refine ⟨⟨[], (List.append_nil _).symm⟩, begins, ?_, ?_⟩
  · refine ⟨?_, ⟨state.timeoutQueue.nextId, state.now + 10, some 10, .kaMngtTimeoutCb⟩, ?_, rfl, ?_,
      ?_⟩
    · rw [fields]
      rfl
    · rw [fields]
      refine (TimeoutQueue.mem_timersOf _ _ _).mpr ⟨?_, rfl⟩
      exact List.mem_cons_of_mem _ List.mem_cons_self
    · change next.now ≤ state.now + 10
      rw [now]
      exact Nat.le_add_right _ _
    · change state.now + 10 ≤ next.now + 10
      rw [now]
  · refine .inr (.inl ⟨state.now, .inr rfl, ?_, ?_⟩)
    · change next.now ≤ state.now + 30
      rw [now]
      exact Nat.le_add_right _ _
    · change state.now ≤ next.now + 19
      rw [now]
      exact Nat.le_add_right _ _

/-- A report that is due was given when its time is past. -/
theorem detects (kept : watch.Kept armed) : watch.Detects := by
  intro late
  rcases kept.due with called | ⟨value, -, ahead, early⟩ | ⟨-, timer, -, ahead, soon⟩
  · exact called
  · omega
  · omega

end Watch.Kept

/-- In every run of a session that manages keepalives, from the operation that begins to, in which
the timer that sends keepalives is restarted only while a keepalive is outstanding, or with one
sent, or once a timeout was reported, or within eight ticks of the beginning or the last ack: when
fifty ticks have passed since, a keepalive timeout was reported. -/
theorem deadPeer_detected (env : Environment τ κ) (present : env.timeoutCb ≠ none)
    (transport : τ) (history opening events : List (Event τ κ)) (idle ready begun : State τ κ)
    (finish : Watch τ κ) (before : Run (Step env) (State.initial transport) history idle)
    (stopped : idle.running = false)
    (opened : Run (Guarded (Continues env) (Step env)) (after (start idle)) opening ready)
    (unmanaged : opening.countP managesKeepalives = 0)
    (returned : startKeepaliveManagement env keepaliveInterval keepaliveTimeout ready =
      .ok () begun)
    (run : Run (Guarded (fun watch event => watch.Proceeds env event ∧ watch.Harmless event)
      (Watch.Step env)) ⟨begun, begun⟩ events finish) :
    finish.Detects ∧ finish.state.now = begun.now + ticks events := by
  rw [start_apply idle stopped, after_ok] at opened
  have none : ∀ interval timeout, .startKeepaliveManagement interval timeout ∈ opening →
      timeout / timeBaseMs = 30 := by
    intro interval timeout inside
    exact absurd rfl (List.countP_eq_zero.mp unmanaged _ inside)
  obtain ⟨watched, -⟩ := run_watched opened (Watched.started (issued_run before) 30)
    (by omega) False.elim none
  have early : ¬ (False ∨ 0 < opening.countP managesKeepalives) := by simp [unmanaged]
  have kept := Watch.Kept.begun watched early returned
  obtain ⟨⟨armed, final⟩, now⟩ := kept.run present run
  exact ⟨final.detects, now⟩

/-! ## Runs that are computed -/

/-- A step as a function, of operations that return. -/
def Watch.next (env : Environment τ κ) (watch : Watch τ κ) (event : Event τ κ) :
    Option (Watch τ κ) :=
  (watch.state.next env event).map fun state => ⟨watch.rebase event state, state⟩

/-- The operation starts the manager, or the management of keepalives, or ends it. -/
def managesItself : Event τ κ → Bool
  | .start | .startKeepaliveManagement _ _ | .stopKeepaliveManagement => true
  | _ => false

/-- What the function computes is a step while keepalives are managed, unless it is about the
management itself. -/
theorem Watch.step_of_next {env : Environment τ κ} {watch next : Watch τ κ} {event : Event τ κ}
    (other : managesItself event = false) (taken : Steps (Watch.next env) watch event next) :
    Guarded (Watch.Proceeds env) (Watch.Step env) watch event next := by
  obtain ⟨state, computed, rfl⟩ := Option.map_eq_some_iff.mp taken
  obtain ⟨returns, stepped⟩ := State.step_of_next computed
  refine ⟨?_, stepped, rfl⟩
  cases event with
  | start => contradiction
  | startKeepaliveManagement interval timeout => contradiction
  | stopKeepaliveManagement => contradiction
  | sendCommand type data cb timeout => exact trivial
  | _ => exact returns

/-- No retry timer is called, and no command is sent later than eight ticks after the last ack. -/
def Watch.early (watch : Watch τ κ) : Event τ κ → Bool
  | .sendCommand _ _ _ _ => watch.state.now ≤ watch.base.now + 8
  | .runOnce batch => batch.all fun timer => timer.callback ≠ .cmdTimeoutCb
  | _ => true

/-- Then every restart is harmless. -/
theorem Watch.harmless_of_early {watch : Watch τ κ} {event : Event τ κ}
    (early : watch.early event = true) : watch.Harmless event := by
  intro restarts
  cases event with
  | sendCommand type data cb timeout => exact .inr (.inr (.inr (of_decide_eq_true early)))
  | runOnce batch =>
    obtain ⟨timer, inside, bound, -⟩ := restarts
    exact absurd bound (of_decide_eq_true (List.all_eq_true.mp early timer inside))
  | _ => exact restarts.elim

/-- What expires at an instant once the keepalive timer was restarted at the instant eight. -/
def lateBatch (tick : Nat) : List (Timer TimerCallback) :=
  if tick = 49 then [⟨4, 49, none, .kaTimeoutCb⟩]
  else if 8 < tick ∧ tick % 10 = 8 then [⟨3, tick, some 10, .kaMngtTimeoutCb⟩]
  else []

/-- The first keepalive is acknowledged at once, a command is sent eight ticks later, and nothing is
acknowledged any more. -/
def restarted : List (Event Unit Unit) :=
  .ackKeepalive :: List.replicate 8 (.runOnce []) ++ [.sendCommand 1 [0] () 100000] ++
    (List.range' 8 42).map fun tick => .runOnce (lateBatch tick)

/-- The command restarts the keepalive timer and puts the next keepalive off to the tick eighteen;
the timeout of that keepalive is reported at the fiftieth tick since the ack. -/
theorem deadPeer_detected_restarted :
    ∃ finish, Run (Guarded (fun watch event => watch.Proceeds quietEnvironment event ∧
        watch.Harmless event) (Watch.Step quietEnvironment)) ⟨managing, managing⟩ restarted
        finish ∧
      finish.base.now = 0 ∧ finish.state.now = 50 ∧
      Calls finish.base finish.state .kaTimeout := by
  have executed : ((execute (fun (watch : Watch Unit Unit) event =>
      if managesItself event = false ∧ watch.early event = true then
        watch.next quietEnvironment event
      else none) ⟨managing, managing⟩ restarted).any fun watch =>
        decide (watch.base.now = 0)) = true := by
    decide +kernel
  obtain ⟨finish, reached, acked⟩ := (Option.any_eq_true _ _).mp executed
  have computed := run_of_execute_guarded (fun (watch : Watch Unit Unit) event =>
      managesItself event = false ∧ watch.early event = true)
    (Watch.next quietEnvironment) _ _ _ reached
  have run : Run (Guarded (fun watch event => watch.Proceeds quietEnvironment event ∧
      watch.Harmless event) (Watch.Step quietEnvironment)) ⟨managing, managing⟩ restarted
      finish := by
    refine computed.mono fun _ _ _ taken => ?_
    obtain ⟨proceeds, stepped⟩ := Watch.step_of_next taken.1.1 taken.2
    exact ⟨⟨proceeds, Watch.harmless_of_early taken.1.2⟩, stepped⟩
  have opened : Run (Guarded (Continues quietEnvironment) (Step quietEnvironment))
      (after (start (State.initial ()))) [] (after (start (State.initial ()))) := .nil _
  obtain ⟨detects, now⟩ := deadPeer_detected quietEnvironment (Option.some_ne_none _) () [] []
    restarted _ _ managing finish (.nil _) rfl opened rfl rfl run
  have base : finish.base.now = 0 := of_decide_eq_true acked
  have fifty : finish.state.now = 50 := now
  exact ⟨finish, run, base, fifty, detects (by omega)⟩

/-! ## Commands that follow one another closely -/

/-- The first keepalive is acknowledged; from then on a command is sent every nine ticks, and none
is acknowledged. -/
def traffic : List (Event Unit Unit) :=
  .ackKeepalive ::
    (List.replicate 6 (List.replicate 9 (.runOnce []) ++ [.sendCommand 1 [0] () 100000])).flatten

/-- Under that traffic fifty-four ticks pass since the ack, and no keepalive timeout is reported. -/
theorem deadPeer_undetected :
    ∃ finish, Run (Guarded (Watch.Proceeds quietEnvironment) (Watch.Step quietEnvironment))
      ⟨managing, managing⟩ traffic finish ∧ ¬ finish.Detects := by
  have computed : (execute (fun (watch : Watch Unit Unit) event =>
      if managesItself event = false then watch.next quietEnvironment event else none)
      ⟨managing, managing⟩ traffic).map (fun finish =>
        (finish.base.now, finish.state.now, finish.state.outputs.any isKaTimeout)) =
      some (0, 54, false) := by
    decide +kernel
  obtain ⟨finish, executed, marks⟩ := Option.map_eq_some_iff.mp computed
  obtain ⟨base, marks⟩ := Prod.mk.inj marks
  obtain ⟨now, silent⟩ := Prod.mk.inj marks
  have run := run_of_execute_guarded
    (fun (_ : Watch Unit Unit) event => managesItself event = false)
    (Watch.next quietEnvironment) _ _ _ executed
  refine ⟨finish, run.mono fun _ _ _ taken => Watch.step_of_next taken.1 taken.2, ?_⟩
  intro detects
  exact not_calls_of_silent silent (detects (by omega))

end Hdcp.Master
