import Hdcp.Master.SendFailure

/-!
# Timers and requests agree

The retry timers armed are those of the pending requests, at most one timer sends keepalives, and
every timer that awaits a keepalive's ack can be erased. Each operation that returns keeps this,
and so does each callback of a batch; the callback of a retry timer therefore always finds its
request.
-/

namespace Hdcp.Master

open Base

variable {τ κ : Type}

/-- The timer and request table invariant. -/
structure TableInvariant (fields : Fields κ) : Prop where
  /-- Retry timers and requests are in bijection by identifier. -/
  commands : (fields.timeoutQueue.idsOf .cmdTimeoutCb).Perm
    (fields.requests.entries.map Request.id)
  /-- While keepalives are managed, `keepalive_mngt_id_` is the one timer that sends them. -/
  managed : fields.keepaliveMngt = true → ∃ id, fields.keepaliveMngtId = some id ∧
    fields.timeoutQueue.idsOf .kaMngtTimeoutCb = [id]
  /-- While they are not, no timer sends them. -/
  unmanaged : fields.keepaliveMngt = false → fields.timeoutQueue.idsOf .kaMngtTimeoutCb = []
  /-- Every timer that awaits a keepalive's ack is held in `ka_ids_`. -/
  keepalives : ∀ id ∈ fields.timeoutQueue.idsOf .kaTimeoutCb, id ∈ fields.kaIds
  /-- Every request is pending and within its retries. -/
  pending : ∀ request ∈ fields.requests.entries,
    request.status = .pending ∧ request.retry ≤ maxRetry

/-- An identifier was issued for a callback. -/
def IssuedFor (queue : TimeoutQueue TimerCallback) (callback : TimerCallback) (id : Nat) : Prop :=
  id < queue.nextId ∧ queue.Reserved id callback

/-- Every identifier held was issued for the callback it is held for, and the timers meant to
repeat do. -/
structure Owned (fields : Fields κ) : Prop where
  /-- Retry timers and the keepalive timer repeat. -/
  repeats : ∀ timer ∈ fields.timeoutQueue.timers,
    timer.callback = .cmdTimeoutCb ∨ timer.callback = .kaMngtTimeoutCb →
      timer.repeatInterval ≠ none
  /-- The keepalive timer's identifier. -/
  mngt : ∀ id ∈ fields.keepaliveMngtId, IssuedFor fields.timeoutQueue .kaMngtTimeoutCb id
  /-- The connection timer's identifier. -/
  dip : ∀ id ∈ fields.dipId, IssuedFor fields.timeoutQueue .dipTimeoutCb id
  /-- The identifiers of the keepalives awaiting their ack. -/
  ka : ∀ id ∈ fields.kaIds, IssuedFor fields.timeoutQueue .kaTimeoutCb id

/-- What every operation of a session keeps. -/
structure Coherent (fields : Fields κ) : Prop where
  /-- What identifiers are held for. -/
  owned : Owned fields
  /-- Timers and requests. -/
  table : TableInvariant fields
  /-- No keepalive awaits its ack before keepalives are managed. -/
  quiet : fields.keepaliveMngt = false → fields.timeoutQueue.idsOf .kaTimeoutCb = []

/-! ## Identifiers -/

/-- Arming a timer leaves identifiers issued for their callbacks. -/
theorem IssuedFor.arm {queue : TimeoutQueue TimerCallback} {callback : TimerCallback} {id : Nat}
    (issued : IssuedFor queue callback id) (expiration : Nat) (repeatInterval : Option Nat)
    (armed : TimerCallback) : IssuedFor (queue.arm expiration repeatInterval armed) callback id :=
  ⟨Nat.lt_succ_of_lt issued.1, issued.2.arm issued.1 _ _ _⟩

/-- A timer just armed has an identifier issued for its callback. -/
theorem issuedFor_arm_self (queue : TimeoutQueue TimerCallback) (expiration : Nat)
    (repeatInterval : Option Nat) (callback : TimerCallback) :
    IssuedFor (queue.arm expiration repeatInterval callback) callback queue.nextId :=
  ⟨Nat.lt_succ_self _, queue.reserved_arm_self _ _ _⟩

/-- Erasing a timer leaves identifiers issued for their callbacks. -/
theorem IssuedFor.erase {queue : TimeoutQueue TimerCallback} {callback : TimerCallback} {id : Nat}
    (issued : IssuedFor queue callback id) (gone : Nat) :
    IssuedFor (queue.erase gone) callback id :=
  ⟨issued.1, issued.2.erase gone⟩

namespace Owned

variable {fields : Fields κ}

/-- Identifiers stay owned through a queue that keeps them issued. -/
theorem withQueue (owned : Owned fields) (queue : TimeoutQueue TimerCallback)
    (repeats : ∀ timer ∈ queue.timers,
      timer.callback = .cmdTimeoutCb ∨ timer.callback = .kaMngtTimeoutCb →
        timer.repeatInterval ≠ none)
    (keeps : ∀ callback id, IssuedFor fields.timeoutQueue callback id →
      IssuedFor queue callback id) : Owned { fields with timeoutQueue := queue } where
  repeats := repeats
  mngt := fun id held => keeps _ id (owned.mngt id held)
  dip := fun id held => keeps _ id (owned.dip id held)
  ka := fun id held => keeps _ id (owned.ka id held)

/-- Identifiers stay owned when a timer is armed that repeats if it is meant to. -/
theorem arm (owned : Owned fields) (expiration : Nat) (repeatInterval : Option Nat)
    (callback : TimerCallback)
    (repeats : callback = .cmdTimeoutCb ∨ callback = .kaMngtTimeoutCb → repeatInterval ≠ none) :
    Owned { fields with
      timeoutQueue := fields.timeoutQueue.arm expiration repeatInterval callback } := by
  refine owned.withQueue _ ?_ fun _ _ issued => issued.arm _ _ _
  intro timer inside
  rcases List.mem_cons.mp inside with rfl | old
  · exact repeats
  · exact owned.repeats timer old

/-- Identifiers stay owned when a timer is erased. -/
theorem withoutTimer (owned : Owned fields) (id : Option Nat) : Owned (fields.withoutTimer id) := by
  cases id with
  | none => exact owned
  | some id =>
    refine owned.withQueue _ ?_ fun _ _ issued => issued.erase id
    intro timer inside
    exact owned.repeats timer ((TimeoutQueue.mem_erase _ _ _).mp inside).1

/-- The keepalive timer's new identifier is owned. -/
theorem withMngtTimer (owned : Owned fields) (interval : Nat) :
    Owned (fields.withMngtTimer interval) := by
  have armed := owned.arm (fields.now + interval / timeBaseMs) (some (interval / timeBaseMs))
    .kaMngtTimeoutCb fun _ => Option.some_ne_none _
  refine ⟨armed.repeats, ?_, armed.dip, armed.ka⟩
  intro id held
  obtain rfl := Option.some.inj held
  exact issuedFor_arm_self _ _ _ _

/-- Restarting the keepalive timer leaves identifiers owned. -/
theorem refreshed (owned : Owned fields) : Owned fields.refreshed := by
  unfold Fields.refreshed
  split
  · exact (owned.withoutTimer _).withMngtTimer _
  · exact owned

/-- Arming a retry timer leaves identifiers owned. -/
theorem withCmdTimer (owned : Owned fields) (timeout : Nat) : Owned (fields.withCmdTimer timeout) :=
  owned.arm _ _ _ fun _ => Option.some_ne_none _

/-- The connection timer's new identifier is owned. -/
theorem withDipTimer (owned : Owned fields) (timeout : Nat) :
    Owned (fields.withDipTimer timeout) := by
  have armed := owned.arm (fields.now + timeout / timeBaseMs) none .dipTimeoutCb (by decide)
  refine ⟨armed.repeats, armed.mngt, ?_, armed.ka⟩
  intro id held
  obtain rfl := Option.some.inj held
  exact issuedFor_arm_self _ _ _ _

/-- The identifier of a new keepalive's timer is owned. -/
theorem withKaTimer (owned : Owned fields) (others : List Nat)
    (known : ∀ id ∈ others, id ∈ fields.kaIds) : Owned (fields.withKaTimer others) := by
  have armed := owned.arm (fields.now + fields.timeoutKeepalive) none .kaTimeoutCb (by decide)
  refine ⟨armed.repeats, armed.mngt, armed.dip, ?_⟩
  intro id held
  rcases List.mem_append.mp held with old | new
  · exact armed.ka id (known id old)
  · obtain rfl := List.mem_singleton.mp new
    exact issuedFor_arm_self _ _ _ _

/-- Erasing the timers of all keepalives leaves identifiers owned. -/
theorem withoutKaTimers (owned : Owned fields) : Owned fields.withoutKaTimers := by
  have erased : ∀ (ids : List Nat) (fields : Fields κ), Owned fields →
      Owned { fields with timeoutQueue := ids.foldl TimeoutQueue.erase fields.timeoutQueue } := by
    intro ids
    induction ids with
    | nil => exact fun _ owned => owned
    | cons id ids ih => exact fun fields owned => ih _ (owned.withoutTimer (some id))
  have owned := erased fields.kaIds fields owned
  refine ⟨owned.repeats, owned.mngt, owned.dip, ?_⟩
  intro id held
  contradiction

/-- A tick leaves identifiers owned. -/
theorem ticked (owned : Owned fields) : Owned fields.ticked := by
  have advanced := owned.withQueue (fields.timeoutQueue.advance fields.now) ?_
    fun _ _ issued => ⟨issued.1, issued.2.advance _⟩
  · exact ⟨advanced.repeats, advanced.mngt, advanced.dip, advanced.ka⟩
  · intro timer inside
    obtain ⟨old, armed, kept⟩ := (TimeoutQueue.mem_advance _ _ _).mp inside
    obtain ⟨-, interval, callback⟩ := Timer.advance_keeps kept
    rw [interval, callback]
    exact owned.repeats old armed

end Owned

/-! ## Timers by callback -/

/-- Erasing a timer leaves those of other callbacks. -/
theorem idsOf_withoutTimer (fields : Fields κ) (held : Option Nat)
    (callback other : TimerCallback)
    (issued : ∀ id ∈ held, IssuedFor fields.timeoutQueue callback id)
    (different : other ≠ callback) :
    (fields.withoutTimer held).timeoutQueue.idsOf other = fields.timeoutQueue.idsOf other := by
  cases held with
  | none => rfl
  | some id => exact TimeoutQueue.idsOf_erase_of_reserved (issued id rfl).2 different

/-- Restarting the keepalive timer leaves the timers of other callbacks. -/
theorem idsOf_refreshed (fields : Fields κ) (owned : Owned fields) (other : TimerCallback)
    (different : other ≠ .kaMngtTimeoutCb) :
    fields.refreshed.timeoutQueue.idsOf other = fields.timeoutQueue.idsOf other := by
  unfold Fields.refreshed
  split
  · rw [Fields.withMngtTimer, TimeoutQueue.idsOf_addRepeating, if_neg (Ne.symm different)]
    exact idsOf_withoutTimer fields _ _ other owned.mngt different
  · rfl

/-- Erasing the timers of all keepalives leaves the timers of other callbacks. -/
theorem idsOf_withoutKaTimers (fields : Fields κ) (owned : Owned fields) (other : TimerCallback)
    (different : other ≠ .kaTimeoutCb) :
    fields.withoutKaTimers.timeoutQueue.idsOf other = fields.timeoutQueue.idsOf other := by
  rw [Fields.withoutKaTimers, TimeoutQueue.idsOf_foldl_erase, List.filter_eq_self]
  intro id held
  obtain ⟨timer, inside, bound, rfl⟩ := (TimeoutQueue.mem_idsOf _ _ _).mp held
  rw [decide_eq_true_eq]
  intro awaited
  exact different (bound.symm.trans ((owned.ka _ awaited).2 timer inside rfl))

/-- A tick leaves the timers that repeat. -/
theorem idsOf_ticked (fields : Fields κ) (owned : Owned fields) (callback : TimerCallback)
    (repeating : callback = .cmdTimeoutCb ∨ callback = .kaMngtTimeoutCb) :
    fields.ticked.timeoutQueue.idsOf callback = fields.timeoutQueue.idsOf callback := by
  refine TimeoutQueue.idsOf_advance _ _ _ ?_
  rintro timer inside rfl
  exact owned.repeats timer inside repeating

/-- Restarting the keepalive timer leaves one, when keepalives are managed. -/
theorem refreshed_managed (fields : Fields κ) (table : TableInvariant fields) :
    (fields.refreshed.keepaliveMngt = true → ∃ id, fields.refreshed.keepaliveMngtId = some id ∧
      fields.refreshed.timeoutQueue.idsOf .kaMngtTimeoutCb = [id]) ∧
    (fields.refreshed.keepaliveMngt = false →
      fields.refreshed.timeoutQueue.idsOf .kaMngtTimeoutCb = []) := by
  unfold Fields.refreshed
  by_cases managed : fields.keepaliveMngt = true
  · obtain ⟨id, held, only⟩ := table.managed managed
    have none : (fields.withoutTimer (some id)).timeoutQueue.idsOf .kaMngtTimeoutCb = [] := by
      rw [Fields.withoutTimer, TimeoutQueue.idsOf_erase, only]
      simp
    rw [if_pos managed, held]
    refine ⟨fun _ => ⟨_, rfl, ?_⟩, ?_⟩
    · rw [Fields.withMngtTimer, TimeoutQueue.idsOf_addRepeating, if_pos rfl, none]
    · intro unmanaged
      exact absurd managed (by
        rw [show fields.keepaliveMngt = false from unmanaged]
        decide)
  · rw [if_neg managed]
    exact ⟨table.managed, table.unmanaged⟩

/-! ## The fields operations leave -/

namespace Coherent

variable {fields : Fields κ}

/-- Clock, packet id and keepalive delay do not matter. -/
theorem renumber (coherent : Coherent fields) (now : Nat) (packetId : UInt16)
    (timeoutKeepalive : Nat) (running : Bool) :
    Coherent { fields with
      now := now
      packetId := packetId
      timeoutKeepalive := timeoutKeepalive
      running := running } :=
  ⟨⟨coherent.owned.repeats, coherent.owned.mngt, coherent.owned.dip, coherent.owned.ka⟩,
    ⟨coherent.table.commands, coherent.table.managed, coherent.table.unmanaged,
      coherent.table.keepalives, coherent.table.pending⟩, coherent.quiet⟩

/-- A manager just started is coherent. -/
theorem started (owned : Issued fields) : Coherent fields.started where
  owned :=
    { repeats := fun timer inside => by contradiction
      mngt := fun id held => ⟨owned.mngt id held, fun timer inside => by contradiction⟩
      dip := fun id held => ⟨owned.dip id held, fun timer inside => by contradiction⟩
      ka := fun id held => ⟨owned.ka id held, fun timer inside => by contradiction⟩ }
  table :=
    { commands := .refl _
      managed := fun managed => by contradiction
      unmanaged := fun _ => rfl
      keepalives := fun id held => by contradiction
      pending := fun request inside => by contradiction }
  quiet := fun _ => rfl

/-- Restarting the keepalive timer. -/
theorem refreshed (coherent : Coherent fields) : Coherent fields.refreshed := by
  have commands := idsOf_refreshed fields coherent.owned .cmdTimeoutCb (by decide)
  have keepalives := idsOf_refreshed fields coherent.owned .kaTimeoutCb (by decide)
  obtain ⟨managed, unmanaged⟩ := refreshed_managed fields coherent.table
  have same := fields.refreshed_eq
  have requests : fields.refreshed.requests = fields.requests := by rw [same]
  have kaIds : fields.refreshed.kaIds = fields.kaIds := by rw [same]
  have mngt : fields.refreshed.keepaliveMngt = fields.keepaliveMngt := by rw [same]
  refine ⟨coherent.owned.refreshed, ⟨?_, managed, unmanaged, ?_, ?_⟩, ?_⟩
  · rw [commands, requests]
    exact coherent.table.commands
  · rw [keepalives, kaIds]
    exact coherent.table.keepalives
  · rw [requests]
    exact coherent.table.pending
  · rw [mngt, keepalives]
    exact coherent.quiet

/-- A retry timer and its request arrive together. -/
theorem inserted (coherent : Coherent fields) (timeout : Nat) (requests : RequestSet κ)
    (request : Request κ) (named : request.id = fields.timeoutQueue.nextId)
    (fresh : request.status = .pending ∧ request.retry ≤ maxRetry)
    (entries : requests.entries = request :: fields.requests.entries) :
    Coherent { fields.withCmdTimer timeout with requests := requests } where
  owned :=
    have armed := coherent.owned.withCmdTimer timeout
    ⟨armed.repeats, armed.mngt, armed.dip, armed.ka⟩
  table :=
    { commands := by
        have arrived : (fields.withCmdTimer timeout).timeoutQueue.idsOf .cmdTimeoutCb =
            request.id :: fields.timeoutQueue.idsOf .cmdTimeoutCb := by
          rw [Fields.withCmdTimer, TimeoutQueue.idsOf_addRepeating, if_pos rfl, named]
        rw [arrived, entries]
        exact coherent.table.commands.cons _
      managed := coherent.table.managed
      unmanaged := coherent.table.unmanaged
      keepalives := coherent.table.keepalives
      pending := by
        rw [entries]
        intro other inside
        rcases List.mem_cons.mp inside with rfl | old
        · exact fresh
        · exact coherent.table.pending other old }
  quiet := coherent.quiet

/-- Refreshing before the insertion is refreshing after it. -/
theorem prepared (coherent : Coherent fields) (timeout : Nat) (requests : RequestSet κ)
    (request : Request κ) (named : request.id = fields.timeoutQueue.nextId)
    (fresh : request.status = .pending ∧ request.retry ≤ maxRetry)
    (entries : requests.entries = request :: fields.requests.entries) :
    Coherent { fields.prepared timeout with requests := requests } := by
  have arrived := (coherent.inserted timeout requests request named fresh entries).refreshed
  have order : { (fields.withCmdTimer timeout).refreshed with requests := requests } =
      Fields.refreshed { fields.withCmdTimer timeout with requests := requests } := by
    unfold Fields.refreshed
    by_cases managed : (fields.withCmdTimer timeout).keepaliveMngt = true
    · rw [if_pos managed, if_pos managed]
      cases (fields.withCmdTimer timeout).keepaliveMngtId <;> rfl
    · rw [if_neg managed, if_neg managed]
  rw [← order] at arrived
  exact arrived.renumber _ ((fields.withCmdTimer timeout).refreshed.packetId + 1) _ _

/-- A retry timer and its request leave together. -/
theorem concluded (coherent : Coherent fields) (request : Request κ)
    (inside : request ∈ fields.requests.entries) (requests : RequestSet κ)
    (entries : requests.entries = (fields.requests.eraseFirst request.id).entries) :
    Coherent { fields.withoutTimer (some request.id) with requests := requests } := by
  -- the request's identifier is that of an armed retry timer
  have armed : request.id ∈ fields.timeoutQueue.idsOf .cmdTimeoutCb :=
    coherent.table.commands.mem_iff.mpr (List.mem_map_of_mem inside)
  obtain ⟨timer, timerIn, bound, same⟩ := (TimeoutQueue.mem_idsOf _ _ _).mp armed
  have reserved : fields.timeoutQueue.Reserved request.id .cmdTimeoutCb := by
    intro other otherIn sameOther
    rw [TimeoutQueue.eq_of_id otherIn timerIn (sameOther.trans same.symm)]
    exact bound
  have keep (other : TimerCallback) (different : other ≠ .cmdTimeoutCb) :
      (fields.timeoutQueue.erase request.id).idsOf other = fields.timeoutQueue.idsOf other :=
    TimeoutQueue.idsOf_erase_of_reserved reserved different
  have owned := coherent.owned.withoutTimer (some request.id)
  refine ⟨⟨owned.repeats, owned.mngt, owned.dip, owned.ka⟩, ⟨?_, ?_, ?_, ?_, ?_⟩, ?_⟩
  · have left := coherent.table.commands.filter fun id => decide (id ≠ request.id)
    rw [← TimeoutQueue.idsOf_erase, ← TwoIndex.map_first_eraseFirst, ← entries] at left
    exact left
  · intro managed
    obtain ⟨id, held, only⟩ := coherent.table.managed managed
    exact ⟨id, held, (keep _ (by decide)).trans only⟩
  · intro unmanaged
    exact (keep _ (by decide)).trans (coherent.table.unmanaged unmanaged)
  · intro id held
    have before : id ∈ (fields.timeoutQueue.erase request.id).idsOf .kaTimeoutCb := held
    rw [keep .kaTimeoutCb (by decide)] at before
    exact coherent.table.keepalives id before
  · intro other otherIn
    rw [entries] at otherIn
    exact coherent.table.pending other ((TwoIndex.mem_eraseFirst _ _ _).mp otherIn).1
  · intro unmanaged
    exact (keep _ (by decide)).trans (coherent.quiet unmanaged)

/-- A retry is counted. -/
theorem withRetry (coherent : Coherent fields) (request : Request κ)
    (inside : request ∈ fields.requests.entries) (left : request.retry < maxRetry) :
    Coherent (fields.withRetry request.id) where
  owned :=
    ⟨coherent.owned.repeats, coherent.owned.mngt, coherent.owned.dip, coherent.owned.ka⟩
  table :=
    { commands := by
        rw [Fields.withRetry, TwoIndex.map_first_modifyFirst]
        exact coherent.table.commands
      managed := coherent.table.managed
      unmanaged := coherent.table.unmanaged
      keepalives := coherent.table.keepalives
      pending := by
        intro changed changedIn
        rcases (TwoIndex.mem_modifyFirst fields.requests request.id incRetry
          (fun _ => ⟨rfl, rfl⟩) changed).mp changedIn with ⟨old, -⟩ | ⟨old, oldIn, same, rfl⟩
        · exact coherent.table.pending changed old
        · rw [TwoIndex.eq_of_first oldIn inside same]
          exact ⟨(coherent.table.pending request inside).1, left⟩ }
  quiet := coherent.quiet

/-- The connection timer is armed. -/
theorem withDipTimer (coherent : Coherent fields) (timeout : Nat) :
    Coherent (fields.withDipTimer timeout) where
  owned := coherent.owned.withDipTimer timeout
  table := ⟨coherent.table.commands, coherent.table.managed, coherent.table.unmanaged,
    coherent.table.keepalives, coherent.table.pending⟩
  quiet := coherent.quiet

/-- The connection timer is erased. -/
theorem withoutDipTimer (coherent : Coherent fields) :
    Coherent (fields.withoutTimer fields.dipId) := by
  have keep (other : TimerCallback) (different : other ≠ .dipTimeoutCb) :=
    idsOf_withoutTimer fields fields.dipId _ other coherent.owned.dip different
  have same := fields.withoutTimer_eq fields.dipId
  have owned := coherent.owned.withoutTimer fields.dipId
  rw [same] at owned ⊢
  refine ⟨owned, ⟨?_, ?_, ?_, ?_, coherent.table.pending⟩, ?_⟩
  · rw [keep .cmdTimeoutCb (by decide)]
    exact coherent.table.commands
  · rw [keep .kaMngtTimeoutCb (by decide)]
    exact coherent.table.managed
  · rw [keep .kaMngtTimeoutCb (by decide)]
    exact coherent.table.unmanaged
  · rw [keep .kaTimeoutCb (by decide)]
    exact coherent.table.keepalives
  · rw [keep .kaTimeoutCb (by decide)]
    exact coherent.quiet

/-- The timer of one more keepalive is armed, while keepalives are managed. -/
theorem withKaTimer (coherent : Coherent fields) (managed : fields.keepaliveMngt = true) :
    Coherent (fields.withKaTimer fields.kaIds) where
  owned := coherent.owned.withKaTimer _ fun _ held => held
  table :=
    { commands := coherent.table.commands
      managed := coherent.table.managed
      unmanaged := coherent.table.unmanaged
      keepalives := by
        intro id held
        rw [Fields.withKaTimer, TimeoutQueue.idsOf_add, if_pos rfl] at held
        rcases List.mem_cons.mp held with rfl | old
        · exact List.mem_append_right _ List.mem_cons_self
        · exact List.mem_append_left _ (coherent.table.keepalives id old)
      pending := coherent.table.pending }
  quiet := fun unmanaged => by
    rw [show fields.keepaliveMngt = false from unmanaged] at managed
    contradiction

/-- Keepalives begin to be managed: their timer and the timer of the first one are armed. -/
theorem managed (coherent : Coherent fields) (unmanaged : fields.keepaliveMngt = false)
    (interval packetId timeoutKeepalive) :
    Coherent (Fields.withKaTimer
      { Fields.withMngtTimer { fields with keepaliveMngt := true } interval with
        packetId := packetId, timeoutKeepalive := timeoutKeepalive } []) where
  owned := by
    have flagged : Owned { fields with keepaliveMngt := true } :=
      ⟨coherent.owned.repeats, coherent.owned.mngt, coherent.owned.dip, coherent.owned.ka⟩
    have armed := flagged.withMngtTimer interval
    have renumbered : Owned
        { Fields.withMngtTimer { fields with keepaliveMngt := true } interval with
          packetId := packetId, timeoutKeepalive := timeoutKeepalive } :=
      ⟨armed.repeats, armed.mngt, armed.dip, armed.ka⟩
    refine renumbered.withKaTimer [] ?_
    intro id held
    contradiction
  table :=
    { commands := coherent.table.commands
      managed := fun _ => ⟨_, rfl, by
        rw [Fields.withKaTimer, TimeoutQueue.idsOf_add, if_neg (by decide), Fields.withMngtTimer,
          TimeoutQueue.idsOf_addRepeating, if_pos rfl, coherent.table.unmanaged unmanaged]⟩
      unmanaged := fun absurdity => by contradiction
      keepalives := by
        intro id held
        rw [Fields.withKaTimer, TimeoutQueue.idsOf_add, if_pos rfl, Fields.withMngtTimer,
          TimeoutQueue.idsOf_addRepeating, if_neg (by decide), coherent.quiet unmanaged] at held
        exact held
      pending := coherent.table.pending }
  quiet := fun absurdity => by contradiction

/-- The timers of all keepalives are erased. -/
theorem withoutKaTimers (coherent : Coherent fields) : Coherent fields.withoutKaTimers := by
  have keep (other : TimerCallback) (different : other ≠ .kaTimeoutCb) :=
    idsOf_withoutKaTimers fields coherent.owned other different
  have none : fields.withoutKaTimers.timeoutQueue.idsOf .kaTimeoutCb = [] := by
    rw [Fields.withoutKaTimers, TimeoutQueue.idsOf_foldl_erase, List.filter_eq_nil_iff]
    intro id held
    rw [decide_eq_true_eq, not_not]
    exact coherent.table.keepalives id held
  refine ⟨coherent.owned.withoutKaTimers, ⟨?_, ?_, ?_, ?_, coherent.table.pending⟩, fun _ => none⟩
  · rw [keep .cmdTimeoutCb (by decide)]
    exact coherent.table.commands
  · rw [keep .kaMngtTimeoutCb (by decide)]
    exact coherent.table.managed
  · rw [keep .kaMngtTimeoutCb (by decide)]
    exact coherent.table.unmanaged
  · rw [none]
    intro id held
    contradiction

/-- A tick took its batch. -/
theorem ticked (coherent : Coherent fields) : Coherent fields.ticked := by
  have commands := idsOf_ticked fields coherent.owned .cmdTimeoutCb (.inl rfl)
  have mngt := idsOf_ticked fields coherent.owned .kaMngtTimeoutCb (.inr rfl)
  refine ⟨coherent.owned.ticked, ⟨?_, ?_, ?_, ?_, coherent.table.pending⟩, ?_⟩
  · rw [commands]
    exact coherent.table.commands
  · rw [mngt]
    exact coherent.table.managed
  · rw [mngt]
    exact coherent.table.unmanaged
  · intro id held
    exact coherent.table.keepalives id (TimeoutQueue.mem_idsOf_of_advance held)
  · intro unmanaged
    refine List.eq_nil_iff_forall_not_mem.mpr ?_
    intro id held
    have before := TimeoutQueue.mem_idsOf_of_advance held
    rw [coherent.quiet unmanaged] at before
    contradiction

end Coherent

/-! ## Callbacks of a batch -/

/-- What the timers of a batch that have not been called yet rely on. -/
structure BatchSound (fields : Fields κ) (batch : List (Timer TimerCallback)) : Prop where
  /-- No timer twice. -/
  nodup : (batch.map Timer.id).Nodup
  /-- Every retry timer has its request. -/
  commands : ∀ timer ∈ batch, timer.callback = .cmdTimeoutCb →
    timer.id ∈ fields.requests.entries.map Request.id
  /-- The keepalive timer is there only while keepalives are managed. -/
  managed : ∀ timer ∈ batch, timer.callback = .kaMngtTimeoutCb → fields.keepaliveMngt = true

/-- The batch a tick takes from a coherent manager is sound. -/
theorem batchSound_expired {fields : Fields κ} (coherent : Coherent fields)
    {batch : List (Timer TimerCallback)}
    (order : batch.Perm (fields.timeoutQueue.expired fields.now)) :
    BatchSound fields.ticked batch where
  nodup := (order.map Timer.id).nodup_iff.mpr (TimeoutQueue.nodup_expired _ _)
  commands := by
    intro timer inside bound
    have armed := ((TimeoutQueue.mem_expired _ _ _).mp (order.mem_iff.mp inside)).1
    exact coherent.table.commands.mem_iff.mp
      ((TimeoutQueue.mem_idsOf _ _ _).mpr ⟨timer, armed, bound, rfl⟩)
  managed := by
    intro timer inside bound
    have armed := ((TimeoutQueue.mem_expired _ _ _).mp (order.mem_iff.mp inside)).1
    have held := (TimeoutQueue.mem_idsOf _ .kaMngtTimeoutCb _).mpr ⟨timer, armed, bound, rfl⟩
    by_cases managed : fields.keepaliveMngt = true
    · exact managed
    · rw [coherent.table.unmanaged (Bool.eq_false_iff.mpr managed)] at held
      contradiction

/-- A batch stays sound while requests stay and keepalives are managed as before. -/
theorem BatchSound.rest {fields next : Fields κ} {timer : Timer TimerCallback}
    {batch : List (Timer TimerCallback)} (sound : BatchSound fields (timer :: batch))
    (stay : ∀ id ∈ fields.requests.entries.map Request.id, id ≠ timer.id →
      id ∈ next.requests.entries.map Request.id)
    (same : next.keepaliveMngt = fields.keepaliveMngt) : BatchSound next batch := by
  have unique := sound.nodup
  rw [List.map_cons, List.nodup_cons] at unique
  refine ⟨unique.2, ?_, ?_⟩
  · intro other inside bound
    refine stay other.id (sound.commands other (List.mem_cons_of_mem _ inside) bound) ?_
    intro same
    exact unique.1 (List.mem_map.mpr ⟨other, inside, same⟩)
  · intro other inside bound
    rw [same]
    exact sound.managed other (List.mem_cons_of_mem _ inside) bound

/-- Each callback that returns leaves the manager coherent, the rest of its batch sound and the
management of keepalives alone. -/
theorem fire_coherent (env : Environment τ κ) {timer : Timer TimerCallback}
    {batch : List (Timer TimerCallback)} {state next : State τ κ}
    (coherent : Coherent state.toFields) (sound : BatchSound state.toFields (timer :: batch))
    (returned : fire env timer state = .ok () next) :
    Coherent next.toFields ∧ BatchSound next.toFields batch ∧
      next.keepaliveMngt = state.keepaliveMngt := by
  have stay : ∀ id ∈ state.requests.entries.map Request.id, id ≠ timer.id →
      id ∈ state.requests.entries.map Request.id := fun id held _ => held
  unfold fire at returned
  cases bound : timer.callback with
  | cmdTimeoutCb =>
    rw [bound] at returned
    obtain ⟨request, found, outcome⟩ := (cmdTimeoutCb_eq_ok_iff _ _ _ _ _).mp returned
    obtain ⟨inside, same⟩ := (TwoIndex.findFirst_eq_some_iff _ _ _).mp found
    split at outcome
    · next left =>
      obtain ⟨-, rfl⟩ := (retryCommand_eq_ok_iff _ _ _ _ _ _).mp outcome
      rw [← same, State.toFields_withFields]
      have fields := (state.toFields.withRetry request.id).refreshed_eq
      have alone : (state.toFields.withRetry request.id).refreshed.keepaliveMngt =
          state.keepaliveMngt := by
        rw [fields]
        rfl
      refine ⟨(coherent.withRetry request inside left).refreshed, sound.rest ?_ alone, alone⟩
      rw [fields]
      simp only [Fields.withRetry, TwoIndex.map_first_modifyFirst]
      exact stay
    · obtain ⟨-, rfl⟩ := (giveUp_eq_ok_iff _ _ _ _ _ _).mp outcome
      rw [State.toFields_withFields]
      refine ⟨coherent.concluded request inside _ (by rw [same]), sound.rest ?_ rfl, rfl⟩
      intro id held other
      rw [TwoIndex.map_first_eraseFirst]
      exact List.mem_filter.mpr ⟨held, decide_eq_true other⟩
  | dipTimeoutCb =>
    rw [bound] at returned
    obtain ⟨fields, -⟩ := reportTimeout_eq_ok env .dipTimeout state next returned
    rw [fields]
    exact ⟨coherent, sound.rest stay rfl, rfl⟩
  | kaTimeoutCb =>
    rw [bound] at returned
    obtain ⟨fields, -⟩ := reportTimeout_eq_ok env .kaTimeout state next returned
    rw [fields]
    exact ⟨coherent, sound.rest stay rfl, rfl⟩
  | kaMngtTimeoutCb =>
    rw [bound] at returned
    obtain ⟨fields, -⟩ := kaMngtTimeoutCb_eq_ok env state next () returned
    have managed := sound.managed timer List.mem_cons_self bound
    rw [fields]
    exact ⟨(coherent.renumber _ next.packetId _ _).withKaTimer managed, sound.rest stay rfl, rfl⟩

/-- A batch whose callbacks return leaves the manager coherent and the management of keepalives
alone. -/
theorem fireAll_coherent (env : Environment τ κ) {batch : List (Timer TimerCallback)}
    {state next : State τ κ} (coherent : Coherent state.toFields)
    (sound : BatchSound state.toFields batch)
    (returned : fireAll env batch state = .ok () next) :
    Coherent next.toFields ∧ next.keepaliveMngt = state.keepaliveMngt := by
  induction batch generalizing state with
  | nil =>
    cases returned
    exact ⟨coherent, rfl⟩
  | cons timer batch ih =>
    obtain ⟨_, middle, first, rest⟩ := (bind_eq_ok_iff _ _ _ _ _).mp returned
    obtain ⟨still, left, alone⟩ := fire_coherent env coherent sound first
    obtain ⟨last, same⟩ := ih still left rest
    exact ⟨last, same.trans alone⟩

/-- The exception a retry timer's callback would throw without its request. -/
def unknownRequest : Exn := .application .requestNotFound none

/-- Callbacks of the user and of the protocol that raise nothing. -/
structure Quiet (env : Environment τ κ) : Prop where
  /-- Request callbacks. -/
  invoke : ∀ cb request, env.invoke cb request = none
  /-- The timeout callback. -/
  timeoutCb : ∀ timeoutCb ∈ env.timeoutCb, ∀ type, timeoutCb type = none

/-- A write never throws that a request is unknown. -/
theorem raises_write (env : Environment τ κ) (message : Message) :
    Raises (· ≠ unknownRequest) (write env message) := by
  intro state error next thrown
  obtain ⟨-, -, ⟨refusal, rfl⟩, -⟩ := write_eq_error env message state next error thrown
  unfold unknownRequest
  intro absurdity
  contradiction

/-- Sending a keepalive never throws that a request is unknown. -/
theorem raises_sendKeepalive (env : Environment τ κ) :
    Raises (· ≠ unknownRequest) (sendKeepalive env) := by
  refine .bind .get fun state => .choice (.bind ?_ fun id => .bind ?_ fun packet =>
    raises_write env _) (.pure _)
  · exact .bind (.modify _) fun _ => .bind .get fun _ => .pure _
  · cases Packet.makeKeepalive env.raw id with
    | ok packet => exact .pure _
    | error refused =>
      refine .throw ?_
      unfold unknownRequest
      intro absurdity
      contradiction

/-- A quiet callback of a sound batch never finds its request unknown. -/
theorem fire_known (env : Environment τ κ) (quiet : Quiet env) {timer : Timer TimerCallback}
    {batch : List (Timer TimerCallback)} {state next : State τ κ} {error : Exn}
    (sound : BatchSound state.toFields (timer :: batch))
    (thrown : fire env timer state = .error error next) : error ≠ unknownRequest := by
  have silent (request : Request κ) : Raises (· ≠ unknownRequest)
      (callCallback env request : Action τ κ Unit) := by
    refine .bind (.modify _) fun _ => ?_
    rw [quiet.invoke]
    exact .pure _
  have reported (type : TimeoutType) : Raises (· ≠ unknownRequest)
      (reportTimeout env type : Action τ κ Unit) := by
    unfold reportTimeout
    cases present : env.timeoutCb with
    | none => exact .pure _
    | some timeoutCb =>
      refine .bind (.modify _) fun _ => ?_
      rw [quiet.timeoutCb timeoutCb present type]
      exact .pure _
  have erased (id : Option Nat) : Raises (· ≠ unknownRequest)
      (eraseTimer id : Action τ κ Unit) := by
    cases id with
    | none => exact .pure _
    | some id => exact .modify _
  have refreshed : Raises (· ≠ unknownRequest) (resetKeepaliveMngt : Action τ κ Unit) := by
    intro state error next thrown
    rw [resetKeepaliveMngt_apply] at thrown
    contradiction
  unfold fire at thrown
  cases bound : timer.callback with
  | cmdTimeoutCb =>
    rw [bound] at thrown
    dsimp only at thrown
    have held := sound.commands timer List.mem_cons_self bound
    unfold cmdTimeoutCb at thrown
    rw [bind_apply, get_apply] at thrown
    dsimp only at thrown
    cases found : state.requests.findFirst timer.id with
    | none => exact absurd held ((TwoIndex.findFirst_eq_none_iff _ _).mp found)
    | some request =>
      rw [found] at thrown
      refine (Raises.choice ?_ ?_ : Raises (· ≠ unknownRequest) _) state error next thrown
      · refine .bind (.modify _) fun _ => .bind .get fun _ => ?_
        split
        · exact .bind (raises_write env _) fun _ => refreshed
        · exact refreshed
      · exact .bind (silent _) fun _ => .bind (erased _) fun _ => .modify _
  | dipTimeoutCb =>
    rw [bound] at thrown
    exact reported .dipTimeout state error next thrown
  | kaTimeoutCb =>
    rw [bound] at thrown
    exact reported .kaTimeout state error next thrown
  | kaMngtTimeoutCb =>
    rw [bound] at thrown
    refine (Raises.bind (raises_sendKeepalive env) fun _ => ?_ :
      Raises (· ≠ unknownRequest) (kaMngtTimeoutCb env)) state error next thrown
    exact .bind .get fun _ => .bind (.bind .get fun _ => .bind (.modify _) fun _ => .pure _)
      fun _ => .modify _

/-- No callback of a quiet batch finds its request unknown. -/
theorem fireAll_known (env : Environment τ κ) (quiet : Quiet env)
    {batch : List (Timer TimerCallback)} {state next : State τ κ} {error : Exn}
    (coherent : Coherent state.toFields) (sound : BatchSound state.toFields batch)
    (thrown : fireAll env batch state = .error error next) : error ≠ unknownRequest := by
  induction batch generalizing state with
  | nil => contradiction
  | cons timer batch ih =>
    rcases (bind_eq_error_iff _ _ _ _ _).mp thrown with early | ⟨_, middle, first, late⟩
    · exact fire_known env quiet sound early
    · obtain ⟨still, left, -⟩ := fire_coherent env coherent sound first
      exact ih still left late

/-! ## Sessions -/

/-- What happens within a session: the connection does not restart the manager, and keepalives are
managed until it ends. -/
def InSession : Event τ κ → Prop
  | .start => False
  | .stopKeepaliveManagement => False
  | _ => True

/-- The event that begins the management of keepalives. -/
def managesKeepalives : Event τ κ → Bool
  | .startKeepaliveManagement _ _ => true
  | _ => false

/-- An operation of a session that returns keeps the manager coherent, if keepalives are not
managed twice; the others leave the management of keepalives alone. -/
theorem perform_coherent (env : Environment τ κ) {event : Event τ κ} {state next : State τ κ}
    (coherent : Coherent state.toFields) (session : InSession event)
    (once : managesKeepalives event = true → state.keepaliveMngt = false)
    (enabled : Enabled state event) (returned : perform env event state = .ok () next) :
    Coherent next.toFields ∧
      (managesKeepalives event = false → next.keepaliveMngt = state.keepaliveMngt) := by
  cases event with
  | start => contradiction
  | stopKeepaliveManagement => contradiction
  | stop =>
    cases returned
    exact ⟨coherent.renumber _ _ _ false, fun _ => rfl⟩
  | transport transport =>
    cases returned
    exact ⟨coherent, fun _ => rfl⟩
  | sendCommand type data cb timeout =>
    obtain ⟨cmd, requests, -, -, inserted, rfl⟩ :=
      (sendCommand_eq_ok_iff _ _ _ _ _ _ _).mp returned
    obtain ⟨-, -, entries⟩ := (TwoIndex.insert_eq_some_iff _ _ _).mp inserted
    refine ⟨coherent.prepared timeout requests _ rfl ⟨rfl, Nat.zero_le _⟩ entries, fun _ => ?_⟩
    rw [State.toFields_withFields, Fields.prepared_eq]
  | sendHip identification timeout =>
    obtain ⟨fields, -⟩ := sendHip_eq_ok _ _ _ _ _ _ returned
    rw [fields]
    exact ⟨(coherent.renumber _ next.packetId _ _).withDipTimer timeout, fun _ => rfl⟩
  | startKeepaliveManagement interval timeout =>
    obtain ⟨fields, -⟩ := startKeepaliveManagement_eq_ok _ _ _ _ _ _ returned
    rw [fields]
    refine ⟨coherent.managed (once rfl) interval next.packetId (timeout / timeBaseMs), ?_⟩
    intro absurdity
    contradiction
  | ackCommand packet =>
    obtain ⟨id, found, -, search, -, rfl⟩ := (ackCommand_eq_ok_iff _ _ _ _ _).mp returned
    obtain ⟨inside, rfl⟩ := (TwoIndex.findSecond_eq_some_iff _ _ _).mp search
    exact ⟨coherent.concluded found inside _
      (TwoIndex.eraseSecond_eq_eraseFirst _ found inside), fun _ => rfl⟩
  | ackKeepalive =>
    have same := (EStateM.Result.ok.inj ((ackKeepalive_apply state).symm.trans returned)).2
    rw [← same]
    exact ⟨coherent.withoutKaTimers, fun _ => rfl⟩
  | ackDip =>
    have same := (EStateM.Result.ok.inj ((ackDip_apply state).symm.trans returned)).2
    rw [← same, State.toFields_withFields]
    refine ⟨coherent.withoutDipTimer, fun _ => ?_⟩
    rw [Fields.withoutTimer_eq]
  | runOnce batch =>
    obtain ⟨still, alone⟩ := fireAll_coherent env coherent.ticked
      (batchSound_expired coherent enabled.2) returned
    exact ⟨still, fun _ => alone⟩

/-- Operations that return keep the manager coherent over a session in which keepalives come to be
managed at most once. -/
theorem session_coherent {env : Environment τ κ} {start finish : State τ κ}
    {events : List (Event τ κ)} (run : Run (Guarded (Returns env) (Step env)) start events finish)
    (session : ∀ event ∈ events, InSession event)
    (once : events.countP managesKeepalives ≤ if start.keepaliveMngt then 0 else 1)
    (coherent : Coherent start.toFields) : Coherent finish.toFields := by
  induction run with
  | nil => exact coherent
  | @cons start middle finish event events taken rest ih =>
    obtain ⟨⟨next, returned⟩, enabled, rfl⟩ := taken
    rw [returned, after_ok] at rest ih
    rw [List.countP_cons] at once
    have allowed : managesKeepalives event = true → start.keepaliveMngt = false := by
      intro manages
      rw [if_pos manages] at once
      by_cases managed : start.keepaliveMngt = true
      · rw [if_pos managed] at once
        omega
      · exact Bool.eq_false_iff.mpr managed
    obtain ⟨still, alone⟩ := perform_coherent env coherent
      (session event List.mem_cons_self) allowed enabled returned
    refine ih (fun other inside => session other (List.mem_cons_of_mem _ inside)) ?_ still
    by_cases manages : managesKeepalives event = true
    · rw [if_pos manages, allowed manages] at once
      have none : events.countP managesKeepalives = 0 := by
        rw [if_neg (by decide)] at once
        omega
      rw [none]
      exact Nat.zero_le _
    · rw [if_neg manages] at once
      rw [alone (Bool.eq_false_iff.mpr manages)]
      exact once

/-- In every state a session reaches by operations that return, whatever happened before it, the
timer and request table invariant holds and no tick throws that a request is unknown. -/
theorem timerTable_invariant (env : Environment τ κ) (quiet : Quiet env) (transport : τ)
    (history events : List (Event τ κ)) (idle state : State τ κ)
    (before : Run (Step env) (State.initial transport) history idle)
    (stopped : idle.running = false)
    (run : Run (Guarded (Returns env) (Step env)) (after (start idle)) events state)
    (session : ∀ event ∈ events, InSession event)
    (once : events.countP managesKeepalives ≤ 1) :
    TableInvariant state.toFields ∧
      ∀ batch error next, Enabled state (.runOnce batch : Event τ κ) →
        runOnce env batch state = .error error next → error ≠ unknownRequest := by
  rw [start_apply idle stopped, after_ok] at run
  have coherent := session_coherent run session once (Coherent.started (issued_run before))
  refine ⟨coherent.table, ?_⟩
  intro batch error next enabled thrown
  exact fireAll_known env quiet coherent.ticked (batchSound_expired coherent enabled.2) thrown

/-- The environment that does nothing raises nothing. -/
theorem quiet_quietEnvironment : Quiet quietEnvironment where
  invoke := fun _ _ => rfl
  timeoutCb := by
    intro timeoutCb present type
    obtain rfl := Option.some.inj present
    rfl

/-- A command of one byte, sent in the first session. -/
theorem timerTable_invariant_command :
    ∃ state, Run (Guarded (Returns quietEnvironment) (Step quietEnvironment))
        (after (start (State.initial ()))) [.sendCommand 1 [0] () commandTimeout] state ∧
      TableInvariant state.toFields := by
  have started : Run (Step quietEnvironment) (State.initial ()) [.start]
      (after (start (State.initial ()))) := .cons ⟨trivial, rfl⟩ (.nil _)
  have returns := (sendCommand_returns_iff quietEnvironment _ (issued_run started) 1 [0] ()
    commandTimeout).mpr sendable_byte
  have run : Run (Guarded (Returns quietEnvironment) (Step quietEnvironment))
      (after (start (State.initial ()))) [.sendCommand 1 [0] () commandTimeout] _ :=
    .cons ⟨returns, trivial, rfl⟩ (.nil _)
  refine ⟨_, run, (timerTable_invariant quietEnvironment quiet_quietEnvironment () [] _ _ _
    (.nil _) rfl run ?_ (by decide)).1⟩
  intro event inside
  obtain rfl := List.mem_singleton.mp inside
  trivial

end Hdcp.Master
