import Hdcp.Master.Identifiers

/-!
# What leaves a command alone

Of everything a manager does, only its own timer and an ack that names it touch a command. The
identifiers the manager erases timers under are never the command's, and the identifiers of new
timers and requests are new.
-/

namespace Hdcp.Master

open Base

variable {τ κ : Type}

/-- An identifier already issued, under which the manager holds no other timer. -/
structure Apart (id : Nat) (fields : Fields κ) : Prop where
  /-- It was issued. -/
  issued : id < fields.timeoutQueue.nextId
  /-- It is not the keepalive timer's. -/
  mngt : fields.keepaliveMngtId ≠ some id
  /-- It is not the connection timer's. -/
  dip : fields.dipId ≠ some id
  /-- It is not that of a keepalive awaiting its ack. -/
  ka : id ∉ fields.kaIds

/-- The request and the timer under an identifier are as they were. -/
structure Untouched (id : Nat) (fields next : Fields κ) : Prop where
  /-- The request. -/
  requests : ∀ request : Request κ, request.id = id →
    (request ∈ next.requests.entries ↔ request ∈ fields.requests.entries)
  /-- The timer. -/
  timers : ∀ timer : Timer TimerCallback, timer.id = id →
    (timer ∈ next.timeoutQueue.timers ↔ timer ∈ fields.timeoutQueue.timers)
  /-- The identifier is still apart. -/
  apart : Apart id next
  /-- The clock has not moved. -/
  now : next.now = fields.now

namespace Untouched

variable {id : Nat} {fields : Fields κ}

/-- Nothing happens. -/
theorem refl (apart : Apart id fields) : Untouched id fields fields :=
  ⟨fun _ _ => Iff.rfl, fun _ _ => Iff.rfl, apart, rfl⟩

/-- One thing after another. -/
theorem trans {middle last : Fields κ} (first : Untouched id fields middle)
    (second : Untouched id middle last) : Untouched id fields last where
  requests := fun request same => (second.requests request same).trans (first.requests request same)
  timers := fun timer same => (second.timers timer same).trans (first.timers timer same)
  apart := second.apart
  now := second.now.trans first.now

/-- Packet id, keepalive delay and the flags do not matter. -/
theorem renumber (apart : Apart id fields) (keepaliveMngt : Bool) (packetId : UInt16)
    (timeoutKeepalive : Nat) (running : Bool) :
    Untouched id fields { fields with
      keepaliveMngt := keepaliveMngt, packetId := packetId, timeoutKeepalive := timeoutKeepalive,
      running := running } :=
  ⟨fun _ _ => Iff.rfl, fun _ _ => Iff.rfl,
    ⟨apart.issued, apart.mngt, apart.dip, apart.ka⟩, rfl⟩

/-- A timer is armed. -/
theorem arm (apart : Apart id fields) (expiration : Nat) (repeatInterval : Option Nat)
    (callback : TimerCallback) :
    Untouched id fields { fields with
      timeoutQueue := fields.timeoutQueue.arm expiration repeatInterval callback } where
  requests := fun _ _ => Iff.rfl
  timers := by
    rintro timer rfl
    constructor
    · intro inside
      rcases List.mem_cons.mp inside with rfl | old
      · exact absurd apart.issued (Nat.lt_irrefl _)
      · exact old
    · exact List.mem_cons_of_mem _
  apart := ⟨Nat.lt_succ_of_lt apart.issued, apart.mngt, apart.dip, apart.ka⟩
  now := rfl

/-- A new identifier is not an issued one. -/
theorem new_ne (apart : Apart id fields) : some fields.timeoutQueue.nextId ≠ some id := by
  intro same
  have issued := apart.issued
  rw [Option.some.inj same] at issued
  exact Nat.lt_irrefl _ issued

/-- A timer under another identifier is erased. -/
theorem withoutTimer (apart : Apart id fields) (gone : Option Nat) (other : gone ≠ some id) :
    Untouched id fields (fields.withoutTimer gone) := by
  cases gone with
  | none => exact .refl apart
  | some gone =>
    refine ⟨fun _ _ => Iff.rfl, ?_, ⟨apart.issued, apart.mngt, apart.dip, apart.ka⟩, rfl⟩
    rintro timer rfl
    rw [Fields.withoutTimer, TimeoutQueue.mem_erase]
    constructor
    · rintro ⟨inside, -⟩
      exact inside
    · intro inside
      refine ⟨inside, ?_⟩
      rintro rfl
      exact other rfl

/-- The keepalive timer is armed. -/
theorem withMngtTimer (apart : Apart id fields) (interval : Nat) :
    Untouched id fields (fields.withMngtTimer interval) := by
  have armed := arm apart (fields.now + interval / timeBaseMs) (some (interval / timeBaseMs))
    .kaMngtTimeoutCb
  exact ⟨armed.requests, armed.timers, ⟨armed.apart.issued, new_ne apart, apart.dip, apart.ka⟩, rfl⟩

/-- The keepalive timer is restarted. -/
theorem refreshed (apart : Apart id fields) : Untouched id fields fields.refreshed := by
  unfold Fields.refreshed
  split
  · have erased := withoutTimer apart fields.keepaliveMngtId apart.mngt
    exact erased.trans (withMngtTimer erased.apart keepaliveInterval)
  · exact .refl apart

/-- The connection timer is armed. -/
theorem withDipTimer (apart : Apart id fields) (timeout : Nat) :
    Untouched id fields (fields.withDipTimer timeout) := by
  have armed := arm apart (fields.now + timeout / timeBaseMs) none .dipTimeoutCb
  exact ⟨armed.requests, armed.timers,
    ⟨armed.apart.issued, apart.mngt, new_ne apart, apart.ka⟩, rfl⟩

/-- The timer of a keepalive is armed. -/
theorem withKaTimer (apart : Apart id fields) (others : List Nat) (absent : id ∉ others) :
    Untouched id fields (fields.withKaTimer others) := by
  have armed := arm apart (fields.now + fields.timeoutKeepalive) none .kaTimeoutCb
  refine ⟨armed.requests, armed.timers, ⟨armed.apart.issued, apart.mngt, apart.dip, ?_⟩, rfl⟩
  intro held
  rcases List.mem_append.mp held with old | new
  · exact absent old
  · have issued := apart.issued
    rw [List.mem_singleton.mp new] at issued
    exact Nat.lt_irrefl _ issued

/-- The timers of all keepalives are erased. -/
theorem withoutKaTimers (apart : Apart id fields) : Untouched id fields fields.withoutKaTimers := by
  have erased : ∀ (ids : List Nat) (fields : Fields κ), Apart id fields → id ∉ ids →
      Untouched id fields
        { fields with timeoutQueue := ids.foldl TimeoutQueue.erase fields.timeoutQueue } := by
    intro ids
    induction ids with
    | nil => exact fun _ apart _ => .refl apart
    | cons gone ids ih =>
      intro fields apart absent
      rw [List.mem_cons, not_or] at absent
      have first := withoutTimer apart (some gone) fun same => absent.1 (Option.some.inj same).symm
      exact first.trans (ih _ first.apart absent.2)
  have all := erased fields.kaIds fields apart apart.ka
  refine ⟨all.requests, all.timers, ⟨all.apart.issued, apart.mngt, apart.dip, ?_⟩, rfl⟩
  intro held
  contradiction

/-- The requests change, but not the one under the identifier. -/
theorem table (apart : Apart id fields) (requests : RequestSet κ)
    (same : ∀ request : Request κ, request.id = id →
      (request ∈ requests.entries ↔ request ∈ fields.requests.entries)) :
    Untouched id fields { fields with requests := requests } :=
  ⟨same, fun _ _ => Iff.rfl, ⟨apart.issued, apart.mngt, apart.dip, apart.ka⟩, rfl⟩

/-- A packet id is taken. -/
theorem withNextId (apart : Apart id fields) : Untouched id fields fields.withNextId :=
  renumber apart fields.keepaliveMngt (fields.packetId + 1) fields.timeoutKeepalive fields.running

/-- Another command is prepared and inserted. -/
theorem prepared (apart : Apart id fields) (timeout : Nat) (requests : RequestSet κ)
    (request : Request κ) (named : request.id = fields.timeoutQueue.nextId)
    (entries : requests.entries = request :: fields.requests.entries) :
    Untouched id fields { fields.prepared timeout with requests := requests } := by
  have armed : Untouched id fields (fields.withCmdTimer timeout) := arm apart _ _ _
  have refreshed := armed.trans (refreshed armed.apart)
  have prepared : Untouched id fields (fields.prepared timeout) :=
    refreshed.trans (withNextId refreshed.apart)
  have inserted := table prepared.apart requests ?_
  · exact prepared.trans inserted
  · intro other same
    rw [prepared.requests other same, entries, List.mem_cons, or_iff_right]
    rintro rfl
    exact new_ne apart (congrArg some (named.symm.trans same))

/-- Another request is concluded. -/
theorem concluded (apart : Apart id fields) (request : Request κ) (other : request.id ≠ id)
    (requests : RequestSet κ)
    (entries : requests.entries = (fields.requests.eraseFirst request.id).entries) :
    Untouched id fields { fields.withoutTimer (some request.id) with requests := requests } := by
  have erased := withoutTimer apart (some request.id) fun same => other (Option.some.inj same)
  have removed := table erased.apart requests ?_
  · exact erased.trans removed
  · rintro kept rfl
    rw [entries, TwoIndex.mem_eraseFirst]
    constructor
    · exact fun inside => inside.1
    · exact fun inside => ⟨inside, fun same => other same.symm⟩

/-- A retry of another request is counted. -/
theorem withRetry (apart : Apart id fields) (retried : Nat) (other : retried ≠ id) :
    Untouched id fields (fields.withRetry retried) := by
  refine table apart _ ?_
  rintro kept rfl
  rw [TwoIndex.mem_modifyFirst]
  constructor
  · rintro (⟨inside, -⟩ | ⟨old, -, rfl, rfl⟩)
    · exact inside
    · exact absurd rfl other
  · exact fun inside => .inl ⟨inside, fun same => other same.symm⟩

end Untouched

/-- The command under an identifier is left alone, and nothing is given out about it. -/
def LeftAlone (id : Nat) (state next : State τ κ) : Prop :=
  Untouched id state.toFields next.toFields ∧ next.about id = state.about id

/-- One thing after another leaves a command alone. -/
theorem LeftAlone.trans {id : Nat} {state middle next : State τ κ}
    (first : LeftAlone id state middle) (second : LeftAlone id middle next) :
    LeftAlone id state next :=
  ⟨first.1.trans second.1, second.2.trans first.2⟩

/-- A message of another command says nothing about this one. -/
theorem about_sent (env : Environment τ κ) (state : State τ κ) (packet : Packet) (call id : Nat)
    (other : call ≠ id) : (state.sent env ⟨packet, some call⟩).about id = state.about id := by
  have unrelated : Output.concerns id (.written ⟨packet, some call⟩ : Output κ) = false :=
    decide_eq_false fun same => other (Option.some.inj same)
  unfold State.sent State.about
  split
  · rw [List.filter_append, List.filter_singleton, unrelated]
    exact List.append_nil _
  · rfl

/-- A message of a command is given out if there is a transport. -/
theorem about_sent_self (env : Environment τ κ) (state : State τ κ) (packet : Packet) (id : Nat)
    (attached : env.attached = true) :
    (state.sent env ⟨packet, some id⟩).about id =
      state.about id ++ [.written ⟨packet, some id⟩] := by
  have own : Output.concerns id (.written ⟨packet, some id⟩ : Output κ) = true :=
    decide_eq_true rfl
  unfold State.sent State.about
  rw [if_pos attached, List.filter_append, List.filter_singleton, own]
  rfl

/-- Reporting another request says nothing about this one. -/
theorem about_reported (state : State τ κ) (request : Request κ) (id : Nat)
    (other : request.id ≠ id) : (state.reported request).about id = state.about id := by
  have unrelated : Output.concerns id (.called request : Output κ) = false := decide_eq_false other
  unfold State.reported State.about
  rw [List.filter_append, List.filter_singleton, unrelated]
  exact List.append_nil _

/-- Reporting a request. -/
theorem about_reported_self (state : State τ κ) (request : Request κ) :
    (state.reported request).about request.id = state.about request.id ++ [.called request] := by
  have own : Output.concerns request.id (.called request : Output κ) = true := decide_eq_true rfl
  unfold State.reported State.about
  rw [List.filter_append, List.filter_singleton, own]
  rfl

/-- The callback of a timer under another identifier leaves a command alone. -/
theorem fire_leftAlone (env : Environment τ κ) {id : Nat} {timer : Timer TimerCallback}
    {state next : State τ κ} (apart : Apart id state.toFields) (other : timer.id ≠ id)
    (returned : fire env timer state = .ok () next) : LeftAlone id state next := by
  unfold fire at returned
  have reported (type : TimeoutType) (returned : reportTimeout env type state = .ok () next) :
      LeftAlone id state next := by
    obtain ⟨fields, outputs⟩ := reportTimeout_eq_ok env type state next returned
    constructor
    · rw [fields]
      exact .refl apart
    · rw [State.about, State.about]
      rcases outputs with same | told
      · rw [same]
      · rw [told, List.filter_append]
        exact List.append_nil _
  cases bound : timer.callback with
  | cmdTimeoutCb =>
    rw [bound] at returned
    obtain ⟨request, found, outcome⟩ := (cmdTimeoutCb_eq_ok_iff _ _ _ _ _).mp returned
    obtain ⟨inside, same⟩ := (TwoIndex.findFirst_eq_some_iff _ _ _).mp found
    split at outcome
    · obtain ⟨-, rfl⟩ := (retryCommand_eq_ok_iff _ _ _ _ _ _).mp outcome
      have counted := Untouched.withRetry apart timer.id other
      refine ⟨counted.trans (.refreshed counted.apart), ?_⟩
      split
      · exact about_sent env state request.command timer.id id other
      · rfl
    · obtain ⟨-, rfl⟩ := (giveUp_eq_ok_iff _ _ _ _ _ _).mp outcome
      rw [← same] at other
      refine ⟨.concluded apart request other _ (by rw [same]), ?_⟩
      exact about_reported state _ id other
  | dipTimeoutCb =>
    rw [bound] at returned
    exact reported .dipTimeout returned
  | kaTimeoutCb =>
    rw [bound] at returned
    exact reported .kaTimeout returned
  | kaMngtTimeoutCb =>
    rw [bound] at returned
    obtain ⟨fields, silent⟩ := kaMngtTimeoutCb_eq_ok env state next () returned
    refine ⟨?_, silent id⟩
    rw [fields]
    have numbered := Untouched.renumber apart state.keepaliveMngt next.packetId
      state.timeoutKeepalive state.running
    exact numbered.trans (.withKaTimer numbered.apart state.kaIds apart.ka)

/-- A batch without the command's timer leaves the command alone. -/
theorem fireAll_leftAlone (env : Environment τ κ) {id : Nat} {batch : List (Timer TimerCallback)}
    (state next : State τ κ) (apart : Apart id state.toFields)
    (others : ∀ timer ∈ batch, timer.id ≠ id)
    (returned : fireAll env batch state = .ok () next) : LeftAlone id state next := by
  induction batch generalizing state with
  | nil =>
    cases returned
    exact ⟨.refl apart, rfl⟩
  | cons timer batch ih =>
    obtain ⟨_, middle, first, rest⟩ := (bind_eq_ok_iff _ _ _ _ _).mp returned
    have before := fire_leftAlone env apart (others timer List.mem_cons_self) first
    exact before.trans (ih middle before.1.apart
      (fun other inside => others other (List.mem_cons_of_mem _ inside)) rest)

/-- The callbacks of a joined batch run one part after the other. -/
theorem fireAll_append (env : Environment τ κ) (front back : List (Timer TimerCallback))
    (state next : State τ κ) :
    fireAll env (front ++ back) state = .ok () next ↔
      ∃ middle, fireAll env front state = .ok () middle ∧
        fireAll env back middle = .ok () next := by
  induction front generalizing state with
  | nil => simp [fireAll]
  | cons timer front ih =>
    rw [List.cons_append, fireAll, fireAll, bind_eq_ok_iff]
    simp only [bind_eq_ok_iff, ih]
    constructor
    · rintro ⟨value, first, fired, middle, before, rest⟩
      exact ⟨middle, ⟨value, first, fired, before⟩, rest⟩
    · rintro ⟨middle, ⟨value, first, fired, before⟩, rest⟩
      exact ⟨value, first, fired, middle, before, rest⟩

end Hdcp.Master
