import Hdcp.Base.Renewal
import Hdcp.Master.Statements
import Hdcp.Master.TimerTable

/-!
# What statements do to the keepalive timer

A statement leaves the timers, arms one that sends no keepalives, erases one whose identifier is
held, or makes a step of a renewal of the keepalive timer. No identifier held but
`keepalive_mngt_id_` is that of a timer that sends keepalives, so what else is erased is another.
-/

namespace Hdcp.Master

open Base

variable {τ κ : Type}

/-! ## Where the threads are -/

/-- The stage of a renewal a reset is in. -/
def Reset.stage : Reset → Stage
  | tested => .outside
  | erased => .released
  | added id => .acquired id

/-- The stage of a renewal a call of `send_command` is in. -/
def SendStep.stage : SendStep κ → Stage
  | resetting reset _ _ => reset.stage
  | _ => .outside

/-- The stage of a renewal the timer thread is in. -/
def TimerStep.stage : TimerStep κ → Stage
  | resetting reset _ => reset.stage
  | expiring callback _ => callback.send.stage
  | _ => .outside

/-- The stage of a renewal the protocol thread is in. -/
def ProtocolStep.stage : ProtocolStep κ → Stage
  | kaArm _ _ => .released
  | kaAssign id _ => .acquired id
  | acking callback => callback.send.stage
  | _ => .outside

/-- `stop_keepalive_management` cleared the flag, or `start` is between the clearing of the timers
and its end. -/
def ProtocolStep.ending : ProtocolStep κ → Bool
  | stopErase | startNow | startNumber | startFlag | startRun => true
  | _ => false

/-- The next statement of a call erases the keepalive timer. -/
def SendStep.erases : SendStep κ → Bool
  | resetting .tested _ _ => true
  | _ => false

/-- The next statement of the timer thread erases the keepalive timer to renew it. -/
def TimerStep.erases : TimerStep κ → Bool
  | resetting .tested _ => true
  | expiring callback _ => callback.send.erases
  | _ => false

/-- The next statement of the protocol thread erases the keepalive timer to renew it. -/
def ProtocolStep.erases : ProtocolStep κ → Bool
  | acking callback => callback.send.erases
  | _ => false

/-! ## Identifiers of other timers -/

/-- An identifier issued for a timer that sends no keepalives. -/
def Foreign (queue : TimeoutQueue TimerCallback) (id : Nat) : Prop :=
  id < queue.nextId ∧ id ∉ queue.idsOf .kaMngtTimeoutCb

/-- The identifiers the fields hold, that of the keepalive timer apart. -/
def Fields.ids (fields : Fields κ) : List Nat :=
  fields.dipId.toList ++ fields.kaIds ++ fields.requests.entries.map Request.id

/-- The identifier a call holds. -/
def SendStep.ids : SendStep κ → List Nat
  | armed id _ | resetting _ id _ | refreshed id _ | numbered _ id _ | written _ id _ => [id]
  | _ => []

/-- The identifiers a callback holds. -/
def Callback.ids (callback : Callback κ) : List Nat := callback.request.id :: callback.send.ids

/-- The identifiers the timer thread holds. -/
def TimerStep.ids : TimerStep κ → List Nat
  | expiring callback _ => callback.ids
  | expired request _ | forgetting request _ => [request.id]
  | keepalivePush id _ => [id]
  | _ => []

/-- The identifiers the protocol thread holds. -/
def ProtocolStep.ids : ProtocolStep κ → List Nat
  | acking callback => callback.ids
  | fulfilled request | disarmed request => [request.id]
  | acknowledging ids => ids
  | hipAssign id | kaPush id => [id]
  | _ => []

/-- What is held is that of the connection timer, of a keepalive or of a request. -/
theorem Fields.mem_ids (fields : Fields κ) (id : Nat) :
    id ∈ fields.ids ↔ fields.dipId = some id ∨ id ∈ fields.kaIds ∨
      ∃ request ∈ fields.requests.entries, request.id = id := by
  unfold ids
  rw [List.mem_append, List.mem_append, Option.mem_toList, List.mem_map, or_assoc]

/-- The identifiers of requests are held. -/
theorem Fields.mem_ids_request {fields : Fields κ} {request : Request κ} {id : Nat}
    (known : request ∈ fields.requests.entries) (same : id = request.id) : id ∈ fields.ids :=
  (fields.mem_ids id).mpr (.inr (.inr ⟨request, known, same.symm⟩))

/-- Requests that only leave or change without their identifiers bring none. -/
theorem Fields.ids_table (fields : Fields κ) {requests : RequestSet κ}
    (fewer : ∀ request ∈ requests.entries, ∃ old ∈ fields.requests.entries, old.id = request.id)
    {id : Nat} (held : id ∈ Fields.ids { fields with requests := requests }) : id ∈ fields.ids := by
  rw [Fields.mem_ids] at held ⊢
  rcases held with dip | ka | ⟨request, inside, same⟩
  · exact .inl dip
  · exact .inr (.inl ka)
  · obtain ⟨old, known, agrees⟩ := fewer request inside
    exact .inr (.inr ⟨old, known, agrees.trans same⟩)

/-- The timers that send keepalives repeat. -/
def Repeating (queue : TimeoutQueue TimerCallback) : Prop :=
  ∀ timer ∈ queue.timers, timer.callback = .kaMngtTimeoutCb → timer.repeatInterval ≠ none

/-- No identifier held but `keepalive_mngt_id_` is that of a timer that sends keepalives. -/
structure Separate (fields : Fields κ) (ids : List Nat) : Prop where
  /-- Timers that send keepalives repeat. -/
  repeats : Repeating fields.timeoutQueue
  /-- The identifiers of the fields. -/
  own : ∀ id ∈ fields.ids, Foreign fields.timeoutQueue id
  /-- Those of a thread. -/
  thread : ∀ id ∈ ids, Foreign fields.timeoutQueue id

/-- An identifier stays foreign. -/
theorem Foreign.follows {queue next : TimeoutQueue TimerCallback} {id : Nat}
    (foreign : Foreign queue id) (follows : next.Follows queue) : Foreign next id := by
  refine ⟨Nat.lt_of_lt_of_le foreign.1 follows.nextId, ?_⟩
  intro held
  obtain ⟨timer, armed, bound, same⟩ := (next.mem_idsOf _ id).mp held
  have issued : timer.id < queue.nextId := by
    rw [same]
    exact foreign.1
  obtain ⟨old, oldIn, sameId, sameCallback⟩ := follows.timers timer armed issued
  exact foreign.2 ((queue.mem_idsOf _ id).mpr
    ⟨old, oldIn, sameCallback.trans bound, sameId.trans same⟩)

/-- Another timer's identifier is foreign. -/
theorem foreign_arm (queue : TimeoutQueue TimerCallback) (expiration : Nat)
    (repeatInterval : Option Nat) (callback : TimerCallback)
    (other : callback ≠ .kaMngtTimeoutCb) :
    Foreign (queue.arm expiration repeatInterval callback) queue.nextId := by
  refine ⟨Nat.lt_succ_self _, ?_⟩
  rw [TimeoutQueue.idsOf_arm, if_neg other]
  intro held
  obtain ⟨timer, armed, -, same⟩ := (queue.mem_idsOf _ _).mp held
  have issued := queue.ids_lt timer armed
  omega

/-- Arming a timer leaves those that send keepalives repeating. -/
theorem Repeating.arm {queue : TimeoutQueue TimerCallback} (repeats : Repeating queue)
    (expiration : Nat) (repeatInterval : Option Nat) (callback : TimerCallback)
    (fine : callback = .kaMngtTimeoutCb → repeatInterval ≠ none) :
    Repeating (queue.arm expiration repeatInterval callback) := by
  intro timer inside bound
  rcases List.mem_cons.mp inside with rfl | old
  · exact fine bound
  · exact repeats timer old bound

/-- Erasing a timer leaves the others repeating. -/
theorem Repeating.erase {queue : TimeoutQueue TimerCallback} (repeats : Repeating queue)
    (gone : Nat) : Repeating (queue.erase gone) :=
  fun timer inside bound => repeats timer ((queue.mem_erase gone timer).mp inside).1 bound

/-- Erasing a foreign timer leaves those that send keepalives. -/
theorem idsOf_erase_foreign {queue : TimeoutQueue TimerCallback} {id : Nat}
    (foreign : Foreign queue id) :
    (queue.erase id).idsOf .kaMngtTimeoutCb = queue.idsOf .kaMngtTimeoutCb := by
  rw [TimeoutQueue.idsOf_erase, List.filter_eq_self]
  intro held inside
  rw [decide_eq_true_eq]
  intro same
  rw [same] at inside
  exact foreign.2 inside

/-! ## What a statement does -/

/-- What a statement of a thread does to the fields, the identifiers the thread holds and its stage
in a renewal. -/
inductive Effect (begins : Prop) (fields : Fields κ) (mine : List Nat) (stage : Stage)
    (next : Fields κ) (later : List Nat) : Stage → Prop where
  /-- It leaves the timers, and holds no new identifier. -/
  | quiet (queue : next.timeoutQueue = fields.timeoutQueue)
      (managed : next.keepaliveMngt = fields.keepaliveMngt)
      (held : next.keepaliveMngtId = fields.keepaliveMngtId)
      (ids : ∀ id, id ∈ next.ids ∨ id ∈ later → id ∈ fields.ids ∨ id ∈ mine) :
      Effect begins fields mine stage next later stage
  /-- It arms a timer that sends no keepalives. -/
  | arm (expiration : Nat) (repeatInterval : Option Nat) (callback : TimerCallback)
      (other : callback ≠ .kaMngtTimeoutCb)
      (queue : next =
        { fields with
          timeoutQueue := fields.timeoutQueue.arm expiration repeatInterval callback
          timeoutKeepalive := next.timeoutKeepalive })
      (ids : ∀ id ∈ later, id ∈ mine ∨ id = fields.timeoutQueue.nextId) :
      Effect begins fields mine stage next later stage
  /-- It erases a timer whose identifier is held. -/
  | disarm (gone : Option Nat) (known : ∀ id ∈ gone, id ∈ fields.ids ∨ id ∈ mine)
      (same : next = fields.withoutTimer gone) (ids : ∀ id ∈ later, id ∈ mine) :
      Effect begins fields mine stage next later stage
  /-- It erases the keepalive timer to renew it. -/
  | erase (begun : begins) (outside : stage = .outside)
      (same : next = fields.withoutTimer fields.keepaliveMngtId)
      (ids : ∀ id ∈ later, id ∈ mine) : Effect begins fields mine stage next later .released
  /-- It arms the keepalive timer. -/
  | add (interval : Nat) (released : stage = .released)
      (same : next =
        { fields with
          timeoutQueue := fields.timeoutQueue.addRepeating fields.now interval .kaMngtTimeoutCb })
      (ids : ∀ id ∈ later, id ∈ mine) :
      Effect begins fields mine stage next later (.acquired fields.timeoutQueue.nextId)
  /-- It assigns the keepalive timer's identifier. -/
  | assign (id : Nat) (acquired : stage = .acquired id)
      (same : next = { fields with keepaliveMngtId := some id })
      (ids : ∀ id ∈ later, id ∈ mine) : Effect begins fields mine stage next later .outside

namespace Effect

variable {begins : Prop} {fields next : Fields κ} {mine later : List Nat} {stage after : Stage}

/-- The timers after a statement come after those before it. -/
theorem follows (effect : Effect begins fields mine stage next later after) :
    next.timeoutQueue.Follows fields.timeoutQueue := by
  cases effect with
  | quiet queue =>
    rw [queue]
    exact .refl _
  | arm expiration repeatInterval callback other same =>
    rw [same]
    exact .arm _ _ _ _
  | disarm gone known same =>
    rw [same]
    cases gone with
    | none => exact .refl _
    | some id => exact .erase _ _
  | erase begun outside same =>
    rw [same]
    cases fields.keepaliveMngtId with
    | none => exact .refl _
    | some id => exact .erase _ _
  | add interval released same =>
    rw [same]
    exact .arm _ _ _ _
  | assign id acquired same =>
    rw [same]
    exact .refl _

/-- The timers that send keepalives repeat after a statement. -/
theorem repeats (effect : Effect begins fields mine stage next later after)
    (repeating : Repeating fields.timeoutQueue) : Repeating next.timeoutQueue := by
  cases effect with
  | quiet queue =>
    rw [queue]
    exact repeating
  | arm expiration repeatInterval callback other same =>
    rw [same]
    exact repeating.arm _ _ _ fun bound => absurd bound other
  | disarm gone known same =>
    rw [same]
    cases gone with
    | none => exact repeating
    | some id => exact repeating.erase id
  | erase begun outside same =>
    rw [same]
    cases fields.keepaliveMngtId with
    | none => exact repeating
    | some id => exact repeating.erase id
  | add interval released same =>
    rw [same]
    exact repeating.arm _ _ _ fun _ => Option.some_ne_none _
  | assign id acquired same =>
    rw [same]
    exact repeating

/-- The identifiers held after a statement were held before, or are that of another timer just
armed. -/
theorem held (effect : Effect begins fields mine stage next later after) (id : Nat)
    (inside : id ∈ next.ids ∨ id ∈ later) :
    (id ∈ fields.ids ∨ id ∈ mine) ∨ Foreign next.timeoutQueue id := by
  have still (gone : Option Nat) : (fields.withoutTimer gone).ids = fields.ids := by
    rw [Fields.withoutTimer_eq]
    rfl
  cases effect with
  | quiet queue managed held ids => exact .inl (ids id inside)
  | arm expiration repeatInterval callback other same ids =>
    rcases inside with own | mine
    · rw [same] at own
      exact .inl (.inl own)
    · rcases ids id mine with old | rfl
      · exact .inl (.inr old)
      · right
        rw [same]
        exact foreign_arm _ _ _ _ other
  | disarm gone known same ids =>
    rw [same, still] at inside
    exact .inl (inside.imp_right (ids id))
  | erase begun outside same ids =>
    rw [same, still] at inside
    exact .inl (inside.imp_right (ids id))
  | add interval released same ids =>
    rw [same] at inside
    exact .inl (inside.imp_right (ids id))
  | assign other acquired same ids =>
    rw [same] at inside
    exact .inl (inside.imp_right (ids id))

/-- A statement keeps identifiers separate. -/
theorem separate (effect : Effect begins fields mine stage next later after)
    (separate : Separate fields mine) : Separate next later := by
  have foreign (id : Nat) (inside : id ∈ next.ids ∨ id ∈ later) : Foreign next.timeoutQueue id := by
    rcases effect.held id inside with (own | mine) | foreign
    · exact (separate.own id own).follows effect.follows
    · exact (separate.thread id mine).follows effect.follows
    · exact foreign
  exact ⟨effect.repeats separate.repeats, fun id own => foreign id (.inl own),
    fun id mine => foreign id (.inr mine)⟩

/-- A thread may hold more identifiers than a statement is about. -/
theorem weaken {more fewer : List Nat} (effect : Effect begins fields mine stage next later after)
    (before : ∀ id ∈ mine, id ∈ more) (now : ∀ id ∈ fewer, id ∈ later ∨ id ∈ more) :
    Effect begins fields more stage next fewer after := by
  have goes (ids : ∀ id ∈ later, id ∈ mine) (id : Nat) (inside : id ∈ fewer) : id ∈ more := by
    rcases now id inside with old | mine
    · exact before id (ids id old)
    · exact mine
  cases effect with
  | quiet queue managed held ids =>
    refine .quiet queue managed held fun id inside => ?_
    rcases inside with own | later
    · exact (ids id (.inl own)).imp_right (before id)
    · rcases now id later with old | mine
      · exact (ids id (.inr old)).imp_right (before id)
      · exact .inr mine
  | arm expiration repeatInterval callback other same ids =>
    refine .arm expiration repeatInterval callback other same fun id inside => ?_
    rcases now id inside with old | mine
    · exact (ids id old).imp_left (before id)
    · exact .inl mine
  | disarm gone known same ids =>
    exact .disarm gone (fun id held => (known id held).imp_right (before id)) same (goes ids)
  | erase begun outside same ids => exact .erase begun outside same (goes ids)
  | add interval released same ids => exact .add interval released same (goes ids)
  | assign id acquired same ids => exact .assign id acquired same (goes ids)

/-- A statement leaves the flag. -/
theorem managed (effect : Effect begins fields mine stage next later after) :
    next.keepaliveMngt = fields.keepaliveMngt := by
  cases effect with
  | quiet queue managed => exact managed
  | arm expiration repeatInterval callback other same => rw [same]
  | disarm gone known same => rw [same, Fields.withoutTimer_eq]
  | erase begun outside same => rw [same, Fields.withoutTimer_eq]
  | add interval released same => rw [same]
  | assign id acquired same => rw [same]

end Effect

/-! ## The statements -/

section Statements

/-- What a statement leads to: an effect, after which an exception leaves the thread outside. -/
def Affects {α : Type} (begins : Prop) (fields : Fields κ) (mine : List Nat) (stage : Stage)
    (ids : α → List Nat) (place : α → Stage) (action : Action τ κ α) : Prop :=
  Leads (OnFields (τ := τ) fun now => now = fields) action
    (fun value final => Effect begins fields mine stage final.toFields (ids value) (place value))
    (fun final => Effect begins fields mine stage final.toFields [] .outside)

namespace Affects

variable {α β : Type} {begins : Prop} {fields : Fields κ} {mine : List Nat} {stage : Stage}
  {ids : α → List Nat} {place : α → Stage}

/-- Going to a place outside a renewal. -/
theorem pure {value : α} (outside : place value = .outside)
    (fewer : ∀ id ∈ ids value, id ∈ fields.ids ∨ id ∈ mine) :
    Affects (τ := τ) begins fields mine .outside ids place (Pure.pure value) := by
  apply Leads.pure
  intro state same
  rw [outside, show state.toFields = fields from same]
  refine .quiet rfl rfl rfl fun id inside => ?_
  rcases inside with own | later
  · exact .inl own
  · exact fewer id later

/-- Throwing outside a renewal. -/
theorem throw (error : Exn) :
    Affects (τ := τ) begins fields mine .outside ids place (MonadExcept.throw error) := by
  intro state same
  constructor
  · intro value final returned
    contradiction
  · intro thrown final outcome
    cases outcome
    rw [show state.toFields = fields from same]
    exact .quiet rfl rfl rfl fun id inside => inside.imp_right nofun

/-- First the state is read. -/
theorem get {rest : State τ κ → Action τ κ α}
    (goes : ∀ state : State τ κ, state.toFields = fields →
      Affects begins fields mine stage ids place (rest state)) :
    Affects begins fields mine stage ids place (MonadState.get >>= rest) :=
  fun state same => goes state same state same

/-- First something that leaves the fields. -/
theorem bind {first : Action τ κ β} {rest : β → Action τ κ α}
    (keeps : Keeps (OnFields (τ := τ) fun now => now = fields) first)
    (goes : ∀ value, Affects begins fields mine .outside ids place (rest value)) :
    Affects begins fields mine .outside ids place (first >>= rest) := by
  refine Leads.bind (Leads.passes keeps ?_) goes
  intro state same
  rw [show state.toFields = fields from same]
  exact .quiet rfl rfl rfl fun id inside => inside.imp_right nofun

/-- One statement that does not throw. -/
theorem of_ok {action : Action τ κ α} (value : State τ κ → α) (change : State τ κ → State τ κ)
    (evaluates : ∀ state, action state = .ok (value state) (change state))
    (effect : ∀ state : State τ κ, state.toFields = fields →
      Effect begins fields mine stage (change state).toFields (ids (value state))
        (place (value state))) :
    Affects begins fields mine stage ids place action := by
  apply Leads.of_ok
  intro state same
  exact ⟨value state, change state, evaluates state, effect state same⟩

end Affects

/-- The stage after a statement of a reset. -/
def stageAfter : Option Reset → Stage
  | some reset => reset.stage
  | none => .outside

/-- A reset renews the keepalive timer. -/
theorem Reset.affects {begins : Prop} (reset : Reset) (fields : Fields κ) (mine : List Nat)
    (begun : reset = .tested → begins) :
    Affects (τ := τ) begins fields mine reset.stage (fun _ => mine) stageAfter reset.statement := by
  cases reset with
  | tested =>
    refine .of_ok (fun _ => some .erased)
      (fun state => { state with toFields := state.toFields.withoutTimer state.keepaliveMngtId })
      ?_ ?_
    · intro state
      simp only [statement, bind_apply, get_apply, eraseTimer_apply, pure_apply]
    · rintro state rfl
      exact .erase (begun rfl) rfl rfl fun id inside => inside
  | erased =>
    refine .of_ok _ _ (fun _ => rfl) ?_
    rintro state rfl
    exact .add _ rfl rfl fun id inside => inside
  | added id =>
    refine .of_ok _ _ (fun _ => rfl) ?_
    rintro state rfl
    exact .assign id rfl rfl fun id inside => inside

/-- The request inserted holds the identifier of its call. -/
theorem affects_insertRequest {begins : Prop} {fields : Fields κ} {mine : List Nat}
    {request : Request κ} (known : request.id ∈ mine) :
    Leads (OnFields (τ := τ) fun now => now = fields)
      (insertRequest request)
      (fun _ final => Effect begins fields mine .outside final.toFields [] .outside)
      (fun final => Effect begins fields mine .outside final.toFields [] .outside) := by
  have none (state : State τ κ) (same : state.toFields = fields) :
      Effect begins fields mine .outside state.toFields [] .outside := by
    rw [same]
    exact .quiet rfl rfl rfl fun id inside => inside.imp_right nofun
  intro state same
  unfold insertRequest
  rw [bind_apply, get_apply]
  dsimp only
  cases inserted : state.requests.insert request with
  | none =>
    constructor
    · intro value final returned
      contradiction
    · intro error final thrown
      cases thrown
      exact none state same
  | some requests =>
    constructor
    · intro value final returned
      cases returned
      obtain ⟨-, -, entries⟩ := (TwoIndex.insert_eq_some_iff _ _ _).mp inserted
      rw [← show state.toFields = fields from same]
      refine .quiet rfl rfl rfl ?_
      intro id inside
      rcases inside with own | absurdity
      · unfold Fields.ids at own ⊢
        change id ∈ _ ++ requests.entries.map Request.id at own
        rw [entries, List.map_cons, List.mem_append, List.mem_cons] at own
        rw [List.mem_append]
        rcases own with own | rfl | own
        · exact .inl (.inl own)
        · exact .inr known
        · exact .inl (.inr own)
      · contradiction
    · intro error final thrown
      contradiction

/-- A statement of `send_command`. -/
theorem SendStep.affects (env : Environment τ κ) (send : SendStep κ) (fields : Fields κ) :
    Affects (send.erases = true) fields send.ids send.stage SendStep.ids SendStep.stage
      (send.statement env) := by
  cases send with
  | idle => exact .pure rfl nofun
  | begun args =>
    refine .of_ok _ _ (fun _ => rfl) ?_
    rintro state rfl
    refine .arm _ _ .cmdTimeoutCb nofun rfl ?_
    intro id inside
    exact .inr (List.mem_singleton.mp inside)
  | armed id args =>
    refine .bind .get fun state => ?_
    split
    · exact .pure rfl fun _ => .inr
    · exact .pure rfl fun _ => .inr
  | resetting reset id args =>
    refine Leads.bind (reset.affects fields [id] fun same => by rw [same]; rfl) fun next => ?_
    cases next with
    | some next => exact .pure fun state effect => effect
    | none => exact .pure fun state effect => effect
  | refreshed id args =>
    refine .of_ok _ _ (fun _ => rfl) ?_
    rintro state rfl
    exact .quiet rfl rfl rfl fun _ inside => inside
  | numbered packetId id args =>
    exact .bind (keeps_made _) fun cmd => .bind (keeps_write env _) fun _ =>
      .pure rfl fun _ => .inr
  | written cmd id cb =>
    refine Leads.bind (affects_insertRequest List.mem_cons_self) fun _ => ?_
    exact .pure fun state effect => effect

/-- A statement of a callback. -/
theorem Callback.affects (program : Program τ κ) (callback : Callback κ) (fields : Fields κ) :
    Affects (callback.send.erases = true) fields callback.ids callback.send.stage
      (fun next => match next with
        | some next => next.ids
        | none => [callback.request.id])
      (fun next => match next with
        | some next => next.send.stage
        | none => .outside)
      (callback.statement program) := by
  obtain ⟨request, calls, send⟩ := callback
  unfold statement
  dsimp only
  split
  · cases program.invoke request.cb request with
    | some error => exact .throw error
    | none => exact .pure rfl fun id inside => .inr inside
  · exact .pure rfl fun id inside => .inr inside
  · have sends : Leads (OnFields (τ := τ) fun now => now = fields)
        (send.statement program.toEnvironment)
        (fun next final => Effect (send.erases = true) fields (request.id :: send.ids) send.stage
          final.toFields (request.id :: next.ids) next.stage)
        (fun final => Effect (send.erases = true) fields (request.id :: send.ids) send.stage
          final.toFields [] .outside) := by
      intro state same
      obtain ⟨returns, throws⟩ := send.affects program.toEnvironment fields state same
      constructor
      · intro next final outcome
        refine (returns next final outcome).weaken (fun _ => List.mem_cons_of_mem _) ?_
        intro id inside
        rcases List.mem_cons.mp inside with rfl | later
        · exact .inr List.mem_cons_self
        · exact .inl later
      · intro error final outcome
        exact (throws error final outcome).weaken (fun _ => List.mem_cons_of_mem _) nofun
    exact Leads.bind sends fun next => .pure fun state effect => effect

/-- The search of `cmd_timeout_cb`. -/
theorem findExpired_affects {begins : Prop} (program : Program τ κ) (id : Nat)
    (batch : List (Timer TimerCallback)) (fields : Fields κ) :
    Affects begins fields [] .outside TimerStep.ids TimerStep.stage
      (findExpired program id batch) := by
  refine .get fun state same => ?_
  cases found : state.requests.findFirst id with
  | none => exact .throw _
  | some request =>
    have known : request ∈ fields.requests.entries := by
      rw [← same]
      exact ((TwoIndex.findFirst_eq_some_iff _ _ _).mp found).1
    dsimp only
    split
    · refine .of_ok _ _ (fun _ => rfl) ?_
      rintro state rfl
      refine .quiet rfl rfl rfl fun other inside => inside.imp_left ?_
      refine state.toFields.ids_table fun changed inside => ?_
      rcases (TwoIndex.mem_modifyFirst _ _ _ _ _).mp inside with ⟨old, -⟩ | ⟨old, held, -, rfl⟩
      · exact ⟨changed, old, rfl⟩
      · exact ⟨old, held, rfl⟩
    · refine .of_ok _ _ (fun _ => rfl) ?_
      rintro state rfl
      refine .quiet rfl rfl rfl fun other inside => .inl ?_
      rcases inside with own | handed
      · exact own
      · exact Fields.mem_ids_request known (List.mem_singleton.mp handed)

/-- A statement of the timer thread. -/
theorem TimerStep.affects (program : Program τ κ) (timer : TimerStep κ) (fields : Fields κ) :
    Affects (timer.erases = true) fields timer.ids timer.stage TimerStep.ids TimerStep.stage
      (timer.statement program) := by
  cases timer with
  | idle => exact .pure rfl nofun
  | calling batch =>
    cases batch with
    | nil => exact .pure rfl nofun
    | cons timer batch =>
      obtain ⟨id, expiration, repeatInterval, bound⟩ := timer
      cases bound with
      | cmdTimeoutCb => exact findExpired_affects program id batch fields
      | dipTimeoutCb => exact .bind (keeps_reportTimeout _ _) fun _ => .pure rfl nofun
      | kaTimeoutCb => exact .bind (keeps_reportTimeout _ _) fun _ => .pure rfl nofun
      | kaMngtTimeoutCb =>
        refine .bind .get fun state => ?_
        split
        · exact .pure rfl nofun
        · exact .pure rfl nofun
  | retryTest request batch =>
    refine .bind .get fun state => ?_
    split
    · exact .pure rfl nofun
    · exact .pure rfl nofun
  | retryWrite request batch => exact .bind (keeps_write _ _) fun _ => .pure rfl nofun
  | retryReset batch =>
    refine .bind .get fun state => ?_
    split
    · exact .pure rfl nofun
    · exact .pure rfl nofun
  | resetting reset batch =>
    refine Leads.bind (reset.affects fields [] fun same => by rw [same]; rfl) fun next => ?_
    cases next with
    | some next => exact .pure fun state effect => effect
    | none => exact .pure fun state effect => effect
  | expiring callback batch =>
    refine Leads.bind (callback.affects program fields) fun next => ?_
    cases next with
    | some next => exact .pure fun state effect => effect
    | none => exact .pure fun state effect => effect
  | expired request batch =>
    refine .of_ok _ _ (fun _ => rfl) ?_
    rintro state rfl
    refine .disarm (some request.id) ?_ rfl fun id inside => inside
    intro id held
    exact .inr (List.mem_singleton.mpr (Option.some.inj held).symm)
  | forgetting request batch =>
    refine .of_ok _ _ (fun _ => rfl) ?_
    rintro state rfl
    refine .quiet rfl rfl rfl fun other inside => .inl ?_
    rcases inside with own | absurdity
    · refine state.toFields.ids_table (fun left inside => ?_) own
      exact ⟨left, ((TwoIndex.mem_eraseFirst _ _ _).mp inside).1, rfl⟩
    · contradiction
  | keepaliveNumber batch =>
    refine .of_ok _ _ (fun _ => rfl) ?_
    rintro state rfl
    exact .quiet rfl rfl rfl fun _ inside => inside
  | keepaliveWrite packetId batch =>
    exact .bind (keeps_made _) fun _ => .bind (keeps_write _ _) fun _ => .pure rfl nofun
  | keepaliveArm batch =>
    refine .of_ok _ _ (fun _ => rfl) ?_
    rintro state rfl
    exact .arm _ _ .kaTimeoutCb nofun rfl fun id inside => .inr (List.mem_singleton.mp inside)
  | keepalivePush id batch =>
    refine .of_ok _ _ (fun _ => rfl) ?_
    rintro state rfl
    refine .quiet rfl rfl rfl fun other inside => ?_
    rcases inside with own | absurdity
    · rw [Fields.mem_ids] at own ⊢
      rcases own with dip | ka | request
      · exact .inl (.inl dip)
      · rcases List.mem_append.mp ka with old | new
        · exact .inl (.inr (.inl old))
        · exact .inr new
      · exact .inl (.inr (.inr request))
    · contradiction
  | escaped error => exact .pure rfl nofun

/-- The search of `ack_command`. -/
theorem findAcked_affects {begins : Prop} (program : Program τ κ) (id : UInt16) (packet : Packet)
    (fields : Fields κ) : Affects begins fields [] .outside ProtocolStep.ids ProtocolStep.stage
      (findAcked program id packet) := by
  refine .get fun state same => ?_
  cases found : state.requests.findSecond id with
  | none => exact .throw _
  | some request =>
    have known : request ∈ fields.requests.entries := by
      rw [← same]
      exact ((TwoIndex.findSecond_eq_some_iff _ _ _).mp found).1
    refine .of_ok _ _ (fun _ => rfl) ?_
    rintro state rfl
    refine .quiet rfl rfl rfl fun other inside => .inl ?_
    rcases inside with own | handed
    · exact own
    · exact Fields.mem_ids_request known (List.mem_singleton.mp handed)

/-- The statements of `start` from the clearing of the timers on, and the last of
`stop_keepalive_management`. -/
def ProtocolStep.resets (protocol : ProtocolStep κ) : Bool :=
  match protocol with
  | startTimers => true
  | protocol => protocol.ending

/-- A statement of the protocol thread. -/
theorem ProtocolStep.affects (program : Program τ κ) (protocol : ProtocolStep κ)
    (fields : Fields κ) (regular : protocol.resets = false) :
    Affects (protocol.erases = true) fields protocol.ids protocol.stage ProtocolStep.ids
      ProtocolStep.stage (protocol.statement program) := by
  cases protocol with
  | idle => exact .pure rfl nofun
  | finding id packet => exact findAcked_affects program id packet fields
  | acking callback =>
    refine Leads.bind (callback.affects program fields) fun next => ?_
    cases next with
    | some next => exact .pure fun state effect => effect
    | none => exact .pure fun state effect => effect
  | fulfilled request =>
    refine .of_ok _ _ (fun _ => rfl) ?_
    rintro state rfl
    refine .disarm (some request.id) ?_ rfl fun id inside => inside
    intro id held
    exact .inr (List.mem_singleton.mpr (Option.some.inj held).symm)
  | disarmed request =>
    refine .of_ok _ _ (fun _ => rfl) ?_
    rintro state rfl
    refine .quiet rfl rfl rfl fun other inside => .inl ?_
    rcases inside with own | absurdity
    · refine state.toFields.ids_table (fun left inside => ?_) own
      exact ⟨left, ((TwoIndex.mem_eraseSecond _ _ _).mp inside).1, rfl⟩
    · contradiction
  | acknowledging ids =>
    cases ids with
    | nil =>
      refine .of_ok _ _ (fun _ => rfl) ?_
      rintro state rfl
      refine .quiet rfl rfl rfl fun other inside => .inl ?_
      rcases inside with own | absurdity
      · rw [Fields.mem_ids] at own ⊢
        exact own.imp_right fun rest => .inr (rest.resolve_left List.not_mem_nil)
      · contradiction
    | cons id ids =>
      refine .of_ok _ _ (fun _ => rfl) ?_
      rintro state rfl
      refine .disarm (some id) ?_ rfl fun other inside => List.mem_cons_of_mem _ inside
      intro other held
      obtain rfl := Option.some.inj held
      exact .inr List.mem_cons_self
  | hipNumber identification timeout =>
    refine .of_ok _ _ (fun _ => rfl) ?_
    rintro state rfl
    exact .quiet rfl rfl rfl fun _ inside => inside
  | hipWrite packetId identification timeout =>
    exact .bind (keeps_made _) fun _ => .bind (keeps_write _ _) fun _ => .pure rfl nofun
  | hipArm timeout =>
    refine .of_ok _ _ (fun _ => rfl) ?_
    rintro state rfl
    exact .arm _ _ .dipTimeoutCb nofun rfl fun id inside => .inr (List.mem_singleton.mp inside)
  | hipAssign id =>
    refine .of_ok _ _ (fun _ => rfl) ?_
    rintro state rfl
    refine .quiet rfl rfl rfl fun other inside => ?_
    rcases inside with own | absurdity
    · rw [Fields.mem_ids] at own ⊢
      rcases own with dip | rest
      · exact .inr (List.mem_singleton.mpr (Option.some.inj dip).symm)
      · exact .inl (.inr rest)
    · contradiction
  | kaArm interval timeout =>
    refine .of_ok _ _ (fun _ => rfl) ?_
    rintro state rfl
    exact .add _ rfl rfl fun id inside => inside
  | kaAssign id timeout =>
    refine .of_ok _ _ (fun _ => rfl) ?_
    rintro state rfl
    exact .assign id rfl rfl fun id inside => inside
  | kaTest timeout =>
    refine .bind .get fun state => ?_
    split
    · exact .pure rfl nofun
    · exact .pure rfl nofun
  | kaNumber timeout =>
    refine .of_ok _ _ (fun _ => rfl) ?_
    rintro state rfl
    exact .quiet rfl rfl rfl fun _ inside => inside
  | kaWrite packetId timeout =>
    exact .bind (keeps_made _) fun _ => .bind (keeps_write _ _) fun _ => .pure rfl nofun
  | kaAwait timeout =>
    refine .of_ok _ _ (fun _ => rfl) ?_
    rintro state rfl
    exact .arm _ _ .kaTimeoutCb nofun rfl fun id inside => .inr (List.mem_singleton.mp inside)
  | kaPush id =>
    refine .of_ok _ _ (fun _ => rfl) ?_
    rintro state rfl
    refine .quiet rfl rfl rfl fun other inside => ?_
    rcases inside with own | absurdity
    · rw [Fields.mem_ids] at own ⊢
      rcases own with dip | ka | request
      · exact .inl (.inl dip)
      · exact .inr ka
      · exact .inl (.inr (.inr request))
    · contradiction
  | startRequests =>
    refine .of_ok _ _ (fun _ => rfl) ?_
    rintro state rfl
    refine .quiet rfl rfl rfl fun other inside => .inl ?_
    rcases inside with own | absurdity
    · exact state.toFields.ids_table (fun request inside => absurd inside List.not_mem_nil) own
    · contradiction
  | joining => exact .pure rfl nofun
  | stopErase | startTimers | startNow | startNumber | startFlag | startRun => contradiction

/-- The first statement of an operation that does not set or clear the flag. -/
theorem Operation.affects {begins : Prop} (env : Environment τ κ) (operation : Operation)
    (fields : Fields κ)
    (other : ∀ interval timeout, operation ≠ .startKeepaliveManagement interval timeout)
    (another : operation ≠ .stopKeepaliveManagement) :
    Affects begins fields [] .outside ProtocolStep.ids ProtocolStep.stage
      (operation.statement env) := by
  cases operation with
  | start =>
    refine .bind .get fun state => ?_
    split
    · exact .pure rfl nofun
    · exact .pure rfl nofun
  | stop =>
    refine .get fun state same => ?_
    split
    · refine .of_ok _ _ (fun _ => rfl) ?_
      rintro state rfl
      exact .quiet rfl rfl rfl fun _ inside => inside
    · exact .pure rfl nofun
  | sendHip identification timeout =>
    refine .bind .get fun state => ?_
    split
    · exact .pure rfl nofun
    · exact .pure rfl nofun
  | startKeepaliveManagement interval timeout => exact absurd rfl (other interval timeout)
  | stopKeepaliveManagement => exact absurd rfl another
  | ackCommand packet =>
    unfold statement
    dsimp only
    split
    · exact .throw _
    · exact .pure rfl nofun
  | ackKeepalive =>
    refine .get fun state same => ?_
    refine .pure rfl fun id inside => .inl ?_
    rw [← same, Fields.mem_ids]
    exact .inr (.inl inside)
  | ackDip =>
    refine .get fun state same => ?_
    subst same
    refine .of_ok (fun _ => .idle)
      (fun now => { now with toFields := now.toFields.withoutTimer state.dipId }) ?_ ?_
    · intro now
      rw [bind_apply, eraseTimer_apply]
      rfl
    · rintro now agrees
      rw [← agrees]
      refine .disarm now.dipId ?_ ?_ nofun
      · intro id held
        exact .inl ((Fields.mem_ids _ id).mpr (.inl held))
      · rw [agrees]

end Statements

end Hdcp.Master
