import Hdcp.Master.KeepaliveEffects
import Hdcp.Master.SendFailure

/-!
# One keepalive timer

`send_command` in the user threads and `cmd_timeout_cb` in the timer thread renew the keepalive
timer, and `start_keepalive_management` arms the first, without a common lock. In every run in which
they do so one at a time, exactly one timer sends keepalives and `keepalive_mngt_id_` is its
identifier; two at a time leave a timer that nobody can cancel.
-/

namespace Hdcp.Master

open Base

variable {τ κ ι : Type}

/-- The stage of a renewal a thread is in. -/
def Crew.stage (crew : Crew τ κ ι) : Thread ι → Stage
  | .timer => crew.timer.stage
  | .protocol => crew.protocol.stage
  | .user user => (crew.users user).stage

/-- The identifiers a thread holds. -/
def Crew.ids (crew : Crew τ κ ι) : Thread ι → List Nat
  | .timer => crew.timer.ids
  | .protocol => crew.protocol.ids
  | .user user => (crew.users user).ids

/-- `keepalive_mngt_` is set and not about to be cleared. -/
def Crew.managed (crew : Crew τ κ ι) : Bool :=
  crew.manager.keepaliveMngt && !crew.protocol.ending

/-- The keepalive timer and the threads that renew it. -/
def Crew.renewal (crew : Crew τ κ ι) : Renewal (Thread ι) where
  wanted := crew.managed
  held := crew.manager.keepaliveMngtId
  present := crew.manager.timeoutQueue.idsOf .kaMngtTimeoutCb
  stage := crew.stage

/-- A turn that begins no renewal while another is under way: while keepalives are managed, a thread
erases the keepalive timer only when no other is between its erase and its assignment; and
`start_keepalive_management` begins only when no thread is and no timer sends keepalives. -/
def Crew.Orderly (crew : Crew τ κ ι) : Turn τ κ ι → Prop
  | .timer => crew.timer.erases = true → crew.managed = true → crew.renewal.Alone .timer
  | .protocol => crew.protocol.erases = true → crew.managed = true → crew.renewal.Alone .protocol
  | .user user => (crew.users user).erases = true → crew.managed = true →
      crew.renewal.Alone (.user user)
  | .operate (.startKeepaliveManagement _ _) =>
      crew.renewal.Settled ∧ crew.manager.timeoutQueue.idsOf .kaMngtTimeoutCb = []
  | _ => True

/-- The timer thread is in none of the operations that renew the keepalive timer. -/
def TimerStep.rests (timer : TimerStep κ) : Bool :=
  match timer with
  | escaped _ => true
  | timer => timer.ended

/-- No thread is in the middle of an operation. -/
structure Crew.Rests (crew : Crew τ κ ι) : Prop where
  /-- The timer thread is in no callback. -/
  timer : crew.timer.rests = true
  /-- The protocol thread is in no operation. -/
  protocol : crew.protocol.ended = true
  /-- No user is in `send_command`. -/
  users : ∀ user, (crew.users user).ended = true

/-- Exactly one timer sends keepalives and `keepalive_mngt_id_` is its identifier. -/
def OneSender (fields : Fields κ) : Prop :=
  ∃ id, fields.keepaliveMngtId = some id ∧ fields.timeoutQueue.idsOf .kaMngtTimeoutCb = [id]

/-! ## What holds between two statements -/

/-- `start_keepalive_management` is not asked for yet, or not any more: the flag is clear. -/
def ProtocolStep.cleared : ProtocolStep κ → Bool
  | stopErase | startRun => true
  | _ => false

/-- What holds between any two statements of the threads. -/
structure Crew.Clean (crew : Crew τ κ ι) : Prop where
  /-- The identifiers of each thread, and of the fields, are not the keepalive timer's. -/
  separate : ∀ thread, Separate crew.manager.toFields (crew.ids thread)
  /-- The flag is clear where the protocol thread cleared it. -/
  cleared : crew.protocol.cleared = true → crew.manager.keepaliveMngt = false
  /-- The keepalive timer is the only one, or one thread renews it. -/
  single : crew.renewal.Single

/-- A thread executes a statement. -/
structure Advances (begins : Prop) (crew next : Crew τ κ ι) (thread : Thread ι) : Prop where
  /-- What it does. -/
  effect : Effect begins crew.manager.toFields (crew.ids thread) (crew.stage thread)
    next.manager.toFields (next.ids thread) (next.stage thread)
  /-- The other threads stay. -/
  others : ∀ other, other ≠ thread →
    next.ids other = crew.ids other ∧ next.stage other = crew.stage other

namespace Advances

variable {begins : Prop} {crew next : Crew τ κ ι} {thread : Thread ι}

/-- Identifiers stay separate. -/
theorem separate (advances : Advances begins crew next thread)
    (clean : ∀ thread, Separate crew.manager.toFields (crew.ids thread)) (other : Thread ι) :
    Separate next.manager.toFields (next.ids other) := by
  have own := advances.effect.separate (clean thread)
  by_cases same : other = thread
  · rw [same]
    exact own
  · refine ⟨own.repeats, own.own, ?_⟩
    rw [(advances.others other same).1]
    exact fun id held => ((clean other).thread id held).follows advances.effect.follows

/-- The stages of the threads. -/
theorem goes (advances : Advances begins crew next thread) {stage : Stage}
    (moves : next.stage thread = stage) : crew.renewal.Goes next.renewal thread stage :=
  ⟨moves, fun other different => (advances.others other different).2⟩

/-- A statement is a step of a renewal, or leaves the keepalive timer. -/
theorem renews (advances : Advances begins crew next thread)
    (separate : Separate crew.manager.toFields (crew.ids thread))
    (alone : begins → crew.managed = true → crew.renewal.Alone thread)
    (managed : next.managed = crew.managed) : crew.renewal.Renews next.renewal := by
  have stays (same : next.stage thread = crew.stage thread) (other : Thread ι) :
      next.stage other = crew.stage other := by
    by_cases different : other = thread
    · rw [different]
      exact same
    · exact (advances.others other different).2
  have effect := advances.effect
  generalize moves : next.stage thread = stage at effect
  cases effect with
  | quiet queue flag held ids =>
    refine .same managed held ?_ (stays moves)
    change next.manager.timeoutQueue.idsOf _ = _
    rw [queue]
    rfl
  | arm expiration repeatInterval callback other same ids =>
    have held : next.manager.keepaliveMngtId = crew.manager.keepaliveMngtId := by rw [same]
    refine .same managed held ?_ (stays moves)
    change next.manager.timeoutQueue.idsOf _ = _
    rw [same]
    exact (TimeoutQueue.idsOf_arm _ _ _ _ _).trans (if_neg other)
  | disarm gone known same ids =>
    have held : next.manager.keepaliveMngtId = crew.manager.keepaliveMngtId := by
      rw [same, Fields.withoutTimer_eq]
    refine .same managed held ?_ (stays moves)
    change next.manager.timeoutQueue.idsOf _ = _
    rw [same]
    cases gone with
    | none => rfl
    | some id =>
      apply idsOf_erase_foreign
      rcases known id rfl with own | mine
      · exact separate.own id own
      · exact separate.thread id mine
  | erase begun outside same ids =>
    have held : next.manager.keepaliveMngtId = crew.manager.keepaliveMngtId := by
      rw [same, Fields.withoutTimer_eq]
    refine .release thread managed (alone begun) outside held ?_ (advances.goes moves)
    change next.manager.timeoutQueue.idsOf _ = List.filter _ (TimeoutQueue.idsOf _ _)
    rw [same]
    unfold Fields.withoutTimer Crew.renewal
    dsimp only
    cases crew.manager.keepaliveMngtId with
    | none => simp
    | some id => simp
  | add interval released same ids =>
    have held : next.manager.keepaliveMngtId = crew.manager.keepaliveMngtId := by rw [same]
    refine .acquire thread _ managed released held ?_ (advances.goes moves)
    change next.manager.timeoutQueue.idsOf _ = _
    rw [same]
    exact TimeoutQueue.idsOf_arm _ _ _ _ _
  | assign id acquired same ids =>
    have held : next.manager.keepaliveMngtId = some id := by rw [same]
    refine .remember thread id managed acquired held ?_ (advances.goes moves)
    change next.manager.timeoutQueue.idsOf _ = _
    rw [same]
    rfl

/-- A statement of a thread that does not clear the flag keeps what holds. -/
theorem clean (advances : Advances begins crew next thread) (clean : crew.Clean)
    (alone : begins → crew.managed = true → crew.renewal.Alone thread)
    (cleared : next.protocol.cleared = true → next.manager.keepaliveMngt = false)
    (managed : next.managed = true → crew.managed = true) : next.Clean := by
  refine ⟨advances.separate clean.separate, cleared, ?_⟩
  by_cases on : next.managed = true
  · have same : next.managed = crew.managed := by rw [on, managed on]
    exact clean.single.renews (advances.renews (clean.separate thread) alone same)
  · intro wanted
    exact absurd wanted on

/-- A statement of a thread while the protocol thread stays keeps what holds. -/
theorem clean_apart (advances : Advances begins crew next thread) (clean : crew.Clean)
    (alone : begins → crew.managed = true → crew.renewal.Alone thread)
    (stays : next.protocol = crew.protocol) : next.Clean := by
  have flag := advances.effect.managed
  have managed : next.managed = crew.managed := by
    unfold Crew.managed
    rw [flag, stays]
  refine advances.clean clean alone ?_ ?_
  · rw [stays, flag]
    exact clean.cleared
  · rw [managed]
    exact id

end Advances

/-! ## The threads' statements -/

variable {program : Program τ κ} {crew next : Crew τ κ ι}

/-- The timer thread executes a statement. -/
theorem advances_timerDoes {begins : Prop} {statement : Action τ κ (TimerStep κ)}
    (affects : Affects begins crew.manager.toFields crew.timer.ids crew.timer.stage TimerStep.ids
      TimerStep.stage statement) :
    Advances begins crew (crew.timerDoes statement) .timer := by
  obtain ⟨returns, throws⟩ := affects crew.manager rfl
  unfold Crew.timerDoes
  cases outcome : statement crew.manager with
  | ok timer manager =>
    refine ⟨returns timer manager outcome, fun other different => ?_⟩
    cases other with
    | timer => contradiction
    | protocol => exact ⟨rfl, rfl⟩
    | user user => exact ⟨rfl, rfl⟩
  | error error manager =>
    refine ⟨throws error manager outcome, fun other different => ?_⟩
    cases other with
    | timer => contradiction
    | protocol => exact ⟨rfl, rfl⟩
    | user user => exact ⟨rfl, rfl⟩

/-- The protocol thread executes a statement. -/
theorem advances_protocolDoes {begins : Prop} {statement : Action τ κ (ProtocolStep κ)}
    (affects : Affects begins crew.manager.toFields crew.protocol.ids crew.protocol.stage
      ProtocolStep.ids ProtocolStep.stage statement) :
    Advances begins crew (crew.protocolDoes statement) .protocol := by
  obtain ⟨returns, throws⟩ := affects crew.manager rfl
  unfold Crew.protocolDoes
  cases outcome : statement crew.manager with
  | ok protocol manager =>
    refine ⟨returns protocol manager outcome, fun other different => ?_⟩
    cases other with
    | timer => exact ⟨rfl, rfl⟩
    | protocol => contradiction
    | user user => exact ⟨rfl, rfl⟩
  | error error manager =>
    refine ⟨throws error manager outcome, fun other different => ?_⟩
    cases other with
    | timer => exact ⟨rfl, rfl⟩
    | protocol => contradiction
    | user user => exact ⟨rfl, rfl⟩

/-- A user executes a statement. -/
theorem advances_userDoes [DecidableEq ι] {begins : Prop} {user : ι}
    {statement : Action τ κ (SendStep κ)}
    (affects : Affects begins crew.manager.toFields (crew.users user).ids (crew.users user).stage
      SendStep.ids SendStep.stage statement) :
    Advances begins crew (crew.userDoes user statement) (.user user) := by
  obtain ⟨returns, throws⟩ := affects crew.manager rfl
  have stays (manager : State τ κ) (send : SendStep κ) (other : Thread ι)
      (different : other ≠ .user user) :
      Crew.ids { crew with manager := manager, users := Function.update crew.users user send }
          other = crew.ids other ∧
        Crew.stage { crew with manager := manager, users := Function.update crew.users user send }
          other = crew.stage other := by
    cases other with
    | timer => exact ⟨rfl, rfl⟩
    | protocol => exact ⟨rfl, rfl⟩
    | user other =>
      have apart : other ≠ user := fun same => different (by rw [same])
      unfold Crew.ids Crew.stage
      dsimp only
      rw [Function.update_of_ne apart]
      exact ⟨rfl, rfl⟩
  unfold Crew.userDoes
  cases outcome : statement crew.manager with
  | ok send manager =>
    refine ⟨?_, stays manager send⟩
    unfold Crew.ids Crew.stage
    dsimp only
    rw [Function.update_self]
    exact returns send manager outcome
  | error error manager =>
    refine ⟨?_, stays manager .idle⟩
    unfold Crew.ids Crew.stage
    dsimp only
    rw [Function.update_self]
    exact throws error manager outcome

/-- Outside `start` and `stop_keepalive_management` the flag is not about to be cleared. -/
theorem regular_ending {protocol : ProtocolStep κ} (regular : protocol.resets = false) :
    protocol.ending = false := by
  cases protocol with
  | stopErase | startTimers | startNow | startNumber | startFlag | startRun => contradiction
  | _ => rfl

/-- A statement outside `start` and `stop_keepalive_management` does not lead to where the flag was
cleared. -/
theorem ProtocolStep.yields (program : Program τ κ) (protocol : ProtocolStep κ)
    (regular : protocol.resets = false) :
    Yields (fun next => next.cleared = false) (protocol.statement program) := by
  cases protocol with
  | idle | joining => exact .pure rfl
  | finding id packet =>
    refine .bind fun state => ?_
    split
    · exact .throw _
    · exact .bind fun _ => .pure rfl
  | acking callback =>
    refine .bind fun next => ?_
    split
    · exact .pure rfl
    · exact .pure rfl
  | acknowledging ids =>
    cases ids with
    | nil => exact .bind fun _ => .pure rfl
    | cons id ids => exact .bind fun _ => .pure rfl
  | kaTest timeout =>
    refine .bind fun state => ?_
    split
    · exact .pure rfl
    · exact .pure rfl
  | hipWrite packetId identification timeout => exact .bind fun _ => .bind fun _ => .pure rfl
  | kaWrite packetId timeout => exact .bind fun _ => .bind fun _ => .pure rfl
  | kaAwait timeout => exact .bind fun _ => .bind fun _ => .bind fun _ => .pure rfl
  | stopErase | startTimers | startNow | startNumber | startFlag | startRun => contradiction
  | _ => exact .bind fun _ => .pure rfl

/-- Nor does the begin of an operation. -/
theorem Operation.yields (env : Environment τ κ) (operation : Operation)
    (another : operation ≠ .stopKeepaliveManagement) :
    Yields (fun next => next.cleared = false) (operation.statement env) := by
  cases operation with
  | start =>
    refine .bind fun state => ?_
    split
    · exact .pure rfl
    · exact .pure rfl
  | stop =>
    refine .bind fun state => ?_
    split
    · exact .bind fun _ => .pure rfl
    · exact .pure rfl
  | sendHip identification timeout =>
    refine .bind fun state => ?_
    split
    · exact .pure rfl
    · exact .pure rfl
  | startKeepaliveManagement interval timeout => exact .bind fun _ => .pure rfl
  | stopKeepaliveManagement => exact absurd rfl another
  | ackCommand packet =>
    unfold statement
    dsimp only
    split
    · exact .throw _
    · exact .pure rfl
  | ackKeepalive => exact .bind fun _ => .pure rfl
  | ackDip => exact .bind fun _ => .bind fun _ => .pure rfl

/-- After a statement of the protocol thread that yields no place where the flag was cleared, the
thread is in no such place. -/
theorem protocolDoes_cleared (crew : Crew τ κ ι) {statement : Action τ κ (ProtocolStep κ)}
    (yields : Yields (fun next => next.cleared = false) statement) :
    (crew.protocolDoes statement).protocol.cleared = false := by
  unfold Crew.protocolDoes
  cases outcome : statement crew.manager with
  | ok protocol manager => exact yields crew.manager protocol manager outcome
  | error error manager => rfl

/-! ## The turns -/

/-- Where keepalives are not managed afterwards, identifiers that stay separate are all that
matters. -/
theorem Crew.Clean.unmanaged (clean : crew.Clean)
    (follows : next.manager.timeoutQueue.Follows crew.manager.timeoutQueue)
    (repeats : Repeating next.manager.timeoutQueue)
    (fields : ∀ id ∈ next.manager.ids, id ∈ crew.manager.ids)
    (ids : ∀ thread, ∀ id ∈ next.ids thread, id ∈ crew.ids thread)
    (cleared : next.protocol.cleared = true → next.manager.keepaliveMngt = false)
    (off : next.managed = false) : next.Clean := by
  refine ⟨fun thread => ⟨repeats, ?_, ?_⟩, cleared, ?_⟩
  · exact fun id held => ((clean.separate thread).own id (fields id held)).follows follows
  · exact fun id held => ((clean.separate thread).thread id (ids thread id held)).follows follows
  · intro wanted
    rw [show next.managed = true from wanted] at off
    contradiction

/-- The statements of `start` and `stop_keepalive_management` that are about the flag and the timers
as a whole. -/
theorem clean_resets (clean : crew.Clean) (resets : crew.protocol.resets = true) :
    (crew.protocolDoes (crew.protocol.statement program)).Clean := by
  obtain ⟨manager, timer, protocol, users⟩ := crew
  have repeats := (clean.separate .protocol).repeats
  cases protocol with
  | stopErase =>
    have off : manager.keepaliveMngt = false := clean.cleared rfl
    have same : Crew.protocolDoes ⟨manager, timer, .stopErase, users⟩
        (ProtocolStep.stopErase.statement program) =
          ⟨{ manager with toFields := manager.toFields.withoutTimer manager.keepaliveMngtId },
            timer, .idle, users⟩ := by
      unfold Crew.protocolDoes ProtocolStep.statement
      simp only [bind_apply, get_apply, eraseTimer_apply, pure_apply]
    rw [same]
    have follows : (manager.toFields.withoutTimer manager.keepaliveMngtId).timeoutQueue.Follows
        manager.timeoutQueue := by
      cases manager.keepaliveMngtId with
      | none => exact .refl _
      | some id => exact .erase _ _
    refine clean.unmanaged follows ?_ ?_ ?_ nofun ?_
    · change Repeating (manager.toFields.withoutTimer manager.keepaliveMngtId).timeoutQueue
      cases manager.keepaliveMngtId with
      | none => exact repeats
      | some id => exact repeats.erase id
    · intro id held
      change id ∈ (manager.toFields.withoutTimer manager.keepaliveMngtId).ids at held
      rw [Fields.withoutTimer_eq] at held
      exact held
    · intro thread id held
      cases thread with
      | protocol => contradiction
      | timer => exact held
      | user user => exact held
    · change ((manager.toFields.withoutTimer manager.keepaliveMngtId).keepaliveMngt && true) = false
      rw [Fields.withoutTimer_eq, off]
      rfl
  | startTimers =>
    refine clean.unmanaged (.clear _) nofun (fun id held => held) ?_ nofun (Bool.and_false _)
    intro thread id held
    cases thread with
    | protocol => contradiction
    | timer => exact held
    | user user => exact held
  | startRun =>
    refine clean.unmanaged (.refl _) repeats (fun id held => held) ?_ nofun ?_
    · intro thread id held
      cases thread with
      | protocol => contradiction
      | timer => exact held
      | user user => exact held
    · change (manager.keepaliveMngt && true) = false
      rw [show manager.keepaliveMngt = false from clean.cleared rfl]
      rfl
  | startNow | startNumber | startFlag =>
    refine clean.unmanaged (.refl _) repeats (fun id held => held) ?_ (fun _ => ?_)
      (Bool.and_false _)
    · intro thread id held
      cases thread with
      | protocol => contradiction
      | timer => exact held
      | user user => exact held
    · first | rfl | contradiction
  | _ => contradiction

/-- The batch of a tick leaves. -/
theorem clean_take (clean : crew.Clean) (idle : crew.timer = .idle)
    (batch : List (Timer TimerCallback)) :
    (crew.timerDoes do
      takeBatch
      return .calling batch).Clean := by
  have repeats := (clean.separate .timer).repeats
  have ids (thread : Thread ι) : Crew.ids (crew.timerDoes do
      takeBatch
      return .calling batch) thread = crew.ids thread := by
    cases thread with
    | timer =>
      unfold Crew.ids
      dsimp only
      rw [idle]
      rfl
    | protocol => rfl
    | user user => rfl
  refine ⟨fun thread => ⟨?_, ?_, ?_⟩, clean.cleared, ?_⟩
  · intro timer inside bound
    obtain ⟨old, armed, kept⟩ := (TimeoutQueue.mem_advance _ _ timer).mp inside
    obtain ⟨-, same, agrees⟩ := Timer.advance_keeps kept
    rw [same]
    exact repeats old armed (agrees ▸ bound)
  · exact fun id held => ((clean.separate thread).own id held).follows (.advance _ _)
  · intro id held
    rw [ids thread] at held
    exact ((clean.separate thread).thread id held).follows (.advance _ _)
  · refine clean.single.renews (.same rfl rfl ?_ ?_)
    · exact TimeoutQueue.idsOf_advance _ _ _ repeats
    · intro thread
      cases thread with
      | timer => exact (show crew.timer.stage = .outside from by rw [idle]; rfl).symm
      | protocol => rfl
      | user user => rfl

/-- The protocol thread begins an operation. -/
theorem clean_operate (clean : crew.Clean) (idle : crew.protocol = .idle) (operation : Operation)
    (orderly : crew.Orderly (.operate operation)) :
    (crew.protocolDoes (operation.statement program.toEnvironment)).Clean := by
  have ids (manager : State τ κ) (protocol : ProtocolStep κ) (none : protocol.ids = [])
      (thread : Thread ι) (id : Nat)
      (held : id ∈ Crew.ids { crew with manager := manager, protocol := protocol } thread) :
      id ∈ crew.ids thread := by
    cases thread with
    | protocol =>
      change id ∈ protocol.ids at held
      rw [none] at held
      contradiction
    | timer => exact held
    | user user => exact held
  by_cases stops : operation = .stopKeepaliveManagement
  · subst stops
    exact clean.unmanaged (.refl _) (clean.separate .timer).repeats (fun id held => held)
      (ids _ _ rfl) (fun _ => rfl) rfl
  · by_cases starts : ∃ interval timeout, operation = .startKeepaliveManagement interval timeout
    · obtain ⟨interval, timeout, rfl⟩ := starts
      obtain ⟨settled, absent⟩ := orderly
      refine ⟨fun thread => ⟨(clean.separate thread).repeats, (clean.separate thread).own, ?_⟩,
        nofun, ?_⟩
      · exact fun id held => (clean.separate thread).thread id (ids _ _ rfl thread id held)
      · refine clean.single.renews (.first .protocol settled absent absent ⟨rfl, ?_⟩)
        intro other different
        cases other with
        | protocol => contradiction
        | timer => rfl
        | user user => rfl
    · have affects : Affects False crew.manager.toFields crew.protocol.ids crew.protocol.stage
          ProtocolStep.ids ProtocolStep.stage (operation.statement program.toEnvironment) := by
        rw [idle]
        exact operation.affects _ _ (fun interval timeout same => starts ⟨interval, timeout, same⟩)
          stops
      have advances := advances_protocolDoes affects
      have cleared := protocolDoes_cleared crew (operation.yields program.toEnvironment stops)
      refine advances.clean clean nofun ?_ ?_
      · intro absurdity
        rw [cleared] at absurdity
        contradiction
      · have flag := advances.effect.managed
        unfold Crew.managed
        rw [flag, idle, Bool.and_eq_true, Bool.and_eq_true]
        exact fun managed => ⟨managed.1, rfl⟩

/-- The threads after a turn keep what holds, unless a renewal began while another was under way. -/
theorem clean_step [DecidableEq ι] (clean : crew.Clean) (turn : Turn τ κ ι)
    (orderly : crew.Orderly turn) (taken : crew.step program turn = some next) : next.Clean := by
  cases turn with
  | operate operation =>
    unfold Crew.step at taken
    dsimp only at taken
    split at taken
    · next idle =>
      cases taken
      exact clean_operate clean idle operation orderly
    · contradiction
  | protocol =>
    unfold Crew.step at taken
    dsimp only at taken
    split at taken
    · cases taken
      by_cases resets : crew.protocol.resets = true
      · exact clean_resets clean resets
      · have regular := Bool.eq_false_iff.mpr resets
        have advances := advances_protocolDoes
          (crew.protocol.affects program crew.manager.toFields regular)
        have cleared := protocolDoes_cleared crew (crew.protocol.yields program regular)
        refine advances.clean clean orderly ?_ ?_
        · intro absurdity
          rw [cleared] at absurdity
          contradiction
        · have flag := advances.effect.managed
          unfold Crew.managed
          rw [flag, regular_ending regular, Bool.and_eq_true, Bool.and_eq_true]
          exact fun managed => ⟨managed.1, rfl⟩
    · contradiction
  | take batch =>
    unfold Crew.step at taken
    dsimp only at taken
    split at taken
    · next idle =>
      split at taken
      · cases taken
        exact clean_take clean idle batch
      · contradiction
    · contradiction
  | timer =>
    unfold Crew.step at taken
    dsimp only at taken
    split at taken
    · cases taken
      have advances := advances_timerDoes (crew.timer.affects program crew.manager.toFields)
      refine advances.clean_apart clean orderly ?_
      unfold Crew.timerDoes
      split <;> rfl
    · contradiction
  | call user args =>
    unfold Crew.step at taken
    dsimp only at taken
    split at taken
    · next idle =>
      cases taken
      have begins : Affects False crew.manager.toFields (crew.users user).ids
          (crew.users user).stage SendStep.ids SendStep.stage
          (pure (.begun args) : Action τ κ (SendStep κ)) := by
        rw [idle]
        exact .pure rfl nofun
      exact (advances_userDoes begins).clean_apart clean nofun rfl
    · contradiction
  | user user =>
    unfold Crew.step at taken
    dsimp only at taken
    split at taken
    · cases taken
      have advances := advances_userDoes
        ((crew.users user).affects program.toEnvironment crew.manager.toFields)
      refine advances.clean_apart clean orderly ?_
      unfold Crew.userDoes
      split <;> rfl
    · contradiction
  | transport transport =>
    cases taken
    exact ⟨clean.separate, clean.cleared, clean.single⟩

/-! ## Runs -/

/-- A manager as constructed holds nothing. -/
theorem clean_initial (transport : τ) : (Crew.initial transport : Crew τ κ ι).Clean := by
  refine ⟨fun thread => ⟨nofun, nofun, ?_⟩, nofun, nofun⟩
  intro id held
  cases thread <;> contradiction

/-- A protocol thread in no operation. -/
theorem ProtocolStep.eq_idle {protocol : ProtocolStep κ} (ended : protocol.ended = true) :
    protocol = .idle := by
  cases protocol with
  | idle => rfl
  | _ => contradiction

/-- No thread that rests is in the middle of a renewal. -/
theorem Crew.Rests.settled (rests : crew.Rests) : crew.renewal.Settled := by
  intro thread
  cases thread with
  | timer =>
    have place := rests.timer
    change crew.timer.stage = .outside
    cases timer : crew.timer with
    | idle | calling batch | escaped error => rfl
    | _ =>
      rw [timer] at place
      contradiction
  | protocol =>
    change crew.protocol.stage = .outside
    rw [ProtocolStep.eq_idle rests.protocol]
    rfl
  | user user =>
    have place := rests.users user
    change (crew.users user).stage = .outside
    cases send : crew.users user with
    | idle => rfl
    | _ =>
      rw [send] at place
      contradiction

/-- In every run in which no renewal of the keepalive timer begins while another is under way,
whenever no thread is in the middle of its operation and keepalives are managed, exactly one timer
sends them and `keepalive_mngt_id_` is its identifier. -/
theorem keepaliveTimer_single [DecidableEq ι] (program : Program τ κ) (transport : τ)
    (turns : List (Turn τ κ ι)) (crew : Crew τ κ ι)
    (run : Run (Guarded Crew.Orderly (Steps (Crew.step program))) (Crew.initial transport) turns
      crew)
    (rests : crew.Rests) (managed : crew.manager.keepaliveMngt = true) :
    OneSender crew.manager.toFields := by
  have clean : crew.Clean := by
    refine run.invariant (fun crew turn next clean taken => ?_) (clean_initial transport)
    exact clean_step clean turn taken.1 taken.2
  have wanted : crew.renewal.wanted = true := by
    change (crew.manager.keepaliveMngt && !crew.protocol.ending) = true
    rw [managed, ProtocolStep.eq_idle rests.protocol]
    rfl
  exact clean.single.remembered wanted rests.settled

/-! ## Examples of runs -/

instance [Fintype ι] [DecidableEq ι] (crew : Crew τ κ ι) (thread : Thread ι) :
    Decidable (crew.renewal.Alone thread) :=
  inferInstanceAs (Decidable (∀ other, other ≠ thread → crew.stage other = .outside))

instance [Fintype ι] (crew : Crew τ κ ι) : Decidable crew.renewal.Settled :=
  inferInstanceAs (Decidable (∀ thread, crew.stage thread = .outside))

instance [Fintype ι] [DecidableEq ι] (crew : Crew τ κ ι) (turn : Turn τ κ ι) :
    Decidable (crew.Orderly turn) :=
  match turn with
  | .timer | .protocol | .user _ => inferInstanceAs (Decidable (_ → _ → _))
  | .operate operation =>
    match operation with
    | .startKeepaliveManagement _ _ => inferInstanceAs (Decidable (_ ∧ _))
    | .start | .stop | .sendHip _ _ | .stopKeepaliveManagement | .ackCommand _ | .ackKeepalive
    | .ackDip => .isTrue trivial
  | .take _ | .call _ _ | .transport _ => .isTrue trivial

instance [Fintype ι] (crew : Crew τ κ ι) : Decidable crew.Rests :=
  decidable_of_iff (crew.timer.rests = true ∧ crew.protocol.ended = true ∧
      ∀ user, (crew.users user).ended = true)
    ⟨fun ⟨timer, protocol, users⟩ => ⟨timer, protocol, users⟩,
      fun rests => ⟨rests.timer, rests.protocol, rests.users⟩⟩

/-- A manager whose transport takes everything and whose callbacks do nothing. -/
def quietProgram : Program Unit Unit where
  toEnvironment := quietEnvironment
  calls := fun _ _ => []

/-- A command of one byte. -/
def byteCommand (timeout : Nat) : CommandArgs Unit := ⟨1, [0], (), timeout⟩

/-- The manager is started, keepalives are managed, and a user sends a command whose timer expires
at once. -/
def oneCommand : List (Turn Unit Unit Unit) :=
  .operate .start :: List.replicate 6 .protocol ++
    .operate (.startKeepaliveManagement keepaliveInterval keepaliveTimeout) ::
      List.replicate 7 .protocol ++
    .call () (byteCommand 0) :: List.replicate 8 (.user ())

/-- The one timer is the one the command armed. -/
theorem keepaliveTimer_single_command :
    ∃ crew : Crew Unit Unit Unit,
      Run (Guarded Crew.Orderly (Steps (Crew.step quietProgram))) (Crew.initial ()) oneCommand
        crew ∧ crew.manager.keepaliveMngtId = some 3 ∧ OneSender crew.manager.toFields := by
  have executed : ((execute (fun crew turn =>
      if crew.Orderly turn then Crew.step quietProgram crew turn else none)
      (Crew.initial () : Crew Unit Unit Unit) oneCommand).any fun crew =>
        crew.Rests ∧ crew.manager.keepaliveMngt = true ∧
          crew.manager.keepaliveMngtId = some 3) = true := by
    decide +kernel
  obtain ⟨crew, reached, ended⟩ := (Option.any_eq_true _ _).mp executed
  obtain ⟨rests, managed, id⟩ := of_decide_eq_true ended
  have run := run_of_execute_guarded Crew.Orderly (Crew.step quietProgram) _ _ _ reached
  exact ⟨crew, run, id, keepaliveTimer_single quietProgram () oneCommand crew run rests managed⟩

/-- Then a user sends a second command, and finds `keepalive_mngt_` true; the first one's retry
does; both erase the timer, both arm a new one, both assign its identifier. -/
def twoRenewals : List (Turn Unit Unit Unit) :=
  oneCommand ++ .call () (byteCommand commandTimeout) :: List.replicate 2 (.user ()) ++
    .take [⟨2, 0, some 0, .cmdTimeoutCb⟩] :: List.replicate 4 .timer ++
    (List.replicate 3 [.timer, .user ()]).flatten ++ .timer :: List.replicate 3 (.user ())

/-- Two timers send keepalives, and only one of them can be cancelled. -/
theorem twoRenewals_leave :
    ∃ crew : Crew Unit Unit Unit,
      Run (Steps (Crew.step quietProgram)) (Crew.initial ()) twoRenewals crew ∧ crew.Rests ∧
        crew.manager.keepaliveMngt = true ∧ ¬ OneSender crew.manager.toFields := by
  have executed : ((execute (Crew.step quietProgram) (Crew.initial () : Crew Unit Unit Unit)
      twoRenewals).any fun crew => crew.Rests ∧ crew.manager.keepaliveMngt = true ∧
        crew.manager.timeoutQueue.idsOf .kaMngtTimeoutCb = [6, 5]) = true := by
    decide +kernel
  obtain ⟨crew, reached, ended⟩ := (Option.any_eq_true _ _).mp executed
  obtain ⟨rests, managed, two⟩ := of_decide_eq_true ended
  have run := (execute_eq_some_iff _ _ _ _).mp reached
  refine ⟨crew, run, rests, managed, ?_⟩
  intro one
  obtain ⟨id, -, only⟩ := one
  rw [two] at only
  exact List.cons_ne_nil _ _ (List.cons.inj only).2

end Hdcp.Master
