import Hdcp.Master.TimerTable
import Hdcp.Packet.Oversize
import Hdcp.Slave.Changes

/-!
# An ack retires its own command

In every run, whatever its operations do, each pending command has its retry timer. The ack the
slave builds for a pending command therefore calls that command's callback once and takes that
command and its timer away, and nothing else; every other ack throws and takes nothing away.
-/

namespace Hdcp.Master

open Base

variable {τ κ : Type}

/-- Every pending command has its retry timer. -/
structure Timed (fields : Fields κ) : Prop where
  /-- What identifiers are held for. -/
  owned : Owned fields
  /-- The retry timers. -/
  retry : ∀ request ∈ fields.requests.entries,
    request.id ∈ fields.timeoutQueue.idsOf .cmdTimeoutCb

namespace Timed

variable {fields : Fields κ}

/-- Timers come and go, the retry timers staying. -/
theorem keep (timed : Timed fields) {next : Fields κ} (owned : Owned next)
    (requests : next.requests = fields.requests)
    (retry : next.timeoutQueue.idsOf .cmdTimeoutCb = fields.timeoutQueue.idsOf .cmdTimeoutCb) :
    Timed next := by
  refine ⟨owned, ?_⟩
  rw [requests, retry]
  exact timed.retry

/-- Flags, clock, packet id and keepalive delay do not matter. -/
theorem renumber (timed : Timed fields) (keepaliveMngt : Bool) (now : Nat) (packetId : UInt16)
    (timeoutKeepalive : Nat) (running : Bool) :
    Timed { fields with
      keepaliveMngt := keepaliveMngt, now := now, packetId := packetId,
      timeoutKeepalive := timeoutKeepalive, running := running } :=
  ⟨⟨timed.owned.repeats, timed.owned.mngt, timed.owned.dip, timed.owned.ka⟩, timed.retry⟩

/-- A manager just started has no command. -/
theorem started (timed : Timed fields) : Timed fields.started where
  owned :=
    { repeats := fun timer inside => by contradiction
      mngt := fun id held => ⟨(timed.owned.mngt id held).1, fun timer inside => by contradiction⟩
      dip := fun id held => ⟨(timed.owned.dip id held).1, fun timer inside => by contradiction⟩
      ka := fun id held => ⟨(timed.owned.ka id held).1, fun timer inside => by contradiction⟩ }
  retry := fun request inside => by contradiction

/-- The keepalive timer is restarted. -/
theorem refreshed (timed : Timed fields) : Timed fields.refreshed := by
  refine timed.keep timed.owned.refreshed ?_ ?_
  · rw [fields.refreshed_eq]
  · exact idsOf_refreshed fields timed.owned .cmdTimeoutCb (by decide)

/-- A timer of no command is erased. -/
theorem withoutTimer (timed : Timed fields) {held : Option Nat} {callback : TimerCallback}
    (issued : ∀ id ∈ held, IssuedFor fields.timeoutQueue callback id)
    (different : TimerCallback.cmdTimeoutCb ≠ callback) : Timed (fields.withoutTimer held) := by
  refine timed.keep (timed.owned.withoutTimer held) ?_ ?_
  · rw [fields.withoutTimer_eq]
  · exact idsOf_withoutTimer fields held callback .cmdTimeoutCb issued different

/-- The timer that sends keepalives is armed. -/
theorem withMngtTimer (timed : Timed fields) (interval : Nat) :
    Timed (fields.withMngtTimer interval) :=
  timed.keep (timed.owned.withMngtTimer interval) rfl
    (TimeoutQueue.idsOf_addRepeating _ _ _ _ _)

/-- The connection timer is armed. -/
theorem withDipTimer (timed : Timed fields) (timeout : Nat) : Timed (fields.withDipTimer timeout) :=
  timed.keep (timed.owned.withDipTimer timeout) rfl (TimeoutQueue.idsOf_add _ _ _ _ _)

/-- The timer of a keepalive is armed. -/
theorem withKaTimer (timed : Timed fields) (others : List Nat)
    (known : ∀ id ∈ others, id ∈ fields.kaIds) : Timed (fields.withKaTimer others) :=
  timed.keep (timed.owned.withKaTimer others known) rfl (TimeoutQueue.idsOf_add _ _ _ _ _)

/-- The timers of all keepalives are erased. -/
theorem withoutKaTimers (timed : Timed fields) : Timed fields.withoutKaTimers :=
  timed.keep timed.owned.withoutKaTimers rfl
    (idsOf_withoutKaTimers fields timed.owned .cmdTimeoutCb (by decide))

/-- A tick took its batch. -/
theorem ticked (timed : Timed fields) : Timed fields.ticked :=
  timed.keep timed.owned.ticked rfl (idsOf_ticked fields timed.owned .cmdTimeoutCb (.inl rfl))

/-- A retry timer is armed, ahead of its command. -/
theorem withCmdTimer (timed : Timed fields) (timeout : Nat) :
    Timed (fields.withCmdTimer timeout) := by
  refine ⟨timed.owned.withCmdTimer timeout, ?_⟩
  intro request inside
  rw [Fields.withCmdTimer, TimeoutQueue.idsOf_addRepeating, if_pos rfl]
  exact List.mem_cons_of_mem _ (timed.retry request inside)

/-- A command is prepared. -/
theorem prepared (timed : Timed fields) (timeout : Nat) : Timed (fields.prepared timeout) :=
  (timed.withCmdTimer timeout).refreshed.renumber _ _ _ _ _

/-- The retry timer of a command that was prepared is armed. -/
theorem retry_prepared (timed : Timed fields) (timeout : Nat) :
    fields.timeoutQueue.nextId ∈ (fields.prepared timeout).timeoutQueue.idsOf .cmdTimeoutCb := by
  have kept := idsOf_refreshed (fields.withCmdTimer timeout) (timed.owned.withCmdTimer timeout)
    .cmdTimeoutCb (by decide)
  have armed : fields.timeoutQueue.nextId ∈
      (fields.withCmdTimer timeout).timeoutQueue.idsOf .cmdTimeoutCb := by
    rw [Fields.withCmdTimer, TimeoutQueue.idsOf_addRepeating, if_pos rfl]
    exact List.mem_cons_self
  rw [← kept] at armed
  exact armed

/-- A command joins whose retry timer is armed. -/
theorem inserted (timed : Timed fields) (request : Request κ)
    (armed : request.id ∈ fields.timeoutQueue.idsOf .cmdTimeoutCb) (requests : RequestSet κ)
    (entries : requests.entries = request :: fields.requests.entries) :
    Timed { fields with requests := requests } := by
  refine ⟨⟨timed.owned.repeats, timed.owned.mngt, timed.owned.dip, timed.owned.ka⟩, ?_⟩
  intro other inside
  rw [entries] at inside
  rcases List.mem_cons.mp inside with same | old
  · rw [same]
    exact armed
  · exact timed.retry other old

/-- A retry is counted. -/
theorem withRetry (timed : Timed fields) (id : Nat) : Timed (fields.withRetry id) := by
  refine ⟨⟨timed.owned.repeats, timed.owned.mngt, timed.owned.dip, timed.owned.ka⟩, ?_⟩
  intro changed inside
  rcases (fields.mem_withRetry_iff id changed).mp inside with ⟨old, -⟩ | ⟨old, oldIn, -, rfl⟩
  · exact timed.retry changed old
  · exact timed.retry old oldIn

/-- A command leaves with its retry timer. -/
theorem concluded (timed : Timed fields) (id : Nat) (requests : RequestSet κ)
    (left : ∀ request ∈ requests.entries, request ∈ fields.requests.entries ∧ request.id ≠ id) :
    Timed { fields.withoutTimer (some id) with requests := requests } := by
  have owned := timed.owned.withoutTimer (some id)
  refine ⟨⟨owned.repeats, owned.mngt, owned.dip, owned.ka⟩, ?_⟩
  intro request inside
  obtain ⟨old, other⟩ := left request inside
  rw [Fields.withoutTimer, TimeoutQueue.idsOf_erase]
  exact List.mem_filter.mpr ⟨timed.retry request old, decide_eq_true other⟩

end Timed

/-! ## What an ack does -/

/-- The ack of a command was processed: its callback ran once, and it and its retry timer are all
that went. -/
structure Retired (state next : State τ κ) (request : Request κ) (ack : Packet) : Prop where
  /-- The callback, of that command alone. -/
  called : next.outputs =
    state.outputs ++ [.called { request with status := .fulfilled, ack := some ack }]
  /-- The other requests are as they were, their retries included. -/
  requests : ∀ other, other ∈ next.requests.entries ↔
    other ∈ state.requests.entries ∧ other ≠ request
  /-- The other timers are as they were. -/
  timers : ∃ retry ∈ state.timeoutQueue.timers, retry.id = request.id ∧
    retry.callback = .cmdTimeoutCb ∧
      ∀ timer, timer ∈ next.timeoutQueue.timers ↔
        timer ∈ state.timeoutQueue.timers ∧ timer ≠ retry
  /-- The next identifier is too. -/
  nextId : next.timeoutQueue.nextId = state.timeoutQueue.nextId
  /-- So is everything else. -/
  rest : next = { state with
    requests := next.requests, timeoutQueue := next.timeoutQueue, outputs := next.outputs }

/-- Why an ack is refused. -/
inductive Refused (env : Environment τ κ) (state : State τ κ) (packet : Packet) : Exn → Prop where
  /-- It has no block. -/
  | noBlock (empty : packet.blocks = []) : Refused env state packet .outOfRange
  /-- Its first block is not two bytes long. -/
  | badLength (block : BlockView) (rest : List BlockView) (first : packet.blocks = block :: rest)
      (length : block.data.length ≠ 2) :
      Refused env state packet (.application .invalidCmdAckFormat none)
  /-- It names no pending command. -/
  | unknown (id : UInt16) (named : ackedId packet = .ok id)
      (unknown : ∀ request ∈ state.requests.entries, request.commandId ≠ id) :
      Refused env state packet
        (.application .requestNotFound (some ("id " ++ toString id.toNat ++ " not found")))
  /-- The callback of the command it names throws. -/
  | raised (request : Request κ) (pending : request ∈ state.requests.entries)
      (named : ackedId packet = .ok request.commandId) (error : Exn)
      (raised : env.invoke request.cb
        { request with status := .fulfilled, ack := some packet } = some error) :
      Refused env state packet error

/-- An ack that is refused changes no field: neither requests nor timers. -/
theorem ackCommand_unchanged (env : Environment τ κ) (packet : Packet) (state next : State τ κ)
    (error : Exn) (refused : ackCommand env packet state = .error error next) :
    next.toFields = state.toFields := by
  unfold ackCommand at refused
  cases named : ackedId packet with
  | error other =>
    rw [named] at refused
    cases refused
    rfl
  | ok id =>
    rw [named] at refused
    dsimp only at refused
    rw [bind_apply, get_apply] at refused
    dsimp only at refused
    cases search : state.requests.findSecond id with
    | none =>
      rw [search] at refused
      cases refused
      rfl
    | some found =>
      rw [search] at refused
      obtain ⟨-, rfl⟩ := conclude_eq_error env
        { found with status := .fulfilled, ack := some packet } (TwoIndex.eraseSecond · id) state
        next error refused
      rfl

/-- An ack is refused for any of these reasons. -/
theorem ackCommand_refuses (env : Environment τ κ) (packet : Packet) (state : State τ κ)
    (error : Exn) (refused : Refused env state packet error) :
    ∃ next, ackCommand env packet state = .error error next := by
  unfold ackCommand
  cases refused with
  | noBlock empty =>
    have named : ackedId packet = .error .outOfRange := by
      unfold ackedId
      rw [empty]
    rw [named]
    exact ⟨state, rfl⟩
  | badLength block rest first length =>
    have named : ackedId packet = .error (.application .invalidCmdAckFormat none) := by
      unfold ackedId
      rw [first]
      exact if_pos length
    rw [named]
    exact ⟨state, rfl⟩
  | unknown id named unknown =>
    have search : state.requests.findSecond id = none := by
      rw [TwoIndex.findSecond_eq_none_iff, List.mem_map]
      rintro ⟨request, inside, same⟩
      exact unknown request inside same
    rw [named]
    dsimp only
    rw [bind_apply, get_apply]
    dsimp only
    rw [search]
    exact ⟨state, rfl⟩
  | raised request pending named _ raised =>
    have search := (TwoIndex.findSecond_eq_some_iff state.requests request.commandId request).mpr
      ⟨pending, rfl⟩
    rw [named]
    dsimp only
    rw [bind_apply, get_apply]
    dsimp only
    rw [search]
    dsimp only
    rw [bind_apply]
    unfold callCallback
    rw [bind_apply, emit_apply]
    dsimp only
    rw [raised]
    exact ⟨_, rfl⟩

/-! ## Every operation -/

section Operations

variable (env : Environment τ κ)

/-- Sending a keepalive keeps the retry timers. -/
theorem sendKeepalive_timed : Keeps (OnFields (τ := τ) Timed) (sendKeepalive env) := by
  refine .bind .get fun state => .choice (.bind ?_ fun _ => .bind (keeps_made _) fun _ =>
    keeps_write env _) (.pure _)
  intro next timed
  exact Timed.renumber timed _ _ _ _ _

/-- Erasing a timer of no command keeps the retry timers. -/
theorem eraseTimer_timed (held : Fields κ → Option Nat) (callback : TimerCallback)
    (issued : ∀ fields, Timed fields →
      ∀ id ∈ held fields, IssuedFor fields.timeoutQueue callback id)
    (different : TimerCallback.cmdTimeoutCb ≠ callback) :
    Keeps (OnFields (τ := τ) Timed) (do
      eraseTimer (held (← get).toFields)) := by
  intro state timed
  rw [bind_apply, get_apply]
  dsimp only
  rw [eraseTimer_apply]
  exact Timed.withoutTimer timed (issued state.toFields timed) different

/-- Restarting the keepalive timer keeps the retry timers. -/
theorem resetKeepaliveMngt_timed : Keeps (OnFields (κ := κ) (τ := τ) Timed) resetKeepaliveMngt := by
  intro state timed
  rw [resetKeepaliveMngt_apply]
  exact Timed.refreshed timed

/-- `send_command` keeps the retry timers, whether it returns or throws. -/
theorem sendCommand_timed (type : UInt16) (data : Bytes) (cb : κ) (timeout : Nat) :
    Keeps (OnFields (τ := τ) Timed) (sendCommand env type data cb timeout) := by
  intro state timed
  have prepared := Timed.prepared timed timeout
  have retry := Timed.retry_prepared timed timeout
  rw [sendCommand_apply]
  have rest : Keeps (OnFields (τ := τ) fun fields => Timed fields ∧
      state.timeoutQueue.nextId ∈ fields.timeoutQueue.idsOf .cmdTimeoutCb)
      (do
        let cmd ← made (state.newCommand env type data)
        write env ⟨cmd, some state.timeoutQueue.nextId⟩
        insertRequest { id := state.timeoutQueue.nextId, command := cmd, cb := cb }) := by
    refine .bind (keeps_made _) fun cmd => .bind (keeps_write env _) fun _ =>
      keeps_insertRequest _ ?_
    intro fields requests standing entries
    exact ⟨standing.1.inserted _ standing.2 requests entries, standing.2⟩
  exact (rest _ ⟨prepared, retry⟩).1

/-- `send_hip` keeps the retry timers. -/
theorem sendHip_timed (identification : Identification) (timeout : Nat) :
    Keeps (OnFields (τ := τ) Timed) (sendHip env identification timeout) := by
  have armed : Keeps (OnFields (τ := τ) Timed) (do
      let id ← addTimer (timeout / timeBaseMs) .dipTimeoutCb
      modify fun state : State τ κ => { state with dipId := some id }) :=
    fun state timed => Timed.withDipTimer timed timeout
  unfold sendHip
  refine .bind .get fun state => ?_
  split
  · refine .bind ?_ fun _ => .bind (keeps_made _) fun _ => .bind (keeps_write env _) fun _ => armed
    intro next timed
    exact Timed.renumber timed _ _ _ _ _
  · exact armed

/-- `start_keepalive_management` keeps the retry timers. -/
theorem startKeepaliveManagement_timed (interval timeout : Nat) :
    Keeps (OnFields (τ := τ) Timed) (startKeepaliveManagement env interval timeout) := by
  refine .bind (.modify ?_) fun _ => .bind ?_ fun _ => .bind (sendKeepalive_timed env) fun _ =>
    .bind (.modify ?_) fun _ => ?_
  · intro state timed
    exact Timed.renumber timed _ _ _ _ _
  · intro state timed
    exact Timed.withMngtTimer timed interval
  · intro state timed
    exact Timed.renumber timed _ _ _ _ _
  · intro state timed
    exact Timed.withKaTimer timed [] fun id held => by contradiction

/-- `ka_mngt_timeout_cb` keeps the retry timers. -/
theorem kaMngtTimeoutCb_timed : Keeps (OnFields (τ := τ) Timed) (kaMngtTimeoutCb env) := by
  refine .bind (sendKeepalive_timed env) fun _ => ?_
  intro state timed
  exact Timed.withKaTimer timed state.kaIds fun _ held => held

/-- `ack_command` keeps the retry timers: the command it takes away is that of the timer it
erases. -/
theorem ackCommand_timed (packet : Packet) :
    Keeps (OnFields (τ := τ) Timed) (ackCommand env packet) := by
  intro state timed
  cases outcome : ackCommand env packet state with
  | ok value next =>
    obtain ⟨id, found, -, search, -, rfl⟩ := (ackCommand_eq_ok_iff env packet state next value).mp
      outcome
    obtain ⟨inside, rfl⟩ := (TwoIndex.findSecond_eq_some_iff _ _ _).mp search
    refine Timed.concluded timed found.id _ ?_
    intro other left
    rw [TwoIndex.eraseSecond_eq_eraseFirst _ _ inside] at left
    exact (TwoIndex.mem_eraseFirst _ _ _).mp left
  | error error next =>
    rw [after_error]
    exact (congrArg Timed (ackCommand_unchanged env packet state next error outcome)).mpr timed

/-- `cmd_timeout_cb` keeps the retry timers. -/
theorem cmdTimeoutCb_timed (id : Nat) :
    Keeps (OnFields (τ := τ) Timed) (cmdTimeoutCb env id) := by
  refine .bind .get fun state => ?_
  cases search : state.requests.findFirst id with
  | none => exact .throw _
  | some request =>
    obtain ⟨-, same⟩ := (TwoIndex.findFirst_eq_some_iff _ _ _).mp search
    refine .choice ?_ ?_
    · refine .bind (.modify fun next timed => Timed.withRetry timed id) fun _ =>
        .bind .get fun next => ?_
      split
      · exact .bind (keeps_write env _) fun _ => resetKeepaliveMngt_timed
      · exact resetKeepaliveMngt_timed
    · intro next timed
      cases outcome : giveUp env id request next with
      | ok value final =>
        obtain ⟨-, rfl⟩ := (giveUp_eq_ok_iff env id request next final value).mp outcome
        refine Timed.concluded timed request.id _ ?_
        intro other left
        rw [same]
        exact (TwoIndex.mem_eraseFirst _ _ _).mp left
      | error error final =>
        obtain ⟨-, rfl⟩ := conclude_eq_error env { request with status := .timeout }
          (TwoIndex.eraseFirst · id) next final error outcome
        exact timed

/-- Every timer callback keeps the retry timers. -/
theorem fire_timed (timer : Timer TimerCallback) :
    Keeps (OnFields (τ := τ) Timed) (fire env timer) := by
  unfold fire
  cases timer.callback with
  | cmdTimeoutCb => exact cmdTimeoutCb_timed env timer.id
  | dipTimeoutCb => exact keeps_reportTimeout env .dipTimeout
  | kaTimeoutCb => exact keeps_reportTimeout env .kaTimeout
  | kaMngtTimeoutCb => exact kaMngtTimeoutCb_timed env

/-- The callbacks of a batch keep the retry timers. -/
theorem fireAll_timed (batch : List (Timer TimerCallback)) :
    Keeps (OnFields (τ := τ) Timed) (fireAll env batch) := by
  induction batch with
  | nil => exact .pure ()
  | cons timer batch ih => exact .bind (fire_timed env timer) fun _ => ih

/-- Every operation keeps the retry timers, whether it returns or throws. -/
theorem perform_timed (event : Event τ κ) :
    Keeps (OnFields (τ := τ) Timed) (perform env event) := by
  cases event with
  | start =>
    intro state timed
    show OnFields Timed (after (start state))
    cases running : state.running with
    | false =>
      rw [start_apply state running]
      exact Timed.started timed
    | true =>
      rw [start_running state running]
      exact timed
  | stop => exact .modify fun next timed => Timed.renumber timed _ _ _ _ _
  | sendCommand type data cb timeout => exact sendCommand_timed env type data cb timeout
  | sendHip identification timeout => exact sendHip_timed env identification timeout
  | startKeepaliveManagement interval timeout =>
    exact startKeepaliveManagement_timed env interval timeout
  | stopKeepaliveManagement =>
    exact .bind (.modify fun next timed => Timed.renumber timed _ _ _ _ _) fun _ =>
      eraseTimer_timed Fields.keepaliveMngtId .kaMngtTimeoutCb (fun _ timed => timed.owned.mngt)
        (by decide)
  | ackCommand packet => exact ackCommand_timed env packet
  | ackKeepalive => exact fun state timed => Timed.withoutKaTimers timed
  | ackDip =>
    exact eraseTimer_timed Fields.dipId .dipTimeoutCb (fun _ timed => timed.owned.dip) (by decide)
  | runOnce batch =>
    exact .bind (.modify fun next timed => Timed.ticked timed) fun _ => fireAll_timed env batch
  | transport state => exact .modify fun next timed => timed

end Operations

/-- In every run of a manager, whatever its operations do, each pending command has its retry
timer. -/
theorem timed_run {env : Environment τ κ} {transport : τ} {events : List (Event τ κ)}
    {finish : State τ κ} (run : Run (Step env) (State.initial transport) events finish) :
    Timed finish.toFields := by
  suffices timed : OnFields Timed finish from timed
  refine run.invariant ?_ ?_
  · rintro state event next timed ⟨-, rfl⟩
    exact perform_timed env event state timed
  · refine ⟨⟨?_, ?_, ?_, ?_⟩, ?_⟩
    · intro timer inside
      contradiction
    · intro id held
      contradiction
    · intro id held
      contradiction
    · intro id held
      contradiction
    · intro request inside
      contradiction

/-! ## The ack of a pending command -/

/-- The ack of a pending command, whose retry timer is armed, retires that command alone. -/
theorem ackCommand_retired {env : Environment τ κ} {state : State τ κ}
    (timed : Timed state.toFields) {request : Request κ}
    (pending : request ∈ state.requests.entries) {ack : Packet}
    (named : ackedId ack = .ok request.commandId)
    (silent : env.invoke request.cb
      { request with status := .fulfilled, ack := some ack } = none) :
    ∃ next, ackCommand env ack state = .ok () next ∧ Retired state next request ack := by
  have search := (TwoIndex.findSecond_eq_some_iff state.requests request.commandId request).mpr
    ⟨pending, rfl⟩
  have returned := (ackCommand_eq_ok_iff env ack state _ ()).mpr
    ⟨request.commandId, request, named, search, silent, rfl⟩
  obtain ⟨retry, armed, bound, same⟩ :=
    (TimeoutQueue.mem_idsOf _ _ _).mp (timed.retry request pending)
  refine ⟨_, returned, rfl, ?_, ⟨retry, armed, same, bound, ?_⟩, rfl, rfl⟩
  · intro other
    rw [State.toFields_withFields]
    refine (TwoIndex.mem_eraseSecond _ _ _).trans (and_congr_right fun inside => ?_)
    -- no two requests have one command id
    refine not_congr ⟨fun twin => TwoIndex.eq_of_second inside pending twin, ?_⟩
    intro equal
    rw [equal]
  · intro timer
    rw [State.toFields_withFields]
    refine (TimeoutQueue.mem_erase _ _ _).trans (and_congr_right fun inside => ?_)
    -- no two timers have one identifier
    refine not_congr ⟨fun twin => TimeoutQueue.eq_of_id inside armed (twin.trans same.symm), ?_⟩
    intro equal
    rw [equal, same]

/-- In every state a manager can reach, the ack the slave writes for a pending command calls that
command's callback once, fulfilled, and takes away that command and its retry timer and nothing
else; an ack with no block, with a first block that is not two bytes, of no pending command, or
whose callback throws, throws, and requests and timers are as they were. -/
theorem ackCommand_exact {σ : Type} (env : Environment τ κ) (transport : τ)
    (events : List (Event τ κ)) (state : State τ κ)
    (run : Run (Step env) (State.initial transport) events state) :
    (∀ (slaveEnv : Slave.Environment σ) (slave acked : Slave.State σ) (request : Request κ)
      (ack : Packet), request ∈ state.requests.entries →
      Slave.sendCmdAck slaveEnv request.command slave = .ok () acked →
      acked.outputs = slave.outputs ++ [.written ⟨ack, none⟩] →
      env.invoke request.cb { request with status := .fulfilled, ack := some ack } = none →
        ∃ next, ackCommand env ack state = .ok () next ∧ Retired state next request ack) ∧
    ∀ packet error, Refused env state packet error →
      ∃ next, ackCommand env packet state = .error error next ∧
        next.requests = state.requests ∧ next.timeoutQueue = state.timeoutQueue := by
  constructor
  · intro slaveEnv slave acked request ack pending returned given silent
    obtain ⟨id, type, made⟩ := Slave.sendCmdAck_written request.command ack slave acked returned
      given
    exact ackCommand_retired (timed_run run) pending (ackedId_makeCmdAck _ _ _ _ _ made) silent
  · intro packet error refused
    obtain ⟨next, thrown⟩ := ackCommand_refuses env packet state error refused
    have same := ackCommand_unchanged env packet state next error thrown
    exact ⟨next, thrown, congrArg Fields.requests same, congrArg Fields.timeoutQueue same⟩

/-- A command of one byte is sent, and the ack a slave wrote for it retires it. -/
theorem ackCommand_exact_byte :
    ∃ (state next : State Unit Unit) (request : Request Unit) (ack : Packet),
      Run (Step quietEnvironment) (State.initial ()) [.start, .sendCommand 1 [0] () commandTimeout]
        state ∧
      ackCommand quietEnvironment ack state = .ok () next ∧ Retired state next request ack := by
  have started : Run (Step quietEnvironment) (State.initial ()) [.start]
      (after (start (State.initial ()))) := .cons ⟨trivial, rfl⟩ (.nil _)
  obtain ⟨sent, returned⟩ := (sendCommand_returns_iff quietEnvironment _ (issued_run started) 1
    [0] () commandTimeout).mpr sendable_byte
  have accepted : Step quietEnvironment (after (start (State.initial ())))
      (.sendCommand 1 [0] () commandTimeout) sent := ⟨trivial, congrArg after returned⟩
  have run := started.append (.cons accepted (.nil _))
  obtain ⟨cmd, requests, making, -, inserted, same⟩ :=
    (sendCommand_eq_ok_iff _ _ _ _ _ _ _).mp returned
  have entries := ((TwoIndex.insert_eq_some_iff _ _ _).mp inserted).2.2
  have pending : { id := 0, command := cmd, cb := () } ∈ sent.requests.entries := by
    rw [same, State.toFields_withFields, entries]
    exact List.mem_cons_self
  -- a slave with an open transport writes the ack of the command
  let slave : Slave.Environment Unit :=
    { attached := true, isOpen := fun _ => true, write := fun _ _ => (none, ()),
      timeoutCb := none, raw := .cleared }
  obtain ⟨ack, made, -⟩ := Packet.makeCmdAck_roundTrips .cleared .cleared 1 1 cmd.id
  have blocks : cmd.blocks = [⟨1, [0]⟩] :=
    Packet.build_blocks _ _ .cmd 1 [⟨1, [0]⟩] (by decide) cmd
      (by simpa [State.newCommand, Packet.makeCommand] using making)
  have acking : Slave.sendCmdAck slave cmd (Slave.State.initial ()) =
      .ok () ((Slave.State.initial ()).sent slave ack) := by
    have sending := (@Slave.sendIfOpen_eq_ok_iff _ slave
      (fun packetId => Packet.makeCmdAck slave.raw packetId 1 cmd.id) (Slave.State.initial ()) _
      ()).mpr (.inr ⟨rfl, ack, made, rfl, rfl⟩)
    rw [← sending]
    unfold Slave.sendCmdAck Slave.firstBlock
    rw [blocks]
    rfl
  obtain ⟨retires, -⟩ := ackCommand_exact quietEnvironment () _ sent run
  obtain ⟨next, processed, retired⟩ := retires slave (Slave.State.initial ()) _
    { id := 0, command := cmd, cb := () } ack pending acking rfl rfl
  exact ⟨sent, next, _, ack, run, processed, retired⟩

end Hdcp.Master
