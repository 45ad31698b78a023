import Hdcp.Master.Commandless

/-!
# What requests carry

`send_command` inserts a request for a command it made, and nothing changes the command of a
request. So the packets that `cmd_timeout_cb` writes again are commands.
-/

namespace Hdcp.Master

open Base

variable {τ κ : Type}

/-- A packet is a command. -/
abbrev CommandPacket (packet : Packet) : Prop := packet.type = PacketType.cmd.code

/-- The requests are for commands. -/
def Fields.Carry (fields : Fields κ) : Prop :=
  ∀ request ∈ fields.requests.entries, CommandPacket request.command

/-- The requests of a manager are for commands. -/
abbrev Carried : State τ κ → Prop := OnFields Fields.Carry

/-- The request a call is about to insert is for a command. -/
def SendStep.Carries : SendStep κ → Prop
  | written cmd _ _ => CommandPacket cmd
  | _ => True

/-- The packet the timer thread is about to write again is a command. -/
def TimerStep.Carries : TimerStep κ → Prop
  | retryTest request _ | retryWrite request _ => CommandPacket request.command
  | expiring callback _ => callback.send.Carries
  | _ => True

/-- The request a callback's thread is about to insert is for a command. -/
def ProtocolStep.Carries : ProtocolStep κ → Prop
  | acking callback => callback.send.Carries
  | _ => True

/-- What the timer thread writes again is a command. -/
theorem TimerStep.command_of_repeats {timer : TimerStep κ} {packet : Packet}
    (carries : timer.Carries) (again : timer.repeats = some packet) : CommandPacket packet := by
  cases timer with
  | retryWrite request batch =>
    cases again
    exact carries
  | _ => contradiction

/-- A statement keeps requests for commands, and leads to a place that does. -/
def Carrying {α : Type} (carries : α → Prop) (action : Action τ κ α) : Prop :=
  Leads Carried action (fun value state => Carried state ∧ carries value) Carried

section Actions

variable {α β : Type} {carries : α → Prop}

/-- What keeps the requests, and what it returns. -/
theorem Carrying.of {action : Action τ κ α} (keeps : Keeps Carried action)
    (yields : Yields carries action) : Carrying carries action := by
  intro state carried
  have kept := keeps state carried
  constructor
  · intro value next returned
    rw [returned] at kept
    exact ⟨kept, yields state value next returned⟩
  · intro error next thrown
    rw [thrown] at kept
    exact kept

/-- A part of a longer statement. -/
theorem Carrying.bind {first : Action τ κ β} {rest : β → Action τ κ α} {between : β → Prop}
    (begun : Carrying between first)
      (goes : ∀ value, between value → Carrying carries (rest value)) :
    Carrying carries (first >>= rest) := by
  refine Leads.bind begun fun value => ?_
  intro state both
  exact goes value both.2 state both.1

/-- Arming a timer keeps the requests. -/
theorem keeps_addTimer (delay : Nat) (callback : TimerCallback) :
    Keeps (Carried (τ := τ) (κ := κ)) (addTimer delay callback) := by
  intro state carried
  rw [addTimer_apply]
  exact carried

/-- So does arming a repeating one. -/
theorem keeps_addRepeatingTimer (interval : Nat) (callback : TimerCallback) :
    Keeps (Carried (τ := τ) (κ := κ)) (addRepeatingTimer interval callback) := by
  intro state carried
  rw [addRepeatingTimer_apply]
  exact carried

/-- So does erasing one. -/
theorem keeps_eraseTimer (id : Option Nat) :
    Keeps (Carried (τ := τ) (κ := κ)) (eraseTimer id) := by
  intro state carried
  rw [eraseTimer_apply]
  cases id with
  | none => exact carried
  | some id => exact carried

/-- Taking a packet id keeps the requests. -/
theorem keeps_nextPacketId : Keeps (Carried (τ := τ) (κ := κ)) nextPacketId := by
  intro state carried
  rw [nextPacketId_apply]
  exact carried

end Actions

section Statements

variable (program : Program τ κ)

/-- A statement of the reset of the keepalive timer keeps the requests. -/
theorem Reset.keeps_carried (reset : Reset) :
    Keeps (Carried (τ := τ) (κ := κ)) (reset.statement : Action τ κ (Option Reset)) := by
  cases reset with
  | tested => exact .bind .get fun state => .bind (keeps_eraseTimer _) fun _ => .pure _
  | erased => exact .bind (keeps_addRepeatingTimer _ _) fun _ => .pure _
  | added id => exact .bind (.modify fun _ carried => carried) fun _ => .pure _

/-- A statement of `send_command` keeps requests for commands. -/
theorem SendStep.carrying (env : Environment τ κ) {send : SendStep κ} (carries : send.Carries) :
    Carrying SendStep.Carries (send.statement env) := by
  cases send with
  | idle => exact .of (.pure _) (.pure trivial)
  | begun args =>
    exact .of (.bind (keeps_addRepeatingTimer _ _) fun _ => .pure _) (.bind fun _ => .pure trivial)
  | armed id args =>
    refine .of (.bind .get fun state => ?_) (.bind fun state => ?_)
    · split
      · exact .pure _
      · exact .pure _
    · split
      · exact .pure trivial
      · exact .pure trivial
  | resetting reset id args =>
    refine .of (.bind reset.keeps_carried fun next => ?_) (.bind fun next => ?_)
    · cases next with
      | some next => exact .pure _
      | none => exact .pure _
    · cases next with
      | some next => exact .pure trivial
      | none => exact .pure trivial
  | refreshed id args =>
    exact .of (.bind keeps_nextPacketId fun _ => .pure _) (.bind fun _ => .pure trivial)
  | numbered packetId id args =>
    have making : Carrying CommandPacket
        (made (Packet.makeCommand env.raw packetId args.type args.data) : Action τ κ Packet) := by
      refine .of (keeps_made _) ?_
      cases making : Packet.makeCommand env.raw packetId args.type args.data with
      | error error => exact .throw _
      | ok packet => exact .pure (Packet.build_id_type _ _ _ _ _ _ making).2
    refine .bind making fun cmd command => ?_
    exact .of (.bind (keeps_write env _) fun _ => .pure _) (.bind fun _ => .pure command)
  | written cmd id cb =>
    refine .of (.bind (keeps_insertRequest _ ?_) fun _ => .pure _) (.bind fun _ => .pure trivial)
    intro fields requests carried entries request inside
    rw [entries] at inside
    rcases List.mem_cons.mp inside with rfl | before
    · exact carries
    · exact carried request before

/-- A callback carries what the call it is in does. -/
def Callback.Carries : Option (Callback κ) → Prop
  | some callback => callback.send.Carries
  | none => True

/-- A statement of a callback keeps requests for commands. -/
theorem Callback.carrying {callback : Callback κ} (carries : callback.send.Carries) :
    Carrying Callback.Carries (callback.statement program) := by
  obtain ⟨request, calls, send⟩ := callback
  have inside : Carrying Callback.Carries (do
      let next ← send.statement program.toEnvironment
      return some { (⟨request, calls, send⟩ : Callback κ) with send := next }) :=
    .bind (send.carrying program.toEnvironment carries) fun next fine => .of (.pure _) (.pure fine)
  cases send with
  | idle =>
    cases calls with
    | nil =>
      unfold statement
      dsimp only
      cases program.invoke request.cb request with
      | some error => exact .of (.throw error) (.throw error)
      | none => exact .of (.pure _) (.pure trivial)
    | cons args calls => exact .of (.pure _) (.pure trivial)
  | _ => exact inside

/-- The call of a callback keeps the requests. -/
theorem carrying_callBack (request : Request κ) :
    Carrying (fun callback => callback.send.Carries) (callBack program request) :=
  .of (.bind (.modify fun _ carried => carried) fun _ => .pure _) (.bind fun _ => .pure trivial)

/-- The request `cmd_timeout_cb` finds is for a command. -/
theorem findExpired_carrying (id : Nat) (batch : List (Timer TimerCallback)) :
    Carrying TimerStep.Carries (findExpired program id batch) := by
  intro state carried
  unfold findExpired
  rw [bind_apply, get_apply]
  dsimp only
  cases found : state.requests.findFirst id with
  | none =>
    constructor
    · intro value next returned
      contradiction
    · intro error next thrown
      cases thrown
      exact carried
  | some request =>
    have inside : request ∈ state.requests.entries :=
      ((state.requests.findFirst_eq_some_iff id request).mp found).1
    have command : CommandPacket request.command := carried request inside
    dsimp only
    split
    · have fine : (TimerStep.retryTest request batch).Carries := command
      have carrying : Carrying TimerStep.Carries (do
          modify fun state : State τ κ =>
            { state with requests := state.requests.modifyFirst id incRetry fun _ => ⟨rfl, rfl⟩ }
          return TimerStep.retryTest request batch) := by
        refine .of (.bind (.modify ?_) fun _ => .pure _) (.bind fun _ => .pure fine)
        intro state carried other inside
        rcases (state.requests.mem_modifyFirst id incRetry (fun _ => ⟨rfl, rfl⟩) other).mp inside
          with
          ⟨before, -⟩ | ⟨old, before, -, rfl⟩
        · exact carried other before
        · exact carried old before
      exact carrying state carried
    · have carrying : Carrying TimerStep.Carries (do
          return TimerStep.expiring (← callBack program { request with status := .timeout })
            batch) :=
        .bind (carrying_callBack program _) fun callback fine => .of (.pure _) (.pure fine)
      exact carrying state carried

/-- A statement of the timer thread keeps requests for commands. -/
theorem TimerStep.carrying {timer : TimerStep κ} (carries : timer.Carries) :
    Carrying TimerStep.Carries (timer.statement program) := by
  cases timer with
  | idle => exact .of (.pure _) (.pure trivial)
  | calling batch =>
    cases batch with
    | nil => exact .of (.pure _) (.pure trivial)
    | cons timer batch =>
      unfold statement
      dsimp only
      split
      · exact findExpired_carrying program timer.id batch
      · exact .of (.bind (keeps_reportTimeout _ _) fun _ => .pure _) (.bind fun _ => .pure trivial)
      · exact .of (.bind (keeps_reportTimeout _ _) fun _ => .pure _) (.bind fun _ => .pure trivial)
      · refine .of (.bind .get fun state => ?_) (.bind fun state => ?_)
        · split
          · exact .pure _
          · exact .pure _
        · split
          · exact .pure trivial
          · exact .pure trivial
  | retryTest request batch =>
    refine .of (.bind .get fun state => ?_) (.bind fun state => ?_)
    · split
      · exact .pure _
      · exact .pure _
    · split
      · exact .pure carries
      · exact .pure trivial
  | retryWrite request batch =>
    exact .of (.bind (keeps_write _ _) fun _ => .pure _) (.bind fun _ => .pure trivial)
  | retryReset batch =>
    refine .of (.bind .get fun state => ?_) (.bind fun state => ?_)
    · split
      · exact .pure _
      · exact .pure _
    · split
      · exact .pure trivial
      · exact .pure trivial
  | resetting reset batch =>
    refine .of (.bind reset.keeps_carried fun next => ?_) (.bind fun next => ?_)
    · cases next with
      | some next => exact .pure _
      | none => exact .pure _
    · cases next with
      | some next => exact .pure trivial
      | none => exact .pure trivial
  | expiring callback batch =>
    refine .bind (callback.carrying program carries) fun next fine => ?_
    cases next with
    | some next => exact .of (.pure _) (.pure fine)
    | none => exact .of (.pure _) (.pure trivial)
  | expired request batch =>
    exact .of (.bind (keeps_eraseTimer _) fun _ => .pure _) (.bind fun _ => .pure trivial)
  | forgetting request batch =>
    refine .of (.bind (.modify fun state carried other inside => ?_) fun _ => .pure _)
      (.bind fun _ => .pure trivial)
    exact carried other ((TwoIndex.mem_eraseFirst _ _ other).mp inside).1
  | keepaliveNumber batch =>
    exact .of (.bind keeps_nextPacketId fun _ => .pure _) (.bind fun _ => .pure trivial)
  | keepaliveWrite packetId batch =>
    exact .of (.bind (keeps_made _) fun _ => .bind (keeps_write _ _) fun _ => .pure _)
      (.bind fun _ => .bind fun _ => .pure trivial)
  | keepaliveArm batch =>
    exact .of (.bind .get fun state => .bind (keeps_addTimer _ _) fun _ => .pure _)
      (.bind fun _ => .bind fun _ => .pure trivial)
  | keepalivePush id batch =>
    exact .of (.bind (.modify fun _ carried => carried) fun _ => .pure _)
      (.bind fun _ => .pure trivial)
  | escaped error => exact .of (.pure _) (.pure trivial)

/-- A statement of the protocol thread keeps requests for commands. -/
theorem ProtocolStep.keeps_carried {place : ProtocolStep κ} (carries : place.Carries) :
    Keeps Carried (place.statement program) := by
  cases place with
  | idle | joining => exact .pure _
  | finding id packet =>
    refine .bind .get fun state => ?_
    cases state.requests.findSecond id with
    | none => exact .throw _
    | some request =>
      exact .bind (.bind (.modify fun _ carried => carried) fun _ => .pure _) fun _ => .pure _
  | acking callback =>
    have leads : Leads Carried (callback.statement program) (fun _ => Carried) Carried := by
      intro state carried
      obtain ⟨returns, throws⟩ := callback.carrying program carries state carried
      exact ⟨fun value next returned => (returns value next returned).1, throws⟩
    refine .bind leads.keeps fun next => ?_
    cases next with
    | some next => exact .pure _
    | none => exact .pure _
  | fulfilled request => exact .bind (keeps_eraseTimer _) fun _ => .pure _
  | disarmed request =>
    refine .bind (.modify fun state carried other inside => ?_) fun _ => .pure _
    exact carried other ((TwoIndex.mem_eraseSecond _ _ other).mp inside).1
  | acknowledging ids =>
    cases ids with
    | nil => exact .bind (.modify fun _ carried => carried) fun _ => .pure _
    | cons id ids => exact .bind (keeps_eraseTimer _) fun _ => .pure _
  | hipNumber identification timeout => exact .bind keeps_nextPacketId fun _ => .pure _
  | hipWrite packetId identification timeout =>
    exact .bind (keeps_made _) fun _ => .bind (keeps_write _ _) fun _ => .pure _
  | hipArm timeout => exact .bind (keeps_addTimer _ _) fun _ => .pure _
  | kaArm interval timeout => exact .bind (keeps_addRepeatingTimer _ _) fun _ => .pure _
  | kaTest timeout =>
    refine .bind .get fun state => ?_
    split
    · exact .pure _
    · exact .pure _
  | kaNumber timeout => exact .bind keeps_nextPacketId fun _ => .pure _
  | kaWrite packetId timeout =>
    exact .bind (keeps_made _) fun _ => .bind (keeps_write _ _) fun _ => .pure _
  | kaAwait timeout =>
    exact .bind (.modify fun _ carried => carried) fun _ => .bind .get fun state =>
      .bind (keeps_addTimer _ _) fun _ => .pure _
  | stopErase => exact .bind .get fun state => .bind (keeps_eraseTimer _) fun _ => .pure _
  | startRequests =>
    exact .bind (.modify fun _ _ request inside => absurd inside List.not_mem_nil) fun _ => .pure _
  | hipAssign | kaAssign | kaPush | startTimers | startNow | startNumber | startFlag | startRun =>
    exact .bind (.modify fun _ carried => carried) fun _ => .pure _

/-- The first statement of an operation keeps requests for commands. -/
theorem Operation.keeps_carried (env : Environment τ κ) (operation : Operation) :
    Keeps Carried (operation.statement env) := by
  cases operation with
  | start | sendHip identification timeout =>
    refine .bind .get fun state => ?_
    split
    · exact .pure _
    · exact .pure _
  | stop =>
    refine .bind .get fun state => ?_
    split
    · exact .bind (.modify fun _ carried => carried) fun _ => .pure _
    · exact .pure _
  | startKeepaliveManagement interval timeout =>
    exact .bind (.modify fun _ carried => carried) fun _ => .pure _
  | stopKeepaliveManagement => exact .bind (.modify fun _ carried => carried) fun _ => .pure _
  | ackCommand packet =>
    unfold statement
    dsimp only
    cases ackedId packet with
    | error error => exact .throw _
    | ok id => exact .pure _
  | ackKeepalive => exact .bind .get fun state => .pure _
  | ackDip => exact .bind .get fun state => .bind (keeps_eraseTimer _) fun _ => .pure _

end Statements

end Hdcp.Master
