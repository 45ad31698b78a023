import Hdcp.Appli.MasterCounts
import Hdcp.Appli.MasterGreets

/-!
# The rounds a master writes

A HIP and a keepalive after it are a round of what the master writes. From where a session begins
until it is connected nothing but HIPs is written, as long as no call of `send_command` is in flight
where it begins: no timer writes, and no user does. So a round ends only after an entry into state
connected, and each entry ends one.
-/

namespace Hdcp.Master

open Base

variable {τ κ : Type}

/-- The callback of a timer writes nothing. -/
def Harmless (timer : Timer TimerCallback) : Prop :=
  timer.callback ≠ .cmdTimeoutCb ∧ timer.callback ≠ .kaMngtTimeoutCb

/-- The callbacks of the timers of a queue write nothing. -/
def HarmlessQueue (queue : TimeoutQueue TimerCallback) : Prop :=
  ∀ timer ∈ queue.timers, Harmless timer

/-- The timer thread is in no callback that writes, and has none to call. -/
def TimerStep.Mute : TimerStep κ → Prop
  | idle | escaped _ => True
  | calling batch => ∀ timer ∈ batch, Harmless timer
  | _ => False

/-- A tick leaves harmless timers harmless. -/
theorem HarmlessQueue.advance {queue : TimeoutQueue TimerCallback} (harmless : HarmlessQueue queue)
    (now : Nat) : HarmlessQueue (queue.advance now) := by
  intro timer inside
  obtain ⟨old, before, kept⟩ := (queue.mem_advance now timer).mp inside
  unfold Harmless
  rw [(Timer.advance_keeps kept).2.2]
  exact harmless old before

/-- A tick takes harmless timers from a queue of such. -/
theorem HarmlessQueue.expired {queue : TimeoutQueue TimerCallback} {now : Nat}
    {batch : List (Timer TimerCallback)} (harmless : HarmlessQueue queue)
    (perm : batch.Perm (queue.expired now)) : ∀ timer ∈ batch, Harmless timer := by
  intro timer inside
  exact harmless timer ((queue.mem_expired now timer).mp (perm.mem_iff.mp inside)).1

/-- Reporting a timeout leaves the timers and the packets written. -/
theorem reportTimeout_still (env : Environment τ κ) (type : TimeoutType) (state : State τ κ) :
    (after (reportTimeout env type state)).timeoutQueue = state.timeoutQueue ∧
      writes (after (reportTimeout env type state)).outputs = writes state.outputs := by
  have told : writes (state.outputs ++ [.timedOut type]) = writes state.outputs :=
    writes_snoc_other fun _ other => by contradiction
  unfold reportTimeout
  cases env.timeoutCb with
  | none => exact ⟨rfl, rfl⟩
  | some timeoutCb =>
    dsimp only
    rw [bind_apply, emit_apply]
    cases timeoutCb type with
    | none => exact ⟨rfl, told⟩
    | some error => exact ⟨rfl, told⟩

/-- A statement writes nothing, leaves the timers and leads to a mute timer thread. -/
def Muted (action : Action τ κ (TimerStep κ)) : Prop :=
  ∀ state, ((after (action state)).timeoutQueue = state.timeoutQueue ∧
    writes (after (action state)).outputs = writes state.outputs) ∧
      ∀ next later, action state = .ok next later → next.Mute

/-- Going to a mute place. -/
theorem muted_pure {place : TimerStep κ} (mute : place.Mute) :
    Muted (pure place : Action τ κ (TimerStep κ)) := by
  refine fun state => ⟨⟨rfl, rfl⟩, fun next later outcome => ?_⟩
  cases outcome
  exact mute

/-- A callback that reports a timeout. -/
theorem muted_reportTimeout (env : Environment τ κ) (type : TimeoutType)
    {batch : List (Timer TimerCallback)} (harmless : ∀ timer ∈ batch, Harmless timer) :
    Muted (reportTimeout env type >>= fun _ => pure (.calling batch)) := by
  intro state
  have still := reportTimeout_still env type state
  have mute : (TimerStep.calling batch : TimerStep κ).Mute := harmless
  rw [bind_apply]
  cases outcome : reportTimeout env type state with
  | ok value next =>
    rw [outcome] at still
    exact ⟨still, (muted_pure mute next).2⟩
  | error error next =>
    rw [outcome] at still
    exact ⟨still, fun next later outcome => by contradiction⟩

/-- A statement of a mute timer thread. -/
theorem TimerStep.mute_statement (program : Program τ κ) {timer : TimerStep κ}
    (mute : timer.Mute) : Muted (timer.statement program) := by
  cases timer with
  | idle | escaped error => exact muted_pure trivial
  | calling batch =>
    cases batch with
    | nil => exact muted_pure trivial
    | cons timer batch =>
      have later : ∀ other ∈ batch, Harmless other := fun other inside =>
        mute other (List.mem_cons_of_mem timer inside)
      obtain ⟨noCommand, noKeepalive⟩ := mute timer List.mem_cons_self
      unfold statement
      dsimp only
      split
      · next same => exact absurd same noCommand
      · exact muted_reportTimeout program.toEnvironment .dipTimeout later
      · exact muted_reportTimeout program.toEnvironment .kaTimeout later
      · next same => exact absurd same noKeepalive
  | _ => contradiction

/-- What was written is followed by nothing, or by one packet of a kind. -/
def Adds (kind : Message → Prop) (state next : State τ κ) : Prop :=
  writes next.outputs = writes state.outputs ∨
    ∃ message, kind message ∧ writes next.outputs = writes state.outputs ++ [message]

/-- The rounds of a HIP and a keepalive written, each half counted. -/
def State.rounds (state : State τ κ) : Nat := alternations Hip Keepalive (writes state.outputs)

/-- Without a keepalive the round goes on. -/
theorem Adds.within {state next : State τ κ} {rounds : Nat}
    (adds : Adds (fun message => ¬ Keepalive message) state next)
    (before : state.rounds ≤ 2 * rounds + 1) : next.rounds ≤ 2 * rounds + 1 := by
  unfold State.rounds
  rcases adds with same | ⟨message, other, written⟩
  · rw [same]
    exact before
  · rw [written]
    exact alternations_within other before

/-- Without a HIP no round begins. -/
theorem Adds.between {state next : State τ κ} {rounds : Nat}
    (adds : Adds (fun message => ¬ Hip message) state next)
    (before : state.rounds ≤ 2 * rounds) : next.rounds ≤ 2 * rounds := by
  unfold State.rounds
  rcases adds with same | ⟨message, other, written⟩
  · rw [same]
    exact before
  · rw [written]
    exact alternations_between other before

/-- A deed of a thread that writes no HIP. -/
theorem Deed.unidentified {env : Environment τ κ} {commands identifies taking made : Prop}
    {repeats : Option Packet} {state next : State τ κ} {held later : Option UInt16}
    (deed : Deed env commands identifies taking repeats made state next held later)
    (plain : ¬ identifies) (again : ∀ packet, repeats = some packet → CommandPacket packet) :
    Adds (fun message => ¬ Hip message) state next := by
  cases deed.traffic with
  | quiet _ _ written | takes _ _ _ written | refused _ _ _ _ written | unmade _ _ _ written _ =>
    exact .inl written
  | writes message _ _ _ written _ hip =>
    exact .inr ⟨message, fun same => plain (hip same), written⟩
  | again commanding message repeating _ _ written =>
    rcases written with ⟨-, same⟩ | written
    · exact .inl same
    · refine .inr ⟨message, fun hip => ?_, written⟩
      exact absurd ((again _ repeating).symm.trans hip) (by decide)

end Hdcp.Master

namespace Hdcp.Appli.Master

open Base
open Hdcp.Master hiding State Event

variable {τ κ ι : Type}

section Tasks

variable {setup : Setup τ κ}

/-- Out of state connected a task writes a HIP at most, and arms no timer that writes. -/
structure Hushes (state next : Hdcp.Master.State τ κ) : Prop where
  /-- Nothing but a HIP is written. -/
  written : Adds (fun message => Hip message) state next
  /-- No timer that writes is armed. -/
  timers : HarmlessQueue state.timeoutQueue → HarmlessQueue next.timeoutQueue

/-- What writes nothing and leaves the timers. -/
theorem Hushes.of_same {state next : Hdcp.Master.State τ κ} (outputs : next.outputs = state.outputs)
    (timers : next.timeoutQueue = state.timeoutQueue) : Hushes state next :=
  ⟨.inl (congrArg writes outputs), fun harmless => timers ▸ harmless⟩

/-- A statement of `send_hip`. -/
theorem identifying_hushes {place : ProtocolStep κ} (inside : place.identifying = true)
    (state : Hdcp.Master.State τ κ) :
    Hushes state (after (place.statement setup.program state)) := by
  cases place with
  | hipNumber identification timeout => exact .of_same rfl rfl
  | hipWrite packetId identification timeout =>
    rw [ProtocolStep.statement, bind_apply]
    cases making : Packet.makeHip setup.program.raw packetId identification with
    | error error => exact .of_same rfl rfl
    | ok packet =>
      have hip : packet.type = PacketType.hip.code :=
        (Packet.build_id_type _ _ _ _ _ _ making).2
      rw [made, pure_apply]
      dsimp only
      rw [bind_apply, write_apply rfl]
      cases (setup.program.write state.transport ⟨packet, none⟩).1 with
      | none => exact ⟨.inr ⟨⟨packet, none⟩, hip, writes_snoc _ _⟩, fun before => before⟩
      | some error => exact .of_same rfl rfl
  | hipArm timeout =>
    rw [ProtocolStep.statement, bind_apply, addTimer_apply]
    refine ⟨.inl rfl, fun harmless timer inside => ?_⟩
    rcases List.mem_cons.mp inside with rfl | old
    · refine ⟨?_, ?_⟩
      · intro same
        cases same
      · intro same
        cases same
    · exact harmless timer old
  | hipAssign id => exact .of_same rfl rfl
  | _ => contradiction

/-- Out of state connected a task writes a HIP at most. -/
theorem perform_hushes {state : State} {resting : Bool} {task : Task κ} {rest : List (Task κ)}
    (scripted : Scripted setup state resting (task :: rest)) (apart : state ≠ .connected)
    (data : Data τ κ) : Hushes data.manager (after (task.perform setup data)).manager := by
  generalize same : task :: rest = script at scripted
  cases scripted with
  | init | forget | opening | opened | notifyDip =>
    cases same
    exact .of_same rfl rfl
  | joining =>
    cases same
    exact .of_same rfl rfl
  | attempt =>
    cases same
    obtain ⟨next, same, -, ⟨outcome, -⟩ | ⟨outcome, -⟩⟩ := @perform_attempt _ _ setup data
    · rw [outcome, after_ok, same]
      exact .of_same rfl rfl
    · rw [outcome, after_ok, same]
      exact .of_same rfl rfl
  | stop =>
    cases same
    have deals := @perform_deals _ _ setup (.operate .stop) data
    generalize (after ((Task.operate .stop).perform setup data)).manager = next at deals ⊢
    cases deals with
    | leaves => exact .of_same rfl rfl
    | transports _ transport moves => exact .of_same rfl rfl
    | stops running => exact .of_same rfl rfl
    | operates operation begins held deed => exact absurd rfl begins
  | start =>
    cases same
    rw [perform_operate]
    by_cases running : data.manager.running = true
    · simp only [Operation.statement, bind_apply, get_apply, if_pos running, pure_apply]
      exact .of_same rfl rfl
    · simp only [Operation.statement, bind_apply, get_apply, if_neg running, pure_apply]
      exact .of_same rfl rfl
  | starting place inside =>
    cases same
    rw [perform_manage]
    cases place with
    | startTimers => exact ⟨.inl rfl, fun _ timer inside => absurd inside List.not_mem_nil⟩
    | startRequests | startNow | startNumber | startFlag | startRun => exact .of_same rfl rfl
    | _ => contradiction
  | sendHip =>
    cases same
    rw [perform_operate]
    by_cases isOpen : data.manager.isOpen setup.environment = true
    · simp only [Operation.statement, bind_apply, get_apply, if_pos isOpen, pure_apply]
      exact .of_same rfl rfl
    · simp only [Operation.statement, bind_apply, get_apply, if_neg isOpen, pure_apply]
      exact .of_same rfl rfl
  | identifying place inside =>
    cases same
    rw [perform_manage]
    have hushes := @identifying_hushes τ κ setup place inside data.manager
    cases outcome : place.statement setup.program data.manager with
    | ok next manager =>
      rw [outcome] at hushes
      exact hushes
    | error error manager =>
      rw [outcome] at hushes
      exact hushes
  | readConnecting =>
    cases same
    rw [perform_read]
    cases (setup.transport.read data.manager.transport).1 with
    | none => exact .of_same rfl rfl
    | some message =>
      dsimp only
      rw [receive_connecting]
      split
      · exact .of_same rfl rfl
      · exact .of_same rfl rfl
  | ackDip =>
    cases same
    rw [perform_operate]
    have erases : Operation.ackDip.statement setup.environment data.manager =
        .ok .idle
          { data.manager with
            toFields := data.manager.toFields.withoutTimer data.manager.dipId } := by
      simp only [Operation.statement, bind_apply, get_apply, eraseTimer_apply, pure_apply]
    rw [erases]
    refine ⟨.inl ?_, fun harmless timer inside => ?_⟩
    · cases data.manager.dipId with
      | none => rfl
      | some id => rfl
    · cases named : data.manager.dipId with
      | none =>
        rw [named] at inside
        exact harmless timer inside
      | some id =>
        rw [named] at inside
        exact harmless timer ((data.manager.timeoutQueue.mem_erase id timer).mp inside).1
  | done => contradiction
  | _ => exact absurd rfl apart

end Tasks

namespace Host

/-- Nothing but HIPs is written. -/
structure Mute (host : Host τ κ ι) : Prop where
  /-- The master is not connected. -/
  apart : host.state ≠ .connected
  /-- No call of `send_command` is in flight. -/
  users : ∀ user, host.users user = .idle
  /-- The timer thread is in no callback that writes. -/
  timer : host.timer.Mute
  /-- No timer's callback writes, or `start` is going to clear the timers. -/
  timers : (∃ script, host.script = some script ∧ Uncleared script) ∨
    HarmlessQueue host.manager.timeoutQueue

/-- No call of `send_command` is in flight where a session begins. -/
def patient (host : Host τ κ ι) : Act τ κ ι → Prop
  | .protocol => host.clears = true → host.unused
  | _ => True

instance [Fintype ι] (host : Host τ κ ι) (act : Act τ κ ι) : Decidable (host.patient act) :=
  match act with
  | .protocol => inferInstanceAs (Decidable (host.clears = true → host.unused))
  | .take _ | .timer | .call _ _ _ _ | .user _ | .asyncConnect | .connectReturns
  | .asyncDisconnect | .changed _ | .stop | .joined _ | .start _ => instDecidableTrue

/-- The rounds written are no more than the entries into state connected. -/
structure Measured (host : Host τ κ ι) : Prop where
  /-- One more may have begun. -/
  bounded : host.manager.rounds ≤ 2 * host.data.entries .connected + 1
  /-- When it has, nothing ends it but an entry. -/
  hushed : host.manager.rounds ≤ 2 * host.data.entries .connected ∨ host.Mute
  /-- It begins in a session that is not connected. -/
  awaits : host.state = .connecting → host.unopened ∨ host.Mute

section Steps

variable {setup : Setup τ κ} {host next : Host τ κ ι}

/-- A master as constructed. -/
theorem measured_initial (transport : τ) : (initial transport : Host τ κ ι).Measured where
  bounded := Nat.zero_le 1
  hushed := .inl (Nat.le_refl 0)
  awaits := nofun

/-- What adds no keepalive to a mute master, and no HIP to another. -/
theorem Measured.goes (measured : host.Measured)
    (entries : next.data.entries .connected = host.data.entries .connected)
    (mute : host.Mute →
      Adds (fun message => ¬ Keepalive message) host.manager next.manager ∧ next.Mute)
    (busy : ¬ host.Mute → Adds (fun message => ¬ Hip message) host.manager next.manager)
    (awaits : next.state = .connecting → next.unopened ∨ next.Mute) : next.Measured := by
  by_cases hushed : host.Mute
  · obtain ⟨adds, still⟩ := mute hushed
    refine ⟨?_, .inr still, awaits⟩
    rw [entries]
    exact adds.within measured.bounded
  · have even := measured.hushed.resolve_right hushed
    have after : next.manager.rounds ≤ 2 * host.data.entries .connected :=
      (busy hushed).between even
    refine ⟨?_, .inl ?_, awaits⟩
    · rw [entries]
      exact Nat.le_succ_of_le after
    · rw [entries]
      exact after

/-- A task keeps a mute master mute. -/
theorem Mute.performs {task : Task κ} {rest : List (Task κ)} (mute : host.Mute)
    (sound : host.Sound setup) (script : host.script = some (task :: rest)) :
    Adds (fun message => ¬ Keepalive message) host.manager
        (host.performs setup task rest).manager ∧ (host.performs setup task rest).Mute := by
  have inside : host.script ≠ none := by
    rw [script]
    exact Option.some_ne_none _
  obtain ⟨resting, scripted, -⟩ := sound.scripted _ script
  have hushes := perform_hushes scripted mute.apart host.data
  rw [← host.performs_manager] at hushes
  have state : (host.performs setup task rest).state = host.state :=
    congrArg Machine.current (host.performs_machine setup task rest (sound.first inside))
  obtain ⟨timer, users, -, -⟩ := host.performs_others setup task rest
  refine ⟨?_, ?_, by rw [users]; exact mute.users, by rw [timer]; exact mute.timer, ?_⟩
  · rcases hushes.written with same | ⟨message, hip, written⟩
    · exact .inl same
    · exact .inr ⟨message, fun keepalive => absurd (hip.symm.trans keepalive) (by decide), written⟩
  · rw [state]
    exact mute.apart
  rcases mute.timers with ⟨tasks, same, uncleared⟩ | harmless
  · rw [script] at same
    cases same
    refine (uncleared_performs uncleared sound script).imp_right fun empty timer inside => ?_
    rw [empty] at inside
    contradiction
  · exact .inr (hushes.timers harmless)

/-- What leaves the threads and the packets keeps a mute master mute. -/
theorem Mute.frame (mute : host.Mute) (frames : host.Frames next)
    (apart : next.state ≠ .connected) : next.Mute := by
  refine ⟨apart, by rw [frames.users]; exact mute.users, by rw [frames.timer]; exact mute.timer, ?_⟩
  rw [frames.timers]
  rcases mute.timers with ⟨tasks, same, uncleared⟩ | harmless
  · exact .inl ⟨tasks, (frames.script tasks same).resolve_right (absurd uncleared), uncleared⟩
  · exact .inr harmless

/-- What writes nothing and leaves the threads keeps the rounds measured. -/
theorem Measured.frame (measured : host.Measured) (frames : host.Frames next)
    (entries : next.data.entries .connected = host.data.entries .connected)
    (apart : host.state ≠ .connected → next.state ≠ .connected) : next.Measured := by
  have still (mute : host.Mute) : next.Mute := mute.frame frames (apart mute.apart)
  have written : writes next.manager.outputs = writes host.manager.outputs :=
    congrArg writes frames.outputs
  refine measured.goes entries (fun mute => ⟨.inl written, still mute⟩) (fun _ => .inl written)
    fun connecting => ?_
  rcases frames.awaits connecting with fresh | ⟨before, begun⟩
  · exact .inl fresh
  · exact .inr (still ((measured.awaits before).resolve_left begun))

/-- An act that neither writes nor enters a state keeps the rounds measured. -/
theorem Measured.idles (measured : host.Measured) (idles : host.Idles next) : next.Measured :=
  measured.frame idles.toFrames (entries_same idles.statuses _) idles.apart

/-- Another thread executes a statement. -/
theorem Measured.stirred (measured : host.Measured) (manager : Hdcp.Master.State τ κ)
    (timer : TimerStep κ) (users : ι → SendStep κ)
    (mute : host.Mute → Adds (fun message => ¬ Keepalive message) host.manager manager ∧
      (host.stirred manager timer users).Mute)
    (busy : ¬ host.Mute → Adds (fun message => ¬ Hip message) host.manager manager) :
    (host.stirred manager timer users).Measured :=
  measured.goes rfl mute busy fun connecting =>
    (measured.awaits connecting).imp_right fun hushed => (mute hushed).2

/-- The queues are cleared while no call is in flight. -/
theorem mute_of_clears {rest : List (Task κ)} (sound : host.Sound setup)
    (script : host.script = some (.clearQueues :: rest)) (ready : host.crew.protocolReady = true)
    (unused : host.unused) : (host.performs setup .clearQueues rest).Mute := by
  obtain ⟨resting, scripted, -⟩ := sound.scripted _ script
  obtain ⟨users, timer, uncleared⟩ := performs_clears sound script ready unused
  have connecting : host.state = .connecting := by
    generalize same : Task.clearQueues :: rest = tasks at scripted
    generalize current : host.state = state at scripted
    cases scripted with
    | opening => rfl
    | _ => cases same
  refine ⟨?_, users, by rw [timer]; exact trivial, .inl uncleared⟩
  change host.state ≠ .connected
  rw [connecting]
  nofun

/-- A task other than the write of a HIP writes none. -/
theorem perform_plain {state : State} {resting : Bool} {task : Task κ} {rest : List (Task κ)}
    (scripted : Scripted setup state resting (task :: rest))
    (plain : ∀ packetId identification timeout,
      task ≠ .manage (.hipWrite packetId identification timeout)) (data : Data τ κ) :
    Adds (fun message => ¬ Hip message) data.manager
      (after (task.perform setup data)).manager := by
  have deals := @perform_deals _ _ setup task data
  generalize (after (task.perform setup data)).manager = next at deals ⊢
  cases deals with
  | leaves => exact .inl rfl
  | transports _ transport moves => exact .inl rfl
  | stops running => exact .inl rfl
  | operates operation begins held deed => exact deed.unidentified not_false nofun
  | starts place inside =>
    cases place with
    | startRequests | startTimers | startNow | startNumber | startFlag | startRun => exact .inl rfl
    | _ => contradiction
  | manages place held deed =>
    refine deed.unidentified ?_ nofun
    intro identifies
    cases place with
    | hipWrite packetId identification timeout => exact plain _ _ _ rfl
    | _ => contradiction

/-- A task of a handler is performed. -/
theorem Measured.performs {task : Task κ} {rest : List (Task κ)} (measured : host.Measured)
    (sound : host.Sound setup) (script : host.script = some (task :: rest))
    (ready : host.crew.protocolReady = true) (unused : host.clears = true → host.unused) :
    (host.performs setup task rest).Measured := by
  have inside : host.script ≠ none := by
    rw [script]
    exact Option.some_ne_none _
  have counted : host.machine.nbLoop ≠ 0 := sound.counted (.inl inside)
  have state : (host.performs setup task rest).state = host.state :=
    congrArg Machine.current (host.performs_machine setup task rest (sound.first inside))
  obtain ⟨errc, left⟩ := host.performs_data setup task rest
  have entries : (host.performs setup task rest).data.entries .connected =
      host.data.entries .connected := by
    rw [left]
    exact entries_same (@perform_hears τ κ setup task host.data).1 _
  obtain ⟨resting, scripted, -⟩ := sound.scripted _ script
  have manager := host.performs_manager setup task rest
  by_cases clearing : task = .clearQueues
  · subst clearing
    have mute := mute_of_clears sound script ready (unused (by unfold clears; rw [script]))
    exact measured.goes entries (fun _ => ⟨.inl rfl, mute⟩) (fun _ => .inl rfl) fun _ => .inr mute
  have opened (connecting : host.state = .connecting) : host.Mute := by
    refine (measured.awaits connecting).resolve_left ?_
    rintro (none | first)
    · exact counted none
    · rw [script] at first
      cases first
      exact clearing rfl
  refine measured.goes entries (fun mute => mute.performs sound script) (fun busy => ?_)
    fun connecting => .inr ((opened (state.symm.trans connecting)).performs sound script).2
  rw [manager]
  refine perform_plain scripted ?_ host.data
  rintro packetId identification timeout rfl
  exact busy (opened (scripted_hipWrite scripted))

/-- A check is made, or a wait ends. -/
theorem Measured.checked {party : Party τ κ} (measured : host.Measured) (sound : host.Sound setup)
    (script : host.script = none)
    (later : ¬ (host.machine.position = 0 ∧ host.machine.waiting = false))
    (wakes : host.party.wakeup setup = some party) : (host.withParty party).Measured := by
  have checks := wakeup_wakes setup wakes sound.calm
  have manager : (host.withParty party).manager = host.manager := (wakes_same checks later).1
  cases wakes_enters checks later with
  | stays state statuses events =>
    have same : (host.withParty party).state = host.state := state
    exact measured.frame (frames_checked sound script later manager (.inl state))
      (entries_same statuses _) fun apart => same ▸ apart
  | moves errc statuses entered dip route =>
    have entries : (host.withParty party).data.entries .connected =
        host.data.entries .connected + if party.state = .connected then 1 else 0 :=
      entries_snoc statuses _
    by_cases moved : party.state = .connected
    · rw [if_pos moved] at entries
      have before := measured.bounded
      refine ⟨?_, .inl ?_, fun connecting => absurd (moved.symm.trans connecting) nofun⟩
      · rw [entries, manager]
        omega
      · rw [entries, manager]
        omega
    · rw [if_neg moved] at entries
      exact measured.frame (frames_checked sound script later manager (.inr ⟨_, entered⟩)) entries
        fun _ => moved

variable [DecidableEq ι]

/-- An act keeps the rounds measured. -/
theorem measured_step {act : Act τ κ ι} (sound : host.Sound setup) (carries : host.Carries)
    (measured : host.Measured) (patient : host.patient act)
    (taken : host.step setup act = some next) : next.Measured := by
  cases step_acts taken with
  | performed task rest script ready => exact measured.performs sound script ready patient
  | checked party script alive later wakes => exact measured.checked sound script later wakes
  | returned script => exact measured.idles (idles_returned sound script)
  | begun script alive first => exact measured.idles (idles_begun script first)
  | took batch idle running perm =>
    refine measured.stirred _ _ _ (fun mute => ⟨.inl rfl, ?_⟩) fun _ => .inl rfl
    have harmless := mute.timers.resolve_left (not_uncleared sound running)
    exact ⟨mute.apart, mute.users, harmless.expired perm, .inr (harmless.advance _)⟩
  | timed manager timer goes =>
    refine measured.stirred _ _ _ (fun mute => ?_) fun _ => ?_
    · obtain ⟨⟨timers, written⟩, leads⟩ :=
        TimerStep.mute_statement setup.program mute.timer host.manager
      rcases goes with returned | ⟨error, thrown, rfl⟩
      · rw [returned] at timers written
        refine ⟨.inl written, mute.apart, mute.users, leads _ _ returned, ?_⟩
        exact mute.timers.imp_right fun harmless => timers.symm ▸ harmless
      · rw [thrown] at timers written
        refine ⟨.inl written, mute.apart, mute.users, trivial, ?_⟩
        exact mute.timers.imp_right fun harmless => timers.symm ▸ harmless
    · obtain ⟨held, deed⟩ := timed_deed goes
      exact deed.unidentified not_false fun _ repeats =>
        TimerStep.command_of_repeats carries.timer repeats
  | called user type data cb connected idle =>
    refine measured.stirred _ _ _ (fun mute => absurd connected mute.apart) fun _ => .inl rfl
  | uncalled user type data cb other => exact measured
  | used user manager send goes =>
    refine measured.stirred _ _ _ (fun mute => ?_) fun _ => ?_
    · obtain ⟨rfl, same⟩ := used_idle mute.users goes
      rw [same]
      exact ⟨.inl rfl, mute.apart, mute.users, mute.timer, mute.timers⟩
    · obtain ⟨held, deed⟩ := used_deed goes
      exact deed.unidentified not_false fun _ same => by cases same
  | signalled act events phase heard alive =>
    exact measured.idles (idles_of_same rfl rfl rfl rfl rfl rfl rfl rfl)
  | changed transport => exact measured.idles (idles_of_same rfl rfl rfl rfl rfl rfl rfl rfl)
  | joined transport script idle first =>
    exact measured.idles (idles_of_same rfl rfl rfl rfl rfl rfl rfl rfl)
  | started transport stopped => exact measured.idles (idles_started transport)

end Steps

end Host

end Hdcp.Appli.Master
