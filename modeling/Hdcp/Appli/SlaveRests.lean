import Hdcp.Appli.SlaveLife
import Hdcp.Appli.SlaveScripts

/-!
# When the slave's manager rests

What an act of the slave can do, where its thread can be, and when the timer thread of its manager
does not run: from the `stop` of state disconnected, or of a HIP read in state connected, to the
`start` of state connecting.
-/

namespace Hdcp.Appli.Slave

open Base
open Hdcp.Slave hiding State

variable {τ ι : Type}

/-! ## Acts -/

/-- What an act can do. -/
inductive Acts [DecidableEq ι] (setup : Setup τ) (device : Device τ ι) :
    Act τ ι → Device τ ι → Prop where
  /-- A handler returns. -/
  | returned (script : device.script = some []) : Acts setup device .protocol (device.returns setup)
  /-- A task of a handler is performed. -/
  | performed (task : Task) (rest : List Task) (script : device.script = some (task :: rest)) :
      Acts setup device .protocol (device.performs setup task rest)
  /-- A handler begins. -/
  | begun (script : device.script = none) (alive : device.phase ≠ .stopped)
      (first : device.machine.position = 0) : Acts setup device .protocol device.begins
  /-- A check is made. -/
  | checked (party : Party τ) (script : device.script = none) (alive : device.phase ≠ .stopped)
      (later : device.machine.position ≠ 0) (wakes : device.party.wakeup setup = some party) :
      Acts setup device .protocol (device.withParty party)
  /-- A tick of the request manager. -/
  | ticked (batch : List (Timer TimerCallback)) (running : device.manager.running = true) :
      Acts setup device (.tick batch) (device.withParty (device.party.ticked batch))
  /-- A call passes the test of the state. -/
  | called (user : ι) (blocks : List BlockView) (connected : device.state = .connected)
      (idle : device.users user = .idle) :
      Acts setup device (.call user blocks)
        { device with users := Function.update device.users user (.packing blocks [] 0) }
  /-- A call throws, as the slave is not connected. -/
  | uncalled (user : ι) (blocks : List BlockView) : Acts setup device (.call user blocks) device
  /-- A user executes a statement. -/
  | used (user : ι) (manager : Hdcp.Slave.State τ) (step : DataStep)
      (goes : (device.users user).statement setup.environment device.manager = .ok step manager ∨
        ∃ error, (device.users user).statement setup.environment device.manager =
          .error error manager ∧ step = .idle) :
      Acts setup device (.user user)
        { device.withManager manager with users := Function.update device.users user step }
  /-- The transport changes. -/
  | changed (transport : τ) :
    Acts setup device (.changed transport) (device.withTransport transport)
  /-- The slave is asked to stop. -/
  | stopping (running : device.phase = .running) :
      Acts setup device .stop { device with phase := .stopping }
  /-- The slave's thread has ended. -/
  | joined (transport : τ) (script : device.script = none) (first : device.machine.position = 0) :
      Acts setup device (.joined transport)
        { device.withManager { device.manager with running := false, transport := transport }
          with phase := .stopped }
  /-- The slave is started. -/
  | started (transport : τ) (stopped : device.phase = .stopped) :
      Acts setup device (.start transport)
        { device.withTransport transport with machine := .entered .init, phase := .running }

section Steps

variable [DecidableEq ι] {setup : Setup τ} {device next : Device τ ι}

/-- What the slave's thread does next. -/
theorem advances_acts (taken : device.advances setup = some next) :
    Acts setup device .protocol next := by
  unfold Device.advances at taken
  cases script : device.script with
  | none =>
    rw [script] at taken
    dsimp only at taken
    split at taken
    · contradiction
    · next alive =>
      split at taken
      · next first =>
        cases taken
        exact .begun script alive first
      · next later =>
        obtain ⟨party, wakes, rfl⟩ := Option.map_eq_some_iff.mp taken
        exact .checked party script alive later wakes
  | some tasks =>
    rw [script] at taken
    cases tasks with
    | nil =>
      cases taken
      exact .returned script
    | cons task rest =>
      cases taken
      exact .performed task rest script

/-- What an act can do. -/
theorem step_acts {act : Act τ ι} (taken : device.step setup act = some next) :
    Acts setup device act next := by
  cases act with
  | protocol => exact advances_acts taken
  | tick batch =>
    obtain ⟨party, ticked, rfl⟩ := Option.map_eq_some_iff.mp taken
    obtain ⟨⟨running, -⟩, rfl⟩ := (device.party.tick_eq_some_iff setup party batch).mp ticked
    exact .ticked batch running
  | call user blocks =>
    unfold Device.step at taken
    dsimp only at taken
    split at taken
    · next idle =>
      split at taken
      · next connected =>
        cases taken
        exact .called user blocks connected idle
      · cases taken
        exact .uncalled user blocks
    · contradiction
  | user user =>
    cases taken
    unfold Device.userDoes
    cases outcome : (device.users user).statement setup.environment device.manager with
    | ok step manager => exact .used user manager step (.inl outcome)
    | error error manager => exact .used user manager _ (.inr ⟨error, outcome, rfl⟩)
  | changed transport =>
    cases taken
    exact .changed transport
  | stop =>
    unfold Device.step at taken
    dsimp only at taken
    split at taken
    · next running =>
      cases taken
      exact .stopping running
    · contradiction
  | joined transport =>
    unfold Device.step at taken
    dsimp only at taken
    split at taken
    · next script =>
      split at taken
      · next fine =>
        cases taken
        exact .joined transport script fine.2
      · contradiction
    · contradiction
  | start transport =>
    unfold Device.step at taken
    dsimp only at taken
    split at taken
    · next stopped =>
      cases taken
      exact .started transport stopped
    · contradiction

end Steps

/-! ## Tasks of the manager -/

/-- A part of a handler changes the manager only, and neither starts nor stops it. -/
def Manages {α : Type} (handler : Handler τ α) : Prop :=
  ∀ data, ∃ manager, after (handler data) = { data with manager := manager } ∧
    manager.running = data.manager.running

namespace Manages

variable {α β : Type}

/-- Nothing. -/
theorem pure (value : α) : Manages (Pure.pure value : Handler τ α) :=
  fun data => ⟨data.manager, rfl, rfl⟩

/-- An operation of the manager that neither starts nor stops it. -/
theorem onManager {action : Action τ α}
    (keeps : ∀ manager, (after (action manager)).running = manager.running) :
    Manages (onManager action) := by
  intro data
  refine ⟨after (action data.manager), ?_, keeps data.manager⟩
  unfold Slave.onManager
  cases action data.manager with
  | ok value manager => rfl
  | error error manager => rfl

/-- One after another. -/
theorem bind {first : Handler τ α} {rest : α → Handler τ β} (begun : Manages first)
    (goes : ∀ value, Manages (rest value)) : Manages (first >>= rest) := by
  intro data
  obtain ⟨manager, left, running⟩ := begun data
  rw [bind_apply]
  cases outcome : first data with
  | ok value middle =>
    rw [outcome] at left
    obtain rfl : middle = _ := left
    obtain ⟨last, ended, kept⟩ := goes value { data with manager := manager }
    exact ⟨last, ended, kept.trans running⟩
  | error error middle =>
    rw [outcome] at left
    exact ⟨manager, left, running⟩

end Manages

/-- Making a packet leaves the manager as it was. -/
theorem after_made (packet : Except PacketError Packet) (manager : Hdcp.Slave.State τ) :
    after (made packet manager) = manager := by
  cases packet with
  | ok packet => rfl
  | error error => rfl

/-- Making the packet of a reply leaves the manager as it was. -/
theorem after_make (setup : Setup τ) (reply : Reply) (packetId : UInt16)
    (manager : Hdcp.Slave.State τ) :
    after (reply.make setup packetId manager) = manager := by
  cases reply with
  | dip => exact after_made _ manager
  | kaAck => exact after_made _ manager
  | cmdAck packet =>
    unfold Reply.make firstBlock
    dsimp only
    rw [bind_apply]
    cases packet.blocks with
    | nil => rfl
    | cons block blocks => exact after_made _ manager

/-- Writing a packet changes the transport and what was given out. -/
theorem after_write (env : Environment τ) (packet : Packet) (manager : Hdcp.Slave.State τ) :
    (after (write env packet manager)).running = manager.running := by
  cases outcome : write env packet manager with
  | ok value next =>
    obtain ⟨-, rfl⟩ := (write_eq_ok_iff packet manager next value).mp outcome
    rfl
  | error error next =>
    rw [after_error, (write_eq_error outcome).1]

/-- The tasks that change the manager only, and neither start nor stop it. -/
def Task.manages : Task → Bool
  | clearQueues | startKeepaliveManagement | stopKeepaliveManagement | resetKeepalive | send _
  | number _ | write _ _ => true
  | _ => false

section Tasks

variable {setup : Setup τ}

/-- Erasing the keepalive timer changes the timers only. -/
theorem after_eraseKeepalive (manager : Hdcp.Slave.State τ) :
    ∃ queue, after (eraseKeepalive manager) = { manager with timeoutQueue := queue } := by
  unfold eraseKeepalive
  rw [modify_apply]
  split
  · exact ⟨manager.timeoutQueue, rfl⟩
  · next id armed => exact ⟨manager.timeoutQueue.erase id, rfl⟩

/-- A task of the manager. -/
theorem perform_manages (setup : Setup τ) {task : Task} (manages : task.manages = true) :
    Manages (task.perform setup) := by
  have erased (manager : Hdcp.Slave.State τ) :
      (after (eraseKeepalive manager)).running = manager.running := by
    obtain ⟨queue, same⟩ := after_eraseKeepalive manager
    rw [same]
  cases task with
  | clearQueues | startKeepaliveManagement =>
    exact .bind (.onManager fun _ => rfl) fun _ => .pure _
  | stopKeepaliveManagement =>
    exact .bind (.onManager fun manager => erased { manager with keepaliveMngt := false })
      fun _ => .pure _
  | resetKeepalive =>
    intro data
    rw [Task.perform, bind_apply, get_apply]
    dsimp only
    unfold runIf
    by_cases managed : data.manager.keepaliveMngt = true
    · rw [if_pos managed]
      have resets : Manages (onManager Hdcp.Slave.resetKeepalive >>= fun _ =>
          (pure [] : Handler τ (List Task))) :=
            .bind (.onManager fun manager => erased manager) fun _ => .pure _
      exact resets data
    · rw [if_neg managed]
      exact ⟨data.manager, rfl, rfl⟩
  | send reply =>
    intro data
    rw [perform_send]
    exact ⟨data.manager, rfl, rfl⟩
  | number reply => exact .bind (.onManager fun _ => rfl) fun _ => .pure _
  | write reply packetId =>
    refine .bind (.onManager fun manager => ?_) fun packet =>
      .bind (.onManager fun manager => after_write _ packet manager) fun _ => .pure _
    rw [after_make]
  | _ => contradiction

/-- The call of `cmd_cb_` changes nothing else. -/
theorem perform_execute (setup : Setup τ) (message : Message) (data : Data τ) :
    ∃ executed, (Task.execute message).perform setup data =
      .ok [] { data with executed := executed } := by
  rw [Task.perform, bind_apply]
  unfold Slave.execute runIf
  by_cases called : message.packet.blocks.length = 1 ∧ setup.hasCmdCb = true
  · rw [if_pos called]
    exact ⟨data.executed ++ [message], rfl⟩
  · rw [if_neg called]
    exact ⟨data.executed, rfl⟩

/-- A HIP is pending after a task that notified it, or when it was before. -/
theorem perform_hip (task : Task) (data : Data τ)
    (pending : .hipReceived ∈ (after (task.perform setup data)).events) :
    .hipReceived ∈ data.events ∨ task = .notify .hipReceived := by
  by_cases manages : task.manages = true
  · obtain ⟨manager, left, -⟩ := perform_manages setup manages data
    rw [left] at pending
    exact .inl pending
  cases task with
  | init => exact absurd pending (Finset.notMem_empty _)
  | stop => exact .inl pending
  | start =>
    left
    have kept : (after ((Task.start).perform setup data)).events = data.events := by
      rw [Task.perform, bind_apply]
      unfold onManager
      cases Hdcp.Slave.start data.manager with
      | ok value manager => rfl
      | error error manager => rfl
    rwa [kept] at pending
  | read state =>
    left
    rw [perform_read] at pending
    cases found : (setup.transport.read data.manager.transport).1 with
    | none =>
      rw [found] at pending
      exact pending
    | some message =>
      rw [found] at pending
      dsimp only at pending
      cases state with
      | init => exact pending
      | disconnected =>
        rw [receive_disconnected] at pending
        split at pending
        · exact pending
        · exact pending
      | connecting =>
        rw [receive_connecting] at pending
        exact pending
      | connected =>
        obtain ⟨tasks, last, outcome, -, events, -, -, -⟩ := receive_connected message
          ((data.withTransport (setup.transport.read data.manager.transport).2).reading .connected
            message)
        rw [outcome] at pending
        have same : last.events = data.events := events
        rw [after_ok, same] at pending
        exact pending
  | notify event =>
    rcases Finset.mem_insert.mp pending with same | before
    · exact .inr (by rw [same])
    · exact .inl before
  | execute message =>
    obtain ⟨executed, outcome⟩ := perform_execute setup message data
    rw [outcome] at pending
    exact .inl pending
  | _ => contradiction

/-- No task but `stop` and `start` changes whether the manager's thread runs. -/
theorem perform_running (task : Task) (data : Data τ) (other : task ≠ .stop)
    (last : task ≠ .start) :
    (after (task.perform setup data)).manager.running = data.manager.running := by
  by_cases manages : task.manages = true
  · obtain ⟨manager, left, running⟩ := perform_manages setup manages data
    rw [left]
    exact running
  cases task with
  | init | notify event => rfl
  | stop => exact absurd rfl other
  | start => exact absurd rfl last
  | read state =>
    rw [perform_read]
    cases (setup.transport.read data.manager.transport).1 with
    | none => rfl
    | some message =>
      dsimp only
      cases state with
      | init => rfl
      | disconnected =>
        rw [receive_disconnected]
        split
        · rfl
        · rfl
      | connecting =>
        rw [receive_connecting]
        rfl
      | connected =>
        obtain ⟨tasks, last, outcome, manager, -, -, -, -⟩ := receive_connected message
          ((data.withTransport (setup.transport.read data.manager.transport).2).reading .connected
            message)
        rw [outcome, after_ok, manager]
        rfl
  | execute message =>
    obtain ⟨executed, outcome⟩ := perform_execute setup message data
    rw [outcome]
    rfl
  | _ => contradiction

/-- Where `request_manager_.start()` is called, it begins the first handler of a session. -/
theorem start_notMem {state : State} {task : Task} {rest : List Task}
    (scripted : Scripted state (task :: rest)) : .start ∉ rest := by
  generalize same : task :: rest = script at scripted
  cases scripted <;> cases same <;> simp

/-- No task leaves `request_manager_.start()` to do. -/
theorem start_notMem_more {task : Task} {more : List Task} (leaves : Leaves task more) :
    .start ∉ more := by
  cases leaves <;> simp

/-- A HIP is notified last, outside state connecting. -/
theorem scripted_notify {state : State} {rest : List Task}
    (scripted : Scripted state (.notify .hipReceived :: rest)) :
    rest = [] ∧ (state = .disconnected ∨ state = .connected) := by
  generalize same : Task.notify .hipReceived :: rest = script at scripted
  cases scripted with
  | identified =>
    cases same
    exact ⟨rfl, .inl rfl⟩
  | again =>
    cases same
    exact ⟨rfl, .inr rfl⟩
  | identify sending | firstAck sending | commandAlive message sending
  | commandAck message sending | alive sending =>
    cases same
    cases sending
  | _ => cases same

/-- A session starts the manager first. -/
theorem scripted_start {state : State} {rest : List Task}
    (scripted : Scripted state (.start :: rest)) :
    state = .connecting ∧ rest = [.send .dip, .startKeepaliveManagement, .read .connecting] := by
  generalize same : Task.start :: rest = script at scripted
  cases scripted with
  | start =>
    cases same
    exact ⟨rfl, rfl⟩
  | identify sending | firstAck sending | commandAlive message sending
  | commandAck message sending | alive sending =>
    cases same
    cases sending
  | _ => cases same

/-- The HIP read in a session is notified after the manager was stopped. -/
theorem stop_of_notify {task : Task} {more rest : List Task}
    (scripted : Scripted .connected (task :: rest)) (leaves : Leaves task more)
    (notifies : more ++ rest = [.notify .hipReceived]) : task = .stop := by
  cases leaves with
  | nothing =>
    obtain rfl : rest = [.notify .hipReceived] := notifies
    generalize same : task :: [Task.notify .hipReceived] = script at scripted
    cases scripted <;> cases same
    rfl
  | identified =>
    generalize same : Task.read .disconnected :: rest = script at scripted
    cases scripted with
    | commandAlive message sending | commandAck message sending | alive sending =>
      cases same
      cases sending
    | _ => cases same
  | _ => cases notifies

end Tasks

/-! ## The slave's thread -/

namespace Device

/-- Where the timer thread of the manager does not run. -/
def resting (device : Device τ ι) : Prop :=
  .hipReceived ∈ device.data.events ∨ device.script = some [.notify .hipReceived] ∨
    device.phase = .stopped ∨ device.state = .init ∨
    device.state = .disconnected ∧ device.machine.nbLoop ≠ 0 ∧
      device.script ≠ some [.stop, .clearQueues, .read .disconnected] ∨
    device.state = .connecting ∧ (device.machine.nbLoop = 0 ∨ device.script = some opening)

/-- Where the slave's thread is, and when the manager's does not run. -/
structure Sound (device : Device τ ι) : Prop where
  /-- The machine does not wait. -/
  awake : device.machine.waiting = false
  /-- A script is that of the first entry. -/
  first : device.script ≠ none → device.machine.position = 0
  /-- A wakeup counts from its first entry. -/
  counted : device.script ≠ none ∨ device.machine.position ≠ 0 → device.machine.nbLoop ≠ 0
  /-- A stopped slave is in no handler. -/
  alive : device.script ≠ none → device.phase ≠ .stopped
  /-- The script is one of the state's handlers. -/
  scripted : ∀ script, device.script = some script → Scripted device.state script
  /-- A session consumed its HIP. -/
  heedless : device.state = .connecting → .hipReceived ∉ device.data.events
  /-- The manager's thread rests where it should. -/
  rests : device.resting → device.manager.running = false

section Steps

variable {setup : Setup τ}

/-- A slave as constructed. -/
theorem sound_initial (transport : τ) : (initial transport : Device τ ι).Sound where
  awake := rfl
  first := fun inside => absurd rfl inside
  counted := fun later => by
    rcases later with inside | later
    · exact absurd rfl inside
    · exact absurd rfl later
  alive := fun inside => absurd rfl inside
  scripted := fun script inside => by contradiction
  heedless := fun connecting => by contradiction
  rests := fun _ => rfl

/-- What a task leaves of the fields. -/
theorem performs_data (setup : Setup τ) (device : Device τ ι) (task : Task) (rest : List Task) :
    (device.performs setup task rest).data = after (task.perform setup device.data) := by
  unfold performs
  cases task.perform setup device.data with
  | ok more data => rfl
  | error error data => rfl

/-- A task changes neither the state nor how often its handler was called. -/
theorem performs_machine (setup : Setup τ) (device : Device τ ι) (task : Task) (rest : List Task)
    (first : device.machine.position = 0) :
    (device.performs setup task rest).machine = device.machine := by
  unfold performs
  cases task.perform setup device.data with
  | ok more data => rfl
  | error error data =>
    dsimp only
    rw [← first]

/-- A task leaves the users where they are. -/
theorem performs_others (setup : Setup τ) (device : Device τ ι) (task : Task) (rest : List Task) :
    (device.performs setup task rest).users = device.users ∧
      (device.performs setup task rest).phase = device.phase := by
  unfold performs
  cases task.perform setup device.data with
  | ok more data => exact ⟨rfl, rfl⟩
  | error error data => exact ⟨rfl, rfl⟩

/-- The script after a task. -/
theorem performs_script (setup : Setup τ) (device : Device τ ι) (task : Task) (rest : List Task) :
    (device.performs setup task rest).script = none ∨ ∃ more data,
      task.perform setup device.data = .ok more data ∧
        (device.performs setup task rest).script = some (more ++ rest) := by
  unfold performs
  cases outcome : task.perform setup device.data with
  | ok more data => exact .inr ⟨more, data, rfl, rfl⟩
  | error error data => exact .inl rfl

namespace Sound

variable {device : Device τ ι}

/-- A task of a handler is performed. -/
theorem performs {task : Task} {rest : List Task} (sound : device.Sound)
    (script : device.script = some (task :: rest)) : (device.performs setup task rest).Sound := by
  have inside : device.script ≠ none := by
    rw [script]
    exact Option.some_ne_none _
  have machine := device.performs_machine setup task rest (sound.first inside)
  obtain ⟨-, phase⟩ := device.performs_others setup task rest
  have left := device.performs_data setup task rest
  have scripted := sound.scripted _ script
  have counted := sound.counted (.inl inside)
  have state : (device.performs setup task rest).state = device.state :=
    congrArg Machine.current machine
  have heard (pending : .hipReceived ∈ (device.performs setup task rest).data.events) :
      .hipReceived ∈ device.data.events ∨ task = .notify .hipReceived := by
    rw [left] at pending
    exact perform_hip task device.data pending
  refine ⟨by rw [machine]; exact sound.awake, fun _ => by rw [machine]; exact sound.first inside,
    fun _ => by rw [machine]; exact counted, fun _ => by rw [phase]; exact sound.alive inside,
    ?_, ?_, ?_⟩
  · intro tasks same
    rw [state]
    rcases device.performs_script setup task rest with none | ⟨more, data, outcome, onward⟩
    · rw [none] at same
      contradiction
    · rw [onward] at same
      cases same
      exact scripted.next rfl (perform_leaves outcome)
  · intro connecting pending
    rw [state] at connecting
    rcases heard pending with before | rfl
    · exact sound.heedless connecting before
    · rcases (scripted_notify scripted).2 with same | same
      · exact absurd (connecting.symm.trans same) nofun
      · exact absurd (connecting.symm.trans same) nofun
  · intro resting
    change (device.performs setup task rest).data.manager.running = false
    rw [left]
    by_cases stops : task = .stop
    · subst stops
      rfl
    have unstarted : (device.performs setup task rest).script ≠ some opening := by
      rcases device.performs_script setup task rest with none | ⟨more, data, outcome, onward⟩
      · rw [none]
        exact nofun
      · rw [onward]
        intro same
        have inside : .start ∈ more ++ rest := by
          rw [Option.some.inj same]
          exact List.mem_cons_self
        rcases List.mem_append.mp inside with early | late
        · exact start_notMem_more (perform_leaves outcome) early
        · exact start_notMem scripted late
    have before (other : task ≠ .start) : device.resting := by
      rcases resting with pending | last | stopped | init | ⟨disconnected, -, -⟩ |
        ⟨connecting, none | opened⟩
      · rcases heard pending with before | rfl
        · exact .inl before
        · refine .inr (.inl ?_)
          rw [script, (scripted_notify scripted).1]
      · rcases device.performs_script setup task rest with none | ⟨more, data, outcome, onward⟩
        · rw [none] at last
          contradiction
        · have notifies := Option.some.inj (onward.symm.trans last)
          have leaves := perform_leaves outcome
          have reached := scripted.next rfl leaves
          rw [notifies] at reached
          rcases (scripted_notify reached).2 with disconnected | connected
          · refine .inr (.inr (.inr (.inr (.inl ⟨disconnected, counted, ?_⟩))))
            rw [script]
            intro same
            cases same
            exact stops rfl
          · rw [connected] at scripted
            exact absurd (stop_of_notify scripted leaves notifies) stops
      · exact absurd (phase.symm.trans stopped) (sound.alive inside)
      · exact .inr (.inr (.inr (.inl (state.symm.trans init))))
      · refine .inr (.inr (.inr (.inr (.inl ⟨state.symm.trans disconnected, counted, ?_⟩))))
        rw [script]
        intro same
        cases same
        exact stops rfl
      · rw [machine] at none
        exact absurd none counted
      · exact absurd opened unstarted
    by_cases starts : task = .start
    · subst starts
      obtain ⟨connecting, rfl⟩ := scripted_start scripted
      exfalso
      rcases resting with pending | last | stopped | init | ⟨disconnected, -, -⟩ |
        ⟨-, none | opened⟩
      · exact (heard pending).elim (sound.heedless connecting) nofun
      · rcases device.performs_script setup .start _ with none | ⟨more, data, outcome, onward⟩
        · exact absurd (none.symm.trans last) nofun
        · have leaves := perform_leaves outcome
          cases leaves
          exact absurd (onward.symm.trans last) nofun
      · exact sound.alive inside (phase.symm.trans stopped)
      · exact absurd (connecting.symm.trans (state.symm.trans init)) nofun
      · exact absurd (connecting.symm.trans (state.symm.trans disconnected)) nofun
      · rw [machine] at none
        exact counted none
      · exact unstarted opened
    · rw [perform_running task device.data stops starts]
      exact sound.rests (before starts)

/-- A handler begins. -/
theorem begins (sound : device.Sound) (script : device.script = none)
    (alive : device.phase ≠ .stopped) (first : device.machine.position = 0) :
    device.begins.Sound := by
  have loops : device.begins.machine.nbLoop = device.machine.nbLoop + 1 := by
    change device.machine.begun.nbLoop = _
    rw [Machine.begun, if_pos first]
  refine ⟨sound.awake, fun _ => first, fun _ => ?_, fun _ => alive, ?_, sound.heedless, ?_⟩
  · rw [loops]
    exact Nat.succ_ne_zero _
  · intro tasks same
    cases same
    exact scripted_tasks _ _
  · intro resting
    refine sound.rests ?_
    have counts : device.machine.begun.nbLoop = device.machine.nbLoop + 1 := loops
    rcases resting with pending | last | stopped | init | ⟨disconnected, -, other⟩ |
      ⟨connecting, none | opened⟩
    · exact .inl pending
    · have same : tasks device.state device.machine.begun.nbLoop = [.notify .hipReceived] :=
        Option.some.inj last
      unfold tasks at same
      split at same
      · cases same
      · split at same <;> cases same
      · split at same <;> cases same
      · cases same
    · exact absurd stopped alive
    · exact .inr (.inr (.inr (.inl init)))
    · refine .inr (.inr (.inr (.inr (.inl ⟨disconnected, ?_, ?_⟩))))
      · intro none
        refine other ?_
        change some (tasks device.state device.machine.begun.nbLoop) = _
        rw [counts, none, show device.state = .disconnected from disconnected]
        rfl
      · rw [script]
        exact nofun
    · rw [loops] at none
      exact absurd none (Nat.succ_ne_zero _)
    · refine .inr (.inr (.inr (.inr (.inr ⟨connecting, .inl ?_⟩))))
      have same : tasks device.state device.machine.begun.nbLoop = opening :=
        Option.some.inj opened
      rw [counts, show device.state = .connecting from connecting] at same
      by_cases none : device.machine.nbLoop = 0
      · exact none
      · unfold tasks at same
        dsimp only at same
        rw [if_neg (by omega)] at same
        cases same

/-- A handler returns. -/
theorem returns (sound : device.Sound) (script : device.script = some []) :
    (device.returns setup).Sound := by
  have inside : device.script ≠ none := by
    rw [script]
    exact Option.some_ne_none _
  have counted : device.machine.nbLoop ≠ 0 := sound.counted (.inl inside)
  refine ⟨rfl, fun inside => absurd rfl inside, fun _ => counted, fun inside => absurd rfl inside,
    fun script inside => by contradiction, sound.heedless, ?_⟩
  intro resting
  refine sound.rests ?_
  rcases resting with pending | last | stopped | init | ⟨disconnected, -, -⟩ |
    ⟨connecting, none | opened⟩
  · exact .inl pending
  · contradiction
  · exact .inr (.inr (.inl stopped))
  · exact .inr (.inr (.inr (.inl init)))
  · refine .inr (.inr (.inr (.inr (.inl ⟨disconnected, counted, ?_⟩))))
    rw [script]
    exact nofun
  · exact absurd none counted
  · contradiction

/-- A check is made. -/
theorem checked {party : Party τ} (sound : device.Sound) (script : device.script = none)
    (alive : device.phase ≠ .stopped) (later : device.machine.position ≠ 0)
    (wakes : device.party.wakeup setup = some party) : (device.withParty party).Sound := by
  have counted : device.machine.nbLoop ≠ 0 := sound.counted (.inr later)
  have outside {tasks : List Task} (same : device.script = some tasks) : False := by
    rw [script] at same
    contradiction
  cases wakes_verdict (wakeup_wakes setup wakes sound.awake) later with
  | stays current nbLoop awake manager events reads received unheard ungreeted =>
    have loops : (device.withParty party).machine.nbLoop ≠ 0 := fun none =>
      counted (nbLoop.symm.trans none)
    refine ⟨awake, fun inside => absurd script inside, fun _ => loops,
      fun inside => absurd script inside, fun tasks same => (outside same).elim, ?_, ?_⟩
    · intro connecting pending
      have same : party.data.events = device.data.events := events
      have heard : .hipReceived ∈ party.data.events := pending
      rw [same] at heard
      exact sound.heedless (current.symm.trans connecting) heard
    · intro resting
      change party.data.manager.running = false
      rw [manager]
      refine sound.rests ?_
      rcases resting with pending | last | stopped | init | ⟨disconnected, -, -⟩ |
        ⟨connecting, none | opened⟩
      · have heard : .hipReceived ∈ party.data.events := pending
        rw [events] at heard
        exact .inl heard
      · exact (outside last).elim
      · exact absurd stopped alive
      · exact .inr (.inr (.inr (.inl (current.symm.trans init))))
      · refine .inr (.inr (.inr (.inr (.inl ⟨current.symm.trans disconnected, counted, ?_⟩))))
        rw [script]
        exact nofun
      · exact absurd none loops
      · exact (outside opened).elim
  | moves target entered manager reads received events route =>
    have machine : (device.withParty party).machine = .entered target := entered
    have state : (device.withParty party).state = target := by
      unfold Device.state
      rw [machine]
      rfl
    refine ⟨by rw [machine]; rfl, fun inside => absurd script inside, ?_,
      fun inside => absurd script inside, fun tasks same => (outside same).elim, ?_, ?_⟩
    · intro moved
      rw [machine] at moved
      rcases moved with inside | moved
      · exact absurd script inside
      · exact absurd rfl moved
    · intro connecting pending
      rw [state] at connecting
      rcases route with ⟨same, -⟩ | ⟨-, -, consumed, -⟩ | ⟨same, -⟩
      · exact absurd (connecting.symm.trans same) nofun
      · exact consumed pending
      · exact absurd (connecting.symm.trans same) nofun
    · intro resting
      change party.data.manager.running = false
      rw [manager]
      unfold Device.resting at resting
      rw [state, machine] at resting
      rcases resting with pending | last | stopped | init | ⟨-, more, -⟩ | ⟨connecting, -⟩
      · exact sound.rests (.inl (events _ pending))
      · exact (outside last).elim
      · exact absurd stopped alive
      · rcases route with ⟨same, -⟩ | ⟨same, -⟩ | ⟨same, -⟩
        all_goals exact absurd (init.symm.trans same) nofun
      · exact absurd rfl more
      · rcases route with ⟨same, -⟩ | ⟨-, pending, -⟩ | ⟨same, -⟩
        · exact absurd (connecting.symm.trans same) nofun
        · exact sound.rests (.inl pending)
        · exact absurd (connecting.symm.trans same) nofun

/-- The sound state of a slave does not depend on its users and its transport, and the thread may be
asked to stop. -/
theorem frame {next : Device τ ι} (sound : device.Sound) (machine : next.machine = device.machine)
    (script : next.script = device.script)
    (heard : .hipReceived ∈ next.data.events ↔ .hipReceived ∈ device.data.events)
    (running : next.manager.running = device.manager.running)
    (phase : next.phase = .stopped → device.phase = .stopped) : next.Sound := by
  have state : next.state = device.state := congrArg Machine.current machine
  refine ⟨by rw [machine]; exact sound.awake, ?_, ?_, ?_, ?_, ?_, ?_⟩
  · rw [script, machine]
    exact sound.first
  · rw [script, machine]
    exact sound.counted
  · rw [script]
    exact fun inside stopped => sound.alive inside (phase stopped)
  · rw [script, state]
    exact sound.scripted
  · rw [state, heard]
    exact sound.heedless
  · intro resting
    rw [running]
    unfold Device.resting at resting
    rw [heard, script, state, machine] at resting
    refine sound.rests ?_
    rcases resting with pending | last | stopped | rest
    · exact .inl pending
    · exact .inr (.inl last)
    · exact .inr (.inr (.inl (phase stopped)))
    · exact .inr (.inr (.inr rest))

end Sound

variable [DecidableEq ι]

/-- A statement of `send_data` neither starts nor stops the manager. -/
theorem statement_running (env : Environment τ) (step : DataStep) (manager : Hdcp.Slave.State τ) :
    (after (step.statement env manager)).running = manager.running := by
  cases step with
  | idle => rfl
  | packing blocks payload size =>
    cases blocks with
    | nil =>
      unfold DataStep.statement
      dsimp only
      split
      · rfl
      · rfl
    | cons block blocks =>
      unfold DataStep.statement
      dsimp only
      split
      · rfl
      · split
        · rfl
        · rfl
  | numbered packetId payload blocks =>
    unfold DataStep.statement
    dsimp only
    rw [bind_apply]
    have still := after_made (Packet.makeData env.raw packetId payload) manager
    cases making : (made (Packet.makeData env.raw packetId payload) : Action τ Packet) manager with
    | error error middle =>
      rw [making] at still
      exact congrArg Hdcp.Slave.State.running still
    | ok packet middle =>
      rw [making] at still
      obtain rfl : middle = manager := still
      dsimp only
      have kept := after_write env packet middle
      rw [bind_apply]
      cases wrote : write env packet middle with
      | error error last =>
        rw [wrote] at kept
        exact kept
      | ok value last =>
        rw [wrote] at kept
        cases blocks with
        | nil => exact kept
        | cons block blocks => exact kept

/-- An act keeps a slave sound. -/
theorem sound_step {device next : Device τ ι} {act : Act τ ι} (sound : device.Sound)
    (taken : device.step setup act = some next) : next.Sound := by
  cases step_acts taken with
  | returned script => exact sound.returns script
  | performed task rest script => exact sound.performs script
  | begun script alive first => exact sound.begins script alive first
  | checked party script alive later wakes => exact sound.checked script alive later wakes
  | ticked batch running =>
    refine sound.frame rfl rfl ?_ rfl fun same => same
    exact device.party.hip_mem_ticked batch
  | called user blocks connected idle => exact sound.frame rfl rfl Iff.rfl rfl fun same => same
  | uncalled user blocks => exact sound
  | used user manager step goes =>
    have running := statement_running setup.environment (device.users user) device.manager
    refine sound.frame rfl rfl Iff.rfl ?_ fun same => same
    rcases goes with returned | ⟨error, thrown, -⟩
    · rw [returned] at running
      exact running
    · rw [thrown] at running
      exact running
  | changed transport => exact sound.frame rfl rfl Iff.rfl rfl fun same => same
  | stopping running => exact sound.frame rfl rfl Iff.rfl rfl nofun
  | joined transport script first =>
    refine ⟨sound.awake, sound.first, sound.counted, fun inside => absurd script inside, ?_,
      sound.heedless, fun _ => rfl⟩
    intro tasks inside
    exact absurd (script.symm.trans inside) nofun
  | started transport stopped =>
    have script : device.script = none := by
      by_cases none : device.script = none
      · exact none
      · exact absurd stopped (sound.alive none)
    refine ⟨rfl, fun inside => absurd script inside, ?_, fun inside => absurd script inside, ?_,
      nofun, fun _ => sound.rests (.inr (.inr (.inl stopped)))⟩
    · intro later
      rcases later with inside | later
      · exact absurd script inside
      · exact absurd rfl later
    · intro tasks inside
      exact absurd (script.symm.trans inside) nofun

end Steps

end Device

end Hdcp.Appli.Slave
