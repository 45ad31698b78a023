import Hdcp.Appli.MasterScripts
import Hdcp.Master.Undisturbed

/-!
# Handlers of the master that nothing interrupts

The tasks of a handler, performed one after another, are the handler.
-/

namespace Hdcp.Appli.Master

open Base
open Hdcp.Master hiding State Event

variable {τ κ : Type}

section Manager

variable {α β : Type}

/-- A sequence of operations of the request manager. -/
theorem onManager_bind (first : Action τ κ α) (next : α → Action τ κ β) :
    onManager (first >>= next) = onManager first >>= fun value => onManager (next value) := by
  funext data
  rw [bind_apply]
  unfold onManager
  rw [bind_apply]
  cases first data.manager with
  | ok value manager => rfl
  | error error manager => rfl

end Manager

section Scripts

variable (setup : Setup τ κ)

/-- What the end of an operation leaves of the master. -/
def Data.leftBy (data : Data τ κ) :
    EStateM.Result Exn (Hdcp.Master.State τ κ) (ProtocolStep κ) →
      EStateM.Result Exn (Data τ κ) PUnit
  | .ok _ manager => .ok ⟨⟩ (data.withManager manager)
  | .error error manager => .error error (data.withManager manager)

/-- What is left of an operation, statement by statement, to its end. -/
theorem completes_remaining (fuel : Nat) (place : ProtocolStep κ) (data : Data τ κ)
    (finished : ∀ last manager,
      follow ProtocolStep.ended (ProtocolStep.statement setup.program) fuel place data.manager =
        .ok last manager → last.ended = true) :
    Completes (Task.perform setup) (remaining place) data (data.leftBy
      (follow ProtocolStep.ended (ProtocolStep.statement setup.program) fuel place
        data.manager)) := by
  have atEnd (place : ProtocolStep κ) (data : Data τ κ) (last : place.ended = true) :
      Completes (Task.perform setup) (remaining place) data
        (data.leftBy (.ok place data.manager)) := by
    unfold remaining
    rw [if_pos last]
    exact .done data
  induction fuel generalizing place data with
  | zero => exact atEnd place data (finished place data.manager rfl)
  | succ fuel ih =>
    by_cases ended : place.ended = true
    · rw [follow_ended _ _ _ ended]
      exact atEnd place data ended
    · have more : place.ended = false := Bool.eq_false_iff.mpr ended
      have performed := @perform_manage τ κ setup place data
      rw [follow_next _ _ _ more, bind_apply] at finished ⊢
      unfold remaining
      rw [if_neg ended]
      cases outcome : place.statement setup.program data.manager with
      | error error manager =>
        rw [outcome] at performed
        exact .throws performed
      | ok next manager =>
        rw [outcome] at performed finished
        refine .next performed ?_
        rw [List.append_nil]
        exact ih next (data.withManager manager) finished

/-- An operation of the request manager, statement by statement. -/
theorem spells_operate (operation : Operation) :
    Spells (Task.perform setup) [.operate operation]
      (onManager (operation.action setup.environment)) := by
  intro data
  obtain ⟨fuel, same⟩ :=
    operation_statements setup.program (fun _ _ => rfl) operation data.manager
  have begun := @perform_operate τ κ setup operation data
  have whole : onManager (operation.action setup.environment) data = data.leftBy
      ((operation.action setup.environment >>= fun _ => pure .idle) data.manager) := by
    unfold onManager
    rw [bind_apply]
    cases operation.action setup.environment data.manager with
    | ok value manager => rfl
    | error error manager => rfl
  have finished (last : ProtocolStep κ) (manager : Hdcp.Master.State τ κ)
      (returned : (operation.action setup.environment >>= fun _ => pure .idle) data.manager =
        .ok last manager) : last.ended = true := by
    obtain ⟨_, _, -, rest⟩ := (bind_eq_ok_iff _ _ _ _ _).mp returned
    cases rest
    rfl
  rw [whole]
  change (operation.statement setup.environment >>= _) data.manager =
    (operation.action setup.environment >>= _) data.manager at same
  rw [← same] at finished ⊢
  rw [bind_apply] at finished ⊢
  cases outcome : operation.statement setup.environment data.manager with
  | error error manager =>
    rw [outcome] at begun
    exact .throws begun
  | ok place manager =>
    rw [outcome] at begun finished
    refine .next begun ?_
    rw [List.append_nil]
    exact completes_remaining setup fuel place (data.withManager manager) finished

/-- A packet is read and processed, when what follows its reception is the rest of the handler. -/
theorem spells_read {state : State} {process : Message → Handler τ κ Unit}
    (early rest : Message → Handler τ κ Unit) (more : Message → List (Task κ))
    (received : ∀ message, receive state message = early message >>= fun _ => pure (more message))
    (processed : ∀ message, process message = early message >>= fun _ => rest message)
    (spells : ∀ message, Spells (Task.perform setup) (more message) (rest message)) :
    Spells (Task.perform setup) [.read state]
      (readPacket setup state process >>= fun _ => pure ⟨⟩) := by
  have performs : (Task.read state).perform setup = read setup state >>= fun found =>
      found.elim (pure []) fun message => early message >>= fun _ => pure (more message) := by
    rw [Task.perform]
    congr 1
    funext found
    cases found with
    | none => rfl
    | some message => exact received message
  have whole : (readPacket setup state process >>= fun _ => pure ⟨⟩) =
      read setup state >>= fun found =>
        found.elim (pure ⟨⟩) fun message => early message >>= fun _ => rest message := by
    unfold readPacket
    rw [bind_assoc]
    congr 1
    funext found
    cases found with
    | none => rfl
    | some message =>
      simp only [bind_assoc, pure_bind, bind_pure_unit, Option.elim_some]
      exact processed message
  rw [whole]
  exact Spells.found early rest more performs spells

/-- A packet read in state connecting. -/
theorem spells_readConnecting :
    Spells (Task.perform setup) [.read .connecting]
      (readPacket setup .connecting processConnecting >>= fun _ => pure ⟨⟩) := by
  apply spells_read setup
    (fun message => runIf (message.packet.type = PacketType.dip.code) (do
      modify fun data => { data with receivedPacketId := message.packet.id }
      setSlaveId message.packet))
    (fun message => runIf (message.packet.type = PacketType.dip.code) (do
      onManager ackDip
      notify .dipReceived))
    (fun message =>
      if message.packet.type = PacketType.dip.code then [.operate .ackDip, .notifyDip] else [])
  · intro message
    unfold receive runIf
    dsimp only
    split
    · rfl
    · rfl
  · intro message
    unfold processConnecting runIf
    split
    · rfl
    · rfl
  · intro message
    unfold runIf
    split
    · have notified : Spells (Task.perform setup) [.notifyDip] (notify .dipReceived) := .single rfl
      exact (spells_operate setup .ackDip).append notified
    · exact .nil

/-- A packet read in state connected. -/
theorem spells_readConnected :
    Spells (Task.perform setup) [.read .connected]
      (readPacket setup .connected (processConnected setup) >>= fun _ => pure ⟨⟩) := by
  apply spells_read setup (fun message => checkPacketId message.packet)
    (fun message =>
      if message.packet.type = PacketType.cmdAck.code then
        onManager (ackCommand setup.environment message.packet)
      else if message.packet.type = PacketType.data.code then
        giveData setup message
      else runIf (message.packet.type = PacketType.kaAck.code) (onManager ackKeepalive))
    (fun message =>
      if message.packet.type = PacketType.cmdAck.code then [.operate (.ackCommand message.packet)]
      else if message.packet.type = PacketType.data.code then [.giveData message]
      else if message.packet.type = PacketType.kaAck.code then [.operate .ackKeepalive]
      else [])
  · intro message
    unfold receive
    dsimp only
    congr 1
    funext _
    split
    · rfl
    · split
      · rfl
      · split
        · rfl
        · rfl
  · intro message
    rfl
  · intro message
    unfold runIf
    split
    · exact spells_operate setup (.ackCommand message.packet)
    · split
      · exact .single rfl
      · split
        · exact spells_operate setup .ackKeepalive
        · exact .nil

/-- A connection attempt, if one is due. -/
theorem spells_attempt :
    Spells (Task.perform setup) [.attempt] (do
      let due ← attemptDue
      runIf (due = true) (attemptConnection setup)) := by
  let counted (due : Bool) : Handler τ κ Bool := do
    runIf (due = true)
      (modify fun data => { data with connectionAttempts := data.connectionAttempts + 1 })
    return due
  have first : (Task.attempt : Task κ).perform setup = (attemptDue >>= counted) >>= fun due =>
      pure (if due then [.operate (.sendHip setup.masterId connectingTimeout)] else []) := by
    rw [bind_assoc, Task.perform]
    congr 1
    funext due
    cases due with
    | true => rfl
    | false => rfl
  have whole : (do
      let due ← attemptDue
      runIf (due = true) (attemptConnection setup)) =
        (attemptDue >>= counted) >>= fun due => runIf (due = true)
          (onManager (sendHip setup.environment setup.masterId connectingTimeout)) := by
    rw [bind_assoc]
    congr 1
    funext due
    cases due with
    | true => rfl
    | false => rfl
  rw [whole]
  apply Spells.task first
  intro due
  cases due with
  | true => exact spells_operate setup (.sendHip setup.masterId connectingTimeout)
  | false => exact .nil

/-- The tasks of a handler are the handler. -/
theorem spells_tasks (state : State) (nbLoop : Nat) :
    Spells (Task.perform setup) (tasks state nbLoop)
      (handler setup state nbLoop >>= fun _ => pure ⟨⟩) := by
  cases state with
  | init =>
    apply Spells.single
    rw [bind_assoc]
    rfl
  | disconnected =>
    rw [tasks, handler, handlerStateDisconnected, bind_assoc]
    unfold runIf
    split
    · have forgotten : Spells (Task.perform setup) [.forget]
        (modify fun data => { data with slaveId := .empty }) := .single rfl
      unfold enterDisconnected
      rw [bind_assoc]
      exact forgotten.append ((spells_operate setup .stop).append .nil)
    · exact .nil
  | connecting =>
    have later : Spells (Task.perform setup) [.attempt, .read .connecting] (do
        let due ← attemptDue
        runIf (due = true) (attemptConnection setup)
        let _ ← readPacket setup .connecting processConnecting
        return ⟨⟩) := by
      have both := (spells_attempt setup).append (spells_readConnecting setup)
      rw [bind_assoc] at both
      exact both
    rw [tasks, handler, handlerStateConnecting]
    simp only [bind_assoc]
    unfold runIf
    split
    · have cleared : Spells (Task.perform setup) [.clearQueues]
        (onManager (modify fun manager =>
          { manager with transport := setup.transport.clearQueues manager.transport })) :=
        .single rfl
      have reset : Spells (Task.perform setup) [.resetAttempts] (do
          let _ ← eraseEvent .dipReceived
          modify fun data => { data with connectionAttempts := 0 }) := by
        apply Spells.single
        rw [bind_assoc]
        rfl
      have whole := cleared.append ((spells_operate setup .start).append (reset.append later))
      unfold enterConnecting
      simp only [bind_assoc] at whole ⊢
      exact whole
    · exact later
  | connected =>
    rw [tasks, handler, handlerStateConnected]
    unfold runIf
    split
    · rw [bind_assoc]
      exact (spells_operate setup (.startKeepaliveManagement keepaliveInterval
        keepaliveTimeout)).append (spells_readConnected setup)
    · exact spells_readConnected setup

end Scripts

end Hdcp.Appli.Master
