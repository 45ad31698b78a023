import Hdcp.Master.Deeds

/-!
# Threads that write no command

As long as no call of `send_command` is in flight and no timer is bound to `cmd_timeout_cb`, every
statement of the timer thread and of the protocol thread leaves it so, and writes no command.
-/

namespace Hdcp.Master

open Base

variable {τ κ : Type}

/-- The packet is a command. -/
abbrev Command (message : Message) : Prop := message.packet.type = PacketType.cmd.code

/-- The packet is a keepalive. -/
abbrev Keepalive (message : Message) : Prop := message.packet.type = PacketType.ka.code

/-- The packet is a HIP. -/
abbrev Hip (message : Message) : Prop := message.packet.type = PacketType.hip.code

/-- No timer of a batch is bound to `cmd_timeout_cb`. -/
def CommandlessBatch (batch : List (Timer TimerCallback)) : Prop :=
  ∀ timer ∈ batch, timer.callback ≠ .cmdTimeoutCb

/-- The timer thread is outside `cmd_timeout_cb`, and will be for the rest of its batch. -/
def TimerStep.Commandless : TimerStep κ → Prop
  | idle | escaped _ => True
  | calling batch | keepaliveNumber batch | keepaliveWrite _ batch | keepaliveArm batch
  | keepalivePush _ batch => CommandlessBatch batch
  | _ => False

/-- A statement outside `cmd_timeout_cb` leads to another one. -/
theorem TimerStep.commandless_next (program : Program τ κ) {timer : TimerStep κ}
    (outside : timer.Commandless) :
    Yields (fun next => next.Commandless) (timer.statement program) := by
  cases timer with
  | idle | escaped error => exact .pure trivial
  | calling batch =>
    cases batch with
    | nil => exact .pure trivial
    | cons timer batch =>
      have later : CommandlessBatch batch := fun other inside =>
        outside other (List.mem_cons_of_mem timer inside)
      have other : timer.callback ≠ .cmdTimeoutCb := outside timer (List.mem_cons_self ..)
      unfold statement
      dsimp only
      split
      · next same => exact absurd same other
      · exact .bind fun _ => .pure later
      · exact .bind fun _ => .pure later
      · refine .bind fun state => ?_
        split
        · exact .pure later
        · exact .pure later
  | keepaliveNumber batch => exact .bind fun _ => .pure outside
  | keepaliveWrite packetId batch => exact .bind fun _ => .bind fun _ => .pure outside
  | keepaliveArm batch => exact .bind fun _ => .bind fun _ => .pure outside
  | keepalivePush id batch => exact .bind fun _ => .pure outside
  | _ => contradiction

/-- Outside `cmd_timeout_cb` the timer thread writes no command. -/
theorem TimerStep.commands_of_commandless {timer : TimerStep κ} (outside : timer.Commandless) :
    timer.commands = false := by
  cases timer with
  | retryWrite | expiring => contradiction
  | _ => rfl

/-- A tick takes no command's timer from a queue without one. -/
theorem Commandless.expired {queue : TimeoutQueue TimerCallback} {now : Nat}
    {batch : List (Timer TimerCallback)} (none : Commandless queue)
    (perm : batch.Perm (queue.expired now)) : CommandlessBatch batch := by
  intro timer inside
  exact none timer ((queue.mem_expired now timer).mp (perm.mem_iff.mp inside)).1

/-- A tick leaves no command's timer in a queue without one. -/
theorem Commandless.advance {queue : TimeoutQueue TimerCallback} (none : Commandless queue)
    (now : Nat) : Commandless (queue.advance now) := by
  intro timer inside
  obtain ⟨old, before, kept⟩ := (queue.mem_advance now timer).mp inside
  rw [(Timer.advance_keeps kept).2.2]
  exact none old before

/-- What was written is followed by nothing, or by one packet. -/
def Grows (state next : State τ κ) : Prop :=
  writes next.outputs = writes state.outputs ∨
    ∃ message, writes next.outputs = writes state.outputs ++ [message]

/-- No command is written, and no timer is bound to `cmd_timeout_cb`. -/
structure Spares (state next : State τ κ) : Prop where
  /-- At most a packet of another kind is written. -/
  written : writes next.outputs = writes state.outputs ∨
    ∃ message, ¬ Command message ∧ writes next.outputs = writes state.outputs ++ [message]
  /-- No command's timer is armed. -/
  timers : Commandless state.timeoutQueue → Commandless next.timeoutQueue

/-- Writing no command is writing one packet at most. -/
theorem Spares.grows {state next : State τ κ} (spares : Spares state next) : Grows state next :=
  spares.written.imp_right fun ⟨message, _, written⟩ => ⟨message, written⟩

/-- Nothing happens. -/
theorem Spares.refl (state : State τ κ) : Spares state state := ⟨.inl rfl, fun before => before⟩

namespace Deed

variable {env : Environment τ κ} {commands identifies taking made : Prop} {repeats : Option Packet}
  {state next : State τ κ} {held later : Option UInt16}

/-- A statement writes one packet at most. -/
theorem grows (deed : Deed env commands identifies taking repeats made state next held later) :
    Grows state next := by
  cases deed.traffic with
  | quiet _ _ written | takes _ _ _ written | refused _ _ _ _ written | unmade _ _ _ written _ =>
    exact .inl written
  | writes message _ _ _ written _ _ => exact .inr ⟨message, written⟩
  | again _ message _ _ _ written =>
    rcases written with ⟨-, none⟩ | written
    · exact .inl none
    · exact .inr ⟨message, written⟩

/-- A statement of a thread that may write no command. -/
theorem spares (deed : Deed env commands identifies taking repeats made state next held later)
    (none : ¬ commands) : Spares state next := by
  refine ⟨?_, deed.timers.resolve_left none⟩
  cases deed.traffic with
  | quiet _ _ written | takes _ _ _ written | refused _ _ _ _ written | unmade _ _ _ written _ =>
    exact .inl written
  | writes message _ _ _ written type _ =>
    exact .inr ⟨message, fun same => none (type same), written⟩
  | again commanding => exact absurd commanding none

end Deed

end Hdcp.Master
