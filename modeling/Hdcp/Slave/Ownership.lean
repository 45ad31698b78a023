import Hdcp.Slave.Changes
import Hdcp.Transport.Numbering

/-!
# What the slave's manager owns since a timer was armed

Identifiers of timers are never reused: a manager that holds no timer goes on with timers from the
next identifier on. The packets it writes are numbered as long as no packet id is taken in vain.
-/

namespace Hdcp.Slave

open Base

variable {τ : Type} {env : Environment τ} {loses : Prop} {state next : State τ}

/-- The timers the manager holds are not older than a timer. -/
structure Own (first : Nat) (state : State τ) : Prop where
  /-- The timer was not armed before. -/
  issued : first ≤ state.timeoutQueue.nextId
  /-- The timers armed are not older. -/
  timers : ∀ timer ∈ state.timeoutQueue.timers, first ≤ timer.id

/-- What a change does to the timers. -/
theorem Change.follows (change : Change env loses state next) :
    next.timeoutQueue.Follows state.timeoutQueue := by
  cases change with
  | timers next follows packetId running transport outputs => exact follows
  | sent packet named accepted => exact .refl _
  | unsent transport refused lost => exact .refl _
  | timedOut => exact .refl _
  | stopped => exact .refl _

/-- Every change leaves what is owned. -/
theorem Own.change {first : Nat} (change : Change env loses state next) (own : Own first state) :
    Own first next :=
  have follows := change.follows
  ⟨Nat.le_trans own.issued follows.nextId, follows.all_from own.issued own.timers⟩

/-- A sequence of changes leaves what is owned. -/
theorem Own.changes {first : Nat} (changes : Changes env loses state next)
    (own : Own first state) : Own first next := by
  induction changes with
  | refl => exact own
  | tail _ change ih => exact ih.change change

/-- A manager just started owns what it holds. -/
theorem own_started {first : Nat} (issued : first ≤ state.timeoutQueue.nextId) :
    Own first state.started :=
  ⟨issued, fun timer inside => by contradiction⟩

/-- The packets among what was given out, oldest first. -/
def writes (outputs : List Output) : List Message :=
  outputs.filterMap fun
    | .written message => some message
    | .timedOut => none

/-- Since some point the manager wrote a DIP, and then packets under the ids that follow. -/
def Opened (before : List Output) (state : State τ) : Prop :=
  ∃ more dip rest, state.outputs = before ++ more ∧ writes more = dip :: rest ∧
    dip.packet.type = PacketType.dip.code ∧ dip.packet.id = 1 ∧ Numbered (dip :: rest) ∧
      state.packetId = UInt16.ofNat (dip :: rest).length

/-- What is given out adds no packet but those written. -/
theorem writes_append (outputs new : List Output) :
    writes (outputs ++ new) = writes outputs ++ writes new :=
  List.filterMap_append

/-- Another transport numbers no packet. -/
theorem Opened.of_same {before : List Output} (opened : Opened before state)
    (outputs : next.outputs = state.outputs) (packetId : next.packetId = state.packetId) :
    Opened before next := by
  obtain ⟨more, dip, rest, grown, written, type, id, numbered, counted⟩ := opened
  exact ⟨more, dip, rest, outputs.trans grown, written, type, id, numbered,
    packetId.trans counted⟩

/-- Every change that loses no packet id goes on numbering. -/
theorem Opened.change {before : List Output} (change : Change env False state next)
    (opened : Opened before state) : Opened before next := by
  cases change with
  | timers next follows packetId running transport outputs => exact opened.of_same outputs packetId
  | sent packet named accepted =>
    obtain ⟨more, dip, rest, grown, written, type, id, numbered, counted⟩ := opened
    have follows : packet.id = UInt16.ofNat (dip :: rest).length + 1 := by
      rw [← counted]
      exact named
    have next : Numbered (dip :: rest ++ [⟨packet, none⟩]) := numbered.snoc follows
    rw [List.cons_append] at next
    refine ⟨more ++ [.written ⟨packet, none⟩], dip, rest ++ [⟨packet, none⟩], ?_, ?_, type, id,
      next, ?_⟩
    · change state.outputs ++ _ = _
      rw [grown, List.append_assoc]
    · rw [writes_append, written]
      rfl
    · change state.packetId + 1 = _
      rw [← List.cons_append, List.length_append, UInt16.ofNat_add, counted]
      rfl
  | unsent transport refused lost => exact lost.elim
  | timedOut =>
    obtain ⟨more, dip, rest, grown, written, type, id, numbered, counted⟩ := opened
    refine ⟨more ++ [.timedOut], dip, rest, ?_, ?_, type, id, numbered, counted⟩
    · change state.outputs ++ _ = _
      rw [grown, List.append_assoc]
    · rw [writes_append, written]
      exact List.append_nil _
  | stopped => exact opened.of_same rfl rfl

/-- A sequence of changes that loses no packet id goes on numbering. -/
theorem Opened.changes {before : List Output} (changes : Changes env False state next)
    (opened : Opened before state) : Opened before next := by
  induction changes with
  | refl => exact opened
  | tail _ change ih => exact ih.change change

/-- The DIP that a manager just started writes opens the session. -/
theorem opened_sendDip (identification : Identification) (value : Unit)
    (zero : state.packetId = 0) (isOpen : state.isOpen env = true)
    (returned : sendDip env identification state = .ok value next) :
    Opened state.outputs next := by
  rcases (sendIfOpen_eq_ok_iff _ state next value).mp returned with
    ⟨closed, -⟩ | ⟨-, dip, making, -, rfl⟩
  · rw [isOpen] at closed
    contradiction
  · obtain ⟨id, type⟩ := Packet.build_id_type _ _ _ _ _ _ making
    have first : dip.id = 1 := by
      rw [id, zero]
      rfl
    have unused : Numbered [] := rfl
    refine ⟨[.written ⟨dip, none⟩], ⟨dip, none⟩, [], rfl, rfl, type, first, unused.snoc first, ?_⟩
    change state.packetId + 1 = _
    rw [zero]
    rfl

end Hdcp.Slave
