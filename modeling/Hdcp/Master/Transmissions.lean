import Hdcp.Master.Ownership

/-!
# How often a command is written

A call of `send_command` writes its command once, and the expiry of its timer writes it again while
retries are left: four times at most. The call is named by the identifier of its request's timer,
which no other call gets.
-/

namespace Hdcp.Master

open Base

variable {τ κ : Type}

/-- A packet is the command of a call. -/
def Carries (call : Nat) (message : Message) : Bool := message.call = some call

/-- How often the command of a call was written. -/
def transmissions (outputs : List (Output κ)) (call : Nat) : Nat :=
  (writes outputs).countP (Carries call)

/-- The command of a call was written as often as its retries allow. -/
structure Tallied (call : Nat) (state : State τ κ) : Prop where
  /-- It was written four times at most. -/
  bounded : transmissions state.outputs call ≤ maxRetry + 1
  /-- It was not written before the call. -/
  unissued : state.timeoutQueue.nextId ≤ call → transmissions state.outputs call = 0
  /-- Pending requests are those of calls made. -/
  issued : ∀ request ∈ state.requests.entries, request.id < state.timeoutQueue.nextId
  /-- While the request is pending, its retries count the packets written after the first. -/
  pending : ∀ request ∈ state.requests.entries, request.id = call →
    transmissions state.outputs call ≤ request.retry + 1 ∧ request.retry ≤ maxRetry

section Counting

variable {env : Environment τ κ} {call : Nat}

/-- What is given out adds no packet but those written. -/
theorem writes_append (outputs new : List (Output κ)) :
    writes (outputs ++ new) = writes outputs ++ writes new :=
  List.filterMap_append

/-- Another packet is given to the transport. -/
theorem transmissions_sent_other (state : State τ κ) {message : Message}
    (other : message.call ≠ some call) :
    transmissions (state.sent env message).outputs call = transmissions state.outputs call := by
  unfold transmissions
  rw [State.outputs_sent, writes_append, List.countP_append]
  split
  · have uncounted : Carries call message ≠ true := fun same => other (of_decide_eq_true same)
    change _ + List.countP (Carries call) [message] = _
    rw [List.countP_singleton, if_neg uncounted, Nat.add_zero]
  · rfl

/-- One packet at most is given to the transport. -/
theorem transmissions_sent_le (state : State τ κ) (message : Message) :
    transmissions (state.sent env message).outputs call ≤
      transmissions state.outputs call + 1 := by
  unfold transmissions
  rw [State.outputs_sent, writes_append, List.countP_append]
  refine Nat.add_le_add_left ?_ _
  split
  · exact List.countP_le_length
  · exact Nat.zero_le 1

/-- No packet is written, no request is new and no retry counted. -/
theorem Tallied.of_same {state next : State τ κ} (tallied : Tallied call state)
    (outputs : transmissions next.outputs call = transmissions state.outputs call)
    (nextId : state.timeoutQueue.nextId ≤ next.timeoutQueue.nextId)
    (requests : ∀ request ∈ next.requests.entries, request ∈ state.requests.entries) :
    Tallied call next where
  bounded := outputs ▸ tallied.bounded
  unissued := fun early => outputs ▸ tallied.unissued (Nat.le_trans nextId early)
  issued := fun request inside =>
    Nat.lt_of_lt_of_le (tallied.issued request (requests request inside)) nextId
  pending := fun request inside same =>
    outputs ▸ tallied.pending request (requests request inside) same

/-- A transport writes nothing on its own. -/
theorem Tallied.withTransport {state : State τ κ} (tallied : Tallied call state) (transport : τ) :
    Tallied call { state with transport := transport } :=
  tallied.of_same rfl (Nat.le_refl _) fun _ inside => inside

/-- A command is written for the first time. -/
theorem Tallied.first {state next : State τ κ} {cmd : Packet} (tallied : Tallied call state)
    (outputs : next.outputs = (state.sent env ⟨cmd, some state.timeoutQueue.nextId⟩).outputs)
    (nextId : state.timeoutQueue.nextId < next.timeoutQueue.nextId)
    (requests : ∀ request ∈ next.requests.entries,
      request ∈ state.requests.entries ∨
        request.id = state.timeoutQueue.nextId ∧ request.retry = 0) :
    Tallied call next := by
  have issued : ∀ request ∈ next.requests.entries, request.id < next.timeoutQueue.nextId := by
    intro request inside
    rcases requests request inside with old | ⟨new, -⟩
    · exact Nat.lt_trans (tallied.issued request old) nextId
    · rw [new]
      exact nextId
  by_cases own : call = state.timeoutQueue.nextId
  · have once : transmissions next.outputs call ≤ 1 := by
      have before := tallied.unissued (Nat.le_of_eq own.symm)
      rw [outputs, ← Nat.zero_add 1, ← before]
      exact transmissions_sent_le state _
    refine ⟨Nat.le_trans once (by decide), fun early => ?_, issued, fun request inside same => ?_⟩
    · exact absurd nextId (Nat.not_lt.mpr (own ▸ early))
    · refine ⟨Nat.le_trans once (Nat.le_add_left 1 _), ?_⟩
      rcases requests request inside with old | ⟨-, zero⟩
      · exact (tallied.pending request old same).2
      · rw [zero]
        exact Nat.zero_le _
  · have unwritten : transmissions next.outputs call = transmissions state.outputs call := by
      rw [outputs]
      exact transmissions_sent_other state fun same => own (Option.some.inj same).symm
    refine ⟨unwritten ▸ tallied.bounded, fun early => ?_, issued, fun request inside same => ?_⟩
    · rw [unwritten]
      exact tallied.unissued (Nat.le_trans (Nat.le_of_lt nextId) early)
    · rcases requests request inside with old | ⟨new, -⟩
      · exact unwritten ▸ tallied.pending request old same
      · exact absurd (same.symm.trans new) own

/-- A retry of a pending request is counted, and its command written or not. -/
theorem Tallied.retried {state next : State τ κ} {request : Request κ}
    (tallied : Tallied call state) (inside : request ∈ state.requests.entries)
    (left : request.retry < maxRetry)
    (fields : next.toFields = state.toFields.withRetry request.id)
    (more : transmissions next.outputs call ≤ transmissions state.outputs call + 1)
    (other : request.id ≠ call →
      transmissions next.outputs call = transmissions state.outputs call) : Tallied call next := by
  have requests : ∀ retried ∈ next.requests.entries,
      (retried ∈ state.requests.entries ∧ retried.id ≠ request.id) ∨
        incRetry request = retried := by
    intro retried counted
    rw [fields] at counted
    rcases (Fields.mem_withRetry_iff _ _ _).mp counted with old | ⟨old, oldIn, same, rfl⟩
    · exact .inl old
    · exact .inr (congrArg incRetry (TwoIndex.eq_of_first oldIn inside same).symm)
  have nextId : next.timeoutQueue.nextId = state.timeoutQueue.nextId := by
    rw [fields]
    rfl
  have issued : ∀ retried ∈ next.requests.entries,
      retried.id < next.timeoutQueue.nextId := by
    intro retried counted
    rw [nextId]
    rcases requests retried counted with ⟨old, -⟩ | rfl
    · exact tallied.issued retried old
    · exact tallied.issued request inside
  by_cases own : request.id = call
  · obtain ⟨few, -⟩ := tallied.pending request inside own
    refine ⟨Nat.le_trans more (Nat.succ_le_succ (Nat.le_trans few left)), fun early => ?_, issued,
      fun retried counted same => ?_⟩
    · have before := tallied.issued request inside
      rw [nextId] at early
      exact absurd before (Nat.not_lt.mpr (own ▸ early))
    · rcases requests retried counted with ⟨-, different⟩ | rfl
      · exact absurd (same.trans own.symm) different
      · exact ⟨Nat.le_trans more (Nat.succ_le_succ few), left⟩
  · refine ⟨other own ▸ tallied.bounded, fun early => ?_, issued, fun retried counted same => ?_⟩
    · rw [other own]
      exact tallied.unissued (nextId ▸ early)
    · rcases requests retried counted with ⟨old, -⟩ | rfl
      · exact other own ▸ tallied.pending retried old same
      · exact absurd same own

/-- Every change leaves the command of a call written as often as its retries allow. -/
theorem Tallied.change {loses : Prop} {state next : State τ κ}
    (change : Change env loses state next) (tallied : Tallied call state) :
    Tallied call next := by
  have quiet : ∀ output : Output κ, (∀ message, output ≠ .written message) →
      transmissions (state.outputs ++ [output]) call = transmissions state.outputs call := by
    intro output other
    unfold transmissions
    rw [writes_snoc_other other]
  have follows := change.follows.nextId
  cases change with
  | timers fields _ requests packetId running =>
    refine tallied.of_same rfl follows fun request inside => ?_
    rw [State.toFields_withFields, requests] at inside
    exact inside
  | sent packet named =>
    exact tallied.of_same (transmissions_sent_other state (Option.some_ne_none call).symm) follows
      fun request inside => inside
  | unsent transport refused lost => exact tallied.of_same rfl follows fun request inside => inside
  | overrun cmd timeout named =>
    refine tallied.first rfl (nextId_lt_prepared _ timeout) fun request inside => .inl ?_
    rw [State.toFields_withFields, Fields.prepared_eq] at inside
    exact inside
  | accepted cmd cb timeout requests named inserted =>
    refine tallied.first rfl (nextId_lt_prepared _ timeout) fun request inside => ?_
    obtain ⟨-, -, entries⟩ := (TwoIndex.insert_eq_some_iff _ _ _).mp inserted
    rw [State.toFields_withFields] at inside
    dsimp only at inside
    rw [entries] at inside
    rcases List.mem_cons.mp inside with rfl | inside
    · exact .inr ⟨rfl, rfl⟩
    · exact .inl inside
  | rewritten request pending left =>
    refine tallied.retried pending left rfl (transmissions_sent_le state _) fun other => ?_
    exact transmissions_sent_other state fun same => other (Option.some.inj same)
  | unwritten request transport refused pending left =>
    exact tallied.retried pending left rfl (Nat.le_succ _) fun _ => rfl
  | reported request called pending ends =>
    exact tallied.of_same (quiet _ fun message other => by contradiction) follows
      fun request inside => inside
  | concluded request called requests pending ends removed =>
    refine tallied.of_same (quiet _ fun message other => by contradiction) follows
      fun other inside => ?_
    rw [State.toFields_withFields] at inside
    dsimp only at inside
    rw [removed] at inside
    exact List.mem_of_mem_filter inside
  | timedOut type =>
    exact tallied.of_same (quiet _ fun message other => by contradiction) follows
      fun request inside => inside
  | stopped => exact tallied.of_same rfl follows fun request inside => inside

/-- Nothing is written and nothing pending at first. -/
theorem tallied_initial (call : Nat) (transport : τ) :
    Tallied call (State.initial transport : State τ κ) :=
  ⟨Nat.zero_le _, fun _ => rfl, fun request inside => by contradiction,
    fun request inside => by contradiction⟩

end Counting

end Hdcp.Master
