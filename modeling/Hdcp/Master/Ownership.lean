import Hdcp.Master.Changes
import Hdcp.Transport.Numbering

/-!
# What the manager owns since a timer was armed

Identifiers of timers are never reused. When a manager that holds nothing goes on from some
identifier, its timers, its pending requests and the requests it gives to their callbacks all have
identifiers from that one on. The packets it writes, commands written again left out, are numbered
as long as no packet id is taken in vain.
-/

namespace Hdcp.Master

open Base

variable {τ κ : Type}

section Changes

variable {env : Environment τ κ} {loses : Prop} {state next : State τ κ}

/-- The requests a change gives to their callbacks were pending. -/
theorem Change.called (change : Change env loses state next) :
    ∃ more, next.outputs = state.outputs ++ more ∧
      ∀ called, .called called ∈ more → ∃ request ∈ state.requests.entries,
        called.id = request.id := by
  have sent : ∀ message (called : Request κ),
      Output.called called ∉ (if env.attached then [Output.written message] else []) := by
    intro message called inside
    split at inside
    · rcases List.mem_singleton.mp inside with ⟨⟩
    · contradiction
  have nothing : ∃ more, state.outputs = state.outputs ++ more ∧
      ∀ called, .called called ∈ more → ∃ request ∈ state.requests.entries,
        called.id = request.id :=
    ⟨[], (List.append_nil _).symm, fun called inside => by contradiction⟩
  cases change with
  | timers fields follows requests packetId running => exact nothing
  | sent packet named =>
    exact ⟨_, State.outputs_sent env state _, fun called inside => absurd inside (sent _ called)⟩
  | unsent transport refused lost => exact nothing
  | overrun cmd timeout named =>
    exact ⟨_, State.outputs_sent env state _, fun called inside => absurd inside (sent _ called)⟩
  | accepted cmd cb timeout requests named inserted =>
    exact ⟨_, State.outputs_sent env state _, fun called inside => absurd inside (sent _ called)⟩
  | rewritten request pending left =>
    exact ⟨_, State.outputs_sent env state _, fun called inside => absurd inside (sent _ called)⟩
  | unwritten request transport refused pending left => exact nothing
  | reported request called pending ends =>
    refine ⟨[.called called], rfl, fun other inside => ⟨request, pending, ?_⟩⟩
    obtain rfl := Output.called.inj (List.mem_singleton.mp inside)
    exact ends.id
  | concluded request called requests pending ends removed =>
    refine ⟨[.called called], rfl, fun other inside => ⟨request, pending, ?_⟩⟩
    obtain rfl := Output.called.inj (List.mem_singleton.mp inside)
    exact ends.id
  | timedOut type =>
    exact ⟨[.timedOut type], rfl, fun called inside => by
      rcases List.mem_singleton.mp inside with ⟨⟩⟩
  | stopped => exact nothing

/-- Counting a retry changes no identifier. -/
theorem Fields.id_withRetry {fields : Fields κ} {id : Nat} {request : Request κ}
    (inside : request ∈ (fields.withRetry id).requests.entries) :
    ∃ old ∈ fields.requests.entries, old.id = request.id := by
  rcases (fields.mem_withRetry_iff id request).mp inside with ⟨old, -⟩ | ⟨old, oldIn, -, rfl⟩
  · exact ⟨request, old, rfl⟩
  · exact ⟨old, oldIn, rfl⟩

/-- The requests pending after a change were pending, or are new. -/
theorem Change.requests (change : Change env loses state next) :
    ∀ request ∈ next.requests.entries,
      (∃ old ∈ state.requests.entries, old.id = request.id) ∨
        request.id = state.timeoutQueue.nextId := by
  intro request inside
  have old : ∀ request ∈ state.requests.entries,
      (∃ old ∈ state.requests.entries, old.id = request.id) ∨
        request.id = state.timeoutQueue.nextId :=
    fun request inside => .inl ⟨request, inside, rfl⟩
  cases change with
  | timers fields follows requests packetId running =>
    rw [State.toFields_withFields, requests] at inside
    exact old request inside
  | sent packet named => exact old request inside
  | unsent transport refused lost => exact old request inside
  | overrun cmd timeout named =>
    rw [State.toFields_withFields, Fields.prepared_eq] at inside
    exact old request inside
  | accepted cmd cb timeout requests named inserted =>
    obtain ⟨-, -, entries⟩ := (TwoIndex.insert_eq_some_iff _ _ _).mp inserted
    rw [State.toFields_withFields] at inside
    dsimp only at inside
    rw [entries] at inside
    rcases List.mem_cons.mp inside with rfl | inside
    · exact .inr rfl
    · exact old request inside
  | rewritten retried pending left => exact .inl (Fields.id_withRetry inside)
  | unwritten retried transport refused pending left => exact .inl (Fields.id_withRetry inside)
  | reported told called pending ends => exact old request inside
  | concluded ended called requests pending ends removed =>
    rw [State.toFields_withFields] at inside
    dsimp only at inside
    rw [removed] at inside
    exact old request (List.mem_of_mem_filter inside)
  | timedOut type => exact old request inside
  | stopped => exact old request inside

end Changes

/-- What the manager holds, and what it called since some point, is not older than a timer. -/
structure Own (first : Nat) (before : List (Output κ)) (state : State τ κ) : Prop where
  /-- The timer was not armed before. -/
  issued : first ≤ state.timeoutQueue.nextId
  /-- The timers armed are not older. -/
  timers : ∀ timer ∈ state.timeoutQueue.timers, first ≤ timer.id
  /-- The pending requests are not older. -/
  requests : ∀ request ∈ state.requests.entries, first ≤ request.id
  /-- The requests given to their callbacks are not older. -/
  called : ∃ more, state.outputs = before ++ more ∧
    ∀ request, .called request ∈ more → first ≤ request.id

section Own

variable {env : Environment τ κ} {loses : Prop} {first : Nat} {before : List (Output κ)}

/-- Every change leaves what is owned. -/
theorem Own.change {state next : State τ κ} (change : Change env loses state next)
    (owned : Own first before state) : Own first before next where
  issued := Nat.le_trans owned.issued change.follows.nextId
  timers := change.follows.all_from owned.issued owned.timers
  requests := by
    intro request inside
    rcases change.requests request inside with ⟨old, oldIn, same⟩ | fresh
    · rw [← same]
      exact owned.requests old oldIn
    · rw [fresh]
      exact owned.issued
  called := by
    obtain ⟨more, grown, calls⟩ := owned.called
    obtain ⟨new, given, pending⟩ := change.called
    refine ⟨more ++ new, ?_, fun called inside => ?_⟩
    · rw [given, grown, List.append_assoc]
    · rcases List.mem_append.mp inside with old | called
      · exact calls _ old
      · obtain ⟨request, requestIn, same⟩ := pending _ called
        rw [same]
        exact owned.requests request requestIn

/-- A sequence of changes leaves what is owned. -/
theorem Own.changes {state next : State τ κ} (changes : Changes env loses state next)
    (owned : Own first before state) : Own first before next := by
  induction changes with
  | refl => exact owned
  | tail _ change ih => exact ih.change change

/-- A manager just started owns what it holds. -/
theorem own_started {state : State τ κ} (issued : first ≤ state.timeoutQueue.nextId)
    (transport : τ) :
    Own first state.outputs
      { toFields := state.toFields.started, transport := transport, outputs := state.outputs } where
  issued := issued
  timers := fun timer inside => by contradiction
  requests := fun request inside => by contradiction
  called := ⟨[], (List.append_nil _).symm, fun request inside => by contradiction⟩

/-- What was called is forgotten, and counts anew. -/
theorem Own.anew {state : State τ κ} (owned : Own first before state) :
    Own first state.outputs state :=
  ⟨owned.issued, owned.timers, owned.requests, [], (List.append_nil _).symm,
    fun request inside => by contradiction⟩

end Own

/-- The packets among what was given out, oldest first. -/
def writes (outputs : List (Output κ)) : List Message :=
  outputs.filterMap fun
    | .written message => some message
    | _ => none

/-- The packets written since some point are numbered, and the manager goes on so. -/
structure Counts (messages : List Message) (state : State τ κ) : Prop where
  /-- The packets are numbered. -/
  numbered : Numbered (firstWrites messages)
  /-- The next packet gets the next number. -/
  packetId : state.packetId = UInt16.ofNat (firstWrites messages).length
  /-- A pending command was written. -/
  pending : ∀ request ∈ state.requests.entries,
    some request.id ∈ (firstWrites messages).map Message.call
  /-- The next command was not. -/
  issued : ∀ call, some call ∈ (firstWrites messages).map Message.call →
    call < state.timeoutQueue.nextId

/-- Since some point the manager wrote a HIP, and then packets under the ids that follow. -/
def Opened (before : List (Output κ)) (state : State τ κ) : Prop :=
  ∃ more hip rest, state.outputs = before ++ more ∧ writes more = hip :: rest ∧
    hip.packet.type = PacketType.hip.code ∧ hip.packet.id = 1 ∧ Counts (hip :: rest) state

section Counting

variable {env : Environment τ κ} {messages : List Message} {state next : State τ κ}

/-- No packet is written. -/
theorem Counts.of_fields (counts : Counts messages state)
    (follows : next.timeoutQueue.Follows state.timeoutQueue)
    (packetId : next.packetId = state.packetId)
    (requests : ∀ request ∈ next.requests.entries,
      ∃ old ∈ state.requests.entries, old.id = request.id) : Counts messages next where
  numbered := counts.numbered
  packetId := packetId.trans counts.packetId
  pending := by
    intro request inside
    obtain ⟨old, oldIn, same⟩ := requests request inside
    rw [← same]
    exact counts.pending old oldIn
  issued := fun call written => Nat.lt_of_lt_of_le (counts.issued call written) follows.nextId

/-- A packet is written for the first time. -/
theorem Counts.snoc (counts : Counts messages state) {message : Message}
    (fresh : message.call = none ∨ message.call = some state.timeoutQueue.nextId ∧
      state.timeoutQueue.nextId < next.timeoutQueue.nextId)
    (named : message.packet.id = state.packetId + 1)
    (follows : next.timeoutQueue.Follows state.timeoutQueue)
    (packetId : next.packetId = state.packetId + 1)
    (requests : ∀ request ∈ next.requests.entries,
      (∃ old ∈ state.requests.entries, old.id = request.id) ∨
        message.call = some request.id) : Counts (messages ++ [message]) next := by
  have unwritten : message.call = none ∨
      message.call ∉ (firstWrites messages).map Message.call := by
    rcases fresh with other | ⟨own, -⟩
    · exact .inl other
    · right
      intro written
      rw [own] at written
      exact absurd (counts.issued _ written) (Nat.lt_irrefl _)
  have kept := firstWrites_snoc unwritten
  have calls : (firstWrites (messages ++ [message])).map Message.call =
      (firstWrites messages).map Message.call ++ [message.call] := by
    rw [kept, List.map_append, List.map_singleton]
  refine ⟨?_, ?_, fun request inside => ?_, fun call written => ?_⟩
  · rw [kept]
    refine counts.numbered.snoc ?_
    rw [named, counts.packetId]
  · rw [kept, packetId, counts.packetId, List.length_append, UInt16.ofNat_add]
    rfl
  · rw [calls]
    rcases requests request inside with ⟨old, oldIn, same⟩ | own
    · rw [← same]
      exact List.mem_append_left _ (counts.pending old oldIn)
    · rw [own]
      exact List.mem_append_right _ (List.mem_singleton_self _)
  · rw [calls] at written
    rcases List.mem_append.mp written with old | new
    · exact Nat.lt_of_lt_of_le (counts.issued call old) follows.nextId
    · have names := List.mem_singleton.mp new
      rcases fresh with other | ⟨own, later⟩
      · rw [other] at names
        contradiction
      · rw [own] at names
        obtain rfl := Option.some.inj names
        exact later

/-- A pending command is written again. -/
theorem Counts.again (counts : Counts messages state) {request : Request κ}
    (pending : request ∈ state.requests.entries) :
    Counts (messages ++ [⟨request.command, some request.id⟩])
      (state.withFields (state.toFields.withRetry request.id)) := by
  have kept : firstWrites (messages ++ [⟨request.command, some request.id⟩]) =
      firstWrites messages := firstWrites_again rfl (counts.pending request pending)
  have counted : Counts messages (state.withFields (state.toFields.withRetry request.id)) :=
    counts.of_fields (.refl _) rfl fun other inside => Fields.id_withRetry inside
  exact ⟨kept ▸ counted.numbered, kept ▸ counted.packetId, kept ▸ counted.pending,
    kept ▸ counted.issued⟩

/-- What is given out adds no packet. -/
theorem writes_snoc_other {outputs : List (Output κ)} {output : Output κ}
    (other : ∀ message, output ≠ .written message) :
    writes (outputs ++ [output]) = writes outputs := by
  unfold writes
  rw [List.filterMap_append]
  cases output with
  | written message => exact absurd rfl (other message)
  | called request => exact List.append_nil _
  | timedOut type => exact List.append_nil _

/-- A packet is given out. -/
theorem writes_snoc (outputs : List (Output κ)) (message : Message) :
    writes (outputs ++ [.written message]) = writes outputs ++ [message] := by
  unfold writes
  rw [List.filterMap_append]
  rfl

variable {before : List (Output κ)}

/-- Nothing is written. -/
theorem Opened.quiet (opened : Opened before state) (new : List (Output κ))
    (outputs : next.outputs = state.outputs ++ new) (unwritten : ∀ more : List (Output κ),
      writes (more ++ new) = writes more)
    (counts : ∀ messages, Counts messages state → Counts messages next) : Opened before next := by
  obtain ⟨more, hip, rest, grown, written, type, id, counted⟩ := opened
  refine ⟨more ++ new, hip, rest, ?_, ?_, type, id, counts _ counted⟩
  · rw [outputs, grown, List.append_assoc]
  · rw [unwritten, written]

/-- A packet is written. -/
theorem Opened.wrote (opened : Opened before state) {message : Message}
    (outputs : next.outputs = state.outputs ++ [.written message])
    (counts : ∀ messages, Counts messages state → Counts (messages ++ [message]) next) :
    Opened before next := by
  obtain ⟨more, hip, rest, grown, written, type, id, counted⟩ := opened
  refine ⟨more ++ [.written message], hip, rest ++ [message], ?_, ?_, type, id, counts _ counted⟩
  · rw [outputs, grown, List.append_assoc]
  · rw [writes_snoc, written, List.cons_append]

/-- A command that is new gets a new timer. -/
theorem nextId_lt_prepared (fields : Fields κ) (timeout : Nat) :
    fields.timeoutQueue.nextId < (fields.prepared timeout).timeoutQueue.nextId :=
  (follows_refreshed (fields.withCmdTimer timeout)).nextId

/-- Every change that loses no packet id goes on numbering. -/
theorem Opened.change (attached : env.attached = true) (change : Change env False state next)
    (opened : Opened before state) : Opened before next := by
  have follows := change.follows
  have sent :
    ∀ message, (state.sent env message).outputs = state.outputs ++ [.written message] := by
    intro message
    rw [State.outputs_sent, if_pos attached]
  have silent : ∀ more : List (Output κ), writes (more ++ []) = writes more :=
    fun more => congrArg writes (List.append_nil more)
  have same : ∀ request ∈ state.requests.entries,
      ∃ old ∈ state.requests.entries, old.id = request.id :=
    fun request inside => ⟨request, inside, rfl⟩
  cases change with
  | timers fields _ requests packetId running =>
    refine opened.quiet [] (List.append_nil _).symm silent fun messages counts =>
      counts.of_fields follows packetId fun request inside => ?_
    rw [State.toFields_withFields, requests] at inside
    exact same request inside
  | sent packet named =>
    refine opened.wrote (sent _) fun messages counts => ?_
    refine counts.snoc (.inl rfl) named follows rfl fun request inside => .inl ?_
    exact same request inside
  | unsent transport refused lost => exact lost.elim
  | overrun cmd timeout named =>
    refine opened.wrote (sent _) fun messages counts => ?_
    refine counts.snoc (.inr ⟨rfl, nextId_lt_prepared _ timeout⟩) named follows ?_
      fun request inside => .inl ?_
    · rw [State.toFields_withFields, Fields.prepared_eq]
    · rw [State.toFields_withFields, Fields.prepared_eq] at inside
      exact same request inside
  | accepted cmd cb timeout requests named inserted =>
    refine opened.wrote (sent _) fun messages counts => ?_
    refine counts.snoc (.inr ⟨rfl, nextId_lt_prepared _ timeout⟩) named follows ?_
      fun request inside => ?_
    · change (state.toFields.prepared timeout).packetId = state.packetId + 1
      rw [Fields.prepared_eq]
    · obtain ⟨-, -, entries⟩ := (TwoIndex.insert_eq_some_iff _ _ _).mp inserted
      rw [State.toFields_withFields] at inside
      dsimp only at inside
      rw [entries] at inside
      rcases List.mem_cons.mp inside with rfl | inside
      · exact .inr rfl
      · exact .inl (same request inside)
  | rewritten request pending left =>
    refine opened.wrote (sent _) fun messages counts => ?_
    have again := counts.again pending
    exact ⟨again.numbered, again.packetId, again.pending, again.issued⟩
  | unwritten request transport refused pending left =>
    exact opened.quiet [] (List.append_nil _).symm silent fun messages counts =>
      counts.of_fields follows rfl fun other inside => Fields.id_withRetry inside
  | reported request called pending ends =>
    refine opened.quiet [.called called] rfl (fun more => writes_snoc_other ?_)
      fun messages counts => counts.of_fields follows rfl same
    exact fun message other => by contradiction
  | concluded request called requests pending ends removed =>
    refine opened.quiet [.called called] rfl (fun more => writes_snoc_other ?_)
      fun messages counts => counts.of_fields follows ?_ fun other inside => ?_
    · exact fun message other => by contradiction
    · change ((state.toFields.withoutTimer (some request.id))).packetId = state.packetId
      rw [Fields.withoutTimer_eq]
    · rw [State.toFields_withFields] at inside
      dsimp only at inside
      rw [removed] at inside
      exact same other (List.mem_of_mem_filter inside)
  | timedOut type =>
    refine opened.quiet [.timedOut type] rfl (fun more => writes_snoc_other ?_)
      fun messages counts => counts.of_fields follows rfl same
    exact fun message other => by contradiction
  | stopped =>
    exact opened.quiet [] (List.append_nil _).symm silent fun messages counts =>
      counts.of_fields follows rfl same

/-- A sequence of changes that loses no packet id goes on numbering. -/
theorem Opened.changes (attached : env.attached = true) (changes : Changes env False state next)
    (opened : Opened before state) : Opened before next := by
  induction changes with
  | refl => exact opened
  | tail _ change ih => exact ih.change attached change

/-- The HIP that a manager just started writes opens the session. -/
theorem opened_sendHip (attached : env.attached = true) (identification : Identification)
    (timeout : Nat) (value : Unit) (empty : state.requests.entries = [])
    (zero : state.packetId = 0) (isOpen : state.isOpen env = true)
    (returned : sendHip env identification timeout state = .ok value next) :
    Opened state.outputs next := by
  rcases (sendHip_eq_ok_iff env identification timeout state next value).mp returned with
    ⟨closed, -⟩ | ⟨-, hip, making, -, rfl⟩
  · rw [isOpen] at closed
    contradiction
  · obtain ⟨id, type⟩ := Packet.build_id_type _ _ _ _ _ _ making
    have first : hip.id = 1 := by
      rw [id, zero]
      rfl
    have unused : Counts [] state :=
      ⟨rfl, zero, fun request inside => by rw [empty] at inside; contradiction,
        fun call written => by contradiction⟩
    refine ⟨[.written ⟨hip, none⟩], ⟨hip, none⟩, [], ?_, rfl, type, first, ?_⟩
    · rw [State.outputs_withFields, State.outputs_sent, if_pos attached]
    · refine unused.snoc (.inl rfl) id (.arm _ _ _ _) rfl fun request inside => ?_
      exact .inl ⟨request, inside, rfl⟩

/-- The keepalives that are due in a batch are sent. -/
def KeepalivesSent (env : Environment τ κ) : List (Timer TimerCallback) → State τ κ → Prop
  | [], _ => True
  | timer :: batch, state =>
    (timer.callback = .kaMngtTimeoutCb → ∃ next, fire env timer state = .ok () next) ∧
      ∀ next, fire env timer state = .ok () next → KeepalivesSent env batch next

/-- A batch whose keepalives are sent loses no packet id. -/
theorem fireAll_keepalivesSent (batch : List (Timer TimerCallback)) (state : State τ κ)
    (sent : KeepalivesSent env batch state) :
    Changes env False state (after (fireAll env batch state)) := by
  induction batch generalizing state with
  | nil => exact .refl
  | cons timer batch ih =>
    obtain ⟨returns, rest⟩ := sent
    rw [fireAll, bind_apply]
    cases outcome : fire env timer state with
    | ok value next =>
      have fired := (fire_changing timer state).1 value next outcome
      exact fired.trans (ih next (rest next outcome))
    | error error next =>
      have other : timer.callback ≠ .kaMngtTimeoutCb := by
        intro sends
        obtain ⟨_, returned⟩ := returns sends
        rw [outcome] at returned
        contradiction
      exact (fire_lossless timer other state).2 error next outcome

end Counting

end Hdcp.Master
