import Hdcp.Base.Cuts
import Hdcp.Packet.Oversize
import Hdcp.Slave.Changes

/-!
# Data cut into packets

`send_data` packs blocks in order and sends a packet whenever the next block has no room in it. What
it sends are the batches of the greedy cut of its list, one packet for each; the loop is that cut,
up to the first block that is too large for any packet. The loop bounds the bytes of a batch and not
its blocks, whose number a packet counts in one byte.
-/

namespace Hdcp.Slave

open Base

variable {τ : Type} {env : Environment τ}

/-- Blocks in consecutive groups, each of which fits a packet. -/
abbrev Batches (blocks : List BlockView) (batches : List (List BlockView)) : Prop :=
  Cut BlockView.size maxPlSize blocks batches

/-- Batches of which none has room for the first block of the next. -/
abbrev FullBatches (blocks : List BlockView) (batches : List (List BlockView)) : Prop :=
  FullCut BlockView.size maxPlSize blocks batches

/-- The batches of the greedy cut, at the blocks still to pack and the payload packed so far. -/
abbrev packed (blocks payload : List BlockView) : List (List BlockView) :=
  greedy BlockView.size maxPlSize blocks payload

/-- Send a packet for each batch. -/
def sendBatches (env : Environment τ) : List (List BlockView) → Action τ Unit
  | [] => pure ()
  | batch :: batches => do
    sendMade env fun packetId => made (Packet.makeData env.raw packetId batch)
    sendBatches env batches

/-- Packets written for batches: in order, each with its batch, under the next ids. -/
structure Sent (batches : List (List BlockView)) (packets : List Packet) (state next : State τ) :
    Prop where
  /-- They are what the transport accepted. -/
  outputs : next.outputs = state.outputs ++ packets.map fun packet => .written ⟨packet, none⟩
  /-- Each shows its batch. -/
  blocks : packets.map Packet.blocks = batches
  /-- Each is at most 2048 bytes, all of which it has. -/
  small : ∀ packet ∈ packets, packet.size ≤ maxSize ∧ packet.bytes.length = packet.size
  /-- Their ids follow the last one. -/
  ids : packets.map Packet.id =
    (List.range packets.length).map fun index => state.packetId + 1 + UInt16.ofNat index
  /-- The last id is the manager's. -/
  packetId : next.packetId = state.packetId + UInt16.ofNat packets.length

/-! ## One batch -/

/-- What a data packet made of a batch shows. -/
theorem makeData_shows {raw packet : Packet} {id : UInt16} {batch : List BlockView}
    (fits : total BlockView.size batch ≤ maxPlSize)
    (made : Packet.makeData raw id batch = .ok packet) :
    packet.id = id ∧ packet.blocks = batch ∧ packet.size ≤ maxSize ∧
      packet.bytes.length = packet.size := by
  have short : (batch.flatMap makeBlock).length ≤ maxPlSize := by
    rw [flatMap_makeBlock_length]
    exact fits
  have whole := Packet.carried_of_lt _ (Nat.lt_of_le_of_lt short (by decide))
  have shown := Packet.build_blocks raw id .data _ batch fits packet made
  obtain ⟨-, -, -, same⟩ := (Packet.build_ok_iff _ _ _ _ _ _).mp made
  obtain ⟨hid, -, -, -, -, held, hsize⟩ :=
    Packet.made_accessors raw id .data (UInt8.ofNat batch.length) _ short
  rw [whole] at same
  rw [← same] at hid held hsize
  refine ⟨hid, shown, ?_, ?_⟩
  · rw [hsize]
    simp only [maxPlSize, maxSize, headerSize] at short ⊢
    omega
  · rw [held, hsize, List.length_append, makeHeader_length, Nat.add_comm]

/-- A batch that fits a packet makes one exactly when its blocks can be counted in a byte. -/
theorem makeData_returns_iff (raw : Packet) (id : UInt16) {batch : List BlockView}
    (fits : total BlockView.size batch ≤ maxPlSize) :
    (∃ packet, Packet.makeData raw id batch = .ok packet) ↔ batch.length ≤ 255 := by
  have short : (batch.flatMap makeBlock).length ≤ maxPlSize := by
    rw [flatMap_makeBlock_length]
    exact fits
  have whole := Packet.carried_of_lt _ (Nat.lt_of_le_of_lt short (by decide))
  have read := blocks_flatMap batch (data_length_lt batch fits)
  have counted : (UInt8.ofNat batch.length).toNat = batch.length % 256 := UInt8.toNat_ofNat'
  unfold Packet.makeData
  simp only [Packet.build_ok_iff, whole, read, counted]
  constructor
  · rintro ⟨packet, -, -, count, -⟩
    omega
  · intro few
    exact ⟨_, short, trivial, by omega, rfl⟩

/-! ## The loop is the greedy cut -/

/-- The loop, at blocks that fit, sends the batches of the greedy cut. -/
theorem sendDataFrom_eq (blocks payload : List BlockView)
    (each : ∀ block ∈ blocks, block.size ≤ maxPlSize) :
    sendDataFrom env blocks payload (total BlockView.size payload) =
      sendBatches env (packed blocks payload) := by
  induction blocks generalizing payload with
  | nil =>
    by_cases empty : payload = []
    · subst empty
      rfl
    · have some : payload.length ≠ 0 := fun none => empty (List.length_eq_zero_iff.mp none)
      rw [sendDataFrom, runIf, if_pos some, packed, greedy, if_neg empty, sendBatches, sendBatches,
        bind_pure_unit]
  | cons block blocks ih =>
    have fits : ¬ block.size > maxPlSize := Nat.not_lt.mpr (each block List.mem_cons_self)
    have later (other : BlockView) (inside : other ∈ blocks) : other.size ≤ maxPlSize :=
      each other (List.mem_cons_of_mem _ inside)
    rw [sendDataFrom, runIf, if_neg fits, packed, greedy]
    by_cases crowded : total BlockView.size payload + block.size > maxPlSize
    · have alone := ih [block] later
      rw [total_singleton] at alone
      rw [if_pos crowded, if_pos crowded, alone]
      rfl
    · have joined := ih (payload ++ [block]) later
      rw [total_append, total_singleton] at joined
      rw [if_neg crowded, if_neg crowded, joined]
      rfl

/-- The loop, at a block that is too large, has sent the batches closed before it. -/
theorem sendDataFrom_tooBig (before rest : List BlockView) (big : BlockView)
    (payload : List BlockView) (each : ∀ block ∈ before, block.size ≤ maxPlSize)
    (large : maxPlSize < big.size) :
    sendDataFrom env (before ++ big :: rest) payload (total BlockView.size payload) =
      (sendBatches env (packed before payload).dropLast >>= fun _ =>
        throw (.application .dataTooBig none)) := by
  induction before generalizing payload with
  | nil =>
    have none : (packed [] payload).dropLast = [] := by
      rw [packed, greedy]
      split <;> rfl
    rw [List.nil_append, sendDataFrom, runIf, if_pos large, none]
    rfl
  | cons block before ih =>
    have fits : ¬ block.size > maxPlSize := Nat.not_lt.mpr (each block List.mem_cons_self)
    have later (other : BlockView) (inside : other ∈ before) : other.size ≤ maxPlSize :=
      each other (List.mem_cons_of_mem _ inside)
    rw [List.cons_append, sendDataFrom, runIf, if_neg fits, packed, greedy]
    by_cases crowded : total BlockView.size payload + block.size > maxPlSize
    · have alone := ih [block] later
      rw [total_singleton] at alone
      have begun : packed before [block] ≠ [] := greedy_ne_nil before (List.cons_ne_nil _ _)
      rw [if_pos crowded, if_pos crowded, alone, List.dropLast_cons_of_ne_nil begun, sendBatches,
        bind_assoc]
      rfl
    · have joined := ih (payload ++ [block]) later
      rw [total_append, total_singleton] at joined
      rw [if_neg crowded, if_neg crowded, joined]
      rfl

/-- A list either fits, block by block, or has a first block that does not. -/
theorem all_fit_or_first (blocks : List BlockView) :
    (∀ block ∈ blocks, block.size ≤ maxPlSize) ∨
      ∃ before big rest, blocks = before ++ big :: rest ∧
        (∀ block ∈ before, block.size ≤ maxPlSize) ∧ maxPlSize < big.size := by
  induction blocks with
  | nil => exact .inl (by simp)
  | cons block blocks ih =>
    by_cases large : maxPlSize < block.size
    · exact .inr ⟨[], block, blocks, rfl, by simp, large⟩
    · rcases ih with each | ⟨before, big, rest, split, each, excess⟩
      · left
        intro other inside
        rcases List.mem_cons.mp inside with rfl | inside
        · exact Nat.le_of_not_lt large
        · exact each other inside
      · right
        refine ⟨block :: before, big, rest, by rw [split]; rfl, ?_, excess⟩
        intro other inside
        rcases List.mem_cons.mp inside with rfl | inside
        · exact Nat.le_of_not_lt large
        · exact each other inside

/-! ## What a run of batches leaves -/

/-- Batches that were all sent: one packet for each, under the next ids. -/
theorem sendBatches_sent {batches : List (List BlockView)}
    (fits : ∀ batch ∈ batches, total BlockView.size batch ≤ maxPlSize) {state next : State τ}
    (returned : sendBatches env batches state = .ok () next) :
    ∃ packets, Sent batches packets state next := by
  induction batches generalizing state with
  | nil =>
    cases returned
    exact ⟨[], by simp, rfl, by simp, rfl, by simp⟩
  | cons batch batches ih =>
    obtain ⟨value, middle, first, rest⟩ := (bind_eq_ok_iff _ _ _ _ _).mp returned
    obtain ⟨packet, making, accepted, rfl⟩ := (sendMade_eq_ok_iff _ _ _ _).mp first
    obtain ⟨hid, shown, small, whole⟩ := makeData_shows (fits batch List.mem_cons_self) making
    obtain ⟨packets, sent⟩ :=
      ih (fun other inside => fits other (List.mem_cons_of_mem _ inside)) rest
    refine ⟨packet :: packets, ?_, ?_, ?_, ?_, ?_⟩
    · rw [sent.outputs, State.sent]
      simp
    · rw [List.map_cons, shown, sent.blocks]
    · intro other inside
      rcases List.mem_cons.mp inside with rfl | inside
      · exact ⟨small, whole⟩
      · exact sent.small other inside
    · have later := sent.ids
      simp only [State.sent] at later
      rw [List.map_cons, hid, later, List.length_cons, List.range_succ_eq_map, List.map_cons,
        List.map_map]
      congr 1
      · simp
      · apply List.map_congr_left
        intro index inside
        have one : UInt16.ofNat 1 = 1 := rfl
        simp only [Function.comp_apply, Nat.succ_eq_add_one, UInt16.ofNat_add, one]
        ac_rfl
    · have one : UInt16.ofNat 1 = 1 := rfl
      rw [sent.packetId, State.sent, List.length_cons, UInt16.ofNat_add, one]
      simp only
      ac_rfl

/-- A transport that takes every packet gets all batches exactly when each has few enough blocks to
be counted. -/
theorem sendBatches_returns_iff
    (accepts : ∀ transport message, (env.write transport message).1 = none)
    {batches : List (List BlockView)}
    (fits : ∀ batch ∈ batches, total BlockView.size batch ≤ maxPlSize) (state : State τ) :
    (∃ next, sendBatches env batches state = .ok () next) ↔
      ∀ batch ∈ batches, batch.length ≤ 255 := by
  induction batches generalizing state with
  | nil =>
    constructor
    · intro returned batch inside
      contradiction
    · intro few
      exact ⟨state, rfl⟩
  | cons batch batches ih =>
    have later (other : List BlockView) (inside : other ∈ batches) :
        total BlockView.size other ≤ maxPlSize := fits other (List.mem_cons_of_mem _ inside)
    have one := makeData_returns_iff env.raw (state.packetId + 1) (fits batch List.mem_cons_self)
    rw [List.forall_mem_cons, ← one]
    constructor
    · rintro ⟨next, returned⟩
      obtain ⟨value, middle, first, rest⟩ := (bind_eq_ok_iff _ _ _ _ _).mp returned
      obtain ⟨packet, making, -, -⟩ := (sendMade_eq_ok_iff _ _ _ _).mp first
      exact ⟨⟨packet, making⟩, (ih later middle).mp ⟨next, rest⟩⟩
    · rintro ⟨⟨packet, making⟩, few⟩
      obtain ⟨next, rest⟩ := (ih later (state.sent env packet)).mpr few
      refine ⟨next, (bind_eq_ok_iff _ _ _ _ _).mpr ⟨(), state.sent env packet, ?_, rest⟩⟩
      exact (sendMade_eq_ok_iff _ _ _ _).mpr ⟨packet, making, accepts _ _, rfl⟩

/-- Sending batches never reports that the data is too big. -/
theorem raises_sendBatches (batches : List (List BlockView)) :
    Raises (· ≠ .application .dataTooBig none) (sendBatches env batches) := by
  have building (packet : Except PacketError Packet) :
      Raises (· ≠ .application .dataTooBig none) (made packet : Action τ Packet) := by
    cases packet with
    | ok packet => exact .pure packet
    | error error => exact .throw nofun
  have writing (packet : Packet) :
      Raises (· ≠ .application .dataTooBig none) (write env packet) := by
    refine .bind .get fun state => .bind (.modify _) fun _ => ?_
    cases (env.write state.transport ⟨packet, none⟩).1 with
    | none => exact .modify _
    | some error => exact .throw nofun
  induction batches with
  | nil => exact .pure ()
  | cons batch batches ih =>
    refine .bind (.bind (.bind (.modify _) fun _ => .bind .get fun _ => .pure _) fun id => ?_)
      fun _ => ih
    exact .bind (building _) writing

/-! ## What `send_data` does with a list -/

/-- A list sent whole: its blocks in order in the packets written, none of which is empty or larger
than a packet may be, under the next ids, in as few packets as the limit allows. -/
def SentWhole (blocks : List BlockView) (state next : State τ) : Prop :=
  ∃ packets : List Packet,
    (next.outputs = state.outputs ++ packets.map fun packet => .written ⟨packet, none⟩) ∧
    packets.flatMap Packet.blocks = blocks ∧
    (∀ packet ∈ packets, packet.blocks ≠ [] ∧ packet.size ≤ maxSize ∧
      packet.bytes.length = packet.size) ∧
    (packets.map Packet.id =
      (List.range packets.length).map fun index => state.packetId + 1 + UInt16.ofNat index) ∧
    next.packetId = state.packetId + UInt16.ofNat packets.length ∧
    IsLeast {count | ∃ batches, Batches blocks batches ∧ batches.length = count} packets.length

/-- A list sent up to its first block that is too large: the batches that were full before it. -/
def SentBefore (blocks : List BlockView) (state next : State τ) : Prop :=
  ∃ before big rest batches packets,
    blocks = before ++ big :: rest ∧ (∀ block ∈ before, block.size ≤ maxPlSize) ∧
    maxPlSize < big.size ∧ FullBatches before batches ∧ Sent batches.dropLast packets state next ∧
    (packets = [] ↔ total BlockView.size before ≤ maxPlSize) ∧
    (total BlockView.size before ≤ maxPlSize → next = state)

/-- `send_data` of blocks that fit sends the batches of the greedy cut. -/
theorem sendData_eq {blocks : List BlockView} (each : ∀ block ∈ blocks, block.size ≤ maxPlSize) :
    sendData env blocks = sendBatches env (packed blocks []) :=
  sendDataFrom_eq blocks [] each

/-- `send_data` of a list with a block that is too large has sent the batches closed before it. -/
theorem sendData_tooBig_eq {before : List BlockView} {big : BlockView} (rest : List BlockView)
    (each : ∀ block ∈ before, block.size ≤ maxPlSize) (large : maxPlSize < big.size) :
    sendData env (before ++ big :: rest) =
      (sendBatches env (packed before []).dropLast >>= fun _ =>
        throw (.application .dataTooBig none)) :=
  sendDataFrom_tooBig before rest big [] each large

/-- When `send_data` returns, every block fitted and the batches of the greedy cut were sent. -/
theorem sendData_eq_ok {blocks : List BlockView} {state next : State τ}
    (returned : sendData env blocks state = .ok () next) :
    (∀ block ∈ blocks, block.size ≤ maxPlSize) ∧
      sendBatches env (packed blocks []) state = .ok () next := by
  rcases all_fit_or_first blocks with each | ⟨before, big, rest, rfl, each, large⟩
  · rw [sendData_eq each] at returned
    exact ⟨each, returned⟩
  · rw [sendData_tooBig_eq rest each large] at returned
    obtain ⟨value, middle, -, thrown⟩ := (bind_eq_ok_iff _ _ _ _ _).mp returned
    contradiction

/-- The batches of the greedy cut are full. -/
theorem packed_full {blocks : List BlockView} (each : ∀ block ∈ blocks, block.size ≤ maxPlSize) :
    FullBatches blocks (packed blocks []) :=
  greedy_fullCut blocks each

/-- A list that was sent was sent whole. -/
theorem sentWhole_of_returned {blocks : List BlockView} {state next : State τ}
    (returned : sendData env blocks state = .ok () next) : SentWhole blocks state next := by
  obtain ⟨each, sending⟩ := sendData_eq_ok returned
  have cut := packed_full each
  obtain ⟨packets, sent⟩ := sendBatches_sent cut.within sending
  have count : packets.length = (packed blocks []).length := by
    rw [← sent.blocks, List.length_map]
  refine ⟨packets, sent.outputs, ?_, ?_, sent.ids, sent.packetId, ?_⟩
  · rw [List.flatMap_def, sent.blocks]
    exact cut.whole
  · intro packet inside
    refine ⟨?_, sent.small packet inside⟩
    refine cut.nonempty packet.blocks ?_
    rw [← sent.blocks]
    exact List.mem_map_of_mem inside
  · rw [count]
    exact cut.isLeast

/-- A list refused as too big was sent up to its first block that is too large. -/
theorem sentBefore_of_tooBig {blocks : List BlockView} {state next : State τ}
    (thrown : sendData env blocks state = .error (.application .dataTooBig none) next) :
    SentBefore blocks state next := by
  rcases all_fit_or_first blocks with each | ⟨before, big, rest, rfl, each, large⟩
  · rw [sendData_eq each] at thrown
    exact absurd rfl (raises_sendBatches _ _ _ _ thrown)
  · rw [sendData_tooBig_eq rest each large] at thrown
    rcases (bind_eq_error_iff _ _ _ _ _).mp thrown with early | ⟨value, middle, sending, late⟩
    · exact absurd rfl (raises_sendBatches _ _ _ _ early)
    · cases late
      have cut := packed_full each
      have fits (batch : List BlockView) (inside : batch ∈ (packed before []).dropLast) :
          total BlockView.size batch ≤ maxPlSize :=
        cut.within batch ((List.dropLast_sublist _).mem inside)
      obtain ⟨packets, sent⟩ := sendBatches_sent fits sending
      have empty : packets = [] ↔ total BlockView.size before ≤ maxPlSize := by
        rw [← cut.dropLast_eq_nil_iff, ← sent.blocks, List.map_eq_nil_iff]
      refine ⟨before, big, rest, _, packets, rfl, each, large, cut, sent, empty, ?_⟩
      intro short
      rw [cut.dropLast_eq_nil_iff.mpr short] at sending
      cases sending
      rfl

/-- A transport that is always open and takes everything, and a callback that does nothing. -/
def quietEnvironment : Environment Unit where
  attached := true
  isOpen := fun _ => true
  write := fun _ _ => (none, ())
  timeoutCb := some none
  raw := .cleared

/-- Whenever `send_data` returns, whatever the list, the state of the manager and the transport,
the list was sent whole: no block lost, doubled, reordered or changed, in the least number of
packets. -/
theorem sendData_lossless :
    (∀ (blocks : List BlockView) (state next : State τ),
      sendData env blocks state = .ok () next → SentWhole blocks state next) ∧
    ∀ (blocks : List Block) (state next : State τ),
      sendDataOfBlocks env blocks state = .ok () next →
        SentWhole (blocks.map .ofBlock) state next := by
  constructor
  · intro blocks state next returned
    exact sentWhole_of_returned returned
  · intro blocks state next returned
    exact sentWhole_of_returned returned

/-- Blocks that need two packets: the first fills most of one. -/
def twoPackets : List Block := [⟨16, List.replicate 1500 1⟩, ⟨17, List.replicate 1500 2⟩, ⟨18, []⟩]

/-- Each of them fits a packet. -/
theorem twoPackets_fit : ∀ block ∈ twoPackets.map BlockView.ofBlock, block.size ≤ maxPlSize := by
  decide +kernel

/-- Their greedy cut is of two batches of few blocks. -/
theorem twoPackets_packed : (packed (twoPackets.map BlockView.ofBlock) []).map List.length =
    [1, 2] := by
  decide +kernel

/-- A manager as constructed sends them. -/
theorem twoPackets_sent :
    ∃ next, sendData quietEnvironment (twoPackets.map .ofBlock) (State.initial ()) = .ok () next ∧
      next.packetId = 2 := by
  have few : ∀ batch ∈ packed (twoPackets.map BlockView.ofBlock) [], batch.length ≤ 255 := by
    intro batch inside
    have short : batch.length ∈ [1, 2] := by
      rw [← twoPackets_packed]
      exact List.mem_map_of_mem inside
    simp only [List.mem_cons, List.not_mem_nil, or_false] at short
    omega
  have within := (packed_full twoPackets_fit).within
  have takes : ∃ next, sendBatches quietEnvironment (packed (twoPackets.map .ofBlock) [])
      (State.initial ()) = .ok () next :=
    (sendBatches_returns_iff (fun _ _ => rfl) within _).mpr few
  obtain ⟨next, sending⟩ := takes
  obtain ⟨packets, sent⟩ := sendBatches_sent within sending
  refine ⟨next, ?_, ?_⟩
  · rw [sendData_eq twoPackets_fit]
    exact sending
  · have count : packets.length = 2 := by
      have lengths := congrArg List.length twoPackets_packed
      rw [List.length_map, ← sent.blocks, List.length_map] at lengths
      exact lengths
    rw [sent.packetId, count]
    rfl

/-- Sent as views or as blocks, they are sent whole, in two packets. -/
theorem sendData_lossless_two :
    (∃ next, sendData quietEnvironment (twoPackets.map .ofBlock) (State.initial ()) = .ok () next ∧
      next.packetId = 2 ∧ SentWhole (twoPackets.map .ofBlock) (State.initial ()) next) ∧
    ∃ next, sendDataOfBlocks quietEnvironment twoPackets (State.initial ()) = .ok () next ∧
      next.packetId = 2 ∧ SentWhole (twoPackets.map .ofBlock) (State.initial ()) next := by
  obtain ⟨next, returned, count⟩ := twoPackets_sent
  exact ⟨⟨next, returned, count, sendData_lossless.1 _ _ _ returned⟩,
    ⟨next, returned, count, sendData_lossless.2 _ _ _ returned⟩⟩

/-- With a transport that takes every packet, `send_data` of blocks that each fit a packet returns
if and only if no batch, in the cut in which none has room for the next block, has more than 255
blocks. -/
theorem sendData_returns_iff (accepts : ∀ transport message, (env.write transport message).1 = none)
    (blocks : List BlockView) (each : ∀ block ∈ blocks, block.size ≤ maxPlSize) (state : State τ) :
    (∃ next, sendData env blocks state = .ok () next) ↔
      ∀ batches, FullBatches blocks batches → ∀ batch ∈ batches, batch.length ≤ 255 := by
  have cut := packed_full each
  rw [sendData_eq each, sendBatches_returns_iff accepts cut.within]
  constructor
  · intro few batches other
    rw [other.eq_greedy]
    exact few
  · intro few
    exact few _ cut

/-- The blocks that need two packets are sent, as no batch of theirs has more than 255 blocks. -/
theorem sendData_returns_iff_two :
    (∃ next, sendData quietEnvironment (twoPackets.map .ofBlock) (State.initial ()) =
      .ok () next) ∧
    ∀ batches, FullBatches (twoPackets.map .ofBlock) batches →
      batches.length = 2 ∧ ∀ batch ∈ batches, batch.length ≤ 255 := by
  obtain ⟨next, returned, -⟩ := twoPackets_sent
  refine ⟨⟨next, returned⟩, ?_⟩
  intro batches cut
  constructor
  · have lengths := congrArg List.length twoPackets_packed
    rw [List.length_map] at lengths
    rw [cut.eq_greedy]
    exact lengths
  · exact (sendData_returns_iff (fun _ _ => rfl) _ twoPackets_fit _).mp ⟨next, returned⟩ batches cut

/-- 256 empty blocks take 1024 bytes and are refused: they are one batch, and its packet counts its
blocks as none. -/
theorem sendData_refuses_small :
    (∀ block ∈ List.replicate 256 (⟨16, []⟩ : BlockView), block.size ≤ maxPlSize) ∧
      ¬ ∃ next, sendData quietEnvironment (List.replicate 256 ⟨16, []⟩) (State.initial ()) =
        .ok () next := by
  have each (block : BlockView) (inside : block ∈ List.replicate 256 (⟨16, []⟩ : BlockView)) :
      block.size ≤ maxPlSize := by
    rw [List.eq_of_mem_replicate inside]
    decide
  refine ⟨each, ?_⟩
  have cut := packed_full each
  have fits : total BlockView.size (List.replicate 256 (⟨16, []⟩ : BlockView)) ≤ maxPlSize := by
    rw [total, List.map_replicate, List.sum_replicate]
    decide
  have one := cut.eq_of_fits fits
  rw [if_neg (by simp)] at one
  rw [sendData_eq each, sendBatches_returns_iff (fun _ _ => rfl) cut.within, one]
  intro few
  have counted := few _ (List.mem_singleton_self _)
  rw [List.length_replicate] at counted
  omega

/-- Whenever `send_data` throws `data_too_big`, the packets written are those of the batches that
were full before the first block that is too large, under the next ids; none was written, and the
manager is as before, exactly when the blocks before it fit one packet. -/
theorem sendData_tooBig :
    (∀ (blocks : List BlockView) (state next : State τ),
      sendData env blocks state = .error (.application .dataTooBig none) next →
        SentBefore blocks state next) ∧
    ∀ (blocks : List Block) (state next : State τ),
      sendDataOfBlocks env blocks state = .error (.application .dataTooBig none) next →
        SentBefore (blocks.map .ofBlock) state next := by
  constructor
  · intro blocks state next thrown
    exact sentBefore_of_tooBig thrown
  · intro blocks state next thrown
    exact sentBefore_of_tooBig thrown

/-- A block one byte too large for a packet. -/
def bigBlock : Block := ⟨16, List.replicate 2032 0⟩

/-- That block is. -/
theorem bigBlock_large : maxPlSize < (BlockView.ofBlock bigBlock).size := by
  rw [BlockView.size, BlockView.ofBlock, bigBlock, List.length_replicate]
  decide

/-- A block that fills a packet, one more and the block that is too large. -/
def behindFull : List Block := [⟨16, List.replicate 2031 0⟩, ⟨16, [0]⟩, bigBlock]

/-- They are refused with the first packet on its way. -/
theorem behindFull_refused :
    ∃ next packet, sendData quietEnvironment (behindFull.map .ofBlock) (State.initial ()) =
        .error (.application .dataTooBig none) next ∧
      next.outputs = [.written ⟨packet, none⟩] ∧ next.packetId = 1 := by
  have views : behindFull.map BlockView.ofBlock =
      [⟨16, List.replicate 2031 0⟩, ⟨16, [0]⟩, .ofBlock bigBlock] := rfl
  rw [views]
  have filled : (⟨16, List.replicate 2031 0⟩ : BlockView).size = maxPlSize := by
    rw [BlockView.size, List.length_replicate]
    rfl
  generalize (⟨16, List.replicate 2031 0⟩ : BlockView) = first at filled
  have tiny : (⟨16, [0]⟩ : BlockView).size = 5 := rfl
  have each : ∀ block ∈ [first, ⟨16, [0]⟩], block.size ≤ maxPlSize := by
    intro block inside
    rcases List.mem_cons.mp inside with rfl | inside
    · exact Nat.le_of_eq filled
    · rw [List.mem_singleton.mp inside]
      decide
  have closed : (packed [first, ⟨16, [0]⟩] []).dropLast = [[first]] := by
    simp only [packed, greedy, List.nil_append, total, List.map_nil, List.sum_nil, List.map_cons,
      List.sum_cons, filled, tiny]
    rfl
  have fits : ∀ batch ∈ [[first]], total BlockView.size batch ≤ maxPlSize := by
    intro batch inside
    rw [List.mem_singleton.mp inside, total_singleton, filled]
  have takes : ∃ next, sendBatches quietEnvironment [[first]] (State.initial ()) = .ok () next :=
    (sendBatches_returns_iff (fun _ _ => rfl) fits _).mpr (by simp)
  obtain ⟨next, sending⟩ := takes
  obtain ⟨packets, sent⟩ := sendBatches_sent fits sending
  have loop : sendData quietEnvironment ([first, ⟨16, [0]⟩] ++ [.ofBlock bigBlock]) = _ :=
    sendData_tooBig_eq [] each bigBlock_large
  rw [closed] at loop
  cases packets with
  | nil => exact absurd sent.blocks (by simp)
  | cons packet later =>
    cases later with
    | nil =>
      refine ⟨next, packet, ?_, sent.outputs, sent.packetId⟩
      refine (congrFun loop (State.initial ())).trans ?_
      rw [bind_apply, sending]
      rfl
    | cons other later => exact absurd sent.blocks (by simp)

/-- Refused as views or as blocks, they were sent up to the block that is too large. -/
theorem sendData_tooBig_behind :
    (∃ next, sendData quietEnvironment (behindFull.map .ofBlock) (State.initial ()) =
        .error (.application .dataTooBig none) next ∧ next.packetId = 1 ∧
      SentBefore (behindFull.map .ofBlock) (State.initial ()) next) ∧
    ∃ next, sendDataOfBlocks quietEnvironment behindFull (State.initial ()) =
        .error (.application .dataTooBig none) next ∧ next.packetId = 1 ∧
      SentBefore (behindFull.map .ofBlock) (State.initial ()) next := by
  obtain ⟨next, packet, refused, -, count⟩ := behindFull_refused
  exact ⟨⟨next, refused, count, sendData_tooBig.1 _ _ _ refused⟩,
    ⟨next, refused, count, sendData_tooBig.2 _ _ _ refused⟩⟩

/-- Behind a block that fills a packet and one more, the block that is too large is refused with the
first packet on its way. -/
theorem sendData_tooBig_sends :
    ∃ next packet,
      sendData quietEnvironment
          [⟨16, List.replicate 2031 0⟩, ⟨16, [0]⟩, .ofBlock bigBlock] (State.initial ()) =
        .error (.application .dataTooBig none) next ∧
      next.outputs = [.written ⟨packet, none⟩] ∧ next.packetId = 1 :=
  behindFull_refused

end Hdcp.Slave
