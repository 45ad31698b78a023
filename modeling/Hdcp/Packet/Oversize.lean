import Hdcp.Packet.Canonical
import Hdcp.Packet.RoundTrip

/-!
# Oversized input

No maker looks at the size of its input. The length field of the header and the one of each block
keep sixteen bits of it, and the parser at the end of the maker sees only the beginning of the
payload that the header announces. An oversized input is refused unless this beginning passes for
a payload: it must fit, hold as many blocks as announced, and have the checksum of the whole.
-/

namespace Hdcp

open Base

/-- A payload that wraps into an accepted one: the part its length field covers fits a packet and
passes the two checks made on it. -/
structure Wraps (nBlock : UInt8) (payload : Bytes) : Prop where
  /-- The payload is too long for a packet. -/
  oversized : maxPlSize < payload.length
  /-- The length left in the field is not. -/
  fits : payload.length % 2 ^ 16 ≤ maxPlSize
  /-- The part announced has the checksum of the whole. -/
  checksum : computeCrc (payload.take (payload.length % 2 ^ 16)) = computeCrc payload
  /-- It has the number of blocks announced. -/
  count : (blocks (payload.take (payload.length % 2 ^ 16))).length = nBlock.toNat

/-- The covered part of a payload is its beginning, by the remainder of its length. -/
theorem carried_eq_take (payload : Bytes) :
    Packet.carried payload = payload.take (payload.length % 2 ^ 16) := by
  rw [Packet.carried, UInt16.toNat_ofNat']

/-- Bytes of zeros leave the sum and add it to the sum of sums once each. -/
theorem foldl_crcStep_zeros (count : Nat) (sum sumOfSums : UInt8) :
    (List.replicate count 0).foldl crcStep (sum, sumOfSums) =
      (sum, sumOfSums + UInt8.ofNat count * sum) := by
  induction count generalizing sumOfSums with
  | zero => simp
  | succ count ih =>
    have next : crcStep (sum, sumOfSums) 0 = (sum, sumOfSums + sum) := by simp [crcStep]
    rw [List.replicate_succ, List.foldl_cons, next, ih, UInt8.ofNat_add, UInt8.add_mul,
      UInt8.add_assoc, UInt8.add_comm sum]
    simp

/-- Every string of an identification has at most some length. -/
structure Identification.Within (identification : Identification) (limit : Nat) : Prop where
  /-- The name. -/
  name : identification.name.length ≤ limit
  /-- The serial number. -/
  serialNumber : identification.serialNumber.length ≤ limit
  /-- The hardware version. -/
  hwVersion : identification.hwVersion.length ≤ limit
  /-- The software version. -/
  swVersion : identification.swVersion.length ≤ limit

/-- The string of one block is as long as its data. -/
theorem Identification.Within.setBlock {identification : Identification} {limit : Nat}
    (within : identification.Within limit) (block : BlockView) (fits : block.data.length ≤ limit) :
    (identification.setBlock block).Within limit := by
  unfold Identification.setBlock
  split
  · exact ⟨fits, within.serialNumber, within.hwVersion, within.swVersion⟩
  · split
    · exact ⟨within.name, fits, within.hwVersion, within.swVersion⟩
    · split
      · exact ⟨within.name, within.serialNumber, fits, within.swVersion⟩
      · split
        · exact ⟨within.name, within.serialNumber, within.hwVersion, fits⟩
        · exact within

/-- The strings that blocks make up are as long as their data. -/
theorem Identification.Within.foldl {identification : Identification} {limit : Nat}
    (within : identification.Within limit) (content : List BlockView)
    (fits : ∀ block ∈ content, block.data.length ≤ limit) :
    (content.foldl .setBlock identification).Within limit := by
  induction content generalizing identification with
  | nil => exact within
  | cons block content ih =>
    rw [List.foldl_cons]
    refine ih (within.setBlock block (fits block List.mem_cons_self)) ?_
    exact fun other inside => fits other (List.mem_cons_of_mem block inside)

namespace Packet

/-- A maker that truncates nothing: oversized input is refused, and a packet returned shows the
input. -/
def Untruncated (oversized : Prop) (made : Except PacketError Packet) (content : List BlockView) :
    Prop :=
  (oversized → ∃ error, made = .error error) ∧ ∀ packet, made = .ok packet → packet.blocks = content

/-- The payload of a packet a maker returned is the part its length field covers. -/
theorem build_payload (raw : Packet) (id : UInt16) (type : PacketType) (nBlock : UInt8)
    (payload : Bytes) (packet : Packet) (made : build raw id type nBlock payload = .ok packet) :
    packet.payload = carried payload := by
  obtain ⟨fits, -, -, rfl⟩ := (build_ok_iff raw id type nBlock payload packet).mp made
  have len : (madeHeader id type nBlock payload).len.toNat = (carried payload).length := by
    rw [(madeHeader_fields id type nBlock payload).2.2.1, carried_length]
  exact (overwrite_frame raw _ (carried payload) len fits).2.1

/-- An oversized payload is accepted exactly when it wraps. -/
theorem build_returns_iff_wraps (raw : Packet) (id : UInt16) (type : PacketType) (nBlock : UInt8)
    (payload : Bytes) (oversized : maxPlSize < payload.length) :
    (∃ packet, build raw id type nBlock payload = .ok packet) ↔ Wraps nBlock payload := by
  have covered : (carried payload).length = payload.length % 2 ^ 16 := by
    rw [carried_length, UInt16.toNat_ofNat']
  simp only [build_ok_iff, covered]
  rw [carried_eq_take]
  constructor
  · rintro ⟨packet, fits, checksum, count, -⟩
    exact ⟨oversized, fits, checksum.symm, count.symm⟩
  · intro wraps
    exact ⟨_, wraps.fits, wraps.checksum.symm, wraps.count.symm, rfl⟩

/-- Blocks that fit are those of the packet returned, if one is. -/
theorem build_blocks (raw : Packet) (id : UInt16) (type : PacketType) (nBlock : UInt8)
    (content : List BlockView) (fits : (content.map BlockView.size).sum ≤ maxPlSize)
    (packet : Packet) (made : build raw id type nBlock (content.flatMap makeBlock) = .ok packet) :
    packet.blocks = content := by
  have length := flatMap_makeBlock_length content
  have short : (content.flatMap makeBlock).length < 2 ^ 16 := by
    simp only [maxPlSize, maxSize, headerSize] at fits
    omega
  rw [blocks, build_payload raw id type nBlock _ packet made, carried_of_lt _ short]
  exact blocks_flatMap content (data_length_lt content fits)

/-- A maker truncates nothing exactly when its payload does not wrap. -/
theorem build_untruncated_iff (raw : Packet) (id : UInt16) (type : PacketType) (nBlock : UInt8)
    (content : List BlockView) :
    Untruncated (maxPlSize < (content.map BlockView.size).sum)
        (build raw id type nBlock (content.flatMap makeBlock)) content ↔
      ¬ Wraps nBlock (content.flatMap makeBlock) := by
  have length := flatMap_makeBlock_length content
  have accepted := build_returns_iff_wraps raw id type nBlock (content.flatMap makeBlock)
  rw [length] at accepted
  constructor
  · rintro ⟨refused, -⟩ wraps
    have oversized : maxPlSize < (content.map BlockView.size).sum := by
      rw [← length]
      exact wraps.oversized
    obtain ⟨error, thrown⟩ := refused oversized
    obtain ⟨packet, returned⟩ := (accepted oversized).mpr wraps
    rw [thrown] at returned
    contradiction
  · intro straight
    have refused (oversized : maxPlSize < (content.map BlockView.size).sum) :
        ∃ error, build raw id type nBlock (content.flatMap makeBlock) = .error error := by
      cases made : build raw id type nBlock (content.flatMap makeBlock) with
      | error error => exact ⟨error, rfl⟩
      | ok packet => exact absurd ((accepted oversized).mp ⟨packet, made⟩) straight
    refine ⟨refused, ?_⟩
    intro packet made
    by_cases fits : (content.map BlockView.size).sum ≤ maxPlSize
    · exact build_blocks raw id type nBlock content fits packet made
    · obtain ⟨error, thrown⟩ := refused (Nat.lt_of_not_le fits)
      rw [thrown] at made
      contradiction

/-- Each maker that takes input of any size refuses what is too large for a packet, and shows in
the packet what it was given, if and only if the payload it encodes does not wrap. -/
theorem makers_untruncated_iff (raw : Packet) (id : UInt16) :
    (∀ type data,
      Untruncated (2031 < data.length) (makeCommand raw id type data) [⟨type, data⟩] ↔
        ¬ Wraps 1 (makeBlock ⟨type, data⟩)) ∧
    (∀ content : List BlockView,
      Untruncated (maxPlSize < (content.map BlockView.size).sum) (makeData raw id content)
          content ↔
        ¬ Wraps (UInt8.ofNat content.length) (content.flatMap makeBlock)) ∧
    (∀ content : List Block,
      Untruncated (maxPlSize < (content.map fun block => (BlockView.ofBlock block).size).sum)
          (makeDataOfBlocks raw id content) (content.map BlockView.ofBlock) ↔
        ¬ Wraps (UInt8.ofNat content.length)
          (content.flatMap fun block => makeBlock (BlockView.ofBlock block))) ∧
    (∀ host : Identification,
      Untruncated (maxPlSize - 16 < host.name.length + host.serialNumber.length +
          host.hwVersion.length + host.swVersion.length)
          (makeHip raw id host) (identificationBlocks host) ↔
        ¬ Wraps 4 ((identificationBlocks host).flatMap makeBlock)) ∧
    (∀ dev : Identification,
      Untruncated (maxPlSize - 16 < dev.name.length + dev.serialNumber.length +
          dev.hwVersion.length + dev.swVersion.length)
          (makeDip raw id dev) (identificationBlocks dev) ↔
        ¬ Wraps 4 ((identificationBlocks dev).flatMap makeBlock)) := by
  have limit : maxPlSize = 2035 := rfl
  refine ⟨?_, ?_, ?_, ?_, ?_⟩
  · intro type data
    have one := build_untruncated_iff raw id .cmd 1 [⟨type, data⟩]
    have size : maxPlSize < ([⟨type, data⟩].map BlockView.size).sum ↔ 2031 < data.length := by
      simp only [List.map_cons, List.map_nil, List.sum_cons, List.sum_nil, BlockView.size,
        bheaderSize, limit]
      omega
    rw [size] at one
    simpa [makeCommand] using one
  · intro content
    exact build_untruncated_iff raw id .data _ content
  · intro content
    have many := build_untruncated_iff raw id .data (UInt8.ofNat content.length)
      (content.map BlockView.ofBlock)
    rwa [List.flatMap_map, List.map_map] at many
  · intro host
    have four := build_untruncated_iff raw id .hip 4 (identificationBlocks host)
    have size : maxPlSize < ((identificationBlocks host).map BlockView.size).sum ↔
        maxPlSize - 16 < host.name.length + host.serialNumber.length + host.hwVersion.length +
          host.swVersion.length := by
      rw [identificationBlocks_size]
      omega
    rwa [size] at four
  · intro dev
    have four := build_untruncated_iff raw id .dip 4 (identificationBlocks dev)
    have size : maxPlSize < ((identificationBlocks dev).map BlockView.size).sum ↔
        maxPlSize - 16 < dev.name.length + dev.serialNumber.length + dev.hwVersion.length +
          dev.swVersion.length := by
      rw [identificationBlocks_size]
      omega
    rwa [size] at four

/-- A block of a packet fits it. -/
theorem block_length_le (packet : Packet) (block : BlockView) (inside : block ∈ packet.blocks) :
    block.data.length ≤ maxPlSize := by
  obtain ⟨rest, encoded, -⟩ := (decomposes_blocks packet.payload).eq_append
  have body : packet.payload.length ≤ maxPlSize := by
    have size := packet.size_data
    simp only [payload, List.length_take, List.length_drop, size, maxPlSize]
    omega
  have bound : block.size ≤ (packet.blocks.map BlockView.size).sum :=
    List.single_le_sum (fun _ _ => Nat.zero_le _) _ (List.mem_map_of_mem inside)
  have length := congrArg List.length encoded
  rw [List.length_append, flatMap_makeBlock_length] at length
  change packet.payload.length = (packet.blocks.map BlockView.size).sum + rest.length at length
  rw [BlockView.size] at bound
  omega

/-- The blocks of a DIP make up the device it was made for exactly when its payload does not
wrap. -/
theorem makeDip_identifies_iff (raw packet : Packet) (id : UInt16) (dev : Identification)
    (made : makeDip raw id dev = .ok packet) :
    packet.blocks.foldl .setBlock .empty = dev ↔
      ¬ Wraps 4 ((identificationBlocks dev).flatMap makeBlock) := by
  constructor
  · intro identified wraps
    have known : Identification.empty.Within maxPlSize :=
      ⟨Nat.zero_le _, Nat.zero_le _, Nat.zero_le _, Nat.zero_le _⟩
    have short := known.foldl packet.blocks packet.block_length_le
    rw [identified] at short
    obtain ⟨name, serialNumber, hwVersion, swVersion⟩ := short
    have long := wraps.oversized
    have remainder := wraps.fits
    rw [flatMap_makeBlock_length, identificationBlocks_size] at long remainder
    simp only [maxPlSize, maxSize, headerSize] at *
    omega
  · intro straight
    have shown := ((build_untruncated_iff raw id .dip 4 (identificationBlocks dev)).mpr straight).2
      packet made
    rw [shown]
    rfl

/-- A device with a software version of 65536 zeros. -/
def hugeDevice : Identification := ⟨[], [], [], List.replicate 65536 0⟩

/-- Something is known of it. -/
theorem hugeDevice_ne_empty : hugeDevice ≠ .empty := by
  intro same
  have version : List.replicate 65536 (0 : UInt8) = [] := congrArg Identification.swVersion same
  have length := congrArg List.length version
  rw [List.length_replicate, List.length_nil] at length
  omega

/-- Its DIP is the one of a device of which nothing is known. -/
theorem makeDip_hugeDevice (raw packet : Packet) (id : UInt16)
    (made : makeDip raw id .empty = .ok packet) : makeDip raw id hugeDevice = .ok packet := by
  have encoded : (identificationBlocks hugeDevice).flatMap makeBlock =
      (identificationBlocks .empty).flatMap makeBlock ++ List.replicate 65536 0 := by
    have last : makeBlock ⟨blockSwVersion, List.replicate 65536 0⟩ =
        [4, 0, 0, 0] ++ List.replicate 65536 0 := by
      rw [makeBlock, List.length_replicate]
      rfl
    rw [identificationBlocks, hugeDevice, List.flatMap_cons, List.flatMap_cons, List.flatMap_cons,
      List.flatMap_cons, List.flatMap_nil, last, List.append_nil]
    rfl
  have size : ((identificationBlocks .empty).flatMap makeBlock).length = 16 := rfl
  unfold makeDip at made ⊢
  rw [encoded]
  generalize (identificationBlocks .empty).flatMap makeBlock = small at size made ⊢
  have checksum : computeCrc (small ++ List.replicate 65536 0) = computeCrc small := by
    rw [computeCrc, List.foldl_append, foldl_crcStep_zeros]
    have whole : UInt8.ofNat 65536 = 0 := rfl
    rw [whole, UInt8.zero_mul, UInt8.add_zero]
    rfl
  have length : (small ++ List.replicate 65536 0).length = 65552 := by
    rw [List.length_append, List.length_replicate, size]
  have announced : carried (small ++ List.replicate 65536 0) = carried small := by
    rw [carried_eq_take, carried_of_lt small (by omega), length]
    exact List.take_left' size
  have field : UInt16.ofNat 65552 = UInt16.ofNat 16 := rfl
  have header : makeHeader id .dip 4 (small ++ List.replicate 65536 0) =
      makeHeader id .dip 4 small := by
    rw [makeHeader, madeHeader, checksum, length, field, ← size]
    rfl
  rw [build_ok_iff, announced, checksum, header]
  exact (build_ok_iff raw id .dip 4 small packet).mp made

/-- The header of a block of 65536 bytes announces none, and that of its packet only this header:
the command is accepted and shows an empty block. -/
theorem makeCommand_truncates :
    ∃ packet, makeCommand cleared 1 7 (List.replicate 65536 0) = .ok packet ∧
      packet.blocks = [⟨7, []⟩] := by
  have encoded :
    makeBlock ⟨7, List.replicate 65536 0⟩ = [7, 0, 0, 0] ++ List.replicate 65536 0 := by
    rw [makeBlock, List.length_replicate]
    rfl
  have length : (makeBlock ⟨7, List.replicate 65536 0⟩).length = 65540 := by
    rw [encoded, List.length_append, List.length_replicate]
    rfl
  have announced : (makeBlock ⟨7, List.replicate 65536 0⟩).take
      ((makeBlock ⟨7, List.replicate 65536 0⟩).length % 2 ^ 16) = [7, 0, 0, 0] := by
    rw [length, encoded]
    exact List.take_left' rfl
  have checksum : computeCrc (makeBlock ⟨7, List.replicate 65536 0⟩) = computeCrc [7, 0, 0, 0] := by
    rw [encoded, computeCrc, List.foldl_append, foldl_crcStep_zeros]
    rfl
  have wraps : Wraps 1 (makeBlock ⟨7, List.replicate 65536 0⟩) := by
    refine ⟨?_, ?_, ?_, ?_⟩
    · rw [length]
      decide
    · rw [length]
      decide
    · rw [announced, checksum]
    · rw [announced]
      rfl
  obtain ⟨packet, returned⟩ :=
    (build_returns_iff_wraps cleared 1 .cmd 1 _ wraps.oversized).mpr wraps
  refine ⟨packet, returned, ?_⟩
  rw [blocks, build_payload cleared 1 .cmd 1 _ packet returned, carried_eq_take, announced]
  rfl

end Packet

end Hdcp
