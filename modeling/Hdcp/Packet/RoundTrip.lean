import Hdcp.Packet.Codec

/-!
# Round trip of made packets

Every maker ends in the constructor, which parses the frame it was just given. Within the limits
of the format the parse succeeds, the packet shows the content given, and its first `size()`
bytes are again a frame the constructor accepts and keeps byte for byte.
-/

namespace Hdcp

open Base

namespace Packet

/-- A packet made within the limits: what it shows, and what its own bytes give when parsed. -/
def RoundTrips (raw : Packet) (made : Except PacketError Packet) (id : UInt16) (type : PacketType)
    (content : List BlockView) : Prop :=
  ∃ packet, made = .ok packet ∧ packet.id = id ∧ packet.type = type.code ∧
    packet.version = ver ∧ packet.nbBlock.toNat = content.length ∧ packet.blocks = content ∧
      packet.bytes.length = packet.size ∧
        ∃ again, ofView raw packet.bytes = .ok again ∧ again.bytes = packet.bytes

/-- What the accessors of a made packet return. -/
theorem made_accessors (raw : Packet) (id : UInt16) (type : PacketType) (nBlock : UInt8)
    (payload : Bytes) (fits : payload.length ≤ maxPlSize) :
    let packet := raw.overwrite (makeHeader id type nBlock payload ++ payload)
    packet.id = id ∧ packet.type = type.code ∧ packet.version = ver ∧ packet.nbBlock = nBlock ∧
      packet.payload = payload ∧ packet.bytes = makeHeader id type nBlock payload ++ payload ∧
        packet.size = payload.length + headerSize := by
  obtain ⟨-, hver, hlen, hid, htype, hcount, -⟩ := madeHeader_fields id type nBlock payload
  have field : (madeHeader id type nBlock payload).len.toNat = payload.length := by
    rw [hlen]
    exact Nat.mod_eq_of_lt (Nat.lt_of_le_of_lt fits (by decide))
  obtain ⟨front, body, held⟩ := overwrite_frame raw _ payload field fits
  refine ⟨?_, ?_, ?_, ?_, body, held, ?_⟩
  · exact (congrArg Header.id front).trans hid
  · exact (congrArg Header.type front).trans htype
  · exact (congrArg Header.ver front).trans hver
  · exact (congrArg Header.nBlock front).trans hcount
  · rw [size, makeHeader, front, field]

/-- A payload that fits and holds as many blocks as announced makes a packet of just that frame. -/
theorem build_of_fits (raw : Packet) (id : UInt16) (type : PacketType) (nBlock : UInt8)
    (payload : Bytes) (fits : payload.length ≤ maxPlSize)
    (count : nBlock.toNat = (Hdcp.blocks payload).length) :
    build raw id type nBlock payload =
      .ok (raw.overwrite (makeHeader id type nBlock payload ++ payload)) := by
  have whole := carried_of_lt payload (Nat.lt_of_le_of_lt fits (by decide))
  refine (build_ok_iff raw id type nBlock payload _).mpr ?_
  rw [whole]
  exact ⟨fits, rfl, count, rfl⟩

/-- A maker given blocks that fit returns a packet that shows them and parses again as itself. -/
theorem build_roundTrips (raw raw' : Packet) (id : UInt16) (type : PacketType) (nBlock : UInt8)
    (content : List BlockView) (fits : (content.map BlockView.size).sum ≤ maxPlSize)
    (count : nBlock.toNat = content.length) :
    RoundTrips raw' (build raw id type nBlock (content.flatMap makeBlock)) id type content := by
  have length := flatMap_makeBlock_length content
  have short : (content.flatMap makeBlock).length ≤ maxPlSize := by rwa [length]
  have read := blocks_flatMap content (data_length_lt content fits)
  have made (start : Packet) :
      ofView start (makeHeader id type nBlock (content.flatMap makeBlock) ++
        content.flatMap makeBlock) = .ok _ :=
    build_of_fits start id type nBlock _ short (by rw [read, count])
  obtain ⟨hid, htype, hver, hcount, body, held, hsize⟩ :=
    made_accessors raw id type nBlock (content.flatMap makeBlock) short
  obtain ⟨-, -, -, -, -, heldAgain, -⟩ :=
    made_accessors raw' id type nBlock (content.flatMap makeBlock) short
  refine ⟨_, made raw, hid, htype, hver, by rw [hcount, count], ?_, ?_, ?_⟩
  · rw [blocks, body, read]
  · rw [held, hsize, List.length_append, makeHeader_length, Nat.add_comm]
  · rw [held]
    exact ⟨_, made raw', heldAgain⟩

/-- An ack made for a command shows one block, which names the command. -/
theorem makeCmdAck_roundTrips (raw raw' : Packet) (id type cmdId : UInt16) :
    RoundTrips raw' (makeCmdAck raw id type cmdId) id .cmdAck [⟨type, le16 cmdId⟩] := by
  have limit : maxPlSize = 2035 := rfl
  have one := build_roundTrips raw raw' id .cmdAck 1 [⟨type, le16 cmdId⟩]
    (by simp [BlockView.size, bheaderSize, limit]) rfl
  simpa [makeCmdAck] using one

/-- An ack made for a command holds one block, which names the command. -/
theorem makeCmdAck_blocks (raw packet : Packet) (id type cmdId : UInt16)
    (made : makeCmdAck raw id type cmdId = .ok packet) : packet.blocks = [⟨type, le16 cmdId⟩] := by
  obtain ⟨found, same, -, -, -, -, blocks, -⟩ := makeCmdAck_roundTrips raw raw id type cmdId
  obtain rfl := Except.ok.inj (same.symm.trans made)
  exact blocks

/-- The four blocks of an identification take sixteen bytes more than its strings. -/
theorem identificationBlocks_size (identification : Identification) :
    ((identificationBlocks identification).map BlockView.size).sum =
      identification.name.length + identification.serialNumber.length +
        identification.hwVersion.length + identification.swVersion.length + 16 := by
  simp only [identificationBlocks, List.map_cons, List.map_nil, List.sum_cons, List.sum_nil,
    BlockView.size, bheaderSize]
  omega

/-- Every maker, on every input within the limits, returns a packet with the id, type, version,
block count and blocks it was given, whose bytes parse again as the same bytes. -/
theorem codec_roundTrip (raw raw' : Packet) (id : UInt16) :
    (∀ type data, data.length ≤ 2031 →
      RoundTrips raw' (makeCommand raw id type data) id .cmd [⟨type, data⟩]) ∧
    (∀ type cmdId,
      RoundTrips raw' (makeCmdAck raw id type cmdId) id .cmdAck [⟨type, le16 cmdId⟩]) ∧
    (∀ content : List BlockView, content.length ≤ 255 →
      (content.map BlockView.size).sum ≤ maxPlSize →
        RoundTrips raw' (makeData raw id content) id .data content) ∧
    (∀ content : List Block, content.length ≤ 255 →
      (content.map fun block => (BlockView.ofBlock block).size).sum ≤ maxPlSize →
        RoundTrips raw' (makeDataOfBlocks raw id content) id .data
          (content.map BlockView.ofBlock)) ∧
    RoundTrips raw' (makeKeepalive raw id) id .ka [] ∧
    RoundTrips raw' (makeKeepaliveAck raw id) id .kaAck [] ∧
    (∀ host : Identification, host.name.length + host.serialNumber.length +
        host.hwVersion.length + host.swVersion.length ≤ maxPlSize - 16 →
      RoundTrips raw' (makeHip raw id host) id .hip (identificationBlocks host)) ∧
    (∀ dev : Identification, dev.name.length + dev.serialNumber.length +
        dev.hwVersion.length + dev.swVersion.length ≤ maxPlSize - 16 →
      RoundTrips raw' (makeDip raw id dev) id .dip (identificationBlocks dev)) := by
  have limit : maxPlSize = 2035 := rfl
  refine ⟨?_, ?_, ?_, ?_, ?_, ?_, ?_, ?_⟩
  · intro type data short
    have one := build_roundTrips raw raw' id .cmd 1 [⟨type, data⟩]
      (by simp [BlockView.size, bheaderSize, limit]; omega) rfl
    simpa [makeCommand] using one
  · intro type cmdId
    exact makeCmdAck_roundTrips raw raw' id type cmdId
  · intro content few fits
    exact build_roundTrips raw raw' id .data _ content fits
      (Nat.mod_eq_of_lt (show content.length < 2 ^ 8 by omega))
  · intro content few fits
    have many := build_roundTrips raw raw' id .data (UInt8.ofNat content.length)
      (content.map BlockView.ofBlock) (by simpa [Function.comp_def] using fits)
      (by rw [List.length_map]; exact Nat.mod_eq_of_lt (show content.length < 2 ^ 8 by omega))
    rwa [List.flatMap_map] at many
  · exact build_roundTrips raw raw' id .ka 0 [] (by decide) rfl
  · exact build_roundTrips raw raw' id .kaAck 0 [] (by decide) rfl
  · intro host short
    exact build_roundTrips raw raw' id .hip 4 (identificationBlocks host)
      (by rw [identificationBlocks_size]; omega) rfl
  · intro dev short
    exact build_roundTrips raw raw' id .dip 4 (identificationBlocks dev)
      (by rw [identificationBlocks_size]; omega) rfl

/-- The largest command, a data packet of two blocks and a device identification. -/
theorem codec_roundTrip_instances :
    RoundTrips cleared (makeCommand cleared 65535 7 (List.replicate 2031 0)) 65535 .cmd
      [⟨7, List.replicate 2031 0⟩] ∧
    RoundTrips cleared (makeData cleared 1 [⟨16, [1, 2, 3]⟩, ⟨17, []⟩]) 1 .data
      [⟨16, [1, 2, 3]⟩, ⟨17, []⟩] ∧
    RoundTrips cleared (makeDataOfBlocks cleared 1 [⟨16, [1, 2, 3]⟩]) 1 .data
      [⟨16, [1, 2, 3]⟩] ∧
    RoundTrips cleared (makeHip cleared 1 ⟨[104], [], [49], [50]⟩) 1 .hip
      (identificationBlocks ⟨[104], [], [49], [50]⟩) ∧
    RoundTrips cleared (makeDip cleared 1 ⟨[100], [48], [], [50]⟩) 1 .dip
      (identificationBlocks ⟨[100], [48], [], [50]⟩) := by
  obtain ⟨command, -, data, ofBlocks, -, -, hip, dip⟩ := codec_roundTrip cleared cleared 1
  refine ⟨?_, data _ (by decide) (by decide), ofBlocks _ (by decide) (by decide),
    hip _ (by decide), dip _ (by decide)⟩
  exact (codec_roundTrip cleared cleared 65535).1 7 (List.replicate 2031 0)
    (Nat.le_of_eq List.length_replicate)

end Packet

end Hdcp
