import Hdcp.Packet.Reads

/-!
# What the buffer constructor accepts

A frame is stated here on its own terms: header bytes that carry their own checksum, one of the
seven types, a length within the limit, and a payload of that length whose checksum and whose
number of complete blocks the header announces. The constructor returns exactly when a frame
begins at the first start of packet; otherwise it throws a `packet_error`.
-/

namespace Hdcp

open Base

/-- The complete blocks at the front of some bytes, taken one after another. -/
inductive Decomposes : Bytes → List BlockView → Prop where
  /-- Too few bytes for a block header. -/
  | short {bytes : Bytes} (short : bytes.length < bheaderSize) : Decomposes bytes []
  /-- A block header that announces more bytes than follow it. -/
  | cut {type len : UInt16} {rest : Bytes} (cut : rest.length < len.toNat) :
      Decomposes (le16 type ++ le16 len ++ rest) []
  /-- A complete block, and what follows it. -/
  | block {type len : UInt16} {data rest : Bytes} {content : List BlockView}
      (whole : data.length = len.toNat) (later : Decomposes rest content) :
      Decomposes (le16 type ++ le16 len ++ (data ++ rest)) (⟨type, data⟩ :: content)

/-- A header and a payload that form a frame. -/
structure IsFrame (header : Header) (payload : Bytes) : Prop where
  /-- The header carries the checksum of its first eleven bytes. -/
  checksum : header.hCrc = computeCrc header.summed
  /-- Version 1. -/
  version : header.ver = 1
  /-- One of the seven packet types. -/
  type : ∃ type : PacketType, header.type = type.code
  /-- The length field is at most 2035. -/
  small : header.len.toNat ≤ 2035
  /-- The payload has the announced length. -/
  len : payload.length = header.len.toNat
  /-- The payload has the announced checksum. -/
  payloadChecksum : header.pCrc = computeCrc payload
  /-- The payload has the announced number of complete blocks. -/
  count : ∃ content, Decomposes payload content ∧ content.length = header.nBlock.toNat

/-- The first offset of the start-of-packet bytes. -/
structure FirstSop (view : Bytes) (pos : Nat) : Prop where
  /-- They stand at the offset. -/
  stands : le16 sop <+: view.drop pos
  /-- They stand at no smaller one. -/
  first : ∀ earlier < pos, ¬ le16 sop <+: view.drop earlier

/-- Some bytes begin with a frame. -/
def BeginsWithFrame (bytes : Bytes) : Prop :=
  ∃ header payload back, bytes = header.bytes ++ (payload ++ back) ∧ IsFrame header payload

/-! ## The scans find what is stated -/

/-- The block scan is the greedy decomposition. -/
theorem decomposes_blocks (bytes : Bytes) : Decomposes bytes (blocks bytes) := by
  induction size : bytes.length using Nat.strong_induction_on generalizing bytes with
  | _ length ih =>
    by_cases short : bytes.length < bheaderSize
    · rw [blocks_of_short bytes short]
      exact .short short
    · match bytes, Nat.le_of_not_lt short with
      | t0 :: t1 :: l0 :: l1 :: rest, _ =>
        have front (body : Bytes) :
            t0 :: t1 :: l0 :: l1 :: body = le16 (word16 t0 t1) ++ le16 (word16 l0 l1) ++ body := by
          rw [le16_word16, le16_word16]
          rfl
        rw [blocks_cons]
        by_cases cut : (word16 l0 l1).toNat > rest.length
        · rw [if_pos cut, front]
          exact .cut cut
        · have later := ih _ (by
            rw [← size, List.length_drop]
            simp only [List.length_cons]
            omega) (rest.drop (word16 l0 l1).toNat) rfl
          have data : (rest.take (word16 l0 l1).toNat).length = (word16 l0 l1).toNat := by
            rw [List.length_take]
            omega
          have taken := @Decomposes.block (word16 t0 t1) _ _ _ _ data later
          rw [List.take_append_drop, ← front] at taken
          rw [if_neg cut]
          exact taken

/-- The greedy decomposition is unique. -/
theorem Decomposes.eq_blocks {bytes : Bytes} {content : List BlockView}
    (decomposes : Decomposes bytes content) : content = blocks bytes := by
  induction decomposes with
  | short short => exact (blocks_of_short _ short).symm
  | @cut type len rest cut =>
    have scanned := blocks_cons type.toUInt8 (UInt8.ofNat (type.toNat / 256)) len.toUInt8
      (UInt8.ofNat (len.toNat / 256)) rest
    rw [word16_le16, if_pos cut] at scanned
    exact scanned.symm
  | @block type len data rest content whole later ih =>
    have scanned := blocks_cons type.toUInt8 (UInt8.ofNat (type.toNat / 256)) len.toUInt8
      (UInt8.ofNat (len.toNat / 256)) (data ++ rest)
    have room : ¬ (word16 len.toUInt8 (UInt8.ofNat (len.toNat / 256))).toNat >
        (data ++ rest).length := by
      rw [word16_le16, List.length_append]
      omega
    rw [if_neg room, word16_le16, word16_le16, List.take_left' whole, List.drop_left' whole,
      ← ih] at scanned
    exact scanned.symm

/-- A type byte is accepted exactly when it is one of the seven. -/
theorem PacketType.ofCode_isSome_iff (code : UInt8) :
    (ofCode code).isSome ↔ ∃ type : PacketType, code = type.code := by
  constructor
  · intro known
    unfold ofCode at known
    split at known
    · exact ⟨hip, ‹_›⟩
    split at known
    · exact ⟨dip, ‹_›⟩
    split at known
    · exact ⟨ka, ‹_›⟩
    split at known
    · exact ⟨kaAck, ‹_›⟩
    split at known
    · exact ⟨cmd, ‹_›⟩
    split at known
    · exact ⟨cmdAck, ‹_›⟩
    split at known
    · exact ⟨data, ‹_›⟩
    · contradiction
  · rintro ⟨type, rfl⟩
    rw [ofCode_code]
    rfl

/-- The search finds exactly the first offset of the start-of-packet bytes. -/
theorem firstOccurrence_sop_iff (view : Bytes) (pos : Nat) :
    firstOccurrence (le16 sop) view = some pos ↔ FirstSop view pos := by
  rw [firstOccurrence_eq_some_iff]
  constructor
  · rintro ⟨-, stands, first⟩
    exact ⟨stands, first⟩
  · rintro ⟨stands, first⟩
    have room := stands.length_le
    rw [List.length_drop, le16_length] at room
    exact ⟨by omega, stands, first⟩

/-- The two parsers accept a header and a payload exactly when these form a frame. -/
theorem isFrame_iff (header : Header) (payload : Bytes) :
    IsFrame header payload ∧ header.sop = sop ↔
      parseHeader header.bytes = .ok header ∧ parsePayload payload header = .ok () := by
  rw [parseHeader_ok_iff, parsePayload_ok_iff, Header.ofBytes_bytes, Header.bytes_take,
    PacketType.ofCode_isSome_iff]
  constructor
  · rintro ⟨frame, start⟩
    obtain ⟨content, decomposes, count⟩ := frame.count
    rw [decomposes.eq_blocks] at count
    exact ⟨⟨rfl, Header.bytes_length header, frame.checksum.symm, start, frame.version, frame.type,
      frame.small⟩, frame.len.symm, frame.payloadChecksum, count.symm⟩
  · rintro ⟨⟨-, -, checksum, start, version, type, small⟩, len, payloadChecksum, count⟩
    exact ⟨⟨checksum.symm, version, type, small, len.symm, payloadChecksum, _,
      decomposes_blocks payload, count.symm⟩, start⟩

namespace Packet

/-- The constructor on byte strings returns exactly when a frame begins at the first start of
packet. -/
theorem ofView_returns_iff (raw : Packet) (view : Bytes) :
    (∃ packet, ofView raw view = .ok packet) ↔
      ∃ pos, FirstSop view pos ∧ BeginsWithFrame (view.drop pos) := by
  simp only [ofView_ok_iff, firstOccurrence_sop_iff]
  constructor
  · rintro ⟨packet, pos, header, first, parsed, inside, checked, -⟩
    obtain ⟨same, size, -⟩ := (parseHeader_ok_iff _ _).mp parsed
    have bytes : header.bytes = (view.drop pos).take headerSize := by
      rw [same, Header.bytes_ofBytes _ size]
    rw [← bytes] at parsed
    refine ⟨pos, first, header, _, (view.drop (pos + headerSize)).drop header.len.toNat, ?_,
      ((isFrame_iff header _).mpr ⟨parsed, checked⟩).1⟩
    rw [List.take_append_drop, bytes, ← List.drop_drop, List.take_append_drop]
  · rintro ⟨pos, first, header, payload, back, begins, frame⟩
    have start : header.sop = sop := by
      obtain ⟨rest, stands⟩ := first.stands
      have same := congrArg Header.ofBytes (stands.trans begins)
      rw [Header.ofBytes_append] at same
      rw [← same]
      exact word16_le16 sop
    obtain ⟨parsed, checked⟩ := (isFrame_iff header payload).mp ⟨frame, start⟩
    have front : (view.drop pos).take headerSize = header.bytes := by
      rw [begins, List.take_left' (Header.bytes_length header)]
    have behind : view.drop (pos + headerSize) = payload ++ back := by
      rw [← List.drop_drop, begins, List.drop_left' (Header.bytes_length header)]
    have total := congrArg List.length begins
    rw [List.length_drop, List.length_append, List.length_append, Header.bytes_length,
      frame.len] at total
    refine ⟨_, pos, header, first, by rw [front]; exact parsed, ?_, ?_, rfl⟩
    · simp only [headerSize] at total ⊢
      omega
    · rw [behind, List.take_left' frame.len]
      exact checked

/-- The buffer constructor on any bytes: it reads only inside them, stores only inside the array
and ends; it returns exactly when a frame begins at the first start of packet, having copied at
most 2048 bytes of the buffer; in every other case it throws a `packet_error`. -/
theorem bufferParser (raw : Packet) (view : Bytes) :
    (∀ stop, ofMemory raw view view.length = .error stop → ∃ error, stop = .thrown error) ∧
      ((∃ packet, ofMemory raw view view.length = .ok packet) ↔
        ∃ pos, FirstSop view pos ∧ BeginsWithFrame (view.drop pos)) ∧
      ∀ packet, ofMemory raw view view.length = .ok packet →
        ∃ count, count ≤ 2048 ∧ count ≤ view.length ∧ packet = raw.overwrite (view.take count) := by
  rw [ofMemory_eq, ← ofView_returns_iff raw view]
  cases outcome : ofView raw view with
  | error refused =>
    refine ⟨?_, ?_, ?_⟩
    · rintro stop thrown
      cases thrown
      exact ⟨refused, rfl⟩
    · constructor
      · rintro ⟨packet, returned⟩
        contradiction
      · rintro ⟨packet, returned⟩
        contradiction
    · intro packet returned
      contradiction
  | ok made =>
    refine ⟨?_, ⟨fun _ => ⟨made, rfl⟩, fun _ => ⟨made, rfl⟩⟩, ?_⟩
    · intro stop thrown
      contradiction
    · intro packet returned
      cases returned
      obtain ⟨pos, header, -, parsed, inside, -, copied⟩ := (ofView_ok_iff raw view made).mp outcome
      obtain ⟨-, -, -, -, -, -, small⟩ := (parseHeader_ok_iff _ _).mp parsed
      refine ⟨_, ?_, ?_, copied⟩
      · simp only [maxPlSize, maxSize, headerSize] at small ⊢
        omega
      · omega

end Packet

end Hdcp
