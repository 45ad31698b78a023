import Hdcp.Packet.Format
import Mathlib.Algebra.Order.BigOperators.Group.List
import Mathlib.Algebra.Order.Ring.Nat

/-!
# The codec

What each encoder writes, each decoder reads back. Headers are fixed records, so their round
trip is field by field; a payload is a list of blocks of any lengths, so its round trip is an
induction over that list, one block at the front at a time. The constructor's result is then
described once, for a made packet and for any buffer, and later modules use these descriptions
instead of unfolding the constructor.
-/

namespace Hdcp

open Base

/-! ## Headers -/

/-- The bytes before a header's own checksum are eleven. -/
@[simp] theorem Header.summed_length (header : Header) :
    header.summed.length = headerSize - 2 := rfl

/-- A header is thirteen bytes. -/
@[simp] theorem Header.bytes_length (header : Header) : header.bytes.length = headerSize := rfl

/-- The checksum of a header covers all of it but the checksum. -/
@[simp] theorem Header.bytes_take (header : Header) :
    header.bytes.take (headerSize - 2) = header.summed := by
  rw [Header.bytes, List.take_left' (Header.summed_length header)]

/-- Whatever follows a header, it is read back field by field. -/
@[simp] theorem Header.ofBytes_append (header : Header) (back : Bytes) :
    Header.ofBytes (header.bytes ++ back) = header := by
  simp [Header.ofBytes, Header.bytes, Header.summed, le16, wordAt, byteAt]

/-- A header alone is read back. -/
@[simp] theorem Header.ofBytes_bytes (header : Header) : Header.ofBytes header.bytes = header := by
  simpa using Header.ofBytes_append header []

/-- A string at least as long as a header reads the same header as its first thirteen bytes. -/
theorem Header.ofBytes_take (bytes : Bytes) (count : Nat) (long : headerSize ≤ count) :
    Header.ofBytes (bytes.take count) = Header.ofBytes bytes := by
  simp only [headerSize] at long
  have words (offset : Nat) (inside : offset ≤ 11) : wordAt (bytes.take count) offset =
      wordAt bytes offset := wordAt_take bytes count offset (by omega)
  have bytesAt (offset : Nat) (inside : offset ≤ 11) : byteAt (bytes.take count) offset =
      byteAt bytes offset := byteAt_take bytes count offset (by omega)
  simp [Header.ofBytes, words, bytesAt]

/-- Thirteen bytes are the bytes of the header they are read as. -/
theorem Header.bytes_ofBytes (bytes : Bytes) (size : bytes.length = headerSize) :
    (Header.ofBytes bytes).bytes = bytes := by
  match bytes, size with
  | [b0, b1, b2, b3, b4, b5, b6, b7, b8, b9, b10, b11, b12], _ =>
    simp [Header.bytes, Header.summed, Header.ofBytes, wordAt, byteAt, le16_word16]

/-- The fields of a made header, its checksum field apart. -/
theorem madeHeader_fields (id : UInt16) (type : PacketType) (nBlock : UInt8) (payload : Bytes) :
    let header := madeHeader id type nBlock payload
    header.sop = sop ∧ header.ver = ver ∧ header.len = UInt16.ofNat payload.length ∧
      header.id = id ∧ header.type = type.code ∧ header.nBlock = nBlock ∧
        header.pCrc = computeCrc payload := by
  simp [madeHeader]

/-- A made header carries the checksum of the bytes before it. -/
theorem madeHeader_hCrc (id : UInt16) (type : PacketType) (nBlock : UInt8) (payload : Bytes) :
    (madeHeader id type nBlock payload).hCrc =
      computeCrc (madeHeader id type nBlock payload).summed := by
  simp only [madeHeader, Header.bytes_take]
  rfl

/-- A made header is thirteen bytes. -/
@[simp] theorem makeHeader_length (id : UInt16) (type : PacketType) (nBlock : UInt8)
    (payload : Bytes) : (makeHeader id type nBlock payload).length = headerSize := rfl

/-- A made header starts with the start-of-packet bytes. -/
theorem makeHeader_sop (id : UInt16) (type : PacketType) (nBlock : UInt8) (payload : Bytes) :
    ∃ back, makeHeader id type nBlock payload = le16 sop ++ back :=
  ⟨_, rfl⟩

/-- The parser accepts a made header as it was filled in, unless its length field is too large. -/
theorem parseHeader_makeHeader (id : UInt16) (type : PacketType) (nBlock : UInt8)
    (payload : Bytes) (fits : (UInt16.ofNat payload.length).toNat ≤ maxPlSize) :
    parseHeader (makeHeader id type nBlock payload) = .ok (madeHeader id type nBlock payload) := by
  obtain ⟨hsop, hver, hlen, -, htype, -, -⟩ := madeHeader_fields id type nBlock payload
  have hcrc := madeHeader_hCrc id type nBlock payload
  simp only [parseHeader, makeHeader, Header.bytes_length, Header.ofBytes_bytes,
    Header.bytes_take, hsop, hver, htype, PacketType.ofCode_code, hlen, ne_eq, not_true_eq_false,
    ↓reduceIte, ← hcrc, reduceCtorEq, Nat.not_lt.mpr fits]

/-- The parser refuses a made header whose truncated length field is still too large. -/
theorem parseHeader_makeHeader_error (id : UInt16) (type : PacketType) (nBlock : UInt8)
    (payload : Bytes) (big : maxPlSize < (UInt16.ofNat payload.length).toNat) :
    parseHeader (makeHeader id type nBlock payload) =
      .error ⟨.payloadExceedMaxSize, some (toString (UInt16.ofNat payload.length).toNat)⟩ := by
  obtain ⟨hsop, hver, hlen, -, htype, -, -⟩ := madeHeader_fields id type nBlock payload
  have hcrc := madeHeader_hCrc id type nBlock payload
  simp only [parseHeader, makeHeader, Header.bytes_length, Header.ofBytes_bytes,
    Header.bytes_take, hsop, hver, htype, PacketType.ofCode_code, hlen, ne_eq, not_true_eq_false,
    ↓reduceIte, ← hcrc, reduceCtorEq, big]

/-- What the header parser accepts: thirteen bytes, every field checked. -/
theorem parseHeader_ok_iff (bytes : Bytes) (header : Header) :
    parseHeader bytes = .ok header ↔
      header = Header.ofBytes bytes ∧ bytes.length = headerSize ∧
        computeCrc (bytes.take (headerSize - 2)) = header.hCrc ∧ header.sop = sop ∧
          header.ver = ver ∧ (PacketType.ofCode header.type).isSome ∧
            header.len.toNat ≤ maxPlSize := by
  simp only [parseHeader]
  constructor
  · intro accepted
    split at accepted
    · contradiction
    split at accepted
    · contradiction
    split at accepted
    · contradiction
    split at accepted
    · contradiction
    split at accepted
    · contradiction
    split at accepted
    · contradiction
    rename_i size crc start version type len
    cases accepted
    exact ⟨rfl, by simpa using size, by simpa using crc, by simpa using start,
      by simpa using version, Option.isSome_iff_ne_none.mpr type, by simpa using len⟩
  · rintro ⟨rfl, size, crc, start, version, type, len⟩
    simp [size, crc, start, version, Option.isSome_iff_ne_none.mp type, Nat.not_lt.mpr len]

/-! ## Blocks -/

/-- A block takes its header and its bytes. -/
@[simp] theorem makeBlock_length (block : BlockView) : (makeBlock block).length = block.size := by
  simp [makeBlock, BlockView.size, bheaderSize]
  omega

/-- Fuel beyond the bytes that remain changes nothing. -/
theorem blocksFrom_fuel (fuel : Nat) (payload : Bytes) (enough : payload.length ≤ fuel) :
    blocksFrom fuel payload = blocks payload := by
  induction fuel using Nat.strongRecOn generalizing payload with
  | ind fuel ih =>
    match fuel, payload with
    | 0, [] => rfl
    | fuel + 1, [] => rfl
    | fuel + 1, [_] => rfl
    | fuel + 1, [_, _] => rfl
    | fuel + 1, [_, _, _] => rfl
    | fuel + 1, t0 :: t1 :: l0 :: l1 :: rest =>
      simp only [List.length_cons] at enough
      have short : (rest.drop (word16 l0 l1).toNat).length ≤ rest.length + 3 := by
        simp only [List.length_drop]
        omega
      simp only [blocks, List.length_cons, blocksFrom]
      rw [ih fuel (by omega) _ (by omega), ih (rest.length + 3) (by omega) _ short]

/-- The scan at the front of a payload that starts with a block header. -/
theorem blocks_cons (t0 t1 l0 l1 : UInt8) (rest : Bytes) :
    blocks (t0 :: t1 :: l0 :: l1 :: rest) =
      if (word16 l0 l1).toNat > rest.length then []
      else ⟨word16 t0 t1, rest.take (word16 l0 l1).toNat⟩ ::
        blocks (rest.drop (word16 l0 l1).toNat) := by
  have short : (rest.drop (word16 l0 l1).toNat).length ≤ rest.length + 3 := by
    simp only [List.length_drop]
    omega
  rw [blocks, List.length_cons, blocksFrom]
  simp only [List.length_cons]
  rw [blocksFrom_fuel _ _ short]

/-- Fewer bytes than a block header hold no block. -/
theorem blocks_of_short (payload : Bytes) (short : payload.length < bheaderSize) :
    blocks payload = [] := by
  match payload, short with
  | [], _ => rfl
  | [_], _ => rfl
  | [_, _], _ => rfl
  | [_, _, _], _ => rfl

/-- The scan of a block whose length field was truncated: it sees the field's many bytes. -/
theorem blocks_makeBlock_append (block : BlockView) (back : Bytes) :
    blocks (makeBlock block ++ back) =
      let len := (UInt16.ofNat block.data.length).toNat
      ⟨block.type, (block.data ++ back).take len⟩ :: blocks ((block.data ++ back).drop len) := by
  have field : (UInt16.ofNat block.data.length).toNat ≤ block.data.length :=
    Nat.mod_le _ _
  simp only [makeBlock, le16, List.cons_append, List.nil_append, blocks_cons, word16_le16,
    List.length_append]
  rw [if_neg (by omega)]

/-- A block whose length fits its field is the first one read, and the scan goes on behind it. -/
theorem blocks_makeBlock (block : BlockView) (back : Bytes) (fits : block.data.length < 2 ^ 16) :
    blocks (makeBlock block ++ back) = block :: blocks back := by
  have field : (UInt16.ofNat block.data.length).toNat = block.data.length :=
    Nat.mod_eq_of_lt fits
  simp [blocks_makeBlock_append, field]

/-- The scan reads back a concatenation of blocks, in order and byte for byte. -/
theorem blocks_flatMap (content : List BlockView)
    (fits : ∀ block ∈ content, block.data.length < 2 ^ 16) :
    blocks (content.flatMap makeBlock) = content := by
  induction content with
  | nil => rfl
  | cons block content ih =>
    rw [List.flatMap_cons, blocks_makeBlock block _ (fits block List.mem_cons_self),
      ih fun later inside => fits later (List.mem_cons_of_mem block inside)]

/-- A concatenation of blocks is as long as its blocks' sizes together. -/
theorem flatMap_makeBlock_length (content : List BlockView) :
    (content.flatMap makeBlock).length = (content.map BlockView.size).sum := by
  simp [List.length_flatMap]

/-- In a payload that fits a packet every block's length fits its field. -/
theorem data_length_lt (content : List BlockView)
    (fits : (content.map BlockView.size).sum ≤ maxPlSize) (block : BlockView)
    (inside : block ∈ content) : block.data.length < 2 ^ 16 := by
  have bound : block.size ≤ (content.map BlockView.size).sum :=
    List.single_le_sum (fun _ _ => Nat.zero_le _) _ (List.mem_map_of_mem inside)
  simp only [BlockView.size, bheaderSize, maxPlSize, maxSize, headerSize] at bound fits
  omega

/-! ## Payloads -/

/-- What the payload parser accepts. -/
theorem parsePayload_ok_iff (bytes : Bytes) (header : Header) :
    parsePayload bytes header = .ok () ↔
      header.len.toNat = bytes.length ∧ header.pCrc = computeCrc bytes ∧
        header.nBlock.toNat = (blocks bytes).length := by
  simp only [parsePayload]
  constructor
  · intro accepted
    split at accepted
    · contradiction
    split at accepted
    · contradiction
    split at accepted
    · contradiction
    rename_i len crc count
    exact ⟨by simpa using len, by simpa using crc, by simpa using count⟩
  · rintro ⟨len, crc, count⟩
    simp [len, crc, count]

namespace Packet

/-! ## The array -/

/-- The array after bytes were stored inside it. -/
theorem store_data (raw : Packet) (offset : Nat) (bytes : Bytes)
    (fits : offset + bytes.length ≤ maxSize) :
    (raw.store offset bytes).data =
      raw.data.take offset ++ bytes ++ raw.data.drop (offset + bytes.length) := by
  have size := raw.size_data
  apply List.take_of_length_le
  simp only [List.length_take, List.length_append, List.length_drop, size]
  omega

/-- The array after a copy of bytes that fit it. -/
theorem overwrite_data (raw : Packet) (bytes : Bytes) (fits : bytes.length ≤ maxSize) :
    (raw.overwrite bytes).data = bytes ++ raw.data.drop bytes.length := by
  rw [overwrite, store_data raw 0 bytes (by omega), List.take_zero, List.nil_append, Nat.zero_add]

/-- Storing right behind bytes copied to the front is copying both. -/
theorem store_overwrite (raw : Packet) (front back : Bytes)
    (fits : (front ++ back).length ≤ maxSize) :
    (raw.overwrite front).store front.length back = raw.overwrite (front ++ back) := by
  have shorter : front.length ≤ maxSize := by
    rw [List.length_append] at fits
    omega
  rw [Packet.mk.injEq, store_data _ _ _ (by rwa [List.length_append] at fits),
    overwrite_data raw front shorter, overwrite_data raw _ fits, List.take_left, List.drop_append,
    List.drop_drop, List.length_append]
  simp

/-- A header copied over the array is the packet's header. -/
theorem overwrite_header (raw : Packet) (header : Header) (back : Bytes)
    (fits : (header.bytes ++ back).length ≤ maxSize) :
    (raw.overwrite (header.bytes ++ back)).header = header := by
  rw [Packet.header, overwrite_data raw _ fits, List.append_assoc, Header.ofBytes_append]

/-- A whole frame copied over the array: the packet is that header and that payload. -/
theorem overwrite_frame (raw : Packet) (header : Header) (body : Bytes)
    (len : header.len.toNat = body.length) (fits : body.length ≤ maxPlSize) :
    let packet := raw.overwrite (header.bytes ++ body)
    packet.header = header ∧ packet.payload = body ∧ packet.bytes = header.bytes ++ body := by
  have whole : (header.bytes ++ body).length ≤ maxSize := by
    simp only [List.length_append, Header.bytes_length, headerSize, maxSize, maxPlSize] at fits ⊢
    omega
  have front := overwrite_header raw header body whole
  have held := overwrite_data raw _ whole
  refine ⟨front, ?_, ?_⟩
  · rw [payload, front, len, held, List.append_assoc, List.drop_left' (Header.bytes_length header),
      List.take_left]
  · rw [bytes, size, front, len, held, Nat.add_comm, List.take_left' (by simp)]

/-! ## The constructor -/

/-- When the constructor returns, and what it returns. -/
theorem ofView_ok_iff (raw : Packet) (view : Bytes) (packet : Packet) :
    ofView raw view = .ok packet ↔
      ∃ pos header, firstOccurrence (le16 sop) view = some pos ∧
        Hdcp.parseHeader ((view.drop pos).take headerSize) = .ok header ∧
        pos + headerSize + header.len.toNat ≤ view.length ∧
        Hdcp.parsePayload ((view.drop (pos + headerSize)).take header.len.toNat) header = .ok () ∧
        packet = raw.overwrite (view.take (headerSize + header.len.toNat)) := by
  constructor
  · intro accepted
    rw [ofView] at accepted
    split at accepted
    · contradiction
    rename_i pos found
    split at accepted
    · contradiction
    cases parsed : Hdcp.parseHeader ((view.drop pos).take headerSize) with
    | error refused => simp [parsed, bind, Except.bind] at accepted
    | ok header =>
      simp only [parsed, bind, Except.bind] at accepted
      split at accepted
      · contradiction
      rename_i inside
      cases checked :
          Hdcp.parsePayload ((view.drop (pos + headerSize)).take header.len.toNat) header with
      | error refused => simp [checked] at accepted
      | ok done =>
        simp only [checked, Except.ok.injEq] at accepted
        exact ⟨pos, header, found, parsed, by omega, checked, accepted.symm⟩
  · rintro ⟨pos, header, found, parsed, inside, checked, rfl⟩
    simp [ofView, found, parsed, checked, Nat.not_lt.mpr inside, bind, Except.bind,
      Nat.not_lt.mpr (show pos + headerSize ≤ view.length by omega)]

/-- Thirteen accepted bytes start with the start-of-packet bytes. -/
theorem parseHeader_sop (bytes : Bytes) (header : Header)
    (accepted : Hdcp.parseHeader bytes = .ok header) : ∃ back, bytes = le16 sop ++ back := by
  obtain ⟨rfl, size, -, start, -⟩ := (parseHeader_ok_iff _ _).mp accepted
  rw [← Header.bytes_ofBytes bytes size, Header.bytes, Header.summed, start]
  exact ⟨_, rfl⟩

/-- A buffer that begins with an accepted header and its payload: the payload decides, and the
packet holds that frame whatever follows it. -/
theorem ofView_frame (raw : Packet) (front body back : Bytes) (header : Header)
    (accepted : Hdcp.parseHeader front = .ok header) (len : header.len.toNat = body.length) :
    ofView raw (front ++ (body ++ back)) =
      (Hdcp.parsePayload body header).map fun _ => raw.overwrite (front ++ body) := by
  have size : front.length = headerSize := ((parseHeader_ok_iff _ _).mp accepted).2.1
  obtain ⟨rest, starts⟩ := parseHeader_sop front header accepted
  have found : firstOccurrence (le16 sop) (front ++ (body ++ back)) = some 0 := by
    rw [starts, List.append_assoc]
    exact firstOccurrence_append _ _
  have copied : (front ++ (body ++ back)).take (headerSize + body.length) = front ++ body := by
    rw [← List.append_assoc, List.take_left' (by simp [size])]
  have inside : ¬ (front ++ (body ++ back)).length < headerSize + body.length := by
    simp only [List.length_append, size]
    omega
  have fits : ¬ (front ++ (body ++ back)).length < headerSize := by
    simp only [List.length_append, size]
    omega
  simp only [ofView, found, List.drop_zero, Nat.zero_add, List.take_left' size,
    List.drop_left' size, accepted, bind, Except.bind, gt_iff_lt, copied, len,
    List.take_left, inside, fits, ↓reduceIte]
  cases Hdcp.parsePayload body header <;> rfl

/-- The part of a payload that a made header's sixteen-bit length field covers. -/
def carried (payload : Bytes) : Bytes := payload.take (UInt16.ofNat payload.length).toNat

/-- The length field of a made header is the length of the covered part. -/
theorem carried_length (payload : Bytes) :
    (carried payload).length = (UInt16.ofNat payload.length).toNat :=
  List.length_take_of_le (Nat.mod_le _ _)

/-- A payload shorter than the field's range is covered whole. -/
theorem carried_of_lt (payload : Bytes) (short : payload.length < 2 ^ 16) :
    carried payload = payload :=
  List.take_of_length_le (Nat.le_of_eq (Nat.mod_eq_of_lt short).symm)

/-- When a maker returns, and the packet it returns: the covered part of the payload must fit a
packet, and the checksum and the block count must be those of that part. -/
theorem build_ok_iff (raw : Packet) (id : UInt16) (type : PacketType) (nBlock : UInt8)
    (payload : Bytes) (packet : Packet) :
    build raw id type nBlock payload = .ok packet ↔
      (carried payload).length ≤ maxPlSize ∧ computeCrc payload = computeCrc (carried payload) ∧
        nBlock.toNat = (Hdcp.blocks (carried payload)).length ∧
        packet = raw.overwrite (makeHeader id type nBlock payload ++ carried payload) := by
  obtain ⟨-, -, hlen, -, -, hcount, hcrc⟩ := madeHeader_fields id type nBlock payload
  have len := carried_length payload
  rw [← hlen] at len
  by_cases fits : (carried payload).length ≤ maxPlSize
  · have accepted :=
      parseHeader_makeHeader id type nBlock payload (by rw [← hlen, ← len]; exact fits)
    have split : payload = carried payload ++ payload.drop (UInt16.ofNat payload.length).toNat :=
      (List.take_append_drop _ _).symm
    have made : build raw id type nBlock payload =
        (Hdcp.parsePayload (carried payload) (madeHeader id type nBlock payload)).map
          fun _ => raw.overwrite (makeHeader id type nBlock payload ++ carried payload) := by
      rw [build, ← ofView_frame raw _ _ _ _ accepted len.symm, ← split]
    have checked := parsePayload_ok_iff (carried payload) (madeHeader id type nBlock payload)
    rw [hcrc, hcount] at checked
    simp only [fits, true_and, made]
    cases outcome : Hdcp.parsePayload (carried payload) (madeHeader id type nBlock payload) with
    | error refused =>
      simp only [outcome, reduceCtorEq, len, true_and, false_iff, not_and, Except.map] at checked ⊢
      intro crc count
      exact absurd count (checked crc)
    | ok done =>
      obtain ⟨-, crc, count⟩ := checked.mp outcome
      simp only [Except.map, Except.ok.injEq]
      exact ⟨fun same => ⟨crc, count, same.symm⟩, fun ⟨_, _, same⟩ => same.symm⟩
  · simp only [fits, false_and, iff_false]
    intro made
    obtain ⟨pos, header, found, parsed, -, -, -⟩ := (ofView_ok_iff _ _ _).mp made
    obtain ⟨back, starts⟩ := makeHeader_sop id type nBlock payload
    rw [starts, List.append_assoc, firstOccurrence_append] at found
    cases found
    rw [List.drop_zero, List.take_left' (makeHeader_length id type nBlock payload),
      parseHeader_makeHeader_error id type nBlock payload (by rw [← hlen, ← len]; omega)] at parsed
    contradiction

/-- The header of a packet a maker returned is the one it filled in. -/
theorem build_header (raw : Packet) (id : UInt16) (type : PacketType) (nBlock : UInt8)
    (payload : Bytes) (packet : Packet) (made : build raw id type nBlock payload = .ok packet) :
    packet.header = madeHeader id type nBlock payload := by
  obtain ⟨fits, -, -, rfl⟩ := (build_ok_iff raw id type nBlock payload packet).mp made
  refine overwrite_header raw _ (carried payload) ?_
  rw [List.length_append, Header.bytes_length]
  simp only [maxPlSize, maxSize, headerSize] at fits ⊢
  omega

/-- The id and the type of a packet a maker returned. -/
theorem build_id_type (raw : Packet) (id : UInt16) (type : PacketType) (nBlock : UInt8)
    (payload : Bytes) (packet : Packet) (made : build raw id type nBlock payload = .ok packet) :
    packet.id = id ∧ packet.type = type.code := by
  have filled := build_header raw id type nBlock payload packet made
  obtain ⟨-, -, -, hid, htype, -, -⟩ := madeHeader_fields id type nBlock payload
  exact ⟨(congrArg Header.id filled).trans hid, (congrArg Header.type filled).trans htype⟩

/-- The data of a command `make_command` accepts: at most 2031 bytes modulo the range of the length
field, and the checksum of what the field covers is that of everything. -/
def CommandFits (type : UInt16) (data : Bytes) : Prop :=
  data.length % 2 ^ 16 ≤ maxPlSize - bheaderSize ∧
    computeCrc (makeBlock ⟨type, data⟩) =
      computeCrc ((makeBlock ⟨type, data⟩).take (data.length % 2 ^ 16 + bheaderSize))

/-- Data within a packet's limit fits. -/
theorem commandFits_of_le (type : UInt16) (data : Bytes)
    (short : data.length ≤ maxPlSize - bheaderSize) : CommandFits type data := by
  have small : data.length % 2 ^ 16 = data.length :=
    Nat.mod_eq_of_lt (Nat.lt_of_le_of_lt short (by decide))
  refine ⟨by rw [small]; exact short, ?_⟩
  rw [small, List.take_of_length_le]
  rw [makeBlock_length]
  exact Nat.le_refl _

/-- `make_command` returns a packet exactly when the data fits. -/
theorem makeCommand_returns_iff (raw : Packet) (id type : UInt16) (data : Bytes) :
    (∃ packet, makeCommand raw id type data = .ok packet) ↔ CommandFits type data := by
  have length : (makeBlock ⟨type, data⟩).length = data.length + bheaderSize := makeBlock_length _
  have covered : (UInt16.ofNat (makeBlock ⟨type, data⟩).length).toNat =
      (data.length + bheaderSize) % 2 ^ 16 := by
    rw [length]
    exact UInt16.toNat_ofNat'
  unfold makeCommand CommandFits
  simp only [build_ok_iff, carried_length, covered, exists_and_left, exists_eq, and_true]
  by_cases near : data.length % 2 ^ 16 < 2 ^ 16 - bheaderSize
  · -- the covered part holds the block header and as many bytes as the block header announces
    have part : (data.length + bheaderSize) % 2 ^ 16 = data.length % 2 ^ 16 + bheaderSize := by
      simp only [bheaderSize] at near ⊢
      omega
    have front : carried (makeBlock ⟨type, data⟩) =
        (makeBlock ⟨type, data⟩).take (data.length % 2 ^ 16 + bheaderSize) := by
      rw [carried, covered, part]
    have size : (data.take (data.length % 2 ^ 16)).length = data.length % 2 ^ 16 :=
      List.length_take_of_le (Nat.mod_le _ _)
    have field : UInt16.ofNat (data.length % 2 ^ 16) = UInt16.ofNat data.length :=
      UInt16.toNat_inj.mp (by rw [UInt16.toNat_ofNat', UInt16.toNat_ofNat', Nat.mod_mod])
    have block : (makeBlock ⟨type, data⟩).take (data.length % 2 ^ 16 + bheaderSize) =
        makeBlock ⟨type, data.take (data.length % 2 ^ 16)⟩ ++ [] := by
      simp only [makeBlock, size, field, le16, List.cons_append, List.nil_append, bheaderSize,
        List.take_succ_cons, List.append_nil]
    have scanned : (Hdcp.blocks (carried (makeBlock ⟨type, data⟩))).length = 1 := by
      have short : data.length % 2 ^ 16 < 2 ^ 16 := Nat.mod_lt _ (by decide)
      rw [front, block, blocks_makeBlock _ _ (by rw [size]; exact short)]
      rfl
    rw [part, scanned, front]
    simp only [maxPlSize, maxSize, headerSize, bheaderSize, UInt8.toNat_one, and_true]
    constructor
    · rintro ⟨fits, crc⟩
      exact ⟨by omega, crc⟩
    · rintro ⟨fits, crc⟩
      exact ⟨by omega, crc⟩
  · -- the covered part is too short for a block header
    have none : Hdcp.blocks (carried (makeBlock ⟨type, data⟩)) = [] := by
      apply blocks_of_short
      rw [carried_length, covered]
      simp only [bheaderSize] at near ⊢
      omega
    have large : ¬ data.length % 2 ^ 16 ≤ maxPlSize - bheaderSize := by
      simp only [maxPlSize, maxSize, headerSize, bheaderSize] at near ⊢
      omega
    rw [none]
    constructor
    · rintro ⟨-, -, count⟩
      contradiction
    · rintro ⟨fits, -⟩
      exact absurd fits large

end Packet

end Hdcp
