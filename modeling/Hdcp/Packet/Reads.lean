import Hdcp.Base.Memory
import Hdcp.Packet.Codec

/-!
# What the buffer constructor reads

The constructor works on pointers: a search, a view of the header, a view of the payload whose size
is a field it just read, an iterator that steps over blocks by lengths it just read, a copy. Here
every view is read from a memory that has an end. Read from the buffer alone, the constructor never
leaves it, ends, and returns what the constructor on byte strings returns; and that is a packet
exactly when a frame begins at the first start of packet.
-/

namespace Hdcp

open Base

/-- `std::string_view` of a block inside a payload: its type and where its bytes are. -/
structure BlockSpan where
  /-- Block type. -/
  type : UInt16
  /-- Offset of the block's bytes. -/
  offset : Nat
  /-- Number of the block's bytes. -/
  size : Nat

/-- The block a span is, in a memory. -/
def BlockSpan.block (memory : Bytes) (span : BlockSpan) : BlockView :=
  ⟨span.type, (memory.drop span.offset).take span.size⟩

/-- The loop of `Packet::blocks(std::string_view)`, from an iterator to the end of the view. -/
def blockSpans (memory : Bytes) (last : Nat) :
    Nat → Nat → Except (Stop PacketError) (List BlockSpan)
  | 0, _ => .error .endless
  | fuel + 1, it =>
    if it + bheaderSize ≤ last then do
      let header ← readView memory it bheaderSize
      let len := (wordAt header 2).toNat
      if it + bheaderSize + len > last then .ok []
      else do
        let rest ← blockSpans memory last fuel (it + bheaderSize + len)
        .ok (⟨wordAt header 0, it + bheaderSize, len⟩ :: rest)
    else .ok []

/-- `Packet::parse_payload(std::string_view, const Header*)`, on a view. -/
def parsePayloadView (memory : Bytes) (offset size : Nat) (header : Header) :
    Except (Stop PacketError) Unit :=
  if header.len.toNat ≠ size then
    .error (.thrown ⟨.invalidBufferSize, some (sizesDiffer size header.len.toNat)⟩)
  else do
    let bytes ← readView memory offset size
    if header.pCrc ≠ computeCrc bytes then .error (.thrown ⟨.invalidPayloadCrc, none⟩)
    else do
      let spans ← blockSpans memory (offset + size) (size + 1) offset
      if header.nBlock.toNat ≠ spans.length then
        .error (.thrown ⟨.invalidNumberOfBlock,
          some (toString spans.length ++ " should be " ++ toString header.nBlock.toNat)⟩)
      else .ok ()

namespace Packet

/-- `std::copy` from the front of the memory to the front of the array. -/
def copyFront (raw : Packet) (memory : Bytes) (count : Nat) : Except (Stop PacketError) Packet := do
  let bytes ← readView memory 0 count
  if count ≤ maxSize then .ok (raw.overwrite bytes) else .error .storedOutside

/-- `Packet::Packet(std::string_view)`, on a view of `size` bytes from the front of a memory. -/
def ofMemory (raw : Packet) (memory : Bytes) (size : Nat) : Except (Stop PacketError) Packet := do
  match ← findFrom memory (le16 sop) size (size + 1) 0 with
  | none => .error (.thrown ⟨.sopNotFound, none⟩)
  | some pos =>
    if pos + headerSize > size then .error (.thrown ⟨.invalidBufferSize, none⟩)
    else do
      let bytes ← readView memory pos headerSize
      let header ← raised (Hdcp.parseHeader bytes)
      if pos + headerSize + header.len.toNat > size then
        .error (.thrown ⟨.invalidBufferSize, none⟩)
      else do
        parsePayloadView memory (pos + headerSize) header.len.toNat header
        raw.copyFront memory (headerSize + header.len.toNat)

end Packet

/-! ## Inside the buffer -/

/-- The scan of bytes that begin with a block header, by what stands at its two fields. -/
theorem blocks_step (bytes : Bytes) (long : bheaderSize ≤ bytes.length) :
    blocks bytes =
      let len := (wordAt bytes 2).toNat
      if bytes.length < bheaderSize + len then []
      else ⟨wordAt bytes 0, (bytes.drop bheaderSize).take len⟩ ::
        blocks (bytes.drop (bheaderSize + len)) := by
  match bytes, long with
  | t0 :: t1 :: l0 :: l1 :: rest, _ =>
    have field : wordAt (t0 :: t1 :: l0 :: l1 :: rest) 2 = word16 l0 l1 := rfl
    have named : wordAt (t0 :: t1 :: l0 :: l1 :: rest) 0 = word16 t0 t1 := rfl
    have size : (t0 :: t1 :: l0 :: l1 :: rest).length = bheaderSize + rest.length := by
      simp only [List.length_cons, bheaderSize]
      omega
    have behind (count : Nat) :
        (t0 :: t1 :: l0 :: l1 :: rest).drop (bheaderSize + count) = rest.drop count := by
      rw [← List.drop_drop]
      rfl
    have after : (t0 :: t1 :: l0 :: l1 :: rest).drop bheaderSize = rest := rfl
    simp only [blocks_cons, field, named, size, behind, after, gt_iff_lt, Nat.add_lt_add_iff_left]

/-- The block loop stays inside a view that is inside the memory, ends, and finds the blocks. -/
theorem blockSpans_eq (memory : Bytes) (last fuel it : Nat) (inside : last ≤ memory.length)
    (start : it ≤ last) (enough : last < fuel + it) :
    ∃ spans, blockSpans memory last fuel it = .ok spans ∧
      spans.map (BlockSpan.block memory) = blocks ((memory.drop it).take (last - it)) := by
  induction fuel generalizing it with
  | zero => omega
  | succ fuel ih =>
    have left : ((memory.drop it).take (last - it)).length = last - it := by
      rw [List.length_take, List.length_drop]
      omega
    by_cases room : it + bheaderSize ≤ last
    · have seen (offset : Nat) (low : offset + 1 < bheaderSize) :
          wordAt ((memory.drop it).take bheaderSize) offset =
            wordAt ((memory.drop it).take (last - it)) offset := by
        rw [wordAt_take _ _ _ low, wordAt_take _ _ _ (by omega)]
      rw [blockSpans, if_pos room, readView_inside memory it bheaderSize (by omega)]
      simp only [bind, Except.bind]
      rw [seen 0 (by decide), seen 2 (by decide), blocks_step _ (by omega), left]
      generalize field : (wordAt ((memory.drop it).take (last - it)) 2).toNat = len
      by_cases whole : it + bheaderSize + len ≤ last
      · obtain ⟨spans, found, same⟩ := ih (it + bheaderSize + len) whole (by
          simp only [bheaderSize]
          omega)
        have data : ((memory.drop it).take (last - it)).drop bheaderSize =
            (memory.drop (it + bheaderSize)).take (last - (it + bheaderSize)) := by
          rw [List.drop_take, List.drop_drop, Nat.sub_sub]
        have rest : ((memory.drop it).take (last - it)).drop (bheaderSize + len) =
            (memory.drop (it + bheaderSize + len)).take (last - (it + bheaderSize + len)) := by
          rw [List.drop_take, List.drop_drop, Nat.sub_sub, Nat.add_assoc]
        rw [if_neg (Nat.not_lt.mpr whole), found, if_neg (by omega)]
        refine ⟨_, rfl, ?_⟩
        rw [List.map_cons, same, rest, data, List.take_take, Nat.min_eq_left (by omega)]
        rfl
      · rw [if_pos (Nat.lt_of_not_le whole), if_pos (by omega)]
        exact ⟨[], rfl, rfl⟩
    · refine ⟨[], if_neg room, ?_⟩
      rw [blocks_of_short _ (by rw [left]; omega)]
      rfl

/-- A payload view inside the memory is read inside it, and parsed as its bytes are. -/
theorem parsePayloadView_eq (memory : Bytes) (offset : Nat) (header : Header)
    (inside : offset + header.len.toNat ≤ memory.length) :
    parsePayloadView memory offset header.len.toNat header =
      raised (parsePayload ((memory.drop offset).take header.len.toNat) header) := by
  have size : ((memory.drop offset).take header.len.toNat).length = header.len.toNat := by
    rw [List.length_take, List.length_drop]
    omega
  obtain ⟨spans, found, same⟩ := blockSpans_eq memory (offset + header.len.toNat)
    (header.len.toNat + 1) offset inside (Nat.le_add_right _ _) (by omega)
  rw [Nat.add_sub_cancel_left] at same
  have count : spans.length = (blocks ((memory.drop offset).take header.len.toNat)).length := by
    rw [← same, List.length_map]
  rw [parsePayloadView, parsePayload, if_neg (not_not.mpr rfl), if_neg (not_not.mpr size.symm),
    readView_inside memory offset _ inside]
  simp only [bind, Except.bind, found, count]
  split
  · rfl
  · split <;> rfl

namespace Packet

/-- Read from the buffer alone, the constructor does what it does on byte strings: it reads inside
the buffer, stores inside the array, and ends. -/
theorem ofMemory_eq (raw : Packet) (view : Bytes) :
    ofMemory raw view view.length = raised (ofView raw view) := by
  have searched := findFrom_eq (ε := PacketError) view (le16 sop) (view.length + 1) 0
    (Nat.zero_le _) (by omega) (by decide)
  rw [ofMemory, searched, ofView, List.drop_zero]
  cases found : firstOccurrence (le16 sop) view with
  | none => rfl
  | some pos =>
    simp only [Option.map_some, Nat.add_zero, bind, Except.bind]
    by_cases short : pos + headerSize > view.length
    · rw [if_pos short, if_pos short]
      rfl
    · rw [if_neg short, if_neg short, readView_inside view pos headerSize (by omega)]
      cases parsed : Hdcp.parseHeader ((view.drop pos).take headerSize) with
      | error refused => simp only [parsed, raised, Except.mapError]
      | ok header =>
        obtain ⟨-, -, -, -, -, -, small⟩ := (parseHeader_ok_iff _ _).mp parsed
        simp only [parsed, raised, Except.mapError]
        by_cases long : pos + headerSize + header.len.toNat > view.length
        · rw [if_pos long, if_pos long]
        · have fits : headerSize + header.len.toNat ≤ maxSize := by
            simp only [maxPlSize, maxSize, headerSize] at small ⊢
            omega
          rw [if_neg long, if_neg long, parsePayloadView_eq view _ header (by omega)]
          cases Hdcp.parsePayload ((view.drop (pos + headerSize)).take header.len.toNat) header with
          | error refused => rfl
          | ok done =>
            simp only [raised, Except.mapError]
            rw [copyFront, readView_inside view 0 _ (by omega)]
            simp only [bind, Except.bind, if_pos fits, List.drop_zero]

end Packet

end Hdcp
