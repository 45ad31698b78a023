import Hdcp.Packet.Canonical
import Hdcp.Packet.Reads

/-!
# The block scan as a decomposition

A byte string is encoded blocks and a rest that begins with no complete block. Among blocks whose
length fits the length field there is one such decomposition, and the scan returns it: it goes on
behind encoded blocks as it would from the start. A longer block is encoded with a truncated
length field, so it has a second decomposition, which the scan returns instead.
-/

namespace Hdcp

open Base

/-- Some bytes begin with a complete block: its header, and as many bytes as it announces. -/
def BeginsWithBlock (bytes : Bytes) : Prop :=
  bheaderSize ≤ bytes.length ∧ (wordAt bytes 2).toNat ≤ bytes.length - bheaderSize

/-- Some bytes are encoded blocks and a rest that begins with no complete block. -/
structure Splits (bytes : Bytes) (content : List BlockView) (rest : Bytes) : Prop where
  /-- The blocks, one after another, then the rest. -/
  whole : bytes = content.flatMap makeBlock ++ rest
  /-- The rest begins with no complete block. -/
  stopped : ¬ BeginsWithBlock rest

/-- Every block has at most 65535 bytes of data. -/
def AllFit (content : List BlockView) : Prop :=
  ∀ block ∈ content, block.data.length ≤ 65535

/-- What the scan leaves begins with no complete block. -/
theorem Decomposes.not_beginsWithBlock {bytes : Bytes} {content : List BlockView}
    (decomposes : Decomposes bytes content) (none : content = []) : ¬ BeginsWithBlock bytes := by
  cases decomposes with
  | short short =>
    intro begins
    exact absurd begins.1 (Nat.not_le.mpr short)
  | @cut type len rest cut =>
    intro begins
    have field : wordAt (le16 type ++ le16 len ++ rest) 2 = len := word16_le16 len
    have size : (le16 type ++ le16 len ++ rest).length - bheaderSize = rest.length := by
      rw [List.length_append, List.length_append, le16_length, le16_length, bheaderSize]
      omega
    have announced := begins.2
    rw [field, size] at announced
    omega
  | block whole later => exact absurd none (List.cons_ne_nil _ _)

/-- The scan finds nothing in bytes that begin with no complete block. -/
theorem blocks_of_not_beginsWithBlock (bytes : Bytes) (stopped : ¬ BeginsWithBlock bytes) :
    blocks bytes = [] := by
  by_cases long : bheaderSize ≤ bytes.length
  · have announced : ¬ (wordAt bytes 2).toNat ≤ bytes.length - bheaderSize :=
      fun fits => stopped ⟨long, fits⟩
    rw [blocks_step bytes long]
    exact if_pos (by omega)
  · exact blocks_of_short bytes (Nat.lt_of_not_le long)

/-- The blocks found have lengths that fit the field they were read from. -/
theorem Decomposes.allFit {bytes : Bytes} {content : List BlockView}
    (decomposes : Decomposes bytes content) : AllFit content := by
  induction decomposes with
  | short => exact fun block inside => absurd inside List.not_mem_nil
  | cut => exact fun block inside => absurd inside List.not_mem_nil
  | @block type len data rest content whole later ih =>
    intro block inside
    rcases List.mem_cons.mp inside with first | behind
    · have bound := len.toNat_lt
      have same : block.data = data := by rw [first]
      rw [same]
      omega
    · exact ih block behind

/-- The scan goes on behind encoded blocks as it would from the start. -/
theorem blocks_flatMap_append (content : List BlockView) (fits : AllFit content) (back : Bytes) :
    blocks (content.flatMap makeBlock ++ back) = content ++ blocks back := by
  induction content with
  | nil => rfl
  | cons block content ih =>
    have first : block.data.length < 2 ^ 16 := by
      have bound := fits block List.mem_cons_self
      omega
    have later : AllFit content := fun other inside =>
      fits other (List.mem_cons_of_mem block inside)
    rw [List.flatMap_cons, List.append_assoc, blocks_makeBlock block _ first, ih later,
      List.cons_append]

/-- The blocks found, encoded, and what the scan leaves are the bytes. -/
theorem splits_blocks (bytes : Bytes) : ∃ rest, Splits bytes (blocks bytes) rest := by
  obtain ⟨rest, whole, left⟩ := (decomposes_blocks bytes).eq_append
  exact ⟨rest, whole, left.not_beginsWithBlock rfl⟩

/-- Blocks that fit and split the bytes are the blocks the scan finds. -/
theorem Splits.eq_blocks {bytes rest : Bytes} {content : List BlockView}
    (splits : Splits bytes content rest) (fits : AllFit content) : content = blocks bytes := by
  rw [splits.whole, blocks_flatMap_append content fits,
    blocks_of_not_beginsWithBlock rest splits.stopped, List.append_nil]

/-- The scan ends, reads inside the bytes, and returns the one list of blocks of at most 65535
bytes that, encoded and followed by a rest that begins with no complete block, is the bytes; so it
goes on behind encoded blocks as it would from the start. -/
theorem blocks_exact (bytes : Bytes) :
    (∃ spans, blockSpans bytes bytes.length (bytes.length + 1) 0 = .ok spans ∧
        spans.map (BlockSpan.block bytes) = blocks bytes) ∧
      AllFit (blocks bytes) ∧
      (∃ rest, Splits bytes (blocks bytes) rest) ∧
      (∀ content rest, AllFit content → Splits bytes content rest → content = blocks bytes) ∧
      ∀ content, AllFit content →
        blocks (content.flatMap makeBlock ++ bytes) = content ++ blocks bytes := by
  refine ⟨?_, (decomposes_blocks bytes).allFit, splits_blocks bytes, ?_, ?_⟩
  · have found := blockSpans_eq bytes bytes.length (bytes.length + 1) 0 (Nat.le_refl _)
      (Nat.zero_le _) (by omega)
    rwa [Nat.sub_zero, List.drop_zero, List.take_length] at found
  · exact fun content rest fits splits => splits.eq_blocks fits
  · exact fun content fits => blocks_flatMap_append content fits bytes

/-- A block of 65536 bytes is encoded with a length field of zero: encoded alone it splits its
bytes, and the scan returns other blocks. -/
theorem splits_not_unique :
    ¬ ∀ bytes content rest, Splits bytes content rest → content = blocks bytes := by
  intro unique
  let block : BlockView := ⟨0, List.replicate 65536 0⟩
  have splits : Splits ([block].flatMap makeBlock ++ []) [block] [] :=
    ⟨rfl, fun begins => absurd begins.1 (by decide)⟩
  have same := unique _ _ _ splits
  have field : (UInt16.ofNat block.data.length).toNat = 0 := by
    rw [List.length_replicate]
    rfl
  rw [List.flatMap_cons, List.flatMap_nil, List.append_assoc, blocks_makeBlock_append] at same
  simp only [field, List.take_zero] at same
  have first := (List.cons.inj same).1
  have empty : block.data = [] := congrArg BlockView.data first
  have size : block.data.length = 65536 := List.length_replicate
  rw [empty] at size
  exact absurd size (by decide)

end Hdcp
