import Hdcp.Packet.Acceptance

/-!
# What is behind the last block

The block scan stops quietly at bytes that begin no complete block, and the parser counts only
what the scan found. An accepted payload is therefore its blocks and a rest the scan stopped at:
fewer bytes than a block header, or one that announces more bytes than follow it. Blocks and rest
encoded again, behind the header made for them, are the bytes received.
-/

namespace Hdcp

open Base

/-- The stream path accepts a header and a payload: the one is parsed on its own, then as many
bytes as it announces. -/
structure Accepted (front body : Bytes) (header : Header) : Prop where
  /-- The header is accepted. -/
  front : parseHeader front = .ok header
  /-- As many bytes are taken as it announces. -/
  taken : body.length = header.len.toNat
  /-- They are accepted. -/
  body : parsePayload body header = .ok ()

/-- Some bytes are complete blocks, encoded one after another, and a rest that begins none. -/
theorem Decomposes.eq_append {bytes : Bytes} {content : List BlockView}
    (decomposes : Decomposes bytes content) :
    ∃ rest, bytes = content.flatMap makeBlock ++ rest ∧ Decomposes rest [] := by
  induction decomposes with
  | @short bytes short => exact ⟨bytes, rfl, .short short⟩
  | @cut type len rest cut => exact ⟨_, rfl, .cut cut⟩
  | @block type len data rest content whole later ih =>
    obtain ⟨last, behind, stopped⟩ := ih
    have field : UInt16.ofNat data.length = len := by
      rw [whole]
      exact UInt16.ofNat_toNat
    have encoded : makeBlock ⟨type, data⟩ = le16 type ++ le16 len ++ data := by
      rw [makeBlock, field]
    refine ⟨last, ?_, stopped⟩
    rw [List.flatMap_cons, encoded, behind]
    simp only [List.append_assoc]

/-- A made header is determined by its payload and the three values given. -/
theorem eq_madeHeader {header : Header} {type : PacketType} {payload : Bytes}
    (start : header.sop = sop) (version : header.ver = ver) (code : header.type = type.code)
    (len : header.len.toNat = payload.length) (checksum : header.pCrc = computeCrc payload)
    (own : header.hCrc = computeCrc header.summed) :
    header = madeHeader header.id type header.nBlock payload := by
  obtain ⟨hsop, hver, hlen, hid, htype, hcount, hcrc⟩ :=
    madeHeader_fields header.id type header.nBlock payload
  have field : UInt16.ofNat payload.length = header.len := by
    rw [← len]
    exact UInt16.ofNat_toNat
  have summed : (madeHeader header.id type header.nBlock payload).summed = header.summed := by
    rw [Header.summed, Header.summed, hsop, hver, hlen, hid, htype, hcount, hcrc, start, version,
      code, field, checksum]
  have last := madeHeader_hCrc header.id type header.nBlock payload
  rw [summed, ← own] at last
  rw [Header.mk.injEq, hsop, hver, hlen, hid, htype, hcount, hcrc, last]
  exact ⟨start, version, field.symm, rfl, code, rfl, checksum, rfl⟩

/-- A packet accepted by the stream path is its header, its blocks, and a rest that begins no
complete block; encoded again with this rest it is the bytes received. -/
theorem accepted_reencodes (front body : Bytes) (header : Header)
    (accepted : Accepted front body header) :
    ∃ type rest, header.type = PacketType.code type ∧ Decomposes rest [] ∧
      body = (blocks body).flatMap makeBlock ++ rest ∧
      front ++ body =
        makeHeader header.id type (UInt8.ofNat (blocks body).length)
            ((blocks body).flatMap makeBlock ++ rest) ++
          ((blocks body).flatMap makeBlock ++ rest) ∧
      (body = (blocks body).flatMap makeBlock ↔ rest = []) := by
  obtain ⟨same, size, own, start, version, known, -⟩ :=
    (parseHeader_ok_iff _ _).mp accepted.front
  obtain ⟨len, checksum, count⟩ := (parsePayload_ok_iff _ _).mp accepted.body
  obtain ⟨type, code⟩ := (PacketType.ofCode_isSome_iff _).mp known
  obtain ⟨rest, split, stopped⟩ := (decomposes_blocks body).eq_append
  have bytes : header.bytes = front := by rw [same, Header.bytes_ofBytes front size]
  have announced : UInt8.ofNat (blocks body).length = header.nBlock := by
    rw [← count]
    exact UInt8.ofNat_toNat
  rw [← bytes, Header.bytes_take] at own
  have made := eq_madeHeader start version code len checksum own.symm
  refine ⟨type, rest, code, stopped, split, ?_, ?_⟩
  · rw [← split, announced, makeHeader, ← made, bytes]
  · constructor
    · intro whole
      have lengths := congrArg List.length split
      rw [List.length_append, ← whole] at lengths
      exact List.length_eq_zero_iff.mp (by omega)
    · intro none
      rw [none, List.append_nil] at split
      exact split

/-- A command header followed by the one byte it announces, in no block. -/
theorem accepted_oneByte :
    Accepted (makeHeader 1 .cmd 0 [0]) [0] (madeHeader 1 .cmd 0 [0]) where
  front := by decide
  taken := by decide
  body := by decide

/-- The packet of one byte that belongs to no block, encoded again with that byte. -/
theorem accepted_reencodes_oneByte :
    ∃ type rest, (madeHeader 1 .cmd 0 [0]).type = PacketType.code type ∧ Decomposes rest [] ∧
      ([0] : Bytes) = (blocks [0]).flatMap makeBlock ++ rest ∧
      makeHeader 1 .cmd 0 [0] ++ [0] =
        makeHeader (madeHeader 1 .cmd 0 [0]).id type (UInt8.ofNat (blocks [0]).length)
            ((blocks [0]).flatMap makeBlock ++ rest) ++
          ((blocks [0]).flatMap makeBlock ++ rest) ∧
      (([0] : Bytes) = (blocks [0]).flatMap makeBlock ↔ rest = []) :=
  accepted_reencodes _ _ _ accepted_oneByte

/-- That byte is accepted and is not an encoding of the blocks. -/
theorem accepted_not_canonical :
    ¬ ∀ front body header, Accepted front body header →
      body = (blocks body).flatMap makeBlock := by
  intro always
  have whole := always _ _ _ accepted_oneByte
  revert whole
  decide

end Hdcp
