import Hdcp.Packet.RoundTrip

/-!
# Packets parsed behind leading bytes

The constructor searches for the start of packet, validates the frame that begins there, and
copies from the front of the buffer. The packet is the frame that was validated exactly when the
two positions coincide: after any leading byte the first two bytes copied are not the
start-of-packet bytes the search stopped at.
-/

namespace Hdcp

open Base

namespace Packet

/-- Two packets that show the same id, type, block count and blocks. -/
def SameContent (left right : Packet) : Prop :=
  left.id = right.id ∧ left.type = right.type ∧ left.nbBlock = right.nbBlock ∧
    left.blocks = right.blocks

/-- The packet constructed from a buffer is the frame that begins at the first start of packet:
its bytes are that frame's, and dropping the bytes before the frame changes nothing it shows. -/
def FrameHeld (raw : Packet) (view : Bytes) (packet : Packet) : Prop :=
  ∀ pos, firstOccurrence (le16 sop) view = some pos →
    let len := (Header.ofBytes (view.drop pos)).len.toNat
    packet.data.take (headerSize + len) = (view.drop pos).take (headerSize + len) ∧
      ∀ front back, view = front ++ back → pos = front.length →
        ∃ other, ofView raw back = .ok other ∧ SameContent packet other

/-- An accepted buffer that begins with its start of packet, taken apart. -/
theorem ofView_at_front (raw : Packet) (view : Bytes) (packet : Packet)
    (accepted : ofView raw view = .ok packet)
    (front : firstOccurrence (le16 sop) view = some 0) :
    ∃ (header : Header) (body back : Bytes), view = header.bytes ++ (body ++ back) ∧
      Hdcp.parseHeader header.bytes = .ok header ∧ Hdcp.parsePayload body header = .ok () ∧
      header.len.toNat = body.length ∧ body.length ≤ maxPlSize ∧
        packet = raw.overwrite (header.bytes ++ body) := by
  obtain ⟨pos, header, found, parsed, inside, checked, copied⟩ :=
    (ofView_ok_iff raw view packet).mp accepted
  rw [front] at found
  cases found
  rw [List.drop_zero] at parsed
  rw [Nat.zero_add] at checked inside
  obtain ⟨same, size, -, -, -, -, small⟩ := (parseHeader_ok_iff _ _).mp parsed
  have bytes : header.bytes = view.take headerSize := by rw [same, Header.bytes_ofBytes _ size]
  have len := ((parsePayload_ok_iff _ _).mp checked).1
  refine ⟨header, (view.drop headerSize).take header.len.toNat,
    (view.drop headerSize).drop header.len.toNat, ?_, by rwa [bytes], checked, len, ?_, ?_⟩
  · rw [List.take_append_drop, bytes, List.take_append_drop]
  · rw [← len]
    exact small
  · rw [copied, bytes, List.take_add]

/-- The first two bytes of the packet are the first two of the buffer, so a packet that holds the
frame found was parsed from a buffer with nothing before it. -/
theorem frameHeld_front (raw raw' : Packet) (view : Bytes) (packet : Packet)
    (accepted : ofView raw view = .ok packet) (held : FrameHeld raw' view packet) :
    firstOccurrence (le16 sop) view = some 0 := by
  obtain ⟨pos, header, found, parsed, inside, checked, rfl⟩ :=
    (ofView_ok_iff raw view packet).mp accepted
  obtain ⟨same, -, -, -, -, -, small⟩ := (parseHeader_ok_iff _ _).mp parsed
  rw [Header.ofBytes_take _ _ (Nat.le_refl _)] at same
  have bound : (view.take (headerSize + header.len.toNat)).length =
      headerSize + header.len.toNat := List.length_take_of_le (by omega)
  have copied := overwrite_data raw (view.take (headerSize + header.len.toNat))
    (by rw [bound]; simp only [headerSize, maxPlSize, maxSize] at small ⊢; omega)
  have frame := (held pos found).1
  rw [← same, copied, List.take_left' bound] at frame
  obtain ⟨-, stands, first⟩ := (firstOccurrence_eq_some_iff _ _ _).mp found
  have long : (le16 sop).length ≤ headerSize + header.len.toNat := by
    simp only [le16_length, headerSize]
    omega
  -- the frame's start of packet is among the bytes copied, so it stands at the front too
  have standsFront : le16 sop <+: view.take (headerSize + header.len.toNat) := by
    rw [frame]
    exact List.prefix_take_iff.mpr ⟨stands, long⟩
  have atFront : le16 sop <+: view.drop 0 := standsFront.trans (List.take_prefix _ _)
  cases pos with
  | zero => exact found
  | succ pos => exact absurd atFront (first 0 (by omega))

/-- The packet constructed from an accepted buffer is the frame that was validated if and only if
the buffer begins with that frame's start of packet. -/
theorem frameHeld_iff (raw raw' : Packet) (view : Bytes) (packet : Packet)
    (accepted : ofView raw view = .ok packet) :
    FrameHeld raw' view packet ↔ firstOccurrence (le16 sop) view = some 0 := by
  constructor
  · exact frameHeld_front raw raw' view packet accepted
  · intro front pos found
    rw [front] at found
    cases found
    obtain ⟨header, body, back, rfl, parsed, checked, len, small, rfl⟩ :=
      ofView_at_front raw view packet accepted front
    have whole : (header.bytes ++ body).length ≤ maxSize := by
      simp only [List.length_append, Header.bytes_length, headerSize, maxPlSize, maxSize] at small ⊢
      omega
    have size : headerSize + body.length = (header.bytes ++ body).length := by simp
    rw [List.drop_zero, Header.ofBytes_append, len]
    refine ⟨?_, ?_⟩
    · rw [overwrite_data raw _ whole, size, List.take_left, ← List.append_assoc, List.take_left]
    · intro before after split none
      obtain rfl := List.length_eq_zero_iff.mp none.symm
      obtain rfl : header.bytes ++ (body ++ back) = after := split
      refine ⟨raw'.overwrite (header.bytes ++ body), ?_, ?_⟩
      · rw [ofView_frame raw' _ _ _ _ parsed len, checked]
        rfl
      · obtain ⟨head, body₁, -⟩ := overwrite_frame raw header body len small
        obtain ⟨head', body₂, -⟩ := overwrite_frame raw' header body len small
        simp only [SameContent, id, type, nbBlock, blocks, head, head', body₁, body₂, and_self]

/-- A keepalive that begins its buffer is the packet parsed from it. -/
theorem frameHeld_iff_keepalive :
    FrameHeld cleared (makeHeader 15 .ka 0 [])
      (cleared.overwrite (makeHeader 15 .ka 0 [])) :=
  (frameHeld_iff cleared cleared (makeHeader 15 .ka 0 []) _
    (build_of_fits cleared 15 .ka 0 [] (by decide) rfl)).mpr (by decide)

/-- One zero byte in front of a keepalive: the constructor accepts the buffer and keeps other
bytes than the frame it validated. -/
theorem noise_not_frameHeld :
    ¬ ∀ raw view packet, ofView raw view = .ok packet → FrameHeld raw view packet := by
  intro always
  have accepted : ofView cleared (0 :: makeHeader 15 .ka 0 []) =
      .ok (cleared.overwrite ((0 :: makeHeader 15 .ka 0 []).take headerSize)) :=
    (ofView_ok_iff _ _ _).mpr
      ⟨1, madeHeader 15 .ka 0 [], by decide, by decide, by decide, by decide, rfl⟩
  have front := frameHeld_front _ _ _ _ accepted (always _ _ _ accepted)
  revert front
  decide

end Packet

end Hdcp
