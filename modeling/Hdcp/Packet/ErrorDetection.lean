import Hdcp.Base.Checksum
import Hdcp.Packet.Acceptance
import Hdcp.Packet.RoundTrip

/-!
# Errors the format detects

The checksum is a pair of running sums, and a change of two adjacent summed bytes changes it. The
header's own checksum stands behind the bytes it sums: a change that touches both reaches the last
summed byte and the low half of the checksum, whose high half is a plain sum and still tells. A
change across the boundary of header and payload is one of the header's last byte. So the length
field is never used before the header that holds it is known to be intact.
-/

namespace Hdcp

open Base

/-! ## The two sums -/

/-- The two running sums of some bytes. -/
def sums (bytes : Bytes) : UInt8 × UInt8 := bytes.foldl crcStep (0, 0)

/-- The running sums lose no difference and make one of every two changed bytes. -/
theorem sensitive_crcStep : Sensitive crcStep where
  state := by
    rintro byte ⟨a, b⟩ ⟨a', b'⟩ same
    simp only [crcStep, Prod.mk.injEq, UInt8.add_left_inj] at same ⊢
    obtain ⟨rfl, low⟩ := same
    exact ⟨rfl, (UInt8.add_left_inj _).mp low⟩
  pair := by
    rintro ⟨a, b⟩ x y x' y' same
    simp only [crcStep, Prod.mk.injEq] at same
    obtain ⟨high, low⟩ := same
    rw [high, UInt8.add_left_inj, UInt8.add_right_inj, UInt8.add_right_inj] at low
    subst low
    exact ⟨rfl, (UInt8.add_right_inj _).mp high⟩

/-- The two sums joined are the word of their two bytes. -/
theorem joined_eq_word16 (high low : UInt8) :
    high.toUInt16 <<< 8 ||| low.toUInt16 = word16 low high := by
  have highBound := high.toNat_lt
  have lowBound := low.toNat_lt
  have shift : (8 : UInt16).toNat % 16 = 8 := rfl
  apply UInt16.toNat_inj.mp
  simp only [word16, UInt16.toNat_or, UInt16.toNat_shiftLeft, UInt8.toNat_toUInt16,
    UInt16.toNat_ofNat']
  rw [shift, Nat.shiftLeft_eq, Nat.mod_eq_of_lt (by omega), Nat.mod_eq_of_lt (by omega),
    Nat.mul_comm, Nat.add_comm]
  exact (Nat.two_pow_add_eq_or_of_lt lowBound high.toNat).symm

/-- A checksum as it stands in a header: the sum of sums, then the sum. -/
theorem le16_computeCrc (bytes : Bytes) :
    le16 (computeCrc bytes) = [(sums bytes).2, (sums bytes).1] := by
  have joined : computeCrc bytes = word16 (sums bytes).2 (sums bytes).1 :=
    joined_eq_word16 (sums bytes).1 (sums bytes).2
  rw [joined, le16_word16]

/-- One more byte is added to the plain sum. -/
theorem sums_concat (bytes : Bytes) (byte : UInt8) :
    (sums (bytes ++ [byte])).1 = (sums bytes).1 + byte := by
  rw [sums, List.foldl_append]
  rfl

/-- Bytes of one checksum that differ at most in two neighbours do not differ. -/
theorem eq_of_computeCrc_eq {position : Nat} {left right : Bytes}
    (near : Near position left right) (same : computeCrc right = computeCrc left) :
    right = left := by
  have halves := congrArg le16 same
  rw [le16_computeCrc, le16_computeCrc] at halves
  simp only [List.cons.injEq, and_true] at halves
  exact sensitive_crcStep.eq_of_foldl_eq near (Prod.ext halves.2 halves.1)

/-! ## Headers -/

/-- An accepted header is eleven bytes and their checksum. -/
theorem parseHeader_bytes {bytes : Bytes} {header : Header}
    (accepted : parseHeader bytes = .ok header) :
    bytes = bytes.take (headerSize - 2) ++ le16 (computeCrc (bytes.take (headerSize - 2))) := by
  obtain ⟨rfl, size, checksum, -⟩ := (parseHeader_ok_iff _ _).mp accepted
  have whole := Header.bytes_ofBytes bytes size
  have summed : bytes.take (headerSize - 2) = (Header.ofBytes bytes).summed := by
    rw [← Header.bytes_take, whole]
  rw [checksum, summed]
  exact whole.symm

/-- Eleven bytes end in one. -/
theorem take_eleven {bytes : Bytes} (size : (bytes.take (headerSize - 2)).length = 11) :
    ∃ last, bytes.take (headerSize - 2) = bytes.take 10 ++ [last] := by
  cases found : bytes[10]? with
  | none =>
    have short := List.getElem?_eq_none_iff.mp found
    rw [List.length_take] at size
    omega
  | some last =>
    have split : bytes.take (10 + 1) = bytes.take 10 ++ bytes[10]?.toList := List.take_add_one
    rw [found] at split
    exact ⟨last, split⟩

/-- Two accepted headers that differ at most in two neighbours do not differ. -/
theorem header_unchanged {position : Nat} {bytes bytes' : Bytes} {header header' : Header}
    (near : Near position bytes bytes') (accepted : parseHeader bytes = .ok header)
    (accepted' : parseHeader bytes' = .ok header') : bytes' = bytes := by
  have stands := parseHeader_bytes accepted
  have stands' := parseHeader_bytes accepted'
  rw [le16_computeCrc] at stands stands'
  have size : (bytes.take (headerSize - 2)).length = 11 := by
    rw [List.length_take, ((parseHeader_ok_iff _ _).mp accepted).2.1]
    rfl
  have size' : (bytes'.take (headerSize - 2)).length = 11 := by
    rw [List.length_take, ((parseHeader_ok_iff _ _).mp accepted').2.1]
    rfl
  have low : bytes[11]? = some (sums (bytes.take (headerSize - 2))).2 := by
    rw [stands, List.getElem?_append_right (Nat.le_of_eq size), size, ← stands]
    rfl
  have low' : bytes'[11]? = some (sums (bytes'.take (headerSize - 2))).2 := by
    rw [stands', List.getElem?_append_right (Nat.le_of_eq size'), size', ← stands']
    rfl
  have high : bytes[12]? = some (sums (bytes.take (headerSize - 2))).1 := by
    rw [stands, List.getElem?_append_right (by rw [size]; decide), size, ← stands]
    rfl
  have high' : bytes'[12]? = some (sums (bytes'.take (headerSize - 2))).1 := by
    rw [stands', List.getElem?_append_right (by rw [size']; decide), size', ← stands']
    rfl
  suffices summed : bytes'.take (headerSize - 2) = bytes.take (headerSize - 2) by
    rw [stands', stands, summed]
  by_cases behind : 11 ≤ position
  · -- the change is in the checksum alone
    exact near.take_eq (headerSize - 2) behind
  · have highs :
        (sums (bytes'.take (headerSize - 2))).1 = (sums (bytes.take (headerSize - 2))).1 := by
      have same := near.same 12 (by omega) (by omega)
      rw [high, high'] at same
      exact Option.some.inj same
    by_cases across : position = 10
    · -- the last summed byte and the low half changed: the plain sum tells
      subst across
      have front : bytes'.take 10 = bytes.take 10 := near.take_eq 10 (Nat.le_refl 10)
      obtain ⟨last, eleven⟩ := take_eleven size
      obtain ⟨last', eleven'⟩ := take_eleven size'
      rw [eleven, eleven', front, sums_concat, sums_concat] at highs
      rw [eleven, eleven', front, (UInt8.add_right_inj _).mp highs]
    · have lows : (sums (bytes'.take (headerSize - 2))).2 =
          (sums (bytes.take (headerSize - 2))).2 := by
        have same := near.same 11 (by omega) (by omega)
        rw [low, low'] at same
        exact Option.some.inj same
      exact sensitive_crcStep.eq_of_foldl_eq (near.take _) (Prod.ext highs lows)

/-! ## Frames -/

/-- The checks of a stream reader on the bytes of a frame: `parse_header` on the first thirteen,
then `parse_payload` on the rest. -/
def checkFrame (bytes : Bytes) : Except PacketError Unit := do
  let header ← parseHeader (bytes.take headerSize)
  parsePayload (bytes.drop headerSize) header

/-- The checks pass exactly when both parsers accept. -/
theorem checkFrame_ok_iff (bytes : Bytes) :
    checkFrame bytes = .ok () ↔ ∃ header, parseHeader (bytes.take headerSize) = .ok header ∧
      parsePayload (bytes.drop headerSize) header = .ok () := by
  unfold checkFrame
  cases parsed : parseHeader (bytes.take headerSize) with
  | error refused => simp [bind, Except.bind]
  | ok header => simp [bind, Except.bind]

/-- Two frames that pass the checks and differ at most in two neighbours do not differ. -/
theorem frame_unchanged {position : Nat} {bytes bytes' : Bytes} (near : Near position bytes bytes')
    (passed : checkFrame bytes = .ok ()) (passed' : checkFrame bytes' = .ok ()) :
    bytes' = bytes := by
  obtain ⟨header, parsed, checked⟩ := (checkFrame_ok_iff bytes).mp passed
  obtain ⟨header', parsed', checked'⟩ := (checkFrame_ok_iff bytes').mp passed'
  have front := header_unchanged (near.take headerSize) parsed parsed'
  rw [front, parsed] at parsed'
  obtain rfl := Except.ok.inj parsed'
  have checksum := ((parsePayload_ok_iff _ _).mp checked).2.1
  have checksum' := ((parsePayload_ok_iff _ _).mp checked').2.1
  have back := eq_of_computeCrc_eq (near.drop headerSize) (checksum'.symm.trans checksum)
  rw [← List.take_append_drop headerSize bytes', front, back, List.take_append_drop]

namespace Packet

/-- A packet that one of the `make_*` functions returned. -/
inductive Made (raw : Packet) : Packet → Prop where
  | command {id type : UInt16} {data : Bytes} {packet : Packet}
      (made : makeCommand raw id type data = .ok packet) : Made raw packet
  | cmdAck {id type cmdId : UInt16} {packet : Packet}
      (made : makeCmdAck raw id type cmdId = .ok packet) : Made raw packet
  | data {id : UInt16} {blocks : List BlockView} {packet : Packet}
      (made : makeData raw id blocks = .ok packet) : Made raw packet
  | dataOfBlocks {id : UInt16} {blocks : List Block} {packet : Packet}
      (made : makeDataOfBlocks raw id blocks = .ok packet) : Made raw packet
  | keepalive {id : UInt16} {packet : Packet}
      (made : makeKeepalive raw id = .ok packet) : Made raw packet
  | keepaliveAck {id : UInt16} {packet : Packet}
      (made : makeKeepaliveAck raw id = .ok packet) : Made raw packet
  | hip {id : UInt16} {hostId : Identification} {packet : Packet}
      (made : makeHip raw id hostId = .ok packet) : Made raw packet
  | dip {id : UInt16} {devId : Identification} {packet : Packet}
      (made : makeDip raw id devId = .ok packet) : Made raw packet

/-- Every maker ends in the same construction. -/
theorem Made.build {raw packet : Packet} (made : Made raw packet) :
    ∃ id type nBlock payload, Packet.build raw id type nBlock payload = .ok packet := by
  cases made with
  | command made => exact ⟨_, _, _, _, made⟩
  | cmdAck made => exact ⟨_, _, _, _, made⟩
  | data made => exact ⟨_, _, _, _, made⟩
  | dataOfBlocks made => exact ⟨_, _, _, _, made⟩
  | keepalive made => exact ⟨_, _, _, _, made⟩
  | keepaliveAck made => exact ⟨_, _, _, _, made⟩
  | hip made => exact ⟨_, _, _, _, made⟩
  | dip made => exact ⟨_, _, _, _, made⟩

/-- The bytes of a made packet pass the checks, and begin with the start-of-packet bytes. -/
theorem Made.checkFrame {raw packet : Packet} (made : Made raw packet) :
    Hdcp.checkFrame packet.bytes = .ok () ∧ le16 sop <+: packet.bytes := by
  obtain ⟨id, type, nBlock, payload, built⟩ := made.build
  obtain ⟨fits, checksum, count, rfl⟩ := (build_ok_iff raw id type nBlock payload packet).mp built
  obtain ⟨-, -, hlen, -, -, hcount, hcrc⟩ := madeHeader_fields id type nBlock payload
  have len := carried_length payload
  rw [← hlen] at len
  have held := (overwrite_frame raw (madeHeader id type nBlock payload) (carried payload) len.symm
    fits).2.2
  have parsed := parseHeader_makeHeader id type nBlock payload (by rw [← hlen, ← len]; exact fits)
  have bytes : (raw.overwrite (makeHeader id type nBlock payload ++ carried payload)).bytes =
      makeHeader id type nBlock payload ++ carried payload := held
  rw [bytes, checkFrame_ok_iff, List.take_left' (makeHeader_length id type nBlock payload),
    List.drop_left' (makeHeader_length id type nBlock payload)]
  refine ⟨⟨_, parsed, (parsePayload_ok_iff _ _).mpr ⟨len.symm, ?_, ?_⟩⟩, ?_⟩
  · rw [hcrc, checksum]
  · rw [hcount, count]
  · obtain ⟨back, starts⟩ := makeHeader_sop id type nBlock payload
    rw [starts, List.append_assoc]
    exact List.prefix_append _ _

/-- The buffer constructor refuses what begins with the start-of-packet bytes and fails a stream
reader's checks with an intact length, for the same reason and without looking behind it. -/
theorem ofMemory_refuses (raw : Packet) (bytes back : Bytes) (size : Nat) (error : PacketError)
    (starts : le16 sop <+: bytes) (refused : Hdcp.checkFrame bytes = .error error)
    (long : headerSize ≤ bytes.length) (room : bytes.length ≤ size)
    (intact : ∀ header, Hdcp.parseHeader (bytes.take headerSize) = .ok header →
      headerSize + header.len.toNat = bytes.length) :
    ofMemory raw (bytes ++ back) size = .error (.thrown error) := by
  have front : (bytes ++ back).take headerSize = bytes.take headerSize :=
    List.take_append_of_le_length long
  have total : (bytes ++ back).length = bytes.length + back.length := List.length_append
  have searched := findFrom_front (ε := PacketError) (bytes ++ back) (le16 sop) size size
    (starts.trans (List.prefix_append _ _)) (by
      simp only [le16_length, headerSize] at long ⊢
      omega)
  unfold Hdcp.checkFrame at refused
  rw [ofMemory, searched]
  simp only [bind, Except.bind] at refused ⊢
  rw [if_neg (by omega), readView_inside _ 0 headerSize (by omega), List.drop_zero, front]
  cases parsed : Hdcp.parseHeader (bytes.take headerSize) with
  | error refusal =>
    rw [parsed] at refused
    cases refused
    simp only [parsed, raised, Except.mapError]
  | ok header =>
    rw [parsed] at refused
    have len := intact header parsed
    have payload : ((bytes ++ back).drop headerSize).take header.len.toNat =
        bytes.drop headerSize := by
      rw [List.drop_append_of_le_length long, List.take_left']
      rw [List.length_drop]
      omega
    simp only [parsed, raised, Except.mapError]
    have failed : Hdcp.parsePayload (bytes.drop headerSize) header = .error error := refused
    rw [if_neg (by omega), parsePayloadView_eq _ _ header (by omega), Nat.zero_add, payload, failed]
    rfl

/-- The format detects every change inside two adjacent bytes. For a packet some `make_*` function
returned and any other bytes of the same length that differ from its bytes only inside two adjacent
positions, the checks of the stream reader throw; and unless one of the first two bytes is among
the positions, so does the buffer constructor on these bytes, whatever follows them and whether or
not what follows can be read. -/
theorem errors_detected (raw raw' packet : Packet) (made : Made raw packet) (position : Nat)
    (bytes : Bytes) (near : Near position packet.bytes bytes) (changed : bytes ≠ packet.bytes) :
    ∃ error, Hdcp.checkFrame bytes = .error error ∧
      (2 ≤ position → ∀ back,
        ofMemory raw' (bytes ++ back) (bytes ++ back).length = .error (.thrown error) ∧
          ofMemory raw' bytes (bytes ++ back).length = .error (.thrown error)) := by
  obtain ⟨passed, starts⟩ := made.checkFrame
  cases outcome : Hdcp.checkFrame bytes with
  | ok done => exact absurd (frame_unchanged near passed outcome) changed
  | error error =>
    refine ⟨error, rfl, ?_⟩
    intro later back
    obtain ⟨header, parsed, checked⟩ := (checkFrame_ok_iff _).mp passed
    have size := ((parseHeader_ok_iff _ _).mp parsed).2.1
    have len := ((parsePayload_ok_iff _ _).mp checked).1
    rw [List.length_take] at size
    rw [List.length_drop] at len
    have long : headerSize ≤ bytes.length := by
      rw [near.length]
      omega
    have front : le16 sop <+: bytes := by
      have same := near.take_eq (le16 sop).length later
      rw [(prefix_iff_take _ _).mp starts] at same
      exact (prefix_iff_take _ _).mpr same
    have intact (header' : Header)
        (parsed' : Hdcp.parseHeader (bytes.take headerSize) = .ok header') :
        headerSize + header'.len.toNat = bytes.length := by
      have same := header_unchanged (near.take headerSize) parsed parsed'
      rw [same, parsed] at parsed'
      obtain rfl := Except.ok.inj parsed'
      rw [near.length]
      omega
    have room : bytes.length ≤ (bytes ++ back).length := by
      rw [List.length_append]
      omega
    refine ⟨ofMemory_refuses raw' bytes back _ error front outcome long room intact, ?_⟩
    have alone := ofMemory_refuses raw' bytes [] _ error front outcome long room intact
    rw [List.append_nil] at alone
    exact alone

/-- A keepalive whose length field was changed to 256 is refused. -/
theorem errors_detected_keepalive :
    ∃ packet, Made cleared packet ∧
      ∃ error, Hdcp.checkFrame (packet.bytes.set 4 1) = .error error ∧
        ofMemory cleared (packet.bytes.set 4 1) 13 = .error (.thrown error) := by
  have built := build_of_fits cleared 15 .ka 0 [] (by decide) (by decide)
  have made : Made cleared _ := .keepalive built
  have bytes := (made_accessors cleared 15 .ka 0 [] (by decide)).2.2.2.2.2.1
  have near : Near 4 (makeHeader 15 .ka 0 [] ++ []) ((makeHeader 15 .ka 0 [] ++ []).set 4 1) := by
    refine ⟨List.length_set, ?_⟩
    intro offset other next
    exact List.getElem?_set_ne (Ne.symm other)
  rw [← bytes] at near
  obtain ⟨error, refused, rejected⟩ := errors_detected cleared cleared _ made 4 _ near (by
    rw [bytes]
    decide)
  have whole := (rejected (by decide) []).1
  rw [List.append_nil, List.length_set, bytes] at whole
  rw [← bytes] at whole
  exact ⟨_, made, error, refused, whole⟩

end Packet

end Hdcp
