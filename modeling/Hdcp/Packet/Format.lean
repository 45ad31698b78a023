import Hdcp.Base.Bytes
import Hdcp.Error

/-!
# The packet format

A packet is a 13-byte packed header and a payload of blocks, held in a 2048-byte array that its
constructor leaves partly uninitialized. The header's fields are little-endian on the modelled
machine. Encoders and decoders are separate functions here as they are in the source: nothing in
this module says that they agree.
-/

namespace Hdcp

open Base

/-- `Packet::Type` — the seven packet types. -/
inductive PacketType where
  /-- Host identification packet. -/
  | hip
  /-- Device identification packet. -/
  | dip
  /-- Keepalive. -/
  | ka
  /-- Keepalive ack. -/
  | kaAck
  /-- Command. -/
  | cmd
  /-- Command ack. -/
  | cmdAck
  /-- Data. -/
  | data
  deriving DecidableEq

/-- The byte a packet type has in the header. -/
def PacketType.code : PacketType → UInt8
  | hip => 0x01
  | dip => 0x41
  | ka => 0x02
  | kaAck => 0x42
  | cmd => 0x03
  | cmdAck => 0x43
  | data => 0x44

/-- The type a header byte names; any other byte names none. -/
def PacketType.ofCode (code : UInt8) : Option PacketType :=
  if code = 0x01 then some hip
  else if code = 0x41 then some dip
  else if code = 0x02 then some ka
  else if code = 0x42 then some kaAck
  else if code = 0x03 then some cmd
  else if code = 0x43 then some cmdAck
  else if code = 0x44 then some data
  else none

/-- A type's byte names it. -/
@[simp] theorem PacketType.ofCode_code (type : PacketType) : ofCode type.code = some type := by
  cases type <;> rfl

/-- `Packet::BlockView` — a block inside a packet: its type and its bytes. -/
structure BlockView where
  /-- Block type. -/
  type : UInt16
  /-- Block bytes. -/
  data : Bytes
  deriving DecidableEq

/-- `Packet::Block` — a block that owns its bytes. -/
structure Block where
  /-- Block type. -/
  type : UInt16
  /-- Block bytes. -/
  data : Bytes
  deriving DecidableEq

/-- `BlockView(const Block&)` — a view of an owning block. -/
def BlockView.ofBlock (block : Block) : BlockView := ⟨block.type, block.data⟩

/-- `sizeof(BHeader)` — bytes of a block's type and length. -/
def bheaderSize : Nat := 4

/-- `BlockView::size` — bytes a block takes in a payload. -/
def BlockView.size (block : BlockView) : Nat := block.data.length + bheaderSize

/-- `Identification` — the four strings a host or a device presents. -/
structure Identification where
  /-- Name. -/
  name : Bytes
  /-- Serial number. -/
  serialNumber : Bytes
  /-- Hardware version. -/
  hwVersion : Bytes
  /-- Software version. -/
  swVersion : Bytes
  deriving DecidableEq

/-- `Identification()` — four empty strings. -/
def Identification.empty : Identification := ⟨[], [], [], []⟩

/-- `ReservedBlockType::name`. -/
def blockName : UInt16 := 0x0001

/-- `ReservedBlockType::serial_number`. -/
def blockSerialNumber : UInt16 := 0x0002

/-- `ReservedBlockType::hw_version`. -/
def blockHwVersion : UInt16 := 0x0003

/-- `ReservedBlockType::sw_version`. -/
def blockSwVersion : UInt16 := 0x0004

/-- An identification with the string of one block of an identification packet; a block of another
type is passed over. -/
def Identification.setBlock (identification : Identification) (block : BlockView) :
    Identification :=
  if block.type = blockName then { identification with name := block.data }
  else if block.type = blockSerialNumber then { identification with serialNumber := block.data }
  else if block.type = blockHwVersion then { identification with hwVersion := block.data }
  else if block.type = blockSwVersion then { identification with swVersion := block.data }
  else identification

/-- `Packet::sop` — the start-of-packet word. -/
def sop : UInt16 := 0xCAFE

/-- `Packet::ver` — the protocol version written and accepted. -/
def ver : UInt8 := 0x01

/-- `sizeof(Header)`. -/
def headerSize : Nat := 13

/-- `Packet::max_size`. -/
def maxSize : Nat := 2048

/-- `Packet::max_pl_size`. -/
def maxPlSize : Nat := maxSize - headerSize

/-- `Packet::Header` — the packed header, field by field. -/
structure Header where
  /-- Start of packet. -/
  sop : UInt16
  /-- Protocol version. -/
  ver : UInt8
  /-- Payload length. -/
  len : UInt16
  /-- Packet id. -/
  id : UInt16
  /-- Type byte; a received header may hold any. -/
  type : UInt8
  /-- Number of blocks. -/
  nBlock : UInt8
  /-- Checksum of the payload. -/
  pCrc : UInt16
  /-- Checksum of the header bytes before this field. -/
  hCrc : UInt16
  deriving DecidableEq

/-- The header's bytes up to its own checksum. -/
def Header.summed (header : Header) : Bytes :=
  le16 header.sop ++ [header.ver] ++ le16 header.len ++ le16 header.id ++
    [header.type, header.nBlock] ++ le16 header.pCrc

/-- The 13 bytes of a header, in packed order. -/
def Header.bytes (header : Header) : Bytes := header.summed ++ le16 header.hCrc

/-- The header that stands at the front of some bytes, whatever they are. -/
def Header.ofBytes (bytes : Bytes) : Header where
  sop := wordAt bytes 0
  ver := byteAt bytes 2
  len := wordAt bytes 3
  id := wordAt bytes 5
  type := byteAt bytes 7
  nBlock := byteAt bytes 8
  pCrc := wordAt bytes 9
  hCrc := wordAt bytes 11

/-- One byte of `compute_crc`: both sums wrap at eight bits. -/
def crcStep (crc : UInt8 × UInt8) (byte : UInt8) : UInt8 × UInt8 :=
  (crc.1 + byte, crc.2 + (crc.1 + byte))

/-- `Packet::compute_crc` — the running sum in the high byte, the sum of sums in the low. -/
def computeCrc (bytes : Bytes) : UInt16 :=
  let crc := bytes.foldl crcStep (0, 0)
  crc.1.toUInt16 <<< 8 ||| crc.2.toUInt16

/-- The header `make_header` fills in: a payload too long for the length field is truncated
there, and the header checksum is computed while its own field is zero. -/
def madeHeader (id : UInt16) (type : PacketType) (nBlock : UInt8) (payload : Bytes) : Header :=
  let header : Header :=
    { sop, ver, len := UInt16.ofNat payload.length, id, type := type.code, nBlock
      pCrc := computeCrc payload, hCrc := 0 }
  { header with hCrc := computeCrc (header.bytes.take (headerSize - 2)) }

/-- `Packet::make_header` — the 13 bytes in front of a payload. -/
def makeHeader (id : UInt16) (type : PacketType) (nBlock : UInt8) (payload : Bytes) : Bytes :=
  (madeHeader id type nBlock payload).bytes

/-- `Packet::make_block(BlockView)` — type, 16-bit length, bytes. -/
def makeBlock (block : BlockView) : Bytes :=
  le16 block.type ++ le16 (UInt16.ofNat block.data.length) ++ block.data

/-- The scan of `Packet::blocks` from an iterator, with fuel for the bytes that remain. -/
def blocksFrom : Nat → Bytes → List BlockView
  | fuel + 1, t0 :: t1 :: l0 :: l1 :: rest =>
    let len := (word16 l0 l1).toNat
    if len > rest.length then []
    else ⟨word16 t0 t1, rest.take len⟩ :: blocksFrom fuel (rest.drop len)
  | _, _ => []

/-- `Packet::blocks(std::string_view)` — the complete blocks at the front of a payload. -/
def blocks (payload : Bytes) : List BlockView := blocksFrom payload.length payload

/-- The text `fmt` gives a byte under `{:#x}`. -/
def hexByte (byte : UInt8) : String := "0x" ++ String.ofList (Nat.toDigits 16 byte.toNat)

/-- The text of a refused pair of sizes. -/
def sizesDiffer (actual expected : Nat) : String := toString actual ++ " != " ++ toString expected

/-- `Packet::parse_header(std::string_view)` — the header of exactly 13 bytes, or the first check
it fails. -/
def parseHeader (bytes : Bytes) : Except PacketError Header :=
  let header := Header.ofBytes bytes
  if bytes.length ≠ headerSize then
    .error ⟨.invalidBufferSize, some (sizesDiffer bytes.length headerSize)⟩
  else if computeCrc (bytes.take (headerSize - 2)) ≠ header.hCrc then
    .error ⟨.invalidHeaderCrc, none⟩
  else if header.sop ≠ sop then .error ⟨.sopNotFound, none⟩
  else if header.ver ≠ ver then .error ⟨.invalidProtocolVersion, some (toString header.ver.toNat)⟩
  else if PacketType.ofCode header.type = none then
    .error ⟨.invalidPacketType, some (hexByte header.type)⟩
  else if header.len.toNat > maxPlSize then
    .error ⟨.payloadExceedMaxSize, some (toString header.len.toNat)⟩
  else .ok header

/-- `Packet::parse_payload(std::string_view, const Header*)` — length, checksum, block count. -/
def parsePayload (bytes : Bytes) (header : Header) : Except PacketError Unit :=
  if header.len.toNat ≠ bytes.length then
    .error ⟨.invalidBufferSize, some (sizesDiffer bytes.length header.len.toNat)⟩
  else if header.pCrc ≠ computeCrc bytes then .error ⟨.invalidPayloadCrc, none⟩
  else if header.nBlock.toNat ≠ (blocks bytes).length then
    .error ⟨.invalidNumberOfBlock,
      some (toString (blocks bytes).length ++ " should be " ++ toString header.nBlock.toNat)⟩
  else .ok ()

/-- `Packet` — the array `data_`; a fresh packet holds whatever its memory held. -/
structure Packet where
  /-- The bytes of the array. -/
  data : Bytes
  /-- The array has 2048 bytes. -/
  size_data : data.length = maxSize
  deriving DecidableEq

namespace Packet

/-- Copy bytes into the array at an offset; bytes past its end have nowhere to go. -/
def store (packet : Packet) (offset : Nat) (bytes : Bytes) : Packet where
  data :=
    (packet.data.take offset ++ bytes ++ packet.data.drop (offset + bytes.length)).take maxSize
  size_data := by
    have size := packet.size_data
    simp only [List.length_take, List.length_append, List.length_drop, size]
    omega

/-- Copy bytes over the front of the array. -/
def overwrite (packet : Packet) (bytes : Bytes) : Packet := packet.store 0 bytes

/-- An array of zeros, one of the contents a fresh packet may have. -/
def cleared : Packet := ⟨List.replicate maxSize 0, List.length_replicate⟩

/-- `Packet::header` — the front of the array read as a header. -/
def header (packet : Packet) : Header := Header.ofBytes packet.data

/-- `Packet::id`. -/
def id (packet : Packet) : UInt16 := packet.header.id

/-- `Packet::version`. -/
def version (packet : Packet) : UInt8 := packet.header.ver

/-- `Packet::type`, as the byte the header holds. -/
def type (packet : Packet) : UInt8 := packet.header.type

/-- `Packet::nb_block`. -/
def nbBlock (packet : Packet) : UInt8 := packet.header.nBlock

/-- `Packet::size` — header and payload, by the header's length field. -/
def size (packet : Packet) : Nat := packet.header.len.toNat + headerSize

/-- `Packet::header_view`. -/
def headerView (packet : Packet) : Bytes := packet.data.take headerSize

/-- `Packet::payload` — the bytes after the header. A length field above `maxPlSize` makes the
view of the source leave the array; only its part inside is modelled. -/
def payload (packet : Packet) : Bytes := (packet.data.drop headerSize).take packet.header.len.toNat

/-- `Packet::blocks`. -/
def blocks (packet : Packet) : List BlockView := Hdcp.blocks packet.payload

/-- The `size()` first bytes, the ones a transport sends. -/
def bytes (packet : Packet) : Bytes := packet.data.take packet.size

/-- `Packet::parse_header() const`. -/
def parseHeader (packet : Packet) : Except PacketError Header := Hdcp.parseHeader packet.headerView

/-- `Packet::parse_payload() const`. -/
def parsePayload (packet : Packet) : Except PacketError Unit :=
  Hdcp.parsePayload packet.payload packet.header

/-- `Packet::Packet(std::string_view)` — search, validate, copy. The copy starts at the front of
the buffer, not at the start of packet found in it. -/
def ofView (raw : Packet) (view : Bytes) : Except PacketError Packet :=
  match firstOccurrence (le16 sop) view with
  | none => .error ⟨.sopNotFound, none⟩
  | some pos =>
    if pos + headerSize > view.length then .error ⟨.invalidBufferSize, none⟩
    else do
      let header ← Hdcp.parseHeader ((view.drop pos).take headerSize)
      if pos + headerSize + header.len.toNat > view.length then
        .error ⟨.invalidBufferSize, none⟩
      else do
        Hdcp.parsePayload ((view.drop (pos + headerSize)).take header.len.toNat) header
        .ok (raw.overwrite (view.take (headerSize + header.len.toNat)))

/-- A made header and its payload given to the constructor, as every maker ends. -/
def build (raw : Packet) (id : UInt16) (type : PacketType) (nBlock : UInt8) (payload : Bytes) :
    Except PacketError Packet :=
  ofView raw (makeHeader id type nBlock payload ++ payload)

/-- `Packet::make_command`. -/
def makeCommand (raw : Packet) (id type : UInt16) (data : Bytes) : Except PacketError Packet :=
  build raw id .cmd 1 (makeBlock ⟨type, data⟩)

/-- `Packet::make_cmd_ack`. -/
def makeCmdAck (raw : Packet) (id type cmdId : UInt16) : Except PacketError Packet :=
  build raw id .cmdAck 1 (makeBlock ⟨type, le16 cmdId⟩)

/-- `Packet::make_data(Id, std::vector<BlockView>&)`. -/
def makeData (raw : Packet) (id : UInt16) (blocks : List BlockView) : Except PacketError Packet :=
  build raw id .data (UInt8.ofNat blocks.length) (blocks.flatMap makeBlock)

/-- `Packet::make_data(Id, std::vector<Block>&)`. -/
def makeDataOfBlocks (raw : Packet) (id : UInt16) (blocks : List Block) :
    Except PacketError Packet :=
  build raw id .data (UInt8.ofNat blocks.length)
    (blocks.flatMap fun block => makeBlock (BlockView.ofBlock block))

/-- `Packet::make_keepalive`. -/
def makeKeepalive (raw : Packet) (id : UInt16) : Except PacketError Packet :=
  build raw id .ka 0 []

/-- `Packet::make_keepalive_ack`. -/
def makeKeepaliveAck (raw : Packet) (id : UInt16) : Except PacketError Packet :=
  build raw id .kaAck 0 []

/-- The four blocks of an identification packet. -/
def identificationBlocks (identification : Identification) : List BlockView :=
  [⟨blockName, identification.name⟩, ⟨blockSerialNumber, identification.serialNumber⟩,
    ⟨blockHwVersion, identification.hwVersion⟩, ⟨blockSwVersion, identification.swVersion⟩]

/-- `Packet::make_hip`. -/
def makeHip (raw : Packet) (id : UInt16) (hostId : Identification) : Except PacketError Packet :=
  build raw id .hip 4 ((identificationBlocks hostId).flatMap makeBlock)

/-- `Packet::make_dip`. -/
def makeDip (raw : Packet) (id : UInt16) (devId : Identification) : Except PacketError Packet :=
  build raw id .dip 4 ((identificationBlocks devId).flatMap makeBlock)

end Packet

end Hdcp
