import Hdcp.Transport.ReaderSafety
import Hdcp.Transport.WriterSafety

/-!
# A connection from `write()` to the read queue

The writer of one endpoint and the reader of the other, with the byte stream between them. The
socket takes the bytes of an `async_write` a few at a time, out of `write_packet_` as it is then,
and the peer's reads take them off the stream. Until a write fails the reader cuts the stream where
the writer joined it: its queue holds the packets passed to `write()`, in order and byte for byte,
without those refused by a full queue, removed before they were sent or dropped for want of room.
-/

namespace Hdcp.Tcp

open Base

/-- The endpoint at the other end. -/
def Endpoint.peer : Endpoint → Endpoint
  | client => server
  | server => client

/-- One event of the endpoint's reader. -/
def Endpoint.readerStep : Endpoint → Reader → Event → Option Reader
  | client => Client.step
  | server => Server.step

/-- The endpoint's reader on an open connection. -/
def Endpoint.reading : Endpoint → Packet → Reader
  | client => Client.started
  | server => Server.connected

/-- The buffer of an outstanding `async_write`: its size is fixed by the call, its bytes are those
of `write_packet_`. -/
structure Flight where
  /-- `write_packet_.size()` at the call. -/
  size : Nat
  /-- Bytes the socket has taken. -/
  carried : Nat

/-- One direction of a connection. -/
structure Connection where
  /-- The writer of the sending endpoint. -/
  writer : Writer
  /-- Its outstanding write. -/
  flight : Option Flight
  /-- The bytes the peer has not read yet. -/
  wire : Bytes
  /-- The reader of the receiving endpoint. -/
  reader : Reader

/-- What happens on a connection. -/
inductive Transfer where
  /-- An event of the writer. -/
  | writer (event : WriterEvent)
  /-- The socket takes the next bytes of the outstanding write. -/
  | carried (count : Nat)
  /-- Outstanding read `index` of the peer completes; `room` tells whether its read queue has room
  for one more packet. -/
  | received (index : Nat) (room : Bool)

namespace Connection

/-- The bytes of the outstanding write the socket has not taken. -/
def uncarried (connection : Connection) : Bytes :=
  match connection.flight with
  | none => []
  | some flight => (connection.writer.writePacket.data.take flight.size).drop flight.carried

/-- A write completes once the socket has taken all of it. -/
def allows (connection : Connection) : WriterEvent → Bool
  | .completed => connection.flight.all fun flight => flight.carried == flight.size
  | _ => true

/-- The outstanding write after an event of the writer. -/
def flightAfter (connection : Connection) : WriterEvent → Option Flight
  | .completed => none
  | .proceed _ =>
    match connection.writer.position with
    | .asyncWrite _ => some ⟨connection.writer.writePacket.size, 0⟩
    | _ => connection.flight
  | _ => connection.flight

/-- One event of a connection. -/
def step (sender : Endpoint) (connection : Connection) : Transfer → Option Connection
  | .writer event =>
    if connection.allows event then
      (connection.writer.step sender event).map fun writer =>
        { connection with writer := writer, flight := connection.flightAfter event }
    else none
  | .carried count =>
    match connection.flight with
    | none => none
    | some flight =>
      if connection.writer.socketOpen ∧ flight.carried + count ≤ flight.size then
        some { connection with
          flight := some { flight with carried := flight.carried + count }
          wire := connection.wire ++ connection.uncarried.take count }
      else none
  | .received index room =>
    match connection.reader.reads[index]? with
    | none => none
    | some read =>
      if read.size ≤ connection.wire.length then
        (sender.peer.readerStep connection.reader
          (.done index (connection.wire.take read.size) room)).map fun reader =>
            { connection with reader := reader, wire := connection.wire.drop read.size }
      else none

/-- A connection just opened, whatever is in the two packets. -/
def opened (sender : Endpoint) (writePacket readPacket : Packet) : Connection where
  writer := .started writePacket
  flight := none
  wire := []
  reader := sender.peer.reading readPacket

end Connection

/-- A packet one of the makers returned. -/
def Made (packet : Packet) : Prop :=
  ∃ raw id type nBlock payload, Packet.build raw id type nBlock payload = .ok packet

namespace Transfer

/-- The connection lasts: no write fails, no other connection takes the socket, and the packets
passed to `write()` are made ones. -/
def Lasts : Transfer → Prop
  | .writer (.failed _) | .writer .reopened => False
  | .writer (.posted packet) => Made packet
  | _ => True

/-- The read queue has room. -/
def Roomy : Transfer → Prop
  | .received _ room => room = true
  | _ => True

/-- The writer's events among them. -/
def written : Transfer → Option WriterEvent
  | .writer event => some event
  | _ => none

/-- The socket carries bytes or the peer reads them, with room. -/
def Moves : Transfer → Prop
  | .writer _ => False
  | .carried _ => True
  | .received _ room => room = true

end Transfer

/-! ## Made packets are frames -/

/-- A frame the one-buffer parser keeps. -/
def Whole (frame : Frame) : Prop := ∀ raw, frame.kept raw = [frame.bytes]

/-- A made packet travels as a frame that is kept. -/
theorem Made.frame {packet : Packet} (made : Made packet) :
    ∃ frame : Frame, frame.bytes = packet.bytes ∧ Whole frame := by
  obtain ⟨raw, id, type, nBlock, payload, built⟩ := made
  obtain ⟨fits, crc, count, rfl⟩ := (Packet.build_ok_iff raw id type nBlock payload _).mp built
  obtain ⟨-, -, hlen, -, -, hcount, hcrc⟩ := madeHeader_fields id type nBlock payload
  have len := Packet.carried_length payload
  rw [← hlen] at len
  have parsed : Hdcp.parseHeader (makeHeader id type nBlock payload) =
      .ok (madeHeader id type nBlock payload) :=
    parseHeader_makeHeader id type nBlock payload (by rw [← hlen, ← len]; exact fits)
  have valid : (Hdcp.parseHeader (makeHeader id type nBlock payload)).map
      (fun accepted => accepted.len.toNat) = .ok (Packet.carried payload).length := by
    rw [parsed, len]
    rfl
  have checked : Hdcp.parsePayload (Packet.carried payload) (madeHeader id type nBlock payload) =
      .ok () := by
    refine (parsePayload_ok_iff _ _).mpr ⟨len.symm, ?_, ?_⟩
    · rw [hcrc, crc]
    · rw [hcount, count]
  let frame : Frame := ⟨makeHeader id type nBlock payload, Packet.carried payload, valid⟩
  have held := (Packet.overwrite_frame raw _ (Packet.carried payload) len.symm fits).2.2
  refine ⟨frame, held.symm, fun raw => ?_⟩
  rw [Frame.kept_eq raw frame _ parsed,
    show Hdcp.parsePayload frame.payload _ = .ok () from checked]

/-! ## The reader cuts the stream into its frames -/

/-- Both readers alternate between headers and payloads. -/
theorem Endpoint.alternates (endpoint : Endpoint) : Alternates endpoint.readerStep := by
  cases endpoint with
  | client => exact client_alternates
  | server => exact server_alternates

/-- A payload read without room for the packet: it is dropped, and the next header is read. -/
theorem payload_unroomy (endpoint : Endpoint) (frame : Frame) (reader : Reader)
    (holding : Holding frame reader) (index : Nat) (next : Reader)
    (taken : endpoint.readerStep reader (.done index frame.payload false) = some next) :
    Waiting next ∧ queued next = queued reader := by
  obtain ⟨alone, running, looping, raw, held⟩ := holding
  obtain ⟨header, parsed, -⟩ := frame.accepted
  obtain ⟨checked, stored⟩ := store_payload raw frame header parsed
  cases endpoint with
  | client =>
    obtain ⟨-, rfl⟩ := complete_alone alone taken
    simp only [Client.handler, Client.run_onPayload, held, checked]
    cases Hdcp.parsePayload frame.payload header with
    | ok done => exact ⟨⟨rfl, running, looping⟩, rfl⟩
    | error refused => exact ⟨⟨rfl, running, running⟩, rfl⟩
  | server =>
    obtain ⟨-, rfl⟩ := complete_alone alone taken
    simp only [Server.handler, Server.run_onPayload, held, checked]
    cases Hdcp.parsePayload frame.payload header with
    | ok done => exact ⟨⟨rfl, running, looping⟩, rfl⟩
    | error refused => exact ⟨⟨rfl, running, looping⟩, rfl⟩

/-- What the bytes still to come are to the reader: these frames, or the first of them without its
header and the others. -/
def Expects (reader : Reader) (frames : List Frame) (stream : Bytes) : Prop :=
  (Waiting reader ∧ stream = frames.flatMap Frame.bytes) ∨
    ∃ frame rest, frames = frame :: rest ∧ Holding frame reader ∧
      stream = frame.payload ++ rest.flatMap Frame.bytes

/-- What a completed read makes of the frames to come: it leaves those before `rest` behind and
keeps them in the queue if there is room. -/
structure Received (reader next : Reader) (room : Bool) (passed : List Frame) : Prop where
  /-- The queue holds what it held, and packets that passed. -/
  kept : ∃ kept, queued next = queued reader ++ kept ∧ kept.Sublist (passed.map Frame.bytes)
  /-- With room it holds all of them. -/
  all : room = true → queued next = queued reader ++ passed.map Frame.bytes

/-- The only read outstanding is the one found. -/
theorem found_alone {reader : Reader} {read only : Read} {index : Nat}
    (alone : reader.reads = [only]) (found : reader.reads[index]? = some read) : read = only := by
  rw [alone] at found
  exact List.mem_singleton.mp (List.mem_of_getElem? found)

/-- A read of the first bytes of what is to come passes at most one frame. -/
theorem expects_received (endpoint : Endpoint) {reader next : Reader} {frames : List Frame}
    {wire later : Bytes} {index : Nat} {read : Read} {room : Bool}
    (expects : Expects reader frames (wire ++ later)) (whole : ∀ frame ∈ frames, Whole frame)
    (found : reader.reads[index]? = some read) (fits : read.size ≤ wire.length)
    (taken : endpoint.readerStep reader (.done index (wire.take read.size) room) = some next) :
    ∃ passed rest, frames = passed ++ rest ∧ Expects next rest (wire.drop read.size ++ later) ∧
      Received reader next room passed := by
  have joined : wire.take read.size ++ (wire.drop read.size ++ later) = wire ++ later := by
    rw [← List.append_assoc, List.take_append_drop]
  have length : (wire.take read.size).length = read.size := List.length_take_of_le fits
  rcases expects with ⟨waiting, stream⟩ | ⟨frame, rest, rfl, holding, stream⟩
  · obtain rfl := found_alone waiting.1 found
    obtain ⟨size, hold⟩ := endpoint.alternates.header reader waiting _ _ _ _ taken
    cases frames with
    | nil =>
      -- no frame is to come, so no byte is
      rw [List.flatMap_nil, List.append_eq_nil_iff] at stream
      rw [stream.1] at fits
      contradiction
    | cons frame rest =>
      rw [← joined, List.flatMap_cons, Frame.bytes, List.append_assoc] at stream
      obtain ⟨front, back⟩ := List.append_inj stream (size.trans frame.header_length.symm)
      obtain ⟨holding, same⟩ := hold frame front
      refine ⟨[], frame :: rest, rfl, .inr ⟨frame, rest, rfl, holding, back⟩, ?_, fun _ => ?_⟩
      · exact ⟨[], by rw [same, List.append_nil], List.Sublist.refl []⟩
      · rw [same, List.map_nil, List.append_nil]
  · obtain rfl := found_alone holding.1 found
    rw [← joined] at stream
    obtain ⟨front, back⟩ := List.append_inj stream length
    rw [front] at taken
    refine ⟨[frame], rest, rfl, ?_⟩
    cases room with
    | true =>
      obtain ⟨waiting, kept⟩ :=
        (endpoint.alternates.payload frame reader holding _ _ _ taken).2 rfl
      have queue := kept reader.readPacket
      rw [whole frame List.mem_cons_self reader.readPacket] at queue
      exact ⟨.inl ⟨waiting, back⟩, ⟨_, queue, List.Sublist.refl _⟩, fun _ => queue⟩
    | false =>
      obtain ⟨waiting, same⟩ := payload_unroomy endpoint frame reader holding _ _ taken
      refine ⟨.inl ⟨waiting, back⟩, ⟨[], ?_, List.nil_sublist _⟩, fun absurdity => ?_⟩
      · rw [same, List.append_nil]
      · contradiction

/-! ## What the connection keeps -/

/-- How the stream of the packets handed to `async_write` is cut: those that passed the reader, and
those still to come. -/
structure Cut (roomy : Prop) (connection : Connection) (passed coming : List Frame) : Prop where
  /-- The packets handed over are these frames. -/
  sent : connection.writer.ledger.sent.map (fun item => item.value.bytes) =
    (passed ++ coming).map Frame.bytes
  /-- Those to come will be kept. -/
  whole : ∀ frame ∈ coming, Whole frame
  /-- The queue holds packets that passed, in order. -/
  kept : (queued connection.reader).Sublist (passed.map Frame.bytes)
  /-- All of them, if there was room. -/
  all : roomy → queued connection.reader = passed.map Frame.bytes
  /-- The bytes on the wire and those not yet carried are the frames to come. -/
  expects : Expects connection.reader coming (connection.wire ++ connection.uncarried)

/-- The invariant of a connection. -/
structure Connection.Sound (roomy : Prop) (connection : Connection) : Prop where
  /-- The writer keeps its own. -/
  writer : WriterSound connection.writer
  /-- The packets posted are made ones. -/
  made : ∀ item ∈ connection.writer.ledger.posted, Made item.value
  /-- There are bytes to carry only while a write is outstanding. -/
  idle : connection.writer.outstanding = 0 → connection.flight = none
  /-- The stream is cut where the packets join. -/
  cut : ∃ passed coming, Cut roomy connection passed coming

/-- What an event of the writer does to the outstanding write. -/
inductive Flown (connection : Connection) (next : Writer) : Option Flight → Prop where
  /-- Nothing. -/
  | same (sent : next.ledger.sent = connection.writer.ledger.sent)
      (outstanding : next.outstanding = connection.writer.outstanding)
      (packet : connection.flight = none ∨ next.writePacket = connection.writer.writePacket) :
      Flown connection next connection.flight
  /-- It completes, with all its bytes carried. -/
  | landed (sent : next.ledger.sent = connection.writer.ledger.sent)
      (empty : connection.uncarried = []) : Flown connection next none
  /-- It begins. -/
  | taken (item : Base.Numbered Packet) (posted : item ∈ connection.writer.ledger.posted)
      (sent : next.ledger.sent = connection.writer.ledger.sent ++ [item])
      (outstanding : 0 < next.outstanding) (packet : next.writePacket = item.value)
      (idle : connection.flight = none) : Flown connection next (some ⟨item.value.size, 0⟩)

namespace Connection

variable {connection : Connection} {sender : Endpoint} {next : Writer}

/-- Away from `async_write`, a statement leaves the outstanding write alone. -/
theorem flown_statement {roomy : Prop} {room : Bool} (sound : connection.Sound roomy)
    (elsewhere : ∀ item, connection.writer.position ≠ .asyncWrite item)
    (change : WriterChange connection.writer (.proceed room) next) :
    Flown connection next connection.flight := by
  cases change with
  | dequeued room position queue =>
    have none := sound.writer.prepares (by rw [position]; rfl)
    exact .same rfl rfl (.inl (sound.idle none))
  | handed room position => exact absurd position (elsewhere _)
  | _ => exact .same rfl rfl (.inr rfl)

/-- What every event of the writer does to the outstanding write. -/
theorem flown {roomy : Prop} {event : WriterEvent} (sound : connection.Sound roomy)
    (noError : NoError event) (allowed : connection.allows event = true)
    (taken : connection.writer.step sender event = some next) :
    Flown connection next (connection.flightAfter event) := by
  have change := step_change taken
  cases event with
  | failed ec => contradiction
  | completed =>
    have empty : connection.uncarried = [] := by
      unfold uncarried
      unfold allows at allowed
      cases flying : connection.flight with
      | none => rfl
      | some flight =>
        rw [flying] at allowed
        have whole : flight.carried = flight.size := eq_of_beq allowed
        dsimp only
        rw [whole, List.drop_eq_nil_iff]
        exact List.length_take_le _ _
    cases change with
    | completed position flying => exact .landed rfl empty
    | outside unposted => exact .landed rfl empty
  | proceed room =>
    by_cases handing : ∃ item, connection.writer.position = .asyncWrite item
    · obtain ⟨item, position⟩ := handing
      have none := sound.writer.prepares (by rw [position]; rfl)
      have held := sound.writer.held item (by rw [position]; exact List.mem_cons_self)
      have waits : item ∈ connection.writer.waiting := by
        unfold Writer.waiting
        rw [position]
        exact List.mem_append_left _ (List.mem_append_left _ (List.mem_append_left _
          List.mem_cons_self))
      have posted := sound.writer.balanced.waiting_posted waits
      have flight : connection.flightAfter (.proceed room) = some ⟨item.value.size, 0⟩ := by
        unfold flightAfter
        rw [position, held]
      unfold Writer.step Writer.statement at taken
      rw [position] at taken
      cases taken
      rw [flight]
      exact .taken item posted rfl (Nat.succ_pos _) held (sound.idle none)
    · have elsewhere : ∀ item, connection.writer.position ≠ .asyncWrite item :=
        fun item position => handing ⟨item, position⟩
      have flight : connection.flightAfter (.proceed room) = connection.flight := by
        unfold flightAfter
        cases position : connection.writer.position with
        | asyncWrite item => exact absurd position (elsewhere item)
        | _ => rfl
      rw [flight]
      exact flown_statement sound elsewhere change
  | posted packet => cases change <;> exact .same rfl rfl (.inr rfl)
  | begun => cases change <;> exact .same rfl rfl (.inr rfl)
  | cleared => cases change <;> exact .same rfl rfl (.inr rfl)
  | closed | reopened | stopped | ended | left =>
    cases change
    exact .same rfl rfl (.inr rfl)

/-- The bytes not yet carried, when the write that begins is of a packet. -/
theorem uncarried_begun (item : Base.Numbered Packet) (writer : Writer) (wire : Bytes)
    (reader : Reader) (packet : writer.writePacket = item.value) :
    uncarried ⟨writer, some ⟨item.value.size, 0⟩, wire, reader⟩ = item.value.bytes := by
  unfold uncarried Packet.bytes
  dsimp only
  rw [packet, List.drop_zero]

/-- The packets of an event of the writer are made ones. -/
theorem made_change {event : WriterEvent} (lasts : Transfer.Lasts (.writer event))
    (made : ∀ item ∈ connection.writer.ledger.posted, Made item.value)
    (change : WriterChange connection.writer event next) :
    ∀ item ∈ next.ledger.posted, Made item.value := by
  cases change with
  | posted packet =>
    intro item inside
    rcases List.mem_append.mp inside with before | last
    · exact made item before
    · rw [List.mem_singleton.mp last]
      exact lasts
  | _ => exact made

/-- An event of the writer keeps the cut; a packet handed over is one more frame to come. -/
theorem cut_flown {roomy : Prop} {passed coming : List Frame} {flight : Option Flight}
    (cut : Cut roomy connection passed coming)
    (made : ∀ item ∈ connection.writer.ledger.posted, Made item.value)
    (flown : Flown connection next flight) :
    ∃ passed coming, Cut roomy { connection with writer := next, flight := flight }
      passed coming := by
  obtain ⟨sent, whole, kept, all, expects⟩ := cut
  cases flown with
  | same sent' outstanding packet =>
    have bytes : uncarried { connection with writer := next } = connection.uncarried := by
      unfold uncarried
      dsimp only
      rcases packet with none | same
      · rw [none]
      · rw [same]
    refine ⟨passed, coming, ?_, whole, kept, all, ?_⟩
    · rw [sent']
      exact sent
    · rw [bytes]
      exact expects
  | landed sent' empty =>
    refine ⟨passed, coming, ?_, whole, kept, all, ?_⟩
    · rw [sent']
      exact sent
    · rw [empty] at expects
      exact expects
  | taken item posted sent' outstanding packet idle =>
    obtain ⟨frame, bytes, keeps⟩ := (made item posted).frame
    have nothing : connection.uncarried = [] := by
      unfold uncarried
      rw [idle]
    refine ⟨passed, coming ++ [frame], ?_, ?_, kept, all, ?_⟩
    · show next.ledger.sent.map _ = _
      rw [sent', List.map_append, sent, List.map_singleton, ← bytes]
      simp
    · intro other inside
      rcases List.mem_append.mp inside with before | last
      · exact whole other before
      · rw [List.mem_singleton.mp last]
        exact keeps
    · rw [uncarried_begun item next _ _ packet, ← bytes]
      rw [nothing, List.append_nil] at expects
      show Expects connection.reader (coming ++ [frame]) (connection.wire ++ frame.bytes)
      rcases expects with ⟨waiting, stream⟩ | ⟨first, rest, rfl, holding, stream⟩
      · exact .inl ⟨waiting, by rw [stream]; simp⟩
      · exact .inr ⟨first, rest ++ [frame], rfl, holding, by rw [stream]; simp⟩

/-- Bytes carried onto the wire leave the stream as it is. -/
theorem carry_stream (flight : Flight) (count : Nat) (flying : connection.flight = some flight) :
    connection.wire ++ connection.uncarried.take count ++
      uncarried { connection with
        flight := some { flight with carried := flight.carried + count }
        wire := connection.wire ++ connection.uncarried.take count } =
      connection.wire ++ connection.uncarried := by
  have rest : uncarried { connection with
      flight := some { flight with carried := flight.carried + count }
      wire := connection.wire ++ connection.uncarried.take count } =
      connection.uncarried.drop count := by
    unfold uncarried
    rw [flying]
    dsimp only
    rw [List.drop_drop]
  rw [rest, List.append_assoc, List.take_append_drop]

/-- What an event of the writer does. -/
theorem written_eq_some_iff {event : WriterEvent} {after : Connection} :
    connection.step sender (.writer event) = some after ↔
      ∃ next, connection.allows event = true ∧ connection.writer.step sender event = some next ∧
        after = { connection with writer := next, flight := connection.flightAfter event } := by
  constructor
  · intro taken
    obtain ⟨allowed, stepped⟩ := Option.ite_none_right_eq_some.mp taken
    obtain ⟨next, written, same⟩ := Option.map_eq_some_iff.mp stepped
    exact ⟨next, allowed, written, same.symm⟩
  · rintro ⟨next, allowed, written, rfl⟩
    exact (if_pos allowed).trans (congrArg _ written)

/-- What the socket does when it takes bytes. -/
theorem carried_eq_some_iff {count : Nat} {after : Connection} :
    connection.step sender (.carried count) = some after ↔
      ∃ flight, connection.flight = some flight ∧ connection.writer.socketOpen = true ∧
        flight.carried + count ≤ flight.size ∧
        after = { connection with
          flight := some { flight with carried := flight.carried + count }
          wire := connection.wire ++ connection.uncarried.take count } := by
  constructor
  · intro taken
    unfold step at taken
    dsimp only at taken
    cases flying : connection.flight with
    | none =>
      rw [flying] at taken
      contradiction
    | some flight =>
      rw [flying] at taken
      obtain ⟨⟨isOpen, fits⟩, same⟩ := Option.ite_none_right_eq_some.mp taken
      exact ⟨flight, rfl, isOpen, fits, (Option.some.inj same).symm⟩
  · rintro ⟨flight, flying, isOpen, fits, rfl⟩
    unfold step
    dsimp only
    rw [flying]
    exact if_pos ⟨isOpen, fits⟩

/-- What a completed read of the peer does. -/
theorem received_eq_some_iff {index : Nat} {room : Bool} {after : Connection} :
    connection.step sender (.received index room) = some after ↔
      ∃ read reader, connection.reader.reads[index]? = some read ∧
        read.size ≤ connection.wire.length ∧
        sender.peer.readerStep connection.reader
          (.done index (connection.wire.take read.size) room) = some reader ∧
        after = { connection with reader := reader, wire := connection.wire.drop read.size } := by
  constructor
  · intro taken
    unfold step at taken
    dsimp only at taken
    cases found : connection.reader.reads[index]? with
    | none =>
      rw [found] at taken
      contradiction
    | some read =>
      rw [found] at taken
      obtain ⟨fits, stepped⟩ := Option.ite_none_right_eq_some.mp taken
      obtain ⟨reader, stepped, same⟩ := Option.map_eq_some_iff.mp stepped
      exact ⟨read, reader, rfl, fits, stepped, same.symm⟩
  · rintro ⟨read, reader, found, fits, stepped, rfl⟩
    unfold step
    dsimp only
    rw [found]
    dsimp only
    rw [if_pos fits, stepped]
    rfl

/-- Every event of a lasting connection keeps the invariant; with room, also that all is kept. -/
theorem sound_step {roomy : Prop} {event : Transfer} {after : Connection}
    (sound : connection.Sound roomy) (lasts : event.Lasts) (room : roomy → event.Roomy)
    (taken : connection.step sender event = some after) : after.Sound roomy := by
  obtain ⟨passed, coming, cut⟩ := sound.cut
  cases event with
  | writer event =>
    obtain ⟨next, allowed, written, rfl⟩ := written_eq_some_iff.mp taken
    have noError : NoError event := by
      cases event with
      | failed ec => exact lasts
      | _ => trivial
    have change := step_change written
    have flight := flown sound noError allowed written
    refine ⟨sound.writer.change noError change, made_change lasts sound.made change, ?_,
      cut_flown cut sound.made flight⟩
    intro none
    dsimp only at none ⊢
    generalize connection.flightAfter event = later at flight ⊢
    cases flight with
    | same sent outstanding packet => exact sound.idle (outstanding.symm.trans none)
    | landed sent empty => rfl
    | taken item posted sent outstanding packet idle =>
      exact absurd none (Nat.ne_of_gt outstanding)
  | carried count =>
    obtain ⟨flight, flying, -, -, rfl⟩ := carried_eq_some_iff.mp taken
    refine ⟨sound.writer, sound.made, fun none => ?_, passed, coming, cut.sent, cut.whole,
      cut.kept, cut.all, ?_⟩
    · rw [sound.idle none] at flying
      contradiction
    · show Expects connection.reader coming _
      rw [carry_stream flight count flying]
      exact cut.expects
  | received index space =>
    obtain ⟨read, reader, found, fits, stepped, rfl⟩ := received_eq_some_iff.mp taken
    obtain ⟨front, rest, rfl, expects, ⟨more, queue, part⟩, all⟩ :=
      expects_received sender.peer cut.expects cut.whole found fits stepped
    refine ⟨sound.writer, sound.made, sound.idle, passed ++ front, rest, ?_, ?_, ?_, ?_, expects⟩
    · rw [List.append_assoc]
      exact cut.sent
    · exact fun frame inside => cut.whole frame (List.mem_append_right _ inside)
    · show (queued reader).Sublist _
      rw [queue, List.map_append]
      exact cut.kept.append part
    · intro roomy
      show queued reader = _
      rw [all (room roomy), cut.all roomy, List.map_append]

/-- A connection just opened. -/
theorem sound_opened (roomy : Prop) (sender : Endpoint) (writePacket readPacket : Packet) :
    (opened sender writePacket readPacket).Sound roomy where
  writer := .started writePacket
  made := fun _ inside => absurd inside List.not_mem_nil
  idle := fun _ => rfl
  cut := by
    refine ⟨[], [], rfl, fun _ inside => absurd inside List.not_mem_nil, ?_, ?_, .inl ?_⟩
    · cases sender <;> exact List.nil_sublist _
    · cases sender <;> exact fun _ => rfl
    · cases sender <;> exact ⟨⟨rfl, rfl, rfl⟩, rfl⟩

/-! ## What was handed over can arrive -/

/-- Bytes move, and the writer stands still. -/
abbrev Moving (sender : Endpoint) : Connection → List Transfer → Connection → Prop :=
  Run (Guarded (fun _ event => event.Moves) (Steps (Connection.step sender)))

/-- On an open socket what is left of the outstanding write can be carried. -/
theorem moves_carry (sender : Endpoint) (isOpen : connection.writer.socketOpen = true) :
    ∃ events after, Moving sender connection events after ∧ after.writer = connection.writer ∧
      after.reader = connection.reader ∧ after.wire = connection.wire ++ connection.uncarried := by
  by_cases none : connection.uncarried = []
  · exact ⟨[], connection, .nil connection, rfl, rfl, by rw [none, List.append_nil]⟩
  cases flying : connection.flight with
  | none =>
    unfold uncarried at none
    rw [flying] at none
    contradiction
  | some flight =>
    have left : connection.uncarried =
        (connection.writer.writePacket.data.take flight.size).drop flight.carried := by
      unfold uncarried
      rw [flying]
    have length : connection.uncarried.length ≤ flight.size - flight.carried := by
      rw [left, List.length_drop]
      exact Nat.sub_le_sub_right (List.length_take_le _ _) _
    have positive := List.length_pos_of_ne_nil none
    have fits : flight.carried + connection.uncarried.length ≤ flight.size := by omega
    have taken :=
      (@carried_eq_some_iff connection sender _ _).mpr ⟨flight, flying, isOpen, fits, rfl⟩
    rw [List.take_length] at taken
    have moves : Transfer.Moves (.carried connection.uncarried.length) := trivial
    exact ⟨_, _, .cons ⟨moves, taken⟩ (.nil _), rfl, rfl, rfl⟩

/-- The header of the first frame on the wire can be read. -/
theorem moves_header (sender : Endpoint) (connection : Connection) {frame : Frame} {more : Bytes}
    (waiting : Waiting connection.reader) (wire : connection.wire = frame.bytes ++ more) :
    ∃ reader, connection.step sender (.received 0 true) =
        some { connection with reader := reader, wire := frame.payload ++ more } ∧
      Holding frame reader ∧ queued reader = queued connection.reader := by
  rw [Frame.bytes, List.append_assoc] at wire
  have front : connection.wire.take headerSize = frame.header := by
    rw [wire, List.take_left' frame.header_length]
  have back : connection.wire.drop headerSize = frame.payload ++ more := by
    rw [wire, List.drop_left' frame.header_length]
  have fits : headerSize ≤ connection.wire.length := by
    rw [wire, List.length_append, frame.header_length]
    exact Nat.le_add_right _ _
  have found : connection.reader.reads[0]? = some ⟨.header, 0, headerSize⟩ := by
    rw [waiting.1, List.getElem?_cons_zero]
  obtain ⟨reader, taken⟩ := sender.peer.alternates.header_taken _ waiting frame
  obtain ⟨holding, same⟩ :=
    (sender.peer.alternates.header _ waiting _ _ _ _ taken).2 frame rfl
  refine ⟨reader, received_eq_some_iff.mpr ⟨_, reader, found, fits, ?_, ?_⟩, holding, same⟩
  · rw [front, taken]
  · rw [back]

/-- So can its payload. -/
theorem moves_payload (sender : Endpoint) (connection : Connection) {frame : Frame} {more : Bytes}
    (holding : Holding frame connection.reader) (whole : Whole frame)
    (wire : connection.wire = frame.payload ++ more) :
    ∃ reader, connection.step sender (.received 0 true) =
        some { connection with reader := reader, wire := more } ∧
      Waiting reader ∧ queued reader = queued connection.reader ++ [frame.bytes] := by
  have front : connection.wire.take frame.payload.length = frame.payload := by
    rw [wire, List.take_left]
  have back : connection.wire.drop frame.payload.length = more := by
    rw [wire, List.drop_left]
  have fits : frame.payload.length ≤ connection.wire.length := by
    rw [wire, List.length_append]
    exact Nat.le_add_right _ _
  have found : connection.reader.reads[0]? =
      some ⟨.payload, headerSize, frame.payload.length⟩ := by
    rw [holding.1, List.getElem?_cons_zero]
  obtain ⟨reader, taken⟩ := sender.peer.alternates.payload_taken frame _ holding
  obtain ⟨waiting, kept⟩ :=
    (sender.peer.alternates.payload frame _ holding _ _ _ taken).2 rfl
  refine ⟨reader, received_eq_some_iff.mpr ⟨_, reader, found, fits, ?_, ?_⟩, waiting, ?_⟩
  · rw [front, taken]
  · rw [back]
  · rw [kept connection.reader.readPacket, whole]

/-- A waiting reader can read all the frames on the wire. -/
theorem moves_frames (sender : Endpoint) (connection : Connection) {frames : List Frame}
    (waiting : Waiting connection.reader) (whole : ∀ frame ∈ frames, Whole frame)
    (wire : connection.wire = frames.flatMap Frame.bytes) :
    ∃ events after, Moving sender connection events after ∧ after.writer = connection.writer ∧
      queued after.reader = queued connection.reader ++ frames.map Frame.bytes := by
  induction frames generalizing connection with
  | nil => exact ⟨[], connection, .nil connection, rfl, by rw [List.map_nil, List.append_nil]⟩
  | cons frame frames ih =>
    obtain ⟨middle, first, holding, same⟩ := moves_header sender connection waiting wire
    obtain ⟨reader, second, again, more⟩ :=
      moves_payload sender { connection with reader := middle, wire := _ } holding
        (whole frame List.mem_cons_self) rfl
    obtain ⟨events, after, rest, writer, queue⟩ :=
      ih { connection with reader := reader, wire := _ } again
        (fun other inside => whole other (List.mem_cons_of_mem _ inside)) rfl
    have two : Moving sender connection [.received 0 true, .received 0 true]
        { connection with reader := reader, wire := frames.flatMap Frame.bytes } :=
      .cons ⟨rfl, first⟩ (.cons ⟨rfl, second⟩ (.nil _))
    refine ⟨_, after, two.append rest, writer, ?_⟩
    rw [queue, more, same, List.append_assoc]
    rfl

/-- Whatever the reader is at, all that was handed over can arrive. -/
theorem moves_all (sender : Endpoint) {passed coming : List Frame}
    (cut : Cut True connection passed coming) (isOpen : connection.writer.socketOpen = true) :
    ∃ events after, Moving sender connection events after ∧ after.writer = connection.writer ∧
      queued after.reader =
        connection.writer.ledger.sent.map fun item => item.value.bytes := by
  obtain ⟨carried, middle, first, writer, reader, wire⟩ := moves_carry sender isOpen
  have total : connection.writer.ledger.sent.map (fun item => item.value.bytes) =
      queued middle.reader ++ coming.map Frame.bytes := by
    rw [cut.sent, reader, cut.all trivial, List.map_append]
  rcases cut.expects with ⟨waiting, stream⟩ | ⟨frame, rest, rfl, holding, stream⟩
  · rw [← reader] at waiting
    obtain ⟨events, after, second, same, queue⟩ :=
      moves_frames sender middle waiting cut.whole (wire.trans stream)
    exact ⟨_, after, first.append second, same.trans writer, queue.trans total.symm⟩
  · rw [← reader] at holding
    obtain ⟨next, taken, waiting, more⟩ := moves_payload sender middle holding
      (cut.whole frame List.mem_cons_self) (wire.trans stream)
    obtain ⟨events, after, second, same, queue⟩ :=
      moves_frames sender { middle with reader := next, wire := _ } waiting
        (fun other inside => cut.whole other (List.mem_cons_of_mem _ inside)) rfl
    have one : Moving sender middle [.received 0 true]
        { middle with reader := next, wire := rest.flatMap Frame.bytes } :=
      .cons ⟨rfl, taken⟩ (.nil _)
    refine ⟨_, after, first.append (one.append second), same.trans writer, ?_⟩
    rw [queue, total, more, List.append_assoc]
    rfl

end Connection

/-! ## From `write()` to the read queue -/

/-- What a connection promises after these events. -/
structure Conveyed (sender : Endpoint) (events : List Transfer) (connection : Connection) :
    Prop where
  /-- The peer's queue holds packets passed to `write()`, byte for byte and in that order. -/
  order : (queued connection.reader).Sublist
    ((postedPackets (events.filterMap Transfer.written)).map Packet.bytes)
  /-- If there was room for each, it holds the first ones handed to `async_write`, all of them. -/
  all : (∀ event ∈ events, event.Roomy) →
    queued connection.reader <+: connection.writer.ledger.sent.map fun item => item.value.bytes
  /-- While the socket is open, those still missing can arrive. -/
  arrive : (∀ event ∈ events, event.Roomy) → connection.writer.socketOpen = true →
    ∃ more after, Run (Guarded (fun _ event => event.Moves) (Steps (Connection.step sender)))
        connection more after ∧ after.writer = connection.writer ∧
      queued after.reader =
        connection.writer.ledger.sent.map fun item => item.value.bytes

/-- The invariant over a run. -/
theorem Connection.sound_run {sender : Endpoint} {start finish : Connection}
    {events : List Transfer} (roomy : Prop) (sound : start.Sound roomy)
    (room : roomy → ∀ event ∈ events, event.Roomy)
    (run : Run (Guarded (fun _ event => event.Lasts) (Steps (Connection.step sender)))
      start events finish) : finish.Sound roomy := by
  induction run with
  | nil => exact sound
  | cons taken _ ih =>
    have next := Connection.sound_step sound taken.1
      (fun given => room given _ List.mem_cons_self) taken.2
    exact ih next fun given event inside => room given event (List.mem_cons_of_mem _ inside)

/-- The ledger lists the packets passed to `write()` over a run. -/
theorem Connection.posted_over {sender : Endpoint} {start finish : Connection}
    {events : List Transfer} (run : Run (Steps (Connection.step sender)) start events finish) :
    finish.writer.ledger.posted.map Base.Numbered.value =
      start.writer.ledger.posted.map Base.Numbered.value ++
        postedPackets (events.filterMap Transfer.written) := by
  induction run with
  | nil => exact (List.append_nil _).symm
  | @cons start middle finish event events taken rest ih =>
    rw [ih]
    cases event with
    | writer event =>
      obtain ⟨next, -, written, rfl⟩ := Connection.written_eq_some_iff.mp taken
      have joined : postedPackets ((Transfer.writer event :: events).filterMap Transfer.written) =
          postedPackets [event] ++ postedPackets (events.filterMap Transfer.written) := by
        cases event <;> rfl
      rw [joined, ← List.append_assoc, ← posted_change (step_change written)]
    | carried count =>
      obtain ⟨flight, -, -, -, rfl⟩ := Connection.carried_eq_some_iff.mp taken
      rfl
    | received index room =>
      obtain ⟨read, reader, -, -, -, rfl⟩ := Connection.received_eq_some_iff.mp taken
      rfl

/-- In both directions and every interleaving of `write()` calls, handlers, removals by
`clear_queues()`, bytes carried a few at a time and reads of the peer, until a write fails: the
peer's queue holds packets passed to `write()`, byte for byte and in that order; if it had room for
each, then all those that arrived; and on an open socket every packet handed to `async_write` can
arrive. -/
theorem packets_conveyed (sender : Endpoint) (writePacket readPacket : Packet)
    (events : List Transfer) (connection : Connection)
    (run : Run (Guarded (fun _ event => event.Lasts) (Steps (Connection.step sender)))
      (.opened sender writePacket readPacket) events connection) :
    Conveyed sender events connection := by
  have sound := Connection.sound_run False (Connection.sound_opened _ _ _ _)
    (fun absurdity => absurdity.elim) run
  have lossless : (∀ event ∈ events, event.Roomy) → connection.Sound True := fun roomy =>
    Connection.sound_run True (Connection.sound_opened _ _ _ _) (fun _ => roomy) run
  have posted := Connection.posted_over run.unguarded
  obtain ⟨passed, coming, cut⟩ := sound.cut
  refine ⟨?_, fun roomy => ?_, fun roomy isOpen => ?_⟩
  · have sent : (connection.writer.ledger.sent.map fun item => item.value.bytes).Sublist
        ((connection.writer.ledger.posted.map Base.Numbered.value).map Packet.bytes) := by
      rw [List.map_map]
      exact sound.writer.balanced.sent_sublist.map _
    rw [posted, cut.sent, List.map_append] at sent
    exact (cut.kept.trans (List.sublist_append_left _ _)).trans sent
  · obtain ⟨passed, coming, cut⟩ := (lossless roomy).cut
    rw [cut.all trivial, cut.sent, List.map_append]
    exact List.prefix_append _ _
  · obtain ⟨passed, coming, cut⟩ := (lossless roomy).cut
    exact Connection.moves_all sender cut isOpen

/-- A keepalive posted by the client and read by the server, its bytes carried in two parts. -/
theorem packets_conveyed_keepalive :
    ∃ events connection, Conveyed .client events connection ∧
      queued connection.reader = [makeHeader 7 .ka 0 []] := by
  let keepalive := Packet.cleared.overwrite (makeHeader 7 .ka 0 [] ++ [])
  have made : Made keepalive :=
    ⟨.cleared, 7, .ka, 0, [], Packet.build_of_fits .cleared 7 .ka 0 [] (by decide) (by decide)⟩
  let events : List Transfer := [.writer (.posted keepalive), .writer .begun,
    .writer (.proceed true), .writer (.proceed true), .writer (.proceed true),
    .writer (.proceed true), .carried 5, .carried 8, .received 0 true, .received 0 true,
    .writer .completed, .writer (.proceed true)]
  have lasts : ∀ event ∈ events, event.Lasts := by
    intro event inside
    simp only [events, List.mem_cons, List.not_mem_nil, or_false] at inside
    rcases inside with rfl | rfl | rfl | rfl | rfl | rfl | rfl | rfl | rfl | rfl | rfl | rfl
    · exact made
    all_goals trivial
  have executed : ((execute (Connection.step .client) (.opened .client .cleared .cleared)
      events).any fun connection =>
        decide (queued connection.reader = [makeHeader 7 .ka 0 []])) = true := by
    decide +kernel
  obtain ⟨connection, reached, holds⟩ := (Option.any_eq_true _ _).mp executed
  have run := ((execute_eq_some_iff _ _ _ _).mp reached).guarded lasts
  exact ⟨events, connection, packets_conveyed .client .cleared .cleared events connection run,
    of_decide_eq_true holds⟩

end Hdcp.Tcp
