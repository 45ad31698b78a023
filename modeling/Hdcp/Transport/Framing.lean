import Hdcp.Transport.TcpReader
import Hdcp.Packet.RoundTrip

/-!
# Stream framing

A connection carries frames back to back. Each reader alternates between two states: waiting for
a header, and holding an accepted header and waiting for its payload. Two steps take it through
one frame, and an induction over the frames takes it through the stream. The induction is stated
once, for any reader whose steps alternate so, and both transports are shown to.
-/

namespace Hdcp.Tcp

open Base

/-- A frame on the wire: a header the parser accepts and as many bytes as it announces. -/
structure Frame where
  /-- The header's thirteen bytes. -/
  header : Bytes
  /-- The payload's bytes, of any content. -/
  payload : Bytes
  /-- The header is accepted and its length field is the payload's length. -/
  valid : (Hdcp.parseHeader header).map (fun accepted => accepted.len.toNat) = .ok payload.length

namespace Frame

/-- The bytes of a frame on the wire. -/
def bytes (frame : Frame) : Bytes := frame.header ++ frame.payload

/-- What the one-buffer parser makes of a frame taken alone: the bytes of its packet, or nothing. -/
def kept (raw : Packet) (frame : Frame) : List Bytes :=
  match Packet.ofView raw frame.bytes with
  | .ok packet => [packet.bytes]
  | .error _ => []

/-- The accepted header of a frame. -/
theorem accepted (frame : Frame) :
    ∃ header, Hdcp.parseHeader frame.header = .ok header ∧ header.bytes = frame.header ∧
      header.len.toNat = frame.payload.length ∧ frame.payload.length ≤ maxPlSize := by
  have valid := frame.valid
  cases parsed : Hdcp.parseHeader frame.header with
  | error refused => simp [parsed, Except.map] at valid
  | ok header =>
    simp only [parsed, Except.map, Except.ok.injEq] at valid
    obtain ⟨same, size, -, -, -, -, small⟩ := (parseHeader_ok_iff _ _).mp parsed
    exact ⟨header, rfl, by rw [same, Header.bytes_ofBytes _ size], valid, by omega⟩

/-- A header is thirteen bytes. -/
theorem header_length (frame : Frame) : frame.header.length = headerSize := by
  obtain ⟨header, parsed, -⟩ := frame.accepted
  exact ((parseHeader_ok_iff _ _).mp parsed).2.1

/-- The one-buffer parser keeps a frame exactly when its payload is accepted, and then keeps
just its bytes. -/
theorem kept_eq (raw : Packet) (frame : Frame) (header : Header)
    (parsed : Hdcp.parseHeader frame.header = .ok header) :
    frame.kept raw =
      match Hdcp.parsePayload frame.payload header with
      | .ok _ => [frame.bytes]
      | .error _ => [] := by
  obtain ⟨same, again, bytes, len, small⟩ := frame.accepted
  obtain rfl := Except.ok.inj (parsed.symm.trans again)
  have view := Packet.ofView_frame raw frame.header frame.payload [] header parsed len
  rw [List.append_nil] at view
  rw [kept, Frame.bytes, view]
  cases Hdcp.parsePayload frame.payload header with
  | error refused => rfl
  | ok done =>
    have held := (Packet.overwrite_frame raw header frame.payload len small).2.2
    simp only [Except.map, ← bytes, held]

end Frame

/-! ## Any reader that alternates -/

/-- Waiting for a header, with the io thread alive. -/
def Waiting (reader : Reader) : Prop :=
  reader.reads = [⟨.header, 0, headerSize⟩] ∧ reader.running = true ∧ reader.looping = true

/-- Holding a frame's header and waiting for its payload, with the io thread alive. -/
def Holding (frame : Frame) (reader : Reader) : Prop :=
  reader.reads = [⟨.payload, headerSize, frame.payload.length⟩] ∧ reader.running = true ∧
    reader.looping = true ∧ ∃ raw : Packet, reader.readPacket = raw.overwrite frame.header

/-- The packets put in the read queue, on their `size()` bytes. -/
def queued (reader : Reader) : List Bytes := reader.readQueue.map Packet.bytes

/-- The bytes an event delivers from the stream. -/
def Event.received : Event → Bytes
  | .done _ bytes _ => bytes
  | _ => []

/-- A run that delivers a byte stream through completed reads, while the read queue has room, and
ends waiting for a header. -/
def Conveys (step : Reader → Event → Option Reader) (start : Reader) (stream : Bytes)
    (events : List Event) (finish : Reader) : Prop :=
  Run (Steps step) start events finish ∧ events.flatMap Event.received = stream ∧
    (∀ event ∈ events, ∃ index bytes, event = .done index bytes true) ∧
      finish.reads = [⟨.header, 0, headerSize⟩]

/-- The reader's completed steps take it from header to payload and back, keeping a payload that
is accepted. -/
structure Alternates (step : Reader → Event → Option Reader) : Prop where
  /-- Waiting for a header, the reader takes thirteen bytes; if they are a frame's header it then
  holds it. -/
  header : ∀ reader, Waiting reader → ∀ index bytes room next,
    step reader (.done index bytes room) = some next →
      bytes.length = headerSize ∧ ∀ frame : Frame, bytes = frame.header →
        Holding frame next ∧ queued next = queued reader
  /-- Waiting for a header, the reader does take the bytes of a frame's header. -/
  header_taken : ∀ reader, Waiting reader → ∀ frame : Frame,
    ∃ next, step reader (.done 0 frame.header true) = some next
  /-- Holding a frame's header, the reader takes as many bytes as its payload; if they are the
  payload it is waiting again and has kept what the one-buffer parser keeps. -/
  payload : ∀ frame reader, Holding frame reader → ∀ index bytes next,
    step reader (.done index bytes true) = some next →
      bytes.length = frame.payload.length ∧ (bytes = frame.payload →
        Waiting next ∧ ∀ raw, queued next = queued reader ++ frame.kept raw)
  /-- Holding a frame's header, the reader does take the bytes of its payload. -/
  payload_taken : ∀ frame reader, Holding frame reader →
    ∃ next, step reader (.done 0 frame.payload true) = some next

section Stream

variable {step : Reader → Event → Option Reader} (alternates : Alternates step)

include alternates

/-- Two completions take a waiting reader through one frame. -/
theorem frame_taken (frame : Frame) (reader : Reader) (waiting : Waiting reader) (raw : Packet) :
    ∃ next, Run (Steps step) reader
        [.done 0 frame.header true, .done 0 frame.payload true] next ∧
      Waiting next ∧ queued next = queued reader ++ frame.kept raw := by
  obtain ⟨middle, first⟩ := alternates.header_taken reader waiting frame
  obtain ⟨holding, same⟩ := (alternates.header reader waiting _ _ _ _ first).2 frame rfl
  obtain ⟨next, second⟩ := alternates.payload_taken frame middle holding
  obtain ⟨again, kept⟩ := (alternates.payload frame middle holding _ _ _ second).2 rfl
  exact ⟨next, .cons first (.cons second (.nil next)), again, by rw [kept raw, same]⟩

/-- Some run conveys any stream of frames to a waiting reader. -/
theorem stream_conveyed (frames : List Frame) (reader : Reader) (waiting : Waiting reader) :
    ∃ events finish, Conveys step reader (frames.flatMap Frame.bytes) events finish := by
  induction frames generalizing reader with
  | nil => exact ⟨[], reader, .nil reader, rfl, by simp, waiting.1⟩
  | cons frame frames ih =>
    obtain ⟨next, first, again, -⟩ :=
      frame_taken alternates frame reader waiting reader.readPacket
    obtain ⟨events, finish, rest, received, all, ends⟩ := ih next again
    refine ⟨_, finish, first.append rest, ?_, ?_, ends⟩
    · simp [received, Event.received, Frame.bytes]
    · intro event inside
      rcases List.mem_append.mp inside with front | back
      · simp only [List.mem_cons, List.not_mem_nil, or_false] at front
        rcases front with rfl | rfl <;> exact ⟨_, _, rfl⟩
      · exact all event back

/-- Every run that conveys a stream of frames to a waiting reader puts in its queue exactly what
the one-buffer parser keeps of the frames taken one at a time. -/
theorem conveyed_queued (raw : Packet) (frames : List Frame) (reader finish : Reader)
    (waiting : Waiting reader) (events : List Event)
    (conveys : Conveys step reader (frames.flatMap Frame.bytes) events finish) :
    queued finish = queued reader ++ frames.flatMap (Frame.kept raw) := by
  induction frames generalizing reader events with
  | nil =>
    obtain ⟨run, received, all, -⟩ := conveys
    cases run with
    | nil => simp
    | cons taken _ =>
      -- a completion takes thirteen bytes, and the empty stream has none
      obtain ⟨index, bytes, rfl⟩ := all _ List.mem_cons_self
      have size := (alternates.header reader waiting _ _ _ _ taken).1
      simp only [List.flatMap_nil, List.flatMap_cons, Event.received, List.append_eq_nil_iff]
        at received
      rw [received.1] at size
      contradiction
  | cons frame frames ih =>
    obtain ⟨run, received, all, ends⟩ := conveys
    rw [List.flatMap_cons, Frame.bytes, List.append_assoc] at received
    cases run with
    | nil =>
      have size := frame.header_length
      rw [(List.append_eq_nil_iff.mp received.symm).1] at size
      contradiction
    | cons first run =>
      obtain ⟨index, bytes, rfl⟩ := all _ List.mem_cons_self
      obtain ⟨size, hold⟩ := alternates.header reader waiting _ _ _ _ first
      rw [List.flatMap_cons, Event.received] at received
      obtain ⟨rfl, later⟩ :=
        List.append_inj received (size.trans frame.header_length.symm)
      obtain ⟨holding, same⟩ := hold frame rfl
      cases run with
      | nil => simp [holding.1] at ends
      | cons second run =>
        obtain ⟨index', bytes', rfl⟩ := all _ (List.mem_cons_of_mem _ List.mem_cons_self)
        obtain ⟨size', wait⟩ := alternates.payload frame _ holding _ _ _ second
        rw [List.flatMap_cons, Event.received] at later
        obtain ⟨rfl, last⟩ := List.append_inj later size'
        obtain ⟨again, kept⟩ := wait rfl
        rw [ih _ again _ ⟨run, last,
          fun event inside => all event (List.mem_cons_of_mem _ (List.mem_cons_of_mem _ inside)),
          ends⟩, kept raw, same, List.flatMap_cons, List.append_assoc]

end Stream

/-! ## Both transports alternate -/

/-- With one read outstanding, a completion is of that read. -/
theorem complete_alone {reader next : Reader} {read : Read} {index : Nat} {bytes : Bytes}
    {handle : Read → Reader → Reader} (alone : reader.reads = [read])
    (taken : complete reader index bytes handle = some next) :
    bytes.length = read.size ∧ next = handle read
      { reader with reads := [], readPacket := reader.readPacket.store read.offset bytes } := by
  obtain ⟨found, at_index, -, size, result⟩ := (complete_eq_some_iff _ _ _ _ _).mp taken
  rw [alone] at at_index result
  cases index with
  | zero =>
    obtain rfl := Option.some.inj at_index
    exact ⟨size, result⟩
  | succ index => simp at at_index

/-- With one read outstanding and the io thread alive, the bytes it requested complete it. -/
theorem complete_taken (reader : Reader) {read : Read} {bytes : Bytes}
    (handle : Read → Reader → Reader) (alone : reader.reads = [read])
    (looping : reader.looping = true) (size : bytes.length = read.size) :
    ∃ next, complete reader 0 bytes handle = some next :=
  ⟨_, (complete_eq_some_iff _ _ _ _ _).mpr
    ⟨read, by rw [alone, List.getElem?_cons_zero], looping, size, rfl⟩⟩

/-- The header view of an array whose front was overwritten by a frame's header. -/
theorem headerView_overwrite (raw : Packet) (frame : Frame) :
    (raw.overwrite frame.header).headerView = frame.header := by
  have size := frame.header_length
  rw [Packet.headerView, Packet.overwrite_data raw _ (by rw [size]; decide),
    List.take_left' size]

/-- The header of an array whose front was overwritten by a frame's header. -/
theorem header_overwrite (raw : Packet) (frame : Frame) (header : Header)
    (parsed : Hdcp.parseHeader frame.header = .ok header) :
    (raw.overwrite frame.header).header = header := by
  obtain ⟨rfl, size, -⟩ := (parseHeader_ok_iff _ _).mp parsed
  rw [Packet.header, Packet.overwrite_data raw _ (by rw [size]; decide),
    ← Header.ofBytes_take _ headerSize (Nat.le_refl _), List.take_left' size]

/-- A payload stored behind its header: the array holds the frame. -/
theorem store_payload (raw : Packet) (frame : Frame) (header : Header)
    (parsed : Hdcp.parseHeader frame.header = .ok header) :
    let packet := (raw.overwrite frame.header).store headerSize frame.payload
    packet.parsePayload = Hdcp.parsePayload frame.payload header ∧ packet.bytes = frame.bytes := by
  obtain ⟨same, again, bytes, len, small⟩ := frame.accepted
  obtain rfl := Except.ok.inj (parsed.symm.trans again)
  have whole : (frame.header ++ frame.payload).length ≤ maxSize := by
    simp only [List.length_append, frame.header_length, headerSize, maxPlSize, maxSize] at small ⊢
    omega
  have joined := Packet.store_overwrite raw frame.header frame.payload whole
  rw [frame.header_length] at joined
  obtain ⟨head, body, held⟩ := Packet.overwrite_frame raw header frame.payload len small
  rw [bytes] at head body held
  simp only [joined, Packet.parsePayload, head, body, held, Frame.bytes, and_self]

/-- The client alternates: an ill-formed payload is dropped on the way through `run()`. -/
theorem client_alternates : Alternates Client.step where
  header := by
    rintro reader ⟨alone, running, looping⟩ index bytes room next taken
    obtain ⟨size, rfl⟩ := complete_alone alone taken
    refine ⟨size, ?_⟩
    rintro frame rfl
    obtain ⟨header, parsed, -, len, -⟩ := frame.accepted
    have view := headerView_overwrite reader.readPacket frame
    have front := header_overwrite reader.readPacket frame header parsed
    rw [Packet.overwrite] at view front
    simp only [Client.handler, Client.run_onHeader, Packet.parseHeader, view, parsed, front, len]
    exact ⟨⟨rfl, running, looping, reader.readPacket, rfl⟩, rfl⟩
  header_taken := by
    rintro reader ⟨alone, running, looping⟩ frame
    exact complete_taken reader _ alone looping frame.header_length
  payload := by
    rintro frame reader ⟨alone, running, looping, raw, held⟩ index bytes next taken
    obtain ⟨size, rfl⟩ := complete_alone alone taken
    refine ⟨size, ?_⟩
    rintro rfl
    obtain ⟨header, parsed, -⟩ := frame.accepted
    obtain ⟨checked, stored⟩ := store_payload raw frame header parsed
    simp only [Client.handler, Client.run_onPayload, held, checked, frame.kept_eq _ header parsed]
    cases Hdcp.parsePayload frame.payload header with
    | ok done => exact ⟨⟨rfl, running, looping⟩, by simp [queued, stored]⟩
    | error refused => exact ⟨⟨rfl, running, running⟩, by simp [queued]⟩
  payload_taken := by
    rintro frame reader ⟨alone, running, looping, -⟩
    exact complete_taken reader _ alone looping rfl

/-- The server alternates: an ill-formed payload is dropped inside the handler. -/
theorem server_alternates : Alternates Server.step where
  header := by
    rintro reader ⟨alone, running, looping⟩ index bytes room next taken
    obtain ⟨size, rfl⟩ := complete_alone alone taken
    refine ⟨size, ?_⟩
    rintro frame rfl
    obtain ⟨header, parsed, -, len, -⟩ := frame.accepted
    have view := headerView_overwrite reader.readPacket frame
    have front := header_overwrite reader.readPacket frame header parsed
    rw [Packet.overwrite] at view front
    simp only [Server.handler, Server.run_onHeader, Packet.parseHeader, view, parsed, front, len]
    exact ⟨⟨rfl, running, looping, reader.readPacket, rfl⟩, rfl⟩
  header_taken := by
    rintro reader ⟨alone, running, looping⟩ frame
    exact complete_taken reader _ alone looping frame.header_length
  payload := by
    rintro frame reader ⟨alone, running, looping, raw, held⟩ index bytes next taken
    obtain ⟨size, rfl⟩ := complete_alone alone taken
    refine ⟨size, ?_⟩
    rintro rfl
    obtain ⟨header, parsed, -⟩ := frame.accepted
    obtain ⟨checked, stored⟩ := store_payload raw frame header parsed
    simp only [Server.handler, Server.run_onPayload, held, checked, frame.kept_eq _ header parsed]
    cases Hdcp.parsePayload frame.payload header with
    | ok done => exact ⟨⟨rfl, running, looping⟩, by simp [queued, stored]⟩
    | error refused => exact ⟨⟨rfl, running, looping⟩, by simp [queued]⟩
  payload_taken := by
    rintro frame reader ⟨alone, running, looping, -⟩
    exact complete_taken reader _ alone looping rfl

/-- Both readers, started on a connection that carries any frames back to back, can take the whole
stream, and whenever they have, their queue holds exactly the packets the one-buffer parser builds
from the frames it accepts taken one at a time, in order. -/
theorem stream_framing (raw packet : Packet) (frames : List Frame) :
    let stream := frames.flatMap Frame.bytes
    let expected := frames.flatMap (Frame.kept raw)
    ((∃ events finish, Conveys Client.step (Client.started packet) stream events finish) ∧
      ∀ events finish, Conveys Client.step (Client.started packet) stream events finish →
        finish.readQueue.map Packet.bytes = expected) ∧
    ((∃ events finish, Conveys Server.step (Server.connected packet) stream events finish) ∧
      ∀ events finish, Conveys Server.step (Server.connected packet) stream events finish →
        finish.readQueue.map Packet.bytes = expected) := by
  have client : Waiting (Client.started packet) := ⟨rfl, rfl, rfl⟩
  have server : Waiting (Server.connected packet) := ⟨rfl, rfl, rfl⟩
  refine ⟨⟨stream_conveyed client_alternates frames _ client, ?_⟩,
    ⟨stream_conveyed server_alternates frames _ server, ?_⟩⟩
  · intro events finish conveys
    exact conveyed_queued client_alternates raw frames _ finish client events conveys
  · intro events finish conveys
    exact conveyed_queued server_alternates raw frames _ finish server events conveys

end Hdcp.Tcp
