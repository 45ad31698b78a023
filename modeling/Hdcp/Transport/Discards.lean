import Hdcp.Transport.ReaderSafety
import Hdcp.Packet.Canonical
import Mathlib.Data.List.Induction
import Mathlib.Logic.Relation

/-!
# What the client makes of refused frames

A frame may carry a version or a type the client does not know. Its header is refused, and the
client looks for the next header right behind it, inside the payload that is still in the stream.
Where it looks is determined by the stream: behind a refused header thirteen bytes further, behind
an accepted one past the payload it announces. The packets delivered are the acceptable ones at
these places, each with its place in the stream, so frames are discarded whole exactly when these
places and the starts of the acceptable frames agree.
-/

namespace Hdcp.Tcp

open Base
open Relation (ReflTransGen)

/-- A frame of any version, type, block count and content. -/
structure Framed where
  /-- The header. -/
  header : Header
  /-- The payload's bytes. -/
  payload : Bytes
  /-- The header begins with the start of packet. -/
  start : header.sop = sop
  /-- The header carries the checksum of its first eleven bytes. -/
  checksum : header.hCrc = computeCrc header.summed
  /-- The length field is at most 2035. -/
  small : header.len.toNat ≤ 2035
  /-- There are exactly as many payload bytes. -/
  whole : payload.length = header.len.toNat

namespace Framed

/-- The bytes of a frame in the stream. -/
def bytes (frame : Framed) : Bytes := frame.header.bytes ++ frame.payload

/-- The header parser refuses the frame. -/
def Refused (frame : Framed) : Prop := ∃ error, Hdcp.parseHeader frame.header.bytes = .error error

/-- The frame is a packet: header and payload are accepted. -/
def Acceptable (frame : Framed) : Prop :=
  Hdcp.Accepted frame.header.bytes frame.payload frame.header

end Framed

/-- The stream of some frames, back to back. -/
def streamOf (frames : List Framed) : Bytes := frames.flatMap Framed.bytes

/-- A frame starts at an offset of the stream. -/
def Occurs (frames : List Framed) (offset : Nat) (frame : Framed) : Prop :=
  ∃ before after, frames = before ++ frame :: after ∧ offset = (streamOf before).length

/-- A header the parser accepts, and a payload it accepts, stand at an offset of the stream. -/
def StandsAt (stream : Bytes) (offset : Nat) (packet : Bytes) : Prop :=
  ∃ front body header, Hdcp.Accepted front body header ∧ packet = front ++ body ∧
    packet <+: stream.drop offset

/-- From one place at which the client looks for a header to the next. -/
inductive Onward (stream : Bytes) (here : Nat) : Nat → Prop where
  /-- A refused header is thirteen bytes that are skipped. -/
  | refused {front rest : Bytes} {error : PacketError} (split : stream.drop here = front ++ rest)
      (size : front.length = headerSize) (refused : Hdcp.parseHeader front = .error error) :
      Onward stream here (here + headerSize)
  /-- An accepted header is skipped with as many bytes as it announces. -/
  | accepted {front body rest : Bytes} {header : Header}
      (split : stream.drop here = front ++ (body ++ rest))
      (accepted : Hdcp.parseHeader front = .ok header) (size : body.length = header.len.toNat) :
      Onward stream here (here + headerSize + body.length)

/-- A place of the stream at which the client looks for a header. -/
def Place (stream : Bytes) (place : Nat) : Prop := ReflTransGen (Onward stream) 0 place

/-! ## The client on its stream -/

/-- The client, what it has read of its stream, and the packets it has delivered, each with the
offset of its first byte in the stream. -/
structure Reading where
  /-- The client. -/
  reader : Reader
  /-- The bytes its reads were completed with. -/
  got : Bytes
  /-- The packets put in the read queue, on their `size()` bytes, with their offsets. -/
  delivered : List (Nat × Bytes)

namespace Reading

/-- One event of the client: a packet put in the queue ends where the stream was read to. -/
def step (reading : Reading) (event : Event) : Option Reading :=
  match Client.step reading.reader event with
  | none => none
  | some next =>
    let got := reading.got ++ event.received
    let fresh := next.readQueue.drop reading.reader.readQueue.length
    some
      { reader := next
        got := got
        delivered := reading.delivered ++
          fresh.map fun packet => (got.length - packet.bytes.length, packet.bytes) }

/-- The client after `start()`, at the front of its stream. -/
def started (packet : Packet) : Reading := ⟨Client.started packet, [], []⟩

end Reading

/-- Outstanding reads complete, and the read queue has room. -/
def Roomy (event : Event) : Prop := ∃ index bytes, event = .done index bytes true

/-- A run of completions, with room in the read queue, that goes on until what is left of the
stream is less than the client waits for. -/
def Exhausts (packet : Packet) (stream : Bytes) (events : List Event) (finish : Reading) : Prop :=
  Run (Guarded (fun _ event => Roomy event) (Steps Reading.step)) (Reading.started packet) events
      finish ∧
    ∃ rest, stream = finish.got ++ rest ∧ ∀ read ∈ finish.reader.reads, rest.length < read.size

/-- Frames are discarded whole, or delivered. -/
structure DiscardsWhole (packet : Packet) (frames : List Framed) : Prop where
  /-- In every run every packet delivered is one of the frames in full. -/
  whole : ∀ events finish, Run (Steps Reading.step) (Reading.started packet) events finish →
    finish.got <+: streamOf frames → ∀ offset bytes, (offset, bytes) ∈ finish.delivered →
      ∃ frame, Occurs frames offset frame ∧ bytes = frame.bytes
  /-- In every run no packet delivered has a byte of the payload of a frame whose header was
  refused. -/
  spared : ∀ events finish, Run (Steps Reading.step) (Reading.started packet) events finish →
    finish.got <+: streamOf frames → ∀ offset bytes, (offset, bytes) ∈ finish.delivered →
      ∀ start frame, Occurs frames start frame → frame.Refused → ∀ position,
        start + headerSize ≤ position → position < start + frame.bytes.length →
          ¬ (offset ≤ position ∧ position < offset + bytes.length)
  /-- In every run through the stream every acceptable frame is delivered. -/
  delivered : ∀ events finish, Exhausts packet (streamOf frames) events finish →
    ∀ offset frame, Occurs frames offset frame → frame.Acceptable →
      (offset, frame.bytes) ∈ finish.delivered

/-- The client looks for a header at the start of every acceptable frame, and no packet stands at
any other place at which it looks. -/
structure ReadInStep (frames : List Framed) : Prop where
  /-- The start of every acceptable frame is a place. -/
  found : ∀ offset frame, Occurs frames offset frame → frame.Acceptable →
    Place (streamOf frames) offset
  /-- A packet at a place is at the start of a frame. -/
  alone : ∀ place packet, Place (streamOf frames) place →
    StandsAt (streamOf frames) place packet → ∃ frame, Occurs frames place frame

/-! ## Where the client is -/

/-- The client looks for a header at a place, or holds the accepted header it found there. -/
inductive At (stream : Bytes) (here : Nat) (reading : Reading) : Prop where
  /-- The header read is outstanding. -/
  | waiting (place : reading.got.length = here)
      (alone : reading.reader.reads = [⟨.header, 0, headerSize⟩])
  /-- The header was accepted and the payload read is outstanding. -/
  | holding {earlier front : Bytes} {header : Header} {raw : Packet}
      (place : earlier.length = here) (got : reading.got = earlier ++ front)
      (accepted : Hdcp.parseHeader front = .ok header)
      (held : reading.reader.readPacket = raw.overwrite front)
      (alone : reading.reader.reads = [⟨.payload, headerSize, header.len.toNat⟩])

/-- What is delivered on the way onward from a place: the packet that stands there, if there is one
and the queue has room. -/
inductive Delivers (stream : Bytes) (here : Nat) (event : Event) (reading next : Reading) :
    Prop where
  /-- No packet, and none is missed. -/
  | none (same : next.delivered = reading.delivered)
      (missed : Roomy event → ∀ packet, ¬ StandsAt stream here packet)
  /-- The one packet that stands there. -/
  | packet {packet : Bytes} (stands : StandsAt stream here packet)
      (put : next.delivered = reading.delivered ++ [(here, packet)])
      (only : ∀ other, StandsAt stream here other → other = packet)

/-- A packet that stands where thirteen bytes are begins with them. -/
theorem StandsAt.split {stream front rest packet : Bytes} {here : Nat}
    (stands : StandsAt stream here packet) (split : stream.drop here = front ++ rest)
    (size : front.length = headerSize) :
    ∃ header body last, Hdcp.Accepted front body header ∧ packet = front ++ body ∧
      rest = body ++ last := by
  obtain ⟨front', body, header, accepted, rfl, last, same⟩ := stands
  have size' := ((parseHeader_ok_iff _ _).mp accepted.front).2.1
  rw [split, List.append_assoc] at same
  obtain ⟨rfl, behind⟩ := List.append_inj same (size'.trans size.symm)
  exact ⟨header, body, last, accepted, rfl, behind.symm⟩

/-- Where a packet stands there is a next place. -/
theorem StandsAt.onward {stream packet : Bytes} {here : Nat}
    (stands : StandsAt stream here packet) : ∃ there, Onward stream here there := by
  obtain ⟨front, body, header, accepted, rfl, last, same⟩ := stands
  rw [List.append_assoc] at same
  exact ⟨_, .accepted same.symm accepted.front accepted.taken⟩

/-- There is one next place at most. -/
theorem Onward.unique {stream : Bytes} {here first second : Nat} (one : Onward stream here first)
    (other : Onward stream here second) : first = second := by
  cases one with
  | refused split size refused =>
    cases other with
    | refused => rfl
    | accepted split' accepted =>
      have size' := ((parseHeader_ok_iff _ _).mp accepted).2.1
      rw [split] at split'
      obtain ⟨rfl, -⟩ := List.append_inj split' (size.trans size'.symm)
      rw [refused] at accepted
      contradiction
  | accepted split accepted taken =>
    have size := ((parseHeader_ok_iff _ _).mp accepted).2.1
    cases other with
    | refused split' size' refused =>
      rw [split] at split'
      obtain ⟨rfl, -⟩ := List.append_inj split' (size.trans size'.symm)
      rw [refused] at accepted
      contradiction
    | accepted split' accepted' taken' =>
      have size' := ((parseHeader_ok_iff _ _).mp accepted').2.1
      rw [split] at split'
      obtain ⟨rfl, -⟩ := List.append_inj split' (size.trans size'.symm)
      obtain rfl := Except.ok.inj (accepted.symm.trans accepted')
      rw [taken, taken']

/-- A step of the reading is one of the client. -/
theorem Reading.step_eq {reading next : Reading} {event : Event}
    (taken : reading.step event = some next) :
    ∃ reader, Client.step reading.reader event = some reader ∧
      next.reader = reader ∧ next.got = reading.got ++ event.received ∧
      next.delivered = reading.delivered ++
        (reader.readQueue.drop reading.reader.readQueue.length).map fun packet =>
          (next.got.length - packet.bytes.length, packet.bytes) := by
  rw [Reading.step] at taken
  cases moved : Client.step reading.reader event with
  | none => simp [moved] at taken
  | some reader =>
    simp only [moved, Option.some.injEq] at taken
    subst taken
    exact ⟨reader, rfl, rfl, rfl, rfl⟩

/-- An event that completes no read delivers nothing: it ends a read or leaves the reads alone. -/
theorem client_quiet {reader next : Reader} {event : Event}
    (taken : Client.step reader event = some next)
    (quiet : ∀ index bytes room, event ≠ .done index bytes room) :
    event.received = [] ∧ next.readQueue = reader.readQueue ∧
      next.readPacket = reader.readPacket ∧
      (next.reads = reader.reads ∨ next.reads.length + 1 = reader.reads.length) := by
  cases event with
  | done index bytes room => exact absurd rfl (quiet index bytes room)
  | failed index ec =>
    obtain ⟨read, found, -, failed, -, rfl⟩ := (fail_eq_some_iff _ _ _ _ _).mp taken
    obtain ⟨reads, held, queue, -⟩ := Client.run_failed read ec failed
      { reader with reads := reader.reads.eraseIdx index }
    obtain ⟨low, -⟩ := List.getElem?_eq_some_iff.mp found
    refine ⟨rfl, queue, held, Or.inr ?_⟩
    rw [reads, List.length_eraseIdx_of_lt low]
    omega
  | stopped =>
    obtain rfl := Option.some.inj taken
    exact ⟨rfl, rfl, rfl, Or.inl rfl⟩
  | closed =>
    obtain rfl := Option.some.inj taken
    exact ⟨rfl, rfl, rfl, Or.inl rfl⟩
  | accepted => contradiction
  | acceptFailed ec => contradiction
  | acceptAborted => contradiction

/-- A completion that reads a header takes the client onward or lets it hold the header. -/
theorem At.header_step {stream : Bytes} {reading next : Reading} {index : Nat} {bytes : Bytes}
    {room : Bool} (alone : reading.reader.reads = [⟨.header, 0, headerSize⟩])
    (taken : reading.step (.done index bytes room) = some next) (inside : next.got <+: stream) :
    (At stream reading.got.length next ∧ next.delivered = reading.delivered) ∨
      ∃ there, Onward stream reading.got.length there ∧ At stream there next ∧
        Delivers stream reading.got.length (.done index bytes room) reading next := by
  obtain ⟨reader, moved, same, got, delivered⟩ := Reading.step_eq taken
  obtain ⟨size, result⟩ := complete_alone alone moved
  obtain ⟨rest, whole⟩ := inside
  rw [got, Event.received, List.append_assoc] at whole
  have split : stream.drop reading.got.length = bytes ++ rest := by
    rw [← whole, List.drop_left]
  have view := headerView_store reading.reader.readPacket bytes size
  rw [result] at same delivered
  simp only [Client.handler, Client.run_onHeader, Packet.parseHeader, view] at same delivered
  cases parsed : Hdcp.parseHeader bytes with
  | ok header =>
    rw [parsed] at same delivered
    obtain ⟨rfl, -⟩ := (parseHeader_ok_iff _ _).mp parsed
    have field : (reading.reader.readPacket.store 0 bytes).header = Header.ofBytes bytes := by
      rw [Packet.header, ← Header.ofBytes_take _ headerSize (Nat.le_refl _)]
      exact congrArg Header.ofBytes view
    have held : next.reader.readPacket = reading.reader.readPacket.overwrite bytes := by
      rw [same]
      rfl
    refine Or.inl ⟨.holding rfl got parsed held ?_, ?_⟩
    · rw [same, field]
      rfl
    · rw [delivered, List.drop_length]
      exact List.append_nil _
  | error refused =>
    rw [parsed] at same delivered
    refine Or.inr ⟨_, .refused split size parsed, .waiting ?_ ?_, .none ?_ ?_⟩
    · rw [got, List.length_append, Event.received, size]
    · rw [same]
      rfl
    · rw [delivered, List.drop_length]
      exact List.append_nil _
    · intro roomy packet stands
      obtain ⟨header, body, last, accepted, -⟩ := stands.split split size
      have front := accepted.front
      rw [parsed] at front
      contradiction

/-- A completion that reads the payload of an accepted header takes the client onward. -/
theorem At.payload_step {stream earlier front : Bytes} {reading next : Reading} {header : Header}
    {raw : Packet} {index : Nat} {bytes : Bytes} {room : Bool}
    (before : reading.got = earlier ++ front) (accepted : Hdcp.parseHeader front = .ok header)
    (held : reading.reader.readPacket = raw.overwrite front)
    (alone : reading.reader.reads = [⟨.payload, headerSize, header.len.toNat⟩])
    (taken : reading.step (.done index bytes room) = some next) (inside : next.got <+: stream) :
    ∃ there, Onward stream earlier.length there ∧ At stream there next ∧
      Delivers stream earlier.length (.done index bytes room) reading next := by
  obtain ⟨reader, moved, same, got, delivered⟩ := Reading.step_eq taken
  obtain ⟨size, result⟩ := complete_alone alone moved
  obtain ⟨rest, whole⟩ := inside
  rw [got, before, Event.received, List.append_assoc, List.append_assoc] at whole
  have split : stream.drop earlier.length = front ++ (bytes ++ rest) := by
    rw [← whole, List.drop_left]
  have front_size := ((parseHeader_ok_iff _ _).mp accepted).2.1
  let frame : Frame := ⟨front, bytes, by rw [accepted]; exact congrArg Except.ok size.symm⟩
  obtain ⟨checked, stored⟩ := store_payload raw frame header accepted
  rw [result] at same delivered
  simp only [Client.handler, Client.run_onPayload, held] at same delivered
  have onward := Onward.accepted split accepted size
  have place : next.got.length = earlier.length + headerSize + bytes.length := by
    rw [got, before, Event.received, List.length_append, List.length_append, front_size]
  have determined (packet : Bytes) (stands : StandsAt stream earlier.length packet) :
      Hdcp.parsePayload bytes header = .ok () ∧ packet = front ++ bytes := by
    obtain ⟨header', body, last, both, rfl, behind⟩ := stands.split split front_size
    obtain rfl := Except.ok.inj (accepted.symm.trans both.front)
    obtain ⟨rfl, -⟩ := List.append_inj behind (size.trans both.taken.symm)
    exact ⟨both.body, rfl⟩
  have reads : next.reader.reads = [⟨.header, 0, headerSize⟩] := by
    rw [same]
    split <;> rfl
  refine ⟨_, onward, .waiting place reads, ?_⟩
  cases parsed : Hdcp.parsePayload bytes header with
  | error refused =>
    rw [checked, parsed] at delivered
    refine .none ?_ ?_
    · rw [delivered, List.drop_length]
      exact List.append_nil _
    · intro roomy packet stands
      have body := (determined packet stands).1
      rw [parsed] at body
      contradiction
  | ok done =>
    rw [checked, parsed] at delivered
    cases room with
    | false =>
      refine .none ?_ ?_
      · rw [delivered]
        simp
      · rintro ⟨other, others, absurdity⟩
        simp at absurdity
    | true =>
      have stands : StandsAt stream earlier.length (front ++ bytes) :=
        ⟨front, bytes, header, ⟨accepted, size, parsed⟩, rfl, rest, by
          rw [split, List.append_assoc]⟩
      refine .packet stands ?_ fun other also => (determined other also).2
      have back : next.got.length - (front ++ bytes).length = earlier.length := by
        rw [place, List.length_append, front_size]
        omega
      simp only [↓reduceIte, List.drop_left, List.map_cons, List.map_nil] at delivered
      rw [delivered, stored, Frame.bytes, back]

/-- An event that completes no read leaves the stream and the packets as they are. -/
theorem Reading.quiet_step {reading next : Reading} {event : Event}
    (taken : reading.step event = some next)
    (quiet : ∀ index bytes room, event ≠ .done index bytes room) :
    next.got = reading.got ∧ next.delivered = reading.delivered ∧
      next.reader.readPacket = reading.reader.readPacket ∧
      (next.reader.reads = reading.reader.reads ∨
        next.reader.reads.length + 1 = reading.reader.reads.length) := by
  obtain ⟨reader, moved, rfl, got, delivered⟩ := Reading.step_eq taken
  obtain ⟨nothing, queue, held, reads⟩ := client_quiet moved quiet
  refine ⟨?_, ?_, held, reads⟩
  · rw [got, nothing, List.append_nil]
  · rw [delivered, queue, List.drop_length]
    exact List.append_nil _

/-- One event, from a place: the client stays, goes onward, or reads no more. -/
theorem At.step {stream : Bytes} {here : Nat} {reading next : Reading} {event : Event}
    (located : At stream here reading) (taken : reading.step event = some next)
    (inside : next.got <+: stream) :
    (At stream here next ∧ next.delivered = reading.delivered) ∨
      (next.reader.reads = [] ∧ next.delivered = reading.delivered ∧ ¬ Roomy event) ∨
      ∃ there, Onward stream here there ∧ At stream there next ∧
        Delivers stream here event reading next := by
  by_cases done : ∃ index bytes room, event = .done index bytes room
  · obtain ⟨index, bytes, room, rfl⟩ := done
    cases located with
    | waiting place alone =>
      rw [← place]
      rcases At.header_step alone taken inside with stays | onward
      · exact Or.inl stays
      · exact Or.inr (Or.inr onward)
    | holding place got accepted held alone =>
      rw [← place]
      exact Or.inr (Or.inr (At.payload_step got accepted held alone taken inside))
  · have quiet : ∀ index bytes room, event ≠ .done index bytes room :=
      fun index bytes room same => done ⟨index, bytes, room, same⟩
    have unroomy : ¬ Roomy event := fun ⟨index, bytes, same⟩ => quiet index bytes true same
    obtain ⟨got, delivered, held, reads⟩ := Reading.quiet_step taken quiet
    cases located with
    | waiting place alone =>
      rcases reads with same | fewer
      · exact Or.inl ⟨.waiting (by rw [got, place]) (by rw [same, alone]), delivered⟩
      · rw [alone] at fewer
        exact Or.inr (Or.inl ⟨List.length_eq_zero_iff.mp (Nat.succ.inj fewer), delivered, unroomy⟩)
    | holding place before accepted raw alone =>
      rcases reads with same | fewer
      · exact Or.inl ⟨.holding place (by rw [got, before]) accepted (by rw [held, raw])
          (by rw [same, alone]), delivered⟩
      · rw [alone] at fewer
        exact Or.inr (Or.inl ⟨List.length_eq_zero_iff.mp (Nat.succ.inj fewer), delivered, unroomy⟩)

/-! ## What is delivered -/

/-- The client is at a place or reads no more, and what it delivered stands at places. -/
structure ReadsPlaces (stream : Bytes) (reading : Reading) : Prop where
  /-- It is at a place, or no read is outstanding. -/
  located : (∃ here, Place stream here ∧ At stream here reading) ∨ reading.reader.reads = []
  /-- Each packet delivered stands at a place. -/
  delivered : ∀ offset packet, (offset, packet) ∈ reading.delivered →
    Place stream offset ∧ StandsAt stream offset packet

/-- The client starts at the first place, with nothing delivered. -/
theorem ReadsPlaces.started (stream : Bytes) (packet : Packet) :
    ReadsPlaces stream (.started packet) where
  located := Or.inl ⟨0, .refl, .waiting rfl rfl⟩
  delivered _ _ inside := absurd inside List.not_mem_nil

/-- Delivering what stands at a place keeps what is delivered at places. -/
theorem Delivers.places {stream : Bytes} {here : Nat} {event : Event} {reading next : Reading}
    (delivers : Delivers stream here event reading next) (place : Place stream here)
    (before : ∀ offset packet, (offset, packet) ∈ reading.delivered →
      Place stream offset ∧ StandsAt stream offset packet) :
    ∀ offset packet, (offset, packet) ∈ next.delivered →
      Place stream offset ∧ StandsAt stream offset packet := by
  intro offset packet inside
  cases delivers with
  | none same => exact before offset packet (by rw [← same]; exact inside)
  | packet stands put =>
    rw [put] at inside
    rcases List.mem_append.mp inside with earlier | last
    · exact before offset packet earlier
    · obtain ⟨rfl, rfl⟩ := Prod.mk.inj (List.mem_singleton.mp last)
      exact ⟨place, stands⟩

/-- An event keeps the client at places and what it delivers at places. -/
theorem ReadsPlaces.step {stream : Bytes} {reading next : Reading} {event : Event}
    (sound : ReadsPlaces stream reading) (taken : reading.step event = some next)
    (inside : next.got <+: stream) : ReadsPlaces stream next := by
  rcases sound.located with ⟨here, place, located⟩ | finished
  · rcases located.step taken inside with ⟨stays, same⟩ | ⟨finished, same, -⟩ |
      ⟨there, onward, arrives, delivers⟩
    · exact ⟨Or.inl ⟨here, place, stays⟩, by rw [same]; exact sound.delivered⟩
    · exact ⟨Or.inr finished, by rw [same]; exact sound.delivered⟩
    · exact ⟨Or.inl ⟨there, place.tail onward, arrives⟩, delivers.places place sound.delivered⟩
  · have quiet : ∀ index bytes room, event ≠ .done index bytes room := by
      rintro index bytes room rfl
      obtain ⟨reader, moved, -⟩ := Reading.step_eq taken
      obtain ⟨read, found, -⟩ := (complete_eq_some_iff _ _ _ _ _).mp moved
      rw [finished] at found
      simp at found
    obtain ⟨-, same, -, reads⟩ := Reading.quiet_step taken quiet
    refine ⟨Or.inr ?_, by rw [same]; exact sound.delivered⟩
    rw [finished] at reads
    rcases reads with none | fewer
    · exact none
    · simp at fewer

/-- What a step has read begins with what was read before. -/
theorem Reading.step_got {reading next : Reading} {event : Event}
    (taken : reading.step event = some next) : reading.got <+: next.got := by
  obtain ⟨reader, -, -, got, -⟩ := Reading.step_eq taken
  rw [got]
  exact List.prefix_append _ _

/-- In every run on a stream, what is delivered stands at places. -/
theorem run_readsPlaces {stream : Bytes} {packet : Packet} {events : List Event} {finish : Reading}
    (run : Run (Steps Reading.step) (.started packet) events finish)
    (inside : finish.got <+: stream) : ReadsPlaces stream finish := by
  let holds (reading : Reading) : Prop := reading.got <+: stream → ReadsPlaces stream reading
  have preserved (reading : Reading) (event : Event) (next : Reading) (sound : holds reading)
      (taken : Steps Reading.step reading event next) : holds next :=
    fun within => (sound ((Reading.step_got taken).trans within)).step taken within
  exact run.invariant preserved (fun _ => .started stream packet) inside

/-- The client is alive at a place, and of the packets standing at places it has delivered all but
those ahead. -/
structure Covers (stream : Bytes) (here : Nat) (reading : Reading) : Prop where
  /-- It is at the place. -/
  located : At stream here reading
  /-- What it has read is the stream's. -/
  got : reading.got <+: stream
  /-- The io thread is alive. -/
  alive : reading.reader.running = true ∧ reading.reader.looping = true
  /-- A packet at a place is delivered or ahead. -/
  delivered : ∀ offset packet, Place stream offset → StandsAt stream offset packet →
    (offset, packet) ∈ reading.delivered ∨ ReflTransGen (Onward stream) here offset

/-- A completion leaves the io thread of a running client alive. -/
theorem client_alive {reader next : Reader} {index : Nat} {bytes : Bytes} {room : Bool}
    (taken : Client.step reader (.done index bytes room) = some next)
    (alive : reader.running = true ∧ reader.looping = true) :
    next.running = true ∧ next.looping = true := by
  obtain ⟨⟨kind, offset, size⟩, -, -, -, rfl⟩ := (complete_eq_some_iff _ _ _ _ _).mp taken
  obtain ⟨running, looping⟩ := alive
  cases kind with
  | header =>
    rw [Client.handler, Client.run_onHeader]
    split
    · exact ⟨running, looping⟩
    · exact ⟨running, running⟩
  | payload =>
    rw [Client.handler, Client.run_onPayload]
    split
    · exact ⟨running, looping⟩
    · exact ⟨running, running⟩

/-- A completed payload read is followed by a header read. -/
theorem client_payload_reads {reader next : Reader} {size index : Nat} {bytes : Bytes} {room : Bool}
    (alone : reader.reads = [⟨.payload, headerSize, size⟩])
    (taken : Client.step reader (.done index bytes room) = some next) :
    next.reads = [⟨.header, 0, headerSize⟩] := by
  obtain ⟨-, rfl⟩ := complete_alone alone taken
  rw [Client.handler, Client.run_onPayload]
  split <;> rfl

/-- A completion while the queue has room keeps what is delivered complete. -/
theorem Covers.step {stream : Bytes} {here : Nat} {reading next : Reading} {event : Event}
    (covers : Covers stream here reading) (roomy : Roomy event)
    (taken : reading.step event = some next) (inside : next.got <+: stream) :
    ∃ there, Covers stream there next := by
  have alive : next.reader.running = true ∧ next.reader.looping = true := by
    obtain ⟨index, bytes, rfl⟩ := roomy
    obtain ⟨reader, moved, same, -⟩ := Reading.step_eq taken
    rw [same]
    exact client_alive moved covers.alive
  rcases covers.located.step taken inside with ⟨stays, same⟩ | ⟨-, -, unroomy⟩ |
    ⟨there, onward, arrives, delivers⟩
  · exact ⟨here, stays, inside, alive, by rw [same]; exact covers.delivered⟩
  · exact absurd roomy unroomy
  · refine ⟨there, arrives, inside, alive, ?_⟩
    intro offset packet place stands
    rcases covers.delivered offset packet place stands with before | ahead
    · cases delivers with
      | none same => exact Or.inl (by rw [same]; exact before)
      | packet _ put => exact Or.inl (by rw [put]; exact List.mem_append_left _ before)
    · -- the place it was at is delivered now, the places behind it are ahead of the next one
      rcases ahead.cases_head with rfl | ⟨next_place, first, later⟩
      · cases delivers with
        | none _ missed => exact absurd stands (missed roomy packet)
        | packet _ put only =>
          obtain rfl := only packet stands
          exact Or.inl (by rw [put]; exact List.mem_append_right _ (List.mem_singleton_self _))
      · rw [onward.unique first]
        exact Or.inr later

/-- The read that is outstanding at a place. -/
theorem At.alone {stream : Bytes} {here : Nat} {reading : Reading}
    (located : At stream here reading) : ∃ read, reading.reader.reads = [read] := by
  cases located with
  | waiting _ alone => exact ⟨_, alone⟩
  | holding _ _ _ _ alone => exact ⟨_, alone⟩

/-- Where the client waits for more than is left of the stream, no place is ahead. -/
theorem At.not_onward {stream rest : Bytes} {here : Nat} {reading : Reading}
    (located : At stream here reading) (whole : stream = reading.got ++ rest)
    (short : ∀ read ∈ reading.reader.reads, rest.length < read.size) :
    ∀ there, ¬ Onward stream here there := by
  intro there onward
  cases located with
  | waiting place alone =>
    rw [alone] at short
    have few : rest.length < headerSize := short _ (List.mem_singleton_self _)
    have left : stream.drop here = rest := by rw [whole, ← place, List.drop_left]
    cases onward with
    | refused split size =>
      have lengths := congrArg List.length (left.symm.trans split)
      rw [List.length_append, size] at lengths
      omega
    | accepted split accepted =>
      have size := ((parseHeader_ok_iff _ _).mp accepted).2.1
      have lengths := congrArg List.length (left.symm.trans split)
      rw [List.length_append, size] at lengths
      omega
  | @holding earlier front header raw place got accepted held alone =>
    rw [alone] at short
    have few : rest.length < header.len.toNat := short _ (List.mem_singleton_self _)
    have size := ((parseHeader_ok_iff _ _).mp accepted).2.1
    have left : stream.drop here = front ++ rest := by
      rw [whole, got, ← place, List.append_assoc, List.drop_left]
    cases onward with
    | refused split size' refused =>
      rw [left] at split
      obtain ⟨rfl, -⟩ := List.append_inj split (size.trans size'.symm)
      rw [accepted] at refused
      contradiction
    | @accepted front' body rest' header' split accepted' taken =>
      have size' := ((parseHeader_ok_iff _ _).mp accepted').2.1
      rw [left] at split
      obtain ⟨rfl, behind⟩ := List.append_inj split (size.trans size'.symm)
      obtain rfl := Except.ok.inj (accepted.symm.trans accepted')
      have lengths := congrArg List.length behind
      rw [List.length_append, taken] at lengths
      omega

/-- The outstanding read, when enough is left of the stream, is completed with the bytes it
waits for. -/
theorem Covers.next {stream rest : Bytes} {here : Nat} {reading : Reading} {read : Read}
    (covers : Covers stream here reading) (whole : stream = reading.got ++ rest)
    (alone : reading.reader.reads = [read]) (enough : read.size ≤ rest.length) :
    ∃ next there, reading.step (.done 0 (rest.take read.size) true) = some next ∧
      Covers stream there next ∧ stream = next.got ++ rest.drop read.size := by
  have size : (rest.take read.size).length = read.size := by
    rw [List.length_take]
    omega
  obtain ⟨reader, moved⟩ := complete_taken reading.reader
    (fun read => Client.run (Client.handler read true .success)) alone covers.alive.2 size
  have client : Client.step reading.reader (.done 0 (rest.take read.size) true) = some reader :=
    moved
  cases taken : reading.step (.done 0 (rest.take read.size) true) with
  | none =>
    rw [Reading.step, client] at taken
    contradiction
  | some next =>
    obtain ⟨-, -, -, got, -⟩ := Reading.step_eq taken
    have left : stream = next.got ++ rest.drop read.size := by
      rw [got, Event.received, List.append_assoc, List.take_append_drop]
      exact whole
    obtain ⟨there, covered⟩ := covers.step ⟨_, _, rfl⟩ taken ⟨_, left.symm⟩
    exact ⟨next, there, rfl, covered, left⟩

/-- A completed payload read leaves the header read outstanding. -/
theorem Reading.payload_reads {reading next : Reading} {size index : Nat} {bytes : Bytes}
    {room : Bool} (alone : reading.reader.reads = [⟨.payload, headerSize, size⟩])
    (taken : reading.step (.done index bytes room) = some next) :
    next.reader.reads = [⟨.header, 0, headerSize⟩] := by
  obtain ⟨reader, moved, same, -⟩ := Reading.step_eq taken
  rw [same]
  exact client_payload_reads alone moved

/-- Some run of completions takes the client through what is left of the stream. -/
theorem Covers.exhausts {stream rest : Bytes} {here : Nat} {reading : Reading}
    (covers : Covers stream here reading) (whole : stream = reading.got ++ rest) :
    ∃ events finish there last,
      Run (Guarded (fun _ event => Roomy event) (Steps Reading.step)) reading events finish ∧
        Covers stream there finish ∧ stream = finish.got ++ last ∧
        ∀ read ∈ finish.reader.reads, last.length < read.size := by
  -- a header read takes thirteen bytes; a payload read may take none, and leaves a header read
  induction left : 2 * rest.length +
      (if reading.reader.reads = [⟨.header, 0, headerSize⟩] then 0 else 1)
    using Nat.strong_induction_on generalizing rest here reading with
  | _ measure ih =>
    obtain ⟨read, alone⟩ := covers.located.alone
    by_cases enough : read.size ≤ rest.length
    · obtain ⟨next, there, taken, covered, later⟩ := covers.next whole alone enough
      have fewer : 2 * (rest.drop read.size).length +
          (if next.reader.reads = [⟨.header, 0, headerSize⟩] then 0 else 1) < measure := by
        rw [← left, List.length_drop]
        cases covers.located with
        | waiting _ header =>
          obtain rfl := List.singleton_injective (alone.symm.trans header)
          rw [if_pos header]
          have thirteen : headerSize = 13 := rfl
          simp only [thirteen] at enough ⊢
          split <;> omega
        | holding _ _ _ _ payload =>
          obtain rfl := List.singleton_injective (alone.symm.trans payload)
          have other : reading.reader.reads ≠ [⟨.header, 0, headerSize⟩] := by
            rw [payload]
            simp
          rw [if_pos (Reading.payload_reads payload taken), if_neg other]
          omega
      obtain ⟨events, finish, final, last, run, covers_last, split, short⟩ :=
        ih _ fewer covered later rfl
      exact ⟨_, finish, final, last, .cons ⟨⟨_, _, rfl⟩, taken⟩ run, covers_last, split, short⟩
    · refine ⟨[], reading, here, rest, .nil _, covers, whole, ?_⟩
      intro other inside
      rw [alone] at inside
      rw [List.mem_singleton.mp inside]
      omega

/-- Everything is ahead of a client that starts. -/
theorem Covers.started (stream : Bytes) (packet : Packet) : Covers stream 0 (.started packet) where
  located := .waiting rfl rfl
  got := List.nil_prefix
  alive := ⟨rfl, rfl⟩
  delivered _ _ place _ := Or.inr place

/-- Some run goes through the whole stream. -/
theorem exhausts_exists (packet : Packet) (stream : Bytes) :
    ∃ events finish, Exhausts packet stream events finish := by
  obtain ⟨events, finish, there, last, run, -, split, short⟩ :=
    (Covers.started stream packet).exhausts rfl
  exact ⟨events, finish, run, last, split, short⟩

/-- A run through the whole stream delivers every packet that stands at a place. -/
theorem Exhausts.delivered {stream : Bytes} {packet : Packet} {events : List Event}
    {finish : Reading} (exhausts : Exhausts packet stream events finish) (offset : Nat)
    (bytes : Bytes) (place : Place stream offset) (stands : StandsAt stream offset bytes) :
    (offset, bytes) ∈ finish.delivered := by
  obtain ⟨run, rest, whole, short⟩ := exhausts
  let holds (reading : Reading) : Prop :=
    reading.got <+: stream → ∃ here, Covers stream here reading
  have preserved (reading : Reading) (event : Event) (next : Reading) (covered : holds reading)
      (taken : Guarded (fun _ event => Roomy event) (Steps Reading.step) reading event next) :
      holds next := by
    intro within
    obtain ⟨here, covers⟩ := covered ((Reading.step_got taken.2).trans within)
    exact covers.step taken.1 taken.2 within
  obtain ⟨here, covers⟩ :=
    run.invariant preserved (fun _ => ⟨0, .started stream packet⟩) ⟨rest, whole.symm⟩
  have stuck := covers.located.not_onward whole short
  rcases covers.delivered offset bytes place stands with done | ahead
  · exact done
  · rcases ahead.cases_head with rfl | ⟨there, onward, -⟩
    · obtain ⟨there, onward⟩ := stands.onward
      exact absurd onward (stuck there)
    · exact absurd onward (stuck there)

/-! ## Frames and places -/

/-- The header of a frame reads back. -/
theorem Framed.ofBytes (frame : Framed) : Header.ofBytes frame.header.bytes = frame.header :=
  Header.ofBytes_bytes frame.header

/-- The stream of some frames and more. -/
theorem streamOf_append (before after : List Framed) :
    streamOf (before ++ after) = streamOf before ++ streamOf after :=
  List.flatMap_append

/-- The stream of a frame and more. -/
theorem streamOf_cons (frame : Framed) (after : List Framed) :
    streamOf (frame :: after) = frame.bytes ++ streamOf after :=
  List.flatMap_cons

/-- The stream behind the start of a frame begins with it. -/
theorem Occurs.drop {frames : List Framed} {offset : Nat} {frame : Framed}
    (occurs : Occurs frames offset frame) :
    ∃ rest, (streamOf frames).drop offset = frame.header.bytes ++ (frame.payload ++ rest) := by
  obtain ⟨before, after, rfl, rfl⟩ := occurs
  refine ⟨streamOf after, ?_⟩
  rw [streamOf_append, List.drop_left, streamOf_cons, Framed.bytes, List.append_assoc]

/-- A packet that stands where a frame starts is the frame, which is acceptable. -/
theorem Occurs.packet {frames : List Framed} {offset : Nat} {frame : Framed} {packet : Bytes}
    (occurs : Occurs frames offset frame) (stands : StandsAt (streamOf frames) offset packet) :
    packet = frame.bytes ∧ frame.Acceptable := by
  obtain ⟨rest, split⟩ := occurs.drop
  obtain ⟨header, body, last, accepted, rfl, behind⟩ :=
    stands.split split (Header.bytes_length frame.header)
  have same : header = frame.header := by
    rw [((parseHeader_ok_iff _ _).mp accepted.front).1, frame.ofBytes]
  have size : frame.payload.length = body.length := by
    rw [frame.whole, accepted.taken, same]
  obtain ⟨rfl, -⟩ := List.append_inj behind size
  subst same
  exact ⟨rfl, accepted⟩

/-- An acceptable frame is a packet where it starts. -/
theorem Occurs.standsAt {frames : List Framed} {offset : Nat} {frame : Framed}
    (occurs : Occurs frames offset frame) (acceptable : frame.Acceptable) :
    StandsAt (streamOf frames) offset frame.bytes := by
  obtain ⟨rest, split⟩ := occurs.drop
  refine ⟨_, _, _, acceptable, rfl, rest, ?_⟩
  rw [split, Framed.bytes, List.append_assoc]

/-- A frame that occurs at an offset ends before a frame that occurs behind it begins. -/
theorem Occurs.ends_before {frames : List Framed} {first second : Nat} {frame other : Framed}
    (one : Occurs frames first frame) (two : Occurs frames second other) :
    (first = second ∧ frame = other) ∨ first + frame.bytes.length ≤ second ∨
      second + other.bytes.length ≤ first := by
  obtain ⟨before, after, rfl, rfl⟩ := one
  obtain ⟨before', after', same, rfl⟩ := two
  have behind (lower upper : List Framed) (middle : Framed) (more : List Framed)
      (longer : upper = lower ++ middle :: more) :
      (streamOf lower).length + middle.bytes.length ≤ (streamOf upper).length := by
    rw [longer, streamOf_append, streamOf_cons, List.length_append, List.length_append]
    omega
  rcases List.append_eq_append_iff.mp same with ⟨more, longer, rest⟩ | ⟨more, longer, rest⟩
  · cases more with
    | nil =>
      rw [List.append_nil] at longer
      rw [List.nil_append] at rest
      exact Or.inl ⟨by rw [longer], (List.cons.inj rest).1⟩
    | cons middle more =>
      obtain ⟨rfl, -⟩ := List.cons.inj rest
      exact Or.inr (Or.inl (behind _ _ _ more longer))
  · cases more with
    | nil =>
      rw [List.append_nil] at longer
      rw [List.nil_append] at rest
      exact Or.inl ⟨by rw [longer], (List.cons.inj rest).1.symm⟩
    | cons middle more =>
      obtain ⟨rfl, -⟩ := List.cons.inj rest
      exact Or.inr (Or.inr (behind _ _ _ more longer))

/-- Read in step, every packet delivered is a frame that is acceptable. -/
theorem ReadInStep.frame {frames : List Framed} (inStep : ReadInStep frames) {packet : Packet}
    {events : List Event} {finish : Reading}
    (run : Run (Steps Reading.step) (.started packet) events finish)
    (inside : finish.got <+: streamOf frames) {offset : Nat} {bytes : Bytes}
    (delivered : (offset, bytes) ∈ finish.delivered) :
    ∃ frame, Occurs frames offset frame ∧ bytes = frame.bytes ∧ frame.Acceptable := by
  obtain ⟨place, stands⟩ := (run_readsPlaces run inside).delivered offset bytes delivered
  obtain ⟨frame, occurs⟩ := inStep.alone offset bytes place stands
  exact ⟨frame, occurs, occurs.packet stands⟩

/-- Read in step, frames are discarded whole. -/
theorem ReadInStep.discardsWhole {frames : List Framed} (inStep : ReadInStep frames)
    (packet : Packet) : DiscardsWhole packet frames where
  whole events finish run inside offset bytes delivered := by
    obtain ⟨frame, occurs, same, -⟩ := inStep.frame run inside delivered
    exact ⟨frame, occurs, same⟩
  spared events finish run inside offset bytes delivered := by
    intro start refused occurs wrong position low high overlap
    obtain ⟨frame, found, rfl, acceptable⟩ := inStep.frame run inside delivered
    rcases found.ends_before occurs with ⟨-, rfl⟩ | before | behind
    · obtain ⟨error, refused⟩ := wrong
      rw [acceptable.front] at refused
      contradiction
    · omega
    · omega
  delivered events finish exhausts offset frame occurs acceptable :=
    exhausts.delivered offset _ (inStep.found offset frame occurs acceptable)
      (occurs.standsAt acceptable)

/-- Where frames are discarded whole, they are read in step. -/
theorem DiscardsWhole.readInStep {packet : Packet} {frames : List Framed}
    (discards : DiscardsWhole packet frames) : ReadInStep frames := by
  obtain ⟨events, finish, exhausts⟩ := exhausts_exists packet (streamOf frames)
  have run := exhausts.1.unguarded
  have inside : finish.got <+: streamOf frames := by
    obtain ⟨-, rest, whole, -⟩ := exhausts
    exact ⟨rest, whole.symm⟩
  constructor
  · intro offset frame occurs acceptable
    have delivered := discards.delivered events finish exhausts offset frame occurs acceptable
    exact ((run_readsPlaces run inside).delivered offset _ delivered).1
  · intro place bytes reached stands
    have delivered := exhausts.delivered place bytes reached stands
    obtain ⟨frame, occurs, -⟩ := discards.whole events finish run inside place bytes delivered
    exact ⟨frame, occurs⟩

/-- The payload of a frame is pieces of thirteen bytes each of which is refused as a header. -/
def Framed.Skipped (frame : Framed) : Prop :=
  ∃ pieces : List Bytes, frame.payload = pieces.flatten ∧ ∀ piece ∈ pieces,
    piece.length = headerSize ∧ ∃ error, Hdcp.parseHeader piece = .error error

/-- The client has some refused pieces ahead and then some of the frames. -/
def Skips (frames : List Framed) (place : Nat) (pieces : List Bytes) (after : List Framed) : Prop :=
  (streamOf frames).drop place = pieces.flatten ++ streamOf after ∧
    (∀ piece ∈ pieces, piece.length = headerSize ∧ ∃ error, Hdcp.parseHeader piece = .error error) ∧
    ∃ before, frames = before ++ after ∧
      place + pieces.flatten.length = (streamOf before).length

/-- From a refused piece the client goes on to the next piece. -/
theorem Skips.piece {frames after : List Framed} {place there : Nat} {piece : Bytes}
    {pieces : List Bytes} (skips : Skips frames place (piece :: pieces) after)
    (onward : Onward (streamOf frames) place there) :
    there = place + headerSize ∧ Skips frames there pieces after := by
  obtain ⟨split, refused, before, same, size⟩ := skips
  obtain ⟨thirteen, error, wrong⟩ := refused piece List.mem_cons_self
  rw [List.flatten_cons, List.append_assoc] at split
  obtain rfl := onward.unique (.refused split thirteen wrong)
  refine ⟨rfl, ?_, fun other inside => refused other (List.mem_cons_of_mem _ inside), before, same,
    ?_⟩
  · rw [← List.drop_drop, split, ← thirteen, List.drop_left]
  · rw [← size, List.flatten_cons, List.length_append, thirteen, Nat.add_assoc]

/-- From the start of a frame the client goes on to the next frame, or into pieces it refuses. -/
theorem Skips.frame {frames after : List Framed} {place there : Nat} {frame : Framed}
    (skips : Skips frames place [] (frame :: after))
    (skipped : frame.Refused → frame.Skipped)
    (onward : Onward (streamOf frames) place there) :
    ∃ pieces, Skips frames there pieces after := by
  obtain ⟨split, -, before, same, size⟩ := skips
  rw [List.flatten_nil, List.nil_append, streamOf_cons, Framed.bytes, List.append_assoc] at split
  have whole : frames = (before ++ [frame]) ++ after := by
    rw [same, List.append_assoc, List.singleton_append]
  have thirteen : frame.header.bytes.length = headerSize := Header.bytes_length frame.header
  have reached : (streamOf (before ++ [frame])).length =
      place + headerSize + frame.payload.length := by
    rw [streamOf_append, streamOf_cons, List.length_append, List.length_append, ← size,
      Framed.bytes, List.length_append, thirteen]
    simp [streamOf]
    omega
  cases parsed : Hdcp.parseHeader frame.header.bytes with
  | ok header =>
    have field : header = frame.header := by
      rw [((parseHeader_ok_iff _ _).mp parsed).1, frame.ofBytes]
    have announced : frame.payload.length = header.len.toNat := by rw [frame.whole, field]
    obtain rfl := onward.unique (.accepted split parsed announced)
    refine ⟨[], ?_, fun piece inside => absurd inside List.not_mem_nil, before ++ [frame], whole,
      ?_⟩
    · rw [Nat.add_assoc, ← List.drop_drop, split, ← thirteen, ← List.append_assoc,
        ← List.length_append, List.drop_left]
      rfl
    · rw [reached]
      rfl
  | error error =>
    obtain ⟨pieces, cut, refused⟩ := skipped ⟨error, parsed⟩
    obtain rfl := onward.unique (.refused split thirteen parsed)
    refine ⟨pieces, ?_, refused, before ++ [frame], whole, ?_⟩
    · rw [← List.drop_drop, split, ← thirteen, List.drop_left, cut]
    · rw [reached, cut]

/-- Where there is nothing left of the stream the client goes nowhere. -/
theorem Skips.finished {frames : List Framed} {place there : Nat}
    (skips : Skips frames place [] []) : ¬ Onward (streamOf frames) place there := by
  intro onward
  obtain ⟨split, -⟩ := skips
  have nothing : ((streamOf frames).drop place).length = 0 := by
    rw [split]
    rfl
  cases onward with
  | refused split' size =>
    rw [split', List.length_append, size] at nothing
    simp [headerSize] at nothing
  | accepted split' accepted =>
    rw [split', List.length_append, ((parseHeader_ok_iff _ _).mp accepted).2.1] at nothing
    simp [headerSize] at nothing

/-- The client starts in front of all frames. -/
theorem Skips.started (frames : List Framed) : Skips frames 0 [] frames :=
  ⟨rfl, fun _ inside => absurd inside List.not_mem_nil, [], rfl, rfl⟩

/-- The client goes on from pieces and frames to pieces and frames. -/
theorem Skips.onward {frames after : List Framed} {place there : Nat} {pieces : List Bytes}
    (skips : Skips frames place pieces after)
    (skipped : ∀ frame ∈ frames, frame.Refused → frame.Skipped)
    (onward : Onward (streamOf frames) place there) :
    ∃ pieces after, Skips frames there pieces after := by
  cases pieces with
  | cons piece pieces => exact ⟨pieces, after, (skips.piece onward).2⟩
  | nil =>
    cases after with
    | nil => exact absurd onward skips.finished
    | cons frame after =>
      obtain ⟨-, -, before, same, -⟩ := id skips
      have inside : frame ∈ frames := by
        rw [same]
        exact List.mem_append_right _ List.mem_cons_self
      obtain ⟨pieces, later⟩ := skips.frame (skipped frame inside) onward
      exact ⟨pieces, after, later⟩

/-- Where refused frames are skipped, each place is in front of pieces and frames. -/
theorem place_skips {frames : List Framed} {place : Nat}
    (skipped : ∀ frame ∈ frames, frame.Refused → frame.Skipped)
    (reached : Place (streamOf frames) place) :
    ∃ pieces after, Skips frames place pieces after := by
  induction reached with
  | refl => exact ⟨[], frames, .started frames⟩
  | tail _ onward ih =>
    obtain ⟨pieces, after, skips⟩ := ih
    exact skips.onward skipped onward

/-- The client passes over refused pieces. -/
theorem Skips.passes {frames after : List Framed} {place : Nat} {pieces : List Bytes}
    (skips : Skips frames place pieces after) (reached : Place (streamOf frames) place) :
    Place (streamOf frames) (place + pieces.flatten.length) := by
  induction pieces generalizing place with
  | nil => exact reached
  | cons piece pieces ih =>
    obtain ⟨split, refused, -⟩ := id skips
    obtain ⟨thirteen, error, wrong⟩ := refused piece List.mem_cons_self
    rw [List.flatten_cons, List.append_assoc] at split
    have onward : Onward (streamOf frames) place (place + headerSize) :=
      .refused split thirteen wrong
    have later := ih (skips.piece onward).2 (reached.tail onward)
    rwa [List.flatten_cons, List.length_append, thirteen, ← Nat.add_assoc]

/-- Where refused frames are skipped, each frame starts at a place. -/
theorem starts_places {frames : List Framed}
    (skipped : ∀ frame ∈ frames, frame.Refused → frame.Skipped) (before after : List Framed)
    (whole : frames = before ++ after) : Place (streamOf frames) (streamOf before).length := by
  induction before using List.reverseRecOn generalizing after with
  | nil => exact .refl
  | append_singleton before frame ih =>
    rw [List.append_assoc, List.singleton_append] at whole
    have reached := ih _ whole
    have inside : frame ∈ frames := by
      rw [whole]
      exact List.mem_append_right _ List.mem_cons_self
    have split : (streamOf frames).drop (streamOf before).length =
        frame.header.bytes ++ (frame.payload ++ streamOf after) := by
      rw [whole, streamOf_append, List.drop_left, streamOf_cons, Framed.bytes, List.append_assoc]
    have thirteen : frame.header.bytes.length = headerSize := Header.bytes_length frame.header
    have front : Skips frames (streamOf before).length [] (frame :: after) :=
      ⟨by rw [split, streamOf_cons, Framed.bytes, List.append_assoc]; rfl,
        fun _ inside => absurd inside List.not_mem_nil, before, whole, rfl⟩
    have onward : ∃ there, Onward (streamOf frames) (streamOf before).length there := by
      cases parsed : Hdcp.parseHeader frame.header.bytes with
      | error error => exact ⟨_, .refused split thirteen parsed⟩
      | ok header =>
        have field : header = frame.header := by
          rw [((parseHeader_ok_iff _ _).mp parsed).1, frame.ofBytes]
        exact ⟨_, .accepted split parsed (by rw [frame.whole, field])⟩
    obtain ⟨there, onward⟩ := onward
    obtain ⟨pieces, skips⟩ := front.frame (skipped frame inside) onward
    have passed := skips.passes (reached.tail onward)
    obtain ⟨-, -, before', same, size⟩ := skips
    -- what is in front of the rest of the frames is as long however it is split off
    have lengths : (streamOf before').length = (streamOf (before ++ [frame])).length := by
      have total := congrArg (fun frames => (streamOf frames).length) (same.symm.trans whole)
      simp only [streamOf_append, streamOf_cons, List.length_append] at total ⊢
      simp only [streamOf, List.flatMap_nil, List.length_nil] at total ⊢
      omega
    rw [size, lengths] at passed
    exact passed

/-- A stream is read in step when every refused frame's payload is pieces of thirteen bytes each
of which is refused as a header, as it is when no frame is refused or the refused ones are empty. -/
theorem readInStep_of_skipped (frames : List Framed)
    (skipped : ∀ frame ∈ frames, frame.Refused → frame.Skipped) : ReadInStep frames where
  found offset frame occurs _ := by
    obtain ⟨before, after, whole, rfl⟩ := occurs
    exact starts_places skipped before (frame :: after) whole
  alone place packet reached stands := by
    obtain ⟨pieces, after, skips⟩ := place_skips skipped reached
    cases pieces with
    | cons piece pieces =>
      obtain ⟨split, refused, -⟩ := skips
      obtain ⟨thirteen, error, wrong⟩ := refused piece List.mem_cons_self
      rw [List.flatten_cons, List.append_assoc] at split
      obtain ⟨header, body, last, accepted, -⟩ := stands.split split thirteen
      have front := accepted.front
      rw [wrong] at front
      contradiction
    | nil =>
      cases after with
      | nil =>
        obtain ⟨there, onward⟩ := stands.onward
        exact absurd onward skips.finished
      | cons frame after =>
        obtain ⟨-, -, before, same, size⟩ := skips
        exact ⟨frame, before, after, same, size⟩

/-- The header of a frame of version 2 whose payload is a keepalive packet. -/
def foreignHeader : Header :=
  let header : Header :=
    { sop, ver := 2, len := 13, id := 0, type := PacketType.ka.code, nBlock := 0
      pCrc := 0, hCrc := 0 }
  { header with hCrc := computeCrc header.summed }

/-- A frame of version 2 whose payload is a keepalive packet. -/
def foreignFrame : Framed where
  header := foreignHeader
  payload := makeHeader 7 .ka 0 []
  start := rfl
  checksum := by decide
  small := by decide
  whole := by decide

/-- Behind the refused header of that frame the client finds the keepalive in its payload. -/
theorem refused_not_discarded : ¬ ∀ packet frames, DiscardsWhole packet frames := by
  intro always
  have inStep := (always Packet.cleared [foreignFrame]).readInStep
  have split : (streamOf [foreignFrame]).drop 0 =
      foreignFrame.header.bytes ++ foreignFrame.payload := by decide
  have refused : foreignFrame.Refused := ⟨_, rfl⟩
  obtain ⟨error, refused⟩ := refused
  have place : Place (streamOf [foreignFrame]) 13 :=
    .single (.refused split (Header.bytes_length _) refused)
  have accepted : Hdcp.Accepted foreignFrame.payload [] (madeHeader 7 .ka 0 []) :=
    ⟨by decide, by decide, by decide⟩
  have stands : StandsAt (streamOf [foreignFrame]) 13 foreignFrame.payload :=
    ⟨_, [], _, accepted, (List.append_nil _).symm, [], by decide⟩
  obtain ⟨frame, before, after, same, size⟩ := inStep.alone 13 _ place stands
  cases before with
  | nil => contradiction
  | cons first before =>
    have none := (List.cons.inj same).2
    simp at none

/-- On a stream of frames of any version, type and content the client discards frames whole and
delivers the acceptable ones exactly when it looks for a header at the start of every acceptable
frame and no packet stands at any other place at which it looks. -/
theorem refused_discarded_iff (packet : Packet) (frames : List Framed) :
    DiscardsWhole packet frames ↔ ReadInStep frames :=
  ⟨fun discards => discards.readInStep, fun inStep => inStep.discardsWhole packet⟩

end Hdcp.Tcp
