import Hdcp.Transport.Framing

/-!
# The readers on hostile input

The peer chooses every byte and with the header the length of the next read. What keeps the reads
inside the array is that a payload is requested only for a header that was accepted, and what
keeps the array coherent is that one read is outstanding at a time. The client keeps both on every
input. The server keeps both as long as every header it reads is accepted: after the first one
that is refused it has two reads outstanding.
-/

namespace Hdcp.Tcp

open Base

/-- A packet in the read queue passes both parsers. -/
def Accepted (packet : Packet) : Prop :=
  (∃ header, packet.parseHeader = .ok header) ∧ packet.parsePayload = .ok ()

/-- What a reader must never give up: one read at a time, payloads requested for accepted headers
only, reads inside the array, accepted packets in the queue. -/
structure Safe (reader : Reader) : Prop where
  /-- At most one `async_read` is outstanding. -/
  one : reader.reads.length ≤ 1
  /-- A payload read is for an accepted header, and for as many bytes as it announces. -/
  payload : ∀ read ∈ reader.reads, read.handler = .payload →
    ∃ header, reader.readPacket.parseHeader = .ok header ∧ read.size = header.len.toNat
  /-- Every read targets bytes of the array. -/
  inside : ∀ read ∈ reader.reads, read.offset + read.size ≤ maxSize
  /-- Every packet put in the queue passes both parsers. -/
  queued : ∀ packet ∈ reader.readQueue, Accepted packet

/-- The reads a reader issues when all is well: of a header to the front of the array, of a payload
behind the accepted header in the array. -/
def Proper (reader : Reader) (read : Read) : Prop :=
  read = ⟨.header, 0, headerSize⟩ ∨
    ∃ header, reader.readPacket.parseHeader = .ok header ∧
      read = ⟨.payload, headerSize, header.len.toNat⟩

/-- The invariant of both readers. An accept and a read are never outstanding together. -/
structure Sound (reader : Reader) : Prop where
  /-- At most one operation is outstanding. -/
  one : reader.reads.length + reader.accepts ≤ 1
  /-- Outstanding reads are proper. -/
  proper : ∀ read ∈ reader.reads, Proper reader read
  /-- Every packet put in the queue passes both parsers. -/
  queued : ∀ packet ∈ reader.readQueue, Accepted packet

/-- The invariant gives safety: an accepted length fits the array behind the header. -/
theorem Sound.safe {reader : Reader} (sound : Sound reader) : Safe reader where
  one := Nat.le_trans (Nat.le_add_right _ _) sound.one
  payload := by
    intro read outstanding kind
    rcases sound.proper read outstanding with rfl | ⟨header, parsed, rfl⟩
    · contradiction
    · exact ⟨header, parsed, rfl⟩
  inside := by
    intro read outstanding
    rcases sound.proper read outstanding with rfl | ⟨header, parsed, rfl⟩
    · decide
    · have small := ((parseHeader_ok_iff _ _).mp parsed).2.2.2.2.2.2
      simp only [maxPlSize, maxSize, headerSize] at small ⊢
      omega
  queued := sound.queued

/-- A proper read found outstanding is the only one. -/
theorem Sound.alone {reader : Reader} (sound : Sound reader) {index : Nat} {read : Read}
    (found : reader.reads[index]? = some read) :
    reader.reads = [read] ∧ reader.reads.eraseIdx index = [] ∧ reader.accepts = 0 ∧
      Proper reader read := by
  have one := sound.one
  have proper := sound.proper read (List.mem_of_getElem? found)
  match reads : reader.reads with
  | [] => simp [reads] at found
  | [only] =>
    rw [reads] at found one
    cases index with
    | zero =>
      obtain rfl := Option.some.inj found
      simp only [List.length_singleton] at one
      exact ⟨rfl, rfl, by omega, proper⟩
    | succ index => simp at found
  | _ :: _ :: _ =>
    simp only [reads, List.length_cons] at one
    omega

/-- A header read fills the header view with the bytes it got. -/
theorem headerView_store (packet : Packet) (bytes : Bytes) (size : bytes.length = headerSize) :
    (packet.store 0 bytes).headerView = bytes := by
  rw [Packet.headerView, ← Packet.overwrite,
    Packet.overwrite_data packet bytes (by rw [size]; decide),
    List.take_left' size]

/-- A payload read inside the array leaves the header view. -/
theorem headerView_store_payload (packet : Packet) (bytes : Bytes)
    (fits : headerSize + bytes.length ≤ maxSize) :
    (packet.store headerSize bytes).headerView = packet.headerView := by
  have front : (packet.data.take headerSize).length = headerSize := by
    rw [List.length_take, packet.size_data]
    decide
  rw [Packet.headerView, Packet.store_data packet headerSize bytes fits, List.append_assoc,
    List.take_left' front, Packet.headerView]

/-- The header of a packet is the one its header view parses to. -/
theorem header_of_parsed (packet : Packet) (header : Header)
    (parsed : packet.parseHeader = .ok header) : packet.header = header := by
  rw [((parseHeader_ok_iff _ _).mp parsed).1, Packet.headerView,
    Header.ofBytes_take _ _ (Nat.le_refl _), Packet.header]

/-- A proper payload read, completed, leaves the accepted header in the array. -/
theorem parseHeader_after_payload (packet : Packet) (header : Header) (bytes : Bytes)
    (parsed : packet.parseHeader = .ok header) (size : bytes.length = header.len.toNat) :
    (packet.store headerSize bytes).parseHeader = .ok header := by
  have small := ((parseHeader_ok_iff _ _).mp parsed).2.2.2.2.2.2
  have fits : headerSize + bytes.length ≤ maxSize := by
    rw [size]
    simp only [maxPlSize, maxSize, headerSize] at small ⊢
    omega
  rw [Packet.parseHeader, headerView_store_payload packet bytes fits]
  exact parsed

/-! ## The client -/

/-- Every event of the client keeps the invariant. -/
theorem client_sound_step (reader : Reader) (event : Event) (next : Reader)
    (sound : Sound reader) (taken : Steps Client.step reader event next) : Sound next := by
  cases event with
  | done index bytes room =>
    obtain ⟨read, found, -, size, rfl⟩ := (complete_eq_some_iff _ _ _ _ _).mp taken
    obtain ⟨-, none, accepts, proper⟩ := sound.alone found
    rcases proper with rfl | ⟨header, parsed, rfl⟩
    · have view := headerView_store reader.readPacket bytes size
      simp only [Client.handler, Client.run_onHeader, none, List.nil_append]
      cases outcome : (reader.readPacket.store 0 bytes).parseHeader with
      | ok header =>
        have front := header_of_parsed _ header outcome
        refine ⟨by simp [accepts], ?_, sound.queued⟩
        intro read outstanding
        obtain rfl := List.mem_singleton.mp outstanding
        exact .inr ⟨header, outcome, by rw [front]⟩
      | error refused =>
        refine ⟨by simp [accepts], ?_, sound.queued⟩
        intro read outstanding
        exact .inl (List.mem_singleton.mp outstanding)
    · have kept := parseHeader_after_payload reader.readPacket header bytes parsed size
      simp only [Client.handler, Client.run_onPayload, none, List.nil_append]
      cases outcome : (reader.readPacket.store headerSize bytes).parsePayload with
      | ok done =>
        refine ⟨by simp [accepts], ?_, ?_⟩
        · intro read outstanding
          exact .inl (List.mem_singleton.mp outstanding)
        · intro packet inside
          cases room with
          | false => exact sound.queued packet inside
          | true =>
            rcases List.mem_append.mp inside with before | last
            · exact sound.queued packet before
            · obtain rfl := List.mem_singleton.mp last
              exact ⟨⟨header, kept⟩, outcome⟩
      | error refused =>
        refine ⟨by simp [accepts], ?_, sound.queued⟩
        intro read outstanding
        exact .inl (List.mem_singleton.mp outstanding)
  | failed index ec =>
    obtain ⟨read, found, -, bad, -, rfl⟩ := (fail_eq_some_iff _ _ _ _ _).mp taken
    obtain ⟨-, none, accepts, -⟩ := sound.alone found
    obtain ⟨reads, packet, queue, same⟩ := Client.run_failed read ec bad
      { reader with reads := reader.reads.eraseIdx index }
    simp only [none] at reads packet queue same ⊢
    refine ⟨by rw [reads, same, accepts]; decide, ?_, by rw [queue]; exact sound.queued⟩
    intro other outstanding
    rw [reads] at outstanding
    contradiction
  | stopped =>
    obtain rfl := Option.some.inj taken
    exact ⟨sound.one, sound.proper, sound.queued⟩
  | closed =>
    obtain rfl := Option.some.inj taken
    exact ⟨sound.one, sound.proper, sound.queued⟩
  | accepted | acceptFailed | acceptAborted => exact absurd taken (by simp [Steps, Client.step])

/-- The client is waiting for one read to complete, with its io thread alive. -/
def Listening (reader : Reader) : Prop :=
  reader.looping = true ∧ reader.running = true ∧ ∃ read, reader.reads = [read]

/-- A completed read, whatever its bytes, leaves the client listening. -/
theorem client_listening_step (reader : Reader) (index : Nat) (bytes : Bytes) (room : Bool)
    (next : Reader) (listening : Listening reader)
    (taken : Steps Client.step reader (.done index bytes room) next) : Listening next := by
  obtain ⟨looping, running, only, alone⟩ := listening
  obtain ⟨size, rfl⟩ := complete_alone alone taken
  obtain ⟨kind, offset, length⟩ := only
  cases kind with
  | header =>
    simp only [Client.handler, Client.run_onHeader]
    split
    · exact ⟨looping, running, _, rfl⟩
    · exact ⟨running, running, _, rfl⟩
  | payload =>
    simp only [Client.handler, Client.run_onPayload]
    split
    · exact ⟨looping, running, _, rfl⟩
    · exact ⟨running, running, _, rfl⟩

/-- Completed reads, whatever their bytes, leave the client listening. -/
theorem client_listening_run {start finish : Reader} {events : List Event}
    (run : Run (Steps Client.step) start events finish) (listening : Listening start)
    (completions : ∀ event ∈ events, ∃ index bytes room, event = .done index bytes room) :
    Listening finish := by
  induction run with
  | nil => exact listening
  | cons taken rest ih =>
    obtain ⟨index, bytes, room, rfl⟩ := completions _ List.mem_cons_self
    exact ih (client_listening_step _ index bytes room _ listening taken)
      fun event inside => completions event (List.mem_cons_of_mem _ inside)

/-- On every input the client's reader is safe in every state it reaches, and as long as its reads
complete it has exactly one outstanding, which any bytes complete. -/
theorem client_safe (packet : Packet) (events : List Event) (finish : Reader)
    (run : Run (Steps Client.step) (Client.started packet) events finish) :
    Safe finish ∧
      ((∀ event ∈ events, ∃ index bytes room, event = .done index bytes room) →
        ∃ read, finish.reads = [read] ∧ ∀ bytes room, bytes.length = read.size →
          ∃ next, Client.step finish (.done 0 bytes room) = some next) := by
  have initial : Sound (Client.started packet) :=
    ⟨Nat.le_refl 1, fun read outstanding => .inl (List.mem_singleton.mp outstanding), by
      intro queued inside
      contradiction⟩
  refine ⟨(run.invariant client_sound_step initial).safe, ?_⟩
  intro completions
  obtain ⟨looping, -, read, alone⟩ := client_listening_run run ⟨rfl, rfl, _, rfl⟩ completions
  exact ⟨read, alone, fun bytes room size => complete_taken finish _ alone looping size⟩

/-- Thirteen bytes that are no header leave the client safe and listening. -/
theorem client_safe_garbage : ∃ finish,
    Safe finish ∧ ∃ read, finish.reads = [read] ∧ ∀ bytes room, bytes.length = read.size →
      ∃ next, Client.step finish (.done 0 bytes room) = some next := by
  obtain ⟨next, taken⟩ := complete_taken (Client.started Packet.cleared)
    (fun read => Client.run (Client.handler read true .success)) rfl rfl
    (show (List.replicate 13 (0xFF : UInt8)).length = headerSize from rfl)
  have run : Run (Steps Client.step) (Client.started Packet.cleared)
      [.done 0 (List.replicate 13 0xFF) true] next := .cons taken (.nil next)
  obtain ⟨safe, listening⟩ := client_safe _ _ _ run
  exact ⟨next, safe, listening fun event inside =>
    ⟨0, List.replicate 13 0xFF, true, List.mem_singleton.mp inside⟩⟩

/-! ## The server -/

/-- A header read completes only with bytes the header parser accepts. -/
def HeaderAccepted (reader : Reader) (event : Event) : Prop :=
  ∀ index bytes room read, event = .done index bytes room → reader.reads[index]? = some read →
    read.handler = .header → ∃ header, Hdcp.parseHeader bytes = .ok header

/-- Every event of the server keeps the invariant, a refused header apart. -/
theorem server_sound_step (reader : Reader) (event : Event) (next : Reader)
    (sound : Sound reader) (taken : Guarded HeaderAccepted (Steps Server.step) reader event next) :
    Sound next := by
  obtain ⟨good, taken⟩ := taken
  cases event with
  | done index bytes room =>
    obtain ⟨read, found, -, size, rfl⟩ := (complete_eq_some_iff _ _ _ _ _).mp taken
    obtain ⟨-, none, accepts, proper⟩ := sound.alone found
    rcases proper with rfl | ⟨header, parsed, rfl⟩
    · obtain ⟨header, parsed⟩ := good index bytes room _ rfl found rfl
      have outcome : (reader.readPacket.store 0 bytes).parseHeader = .ok header := by
        rw [Packet.parseHeader, headerView_store reader.readPacket bytes size, parsed]
      have front := header_of_parsed _ header outcome
      simp only [Server.handler, Server.run_onHeader, none, List.nil_append, outcome, front]
      refine ⟨by simp [accepts], ?_, sound.queued⟩
      intro read outstanding
      obtain rfl := List.mem_singleton.mp outstanding
      exact .inr ⟨header, outcome, rfl⟩
    · have kept := parseHeader_after_payload reader.readPacket header bytes parsed size
      simp only [Server.handler, Server.run_onPayload, none, List.nil_append]
      refine ⟨by simp [accepts], ?_, ?_⟩
      · intro read outstanding
        exact .inl (List.mem_singleton.mp outstanding)
      · intro packet inside
        cases outcome : (reader.readPacket.store headerSize bytes).parsePayload with
        | error refused =>
          simp only [outcome] at inside
          exact sound.queued packet inside
        | ok done =>
          simp only [outcome] at inside
          cases room with
          | false => exact sound.queued packet inside
          | true =>
            rcases List.mem_append.mp inside with before | last
            · exact sound.queued packet before
            · obtain rfl := List.mem_singleton.mp last
              exact ⟨⟨header, kept⟩, outcome⟩
  | failed index ec =>
    obtain ⟨read, found, -, bad, -, rfl⟩ := (fail_eq_some_iff _ _ _ _ _).mp taken
    obtain ⟨-, none, accepts, -⟩ := sound.alone found
    obtain ⟨reads, packet, queue, waiting⟩ := Server.run_failed read ec bad
      { reader with reads := reader.reads.eraseIdx index }
    simp only [none] at reads packet queue waiting ⊢
    refine ⟨?_, ?_, by rw [queue]; exact sound.queued⟩
    · rw [reads, waiting, accepts]
      cases ec <;> simp
    · intro other outstanding
      rw [reads] at outstanding
      contradiction
  | accepted =>
    simp only [Steps, Server.step, Option.ite_none_right_eq_some, Option.some.injEq] at taken
    obtain ⟨⟨-, waiting⟩, rfl⟩ := taken
    have one := sound.one
    have none : reader.reads = [] := List.length_eq_zero_iff.mp (by omega)
    have spent : reader.accepts - 1 = 0 := by omega
    simp only [Server.run, Server.onAccept, setErrc, readHeader, asyncRead, bind_apply,
      modify_apply, ↓reduceIte, none, List.nil_append, spent]
    refine ⟨Nat.le_refl 1, ?_, sound.queued⟩
    intro read outstanding
    exact .inl (List.mem_singleton.mp outstanding)
  | acceptFailed ec =>
    simp only [Steps, Server.step, Option.ite_none_right_eq_some, Option.some.injEq] at taken
    obtain ⟨⟨-, -, bad⟩, rfl⟩ := taken
    have one := sound.one
    simp only [Server.run, Server.onAccept, setErrc, bind_apply, modify_apply, bad,
      ↓reduceIte, pure_apply]
    exact ⟨by simp only; omega, sound.proper, sound.queued⟩
  | acceptAborted =>
    simp only [Steps, Server.step, Option.ite_none_right_eq_some, Option.some.injEq] at taken
    obtain ⟨-, rfl⟩ := taken
    exact ⟨sound.one, sound.proper, sound.queued⟩
  | stopped =>
    obtain rfl := Option.some.inj taken
    exact ⟨sound.one, sound.proper, sound.queued⟩
  | closed =>
    obtain rfl := Option.some.inj taken
    exact ⟨Nat.le_trans (Nat.le_add_right _ _) sound.one, sound.proper, sound.queued⟩

/-- A refused header leaves the server with two reads outstanding. -/
theorem server_refused_breaks (reader : Reader) (event : Event) (next : Reader)
    (sound : Sound reader) (taken : Steps Server.step reader event next)
    (refused : ¬ HeaderAccepted reader event) : ¬ Safe next := by
  intro safe
  apply refused
  rintro index bytes room read rfl found kind
  obtain ⟨read', found', -, size, rfl⟩ := (complete_eq_some_iff _ _ _ _ _).mp taken
  obtain rfl := Option.some.inj (found.symm.trans found')
  obtain ⟨-, -, -, proper⟩ := sound.alone found
  rcases proper with rfl | ⟨header, -, rfl⟩
  · have one := safe.one
    simp only [Server.handler, Server.run_onHeader, Packet.parseHeader,
      headerView_store reader.readPacket bytes size] at one
    cases parsed : Hdcp.parseHeader bytes with
    | ok header => exact ⟨header, rfl⟩
    | error error =>
      simp only [parsed, List.length_append, List.length_cons, List.length_nil] at one
      omega
  · contradiction

/-- A run of the server from a sound state is safe throughout exactly when it never completes a
header read with refused bytes. -/
theorem server_run_safe_iff {start finish : Reader} {events : List Event} (sound : Sound start)
    (run : Run (Steps Server.step) start events finish) :
    (∀ front back middle, events = front ++ back →
      Run (Steps Server.step) start front middle → Safe middle) ↔
    Run (Guarded HeaderAccepted (Steps Server.step)) start events finish := by
  refine run.throughout_iff (fun _ standing => standing.safe) ?_ ?_ sound
  · intro state event next standing good taken
    exact server_sound_step state event next standing ⟨good, taken⟩
  · intro state event next standing refused taken
    exact server_refused_breaks state event next standing taken refused

/-- On every input the server's reader is safe in every state it reaches if and only if every
header it reads is accepted. -/
theorem server_safe_iff (packet : Packet) (events : List Event) (finish : Reader)
    (run : Run (Steps Server.step) (Server.started packet) events finish) :
    (∀ front back middle, events = front ++ back →
      Run (Steps Server.step) (Server.started packet) front middle → Safe middle) ↔
    Run (Guarded HeaderAccepted (Steps Server.step)) (Server.started packet) events finish := by
  refine server_run_safe_iff ⟨Nat.le_refl 1, ?_, ?_⟩ run
  · intro read outstanding
    contradiction
  · intro queued inside
    contradiction

/-- A connection that delivers one keepalive is safe for the server throughout. -/
theorem server_safe_iff_keepalive : ∃ finish,
    Run (Steps Server.step) (Server.started Packet.cleared)
      [.accepted, .done 0 (makeHeader 15 .ka 0 []) true] finish ∧
    ∀ front back middle,
      [Event.accepted, .done 0 (makeHeader 15 .ka 0 []) true] = front ++ back →
      Run (Steps Server.step) (Server.started Packet.cleared) front middle → Safe middle := by
  obtain ⟨next, taken⟩ := complete_taken (Server.connected Packet.cleared)
    (fun read => Server.run (Server.handler read true .success)) rfl rfl
    (makeHeader_length 15 .ka 0 [])
  have connected : Steps Server.step (Server.started Packet.cleared) .accepted
      (Server.connected Packet.cleared) := rfl
  have first : HeaderAccepted (Server.started Packet.cleared) .accepted := by
    rintro index bytes room read absurdity
    contradiction
  have second : HeaderAccepted (Server.connected Packet.cleared)
      (.done 0 (makeHeader 15 .ka 0 []) true) := by
    rintro index bytes room read same - -
    cases same
    exact ⟨_, parseHeader_makeHeader 15 .ka 0 [] (by decide)⟩
  have guarded : Run (Guarded HeaderAccepted (Steps Server.step)) (Server.started Packet.cleared)
      [.accepted, .done 0 (makeHeader 15 .ka 0 []) true] next :=
    .cons ⟨first, connected⟩ (.cons ⟨second, taken⟩ (.nil next))
  exact ⟨next, guarded.unguarded,
    (server_safe_iff Packet.cleared _ next guarded.unguarded).mpr guarded⟩

/-- Thirteen bytes `FF`: the refused header leaves a header read and a payload read outstanding,
the payload read for 65535 bytes of the 2048-byte array. -/
theorem server_garbage_unsafe :
    ∃ finish, Run (Steps Server.step) (Server.started Packet.cleared)
        [.accepted, .done 0 (List.replicate 13 0xFF) true] finish ∧
      finish.reads = [⟨.header, 0, 13⟩, ⟨.payload, 13, 65535⟩] ∧ ¬ Safe finish := by
  have connected : Steps Server.step (Server.started Packet.cleared) .accepted
      (Server.connected Packet.cleared) := rfl
  have taken := (complete_eq_some_iff (Server.connected Packet.cleared)
    (Server.run (Server.handler ⟨.header, 0, headerSize⟩ true .success)
      { Server.connected Packet.cleared with
        reads := []
        readPacket := Packet.cleared.store 0 (List.replicate 13 0xFF) }) 0
    (List.replicate 13 0xFF)
    (fun read => Server.run (Server.handler read true .success))).mpr
      ⟨⟨.header, 0, headerSize⟩, rfl, rfl, rfl, rfl⟩
  have reads : (Server.run (Server.handler ⟨.header, 0, headerSize⟩ true .success)
      { Server.connected Packet.cleared with
        reads := []
        readPacket := Packet.cleared.store 0 (List.replicate 13 0xFF) }).reads =
      [⟨.header, 0, 13⟩, ⟨.payload, 13, 65535⟩] := by
    simp only [Server.handler, Server.run_onHeader]
    decide
  refine ⟨_, .cons connected (.cons taken (.nil _)), reads, ?_⟩
  intro safe
  have one := safe.one
  rw [show _ = _ from reads] at one
  contradiction

end Hdcp.Tcp
