import Hdcp.Transport.TcpReader
import Hdcp.Transport.TcpWriter

/-!
# The TCP server and its clients

The server's reader and writer share the socket, the acceptor and the io thread. A connection ends
with an error code reported to a header read, a payload read or a write; the end of the file makes
the handler close the socket and accept again, another error unwinds into `run()`, which closes the
socket and leaves its loop. Closing marks the outstanding reads: those of a closed socket serve no
client, whatever they complete with later. `shutdown()` on a connection the peer has reset raises,
inside `close()` and out of whatever called it.
-/

namespace Hdcp.Tcp

open Base

/-- An outstanding `async_read` of the server. -/
structure Issued where
  /-- What it reads, and its handler. -/
  read : Read
  /-- It was issued on an open socket that has not been closed since. -/
  live : Bool

/-- The server: its writer, and what its reader and its acceptor act on. -/
structure ServerState extends Writer where
  /-- `read_packet_`. -/
  readPacket : Packet
  /-- The packets put in `read_queue_` so far, oldest first. -/
  readQueue : List Packet
  /-- Outstanding reads. -/
  reads : List Issued
  /-- Outstanding accepts. -/
  accepts : Nat
  /-- Accepts that were cancelled and whose handlers have not run. -/
  cancelled : Nat
  /-- The connection was reset: `socket_.shutdown` raises. -/
  shutdownFails : Bool

/-- Code of the server: it may throw, and what it did before stays done. -/
abbrev ServerAction := EStateM Exn ServerState Unit

/-- What happens to the server: completions on the io thread, the calls of other threads, the peer's
resets. -/
inductive ServerEvent where
  /-- Outstanding read `index` completes with these bytes; `room` tells whether the read queue
  has room for one more packet. -/
  | readDone (index : Nat) (bytes : Bytes) (room : Bool)
  /-- Outstanding read `index` completes with an error. -/
  | readFailed (index : Nat) (ec : ErrorCode)
  /-- An event of the writer that is no error: a packet posted, a handler begun or continued, a
  write completed, a packet removed. -/
  | writer (event : WriterEvent)
  /-- An outstanding write completes with an error. -/
  | writeFailed (ec : ErrorCode)
  /-- An outstanding accept completes with a connection. -/
  | accepted
  /-- An outstanding accept completes with an error. -/
  | acceptFailed (ec : ErrorCode)
  /-- An accept that had its connection when it was cancelled completes with it. -/
  | acceptedLate
  /-- The handler of a cancelled accept runs with an error. -/
  | acceptAborted (ec : ErrorCode)
  /-- The peer resets the connection. -/
  | reset
  /-- `io_context_.run()` returns for lack of work. -/
  | exited

namespace ServerState

/-- `errc_ = ec`. -/
def setErrc (ec : ErrorCode) : ServerAction := modify fun server => { server with errc := ec }

/-- `boost::asio::async_read` into the array of `read_packet_`. -/
def asyncRead (handler : Handler) (offset size : Nat) : ServerAction :=
  modify fun server =>
    { server with reads := server.reads ++ [⟨⟨handler, offset, size⟩, server.socketOpen⟩] }

/-- `Server::read_header`. -/
def readHeader : ServerAction := asyncRead .header 0 headerSize

/-- `read_packet_.parse_header()`. -/
def parseHeader : ServerAction := do
  match (← get).readPacket.parseHeader with
  | .ok _ => pure ()
  | .error error => throw (.packet error)

/-- `read_packet_.parse_payload()`. -/
def parsePayload : ServerAction := do
  match (← get).readPacket.parsePayload with
  | .ok _ => pure ()
  | .error error => throw (.packet error)

/-- `socket_.shutdown(shutdown_both)`; the `system_error` it raises carries the system's value, as
an `asio_error` does. -/
def shutdown : ServerAction := do
  if (← get).shutdownFails then throw (.asio 107)

/-- `Server::close`. -/
def close : ServerAction := do
  if (← get).socketOpen then shutdown
  modify fun server =>
    { server with accepts := 0, cancelled := server.cancelled + server.accepts }
  modify fun server =>
    { server with
      socketOpen := false
      reads := server.reads.map fun issued => ⟨issued.read, false⟩ }

/-- `Server::open`. -/
def openTransport : ServerAction := do
  if (← get).socketOpen then return
  modify fun server => { server with accepts := server.accepts + 1 }

/-- `Server::read_payload`: a refused header starts the next header read, and the function goes on
to the payload read all the same. -/
def readPayload : ServerAction := do
  try parseHeader
  catch
    | .packet _ => readHeader
    | other => throw other
  asyncRead .payload headerSize (← get).readPacket.header.len.toNat

/-- The handler of `Server::read_header`. -/
def onHeader (ec : ErrorCode) : ServerAction := do
  setErrc ec
  match ec with
  | .success => readPayload
  | .operationAborted => pure ()
  | .eof =>
    close
    openTransport
  | .other value => throw (.asio value)

/-- The handler of `Server::read_payload`: a bad payload and a full queue are both only logged. -/
def onPayload (room : Bool) (ec : ErrorCode) : ServerAction := do
  setErrc ec
  match ec with
  | .success =>
    try
      parsePayload
      if room then
        modify fun server => { server with readQueue := server.readQueue ++ [server.readPacket] }
      else throw (.transport (.transport .readQueueFull))
    catch _ => pure ()
    readHeader
  | .operationAborted => pure ()
  | .eof =>
    close
    setErrc ec
    openTransport
  | .other value => throw (.asio value)

/-- The handler of an outstanding read. -/
def handler (read : Read) (room : Bool) (ec : ErrorCode) : ServerAction :=
  match read.handler with
  | .header => onHeader ec
  | .payload => onPayload room ec

/-- The error branches of the completion handler of `Server::do_write`. -/
def onWriteError (ec : ErrorCode) : ServerAction := do
  setErrc ec
  match ec with
  | .success => pure ()
  | .operationAborted => modify fun server => { server with writeInProgress := false }
  | .eof =>
    close
    setErrc ec
    openTransport
    modify fun server => { server with writeInProgress := false }
  | .other value => throw (.asio value)

/-- The handler of an accept. -/
def onAccept (ec : ErrorCode) : ServerAction := do
  setErrc ec
  if ec = .success then readHeader

/-- `Server::run` around one handler: packet and transport errors are logged and the loop goes
on, any other exception closes the transport and ends the loop, also where closing raises again. -/
def run (action : ServerAction) (server : ServerState) : ServerState :=
  match action server with
  | .ok _ after => after
  | .error (.packet _) after => { after with looping := after.running }
  | .error (.transport _) after => { after with looping := after.running }
  | .error _ after =>
    match close after with
    | .ok _ ended | .error _ ended => { ended with looping := false }

/-- `Server::start`, with the thread it starts in the loop of `run()`. -/
def start : ServerAction := do
  if (← get).running then return
  modify fun server => { server with writeInProgress := false }
  openTransport
  modify fun server => { server with running := true, looping := true }

/-- The io thread is about to run a handler. -/
def Runs (server : ServerState) : Prop := server.looping = true ∧ server.position = .between

instance (server : ServerState) : Decidable server.Runs := inferInstanceAs (Decidable (_ ∧ _))

/-- An event of the writer that is no error. -/
def writerStep (server : ServerState) (event : WriterEvent) : Option ServerState :=
  match event with
  | .posted _ | .begun | .completed | .proceed _ | .cleared =>
    (server.toWriter.step .server event).map fun writer => { server with toWriter := writer }
  | _ => none

/-- One event. -/
def step (server : ServerState) : ServerEvent → Option ServerState
  | .readDone index bytes room =>
    match server.reads[index]? with
    | none => none
    | some issued =>
      if server.Runs ∧ bytes.length = issued.read.size then
        some <| run (handler issued.read room .success)
          { server with
            reads := server.reads.eraseIdx index
            readPacket := server.readPacket.store issued.read.offset bytes }
      else none
  | .readFailed index ec =>
    match server.reads[index]? with
    | none => none
    | some issued =>
      if server.Runs ∧ ec ≠ .success ∧ (ec = .operationAborted → issued.live = false) then
        some <| run (handler issued.read true ec)
          { server with reads := server.reads.eraseIdx index }
      else none
  | .writer event => server.writerStep event
  | .writeFailed ec =>
    if server.Runs ∧ 0 < server.outstanding ∧ ec ≠ .success then
      some <| run (onWriteError ec) { server with outstanding := server.outstanding - 1 }
    else none
  | .accepted =>
    if server.Runs ∧ 0 < server.accepts ∧ server.socketOpen = false then
      some <| run (onAccept .success)
        { server with
          socketOpen := true
          shutdownFails := false
          accepts := server.accepts - 1 }
    else none
  | .acceptFailed ec =>
    if server.Runs ∧ 0 < server.accepts ∧ ec ≠ .success then
      some <| run (onAccept ec) { server with accepts := server.accepts - 1 }
    else none
  | .acceptedLate =>
    if server.Runs ∧ 0 < server.cancelled ∧ server.socketOpen = false then
      some <| run (onAccept .success)
        { server with
          socketOpen := true
          shutdownFails := false
          cancelled := server.cancelled - 1 }
    else none
  | .acceptAborted ec =>
    if server.Runs ∧ 0 < server.cancelled ∧ ec ≠ .success then
      some <| run (onAccept ec) { server with cancelled := server.cancelled - 1 }
    else none
  | .reset => some { server with shutdownFails := true }
  | .exited =>
    if server.Runs ∧ server.reads = [] ∧ server.accepts = 0 ∧ server.cancelled = 0 ∧
        server.postedHandlers = [] ∧ server.outstanding = 0 then
      some { server with looping := false }
    else none

/-! ## What a handler does -/

/-- The server with the socket closed, the outstanding accepts cancelled. -/
def closed (server : ServerState) : ServerState :=
  { server with
    socketOpen := false
    reads := server.reads.map fun issued => ⟨issued.read, false⟩
    accepts := 0
    cancelled := server.cancelled + server.accepts }

/-- An error code after which the handlers go on: the loop survives an abortion, and the end of the
file unless the connection has been reset as well. -/
def Tolerates (server : ServerState) : ErrorCode → Prop
  | .success | .operationAborted => True
  | .eof => ¬ (server.socketOpen = true ∧ server.shutdownFails = true)
  | .other _ => False

/-- Closing closes, unless `shutdown` raises. -/
theorem close_apply (server : ServerState) :
    close server =
      if server.socketOpen = true ∧ server.shutdownFails = true then .error (.asio 107) server
      else .ok () server.closed := by
  cases opened : server.socketOpen <;> cases lost : server.shutdownFails <;>
    simp [close, shutdown, closed, opened, lost]

/-- Parsing the header in the array throws what the parser refuses and changes nothing. -/
theorem parseHeader_apply (server : ServerState) :
    parseHeader server =
      match server.readPacket.parseHeader with
      | .ok _ => .ok () server
      | .error error => .error (.packet error) server := by
  simp only [parseHeader, bind_apply, get_apply]
  cases server.readPacket.parseHeader <;> rfl

/-- Parsing the payload in the array throws what the parser refuses and changes nothing. -/
theorem parsePayload_apply (server : ServerState) :
    parsePayload server =
      match server.readPacket.parsePayload with
      | .ok _ => .ok () server
      | .error error => .error (.packet error) server := by
  simp only [parsePayload, bind_apply, get_apply]
  cases server.readPacket.parsePayload <;> rfl

/-- A read that completed is followed by at least one other on the same socket. -/
theorem run_read (read : Read) (room : Bool) (server : ServerState) :
    ∃ queue more, run (handler read room .success) server =
        { server with
          errc := .success
          readQueue := queue
          reads := server.reads ++ more } ∧
      more ≠ [] ∧ ∀ issued ∈ more, issued.live = server.socketOpen := by
  obtain ⟨kind, offset, size⟩ := read
  cases kind with
  | header =>
    cases outcome : server.readPacket.parseHeader with
    | ok header =>
      refine ⟨server.readQueue, [⟨⟨.payload, headerSize, server.readPacket.header.len.toNat⟩,
        server.socketOpen⟩], ?_, List.cons_ne_nil _ _, ?_⟩
      · simp [handler, run, onHeader, setErrc, readPayload, parseHeader_apply, outcome, asyncRead]
      · intro issued inside
        rw [List.mem_singleton.mp inside]
    | error refused =>
      refine ⟨server.readQueue, [⟨⟨.header, 0, headerSize⟩, server.socketOpen⟩,
        ⟨⟨.payload, headerSize, server.readPacket.header.len.toNat⟩, server.socketOpen⟩], ?_,
        List.cons_ne_nil _ _, ?_⟩
      · simp [handler, run, onHeader, setErrc, readPayload, parseHeader_apply, outcome, asyncRead,
          readHeader]
      · intro issued inside
        rcases List.mem_cons.mp inside with rfl | last
        · rfl
        · rw [List.mem_singleton.mp last]
  | payload =>
    have next : ∀ issued ∈ [(⟨⟨.header, 0, headerSize⟩, server.socketOpen⟩ : Issued)],
        issued.live = server.socketOpen := by
      intro issued inside
      rw [List.mem_singleton.mp inside]
    cases outcome : server.readPacket.parsePayload with
    | ok _ =>
      cases room with
      | true =>
        refine ⟨server.readQueue ++ [server.readPacket], _, ?_, List.cons_ne_nil _ _, next⟩
        simp [handler, run, onPayload, setErrc, parsePayload_apply, outcome, asyncRead, readHeader]
      | false =>
        refine ⟨server.readQueue, _, ?_, List.cons_ne_nil _ _, next⟩
        simp [handler, run, onPayload, setErrc, parsePayload_apply, outcome, asyncRead, readHeader]
    | error refused =>
      refine ⟨server.readQueue, _, ?_, List.cons_ne_nil _ _, next⟩
      simp [handler, run, onPayload, setErrc, parsePayload_apply, outcome, asyncRead, readHeader]

/-- An aborted read is forgotten. -/
theorem run_aborted (read : Read) (server : ServerState) :
    run (handler read true .operationAborted) server =
      { server with errc := .operationAborted } := by
  obtain ⟨kind, offset, size⟩ := read
  cases kind <;> simp [handler, run, onHeader, onPayload, setErrc]

/-- At the end of the file a read handler closes the socket and accepts again. -/
theorem run_eof (read : Read) (server : ServerState) (tolerated : server.Tolerates .eof) :
    run (handler read true .eof) server = { server.closed with errc := .eof, accepts := 1 } := by
  have goes : ¬ (server.socketOpen = true ∧ server.shutdownFails = true) := tolerated
  obtain ⟨kind, offset, size⟩ := read
  cases kind <;>
    simp [handler, run, onHeader, onPayload, setErrc, close_apply, goes, openTransport, closed]

/-- After any other error of a read, and where `shutdown` raises, the loop has ended. -/
theorem run_ended (read : Read) (ec : ErrorCode) (server : ServerState)
    (fatal : ¬ server.Tolerates ec) : (run (handler read true ec) server).looping = false := by
  obtain ⟨kind, offset, size⟩ := read
  cases ec with
  | success => exact absurd trivial fatal
  | operationAborted => exact absurd trivial fatal
  | eof =>
    have raises : server.socketOpen = true ∧ server.shutdownFails = true := by
      simpa [Tolerates] using fatal
    cases kind <;> simp [handler, run, onHeader, onPayload, setErrc, close_apply, raises]
  | other value =>
    by_cases raises : server.socketOpen = true ∧ server.shutdownFails = true
    · cases kind <;> simp [handler, run, onHeader, onPayload, setErrc, close_apply, raises]
    · cases kind <;> simp [handler, run, onHeader, onPayload, setErrc, close_apply, raises]

/-- An aborted write clears the flag. -/
theorem run_writeAborted (server : ServerState) :
    run (onWriteError .operationAborted) server =
      { server with errc := .operationAborted, writeInProgress := false } := by
  simp [run, onWriteError, setErrc]

/-- At the end of the file the handler of a write closes the socket and accepts again. -/
theorem run_writeEof (server : ServerState) (tolerated : server.Tolerates .eof) :
    run (onWriteError .eof) server =
      { server.closed with errc := .eof, accepts := 1, writeInProgress := false } := by
  have goes : ¬ (server.socketOpen = true ∧ server.shutdownFails = true) := tolerated
  simp [run, onWriteError, setErrc, close_apply, goes, openTransport, closed]

/-- After any other error of a write, and where `shutdown` raises, the loop has ended. -/
theorem run_writeEnded (ec : ErrorCode) (server : ServerState) (fatal : ¬ server.Tolerates ec) :
    (run (onWriteError ec) server).looping = false := by
  cases ec with
  | success => exact absurd trivial fatal
  | operationAborted => exact absurd trivial fatal
  | eof =>
    have raises : server.socketOpen = true ∧ server.shutdownFails = true := by
      simpa [Tolerates] using fatal
    simp [run, onWriteError, setErrc, close_apply, raises]
  | other value =>
    by_cases raises : server.socketOpen = true ∧ server.shutdownFails = true
    · simp [run, onWriteError, setErrc, close_apply, raises]
    · simp [run, onWriteError, setErrc, close_apply, raises]

/-- A connection that was accepted is read from. -/
theorem run_accepted (server : ServerState) :
    run (onAccept .success) server =
      { server with
        errc := .success
        reads := server.reads ++ [⟨⟨.header, 0, headerSize⟩, server.socketOpen⟩] } := by
  simp [run, onAccept, setErrc, readHeader, asyncRead]

/-- An accept that failed is only logged. -/
theorem run_acceptFailed (ec : ErrorCode) (failed : ec ≠ .success) (server : ServerState) :
    run (onAccept ec) server = { server with errc := ec } := by
  simp [run, onAccept, setErrc, failed]

/-- The writer's own events leave the socket and `is_running()`, and end the loop only where that is
false. -/
theorem writerStep_cases {server next : ServerState} {event : WriterEvent}
    (taken : server.writerStep event = some next) :
    ∃ writer : Writer, next = { server with toWriter := writer } ∧
      writer.socketOpen = server.socketOpen ∧ writer.running = server.running ∧
      (writer.looping = server.looping ∨ writer.looping = server.running) := by
  unfold writerStep at taken
  cases event with
  | posted packet =>
    obtain ⟨writer, moved, rfl⟩ := Option.map_eq_some_iff.mp taken
    obtain rfl := Option.some.inj moved
    exact ⟨_, rfl, rfl, rfl, Or.inl rfl⟩
  | begun =>
    obtain ⟨writer, moved, rfl⟩ := Option.map_eq_some_iff.mp taken
    refine ⟨writer, rfl, ?_⟩
    simp only [Writer.step] at moved
    split at moved
    · contradiction
    · obtain ⟨-, same⟩ := Option.ite_none_right_eq_some.mp moved
      obtain rfl := Option.some.inj same
      exact ⟨rfl, rfl, Or.inl rfl⟩
  | completed =>
    obtain ⟨writer, moved, rfl⟩ := Option.map_eq_some_iff.mp taken
    refine ⟨writer, rfl, ?_⟩
    obtain ⟨-, same⟩ := Option.ite_none_right_eq_some.mp moved
    obtain rfl := Option.some.inj same
    exact ⟨rfl, rfl, Or.inl rfl⟩
  | proceed room =>
    obtain ⟨writer, moved, rfl⟩ := Option.map_eq_some_iff.mp taken
    refine ⟨writer, rfl, ?_⟩
    simp only [Writer.step, Writer.statement] at moved
    split at moved
    · contradiction
    · split at moved
      · obtain rfl := Option.some.inj moved
        exact ⟨rfl, rfl, Or.inl rfl⟩
      · obtain rfl := Option.some.inj moved
        exact ⟨rfl, rfl, Or.inr rfl⟩
    · obtain rfl := Option.some.inj moved
      exact ⟨rfl, rfl, Or.inl rfl⟩
    · split at moved
      · obtain rfl := Option.some.inj moved
        exact ⟨rfl, rfl, Or.inl rfl⟩
      · obtain rfl := Option.some.inj moved
        exact ⟨rfl, rfl, Or.inl rfl⟩
    · split at moved
      · obtain rfl := Option.some.inj moved
        exact ⟨rfl, rfl, Or.inl rfl⟩
      · obtain rfl := Option.some.inj moved
        exact ⟨rfl, rfl, Or.inl rfl⟩
    · obtain rfl := Option.some.inj moved
      exact ⟨rfl, rfl, Or.inl rfl⟩
  | cleared =>
    obtain ⟨writer, moved, rfl⟩ := Option.map_eq_some_iff.mp taken
    refine ⟨writer, rfl, ?_⟩
    simp only [Writer.step] at moved
    split at moved
    · obtain rfl := Option.some.inj moved
      exact ⟨rfl, rfl, Or.inl rfl⟩
    · obtain rfl := Option.some.inj moved
      exact ⟨rfl, rfl, Or.inl rfl⟩
  | failed ec => contradiction
  | closed => contradiction
  | reopened => contradiction
  | stopped => contradiction
  | ended => contradiction
  | left => contradiction

/-! ## The reader and the writer of the server -/

/-- What the server's reader acts on. -/
def reader (server : ServerState) : Reader where
  socketOpen := server.socketOpen
  readPacket := server.readPacket
  readQueue := server.readQueue
  errc := server.errc
  running := server.running
  looping := server.looping
  reads := server.reads.map Issued.read
  accepts := server.accepts
  cancelled := server.cancelled

/-- Where `shutdown` does not raise, the handlers of reads do what the reader's handlers do. -/
theorem run_reader (read : Read) (room : Bool) (ec : ErrorCode) (server : ServerState)
    (lives : server.socketOpen = true → server.shutdownFails = false) :
    (run (handler read room ec) server).reader =
      Server.run (Server.handler read room ec) server.reader := by
  have goes : ¬ (server.socketOpen = true ∧ server.shutdownFails = true) := by
    rintro ⟨opened, lost⟩
    rw [lives opened] at lost
    contradiction
  obtain ⟨kind, offset, size⟩ := read
  cases kind with
  | header =>
    cases ec with
    | success =>
      have accepted := Server.run_onHeader server.reader
      have parsed : server.reader.readPacket.parseHeader = server.readPacket.parseHeader := rfl
      rw [parsed] at accepted
      rw [Server.handler, accepted]
      cases outcome : server.readPacket.parseHeader <;>
        simp [handler, run, onHeader, setErrc, readPayload, parseHeader_apply, outcome, asyncRead,
          readHeader, reader]
    | operationAborted => simp [handler, Server.handler, run, Server.run, onHeader, Server.onHeader,
        setErrc, Tcp.setErrc, reader]
    | eof =>
      simp [handler, Server.handler, run, Server.run, onHeader, Server.onHeader, setErrc,
        Tcp.setErrc, reader, close_apply, goes, closed, openTransport, Server.close,
        Server.openTransport, Function.comp_def]
    | other value =>
      simp [handler, Server.handler, run, Server.run, onHeader, Server.onHeader, setErrc,
        Tcp.setErrc, reader, close_apply, goes, closed, Server.close, Function.comp_def]
  | payload =>
    cases ec with
    | success =>
      have accepted := Server.run_onPayload room server.reader
      have parsed : server.reader.readPacket.parsePayload = server.readPacket.parsePayload := rfl
      rw [parsed] at accepted
      rw [Server.handler, accepted]
      cases outcome : server.readPacket.parsePayload <;> cases room <;>
        simp [handler, run, onPayload, setErrc, parsePayload_apply, outcome, asyncRead, readHeader,
          reader]
    | operationAborted => simp [handler, Server.handler, run, Server.run, onPayload,
        Server.onPayload, setErrc, Tcp.setErrc, reader]
    | eof =>
      simp [handler, Server.handler, run, Server.run, onPayload, Server.onPayload, setErrc,
        Tcp.setErrc, reader, close_apply, goes, closed, openTransport, Server.close,
        Server.openTransport, Function.comp_def]
    | other value =>
      simp [handler, Server.handler, run, Server.run, onPayload, Server.onPayload, setErrc,
        Tcp.setErrc, reader, close_apply, goes, closed, Server.close, Function.comp_def]

/-- Where `shutdown` does not raise, the handler of a failed write does what the writer's does. -/
theorem run_writer (ec : ErrorCode) (server : ServerState)
    (lives : server.socketOpen = true → server.shutdownFails = false) :
    (run (onWriteError ec) server).toWriter =
      Server.runWriter (Server.onWriteError ec) server.toWriter := by
  have goes : ¬ (server.socketOpen = true ∧ server.shutdownFails = true) := by
    rintro ⟨opened, lost⟩
    rw [lives opened] at lost
    contradiction
  cases ec <;>
    simp [run, onWriteError, setErrc, Server.runWriter, Server.onWriteError, setWriterErrc,
      closeSocket, close_apply, goes, closed, openTransport]

end ServerState

end Hdcp.Tcp
