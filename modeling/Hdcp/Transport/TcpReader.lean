import Hdcp.Base.Runs
import Hdcp.Base.Stateful
import Hdcp.Packet.Format

/-!
# The readers of the TCP transports

The client and the server read a packet in two `async_read`s, header then payload, whose
completion handlers run on the io thread inside `io_context_.run()`. The two differ in what an
ill-formed packet does: in the client the exception leaves the handler and the loop of `run()`
starts the next header read, in the server the handlers catch it themselves. The state holds what
both touch: the socket, the packet being read, the read queue, and the outstanding operations.
-/

namespace Hdcp.Tcp

open Base

/-- The error codes an asynchronous operation completes with, as the handlers tell them apart. -/
inductive ErrorCode where
  | success
  | operationAborted
  | eof
  | other (value : Int)
  deriving DecidableEq

/-- The completion handler of an outstanding `async_read`. -/
inductive Handler where
  | header
  | payload
  deriving DecidableEq

/-- An outstanding `async_read` into `read_packet_`. -/
structure Read where
  /-- Its completion handler. -/
  handler : Handler
  /-- First byte of the array it writes. -/
  offset : Nat
  /-- Bytes requested. -/
  size : Nat
  deriving DecidableEq

/-- What the readers of both transports act on. -/
structure Reader where
  /-- `socket_.is_open()`. -/
  socketOpen : Bool
  /-- `read_packet_`. -/
  readPacket : Packet
  /-- The packets put in `read_queue_` so far, oldest first. -/
  readQueue : List Packet
  /-- `errc_`. -/
  errc : ErrorCode
  /-- `is_running()`. -/
  running : Bool
  /-- The io thread is inside the loop of `run()`. -/
  looping : Bool
  /-- Outstanding reads of the socket. -/
  reads : List Read
  /-- Outstanding accepts; the client has none. -/
  accepts : Nat
  /-- Accepts that were cancelled and whose handlers have not run. -/
  cancelled : Nat

/-- Code of the readers: it may throw, and what it did before stays done. -/
abbrev Action := EStateM Exn Reader Unit

/-- `boost::asio::async_read` into the array of `read_packet_`. -/
def asyncRead (handler : Handler) (offset size : Nat) : Action :=
  modify fun reader => { reader with reads := reader.reads ++ [⟨handler, offset, size⟩] }

/-- `errc_ = ec`. -/
def setErrc (ec : ErrorCode) : Action := modify fun reader => { reader with errc := ec }

/-- `read_header()` of either transport: thirteen bytes to the front of the array. -/
def readHeader : Action := asyncRead .header 0 headerSize

/-- The payload read both transports issue: `payload()` as the header in the array has it. -/
def requestPayload : Action := do
  let reader ← get
  asyncRead .payload headerSize reader.readPacket.header.len.toNat

/-- `read_packet_.parse_header()`. -/
def parseHeader : Action := do
  match (← get).readPacket.parseHeader with
  | .ok _ => pure ()
  | .error error => throw (.packet error)

/-- `read_packet_.parse_payload()`. -/
def parsePayload : Action := do
  match (← get).readPacket.parsePayload with
  | .ok _ => pure ()
  | .error error => throw (.packet error)

/-- A successful `read_queue_.try_enqueue(read_packet_)`. -/
def enqueue : Action :=
  modify fun reader => { reader with readQueue := reader.readQueue ++ [reader.readPacket] }

/-- What happens to a reader: completions on the io thread, and the calls of other threads. -/
inductive Event where
  /-- Outstanding read `index` completes with these bytes; `room` tells whether the read queue
  has room for one more packet. -/
  | done (index : Nat) (bytes : Bytes) (room : Bool)
  /-- Outstanding read `index` completes with an error. -/
  | failed (index : Nat) (ec : ErrorCode)
  /-- An outstanding accept completes with a connection. -/
  | accepted
  /-- An outstanding accept completes with an error. -/
  | acceptFailed (ec : ErrorCode)
  /-- The handler of a cancelled accept runs. -/
  | acceptAborted
  /-- `stop()` clears `is_running()`. -/
  | stopped
  /-- `close()` is called from another thread. -/
  | closed

/-- Outstanding read `index` gets exactly the bytes it requested, and its handler runs. -/
def complete (reader : Reader) (index : Nat) (bytes : Bytes)
    (handle : Read → Reader → Reader) : Option Reader :=
  match reader.reads[index]? with
  | none => none
  | some read =>
    if reader.looping ∧ bytes.length = read.size then
      some <| handle read
        { reader with
          reads := reader.reads.eraseIdx index
          readPacket := reader.readPacket.store read.offset bytes }
    else none

/-- Outstanding read `index` ends with an error, and its handler runs; a read is aborted only
once the socket is closed. -/
def fail (reader : Reader) (index : Nat) (ec : ErrorCode)
    (handle : Read → Reader → Reader) : Option Reader :=
  match reader.reads[index]? with
  | none => none
  | some read =>
    if reader.looping ∧ ec ≠ .success ∧ (ec = .operationAborted → reader.socketOpen = false) then
      some <| handle read { reader with reads := reader.reads.eraseIdx index }
    else none

namespace Client

/-- `Client::close`. -/
def close : Action := do
  if !(← get).socketOpen then return
  modify fun reader => { reader with socketOpen := false }

/-- `Client::read_payload`: a header that is refused leaves it by exception. -/
def readPayload : Action := do
  parseHeader
  requestPayload

/-- The handler of `Client::read_header`. -/
def onHeader (ec : ErrorCode) : Action := do
  setErrc ec
  match ec with
  | .success => readPayload
  | .operationAborted => pure ()
  | .eof =>
    close
    setErrc ec
  | .other value => throw (.asio value)

/-- The handler of `Client::read_payload`: a full queue drops the packet. -/
def onPayload (room : Bool) (ec : ErrorCode) : Action := do
  setErrc ec
  match ec with
  | .success =>
    parsePayload
    if room then enqueue
    readHeader
  | .operationAborted => pure ()
  | .eof => close
  | .other value => throw (.asio value)

/-- The handler of an outstanding read. -/
def handler (read : Read) (room : Bool) (ec : ErrorCode) : Action :=
  match read.handler with
  | .header => onHeader ec
  | .payload => onPayload room ec

/-- `Client::run` around one handler: an ill-formed packet is dropped and the next header read
starts, any other exception closes the transport and ends the loop. -/
def run (action : Action) (reader : Reader) : Reader :=
  match action reader with
  | .ok _ after => after
  | .error (.packet _) after =>
    match readHeader after with
    | .ok _ restarted | .error _ restarted => { restarted with looping := restarted.running }
  | .error _ after =>
    match close after with
    | .ok _ ended | .error _ ended => { ended with looping := false }

/-- One event of the client; it has no acceptor. -/
def step (reader : Reader) : Event → Option Reader
  | .done index bytes room =>
    complete reader index bytes fun read => run (handler read room .success)
  | .failed index ec => fail reader index ec fun read => run (handler read true ec)
  | .stopped => some { reader with running := false }
  | .closed => some { reader with socketOpen := false }
  | .accepted | .acceptFailed _ | .acceptAborted => none

/-- The client after `start()`: connected, with the header read that `run()` begins with. -/
def started (packet : Packet) : Reader where
  socketOpen := true
  readPacket := packet
  readQueue := []
  errc := .success
  running := true
  looping := true
  reads := [⟨.header, 0, headerSize⟩]
  accepts := 0
  cancelled := 0

end Client

namespace Server

/-- `Server::close`: the acceptor's outstanding accepts are cancelled. -/
def close : Action :=
  modify fun reader =>
    { reader with
      socketOpen := false
      accepts := 0
      cancelled := reader.cancelled + reader.accepts }

/-- `Server::open`. -/
def openTransport : Action := do
  if (← get).socketOpen then return
  modify fun reader => { reader with accepts := reader.accepts + 1 }

/-- `Server::read_payload`: a refused header starts the next header read, and the function goes on
to the payload read all the same. -/
def readPayload : Action := do
  try parseHeader
  catch
    | .packet _ => readHeader
    | other => throw other
  requestPayload

/-- The handler of `Server::read_header`. -/
def onHeader (ec : ErrorCode) : Action := do
  setErrc ec
  match ec with
  | .success => readPayload
  | .operationAborted => pure ()
  | .eof =>
    close
    openTransport
  | .other value => throw (.asio value)

/-- The handler of `Server::read_payload`: a bad payload and a full queue are both only logged. -/
def onPayload (room : Bool) (ec : ErrorCode) : Action := do
  setErrc ec
  match ec with
  | .success =>
    try
      parsePayload
      if room then enqueue else throw (.transport (.transport .readQueueFull))
    catch _ => pure ()
    readHeader
  | .operationAborted => pure ()
  | .eof =>
    close
    setErrc ec
    openTransport
  | .other value => throw (.asio value)

/-- The handler of an outstanding read. -/
def handler (read : Read) (room : Bool) (ec : ErrorCode) : Action :=
  match read.handler with
  | .header => onHeader ec
  | .payload => onPayload room ec

/-- The handler of an outstanding accept. -/
def onAccept (ec : ErrorCode) : Action := do
  setErrc ec
  if ec = .success then readHeader

/-- `Server::run` around one handler: packet and transport errors are logged and the loop goes
on, any other exception closes the transport and ends the loop. -/
def run (action : Action) (reader : Reader) : Reader :=
  match action reader with
  | .ok _ after => after
  | .error (.packet _) after => { after with looping := after.running }
  | .error (.transport _) after => { after with looping := after.running }
  | .error _ after =>
    match close after with
    | .ok _ ended | .error _ ended => { ended with looping := false }

/-- One event of the server. -/
def step (reader : Reader) : Event → Option Reader
  | .done index bytes room =>
    complete reader index bytes fun read => run (handler read room .success)
  | .failed index ec => fail reader index ec fun read => run (handler read true ec)
  | .accepted =>
    if reader.looping ∧ 0 < reader.accepts then
      some <| run (onAccept .success)
        { reader with socketOpen := true, accepts := reader.accepts - 1 }
    else none
  | .acceptFailed ec =>
    if reader.looping ∧ 0 < reader.accepts ∧ ec ≠ .success then
      some <| run (onAccept ec) { reader with accepts := reader.accepts - 1 }
    else none
  | .acceptAborted =>
    if reader.looping ∧ 0 < reader.cancelled then
      some <| run (onAccept .operationAborted) { reader with cancelled := reader.cancelled - 1 }
    else none
  | .stopped => some { reader with running := false }
  | .closed =>
    match close reader with
    | .ok _ after | .error _ after => some after

/-- The server after `start()`: waiting for its first connection. -/
def started (packet : Packet) : Reader where
  socketOpen := false
  readPacket := packet
  readQueue := []
  errc := .success
  running := true
  looping := true
  reads := []
  accepts := 1
  cancelled := 0

/-- The server reading from a connection it has just accepted. -/
def connected (packet : Packet) : Reader :=
  { started packet with socketOpen := true, accepts := 0, reads := [⟨.header, 0, headerSize⟩] }

end Server

/-! ## What a completion does

Which read a completion is of, and one equation for each handler, run inside the loop of
`run()`. -/

/-- A completion is of an outstanding read that requested as many bytes. -/
theorem complete_eq_some_iff (reader next : Reader) (index : Nat) (bytes : Bytes)
    (handle : Read → Reader → Reader) :
    complete reader index bytes handle = some next ↔
      ∃ read, reader.reads[index]? = some read ∧ reader.looping = true ∧
        bytes.length = read.size ∧ next = handle read
          { reader with
            reads := reader.reads.eraseIdx index
            readPacket := reader.readPacket.store read.offset bytes } := by
  rw [complete]
  cases reader.reads[index]? with
  | none => simp
  | some read =>
    simp only [Option.ite_none_right_eq_some, Option.some.injEq]
    constructor
    · rintro ⟨⟨looping, size⟩, rfl⟩
      exact ⟨read, rfl, looping, size, rfl⟩
    · rintro ⟨found, rfl, looping, size, rfl⟩
      exact ⟨⟨looping, size⟩, rfl⟩

/-- An error is of an outstanding read. -/
theorem fail_eq_some_iff (reader next : Reader) (index : Nat) (ec : ErrorCode)
    (handle : Read → Reader → Reader) :
    fail reader index ec handle = some next ↔
      ∃ read, reader.reads[index]? = some read ∧ reader.looping = true ∧ ec ≠ .success ∧
        (ec = .operationAborted → reader.socketOpen = false) ∧
          next = handle read { reader with reads := reader.reads.eraseIdx index } := by
  rw [fail]
  cases reader.reads[index]? with
  | none => simp
  | some read =>
    simp only [Option.ite_none_right_eq_some, Option.some.injEq]
    constructor
    · rintro ⟨⟨looping, failed, aborted⟩, rfl⟩
      exact ⟨read, rfl, looping, failed, aborted, rfl⟩
    · rintro ⟨found, rfl, looping, failed, aborted, rfl⟩
      exact ⟨⟨looping, failed, aborted⟩, rfl⟩

/-- Parsing the header in the array throws what the parser refuses and changes nothing. -/
theorem parseHeader_apply (reader : Reader) :
    parseHeader reader =
      match reader.readPacket.parseHeader with
      | .ok _ => .ok () reader
      | .error error => .error (.packet error) reader := by
  simp only [parseHeader, bind_apply, get_apply]
  cases reader.readPacket.parseHeader <;> rfl

/-- Parsing the payload in the array throws what the parser refuses and changes nothing. -/
theorem parsePayload_apply (reader : Reader) :
    parsePayload reader =
      match reader.readPacket.parsePayload with
      | .ok _ => .ok () reader
      | .error error => .error (.packet error) reader := by
  simp only [parsePayload, bind_apply, get_apply]
  cases reader.readPacket.parsePayload <;> rfl

namespace Client

/-- A header that was read: its payload is requested, or the next header is. -/
theorem run_onHeader (reader : Reader) :
    run (onHeader .success) reader =
      match reader.readPacket.parseHeader with
      | .ok _ =>
        { reader with
          errc := .success
          reads := reader.reads ++
            [⟨.payload, headerSize, reader.readPacket.header.len.toNat⟩] }
      | .error _ =>
        { reader with
          errc := .success
          reads := reader.reads ++ [⟨.header, 0, headerSize⟩]
          looping := reader.running } := by
  cases outcome : reader.readPacket.parseHeader <;>
    simp [run, onHeader, setErrc, readPayload, parseHeader_apply, outcome, requestPayload,
      asyncRead, readHeader]

/-- A payload that was read: the next header is requested, whether the packet is kept or not. -/
theorem run_onPayload (room : Bool) (reader : Reader) :
    run (onPayload room .success) reader =
      match reader.readPacket.parsePayload with
      | .ok _ =>
        { reader with
          errc := .success
          readQueue := if room then reader.readQueue ++ [reader.readPacket] else reader.readQueue
          reads := reader.reads ++ [⟨.header, 0, headerSize⟩] }
      | .error _ =>
        { reader with
          errc := .success
          reads := reader.reads ++ [⟨.header, 0, headerSize⟩]
          looping := reader.running } := by
  cases outcome : reader.readPacket.parsePayload with
  | ok _ =>
    cases room <;>
      simp [run, onPayload, setErrc, parsePayload_apply, outcome, enqueue, asyncRead, readHeader]
  | error _ => simp [run, onPayload, setErrc, parsePayload_apply, outcome, asyncRead, readHeader]

/-- A read that failed requests nothing and leaves the packet and the queue. -/
theorem run_failed (read : Read) (ec : ErrorCode) (failed : ec ≠ .success) (reader : Reader) :
    let result := run (handler read true ec) reader
    result.reads = reader.reads ∧ result.readPacket = reader.readPacket ∧
      result.readQueue = reader.readQueue ∧ result.accepts = reader.accepts := by
  obtain ⟨kind, offset, size⟩ := read
  cases ec with
  | success => exact absurd rfl failed
  | operationAborted => cases kind <;> simp [handler, run, onHeader, onPayload, setErrc]
  | eof | other =>
    cases kind <;> by_cases opened : reader.socketOpen = true <;>
      simp [handler, run, onHeader, onPayload, setErrc, close, opened]

end Client

namespace Server

/-- A header that was read: its payload is requested, after the next header if it was refused. -/
theorem run_onHeader (reader : Reader) :
    run (onHeader .success) reader =
      { reader with
        errc := .success
        reads := reader.reads ++
          (match reader.readPacket.parseHeader with
          | .ok _ => []
          | .error _ => [⟨.header, 0, headerSize⟩]) ++
          [⟨.payload, headerSize, reader.readPacket.header.len.toNat⟩] } := by
  cases outcome : reader.readPacket.parseHeader <;>
    simp [run, onHeader, setErrc, readPayload, parseHeader_apply, outcome, requestPayload,
      asyncRead, readHeader]

/-- A payload that was read: the next header is requested, whether the packet is kept or not. -/
theorem run_onPayload (room : Bool) (reader : Reader) :
    run (onPayload room .success) reader =
      { reader with
        errc := .success
        readQueue :=
          match reader.readPacket.parsePayload with
          | .ok _ => if room then reader.readQueue ++ [reader.readPacket] else reader.readQueue
          | .error _ => reader.readQueue
        reads := reader.reads ++ [⟨.header, 0, headerSize⟩] } := by
  cases outcome : reader.readPacket.parsePayload with
  | ok _ =>
    cases room <;>
      simp [run, onPayload, setErrc, parsePayload_apply, outcome, enqueue, asyncRead, readHeader]
  | error _ => simp [run, onPayload, setErrc, parsePayload_apply, outcome, asyncRead, readHeader]

/-- A read that failed requests nothing and leaves the packet and the queue; only the end of the
file makes the server wait for another connection. -/
theorem run_failed (read : Read) (ec : ErrorCode) (failed : ec ≠ .success) (reader : Reader) :
    let result := run (handler read true ec) reader
    result.reads = reader.reads ∧ result.readPacket = reader.readPacket ∧
      result.readQueue = reader.readQueue ∧
        result.accepts = (match ec with
          | .eof => 1
          | .other _ => 0
          | _ => reader.accepts) := by
  obtain ⟨kind, offset, size⟩ := read
  cases ec with
  | success => exact absurd rfl failed
  | operationAborted => cases kind <;> simp [handler, run, onHeader, onPayload, setErrc]
  | eof | other =>
    cases kind <;> by_cases opened : reader.socketOpen = true <;>
      simp [handler, run, onHeader, onPayload, setErrc, close, opened, openTransport]

end Server

end Hdcp.Tcp
