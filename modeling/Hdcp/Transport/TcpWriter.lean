import Hdcp.Base.Ledger
import Hdcp.Transport.TcpReader

/-!
# The writers of the TCP transports

`write()` posts a handler to the io thread, which enqueues the packet and calls `do_write` unless
a write is in progress; the completion handler of each `async_write` calls it again while packets
are queued. Handlers run one at a time, posted ones in the order posted; between any two of their
queue operations another thread may take packets from the queue in `clear_queues()`. Client and
server differ in what an error does and in the exception of a full queue, which ends the client's
loop and which the server logs.
-/

namespace Hdcp.Tcp

open Base

/-- Where the io thread is. -/
inductive Position where
  /-- Between two handlers. -/
  | between
  /-- In a handler posted by `write()`, before `try_enqueue`. -/
  | enqueue (item : Base.Numbered Packet)
  /-- In that handler, before the test of `write_in_progress_`. -/
  | flagTest
  /-- In the completion handler of a write, before `size_approx()`. -/
  | sizeTest
  /-- In `do_write`, before `try_dequeue`. -/
  | dequeue
  /-- In `do_write`, the packet in `write_packet_`, before `async_write`. -/
  | asyncWrite (item : Base.Numbered Packet)
  deriving DecidableEq

/-- What the writers of both transports act on. -/
structure Writer where
  /-- `socket_.is_open()`. -/
  socketOpen : Bool
  /-- `write_in_progress_`. -/
  writeInProgress : Bool
  /-- `write_packet_`. -/
  writePacket : Packet
  /-- `write_queue_`, oldest packet first. -/
  writeQueue : List (Base.Numbered Packet)
  /-- The handlers posted by `write()` and not yet run, oldest first. -/
  postedHandlers : List (Base.Numbered Packet)
  /-- Outstanding `async_write`s. -/
  outstanding : Nat
  /-- `errc_`. -/
  errc : ErrorCode
  /-- `is_running()`. -/
  running : Bool
  /-- The io thread is inside the loop of `run()`. -/
  looping : Bool
  /-- Where the io thread is in a handler. -/
  position : Position
  /-- Bookkeeping: the packets posted, handed to `async_write`, refused and removed. -/
  ledger : Ledger Packet

/-- Code of the writers: it may throw, and what it did before stays done. -/
abbrev WriterAction := EStateM Exn Writer Unit

/-- `errc_ = ec`. -/
def setWriterErrc (ec : ErrorCode) : WriterAction := modify fun writer => { writer with errc := ec }

/-- `socket_.close()`. -/
def closeSocket : WriterAction := modify fun writer => { writer with socketOpen := false }

/-- `boost::asio::post` of the handler of `write()`. -/
def Writer.post (writer : Writer) (packet : Packet) : Writer :=
  { writer with
    postedHandlers := writer.postedHandlers ++ [writer.ledger.next packet]
    ledger := writer.ledger.post packet }

/-- `Client::write` and `Server::write`, in the thread of the caller. -/
def write (packet : Packet) : WriterAction := do
  if !(← get).socketOpen then throw (.transport (.transport .writeWhileClosed))
  modify fun writer => writer.post packet

/-- `do_write()`, undisturbed; both transports have the same. -/
def doWrite : WriterAction := do
  match (← get).writeQueue with
  | [] => pure ()
  | item :: rest =>
    modify fun writer => { writer with writePacket := item.value, writeQueue := rest }
    modify fun writer =>
      { writer with
        writeInProgress := true
        outstanding := writer.outstanding + 1
        ledger := writer.ledger.send item }

/-- The handler posted by `write()`, undisturbed; `room` tells whether the queue has room. -/
def postedHandler (item : Base.Numbered Packet) (room : Bool) : WriterAction := do
  if room then
    modify fun writer => { writer with writeQueue := writer.writeQueue ++ [item] }
    if !(← get).writeInProgress then doWrite
  else
    modify fun writer => { writer with ledger := writer.ledger.refuse item }
    throw (.transport (.transport .writeQueueFull))

/-- The completion handler of `do_write` after a write without error, undisturbed. -/
def onWritten : WriterAction := do
  setWriterErrc .success
  if 0 < (← get).writeQueue.length then doWrite
  else modify fun writer => { writer with writeInProgress := false }

/-- `while (write_queue_.try_dequeue(p)) {}` of `clear_queues()`, undisturbed. -/
def Writer.clearQueue (writer : Writer) : Writer :=
  { writer with
    writeQueue := []
    ledger := writer.writeQueue.foldl Ledger.remove writer.ledger }

/-- The two transports. -/
inductive Endpoint where
  | client
  | server
  deriving DecidableEq

namespace Client

/-- The error branches of the completion handler of `Client::do_write`. -/
def onWriteError (ec : ErrorCode) : WriterAction := do
  setWriterErrc ec
  match ec with
  | .success | .operationAborted => pure ()
  | .eof => closeSocket
  | .other value => throw (.asio value)

/-- `Client::run` around a handler of the writer: any exception but a packet's closes the transport
and ends the loop. -/
def runWriter (action : WriterAction) (writer : Writer) : Writer :=
  match action writer with
  | .ok _ after => after
  | .error (.packet _) after => { after with looping := after.running }
  | .error _ after => { after with socketOpen := false, looping := false }

end Client

namespace Server

/-- The error branches of the completion handler of `Server::do_write`; after the end of the file
`open()` waits for another connection. -/
def onWriteError (ec : ErrorCode) : WriterAction := do
  setWriterErrc ec
  match ec with
  | .success => pure ()
  | .operationAborted => modify fun writer => { writer with writeInProgress := false }
  | .eof =>
    closeSocket
    setWriterErrc ec
    modify fun writer => { writer with writeInProgress := false }
  | .other value => throw (.asio value)

/-- `Server::run` around a handler of the writer: packet and transport errors are logged, any other
exception closes the transport and ends the loop. -/
def runWriter (action : WriterAction) (writer : Writer) : Writer :=
  match action writer with
  | .ok _ after => after
  | .error (.packet _) after => { after with looping := after.running }
  | .error (.transport _) after => { after with looping := after.running }
  | .error _ after => { after with socketOpen := false, looping := false }

end Server

/-- The error branches of the completion handler. -/
def Endpoint.onWriteError : Endpoint → ErrorCode → WriterAction
  | client => Client.onWriteError
  | server => Server.onWriteError

/-- `run()` around a handler of the writer. -/
def Endpoint.runWriter : Endpoint → WriterAction → Writer → Writer
  | client => Client.runWriter
  | server => Server.runWriter

/-- What happens to a writer. -/
inductive WriterEvent where
  /-- `write()` posts a packet; the socket may have been closed since its `is_open()` test. -/
  | posted (packet : Packet)
  /-- The io thread begins the oldest posted handler. -/
  | begun
  /-- An `async_write` completes without error and its handler begins. -/
  | completed
  /-- An `async_write` completes with an error; its handler runs. -/
  | failed (ec : ErrorCode)
  /-- The io thread executes the next statement of the handler; `room` tells whether the write
  queue has room. -/
  | proceed (room : Bool)
  /-- `clear_queues()` takes one packet from the write queue, in another thread. -/
  | cleared
  /-- The socket is closed elsewhere. -/
  | closed
  /-- The socket is open again. -/
  | reopened
  /-- `stop()` clears `is_running()`. -/
  | stopped
  /-- The exception of another handler ends the loop of `run()`. -/
  | ended
  /-- The loop ends with nothing left to do, or with a discarded packet after `stop()`. -/
  | left

/-- The next statement of the handler the io thread is in. -/
def Writer.statement (endpoint : Endpoint) (room : Bool) (writer : Writer) : Option Writer :=
  match writer.position with
  | .between => none
  | .enqueue item =>
    if room then
      some { writer with writeQueue := writer.writeQueue ++ [item], position := .flagTest }
    else
      some <| endpoint.runWriter (throw (.transport (.transport .writeQueueFull)))
        { writer with ledger := writer.ledger.refuse item, position := .between }
  | .flagTest =>
    some { writer with position := if writer.writeInProgress then .between else .dequeue }
  | .sizeTest =>
    if 0 < writer.writeQueue.length then some { writer with position := .dequeue }
    else some { writer with writeInProgress := false, position := .between }
  | .dequeue =>
    match writer.writeQueue with
    | [] => some { writer with position := .between }
    | item :: rest =>
      some { writer with
        writePacket := item.value
        writeQueue := rest
        position := .asyncWrite item }
  | .asyncWrite item =>
    some { writer with
      writeInProgress := true
      outstanding := writer.outstanding + 1
      ledger := writer.ledger.send item
      position := .between }

/-- One event. -/
def Writer.step (endpoint : Endpoint) (writer : Writer) : WriterEvent → Option Writer
  | .posted packet => some (writer.post packet)
  | .begun =>
    match writer.postedHandlers with
    | [] => none
    | item :: rest =>
      if writer.looping ∧ writer.position = .between then
        some { writer with postedHandlers := rest, position := .enqueue item }
      else none
  | .completed =>
    if writer.looping ∧ writer.position = .between ∧ 0 < writer.outstanding then
      some { writer with
        outstanding := writer.outstanding - 1
        errc := .success
        position := .sizeTest }
    else none
  | .failed ec =>
    if writer.looping ∧ writer.position = .between ∧ 0 < writer.outstanding ∧ ec ≠ .success then
      some (endpoint.runWriter (endpoint.onWriteError ec)
        { writer with outstanding := writer.outstanding - 1 })
    else none
  | .proceed room => writer.statement endpoint room
  | .cleared =>
    match writer.writeQueue with
    | [] => some writer
    | item :: rest =>
      some { writer with writeQueue := rest, ledger := writer.ledger.remove item }
  | .closed => some { writer with socketOpen := false }
  | .reopened => some { writer with socketOpen := true }
  | .stopped => some { writer with running := false }
  | .ended =>
    if writer.position = .between then
      some { writer with socketOpen := false, looping := false }
    else none
  | .left =>
    if writer.position = .between ∧
        (writer.running = false ∨ writer.postedHandlers = [] ∧ writer.outstanding = 0) then
      some { writer with looping := false }
    else none

/-- The packets passed to `write()`, oldest first. -/
def postedPackets : List WriterEvent → List Packet
  | [] => []
  | .posted packet :: events => packet :: postedPackets events
  | _ :: events => postedPackets events

/-- A writer after `start()`, on an open socket with an empty write queue. -/
def Writer.started (packet : Packet) : Writer where
  socketOpen := true
  writeInProgress := false
  writePacket := packet
  writeQueue := []
  postedHandlers := []
  outstanding := 0
  errc := .success
  running := true
  looping := true
  position := .between
  ledger := .empty

/-- A call of `write()` posts its packet, or raises and changes nothing. -/
theorem write_posts (endpoint : Endpoint) (packet : Packet) (writer : Writer) :
    (∃ next, write packet writer = .ok () next ∧
      writer.step endpoint (.posted packet) = some next) ∨
    write packet writer = .error (.transport (.transport .writeWhileClosed)) writer := by
  unfold write
  rw [bind_apply, get_apply]
  dsimp only
  cases writer.socketOpen with
  | true => exact .inl ⟨_, rfl, rfl⟩
  | false => exact .inr rfl

/-- A full queue refuses a packet: neither transport's loop touches the writer otherwise. -/
theorem runWriter_refused (endpoint : Endpoint) (writer : Writer) :
    ∃ socketOpen looping,
      endpoint.runWriter (throw (.transport (.transport .writeQueueFull))) writer =
        { writer with socketOpen := socketOpen, looping := looping } := by
  cases endpoint with
  | client => exact ⟨false, false, rfl⟩
  | server => exact ⟨writer.socketOpen, writer.running, rfl⟩

/-- Nor does a write error touch the packets. -/
theorem runWriter_failed (endpoint : Endpoint) (ec : ErrorCode) (writer : Writer) :
    ∃ socketOpen writeInProgress errc looping,
      endpoint.runWriter (endpoint.onWriteError ec) writer =
        { writer with
          socketOpen := socketOpen
          writeInProgress := writeInProgress
          errc := errc
          looping := looping } := by
  cases endpoint <;> cases ec <;> exact ⟨_, _, _, _, rfl⟩

/-! ## Undisturbed, the statements are the functions -/

/-- The writer with the io thread elsewhere. -/
def Writer.moveTo (writer : Writer) (position : Position) : Writer :=
  { writer with position := position }

/-- `run()` around a handler that returns does nothing. -/
theorem runWriter_ok {endpoint : Endpoint} {action : WriterAction} {writer next : Writer}
    (returned : action writer = .ok () next) : endpoint.runWriter action writer = next := by
  cases endpoint with
  | client =>
    show Client.runWriter action writer = next
    rw [Client.runWriter, returned]
  | server =>
    show Server.runWriter action writer = next
    rw [Server.runWriter, returned]

/-- The statements of `do_write`, which returns. -/
theorem statements_doWrite (endpoint : Endpoint) (room : Bool) (writer : Writer) :
    ∃ count next, doWrite writer = .ok () next ∧
      Run (Steps (Writer.step endpoint)) (writer.moveTo .dequeue)
        (List.replicate count (.proceed room)) (next.moveTo .between) := by
  unfold doWrite
  rw [bind_apply, get_apply]
  dsimp only
  cases queue : writer.writeQueue with
  | nil =>
    have nothing : (writer.moveTo .dequeue).step endpoint (.proceed room) =
        some (writer.moveTo .between) := by
      unfold Writer.step Writer.statement Writer.moveTo
      dsimp only
      rw [queue]
    exact ⟨1, writer, rfl, .cons nothing (.nil _)⟩
  | cons item rest =>
    have dequeued : (writer.moveTo .dequeue).step endpoint (.proceed room) =
        some (Writer.moveTo { writer with writePacket := item.value, writeQueue := rest }
          (.asyncWrite item)) := by
      unfold Writer.step Writer.statement Writer.moveTo
      dsimp only
      rw [queue]
    exact ⟨2, _, rfl, .cons dequeued (.cons rfl (.nil _))⟩

/-- The statements of a posted handler. -/
theorem statements_posted (endpoint : Endpoint) (item : Base.Numbered Packet) (room : Bool)
    (writer : Writer) :
    ∃ count, Run (Steps (Writer.step endpoint)) (writer.moveTo (.enqueue item))
      (List.replicate count (.proceed room))
      ((endpoint.runWriter (postedHandler item room) writer).moveTo .between) := by
  cases room with
  | false => cases endpoint <;> exact ⟨1, .cons rfl (.nil _)⟩
  | true =>
    let queued : Writer := { writer with writeQueue := writer.writeQueue ++ [item] }
    have first : (writer.moveTo (.enqueue item)).step endpoint (.proceed true) =
        some (queued.moveTo .flagTest) := rfl
    have second : (queued.moveTo .flagTest).step endpoint (.proceed true) =
        some (queued.moveTo (if writer.writeInProgress then .between else .dequeue)) := rfl
    have handler : postedHandler item true writer =
        (if !writer.writeInProgress then doWrite else pure () : WriterAction) queued := rfl
    cases busy : writer.writeInProgress with
    | true =>
      rw [busy] at second handler
      rw [runWriter_ok handler]
      exact ⟨2, .cons first (.cons second (.nil _))⟩
    | false =>
      obtain ⟨count, next, returned, rest⟩ := statements_doWrite endpoint true queued
      rw [busy] at second handler
      rw [runWriter_ok (handler.trans returned)]
      exact ⟨count + 2, .cons first (.cons second rest)⟩

/-- The statements of a completion handler, begun by the completion. -/
theorem statements_written (endpoint : Endpoint) (room : Bool) (writer : Writer) :
    ∃ count, Run (Steps (Writer.step endpoint))
      (Writer.moveTo { writer with errc := .success } .sizeTest)
      (List.replicate count (.proceed room))
      ((endpoint.runWriter onWritten writer).moveTo .between) := by
  let landed : Writer := { writer with errc := .success }
  have handler : onWritten writer =
      (if 0 < writer.writeQueue.length then doWrite
      else modify fun writer => { writer with writeInProgress := false } : WriterAction) landed :=
    rfl
  by_cases queued : 0 < writer.writeQueue.length
  · have tested : (landed.moveTo .sizeTest).step endpoint (.proceed room) =
        some (landed.moveTo .dequeue) := if_pos queued
    obtain ⟨count, next, returned, rest⟩ := statements_doWrite endpoint room landed
    rw [if_pos queued] at handler
    rw [runWriter_ok (handler.trans returned)]
    exact ⟨count + 1, .cons tested rest⟩
  · have tested : (landed.moveTo .sizeTest).step endpoint (.proceed room) =
        some (Writer.moveTo { landed with writeInProgress := false } .between) := if_neg queued
    rw [if_neg queued] at handler
    rw [runWriter_ok handler]
    exact ⟨1, .cons tested (.nil _)⟩

/-- The loop of `clear_queues()` over the write queue. -/
theorem statements_clearQueue (endpoint : Endpoint) (writer : Writer) :
    Run (Steps (Writer.step endpoint)) writer
      (List.replicate writer.writeQueue.length .cleared) writer.clearQueue := by
  -- by induction on the packets still queued
  cases writer with
  | mk socketOpen flag packet queue handlers outstanding errc running looping position ledger =>
    induction queue generalizing ledger with
    | nil => exact .nil _
    | cons item rest ih => exact .cons rfl (ih (ledger.remove item))

/-! ## What an event can do -/

/-- The changes the events make. -/
inductive WriterChange (writer : Writer) : WriterEvent → Writer → Prop where
  /-- A packet is posted. -/
  | posted (packet : Packet) :
      WriterChange writer (.posted packet) (writer.post packet)
  /-- A posted handler begins. -/
  | begun {item : Base.Numbered Packet} {rest : List (Base.Numbered Packet)}
      (position : writer.position = .between) (handlers : writer.postedHandlers = item :: rest) :
      WriterChange writer .begun
        { writer with postedHandlers := rest, position := .enqueue item }
  /-- A write completes. -/
  | completed (position : writer.position = .between) (flying : 0 < writer.outstanding) :
      WriterChange writer .completed
        { writer with
          outstanding := writer.outstanding - 1
          errc := .success
          position := .sizeTest }
  /-- A write fails. -/
  | failed (ec : ErrorCode) {socketOpen writeInProgress looping : Bool} {errc : ErrorCode}
      (flying : 0 < writer.outstanding) :
      WriterChange writer (.failed ec)
        { writer with
          outstanding := writer.outstanding - 1
          socketOpen := socketOpen
          writeInProgress := writeInProgress
          errc := errc
          looping := looping }
  /-- The queue takes the packet of a posted handler. -/
  | enqueued {item : Base.Numbered Packet} (position : writer.position = .enqueue item) :
      WriterChange writer (.proceed true)
        { writer with writeQueue := writer.writeQueue ++ [item], position := .flagTest }
  /-- The queue refuses it. -/
  | refused {item : Base.Numbered Packet} {socketOpen looping : Bool}
      (position : writer.position = .enqueue item) :
      WriterChange writer (.proceed false)
        { writer with
          socketOpen := socketOpen
          looping := looping
          ledger := writer.ledger.refuse item
          position := .between }
  /-- A write is in progress. -/
  | busy (room : Bool) (position : writer.position = .flagTest)
      (flag : writer.writeInProgress = true) :
      WriterChange writer (.proceed room) { writer with position := .between }
  /-- None is in progress. -/
  | idle (room : Bool) (position : writer.position = .flagTest)
      (flag : writer.writeInProgress = false) :
      WriterChange writer (.proceed room) { writer with position := .dequeue }
  /-- The completion handler finds packets queued. -/
  | more (room : Bool) (position : writer.position = .sizeTest) (queue : writer.writeQueue ≠ []) :
      WriterChange writer (.proceed room) { writer with position := .dequeue }
  /-- It finds none. -/
  | drained (room : Bool) (position : writer.position = .sizeTest)
      (queue : writer.writeQueue = []) :
      WriterChange writer (.proceed room)
        { writer with writeInProgress := false, position := .between }
  /-- `do_write` finds nothing to dequeue. -/
  | nothing (room : Bool) (position : writer.position = .dequeue) (queue : writer.writeQueue = []) :
      WriterChange writer (.proceed room) { writer with position := .between }
  /-- `do_write` dequeues a packet. -/
  | dequeued (room : Bool) {item : Base.Numbered Packet} {rest : List (Base.Numbered Packet)}
      (position : writer.position = .dequeue) (queue : writer.writeQueue = item :: rest) :
      WriterChange writer (.proceed room)
        { writer with
          writePacket := item.value
          writeQueue := rest
          position := .asyncWrite item }
  /-- `do_write` hands it to `async_write`. -/
  | handed (room : Bool) {item : Base.Numbered Packet}
      (position : writer.position = .asyncWrite item) :
      WriterChange writer (.proceed room)
        { writer with
          writeInProgress := true
          outstanding := writer.outstanding + 1
          ledger := writer.ledger.send item
          position := .between }
  /-- `clear_queues()` takes a packet. -/
  | cleared {item : Base.Numbered Packet} {rest : List (Base.Numbered Packet)}
      (queue : writer.writeQueue = item :: rest) :
      WriterChange writer .cleared
        { writer with writeQueue := rest, ledger := writer.ledger.remove item }
  /-- It finds none to take. -/
  | clean (queue : writer.writeQueue = []) : WriterChange writer .cleared writer
  /-- The socket or the loop change. -/
  | outside {event : WriterEvent} {socketOpen running looping : Bool}
      (unposted : postedPackets [event] = []) :
      WriterChange writer event
        { writer with socketOpen := socketOpen, running := running, looping := looping }

/-- A statement does one of these. -/
theorem statement_change {endpoint : Endpoint} {room : Bool} {writer next : Writer}
    (executed : writer.statement endpoint room = some next) :
    WriterChange writer (.proceed room) next := by
  unfold Writer.statement at executed
  cases position : writer.position with
  | between =>
    rw [position] at executed
    contradiction
  | enqueue item =>
    rw [position] at executed
    dsimp only at executed
    cases room with
    | true =>
      cases executed
      exact .enqueued position
    | false =>
      obtain ⟨socketOpen, looping, same⟩ := runWriter_refused endpoint
        { writer with ledger := writer.ledger.refuse item, position := .between }
      rw [if_neg (by decide), same] at executed
      cases executed
      exact .refused position
  | flagTest =>
    rw [position] at executed
    by_cases flag : writer.writeInProgress = true
    · rw [if_pos flag] at executed
      cases executed
      exact .busy room position flag
    · rw [if_neg flag] at executed
      cases executed
      exact .idle room position (eq_false_of_ne_true flag)
  | sizeTest =>
    rw [position] at executed
    dsimp only at executed
    by_cases queued : 0 < writer.writeQueue.length
    · rw [if_pos queued] at executed
      cases executed
      exact .more room position (List.ne_nil_of_length_pos queued)
    · rw [if_neg queued] at executed
      cases executed
      exact .drained room position (List.eq_nil_of_length_eq_zero (Nat.eq_zero_of_not_pos queued))
  | dequeue =>
    rw [position] at executed
    dsimp only at executed
    split at executed
    · cases executed
      exact .nothing room position ‹_›
    · cases executed
      exact .dequeued room position ‹_›
  | asyncWrite item =>
    rw [position] at executed
    cases executed
    exact .handed room position

/-- So does every event. -/
theorem step_change {endpoint : Endpoint} {event : WriterEvent} {writer next : Writer}
    (taken : writer.step endpoint event = some next) : WriterChange writer event next := by
  cases event with
  | posted packet =>
    cases taken
    exact .posted packet
  | begun =>
    unfold Writer.step at taken
    dsimp only at taken
    split at taken
    · contradiction
    · obtain ⟨⟨-, position⟩, same⟩ := Option.ite_none_right_eq_some.mp taken
      cases same
      exact .begun position ‹_›
  | completed =>
    obtain ⟨⟨-, position, flying⟩, same⟩ := Option.ite_none_right_eq_some.mp taken
    cases same
    exact .completed position flying
  | failed ec =>
    obtain ⟨⟨-, -, flying, -⟩, same⟩ := Option.ite_none_right_eq_some.mp taken
    obtain ⟨socketOpen, writeInProgress, errc, looping, effect⟩ := runWriter_failed endpoint ec
      { writer with outstanding := writer.outstanding - 1 }
    rw [effect] at same
    cases same
    exact .failed ec flying
  | proceed room => exact statement_change taken
  | cleared =>
    unfold Writer.step at taken
    dsimp only at taken
    split at taken
    · cases taken
      exact .clean ‹_›
    · cases taken
      exact .cleared ‹_›
  | closed =>
    cases taken
    exact .outside rfl
  | reopened =>
    cases taken
    exact .outside rfl
  | stopped =>
    cases taken
    exact .outside rfl
  | ended =>
    obtain ⟨-, same⟩ := Option.ite_none_right_eq_some.mp taken
    cases same
    exact .outside rfl
  | left =>
    obtain ⟨-, same⟩ := Option.ite_none_right_eq_some.mp taken
    cases same
    exact .outside rfl

end Hdcp.Tcp
