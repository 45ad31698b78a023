import Hdcp.Transport.TcpServer

/-!
# The server between its clients

Between handlers the server either reads from the client it serves or waits for the next one. A
connection that ends with the end of the file is followed by an accept, and so is one whose reads
were aborted. A connection reset is reported with another error code, which ends the loop of
`run()` and with it the server, as does a connection reset behind its end of file, whose shutdown
raises; and a failed accept is not repeated.
-/

namespace Hdcp.Tcp.ServerState

open Base

/-- The io thread is alive, and an accept or a read of the open socket is outstanding. -/
def Survives (server : ServerState) : Prop :=
  server.looping = true ∧ (0 < server.accepts ∨ ∃ issued ∈ server.reads, issued.live = true)

/-- No read and no write ends with an error the handlers do not tolerate, and no accept fails while
the server has no client. -/
def Tolerable (server : ServerState) : ServerEvent → Prop
  | .readFailed _ ec | .writeFailed ec => server.Tolerates ec
  | .acceptFailed _ => server.socketOpen = true
  | _ => True

/-- The server between two starts: stopped, or never started. -/
structure Idle (server : ServerState) : Prop where
  /-- The socket is closed. -/
  shut : server.socketOpen = false
  /-- The thread does not run. -/
  stopped : server.running = false
  /-- No accept is outstanding. -/
  silent : server.accepts = 0
  /-- Reads whose handlers have not run are of a closed socket. -/
  dead : ∀ issued ∈ server.reads, issued.live = false

/-- What every tolerable event keeps: an open socket is read from, a closed one is accepted on. -/
structure Serves (server : ServerState) : Prop where
  /-- `is_running()`. -/
  running : server.running = true
  /-- The loop of `run()`. -/
  looping : server.looping = true
  /-- An open socket is read from. -/
  reads : server.socketOpen = true → ∃ issued ∈ server.reads, issued.live = true
  /-- A closed socket is not. -/
  live : ∀ issued ∈ server.reads, issued.live = true → server.socketOpen = true
  /-- A closed socket is accepted on. -/
  accepts : server.socketOpen = false → server.accepts = 1
  /-- One accept is outstanding at most. -/
  one : server.accepts ≤ 1

namespace Serves

variable {server next : ServerState}

/-- A server that serves survives. -/
theorem survives (serves : Serves server) : server.Survives := by
  refine ⟨serves.looping, ?_⟩
  cases opened : server.socketOpen with
  | true => exact Or.inr (serves.reads opened)
  | false =>
    have waiting := serves.accepts opened
    exact Or.inl (by omega)

/-- `start()` waits for the first client. -/
theorem started (idle : Idle server) : Serves (after (start server)) := by
  have shut := idle.shut
  have stopped := idle.stopped
  have silent := idle.silent
  have begun : after (start server) =
      { server with writeInProgress := false, accepts := 1, running := true, looping := true } := by
    simp [start, openTransport, shut, stopped, silent]
  rw [begun]
  refine ⟨rfl, rfl, ?_, ?_, fun _ => rfl, Nat.le_refl 1⟩
  · intro opened
    rw [show server.socketOpen = true from opened] at shut
    contradiction
  · intro issued inside live
    rw [idle.dead issued inside] at live
    contradiction

/-- Fields the invariant does not name may change. -/
theorem congr (serves : Serves server) (socket : next.socketOpen = server.socketOpen)
    (runs : next.running = server.running) (loops : next.looping = server.looping)
    (reads : next.reads = server.reads) (accepts : next.accepts = server.accepts) :
    Serves next := by
  refine ⟨?_, ?_, ?_, ?_, ?_, ?_⟩
  · rw [runs, serves.running]
  · rw [loops, serves.looping]
  · rw [socket, reads]
    exact serves.reads
  · rw [socket, reads]
    exact serves.live
  · rw [socket, accepts]
    exact serves.accepts
  · rw [accepts]
    exact serves.one

/-- A read that completes is replaced by others on the socket that is open now. -/
theorem replaced (serves : Serves server) (index : Nat) {more : List Issued} (some : more ≠ [])
    (fresh : ∀ issued ∈ more, issued.live = server.socketOpen) :
    Serves { server with reads := server.reads.eraseIdx index ++ more } := by
  refine ⟨serves.running, serves.looping, ?_, ?_, serves.accepts, serves.one⟩
  · intro opened
    obtain ⟨first, inside⟩ := List.exists_mem_of_ne_nil more some
    exact ⟨first, List.mem_append_right _ inside, (fresh first inside).trans opened⟩
  · intro issued inside live
    rcases List.mem_append.mp inside with before | new
    · exact serves.live issued (List.mem_of_mem_eraseIdx before) live
    · exact (fresh issued new).symm.trans live

/-- A read of a closed socket may end. -/
theorem erased (serves : Serves server) {index : Nat} {issued : Issued}
    (found : server.reads[index]? = some issued) (dead : issued.live = false) :
    Serves { server with reads := server.reads.eraseIdx index } := by
  refine ⟨serves.running, serves.looping, ?_, ?_, serves.accepts, serves.one⟩
  · intro opened
    obtain ⟨other, inside, live⟩ := serves.reads opened
    refine ⟨other, ?_, live⟩
    obtain ⟨place, low, same⟩ := List.getElem_of_mem inside
    refine List.mem_eraseIdx_iff_getElem?.mpr ⟨place, ?_, ?_⟩
    · rintro rfl
      rw [List.getElem?_eq_getElem low, same] at found
      obtain rfl := Option.some.inj found
      rw [dead] at live
      contradiction
    · rw [List.getElem?_eq_getElem low, same]
  · exact fun other inside => serves.live other (List.mem_of_mem_eraseIdx inside)

/-- A connection accepted on a closed socket is read from. -/
theorem connected (serves : Serves server) (read : Read) (accepts : Nat) (few : accepts ≤ 1) :
    Serves { server with
      socketOpen := true
      reads := server.reads ++ [⟨read, true⟩]
      accepts := accepts } := by
  refine ⟨serves.running, serves.looping, ?_, fun _ _ _ => rfl, fun shut => by contradiction, few⟩
  exact fun _ => ⟨_, List.mem_append_right _ (List.mem_singleton_self _), rfl⟩

end Serves

/-- A completed read is one that was outstanding. -/
theorem readDone_inv {server next : ServerState} {index : Nat} {bytes : Bytes} {room : Bool}
    (taken : server.step (.readDone index bytes room) = some next) :
    ∃ issued, server.reads[index]? = some issued ∧
      next = run (handler issued.read room .success)
        { server with
          reads := server.reads.eraseIdx index
          readPacket := server.readPacket.store issued.read.offset bytes } := by
  simp only [step] at taken
  cases found : server.reads[index]? with
  | none => simp [found] at taken
  | some issued =>
    rw [found] at taken
    obtain ⟨-, same⟩ := Option.ite_none_right_eq_some.mp taken
    exact ⟨issued, rfl, (Option.some.inj same).symm⟩

/-- A failed read is one that was outstanding; only a read of a closed socket is aborted. -/
theorem readFailed_inv {server next : ServerState} {index : Nat} {ec : ErrorCode}
    (taken : server.step (.readFailed index ec) = some next) :
    ∃ issued, server.reads[index]? = some issued ∧ ec ≠ .success ∧
      (ec = .operationAborted → issued.live = false) ∧
      next = run (handler issued.read true ec)
        { server with reads := server.reads.eraseIdx index } := by
  simp only [step] at taken
  cases found : server.reads[index]? with
  | none => simp [found] at taken
  | some issued =>
    rw [found] at taken
    obtain ⟨⟨-, failed, dead⟩, same⟩ := Option.ite_none_right_eq_some.mp taken
    exact ⟨issued, rfl, failed, dead, (Option.some.inj same).symm⟩

namespace Serves

variable {server next : ServerState}

/-- A completed read keeps the server serving. -/
theorem readDone (serves : Serves server) {index : Nat} {bytes : Bytes} {room : Bool}
    (taken : server.step (.readDone index bytes room) = some next) : Serves next := by
  obtain ⟨issued, found, rfl⟩ := readDone_inv taken
  obtain ⟨queue, more, result, some, fresh⟩ := run_read issued.read room
    { server with
      reads := server.reads.eraseIdx index
      readPacket := server.readPacket.store issued.read.offset bytes }
  rw [result]
  exact (serves.replaced index some fresh).congr rfl rfl rfl rfl rfl

/-- The end of the file behind any reads keeps the server serving. -/
theorem eof (serves : Serves server) (reads : List Issued) :
    Serves { ServerState.closed { server with reads := reads } with
      errc := .eof, accepts := 1 } := by
  refine ⟨serves.running, serves.looping, fun opened => by contradiction, ?_, fun _ => rfl,
    Nat.le_refl 1⟩
  intro issued inside live
  obtain ⟨before, -, rfl⟩ := List.mem_map.mp inside
  contradiction

/-- A failed read that is tolerated keeps the server serving. -/
theorem readFailed (serves : Serves server) {index : Nat} {ec : ErrorCode}
    (taken : server.step (.readFailed index ec) = some next) (tolerated : server.Tolerates ec) :
    Serves next := by
  obtain ⟨issued, found, failed, dead, rfl⟩ := readFailed_inv taken
  cases ec with
  | success => exact absurd rfl failed
  | operationAborted =>
    rw [run_aborted]
    exact (serves.erased found (dead rfl)).congr rfl rfl rfl rfl rfl
  | eof =>
    have result :=
      run_eof issued.read { server with reads := server.reads.eraseIdx index } tolerated
    rw [result]
    exact serves.eof _
  | other value => exact absurd tolerated id

/-- A failed write that is tolerated keeps the server serving. -/
theorem writeFailed (serves : Serves server) {ec : ErrorCode}
    (taken : server.step (.writeFailed ec) = some next) (tolerated : server.Tolerates ec) :
    Serves next := by
  obtain ⟨⟨-, -, failed⟩, same⟩ := Option.ite_none_right_eq_some.mp taken
  obtain rfl := Option.some.inj same
  cases ec with
  | success => exact absurd rfl failed
  | operationAborted =>
    rw [run_writeAborted]
    exact serves.congr rfl rfl rfl rfl rfl
  | eof =>
    have result := run_writeEof { server with outstanding := server.outstanding - 1 } tolerated
    rw [result]
    exact (serves.eof server.reads).congr rfl rfl rfl rfl rfl
  | other value => exact absurd tolerated id

/-- An accept that fails while a client is served is not missed. -/
theorem acceptFailed (serves : Serves server) {ec : ErrorCode}
    (taken : server.step (.acceptFailed ec) = some next) (busy : server.socketOpen = true) :
    Serves next := by
  obtain ⟨⟨-, -, failed⟩, same⟩ := Option.ite_none_right_eq_some.mp taken
  obtain rfl := Option.some.inj same
  have one := serves.one
  rw [run_acceptFailed ec failed]
  refine ⟨serves.running, serves.looping, serves.reads, serves.live, ?_, ?_⟩
  · intro shut
    rw [show server.socketOpen = false from shut] at busy
    contradiction
  · show server.accepts - 1 ≤ 1
    omega

/-- Every tolerable event keeps the server serving. -/
theorem step (serves : Serves server) {event : ServerEvent}
    (tolerable : server.Tolerable event) (taken : server.step event = some next) :
    Serves next := by
  have one := serves.one
  cases event with
  | readDone index bytes room => exact serves.readDone taken
  | readFailed index ec => exact serves.readFailed taken tolerable
  | writer event =>
    obtain ⟨writer, rfl, socket, runs, loops⟩ := writerStep_cases taken
    refine serves.congr socket runs ?_ rfl rfl
    rcases loops with same | same
    · exact same
    · show writer.looping = server.looping
      rw [same, serves.running, serves.looping]
  | writeFailed ec => exact serves.writeFailed taken tolerable
  | accepted =>
    obtain ⟨-, same⟩ := Option.ite_none_right_eq_some.mp taken
    obtain rfl := Option.some.inj same
    rw [run_accepted]
    exact (serves.connected _ (server.accepts - 1) (by omega)).congr rfl rfl rfl rfl rfl
  | acceptFailed ec => exact serves.acceptFailed taken tolerable
  | acceptedLate =>
    obtain ⟨-, same⟩ := Option.ite_none_right_eq_some.mp taken
    obtain rfl := Option.some.inj same
    rw [run_accepted]
    exact (serves.connected _ server.accepts one).congr rfl rfl rfl rfl rfl
  | acceptAborted ec =>
    obtain ⟨⟨-, -, failed⟩, same⟩ := Option.ite_none_right_eq_some.mp taken
    obtain rfl := Option.some.inj same
    rw [run_acceptFailed ec failed]
    exact serves.congr rfl rfl rfl rfl rfl
  | reset =>
    obtain rfl := Option.some.inj taken
    exact serves.congr rfl rfl rfl rfl rfl
  | exited =>
    -- an accept or a read is outstanding, so `io_context_.run()` does not return
    obtain ⟨⟨-, none, silent, -⟩, -⟩ := Option.ite_none_right_eq_some.mp taken
    rcases serves.survives.2 with waiting | ⟨issued, inside, -⟩
    · omega
    · rw [none] at inside
      contradiction

/-- An event that is not tolerable leaves a server that serves no client and waits for none. -/
theorem fatal (serves : Serves server) {event : ServerEvent}
    (intolerable : ¬ server.Tolerable event) (taken : server.step event = some next) :
    ¬ next.Survives := by
  have ended (finished : next.looping = false) : ¬ next.Survives := by
    intro survives
    have alive := survives.1
    rw [finished] at alive
    contradiction
  cases event with
  | readFailed index ec =>
    obtain ⟨issued, -, -, -, rfl⟩ := readFailed_inv taken
    exact ended (run_ended issued.read ec _ intolerable)
  | writeFailed ec =>
    obtain ⟨-, same⟩ := Option.ite_none_right_eq_some.mp taken
    obtain rfl := Option.some.inj same
    exact ended (run_writeEnded ec _ intolerable)
  | acceptFailed ec =>
    obtain ⟨⟨-, -, failed⟩, same⟩ := Option.ite_none_right_eq_some.mp taken
    obtain rfl := Option.some.inj same
    have shut : server.socketOpen = false := eq_false_of_ne_true intolerable
    have waiting := serves.accepts shut
    rw [run_acceptFailed ec failed]
    rintro ⟨-, accepts | ⟨issued, inside, live⟩⟩
    · rw [show server.accepts - 1 = 0 by omega] at accepts
      contradiction
    · rw [serves.live issued inside live] at shut
      contradiction
  | readDone index bytes room => exact absurd trivial intolerable
  | writer event => exact absurd trivial intolerable
  | accepted => exact absurd trivial intolerable
  | acceptedLate => exact absurd trivial intolerable
  | acceptAborted ec => exact absurd trivial intolerable
  | reset => exact absurd trivial intolerable
  | exited => exact absurd trivial intolerable

end Serves

/-- In every run after `start()` the server survives throughout exactly when no read and no write
ends with an error other than the end of the file or an abortion, no connection is found reset when
it is shut down, and no accept fails while the server has no client. -/
theorem server_survives_iff (idle : ServerState) (ready : Idle idle) (events : List ServerEvent)
    (finish : ServerState) (run : Run (Steps step) (after (start idle)) events finish) :
    (∀ front back middle, events = front ++ back →
      Run (Steps step) (after (start idle)) front middle → middle.Survives) ↔
    Run (Guarded Tolerable (Steps step)) (after (start idle)) events finish := by
  refine run.throughout_iff (fun _ serves => serves.survives) ?_ ?_ (Serves.started ready)
  · exact fun _ _ _ serves tolerable taken => serves.step tolerable taken
  · exact fun _ _ _ serves intolerable taken => serves.fatal intolerable taken

/-- A server before its first start. -/
def fresh : ServerState where
  socketOpen := false
  writeInProgress := false
  writePacket := Packet.cleared
  writeQueue := []
  postedHandlers := []
  outstanding := 0
  errc := .success
  running := false
  looping := false
  position := .between
  ledger := .empty
  readPacket := Packet.cleared
  readQueue := []
  reads := []
  accepts := 0
  cancelled := 0
  shutdownFails := false

/-- A server before its first start is idle. -/
theorem fresh_idle : Idle fresh where
  shut := rfl
  stopped := rfl
  silent := rfl
  dead := by
    intro issued inside
    contradiction

/-- A server whose first client ends its connection with the end of the file. -/
theorem server_survives_eof : ∃ finish,
    Run (Steps step) (after (start fresh)) [.accepted, .readFailed 0 .eof] finish ∧
      ∀ front back middle, [ServerEvent.accepted, .readFailed 0 .eof] = front ++ back →
        Run (Steps step) (after (start fresh)) front middle → middle.Survives := by
  have run : ∃ finish, Run (Guarded Tolerable (Steps step)) (after (start fresh))
      [.accepted, .readFailed 0 .eof] finish :=
    ⟨_, .cons ⟨trivial, rfl⟩ (.cons
      ⟨fun lost => absurd (show false = true from lost.2) (by decide), rfl⟩ (.nil _))⟩
  obtain ⟨finish, guarded⟩ := run
  exact ⟨finish, guarded.unguarded,
    (server_survives_iff fresh fresh_idle _ finish guarded.unguarded).mpr guarded⟩

/-- A server whose first client resets its connection: the header read ends with the code of a
reset, and the server serves no client any more. -/
theorem server_reset_ends :
    ∃ finish, Run (Steps step) (after (start fresh)) [.accepted, .readFailed 0 (.other 104)]
      finish ∧ ¬ finish.Survives := by
  have reset : ∃ finish, Run (Steps step) (after (start fresh))
      [.accepted, .readFailed 0 (.other 104)] finish ∧ finish.looping = false :=
    ⟨_, .cons rfl (.cons rfl (.nil _)), rfl⟩
  obtain ⟨finish, run, finished⟩ := reset
  refine ⟨finish, run, ?_⟩
  intro survives
  have alive := survives.1
  rw [finished] at alive
  contradiction

end Hdcp.Tcp.ServerState
