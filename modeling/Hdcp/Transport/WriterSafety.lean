import Hdcp.Transport.TcpWriter

/-!
# The writers under every interleaving

Until a write fails, one `async_write` is outstanding at most, nothing touches its packet, and the
packets go out in the order posted, each once. `clear_queues()` may take packets from the queue
between any two statements of a handler.
-/

namespace Hdcp.Tcp

open Base

/-- The io thread is on its way to the next `async_write`. -/
def Position.writes : Position → Bool
  | sizeTest | dequeue | asyncWrite _ => true
  | between | enqueue _ | flagTest => false

/-- The packet `do_write` is about to hand to `async_write`. -/
def Position.hand : Position → List (Base.Numbered Packet)
  | asyncWrite item => [item]
  | _ => []

/-- The packet of the posted handler that is running. -/
def Position.incoming : Position → List (Base.Numbered Packet)
  | enqueue item => [item]
  | _ => []

/-- The packets on their way to `async_write`, oldest first: in hand, queued, and posted. -/
def Writer.waiting (writer : Writer) : List (Base.Numbered Packet) :=
  writer.position.hand ++ writer.writeQueue ++ writer.position.incoming ++ writer.postedHandlers

/-- What every event keeps until a write fails. -/
structure WriterSound (writer : Writer) : Prop where
  /-- Without the flag no write is outstanding. -/
  flagged : writer.writeInProgress = false → writer.outstanding = 0
  /-- One write is outstanding at most. -/
  single : writer.outstanding ≤ 1
  /-- None is while the next one is prepared. -/
  prepares : writer.position.writes = true → writer.outstanding = 0
  /-- The packet in hand is in `write_packet_`. -/
  held : ∀ item ∈ writer.position.hand, writer.writePacket = item.value
  /-- The outstanding write is of the packet handed over last. -/
  flying : 0 < writer.outstanding → ∃ item, writer.ledger.sent.getLast? = some item ∧
    writer.writePacket = item.value
  /-- Every packet posted was handed over in its turn, waits, was refused or was removed. -/
  balanced : writer.ledger.Balanced writer.waiting

/-- An event that is no write error. -/
def NoError : WriterEvent → Prop
  | .failed _ => False
  | _ => True

namespace WriterSound

variable {endpoint : Endpoint} {writer next : Writer}

/-- A writer just started, with an empty write queue. -/
theorem started (packet : Packet) : WriterSound (.started packet) where
  flagged := fun _ => rfl
  single := Nat.zero_le 1
  prepares := fun _ => rfl
  held := fun _ inside => absurd inside List.not_mem_nil
  flying := fun absurdity => by contradiction
  balanced := .empty

/-- What the events do keeps it. -/
theorem change {event : WriterEvent} (sound : WriterSound writer) (noError : NoError event)
    (change : WriterChange writer event next) : WriterSound next := by
  obtain ⟨flagged, single, prepares, held, flying, balanced⟩ := sound
  unfold Writer.waiting at balanced
  have empty : ∀ item ∈ ([] : List (Base.Numbered Packet)), writer.writePacket = item.value :=
    fun _ inside => absurd inside List.not_mem_nil
  cases change with
  | posted packet =>
    refine ⟨flagged, single, prepares, held, flying, ?_⟩
    have posted := balanced.post packet
    rw [List.append_assoc] at posted
    exact posted
  | begun position handlers =>
    rw [position, handlers] at balanced
    refine ⟨flagged, single, fun absurdity => by contradiction, empty, flying, ?_⟩
    simpa [Writer.waiting, Position.hand, Position.incoming] using balanced
  | completed position some =>
    have none : writer.outstanding - 1 = 0 := Nat.sub_eq_zero_of_le single
    rw [position] at balanced
    refine ⟨fun _ => none, ?_, fun _ => none, empty, fun again => ?_, balanced⟩
    · exact Nat.le_trans (Nat.sub_le _ _) single
    · exact absurd none (Nat.ne_of_gt again)
  | failed ec some => contradiction
  | enqueued position =>
    rw [position] at balanced
    refine ⟨flagged, single, fun absurdity => by contradiction, empty, flying, ?_⟩
    simpa [Writer.waiting, Position.hand, Position.incoming] using balanced
  | @refused item socketOpen looping position =>
    have order : writer.ledger.Balanced (writer.writeQueue ++ item :: writer.postedHandlers) := by
      rw [position] at balanced
      simpa [Position.hand, Position.incoming] using balanced
    refine ⟨flagged, single, fun absurdity => by contradiction, empty, flying, ?_⟩
    simpa [Writer.waiting, Position.hand, Position.incoming] using order.refuse
  | busy room position flag =>
    rw [position] at balanced
    exact ⟨flagged, single, fun absurdity => by contradiction, empty, flying, balanced⟩
  | idle room position flag =>
    rw [position] at balanced
    exact ⟨flagged, single, fun _ => flagged flag, empty, flying, balanced⟩
  | more room position queue =>
    have none := prepares (by rw [position]; rfl)
    rw [position] at balanced
    exact ⟨flagged, single, fun _ => none, empty, flying, balanced⟩
  | drained room position queue =>
    have none := prepares (by rw [position]; rfl)
    rw [position] at balanced
    exact ⟨fun _ => none, single, fun _ => none, empty, flying, balanced⟩
  | nothing room position queue =>
    rw [position] at balanced
    exact ⟨flagged, single, fun absurdity => by contradiction, empty, flying, balanced⟩
  | dequeued room position queue =>
    have none := prepares (by rw [position]; rfl)
    rw [position, queue] at balanced
    refine ⟨flagged, single, fun _ => none, fun other inside => ?_, fun some => ?_, balanced⟩
    · rw [List.mem_singleton.mp inside]
    · exact absurd none (Nat.ne_of_gt some)
  | @handed room item position =>
    have none := prepares (by rw [position]; rfl)
    rw [position] at held balanced
    refine ⟨fun absurdity => by contradiction, ?_, fun absurdity => by contradiction, empty,
      fun _ => ⟨item, List.getLast?_concat, held item List.mem_cons_self⟩, balanced.send⟩
    show writer.outstanding + 1 ≤ 1
    rw [none]
  | @cleared item rest queue =>
    have order : writer.ledger.Balanced (writer.position.hand ++
        item :: (rest ++ writer.position.incoming ++ writer.postedHandlers)) := by
      rw [queue] at balanced
      simpa using balanced
    refine ⟨flagged, single, prepares, held, flying, ?_⟩
    simpa [Writer.waiting] using order.remove
  | clean queue => exact ⟨flagged, single, prepares, held, flying, balanced⟩
  | outside unposted => exact ⟨flagged, single, prepares, held, flying, balanced⟩

/-- No event touches the packet of an outstanding write. -/
theorem untouched {event : WriterEvent} (sound : WriterSound writer)
    (flying : 0 < writer.outstanding) (change : WriterChange writer event next) :
    next.writePacket = writer.writePacket := by
  cases change with
  | dequeued room position queue =>
    have none := sound.prepares (by rw [position]; rfl)
    exact absurd none (Nat.ne_of_gt flying)
  | _ => rfl

/-- In every run without write errors. -/
theorem run {packet : Packet} {events : List WriterEvent}
    (run : Run (Guarded (fun _ event => NoError event) (Steps (Writer.step endpoint)))
      (.started packet) events writer) : WriterSound writer :=
  run.invariant (fun _ _ _ sound taken => sound.change taken.1 (step_change taken.2))
    (.started packet)

end WriterSound

/-! ## In order, once, one at a time -/

/-- The ledger lists the packets passed to `write()`. -/
theorem posted_change {writer next : Writer} {event : WriterEvent}
    (change : WriterChange writer event next) :
    next.ledger.posted.map Base.Numbered.value =
      writer.ledger.posted.map Base.Numbered.value ++ postedPackets [event] := by
  cases change with
  | posted packet => exact List.map_append
  | outside unposted => rw [unposted, List.append_nil]
  | _ => exact (List.append_nil _).symm

/-- Over a run too. -/
theorem posted_run {endpoint : Endpoint} {start finish : Writer} {events : List WriterEvent}
    (run : Run (Steps (Writer.step endpoint)) start events finish) :
    finish.ledger.posted.map Base.Numbered.value =
      start.ledger.posted.map Base.Numbered.value ++ postedPackets events := by
  induction run with
  | nil => exact (List.append_nil _).symm
  | @cons start middle finish event events taken rest ih =>
    have joined : postedPackets (event :: events) =
        postedPackets [event] ++ postedPackets events := by
      cases event <;> rfl
    rw [ih, posted_change (step_change taken), joined, List.append_assoc]

/-- What the writers promise in the state a run of these events leads to. -/
structure PacketsInOrder (events : List WriterEvent) (writer : Writer) : Prop where
  /-- One `async_write` is outstanding at most. -/
  single : writer.outstanding ≤ 1
  /-- It is of the packet handed over last, which `write_packet_` still holds. -/
  flying : 0 < writer.outstanding → ∃ item, writer.ledger.sent.getLast? = some item ∧
    writer.writePacket = item.value
  /-- The ledger lists the packets passed to `write()`, in posting order. -/
  given : writer.ledger.posted.map Base.Numbered.value = postedPackets events
  /-- They are numbered in that order. -/
  numbers : writer.ledger.posted.map Base.Numbered.number = List.range writer.ledger.posted.length
  /-- The packets handed to `async_write` are a subsequence of them. -/
  order : writer.ledger.sent.Sublist writer.ledger.posted
  /-- None is handed over twice. -/
  once : writer.ledger.sent.Nodup
  /-- Missing are those refused, removed or still queued. -/
  missing : ∀ item ∈ writer.ledger.posted, item ∉ writer.ledger.sent →
    item ∈ writer.ledger.refused ∨ item ∈ writer.ledger.removed ∨ item ∈ writer.waiting

/-- For both transports, in every interleaving of `write()` calls, handlers and dequeues by
`clear_queues()` until a write fails: one `async_write` is outstanding at most, no event touches
its packet, and the packets go out in posting order, each once, except those refused by a full
queue, removed or still queued. -/
theorem packets_inOrder (endpoint : Endpoint) (packet : Packet) (events : List WriterEvent)
    (writer : Writer)
    (run : Run (Guarded (fun _ event => NoError event) (Steps (Writer.step endpoint)))
      (.started packet) events writer) :
    PacketsInOrder events writer ∧
      ∀ event next, writer.step endpoint event = some next → 0 < writer.outstanding →
        next.writePacket = writer.writePacket := by
  have sound := WriterSound.run run
  refine ⟨?_, fun event next taken flying => sound.untouched flying (step_change taken)⟩
  exact {
    single := sound.single
    flying := sound.flying
    given := posted_run run.unguarded
    numbers := sound.balanced.numbers
    order := sound.balanced.sent_sublist
    once := sound.balanced.sent_nodup
    missing := fun item posted unsent => sound.balanced.accounted posted unsent }

/-- Two packets are posted; the second waits until the first is sent. -/
theorem packets_inOrder_two :
    ∃ events writer, PacketsInOrder events writer ∧ writer.position = .between ∧
      writer.outstanding = 1 ∧ writer.ledger.sent.map Base.Numbered.number = [0, 1] := by
  have run : Run (Guarded (fun _ event => NoError event) (Steps (Writer.step .client)))
      (.started .cleared)
      [.posted .cleared, .begun, .proceed true, .proceed true, .proceed true, .proceed true,
        .posted .cleared, .begun, .proceed true, .proceed true, .completed, .proceed true,
        .proceed true, .proceed true] _ :=
    .cons ⟨trivial, rfl⟩ (.cons ⟨trivial, rfl⟩ (.cons ⟨trivial, rfl⟩ (.cons ⟨trivial, rfl⟩
      (.cons ⟨trivial, rfl⟩ (.cons ⟨trivial, rfl⟩ (.cons ⟨trivial, rfl⟩ (.cons ⟨trivial, rfl⟩
        (.cons ⟨trivial, rfl⟩ (.cons ⟨trivial, rfl⟩ (.cons ⟨trivial, rfl⟩ (.cons ⟨trivial, rfl⟩
          (.cons ⟨trivial, rfl⟩ (.cons ⟨trivial, rfl⟩ (.nil _))))))))))))))
  exact ⟨_, _, (packets_inOrder .client .cleared _ _ run).1, rfl, rfl, rfl⟩

end Hdcp.Tcp
