import Hdcp.Transport.WriterSafety

/-!
# The writers never go mute, but for one dequeue

`write_in_progress_` stays true while the completion handler goes from its size test to the
dequeue in `do_write`. While no other thread takes the last packet of the queue in between, the
flag tells between handlers whether a write is outstanding, and a queued packet is picked up by its
completion. When one does, the flag stays true with no write outstanding, and nothing is ever sent
again.
-/

namespace Hdcp.Tcp

open Base

/-- An event that is no write error and does not take the last packet between the size test of a
completion handler and the dequeue of `do_write`. -/
def LeavesOne (writer : Writer) : WriterEvent → Prop
  | .failed _ => False
  | .cleared => writer.position = .dequeue → writer.writeInProgress = true →
      writer.writeQueue.length ≠ 1
  | _ => True

/-- What the flag says where the io thread is. -/
def Position.Talks (writer : Writer) : Position → Prop
  | between | enqueue _ =>
    (writer.writeInProgress = true → writer.outstanding = 1) ∧
      (writer.writeInProgress = false → writer.writeQueue = [])
  | flagTest => writer.writeInProgress = true → writer.outstanding = 1
  | sizeTest => writer.writeInProgress = true
  | dequeue => writer.writeInProgress = true → writer.writeQueue ≠ []
  | asyncWrite _ => True

/-- The state of a writer that will hand nothing over any more. -/
structure Mute (writer : Writer) : Prop where
  /-- The flag is set. -/
  flag : writer.writeInProgress = true
  /-- No completion handler will clear it. -/
  none : writer.outstanding = 0
  /-- Nor is the io thread about to hand a packet over. -/
  away : writer.position.writes = true → writer.position = .dequeue ∧ writer.writeQueue = []

section Steps

variable {endpoint : Endpoint} {writer next : Writer} {event : WriterEvent}

/-- An event that leaves one packet is no write error. -/
theorem LeavesOne.noError (leaves : LeavesOne writer event) : NoError event := by
  cases event <;> first | exact trivial | exact leaves

/-- What the events do keeps the flag right. -/
theorem talks_change (sound : WriterSound writer) (talks : writer.position.Talks writer)
    (leaves : LeavesOne writer event) (change : WriterChange writer event next) :
    next.position.Talks next := by
  cases change with
  | posted packet =>
    show writer.position.Talks _
    cases position : writer.position <;> rw [position] at talks <;> exact talks
  | begun position handlers =>
    rw [position] at talks
    exact talks
  | completed position flying =>
    show writer.writeInProgress = true
    by_contra idle
    exact absurd (sound.flagged (eq_false_of_ne_true idle)) (Nat.ne_of_gt flying)
  | failed ec flying => exact absurd leaves id
  | enqueued position =>
    rw [position] at talks
    exact talks.1
  | refused position =>
    rw [position] at talks
    exact talks
  | busy room position flag =>
    rw [position] at talks
    exact ⟨talks, fun idle => absurd (flag.symm.trans idle) (by decide)⟩
  | idle room position flag =>
    exact fun busy => absurd (flag.symm.trans busy) (by decide)
  | more room position queue => exact fun _ => queue
  | drained room position queue => exact ⟨fun absurdity => by contradiction, fun _ => queue⟩
  | nothing room position queue =>
    rw [position] at talks
    exact ⟨fun busy => absurd queue (talks busy), fun _ => queue⟩
  | dequeued room position queue => exact trivial
  | handed room position =>
    have none := sound.prepares (by rw [position]; rfl)
    refine ⟨fun _ => ?_, fun absurdity => by contradiction⟩
    show writer.outstanding + 1 = 1
    rw [none]
  | @cleared item rest queue =>
    show writer.position.Talks _
    have filled : writer.writeQueue ≠ [] := by
      rw [queue]
      exact List.cons_ne_nil _ _
    cases position : writer.position with
    | between =>
      rw [position] at talks
      exact ⟨talks.1, fun idle => absurd (talks.2 idle) filled⟩
    | enqueue item =>
      rw [position] at talks
      exact ⟨talks.1, fun idle => absurd (talks.2 idle) filled⟩
    | dequeue =>
      -- the packet taken is not the last one
      intro busy empty
      apply leaves position busy
      rw [queue, show rest = [] from empty]
      rfl
    | flagTest =>
      rw [position] at talks
      exact talks
    | sizeTest =>
      rw [position] at talks
      exact talks
    | asyncWrite item => exact trivial
  | clean queue => exact talks
  | outside unposted =>
    show writer.position.Talks _
    cases position : writer.position <;> rw [position] at talks <;> exact talks

/-- A mute writer stays mute, and hands nothing over. -/
theorem Mute.change (mute : Mute writer) (change : WriterChange writer event next) :
    Mute next ∧ next.ledger.sent = writer.ledger.sent := by
  obtain ⟨flag, none, away⟩ := mute
  cases change with
  | posted packet => exact ⟨⟨flag, none, away⟩, rfl⟩
  | begun position handlers => exact ⟨⟨flag, none, fun writes => by contradiction⟩, rfl⟩
  | completed position flying => exact absurd none (Nat.ne_of_gt flying)
  | failed ec flying => exact absurd none (Nat.ne_of_gt flying)
  | enqueued position => exact ⟨⟨flag, none, fun writes => by contradiction⟩, rfl⟩
  | refused position => exact ⟨⟨flag, none, fun writes => by contradiction⟩, rfl⟩
  | busy room position flag => exact ⟨⟨flag, none, fun writes => by contradiction⟩, rfl⟩
  | idle room position idle => exact absurd (flag.symm.trans idle) (by decide)
  | more room position queue =>
    rw [position] at away
    exact absurd (away rfl).1 (by decide)
  | drained room position queue =>
    rw [position] at away
    exact absurd (away rfl).1 (by decide)
  | nothing room position queue => exact ⟨⟨flag, none, fun writes => by contradiction⟩, rfl⟩
  | dequeued room position queue =>
    rw [position] at away
    rw [queue] at away
    exact absurd (away rfl).2 (List.cons_ne_nil _ _)
  | handed room position =>
    rw [position] at away
    exact absurd (away rfl).1 Position.noConfusion
  | cleared queue =>
    refine ⟨⟨flag, none, fun writes => ?_⟩, rfl⟩
    rw [queue] at away
    exact absurd (away writes).2 (List.cons_ne_nil _ _)
  | clean queue => exact ⟨⟨flag, none, away⟩, rfl⟩
  | outside unposted => exact ⟨⟨flag, none, away⟩, rfl⟩

/-- Over any run. -/
theorem Mute.run {start finish : Writer} {events : List WriterEvent} (mute : Mute start)
    (run : Run (Steps (Writer.step endpoint)) start events finish) :
    Mute finish ∧ finish.ledger.sent = start.ledger.sent := by
  induction run with
  | nil => exact ⟨mute, rfl⟩
  | cons taken _ ih =>
    obtain ⟨still, same⟩ := mute.change (step_change taken)
    obtain ⟨last, sent⟩ := ih still
    exact ⟨last, sent.trans same⟩

/-- The dequeue that takes the last packet mutes the writer. -/
theorem mute_of_cleared (sound : WriterSound writer) (takes : ¬ LeavesOne writer .cleared)
    (taken : writer.step endpoint .cleared = some next) :
    Mute next ∧ next.ledger.sent = writer.ledger.sent := by
  obtain ⟨position, rest⟩ := Classical.not_imp.mp takes
  obtain ⟨busy, last⟩ := Classical.not_imp.mp rest
  have single : writer.writeQueue.length = 1 := not_not.mp last
  have none := sound.prepares (by rw [position]; rfl)
  obtain ⟨item, queue⟩ := List.length_eq_one_iff.mp single
  unfold Writer.step at taken
  rw [queue] at taken
  cases taken
  exact ⟨⟨busy, none, fun _ => ⟨position, rfl⟩⟩, rfl⟩

end Steps

/-! ## Every interleaving -/

/-- In these events the io thread hands this packet over. -/
def Hands (endpoint : Endpoint) (writer : Writer) (events : List WriterEvent)
    (item : Base.Numbered Packet) : Prop :=
  ∃ finish, Run (Steps (Writer.step endpoint)) writer events finish ∧
    finish.ledger.sent = writer.ledger.sent ++ [item]

/-- The completion of the outstanding write picks up the oldest queued packet. -/
theorem hands_queued (endpoint : Endpoint) {writer : Writer} {item : Base.Numbered Packet}
    {rest : List (Base.Numbered Packet)} (looping : writer.looping = true)
    (position : writer.position = .between) (flying : 0 < writer.outstanding)
    (queue : writer.writeQueue = item :: rest) :
    Hands endpoint writer [.completed, .proceed true, .proceed true, .proceed true] item := by
  have completed : writer.step endpoint .completed = some { writer with
      outstanding := writer.outstanding - 1, errc := .success, position := .sizeTest } :=
    if_pos ⟨looping, position, flying⟩
  rw [queue] at completed
  exact ⟨_, .cons completed (.cons rfl (.cons rfl (.cons rfl (.nil _)))), rfl⟩

/-- With no write in progress the next posted handler hands its packet over. -/
theorem hands_posted (endpoint : Endpoint) {writer : Writer} {item : Base.Numbered Packet}
    {rest : List (Base.Numbered Packet)} (looping : writer.looping = true)
    (position : writer.position = .between) (idle : writer.writeInProgress = false)
    (empty : writer.writeQueue = []) (handlers : writer.postedHandlers = item :: rest) :
    Hands endpoint writer
      [.begun, .proceed true, .proceed true, .proceed true, .proceed true] item := by
  have begun : writer.step endpoint .begun =
      some { writer with postedHandlers := rest, position := .enqueue item } := by
    unfold Writer.step
    rw [handlers]
    exact if_pos ⟨looping, position⟩
  rw [idle, empty] at begun
  exact ⟨_, .cons begun (.cons rfl (.cons rfl (.cons rfl (.cons rfl (.nil _))))), rfl⟩

/-- A writer between handlers that is not mute. -/
structure Talking (endpoint : Endpoint) (writer : Writer) : Prop where
  /-- The flag is set only while a write is outstanding. -/
  outstanding : writer.writeInProgress = true → writer.outstanding = 1
  /-- A queued packet is picked up. -/
  queued : ∀ item rest, writer.looping = true → writer.writeQueue = item :: rest →
    Hands endpoint writer [.completed, .proceed true, .proceed true, .proceed true] item
  /-- So is a packet posted while no write is in progress. -/
  posted : ∀ item rest, writer.looping = true → writer.writeInProgress = false →
    writer.postedHandlers = item :: rest →
      Hands endpoint writer
        [.begun, .proceed true, .proceed true, .proceed true, .proceed true] item

/-- A right flag is enough. -/
theorem Position.Talks.talking {endpoint : Endpoint} {writer : Writer}
    (talks : writer.position.Talks writer) (position : writer.position = .between) :
    Talking endpoint writer := by
  rw [position] at talks
  obtain ⟨busy, idle⟩ := talks
  refine ⟨busy, ?_, ?_⟩
  · intro item rest looping queue
    have flag : writer.writeInProgress = true := by
      by_contra unset
      have empty := idle (eq_false_of_ne_true unset)
      rw [queue] at empty
      contradiction
    apply hands_queued endpoint looping position _ queue
    rw [busy flag]
    exact Nat.one_pos
  · intro item rest looping unset handlers
    exact hands_posted endpoint looping position unset (idle unset) handlers

/-- What such events keep. -/
structure WriterLive (writer : Writer) : Prop where
  /-- The writer is sound. -/
  sound : WriterSound writer
  /-- Its flag is right. -/
  talks : writer.position.Talks writer

/-- In every run of such events. -/
theorem WriterLive.run {endpoint : Endpoint} {packet : Packet} {events : List WriterEvent}
    {writer : Writer} (run : Run (Guarded LeavesOne (Steps (Writer.step endpoint)))
      (.started packet) events writer) : WriterLive writer := by
  have started : WriterLive (.started packet) :=
    ⟨.started packet, fun absurdity => by contradiction, fun _ => rfl⟩
  refine run.invariant (fun state event next live taken => ?_) started
  have change := step_change taken.2
  exact ⟨live.sound.change taken.1.noError change,
    talks_change live.sound live.talks taken.1 change⟩

/-- For both transports, in every interleaving in which no write fails and no dequeue of
`clear_queues()` takes the last packet between the size test of a completion handler and the
dequeue of `do_write`: between handlers the flag is set only while a write is outstanding, and
packets queued or posted are picked up. The first dequeue that does take it leaves the flag set
with no write outstanding, and whatever happens afterwards nothing is sent. -/
theorem writer_talks (endpoint : Endpoint) (packet : Packet) (events : List WriterEvent)
    (writer : Writer)
    (run : Run (Guarded LeavesOne (Steps (Writer.step endpoint))) (.started packet) events
      writer) :
    (writer.position = .between → Talking endpoint writer) ∧
      (¬ LeavesOne writer .cleared → ∀ next, writer.step endpoint .cleared = some next →
        ∀ more finish, Run (Steps (Writer.step endpoint)) next more finish →
          finish.writeInProgress = true ∧ finish.outstanding = 0 ∧
            finish.ledger.sent = writer.ledger.sent) := by
  have live := WriterLive.run run
  refine ⟨live.talks.talking, ?_⟩
  intro takes next taken more finish later
  obtain ⟨mute, same⟩ := mute_of_cleared live.sound takes taken
  obtain ⟨still, sent⟩ := mute.run later
  exact ⟨still.flag, still.none, sent.trans same⟩

/-- A second packet is posted while the first is sent; its completion picks the second up. -/
theorem writer_talks_second :
    ∃ writer item, Talking .server writer ∧ writer.position = .between ∧
      writer.writeQueue = [item] ∧ writer.outstanding = 1 := by
  have run : Run (Guarded LeavesOne (Steps (Writer.step .server))) (.started .cleared)
      [.posted .cleared, .begun, .proceed true, .proceed true, .proceed true, .proceed true,
        .posted .cleared, .begun, .proceed true, .proceed true] _ :=
    .cons ⟨trivial, rfl⟩ (.cons ⟨trivial, rfl⟩ (.cons ⟨trivial, rfl⟩ (.cons ⟨trivial, rfl⟩
      (.cons ⟨trivial, rfl⟩ (.cons ⟨trivial, rfl⟩ (.cons ⟨trivial, rfl⟩ (.cons ⟨trivial, rfl⟩
        (.cons ⟨trivial, rfl⟩ (.cons ⟨trivial, rfl⟩ (.nil _))))))))))
  exact ⟨_, _, (writer_talks .server .cleared _ _ run).1 rfl, rfl, rfl, rfl⟩

/-- The writer is between handlers on an open socket, its flag set, no write outstanding, and a
packet queued. -/
def Stuck (writer : Writer) : Prop :=
  writer.position = .between ∧ writer.looping = true ∧ writer.socketOpen = true ∧
    writer.writeInProgress = true ∧ writer.outstanding = 0 ∧ writer.writeQueue ≠ []

/-- Between the size test of the completion handler and the dequeue of `do_write` the queue is
cleared; a third packet stays queued. -/
def muting : List WriterEvent :=
  [.posted .cleared, .begun, .proceed true, .proceed true, .proceed true, .proceed true,
    .posted .cleared, .begun, .proceed true, .proceed true, .completed, .proceed true, .cleared,
    .proceed true, .posted .cleared, .begun, .proceed true, .proceed true]

/-- No write fails in these events, and the socket stays open, but the writer is stuck. -/
theorem muting_run (endpoint : Endpoint) :
    ∃ writer, Run (Guarded (fun state event => NoError event ∧ state.socketOpen = true)
      (Steps (Writer.step endpoint))) (.started .cleared) muting writer ∧ Stuck writer := by
  have run : Run (Guarded (fun state event => NoError event ∧ state.socketOpen = true)
      (Steps (Writer.step endpoint))) (.started .cleared) muting _ :=
    .cons ⟨⟨trivial, rfl⟩, rfl⟩ (.cons ⟨⟨trivial, rfl⟩, rfl⟩ (.cons ⟨⟨trivial, rfl⟩, rfl⟩
      (.cons ⟨⟨trivial, rfl⟩, rfl⟩ (.cons ⟨⟨trivial, rfl⟩, rfl⟩ (.cons ⟨⟨trivial, rfl⟩, rfl⟩
      (.cons ⟨⟨trivial, rfl⟩, rfl⟩ (.cons ⟨⟨trivial, rfl⟩, rfl⟩ (.cons ⟨⟨trivial, rfl⟩, rfl⟩
      (.cons ⟨⟨trivial, rfl⟩, rfl⟩ (.cons ⟨⟨trivial, rfl⟩, rfl⟩ (.cons ⟨⟨trivial, rfl⟩, rfl⟩
      (.cons ⟨⟨trivial, rfl⟩, rfl⟩ (.cons ⟨⟨trivial, rfl⟩, rfl⟩ (.cons ⟨⟨trivial, rfl⟩, rfl⟩
      (.cons ⟨⟨trivial, rfl⟩, rfl⟩ (.cons ⟨⟨trivial, rfl⟩, rfl⟩ (.cons ⟨⟨trivial, rfl⟩, rfl⟩
      (.nil _))))))))))))))))))
  exact ⟨_, run, rfl, rfl, rfl, rfl, rfl, List.cons_ne_nil _ _⟩

/-- So either transport can go mute. -/
theorem writer_goesMute :
    (∃ writer, Run (Guarded (fun state event => NoError event ∧ state.socketOpen = true)
      (Steps (Writer.step .client))) (.started .cleared) muting writer ∧ Stuck writer) ∧
    (∃ writer, Run (Guarded (fun state event => NoError event ∧ state.socketOpen = true)
      (Steps (Writer.step .server))) (.started .cleared) muting writer ∧ Stuck writer) :=
  ⟨muting_run .client, muting_run .server⟩

end Hdcp.Tcp
