import Hdcp.Transport.UsbDevice

/-!
# The write path of the USB transport, statement by statement

`write()`, which any thread may call, and the completed branch of `write_cb` hold
`mutex_wprogress_` while they run; `clear_queues()` takes packets from the write queue between any
two of their statements. Until a transfer fails one transfer is in flight at most, its packet
stays what it was, and the packets are submitted in the order accepted, each once, except those
that were removed.
-/

namespace Hdcp.Usb

open Base

/-- Where a packet about to be submitted comes from. -/
inductive Origin where
  /-- From the caller of `write()`. -/
  | fresh (packet : Packet)
  /-- From the write queue. -/
  | queued (item : Base.Numbered Packet)

/-- The packet about to be submitted. -/
def Origin.packet : Origin → Packet
  | fresh packet => packet
  | queued item => item.value

/-- The next statement of the thread that holds `mutex_wprogress_`. -/
inductive Holder where
  /-- No thread holds it. -/
  | free
  /-- `write()` tests `in_progress()`. -/
  | test (packet : Packet)
  /-- `write()` enqueues its packet. -/
  | enqueue (packet : Packet)
  /-- `write()` moves its packet into the transfer. -/
  | assign (packet : Packet)
  /-- `write_cb` dequeues into the transfer. -/
  | dequeue
  /-- `fill_transfer`. -/
  | fill (origin : Origin)
  /-- `libusb_submit_transfer`. -/
  | submit (origin : Origin)
  /-- `in_progress_ = true`. -/
  | mark
  /-- `put_on_hold()`. -/
  | hold

/-- The write side and the thread that holds its mutex. -/
structure Writer where
  /-- `wtransfer_` and `write_queue_`. -/
  side : WriteSide
  /-- Where the holder of the mutex is. -/
  holder : Holder

/-- What the threads can do next. -/
inductive Move where
  /-- A thread in `write()` gets the mutex. -/
  | write (packet : Packet)
  /-- The transfer in flight has completed and `write_cb` gets the mutex. -/
  | completed
  /-- The holder executes its next statement; `room` tells whether the write queue has room, `ret`
  is what a submission returns. -/
  | proceed (room : Bool) (ret : Int)
  /-- `clear_queues()` takes one packet from the write queue. -/
  | clear
  /-- `write_cb` of a transfer that did not complete, which takes no mutex. -/
  | failed (status : Status)

/-- A successful `libusb_submit_transfer`: the packet of a caller is accepted by it. -/
def WriteSide.submitted (side : WriteSide) : Origin → WriteSide
  | .fresh packet => side.launch.accept packet
  | .queued item => side.launch.sendQueued item

/-- The statement of the holder, with the write side and the holder after it. -/
def statement (room : Bool) (ret : Int) (side : WriteSide) : Holder → Option Writer
  | .free => none
  | .test packet => some ⟨side, if side.inProgress then .enqueue packet else .assign packet⟩
  | .enqueue packet => some ⟨if room then side.enqueue packet else side, .free⟩
  | .assign packet => some ⟨side.assign packet, .fill (.fresh packet)⟩
  | .dequeue =>
    match side.writeQueue with
    | [] => some ⟨side, .hold⟩
    | item :: rest =>
      some ⟨{ side.assign item.value with writeQueue := rest }, .fill (.queued item)⟩
  | .fill origin => some ⟨side.fill, .submit origin⟩
  | .submit origin =>
    if ret < 0 then some ⟨side, .free⟩ else some ⟨side.submitted origin, .mark⟩
  | .mark => some ⟨side.mark, .free⟩
  | .hold => some ⟨side.putOnHold, .free⟩

/-- One move. -/
def Writer.step (writer : Writer) : Move → Option Writer
  | .write packet =>
    match writer.holder with
    | .free => some { writer with holder := .test packet }
    | _ => none
  | .completed =>
    match writer.holder with
    | .free =>
      if 0 < writer.side.inFlight then some ⟨writer.side.land, .dequeue⟩ else none
    | _ => none
  | .proceed room ret => statement room ret writer.side writer.holder
  | .clear => some { writer with side := writer.side.clearOne }
  | .failed status =>
    if 0 < writer.side.inFlight ∧ status ≠ .completed then
      some { writer with side := writer.side.land }
    else none

/-- The write side of a device just opened, with an empty write queue. -/
def Writer.opened (raw : Packet) : Writer := ⟨(Device.initial raw).writeSide.constructed raw, .free⟩

/-! ## The sections are the functions -/

/-- A statement of the holder is a step. -/
theorem steps_of_statement {room : Bool} {ret : Int} {side : WriteSide} {holder : Holder}
    {next : Writer} (executed : statement room ret side holder = some next) :
    Steps Writer.step ⟨side, holder⟩ (.proceed room ret) next := executed

/-- A submission the library refuses releases the mutex. -/
theorem statement_submit_refused (room : Bool) {ret : Int} (side : WriteSide) (origin : Origin)
    (failed : ret < 0) : statement room ret side (.submit origin) = some ⟨side, .free⟩ :=
  if_pos failed

/-- A submission the library takes. -/
theorem statement_submit_taken (room : Bool) {ret : Int} (side : WriteSide) (origin : Origin)
    (succeeds : ¬ ret < 0) :
    statement room ret side (.submit origin) = some ⟨side.submitted origin, .mark⟩ :=
  if_neg succeeds

/-- Undisturbed, the statements of `write()` are what `write()` does. -/
theorem statements_write (side : WriteSide) (packet : Packet) (room : Bool) (ret : Int) :
    ∃ count, Run (Steps Writer.step) ⟨side, .test packet⟩
      (List.replicate count (.proceed room ret))
      ⟨after (writeLocked packet room ret side), .free⟩ := by
  unfold writeLocked submitWrite
  rw [bind_apply, get_apply]
  dsimp only
  cases busy : side.inProgress with
  | true =>
    have tested : statement room ret side (.test packet) = some ⟨side, .enqueue packet⟩ := by
      rw [statement, busy]
      rfl
    have done : statement room ret side (.enqueue packet) = some
        ⟨if room then side.enqueue packet else side, .free⟩ := rfl
    refine ⟨2, .cons (steps_of_statement tested) (.cons (steps_of_statement ?_) (.nil _))⟩
    rw [done]
    cases room <;> rfl
  | false =>
    have tested : statement room ret side (.test packet) = some ⟨side, .assign packet⟩ := by
      rw [statement, busy]
      rfl
    have assigned : statement room ret side (.assign packet) =
        some ⟨side.assign packet, .fill (.fresh packet)⟩ := rfl
    have filled : statement room ret (side.assign packet) (.fill (.fresh packet)) =
        some ⟨(side.assign packet).fill, .submit (.fresh packet)⟩ := rfl
    by_cases failed : ret < 0
    · have refused := statement_submit_refused room (side.assign packet).fill (.fresh packet) failed
      refine ⟨4, .cons (steps_of_statement tested) (.cons (steps_of_statement assigned)
        (.cons (steps_of_statement filled) (.cons (steps_of_statement ?_) (.nil _))))⟩
      rw [refused]
      simp [failed]
    · have taken := statement_submit_taken room (side.assign packet).fill (.fresh packet) failed
      refine ⟨5, .cons (steps_of_statement tested) (.cons (steps_of_statement assigned)
        (.cons (steps_of_statement filled) (.cons (steps_of_statement taken)
          (.cons (steps_of_statement ?_) (.nil _)))))⟩
      simp [statement, failed, WriteSide.submitted]

/-- Undisturbed, the statements of `write_cb` are what its completed branch does. -/
theorem statements_completed (side : WriteSide) (room : Bool) (ret : Int) :
    ∃ count, Run (Steps Writer.step) ⟨side, .dequeue⟩
      (List.replicate count (.proceed room ret))
      ⟨after (writeCompleted ret side), .free⟩ := by
  unfold writeCompleted submitWrite
  rw [bind_apply, get_apply]
  dsimp only
  cases queue : side.writeQueue with
  | nil =>
    have empty : statement room ret side .dequeue = some ⟨side, .hold⟩ := by
      rw [statement, queue]
    have held : statement room ret side .hold = some ⟨side.putOnHold, .free⟩ := rfl
    exact ⟨2, .cons (steps_of_statement empty) (.cons (steps_of_statement held) (.nil _))⟩
  | cons item rest =>
    have dequeued : statement room ret side .dequeue =
        some ⟨{ side.assign item.value with writeQueue := rest }, .fill (.queued item)⟩ := by
      rw [statement, queue]
    have filled : statement room ret { side.assign item.value with writeQueue := rest }
        (.fill (.queued item)) =
        some ⟨WriteSide.fill { side.assign item.value with writeQueue := rest },
          .submit (.queued item)⟩ := rfl
    by_cases failed : ret < 0
    · have refused := statement_submit_refused room
        (WriteSide.fill { side.assign item.value with writeQueue := rest }) (.queued item) failed
      refine ⟨3, .cons (steps_of_statement dequeued) (.cons (steps_of_statement filled)
        (.cons (steps_of_statement ?_) (.nil _)))⟩
      rw [refused]
      simp [failed]
    · have taken := statement_submit_taken room
        (WriteSide.fill { side.assign item.value with writeQueue := rest }) (.queued item) failed
      refine ⟨4, .cons (steps_of_statement dequeued) (.cons (steps_of_statement filled)
        (.cons (steps_of_statement taken) (.cons (steps_of_statement ?_) (.nil _))))⟩
      simp [statement, failed, WriteSide.submitted]

/-! ## The invariant -/

/-- While no transfer is in progress nothing is queued and nothing in flight; while one is, it is
in flight. -/
structure Settled (side : WriteSide) : Prop where
  /-- `in_progress()` is false. -/
  idle : side.inProgress = false → side.writeQueue = [] ∧ side.inFlight = 0
  /-- `in_progress()` is true. -/
  busy : side.inProgress = true → side.inFlight = 1

/-- What holds before a packet of this origin is submitted. -/
def Origin.Fits : Origin → WriteSide → Prop
  | fresh _, side => side.inProgress = false ∧ side.writeQueue = [] ∧ side.inFlight = 0
  | queued _, side => side.inProgress = true ∧ side.inFlight = 0

/-- What the holder of the mutex finds. -/
def Holder.Fits : Holder → WriteSide → Prop
  | free, side | test _, side => Settled side
  | enqueue _, side => side.inProgress = true ∧ side.inFlight = 1
  | assign packet, side => Origin.Fits (.fresh packet) side
  | dequeue, side => side.inProgress = true ∧ side.inFlight = 0
  | fill origin, side => origin.Fits side ∧ side.packet = origin.packet
  | submit origin, side =>
    origin.Fits side ∧ side.packet = origin.packet ∧ side.length = side.packet.size
  | mark, side => side.inFlight = 1
  | hold, side => side.inProgress = true ∧ side.writeQueue = [] ∧ side.inFlight = 0

/-- The packet dequeued and not submitted yet. -/
def Holder.hand : Holder → List (Base.Numbered Packet)
  | fill (.queued item) | submit (.queued item) => [item]
  | _ => []

/-- The holder prepares a submission, or finds that there is none to make. -/
def Holder.prepares : Holder → Bool
  | assign _ | dequeue | fill _ | submit _ | hold => true
  | free | test _ | enqueue _ | mark => false

/-- Nothing is in flight while a submission is prepared. -/
theorem Holder.Fits.none {holder : Holder} {side : WriteSide} (fits : holder.Fits side)
    (prepares : holder.prepares = true) : side.inFlight = 0 := by
  cases holder with
  | assign packet => exact fits.2.2
  | dequeue => exact fits.2
  | fill origin =>
    cases origin with
    | fresh packet => exact fits.1.2.2
    | queued item => exact fits.1.2
  | submit origin =>
    cases origin with
    | fresh packet => exact fits.1.2.2
    | queued item => exact fits.1.2
  | hold => exact fits.2.2
  | _ => contradiction

/-- One transfer is in flight at most. -/
theorem Settled.single {side : WriteSide} (settled : Settled side) : side.inFlight ≤ 1 := by
  cases busy : side.inProgress with
  | true => exact Nat.le_of_eq (settled.busy busy)
  | false =>
    rw [(settled.idle busy).2]
    exact Nat.zero_le 1

/-- So it is whatever the holder does. -/
theorem Holder.Fits.single {holder : Holder} {side : WriteSide} (fits : holder.Fits side) :
    side.inFlight ≤ 1 := by
  cases prepares : holder.prepares with
  | true =>
    rw [fits.none prepares]
    exact Nat.zero_le 1
  | false =>
    cases holder with
    | free => exact Settled.single fits
    | test packet => exact Settled.single fits
    | enqueue packet => exact Nat.le_of_eq fits.2
    | mark => exact Nat.le_of_eq fits
    | _ => contradiction

/-- What every move keeps until a transfer fails. -/
structure WriteSound (writer : Writer) : Prop where
  /-- The holder of the mutex and the transfer agree. -/
  fits : writer.holder.Fits writer.side
  /-- Every packet accepted was submitted in its turn, waits or was removed. -/
  balanced : writer.side.ledger.Balanced (writer.holder.hand ++ writer.side.writeQueue)
  /-- No packet accepted is refused. -/
  unrefused : writer.side.ledger.refused = []
  /-- The transfer in flight holds the packet submitted last, at its length. -/
  flying : 0 < writer.side.inFlight → ∃ item, writer.side.ledger.sent.getLast? = some item ∧
    writer.side.packet = item.value ∧ writer.side.length = writer.side.packet.size

/-- A move in which no transfer fails: none ends otherwise than completed, and the library takes
what `write_cb` submits. -/
def Untroubled (writer : Writer) : Move → Prop
  | .proceed _ ret =>
    match writer.holder with
    | .submit (.queued _) => 0 ≤ ret
    | _ => True
  | .failed _ => False
  | _ => True

namespace WriteSound

variable {writer next : Writer}

/-- Another thread takes a packet from the queue. -/
theorem clear (sound : WriteSound writer) :
    WriteSound { writer with side := writer.side.clearOne } := by
  obtain ⟨side, holder⟩ := writer
  cases queue : side.writeQueue with
  | nil =>
    have same : side.clearOne = side := by
      rw [WriteSide.clearOne, queue]
    dsimp only
    rw [same]
    exact sound
  | cons item rest =>
    have shorter : side.clearOne =
        { side with writeQueue := rest, ledger := side.ledger.remove item } := by
      rw [WriteSide.clearOne, queue]
    dsimp only
    rw [shorter]
    have balanced := sound.balanced
    have fits := sound.fits
    dsimp only at balanced fits
    rw [queue] at balanced
    -- where the holder relies on an empty queue there is nothing to take
    have filled : side.writeQueue ≠ [] := by
      rw [queue]
      exact List.cons_ne_nil _ _
    refine ⟨?_, balanced.remove, sound.unrefused, sound.flying⟩
    dsimp only
    cases holder with
    | free => exact ⟨fun idle => absurd (fits.idle idle).1 filled, fits.busy⟩
    | test packet => exact ⟨fun idle => absurd (fits.idle idle).1 filled, fits.busy⟩
    | enqueue packet => exact fits
    | assign packet => exact absurd fits.2.1 filled
    | dequeue => exact fits
    | fill origin =>
      cases origin with
      | fresh packet => exact absurd fits.1.2.1 filled
      | queued other => exact fits
    | submit origin =>
      cases origin with
      | fresh packet => exact absurd fits.1.2.1 filled
      | queued other => exact fits
    | mark => exact fits
    | hold => exact absurd fits.2.1 filled

/-- The packet in the transfer is submitted. -/
theorem launched {side : WriteSide} {origin : Origin}
    (sound : WriteSound ⟨side, .submit origin⟩) :
    WriteSound ⟨side.submitted origin, .mark⟩ := by
  obtain ⟨ready, packet, length⟩ := sound.fits
  have balanced := sound.balanced
  cases origin with
  | fresh accepted =>
    obtain ⟨-, empty, none⟩ := ready
    dsimp only [Holder.hand] at balanced
    rw [empty] at balanced
    refine ⟨?_, ?_, sound.unrefused, fun _ => ⟨side.ledger.next accepted, ?_, packet, length⟩⟩
    · show side.inFlight + 1 = 1
      rw [none]
    · show ((side.ledger.post accepted).send (side.ledger.next accepted)).Balanced
        ([] ++ side.writeQueue)
      rw [empty]
      exact (balanced.post accepted).send
    · exact List.getLast?_concat
  | queued item =>
    obtain ⟨-, none⟩ := ready
    refine ⟨?_, balanced.send, sound.unrefused, fun _ => ⟨item, ?_, packet, length⟩⟩
    · show side.inFlight + 1 = 1
      rw [none]
    · exact List.getLast?_concat

/-- The holder executes a statement in which nothing fails. -/
theorem statement {room : Bool} {ret : Int} (sound : WriteSound writer)
    (untroubled : Untroubled writer (.proceed room ret))
    (executed : Usb.statement room ret writer.side writer.holder = some next) :
    WriteSound next := by
  obtain ⟨side, holder⟩ := writer
  obtain ⟨fits, balanced, unrefused, flying⟩ := sound
  dsimp only at fits balanced unrefused flying executed
  cases holder with
  | free => contradiction
  | test packet =>
    cases executed
    cases busy : side.inProgress with
    | true => exact ⟨⟨busy, fits.busy busy⟩, balanced, unrefused, flying⟩
    | false => exact ⟨⟨busy, fits.idle busy⟩, balanced, unrefused, flying⟩
  | enqueue packet =>
    cases executed
    obtain ⟨busy, single⟩ := fits
    cases room with
    | false =>
      refine ⟨⟨fun idle => ?_, fun _ => single⟩, balanced, unrefused, flying⟩
      exact absurd (busy.symm.trans idle) (by decide)
    | true =>
      refine ⟨⟨fun idle => ?_, fun _ => single⟩, balanced.post packet, unrefused, flying⟩
      exact absurd (busy.symm.trans idle) (by decide)
  | assign packet =>
    cases executed
    refine ⟨⟨fits, rfl⟩, balanced, unrefused, fun some => ?_⟩
    exact absurd fits.2.2 (Nat.ne_of_gt some)
  | dequeue =>
    obtain ⟨busy, none⟩ := fits
    cases queue : side.writeQueue with
    | nil =>
      have empty : Usb.statement room ret side .dequeue = some ⟨side, .hold⟩ := by
        rw [Usb.statement, queue]
      rw [empty] at executed
      cases executed
      exact ⟨⟨busy, queue, none⟩, balanced, unrefused, flying⟩
    | cons item rest =>
      have dequeued : Usb.statement room ret side .dequeue =
          some ⟨{ side.assign item.value with writeQueue := rest }, .fill (.queued item)⟩ := by
        rw [Usb.statement, queue]
      rw [dequeued] at executed
      cases executed
      rw [queue] at balanced
      refine ⟨⟨⟨busy, none⟩, rfl⟩, balanced, unrefused, fun some => ?_⟩
      exact absurd none (Nat.ne_of_gt some)
  | fill origin =>
    cases executed
    have none := fits.none rfl
    obtain ⟨ready, packet⟩ := fits
    have hand : (Holder.submit origin).hand = (Holder.fill origin).hand := by
      cases origin <;> rfl
    refine ⟨⟨?_, packet, rfl⟩, ?_, unrefused, fun some => ?_⟩
    · cases origin <;> exact ready
    · dsimp only
      rw [hand]
      exact balanced
    · exact absurd none (Nat.ne_of_gt some)
  | submit origin =>
    by_cases failed : ret < 0
    · rw [statement_submit_refused room side origin failed] at executed
      cases executed
      cases origin with
      | fresh packet =>
        obtain ⟨⟨idle, empty, none⟩, -⟩ := fits
        refine ⟨⟨fun _ => ⟨empty, none⟩, fun busy => ?_⟩, balanced, unrefused, flying⟩
        exact absurd (idle.symm.trans busy) (by decide)
      | queued item => exact absurd failed (Int.not_lt.mpr untroubled)
    · rw [statement_submit_taken room side origin failed] at executed
      cases executed
      exact launched ⟨fits, balanced, unrefused, flying⟩
  | mark =>
    cases executed
    exact ⟨⟨fun absurdity => by contradiction, fun _ => fits⟩, balanced, unrefused, flying⟩
  | hold =>
    cases executed
    obtain ⟨-, empty, none⟩ := fits
    exact ⟨⟨fun _ => ⟨empty, none⟩, fun absurdity => by contradiction⟩, balanced, unrefused, flying⟩

/-- A move in which no transfer fails. -/
theorem step {move : Move} (sound : WriteSound writer) (untroubled : Untroubled writer move)
    (taken : writer.step move = some next) : WriteSound next := by
  cases move with
  | write packet =>
    obtain ⟨side, holder⟩ := writer
    cases holder with
    | free =>
      cases taken
      exact ⟨sound.fits, sound.balanced, sound.unrefused, sound.flying⟩
    | _ => contradiction
  | completed =>
    obtain ⟨side, holder⟩ := writer
    cases holder with
    | free =>
      obtain ⟨some, same⟩ := Option.ite_none_right_eq_some.mp taken
      cases same
      -- only a transfer in progress is in flight
      have busy : side.inProgress = true := by
        cases idle : side.inProgress with
        | true => rfl
        | false => exact absurd (sound.fits.idle idle).2 (Nat.ne_of_gt some)
      have none : side.land.inFlight = 0 := by
        rw [WriteSide.land, sound.fits.busy busy]
      refine ⟨⟨busy, none⟩, sound.balanced, sound.unrefused, fun again => ?_⟩
      exact absurd none (Nat.ne_of_gt again)
    | _ => contradiction
  | proceed room ret => exact sound.statement untroubled taken
  | clear =>
    cases taken
    exact sound.clear
  | failed status => contradiction

/-- A device just opened, with an empty write queue. -/
theorem opened (raw : Packet) : WriteSound (.opened raw) where
  fits := ⟨fun _ => ⟨rfl, rfl⟩, fun absurdity => by contradiction⟩
  balanced := .empty
  unrefused := rfl
  flying := fun absurdity => by contradiction

end WriteSound

/-! ## Every interleaving -/

/-- What the write path promises between any two moves. -/
structure WritesInOrder (writer : Writer) : Prop where
  /-- One transfer is in flight at most. -/
  single : writer.side.inFlight ≤ 1
  /-- It holds the packet submitted last, at its length. -/
  flying : 0 < writer.side.inFlight → ∃ item, writer.side.ledger.sent.getLast? = some item ∧
    writer.side.packet = item.value ∧ writer.side.length = writer.side.packet.size
  /-- Where `in_progress()` can be read, it tells whether a transfer is in flight, and is false
  only with an empty queue. -/
  settled : writer.holder = .free ∨ (∃ packet, writer.holder = .test packet) → Settled writer.side
  /-- Submitted, in hand or queued are, in the order accepted, the packets not removed. -/
  order : writer.side.ledger.sent ++ (writer.holder.hand ++ writer.side.writeQueue) =
    writer.side.ledger.posted.filter fun item => item ∉ writer.side.ledger.removed
  /-- No packet is submitted twice. -/
  once : writer.side.ledger.sent.Nodup

/-- The invariant is enough. -/
theorem WriteSound.inOrder {writer : Writer} (sound : WriteSound writer) :
    WritesInOrder writer where
  single := sound.fits.single
  flying := sound.flying
  settled := by
    obtain ⟨side, holder⟩ := writer
    rintro (free | ⟨packet, tests⟩)
    · cases free
      exact sound.fits
    · cases tests
      exact sound.fits
  order := by
    rw [sound.balanced.order, Ledger.kept, sound.unrefused]
    refine List.filter_congr fun item _ => ?_
    simp
  once := sound.balanced.sent_nodup

/-- No move touches the packet of a transfer in flight. -/
theorem WriteSound.untouched {writer next : Writer} {move : Move} (sound : WriteSound writer)
    (flying : 0 < writer.side.inFlight) (taken : writer.step move = some next) :
    next.side.packet = writer.side.packet ∧ next.side.length = writer.side.length := by
  obtain ⟨side, holder⟩ := writer
  have fits := sound.fits
  cases move with
  | write packet =>
    cases holder with
    | free =>
      cases taken
      exact ⟨rfl, rfl⟩
    | _ => contradiction
  | completed =>
    cases holder with
    | free =>
      obtain ⟨-, same⟩ := Option.ite_none_right_eq_some.mp taken
      cases same
      exact ⟨rfl, rfl⟩
    | _ => contradiction
  | clear =>
    cases taken
    unfold WriteSide.clearOne
    dsimp only
    split <;> exact ⟨rfl, rfl⟩
  | failed status =>
    obtain ⟨-, same⟩ := Option.ite_none_right_eq_some.mp taken
    cases same
    exact ⟨rfl, rfl⟩
  | proceed room ret =>
    -- the statements that touch the packet run with nothing in flight
    cases prepares : holder.prepares with
    | true => exact absurd (fits.none prepares) (Nat.ne_of_gt flying)
    | false =>
      cases holder with
      | free => contradiction
      | test packet =>
        cases taken
        exact ⟨rfl, rfl⟩
      | enqueue packet =>
        cases taken
        cases room <;> exact ⟨rfl, rfl⟩
      | mark =>
        cases taken
        exact ⟨rfl, rfl⟩
      | _ => contradiction

/-- In every interleaving of `write()` calls, write completions and dequeues by `clear_queues()`
from `open()` with an empty write queue, until a transfer fails: one transfer is in flight at most
and no move touches its packet, `in_progress()` tells whether it is in flight and is false only
with an empty queue, and the packets are submitted in the order accepted, each once, except those
that were removed. -/
theorem writes_inOrder (raw : Packet) (moves : List Move) (writer : Writer)
    (run : Run (Guarded Untroubled (Steps Writer.step)) (.opened raw) moves writer) :
    WritesInOrder writer ∧
      ∀ move next, writer.step move = some next → 0 < writer.side.inFlight →
        next.side.packet = writer.side.packet ∧ next.side.length = writer.side.length := by
  have sound : WriteSound writer :=
    run.invariant (fun state move next sound taken => sound.step taken.1 taken.2) (.opened raw)
  exact ⟨sound.inOrder, fun move next taken flying => sound.untouched flying taken⟩

/-- Two packets are written; the second waits until the first is sent. -/
theorem writes_inOrder_two :
    ∃ writer : Writer, WritesInOrder writer ∧ writer.holder = .free ∧
      writer.side.inProgress = true ∧
        writer.side.ledger.sent.map Base.Numbered.number = [0, 1] := by
  have run : Run (Guarded Untroubled (Steps Writer.step)) (.opened .cleared)
      [.write .cleared, .proceed true 0, .proceed true 0, .proceed true 0, .proceed true 0,
        .proceed true 0, .write .cleared, .proceed true 0, .proceed true 0, .completed,
        .proceed true 0, .proceed true 0, .proceed true 0, .proceed true 0] _ :=
    .cons ⟨trivial, rfl⟩ (.cons ⟨trivial, rfl⟩ (.cons ⟨trivial, rfl⟩ (.cons ⟨trivial, rfl⟩
      (.cons ⟨trivial, rfl⟩ (.cons ⟨trivial, rfl⟩ (.cons ⟨trivial, rfl⟩ (.cons ⟨trivial, rfl⟩
        (.cons ⟨trivial, rfl⟩ (.cons ⟨trivial, rfl⟩ (.cons ⟨trivial, rfl⟩ (.cons ⟨trivial, rfl⟩
          (.cons ⟨Int.le_refl 0, rfl⟩ (.cons ⟨trivial, rfl⟩ (.nil _))))))))))))))
  exact ⟨_, (writes_inOrder .cleared _ _ run).1, rfl, rfl, rfl⟩

end Hdcp.Usb
