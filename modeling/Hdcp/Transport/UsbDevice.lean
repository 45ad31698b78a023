import Hdcp.Base.Ledger
import Hdcp.Base.Runs
import Hdcp.Base.Stateful
import Hdcp.Packet.Format

/-!
# The USB transport

The device reads with two transfers in turn, one in flight while the other's packet is queued, and
writes with a third. Completions are delivered as callbacks inside `libusb_handle_events`, which
the loop of `run()` calls; an exception of a callback is kept in `eptr_` until that call returns.
Each callback is one step here, as is each call of another thread; the library decides which
transfer completes, with which status, and what a submission returns. `fill_transfer` is given no
null pointer: its callers use the pointer before.
-/

namespace Hdcp.Usb

open Base

/-- `libusb_transfer_status`. -/
inductive Status where
  | completed
  | error
  | timedOut
  | cancelled
  | stall
  | noDevice
  | overflow
  /-- None of the above. -/
  | unknown
  deriving DecidableEq

/-- The value of a status that is reported as an error. -/
def Status.code : Status → Int
  | completed => 0
  | error => 1
  | timedOut => 2
  | cancelled => 3
  | stall => 4
  | noDevice => 5
  | overflow => 6
  | unknown => 7

/-- `libusb_error`. -/
def libusbError (code : Int) : Exn := .transport (.libusb code)

/-- `wtransfer_` and the queue it is fed from. -/
structure WriteSide where
  /-- `wtransfer_->packet()`. -/
  packet : Packet
  /-- The length `fill_transfer` gave the transfer. -/
  length : Nat
  /-- `wtransfer_->in_progress()`. -/
  inProgress : Bool
  /-- Submissions of the transfer whose `write_cb` has not begun. -/
  inFlight : Nat
  /-- `write_queue_`, oldest packet first. -/
  writeQueue : List (Base.Numbered Packet)
  /-- Bookkeeping: the packets `write()` accepted, submitted and removed by `clear_queues()`. -/
  ledger : Ledger Packet

/-- Code of the write side. -/
abbrev WriteAction := EStateM Exn WriteSide Unit

namespace WriteSide

/-- `new WTransfer()`; the packet holds whatever its memory held. -/
def constructed (side : WriteSide) (raw : Packet) : WriteSide :=
  { side with packet := raw, length := 0, inProgress := false, inFlight := 0 }

/-- `wtransfer_->packet() = p`. -/
def assign (side : WriteSide) (packet : Packet) : WriteSide := { side with packet := packet }

/-- `fill_transfer(wtransfer_)`. -/
def fill (side : WriteSide) : WriteSide := { side with length := side.packet.size }

/-- `in_progress_ = true`, the end of `WTransfer::submit`. -/
def mark (side : WriteSide) : WriteSide := { side with inProgress := true }

/-- `wtransfer_->put_on_hold()`. -/
def putOnHold (side : WriteSide) : WriteSide := { side with inProgress := false }

/-- A successful `write_queue_.try_enqueue(p)`: the packet is accepted. -/
def enqueue (side : WriteSide) (packet : Packet) : WriteSide :=
  { side with
    writeQueue := side.writeQueue ++ [side.ledger.next packet]
    ledger := side.ledger.post packet }

/-- A successful `libusb_submit_transfer(wtransfer_)`. -/
def launch (side : WriteSide) : WriteSide := { side with inFlight := side.inFlight + 1 }

/-- A submission of `wtransfer_` has completed, and `write_cb` begins. -/
def land (side : WriteSide) : WriteSide := { side with inFlight := side.inFlight - 1 }

/-- The packet just submitted is accepted by that. -/
def accept (side : WriteSide) (packet : Packet) : WriteSide :=
  { side with ledger := (side.ledger.post packet).send (side.ledger.next packet) }

/-- A packet of the queue was submitted. -/
def sendQueued (side : WriteSide) (item : Base.Numbered Packet) : WriteSide :=
  { side with ledger := side.ledger.send item }

/-- `write_queue_.try_dequeue(p)` of `clear_queues()`, which another thread runs. -/
def clearOne (side : WriteSide) : WriteSide :=
  match side.writeQueue with
  | [] => side
  | item :: rest => { side with writeQueue := rest, ledger := side.ledger.remove item }

end WriteSide

/-- `Transfer::submit` of `wtransfer_`, which returns `ret`. -/
def submitWrite (ret : Int) : WriteAction := do
  if ret < 0 then throw (libusbError ret)
  modify WriteSide.launch

/-- The part of `Device::write` under `mutex_wprogress_`. -/
def writeLocked (packet : Packet) (room : Bool) (ret : Int) : WriteAction := do
  if (← get).inProgress then
    if room then modify fun side => side.enqueue packet
    else throw (.transport (.transport .writeQueueFull))
  else
    modify fun side => side.assign packet
    modify WriteSide.fill
    submitWrite ret
    modify fun side => side.accept packet
    modify WriteSide.mark

/-- The part of `Device::write_cb` under `mutex_wprogress_`. -/
def writeCompleted (ret : Int) : WriteAction := do
  match (← get).writeQueue with
  | item :: rest =>
    modify fun side => { side.assign item.value with writeQueue := rest }
    modify WriteSide.fill
    submitWrite ret
    modify fun side => side.sendQueued item
    modify WriteSide.mark
  | [] => modify WriteSide.putOnHold

/-- Where the thread of `run()` is. -/
inductive Thread where
  /-- There is none. -/
  | absent
  /-- Before the first submission. -/
  | starting
  /-- In `libusb_handle_events`. -/
  | handling
  /-- Behind the loop, before `close()`. -/
  | leaving
  deriving DecidableEq

/-- `Device`. -/
structure Device where
  /-- `open_`. -/
  opened : Bool
  /-- `rtransfer_curr_`; read transfers are named in the order they are constructed. -/
  rtransferCurr : Option Nat
  /-- `rtransfer_prev_`. -/
  rtransferPrev : Option Nat
  /-- Read transfers constructed so far. -/
  constructed : Nat
  /-- Read transfers deleted so far, in order. -/
  deleted : List Nat
  /-- Read transfers in flight. -/
  reading : List Nat
  /-- `wtransfer_` and `write_queue_`. -/
  writeSide : WriteSide
  /-- The packets put in `read_queue_` so far, oldest first. -/
  readQueue : List Packet
  /-- `eptr_`. -/
  eptr : Option Exn
  /-- `errc_`. -/
  errc : Option ErrorCode
  /-- `is_running()`. -/
  running : Bool
  /-- The thread of `run()`. -/
  thread : Thread

/-- Code of the device: it may throw, and what it did before stays done. -/
abbrev Action := EStateM Exn Device Unit

/-- A device as constructed. -/
def Device.initial (raw : Packet) : Device where
  opened := false
  rtransferCurr := none
  rtransferPrev := none
  constructed := 0
  deleted := []
  reading := []
  writeSide := ⟨raw, 0, false, 0, [], .empty⟩
  readQueue := []
  eptr := none
  errc := none
  running := false
  thread := .absent

/-- Code of the write side, as code of the device. -/
def onWriteSide (action : WriteAction) : Action := fun device =>
  match action device.writeSide with
  | .ok value side => .ok value { device with writeSide := side }
  | .error error side => .error error { device with writeSide := side }

/-- `Device::open`; the library may refuse before any transfer is constructed. -/
def openDevice (raw : Packet) (refusal : Option Int) : Action := do
  if (← get).opened then return
  match refusal with
  | some ret => throw (libusbError ret)
  | none =>
    modify fun device =>
      { device with
        writeSide := device.writeSide.constructed raw
        rtransferCurr := some device.constructed
        rtransferPrev := some (device.constructed + 1)
        constructed := device.constructed + 2
        opened := true }

/-- `Device::close`; releasing the interface returns `ret`. Nothing is in flight on a handle that
was closed. -/
def close (ret : Int) : Action := do
  if !(← get).opened then return
  modify fun device =>
    { device with
      deleted := device.deleted ++ device.rtransferCurr.toList ++ device.rtransferPrev.toList
      rtransferCurr := none
      rtransferPrev := none
      reading := []
      writeSide := { device.writeSide with inFlight := 0 }
      opened := false }
  if ret < 0 then throw (libusbError ret)

/-- `Device::write`. -/
def write (packet : Packet) (room : Bool) (ret : Int) : Action := do
  if !(← get).opened then throw (.transport (.transport .writeWhileClosed))
  onWriteSide (writeLocked packet room ret)

/-- `Transfer::submit` of a read transfer, which returns `ret`. -/
def submitRead (transfer : Option Nat) (ret : Int) : Action := do
  if ret < 0 then throw (libusbError ret)
  modify fun device => { device with reading := device.reading ++ transfer.toList }

/-- The swap of the two read transfers, with the submission in its middle. -/
def resubmit (ret : Int) : Action := do
  let tmp := (← get).rtransferCurr
  modify fun device => { device with rtransferCurr := device.rtransferPrev }
  submitRead (← get).rtransferCurr ret
  modify fun device => { device with rtransferPrev := tmp }

/-- `read_queue_.try_enqueue` of the bytes received, which a packet is constructed from first; a
full queue drops it. -/
def enqueueRead (raw : Packet) (bytes : Bytes) (room : Bool) : Action := do
  match Packet.ofView raw bytes with
  | .error error => throw (.packet error)
  | .ok packet =>
    if room then modify fun device => { device with readQueue := device.readQueue ++ [packet] }

/-- The body of `Device::write_cb`. -/
def writeCbBody (status : Status) (ret : Int) : Action :=
  match status with
  | .completed => onWriteSide (writeCompleted ret)
  | .cancelled | .unknown => pure ()
  | .timedOut | .stall | .noDevice | .overflow | .error => throw (libusbError status.code)

/-- The body of `Device::read_cb`. -/
def readCbBody (raw : Packet) (status : Status) (bytes : Bytes) (room : Bool) (ret : Int) :
    Action := do
  match status with
  | .completed =>
    resubmit ret
    enqueueRead raw bytes room
  | .cancelled | .unknown => pure ()
  | .timedOut => resubmit ret
  | .noDevice | .stall | .overflow | .error => throw (libusbError status.code)

/-- The handler both callbacks end with: `eptr_ = std::current_exception()`. -/
def keepException (body : Action) : Action := do
  try body
  catch error => modify fun device => { device with eptr := some error }

/-- A callback of the library. -/
inductive Callback where
  /-- `read_cb` of a transfer: its status, the bytes it received, whether the read queue has room,
  what the next submission returns. -/
  | read (transfer : Nat) (status : Status) (bytes : Bytes) (room : Bool) (ret : Int)
  /-- `write_cb`: the status of the transfer, what the next submission returns. -/
  | write (status : Status) (ret : Int)

/-- A read transfer is no longer in flight. -/
def Device.landRead (device : Device) (transfer : Nat) : Device :=
  { device with reading := device.reading.erase transfer }

/-- The write transfer is no longer in flight. -/
def Device.landWrite (device : Device) : Device :=
  { device with writeSide := device.writeSide.land }

/-- The library delivers a callback, of a transfer in flight. -/
def deliver (raw : Packet) (device : Device) : Callback → Option Device
  | .read transfer status bytes room ret =>
    if device.thread = .handling ∧ transfer ∈ device.reading then
      some (after (keepException (readCbBody raw status bytes room ret)
        (device.landRead transfer)))
    else none
  | .write status ret =>
    if device.thread = .handling ∧ 0 < device.writeSide.inFlight then
      some (after (keepException (writeCbBody status ret) device.landWrite))
    else none

namespace Device

/-- The head of the loop of `run()`: `is_running()`, then `eptr_ = nullptr`. -/
def loop (device : Device) : Device :=
  if device.running then { device with eptr := none, thread := .handling }
  else { device with thread := .leaving }

/-- The start of `run()`, whose submission returns `ret`: an exception ends the thread. -/
def begin (device : Device) (ret : Int) : Device :=
  match submitRead device.rtransferCurr ret device with
  | .ok _ submitted => loop { submitted with running := true }
  | .error _ refused => { refused with errc := some (.transport .other), thread := .absent }

/-- `run()` after `libusb_handle_events` returned: ill-formed packets and full queues are
harmless, anything else ends the loop. -/
def returned (device : Device) : Device :=
  match device.eptr with
  | none | some (.packet _) | some (.transport (.transport .readQueueFull)) => loop device
  | some (.transport (.transport errc)) =>
    { device with errc := some (.transport errc), thread := .leaving }
  | some _ => { device with errc := some (.transport .other), thread := .leaving }

/-- The end of `run()`: `close()`, whose exception is recorded. -/
def leave (device : Device) (ret : Int) : Device :=
  match close ret device with
  | .ok _ closed => { closed with thread := .absent }
  | .error _ closed => { closed with errc := some (.transport .other), thread := .absent }

end Device

/-- What happens to a device. -/
inductive Event where
  /-- `open()`, which the library may refuse. -/
  | opened (refusal : Option Int)
  /-- `start()` of an open device: a thread for `run()`. -/
  | started
  /-- `run()` begins; the first submission returns `ret`. -/
  | begun (ret : Int)
  /-- A callback is delivered. -/
  | delivered (callback : Callback)
  /-- `libusb_handle_events` returns. -/
  | returned
  /-- `run()` ends with `close()`. -/
  | left (ret : Int)
  /-- `stop()` clears `is_running()`. -/
  | stopped
  /-- `close()` is called from another thread. -/
  | closed (ret : Int)
  /-- `write()` is called; `room` tells whether the write queue has room, `ret` is what the
  submission returns. -/
  | written (packet : Packet) (room : Bool) (ret : Int)
  /-- `clear_queues()` takes one packet from the write queue. -/
  | cleared

/-- One event of the device. -/
def step (raw : Packet) (device : Device) : Event → Option Device
  | .opened refusal => some (after (openDevice raw refusal device))
  | .started =>
    if device.thread = .absent ∧ device.opened then some { device with thread := .starting }
    else none
  | .begun ret =>
    if device.thread = .starting ∧ device.rtransferCurr.isSome then some (device.begin ret)
    else none
  | .delivered callback => deliver raw device callback
  | .returned => if device.thread = .handling then some device.returned else none
  | .left ret => if device.thread = .leaving then some (device.leave ret) else none
  | .stopped => some { device with running := false }
  | .closed ret => some (after (close ret device))
  | .written packet room ret => some (after (write packet room ret device))
  | .cleared => some { device with writeSide := device.writeSide.clearOne }

/-- A `read_cb` is delivered of a transfer in flight. -/
theorem deliver_read_iff (raw : Packet) (device next : Device) (transfer : Nat) (status : Status)
    (bytes : Bytes) (room : Bool) (ret : Int) :
    deliver raw device (.read transfer status bytes room ret) = some next ↔
      device.thread = .handling ∧ transfer ∈ device.reading ∧
        next = after (keepException (readCbBody raw status bytes room ret)
          (device.landRead transfer)) := by
  rw [deliver, Option.ite_none_right_eq_some, Option.some.injEq, and_assoc, @eq_comm _ next]

/-- A `write_cb` is delivered while the write transfer is in flight. -/
theorem deliver_write_iff (raw : Packet) (device next : Device) (status : Status) (ret : Int) :
    deliver raw device (.write status ret) = some next ↔
      device.thread = .handling ∧ 0 < device.writeSide.inFlight ∧
        next = after (keepException (writeCbBody status ret) device.landWrite) := by
  rw [deliver, Option.ite_none_right_eq_some, Option.some.injEq, and_assoc, @eq_comm _ next]

/-- Code of the write side changes that side, whether it returns or throws. -/
theorem onWriteSide_apply (action : WriteAction) (device : Device) :
    onWriteSide action device =
      match action device.writeSide with
      | .ok value side => .ok value { device with writeSide := side }
      | .error error side => .error error { device with writeSide := side } := rfl

/-- Keeping the exception of a callback touches nothing else. -/
theorem keepException_after (body : Action) (device : Device) :
    after (keepException body device) =
      match body device with
      | .ok _ next => next
      | .error error next => { next with eptr := some error } := by
  unfold keepException
  rw [tryCatch_apply]
  cases body device <;> rfl

/-- The device with the two transfers swapped and the new current one in flight. -/
def Device.swapped (device : Device) : Device :=
  { device with
    rtransferCurr := device.rtransferPrev
    rtransferPrev := device.rtransferCurr
    reading := device.reading ++ device.rtransferPrev.toList }

/-- The swap, or half of it when the submission fails. -/
theorem resubmit_apply (ret : Int) (device : Device) :
    resubmit ret device =
      if ret < 0 then
        .error (libusbError ret) { device with rtransferCurr := device.rtransferPrev }
      else .ok () device.swapped := by
  unfold resubmit submitRead
  by_cases failed : ret < 0
  · rw [if_pos failed]
    simp [failed]
  · rw [if_neg failed]
    simp [failed, Device.swapped]

/-- The device after `close()`. -/
def Device.shut (device : Device) : Device :=
  if device.opened then
    { device with
      deleted := device.deleted ++ device.rtransferCurr.toList ++ device.rtransferPrev.toList
      rtransferCurr := none
      rtransferPrev := none
      reading := []
      writeSide := { device.writeSide with inFlight := 0 }
      opened := false }
  else device

/-- `close()` shuts the device whether it throws or not. -/
theorem close_after (ret : Int) (device : Device) : after (close ret device) = device.shut := by
  unfold close Device.shut
  rw [bind_apply, get_apply]
  dsimp only
  cases device.opened with
  | false => rfl
  | true =>
    by_cases failed : ret < 0
    · simp [failed]
    · simp [failed]

/-- `run()` ends with a shut device and no thread. -/
theorem leave_eq (ret : Int) (device : Device) :
    ∃ errc, device.leave ret = { device.shut with errc := errc, thread := .absent } := by
  rw [← close_after ret device]
  unfold Device.leave
  cases close ret device with
  | ok value closed => exact ⟨closed.errc, rfl⟩
  | error error closed => exact ⟨_, rfl⟩

/-- A device that was shut is closed. -/
theorem opened_shut (device : Device) : device.shut.opened = false := by
  unfold Device.shut
  cases opened : device.opened with
  | false =>
    rw [if_neg (by decide)]
    exact opened
  | true => rfl

end Hdcp.Usb
