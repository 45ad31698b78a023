import Hdcp.Transport.UsbDevice

/-!
# The two read transfers

A completion swaps the two pointers around the submission of the other transfer. While no such
submission fails they are the two transfers `open()` constructed, and `close()` deletes each once.
One that fails leaves both pointers at the same transfer: `close()` deletes it twice and the other
never.
-/

namespace Hdcp.Usb

open Base

/-! ## What the operations do to the read transfers -/

/-- The read transfers are the same. -/
structure SameReads (device next : Device) : Prop where
  /-- The device is open in both or closed in both. -/
  opened : next.opened = device.opened
  /-- The current transfer. -/
  curr : next.rtransferCurr = device.rtransferCurr
  /-- The previous transfer. -/
  prev : next.rtransferPrev = device.rtransferPrev
  /-- The transfers constructed. -/
  constructed : next.constructed = device.constructed
  /-- The transfers deleted. -/
  deleted : next.deleted = device.deleted
  /-- The transfers in flight. -/
  reading : next.reading = device.reading
  /-- Where `run()` is. -/
  thread : next.thread = device.thread

/-- Nothing happens. -/
theorem SameReads.refl (device : Device) : SameReads device device :=
  ⟨rfl, rfl, rfl, rfl, rfl, rfl, rfl⟩

/-- Code of the write side touches no read transfer. -/
theorem onWriteSide_sameReads (action : WriteAction) (device : Device) :
    SameReads device (after (onWriteSide action device)) := by
  rw [onWriteSide_apply]
  cases action device.writeSide with
  | ok value side => exact ⟨rfl, rfl, rfl, rfl, rfl, rfl, rfl⟩
  | error error side => exact ⟨rfl, rfl, rfl, rfl, rfl, rfl, rfl⟩

/-- A callback touches the read transfers as its body does. -/
theorem keepException_sameReads (body : Action) (device : Device) :
    SameReads (after (body device)) (after (keepException body device)) := by
  rw [keepException_after]
  cases body device with
  | ok value next => exact .refl next
  | error error next => exact ⟨rfl, rfl, rfl, rfl, rfl, rfl, rfl⟩

/-- `write()` touches no read transfer. -/
theorem write_sameReads (packet : Packet) (room : Bool) (ret : Int) (device : Device) :
    SameReads device (after (write packet room ret device)) := by
  unfold write
  rw [bind_apply, get_apply]
  dsimp only
  cases opened : device.opened with
  | false => exact .refl device
  | true => exact onWriteSide_sameReads _ device

/-- `write_cb` touches no read transfer. -/
theorem writeCbBody_sameReads (status : Status) (ret : Int) (device : Device) :
    SameReads device (after (writeCbBody status ret device)) := by
  cases status with
  | completed => exact onWriteSide_sameReads _ device
  | _ => exact .refl device

/-- The bytes received touch no read transfer. -/
theorem enqueueRead_sameReads (raw : Packet) (bytes : Bytes) (room : Bool) (device : Device) :
    SameReads device (after (enqueueRead raw bytes room device)) := by
  unfold enqueueRead
  cases Packet.ofView raw bytes with
  | error error => exact .refl device
  | ok packet =>
    cases room with
    | false => exact .refl device
    | true => exact ⟨rfl, rfl, rfl, rfl, rfl, rfl, rfl⟩

/-! ## The invariant -/

/-- The read transfers are as `open()` and `close()` expect. -/
structure Paired (device : Device) : Prop where
  /-- While the device is open the pointers are the two transfers `open()` constructed. -/
  pair : device.opened = true → ∃ first, device.constructed = first + 2 ∧
    (device.rtransferCurr = some first ∧ device.rtransferPrev = some (first + 1) ∨
      device.rtransferCurr = some (first + 1) ∧ device.rtransferPrev = some first)
  /-- The transfer in flight is the current one. -/
  current : ∀ transfer ∈ device.reading, device.rtransferCurr = some transfer
  /-- There is one at most. -/
  single : device.reading.length ≤ 1
  /-- Every other transfer was deleted exactly once. -/
  deleted : device.deleted.Perm
    (List.range (if device.opened then device.constructed - 2 else device.constructed))

/-- The two pointers of an open device differ. -/
theorem Paired.distinct {device : Device} (paired : Paired device) (opened : device.opened = true) :
    device.rtransferCurr ≠ device.rtransferPrev := by
  obtain ⟨first, -, ⟨curr, prev⟩ | ⟨curr, prev⟩⟩ := paired.pair opened
  · rw [curr, prev]
    exact fun same => absurd (Option.some.inj same) (by omega)
  · rw [curr, prev]
    exact fun same => absurd (Option.some.inj same) (by omega)

/-- What every step keeps that resubmits what it has to. -/
structure Sound (device : Device) : Prop where
  /-- The read transfers. -/
  paired : Paired device
  /-- A closed device has no current transfer. -/
  null : device.opened = false → device.rtransferCurr = none
  /-- Nothing is in flight on it. -/
  closed : device.opened = false → device.reading = []
  /-- Nothing is in flight before the first submission. -/
  quiet : device.thread = .absent ∨ device.thread = .starting → device.reading = []

/-- A step in which no callback fails to resubmit a read transfer. -/
def Resubmits : Event → Prop
  | .delivered (.read _ status _ _ ret) => status = .completed ∨ status = .timedOut → 0 ≤ ret
  | _ => True

/-- A callback that fails to resubmit is a completed or expired read. -/
theorem not_resubmits_iff (event : Event) :
    ¬ Resubmits event ↔ ∃ transfer status bytes room ret,
      event = .delivered (.read transfer status bytes room ret) ∧ ret < 0 ∧
        (status = .completed ∨ status = .timedOut) := by
  constructor
  · intro fails
    unfold Resubmits at fails
    split at fails
    · rw [Classical.not_imp, Int.not_le] at fails
      exact ⟨_, _, _, _, _, rfl, fails.2, fails.1⟩
    · exact absurd trivial fails
  · rintro ⟨transfer, status, bytes, room, ret, rfl, failed, reads⟩ resubmits
    exact absurd (resubmits reads) (Int.not_le.mpr failed)

variable {raw : Packet} {device next : Device}

/-- The invariant is about the read transfers alone. -/
theorem Sound.of_same (sound : Sound device) (same : SameReads device next) : Sound next := by
  obtain ⟨opened, curr, prev, constructed, deleted, reading, thread⟩ := same
  refine ⟨⟨?_, ?_, ?_, ?_⟩, ?_, ?_, ?_⟩
  · rw [opened, curr, prev, constructed]
    exact sound.paired.pair
  · rw [reading, curr]
    exact sound.paired.current
  · rw [reading]
    exact sound.paired.single
  · rw [deleted, opened, constructed]
    exact sound.paired.deleted
  · rw [opened, curr]
    exact sound.null
  · rw [opened, reading]
    exact sound.closed
  · rw [thread, reading]
    exact sound.quiet

/-- A transfer in flight is that of an open device, and the only one. -/
theorem Sound.in_flight (sound : Sound device) {transfer : Nat}
    (flying : transfer ∈ device.reading) :
    device.opened = true ∧ device.reading.erase transfer = [] := by
  constructor
  · cases opened : device.opened with
    | true => rfl
    | false =>
      rw [sound.closed opened] at flying
      contradiction
  · have single := sound.paired.single
    cases reading : device.reading with
    | nil => rfl
    | cons first rest =>
      rw [reading] at flying single
      have alone : rest = [] := List.eq_nil_of_length_eq_zero (by
        rw [List.length_cons] at single
        omega)
      rw [alone, List.mem_singleton] at flying
      rw [alone, flying, List.erase_cons_head]

/-- The library takes a transfer back. -/
theorem Sound.landed (sound : Sound device) (transfer : Nat)
    (flying : transfer ∈ device.reading) :
    Sound (device.landRead transfer) := by
  obtain ⟨-, none⟩ := sound.in_flight flying
  rw [Device.landRead, none]
  refine ⟨⟨sound.paired.pair, ?_, Nat.zero_le _, sound.paired.deleted⟩, sound.null, fun _ => rfl,
    fun _ => rfl⟩
  intro transfer inside
  contradiction

/-- The two transfers are swapped. -/
theorem Sound.swapped (sound : Sound device) (opened : device.opened = true)
    (none : device.reading = []) (handling : device.thread = .handling) :
    Sound device.swapped := by
  obtain ⟨first, constructed, pair⟩ := sound.paired.pair opened
  refine ⟨⟨?_, ?_, ?_, sound.paired.deleted⟩, ?_, ?_, ?_⟩
  · intro _
    refine ⟨first, constructed, ?_⟩
    rcases pair with ⟨curr, prev⟩ | ⟨curr, prev⟩
    · exact .inr ⟨prev, curr⟩
    · exact .inl ⟨prev, curr⟩
  · intro transfer inside
    rw [Device.swapped, none, List.nil_append, Option.mem_toList] at inside
    exact inside
  · rw [Device.swapped, none, List.nil_append]
    exact Option.length_toList_le
  · intro closed
    exact absurd (opened.symm.trans closed) (by decide)
  · intro closed
    exact absurd (opened.symm.trans closed) (by decide)
  · intro early
    have same : device.swapped.thread = device.thread := rfl
    rw [same, handling] at early
    rcases early with early | early <;> contradiction

/-- The device is shut, its transfers deleted. -/
theorem Sound.shut (sound : Sound device) : Sound device.shut := by
  unfold Device.shut
  cases opened : device.opened with
  | false => exact sound
  | true =>
    obtain ⟨first, constructed, pair⟩ := sound.paired.pair opened
    have before := sound.paired.deleted
    rw [opened, if_pos rfl, constructed, Nat.add_sub_cancel] at before
    rw [if_pos rfl]
    refine ⟨⟨fun absurdity => by contradiction, fun _ inside => by contradiction,
      Nat.zero_le _, ?_⟩, fun _ => rfl, fun _ => rfl, fun _ => rfl⟩
    dsimp only
    rw [if_neg (by decide), constructed, List.range_succ, List.range_succ, List.append_assoc,
      List.append_assoc]
    -- the two are deleted in one order or the other
    refine before.append ?_
    rcases pair with ⟨curr, prev⟩ | ⟨curr, prev⟩
    · rw [curr, prev]
      exact .refl _
    · rw [curr, prev]
      exact .swap _ _ _

/-- Where `run()` is behind its first submission does not matter. -/
theorem Sound.moved (sound : Sound device) (thread : Thread)
    (late : thread = .handling ∨ thread = .leaving ∨ device.reading = [])
    (same : SameReads { device with thread := thread } next) : Sound next := by
  have placed : Sound { device with thread := thread } := ?_
  · exact placed.of_same same
  refine ⟨⟨sound.paired.pair, sound.paired.current, sound.paired.single, sound.paired.deleted⟩,
    sound.null, sound.closed, ?_⟩
  intro early
  rcases late with rfl | rfl | none
  · rcases early with early | early <;> contradiction
  · rcases early with early | early <;> contradiction
  · exact none

/-- The head of the loop. -/
theorem Sound.loop (sound : Sound device) : Sound device.loop := by
  unfold Device.loop
  cases device.running with
  | true => exact sound.moved .handling (.inl rfl) ⟨rfl, rfl, rfl, rfl, rfl, rfl, rfl⟩
  | false => exact sound.moved .leaving (.inr (.inl rfl)) ⟨rfl, rfl, rfl, rfl, rfl, rfl, rfl⟩

/-- The end of a call of `libusb_handle_events`. -/
theorem Sound.returned (sound : Sound device) : Sound device.returned := by
  unfold Device.returned
  split
  · exact sound.loop
  · exact sound.loop
  · exact sound.loop
  · exact sound.moved .leaving (.inr (.inl rfl)) ⟨rfl, rfl, rfl, rfl, rfl, rfl, rfl⟩
  · exact sound.moved .leaving (.inr (.inl rfl)) ⟨rfl, rfl, rfl, rfl, rfl, rfl, rfl⟩

/-- The first submission of `run()`. -/
theorem Sound.begin (sound : Sound device) (starting : device.thread = .starting)
    (present : device.rtransferCurr.isSome) (ret : Int) : Sound (device.begin ret) := by
  have none := sound.quiet (.inr starting)
  unfold Device.begin submitRead
  by_cases failed : ret < 0
  · have refused : Sound { device with errc := some (.transport .other), thread := .absent } :=
      sound.moved .absent (.inr (.inr none)) ⟨rfl, rfl, rfl, rfl, rfl, rfl, rfl⟩
    simpa [failed] using refused
  · have flying : Sound { device with
        reading := device.rtransferCurr.toList, running := true, thread := .handling } := by
      refine ⟨⟨sound.paired.pair, ?_, Option.length_toList_le, sound.paired.deleted⟩, sound.null,
        ?_, ?_⟩
      · exact fun transfer inside => Option.mem_toList.mp inside
      · intro closed
        rw [sound.null closed] at present
        contradiction
      · intro early
        rcases early with early | early <;> contradiction
    simpa [failed, none, Device.loop] using flying.loop

/-! ## Callbacks -/

/-- The body of `read_cb` keeps the pair when the submission it makes, if any, succeeds. -/
theorem Sound.readCb (sound : Sound device) (opened : device.opened = true)
    (none : device.reading = []) (handling : device.thread = .handling) (status : Status)
    (bytes : Bytes) (room : Bool) (ret : Int)
    (resubmits : status = .completed ∨ status = .timedOut → 0 ≤ ret) :
    Sound (after (readCbBody raw status bytes room ret device)) := by
  have swapped := sound.swapped opened none handling
  cases status with
  | completed =>
    have succeeds := Int.not_lt.mpr (resubmits (.inl rfl))
    unfold readCbBody
    dsimp only
    rw [bind_apply, resubmit_apply, if_neg succeeds]
    exact swapped.of_same (enqueueRead_sameReads raw bytes room _)
  | timedOut =>
    have succeeds := Int.not_lt.mpr (resubmits (.inr rfl))
    unfold readCbBody
    dsimp only
    rw [resubmit_apply, if_neg succeeds]
    exact swapped
  | _ => exact sound

/-- A callback in which no resubmission fails. -/
theorem Sound.deliver (sound : Sound device) (callback : Callback)
    (delivered : deliver raw device callback = some next)
    (resubmits : Resubmits (.delivered callback)) : Sound next := by
  cases callback with
  | read transfer status bytes room ret =>
    obtain ⟨handling, flying, rfl⟩ := (deliver_read_iff _ _ _ _ _ _ _ _).mp delivered
    obtain ⟨opened, none⟩ := sound.in_flight flying
    have landed := sound.landed transfer flying
    exact (landed.readCb opened none handling status bytes room ret resubmits).of_same
      (keepException_sameReads _ _)
  | write status ret =>
    obtain ⟨-, -, rfl⟩ := (deliver_write_iff _ _ _ _ _).mp delivered
    have landed : Sound device.landWrite := sound.of_same ⟨rfl, rfl, rfl, rfl, rfl, rfl, rfl⟩
    have body := landed.of_same (writeCbBody_sameReads status ret _)
    exact body.of_same (keepException_sameReads _ _)

/-- A callback whose resubmission fails leaves both pointers at one transfer. -/
theorem Sound.unpaired (sound : Sound device) (transfer : Nat) (status : Status) (bytes : Bytes)
    (room : Bool) (ret : Int)
    (delivered : Usb.deliver raw device (.read transfer status bytes room ret) = some next)
    (fails : ¬ Resubmits (.delivered (.read transfer status bytes room ret))) :
    ¬ Paired next := by
  obtain ⟨handling, flying, rfl⟩ := (deliver_read_iff _ _ _ _ _ _ _ _).mp delivered
  obtain ⟨opened, -⟩ := sound.in_flight flying
  obtain ⟨_, _, _, _, _, same, refused, reads⟩ := (not_resubmits_iff _).mp fails
  cases same
  -- what both branches of the callback leave
  have halved : ∀ state : Device, readCbBody raw status bytes room ret state =
      .error (libusbError ret) { state with rtransferCurr := state.rtransferPrev } := by
    intro state
    unfold readCbBody
    rcases reads with rfl | rfl
    · dsimp only
      rw [bind_apply, resubmit_apply, if_pos refused]
    · dsimp only
      rw [resubmit_apply, if_pos refused]
  rw [keepException_after, halved]
  exact fun paired => paired.distinct opened rfl

/-! ## Runs -/

/-- A step in which no resubmission fails keeps the invariant. -/
theorem Sound.step (sound : Sound device) (event : Event) (resubmits : Resubmits event)
    (taken : Usb.step raw device event = some next) : Sound next := by
  cases event with
  | opened refusal =>
    cases taken
    unfold openDevice
    rw [bind_apply, get_apply]
    dsimp only
    cases opened : device.opened with
    | true => exact sound
    | false =>
      cases refusal with
      | some ret => exact sound
      | none =>
        have none := sound.closed opened
        have deleted := sound.paired.deleted
        rw [opened, if_neg (by decide)] at deleted
        refine ⟨⟨fun _ => ⟨device.constructed, rfl, .inl ⟨rfl, rfl⟩⟩, ?_, ?_, deleted⟩, ?_, ?_, ?_⟩
        · show ∀ transfer ∈ device.reading, _
          rw [none]
          exact fun transfer inside => by contradiction
        · exact sound.paired.single
        · exact fun absurdity => by contradiction
        · exact fun absurdity => by contradiction
        · exact fun _ => none
  | started =>
    obtain ⟨⟨absent, -⟩, same⟩ := Option.ite_none_right_eq_some.mp taken
    cases same
    exact sound.moved .starting (.inr (.inr (sound.quiet (.inl absent))))
      ⟨rfl, rfl, rfl, rfl, rfl, rfl, rfl⟩
  | begun ret =>
    obtain ⟨⟨starting, present⟩, same⟩ := Option.ite_none_right_eq_some.mp taken
    cases same
    exact sound.begin starting present ret
  | delivered callback => exact sound.deliver callback taken resubmits
  | returned =>
    obtain ⟨-, same⟩ := Option.ite_none_right_eq_some.mp taken
    cases same
    exact sound.returned
  | left ret =>
    obtain ⟨-, same⟩ := Option.ite_none_right_eq_some.mp taken
    cases same
    have none : device.shut.reading = [] := by
      cases opened : device.opened with
      | false =>
        rw [Device.shut, if_neg (by rw [opened]; decide)]
        exact sound.closed opened
      | true => rw [Device.shut, if_pos opened]
    obtain ⟨errc, left⟩ := leave_eq ret device
    rw [left]
    exact sound.shut.moved .absent (.inr (.inr none)) ⟨rfl, rfl, rfl, rfl, rfl, rfl, rfl⟩
  | stopped =>
    cases taken
    exact sound.of_same ⟨rfl, rfl, rfl, rfl, rfl, rfl, rfl⟩
  | closed ret =>
    cases taken
    rw [close_after]
    exact sound.shut
  | written packet room ret =>
    cases taken
    exact sound.of_same (write_sameReads packet room ret device)
  | cleared =>
    cases taken
    exact sound.of_same ⟨rfl, rfl, rfl, rfl, rfl, rfl, rfl⟩

/-- A device as constructed. -/
theorem Sound.initial (raw : Packet) : Sound (.initial raw) where
  paired :=
    { pair := fun absurdity => by contradiction
      current := fun transfer inside => by contradiction
      single := Nat.zero_le _
      deleted := .refl _ }
  null := fun _ => rfl
  closed := fun _ => rfl
  quiet := fun _ => rfl

/-- In every run in which no callback fails to resubmit a read transfer, the two pointers of an
open device are the two transfers `open()` constructed, the one in flight is the current one, and
every earlier transfer was deleted exactly once; the first callback that fails to resubmit ends
this. -/
theorem transfers_paired (raw : Packet) (events : List Event) (device : Device)
    (run : Run (Guarded (fun _ event => Resubmits event) (Steps (step raw))) (.initial raw) events
      device) :
    Paired device ∧
      ∀ event next, step raw device event = some next → (Paired next ↔ Resubmits event) := by
  have sound : Sound device :=
    run.invariant (fun state event next sound taken => sound.step event taken.1 taken.2)
      (.initial raw)
  refine ⟨sound.paired, ?_⟩
  intro event next taken
  constructor
  · intro paired
    by_contra fails
    obtain ⟨transfer, status, bytes, room, ret, rfl, -, -⟩ := (not_resubmits_iff event).mp fails
    exact sound.unpaired transfer status bytes room ret taken fails paired
  · intro resubmits
    exact (sound.step event resubmits taken).paired

/-- A read times out and is submitted again; the device is stopped and its transfers deleted. -/
theorem transfers_paired_stopped :
    ∃ device : Device, Paired device ∧ device.opened = false ∧ device.deleted = [1, 0] := by
  have run : Run (Guarded (fun _ event => Resubmits event) (Steps (step .cleared)))
      (.initial .cleared)
      [.opened none, .started, .begun 0, .delivered (.read 0 .timedOut [] true 0), .stopped,
        .returned, .left 0] _ :=
    .cons ⟨trivial, rfl⟩ (.cons ⟨trivial, rfl⟩ (.cons ⟨trivial, rfl⟩
      (.cons ⟨fun _ => by decide, rfl⟩
      (.cons ⟨trivial, rfl⟩ (.cons ⟨trivial, rfl⟩ (.cons ⟨trivial, rfl⟩ (.nil _)))))))
  exact ⟨_, (transfers_paired .cleared _ _ run).1, rfl, rfl⟩

/-- The device is unplugged while a packet is received: both pointers are left at the second
transfer, which `close()` deletes twice, and the first is never deleted. -/
theorem transfer_deletedTwice :
    ∃ halved device : Device,
      Run (Steps (step .cleared)) (.initial .cleared)
        [.opened none, .started, .begun 0, .delivered (.read 0 .completed [] true (-4))] halved ∧
      halved.opened = true ∧ ¬ Paired halved ∧ halved.rtransferCurr = some 1 ∧
      halved.rtransferPrev = some 1 ∧
      Run (Steps (step .cleared)) halved [.returned, .left 0] device ∧
      device.opened = false ∧ device.constructed = 2 ∧ device.deleted = [1, 1] := by
  have run : Run (Steps (step .cleared)) (.initial .cleared)
      [.opened none, .started, .begun 0, .delivered (.read 0 .completed [] true (-4))] _ :=
    .cons rfl (.cons rfl (.cons rfl (.cons rfl (.nil _))))
  exact ⟨_, _, run, rfl, fun paired => paired.distinct rfl rfl, rfl, rfl,
    .cons rfl (.cons rfl (.nil _)), rfl, rfl, rfl⟩

end Hdcp.Usb
