import Hdcp.Transport.UsbDevice

/-!
# Which error of a batch is kept

The callbacks of one call of `libusb_handle_events` share `eptr_`, and the loop of `run()` sees
the last exception alone. A fatal one ends the loop unless an ill-formed packet is received after
it in the same call: its exception replaces the fatal one, and is discarded.
-/

namespace Hdcp.Usb

open Base

/-- The statuses `read_cb` throws for. -/
def Status.failsRead : Status → Bool
  | noDevice | stall | overflow | error => true
  | completed | cancelled | timedOut | unknown => false

/-- The statuses `write_cb` throws for. -/
def Status.failsWrite : Status → Bool
  | timedOut | stall | noDevice | overflow | error => true
  | completed | cancelled | unknown => false

/-- A callback ends with a `libusb_error`: its transfer failed, or the submission it makes. -/
def Fatal (device : Device) : Event → Prop
  | .delivered (.read _ status _ _ ret) =>
    status.failsRead = true ∨ (status = .completed ∨ status = .timedOut) ∧ ret < 0
  | .delivered (.write status ret) =>
    status.failsWrite = true ∨
      status = .completed ∧ device.writeSide.writeQueue ≠ [] ∧ ret < 0
  | _ => False

/-- A callback receives an ill-formed packet, its transfer being submitted again. -/
def Malformed (raw : Packet) : Event → Prop
  | .delivered (.read _ .completed bytes _ ret) =>
    0 ≤ ret ∧ ∃ error, Packet.ofView raw bytes = .error error
  | _ => False

/-- Some callback of these events is fatal. -/
def Fails (raw : Packet) (device : Device) (events : List Event) : Prop :=
  ∃ front event back middle, events = front ++ event :: back ∧
    Run (Steps (step raw)) device front middle ∧ Fatal middle event

/-- Behind the last fatal callback an ill-formed packet is received. -/
def Overwritten (raw : Packet) (device : Device) (events : List Event) (last : Device) : Prop :=
  ∃ front event back before next, events = front ++ event :: back ∧
    Run (Steps (step raw)) device front before ∧ Fatal before event ∧
      step raw before event = some next ∧
        Run (Guarded (fun state other => ¬ Fatal state other) (Steps (step raw))) next back last ∧
          ∃ other ∈ back, Malformed raw other

/-- At the end of the call `run()` records an error, whatever `errc_` held, leaves its loop and
closes the device. -/
structure Records (device : Device) : Prop where
  /-- The error. -/
  errc : ∀ errc, ({ device with errc := errc }).returned.errc = some (.transport .other)
  /-- The end of the loop. -/
  leaves : device.returned.thread = .leaving
  /-- The end of `run()`. -/
  closes : ∀ ret, (device.returned.leave ret).opened = false ∧
    (device.returned.leave ret).thread = .absent

variable {raw : Packet} {device next : Device}

/-! ## What a step does to the exception kept -/

/-- What `eptr_` holds behind a step of the call, and the step it is the exception of. -/
inductive Keeping (raw : Packet) (device : Device) (event : Event) (next : Device) : Prop where
  /-- A fatal callback's exception. -/
  | fatal (failed : Fatal device event) (code : Int) (kept : next.eptr = some (libusbError code))
  /-- That of an ill-formed packet. -/
  | malformed (unfailed : ¬ Fatal device event) (received : Malformed raw event)
      (error : PacketError) (kept : next.eptr = some (.packet error))
  /-- What it held before. -/
  | same (unfailed : ¬ Fatal device event) (wellFormed : ¬ Malformed raw event)
      (kept : next.eptr = device.eptr)

/-- The body of a callback throws what is kept. -/
theorem kept_of_throws {body : Action} {error : Exn} {thrown : Device}
    (throws : body device = .error error thrown) :
    (after (keepException body device)).eptr = some error := by
  rw [keepException_after, throws]

/-- The body of a callback returns. -/
theorem kept_of_returns {body : Action} {value : Unit} {returned : Device}
    (returns : body device = .ok value returned) :
    (after (keepException body device)).eptr = returned.eptr := by
  rw [keepException_after, returns]

/-- `read_cb`. -/
theorem readCb_keeping (transfer : Nat) (status : Status) (bytes : Bytes) (room : Bool)
    (ret : Int) :
    Keeping raw device (.delivered (.read transfer status bytes room ret))
      (after (keepException (readCbBody raw status bytes room ret)
        (device.landRead transfer))) := by
  -- a submission that fails, in both branches that make one
  have refused (reads : status = .completed ∨ status = .timedOut) (failed : ret < 0) :
      readCbBody raw status bytes room ret (device.landRead transfer) =
        .error (libusbError ret) { device.landRead transfer with
          rtransferCurr := device.rtransferPrev } := by
    unfold readCbBody
    rcases reads with rfl | rfl
    · dsimp only
      rw [bind_apply, resubmit_apply, if_pos failed]
      rfl
    · dsimp only
      rw [resubmit_apply, if_pos failed]
      rfl
  cases status with
  | completed =>
    by_cases failed : ret < 0
    · exact .fatal (.inr ⟨.inl rfl, failed⟩) ret (kept_of_throws (refused (.inl rfl) failed))
    · have unfailed : ¬ Fatal device (.delivered (.read transfer .completed bytes room ret)) := by
        rintro (absurdity | ⟨-, absurdity⟩)
        · contradiction
        · exact failed absurdity
      cases parsed : Packet.ofView raw bytes with
      | error error =>
        have body : readCbBody raw .completed bytes room ret (device.landRead transfer) =
            .error (.packet error) (device.landRead transfer).swapped := by
          unfold readCbBody enqueueRead
          dsimp only
          rw [bind_apply, resubmit_apply, if_neg failed, parsed]
          rfl
        exact .malformed unfailed ⟨Int.not_lt.mp failed, error, parsed⟩ error (kept_of_throws body)
      | ok packet =>
        refine .same unfailed ?_ ?_
        · rintro ⟨-, error, absurdity⟩
          rw [parsed] at absurdity
          contradiction
        · rw [keepException_after]
          unfold readCbBody enqueueRead
          dsimp only
          rw [bind_apply, resubmit_apply, if_neg failed, parsed]
          cases room <;> rfl
  | timedOut =>
    by_cases failed : ret < 0
    · exact .fatal (.inr ⟨.inr rfl, failed⟩) ret (kept_of_throws (refused (.inr rfl) failed))
    · refine .same ?_ id ?_
      · rintro (absurdity | ⟨-, absurdity⟩)
        · contradiction
        · exact failed absurdity
      · rw [keepException_after]
        unfold readCbBody
        dsimp only
        rw [resubmit_apply, if_neg failed]
        rfl
  | cancelled => exact .same (by simp [Fatal, Status.failsRead]) id rfl
  | unknown => exact .same (by simp [Fatal, Status.failsRead]) id rfl
  | error => exact .fatal (.inl rfl) 1 rfl
  | stall => exact .fatal (.inl rfl) 4 rfl
  | noDevice => exact .fatal (.inl rfl) 5 rfl
  | overflow => exact .fatal (.inl rfl) 6 rfl

/-- The completed branch of `write_cb` throws exactly when it submits a packet and the library
refuses. -/
theorem writeCompleted_cases (ret : Int) (side : WriteSide) :
    side.writeQueue ≠ [] ∧ ret < 0 ∧
        (∃ next, writeCompleted ret side = .error (libusbError ret) next) ∨
      ¬ (side.writeQueue ≠ [] ∧ ret < 0) ∧ ∃ next, writeCompleted ret side = .ok () next := by
  unfold writeCompleted submitWrite
  rw [bind_apply, get_apply]
  dsimp only
  cases queue : side.writeQueue with
  | nil => exact .inr ⟨fun absurdity => absurdity.1 rfl, _, rfl⟩
  | cons item rest =>
    by_cases failed : ret < 0
    · refine .inl ⟨List.cons_ne_nil _ _, failed, ?_⟩
      simp [failed]
    · refine .inr ⟨fun absurdity => failed absurdity.2, ?_⟩
      simp [failed]

/-- `write_cb`. -/
theorem writeCb_keeping (status : Status) (ret : Int) :
    Keeping raw device (.delivered (.write status ret))
      (after (keepException (writeCbBody status ret) device.landWrite)) := by
  cases status with
  | completed =>
    rcases writeCompleted_cases ret device.landWrite.writeSide with
      ⟨queued, failed, next, throws⟩ | ⟨unfailed, next, returns⟩
    · have body : writeCbBody .completed ret device.landWrite =
          .error (libusbError ret) { device.landWrite with writeSide := next } := by
        show onWriteSide (writeCompleted ret) device.landWrite = _
        rw [onWriteSide_apply, throws]
      exact .fatal (.inr ⟨rfl, queued, failed⟩) ret (kept_of_throws body)
    · refine .same ?_ id ?_
      · rintro (absurdity | ⟨-, failed⟩)
        · contradiction
        · exact unfailed failed
      · have body : writeCbBody .completed ret device.landWrite =
            .ok () { device.landWrite with writeSide := next } := by
          show onWriteSide (writeCompleted ret) device.landWrite = _
          rw [onWriteSide_apply, returns]
        exact (kept_of_returns body).trans rfl
  | cancelled => exact .same (by simp [Fatal, Status.failsWrite]) id rfl
  | unknown => exact .same (by simp [Fatal, Status.failsWrite]) id rfl
  | error => exact .fatal (.inl rfl) 1 rfl
  | timedOut => exact .fatal (.inl rfl) 2 rfl
  | stall => exact .fatal (.inl rfl) 4 rfl
  | noDevice => exact .fatal (.inl rfl) 5 rfl
  | overflow => exact .fatal (.inl rfl) 6 rfl

/-! ## A call of `libusb_handle_events` -/

/-- The thread of `run()` is in the call, and `eptr_` may be asked to be what it was. -/
def Still (kept : Option Exn → Prop) (device : Device) : Prop :=
  device.thread = .handling ∧ kept device.eptr

/-- Code of the write side moves no thread and keeps no exception. -/
theorem keeps_onWriteSide (kept : Option Exn → Prop) (action : WriteAction) :
    Keeps (Still kept) (onWriteSide action) := by
  intro device still
  rw [onWriteSide_apply]
  cases action device.writeSide <;> exact still

/-- Neither does `write()`. -/
theorem keeps_write (kept : Option Exn → Prop) (packet : Packet) (room : Bool) (ret : Int) :
    Keeps (Still kept) (write packet room ret) := by
  refine .bind .get fun device => ?_
  dsimp only
  exact .choice (.bind (.throw _) fun _ => keeps_onWriteSide kept _) (keeps_onWriteSide kept _)

/-- Neither does `open()`. -/
theorem keeps_openDevice (kept : Option Exn → Prop) (raw : Packet) (refusal : Option Int) :
    Keeps (Still kept) (openDevice raw refusal) := by
  refine .bind .get fun device => .choice (.pure _) ?_
  cases refusal with
  | some ret => exact .throw _
  | none => exact .modify fun _ still => still

/-- Neither does `close()`. -/
theorem keeps_close (kept : Option Exn → Prop) (ret : Int) : Keeps (Still kept) (close ret) := by
  intro device still
  rw [close_after]
  unfold Device.shut
  split
  · exact still
  · exact still

/-- The body of `read_cb` moves no thread. -/
theorem keeps_readCbBody (raw : Packet) (status : Status) (bytes : Bytes) (room : Bool)
    (ret : Int) : Keeps (Still fun _ => True) (readCbBody raw status bytes room ret) := by
  have swap : Keeps (Still fun _ => True) (resubmit ret) := by
    intro device still
    rw [resubmit_apply]
    split
    · exact still
    · exact still
  cases status with
  | completed =>
    refine .bind swap fun _ => ?_
    unfold enqueueRead
    cases Packet.ofView raw bytes with
    | error error => exact .throw _
    | ok packet => exact .choice (.modify fun _ still => still) (.pure _)
  | timedOut => exact swap
  | cancelled => exact .pure _
  | unknown => exact .pure _
  | _ => exact .throw _

/-- The body of `write_cb` moves no thread. -/
theorem keeps_writeCbBody (status : Status) (ret : Int) :
    Keeps (Still fun _ => True) (writeCbBody status ret) := by
  cases status with
  | completed => exact keeps_onWriteSide _ _
  | cancelled => exact .pure _
  | unknown => exact .pure _
  | _ => exact .throw _

/-- A callback moves no thread. -/
theorem keeps_keepException {body : Action} (kept : Keeps (Still fun _ => True) body) :
    Keeps (Still fun _ => True) (keepException body) := by
  intro device still
  have stays := kept device still
  rw [keepException_after]
  cases outcome : body device with
  | ok value next =>
    rw [outcome] at stays
    exact stays
  | error error next =>
    rw [outcome] at stays
    exact stays

/-- A step during a call: the thread of `run()` stays in it. -/
theorem step_keeping {event : Event} (handling : device.thread = .handling)
    (within : event ≠ .returned) (taken : step raw device event = some next) :
    next.thread = .handling ∧ Keeping raw device event next := by
  -- an event that is no callback is neither fatal nor ill-formed
  have other (quiet : ∀ callback, event ≠ .delivered callback)
      (still : Still (fun kept => kept = device.eptr) next) :
      next.thread = .handling ∧ Keeping raw device event next := by
    refine ⟨still.1, ?_⟩
    cases event with
    | delivered callback => exact absurd rfl (quiet callback)
    | _ => exact .same id id still.2
  cases event with
  | returned => exact absurd rfl within
  | started =>
    obtain ⟨⟨absent, -⟩, -⟩ := Option.ite_none_right_eq_some.mp taken
    rw [handling] at absent
    contradiction
  | begun ret =>
    obtain ⟨⟨starting, -⟩, -⟩ := Option.ite_none_right_eq_some.mp taken
    rw [handling] at starting
    contradiction
  | left ret =>
    obtain ⟨leaving, -⟩ := Option.ite_none_right_eq_some.mp taken
    rw [handling] at leaving
    contradiction
  | delivered callback =>
    cases callback with
    | read transfer status bytes room ret =>
      obtain ⟨-, -, rfl⟩ := (deliver_read_iff _ _ _ _ _ _ _ _).mp taken
      have stays := keeps_keepException (keeps_readCbBody raw status bytes room ret)
        (device.landRead transfer) ⟨handling, trivial⟩
      exact ⟨stays.1, readCb_keeping transfer status bytes room ret⟩
    | write status ret =>
      obtain ⟨-, -, rfl⟩ := (deliver_write_iff raw _ _ _ _).mp taken
      have stays := keeps_keepException (keeps_writeCbBody status ret) device.landWrite
        ⟨handling, trivial⟩
      exact ⟨stays.1, writeCb_keeping status ret⟩
  | opened refusal =>
    cases taken
    exact other (fun _ absurdity => by contradiction)
      (keeps_openDevice _ raw refusal device ⟨handling, rfl⟩)
  | stopped =>
    cases taken
    exact other (fun _ absurdity => by contradiction) ⟨handling, rfl⟩
  | closed ret =>
    cases taken
    exact other (fun _ absurdity => by contradiction) (keeps_close _ ret device ⟨handling, rfl⟩)
  | written packet room ret =>
    cases taken
    exact other (fun _ absurdity => by contradiction)
      (keeps_write _ packet room ret device ⟨handling, rfl⟩)
  | cleared =>
    cases taken
    exact other (fun _ absurdity => by contradiction) ⟨handling, rfl⟩

/-- The thread of `run()` stays in the call. -/
theorem handling_of_run {events : List Event} (run : Run (Steps (step raw)) device events next)
    (handling : device.thread = .handling) (within : ∀ event ∈ events, event ≠ .returned) :
    next.thread = .handling := by
  induction run with
  | nil => exact handling
  | cons taken _ ih =>
    refine ih (step_keeping handling (within _ List.mem_cons_self) taken).1 ?_
    exact fun event inside => within event (List.mem_cons_of_mem _ inside)

/-- What `eptr_` holds at the end of a part of the call without fatal callback: the last exception
of an ill-formed packet, or what it held before if there is none. -/
theorem eptr_of_unfailed {events : List Event}
    (run : Run (Guarded (fun state event => ¬ Fatal state event) (Steps (step raw))) device events
      next)
    (handling : device.thread = .handling) (within : ∀ event ∈ events, event ≠ .returned) :
    (∃ event ∈ events, Malformed raw event) ∧ (∃ error, next.eptr = some (.packet error)) ∨
      (∀ event ∈ events, ¬ Malformed raw event) ∧ next.eptr = device.eptr := by
  induction run with
  | nil => exact .inr ⟨fun event inside => by contradiction, rfl⟩
  | @cons start middle finish event events taken rest ih =>
    obtain ⟨stays, keeping⟩ := step_keeping handling (within _ List.mem_cons_self) taken.2
    rcases ih stays fun event inside => within event (List.mem_cons_of_mem _ inside) with
      ⟨⟨other, inside, received⟩, kept⟩ | ⟨none, kept⟩
    · exact .inl ⟨⟨other, List.mem_cons_of_mem _ inside, received⟩, kept⟩
    · cases keeping with
      | fatal failed code _ => exact absurd failed taken.1
      | malformed _ received error first =>
        exact .inl ⟨⟨event, List.mem_cons_self, received⟩, error, kept.trans first⟩
      | same _ wellFormed first =>
        refine .inr ⟨?_, kept.trans first⟩
        intro other inside
        rcases List.mem_cons.mp inside with rfl | later
        · exact wellFormed
        · exact none other later

/-- A fatal exception that is kept is recorded, and the device closed. -/
theorem records_of_fatal {code : Int} (kept : device.eptr = some (libusbError code)) :
    Records device := by
  have ended : ∀ errc, ({ device with errc := errc } : Device).returned =
      { device with errc := some (.transport .other), thread := .leaving } := by
    intro errc
    unfold Device.returned
    dsimp only
    rw [kept]
    rfl
  have ends := ended device.errc
  refine ⟨?_, ?_, ?_⟩
  · intro errc
    rw [ended]
  · rw [show device.returned = _ from ends]
  · intro ret
    obtain ⟨errc, left⟩ := leave_eq ret device.returned
    rw [left]
    exact ⟨opened_shut device.returned, rfl⟩

/-- The exception of an ill-formed packet is discarded. -/
theorem not_records_of_packet {error : PacketError} (kept : device.eptr = some (.packet error)) :
    ¬ Records device := by
  intro records
  have recorded := records.errc none
  unfold Device.returned Device.loop at recorded
  dsimp only at recorded
  rw [kept] at recorded
  dsimp only at recorded
  split at recorded
  · contradiction
  · contradiction

/-! ## The last exception of a call -/

/-- In every call of `libusb_handle_events`, with any callbacks in any order and anything the other
threads do in between: when a callback is fatal, `run()` records an error, leaves its loop and
closes the device, if and only if no ill-formed packet is received behind the last fatal
callback. -/
theorem fatal_recorded_iff (raw : Packet) (device last : Device) (events : List Event)
    (handling : device.thread = .handling) (within : ∀ event ∈ events, event ≠ .returned)
    (run : Run (Steps (step raw)) device events last) :
    (Fails raw device events → Records last) ↔ ¬ Overwritten raw device events last := by
  constructor
  · rintro recorded ⟨front, event, back, before, next, rfl, first, failed, taken, quiet, overwrites⟩
    have fails : Fails raw device (front ++ event :: back) :=
      ⟨front, event, back, before, rfl, first, failed⟩
    have inside := List.mem_append_right front (List.mem_cons_self (a := event) (l := back))
    have there := handling_of_run first handling fun other inside =>
      within other (List.mem_append_left _ inside)
    have stays := (step_keeping there (within event inside) taken).1
    rcases eptr_of_unfailed quiet stays fun other later =>
      within other (List.mem_append_right _ (List.mem_cons_of_mem _ later)) with
      ⟨-, error, kept⟩ | ⟨none, -⟩
    · exact not_records_of_packet kept (recorded fails)
    · obtain ⟨other, later, received⟩ := overwrites
      exact none other later received
  · intro kept fails
    rcases run.last_or_none Fatal with quiet |
      ⟨front, event, back, before, next, rfl, first, failed, taken, quiet⟩
    · obtain ⟨front, event, back, middle, rfl, first, failed⟩ := fails
      obtain ⟨other, before, rest⟩ := quiet.split
      rw [before.unguarded.deterministic first] at rest
      cases rest with
      | cons taken _ => exact absurd failed taken.1
    · have inside := List.mem_append_right front (List.mem_cons_self (a := event) (l := back))
      have there := handling_of_run first handling fun other inside =>
        within other (List.mem_append_left _ inside)
      obtain ⟨stays, keeping⟩ := step_keeping there (within event inside) taken
      rcases eptr_of_unfailed quiet stays fun other later =>
        within other (List.mem_append_right _ (List.mem_cons_of_mem _ later)) with
        ⟨overwrites, -⟩ | ⟨-, same⟩
      · exact absurd ⟨front, event, back, before, next, rfl, first, failed, taken, quiet,
          overwrites⟩ kept
      · cases keeping with
        | fatal _ code stored => exact records_of_fatal (same.trans stored)
        | malformed unfailed => exact absurd failed unfailed
        | same unfailed => exact absurd failed unfailed

/-- A device whose first read is in flight. -/
def listening : Device :=
  { Device.initial .cleared with
    opened := true
    rtransferCurr := some 0
    rtransferPrev := some 1
    constructed := 2
    reading := [0]
    running := true
    thread := .handling }

/-- A read fails in a call in which the packet before it was ill-formed. -/
theorem fatal_recorded_iff_unplugged :
    ∃ last : Device,
      Run (Steps (step .cleared)) (.initial .cleared) [.opened none, .started, .begun 0]
        listening ∧
      Run (Steps (step .cleared)) listening
        [.delivered (.read 0 .completed [] true 0), .delivered (.read 1 .noDevice [] true 0)] last ∧
      Records last := by
  have first : Run (Steps (step .cleared)) listening
      [.delivered (.read 0 .completed [] true 0)] _ := .cons rfl (.nil _)
  have second : Run (Steps (step .cleared))
      (after (keepException (readCbBody .cleared .completed [] true 0) (listening.landRead 0)))
      [.delivered (.read 1 .noDevice [] true 0)] _ := .cons rfl (.nil _)
  have run := first.append second
  refine ⟨_, .cons rfl (.cons rfl (.cons rfl (.nil _))), run, ?_⟩
  refine (fatal_recorded_iff .cleared listening _ _ rfl ?_ run).mpr ?_
    ⟨[.delivered (.read 0 .completed [] true 0)], .delivered (.read 1 .noDevice [] true 0), [], _,
      rfl, first, .inl rfl⟩
  · simp
  · rintro ⟨front, event, back, before, next, same, -, -, -, -, other, later, received⟩
    -- behind the first callback there is the failed one alone
    have tail : other ∈ [Event.delivered (.read 1 .noDevice [] true 0)] := by
      rcases front with _ | ⟨first, _ | ⟨second, front⟩⟩
      · obtain ⟨-, rfl⟩ := List.cons.inj same
        exact later
      · obtain ⟨-, rest⟩ := List.cons.inj same
        obtain ⟨-, rfl⟩ := List.cons.inj rest
        contradiction
      · obtain ⟨-, rest⟩ := List.cons.inj same
        obtain ⟨-, none⟩ := List.cons.inj rest
        exact absurd none (by simp)
    rw [List.mem_singleton.mp tail] at received
    exact received

/-- A write times out and an ill-formed packet is received in the same call: `run()` goes on with
no error recorded, the device stays open, and `in_progress()` stays true with nothing in flight. -/
theorem fatal_forgotten :
    ∃ device last : Device,
      Run (Steps (step .cleared)) (.initial .cleared)
        [.opened none, .started, .begun 0, .written .cleared true 0] device ∧
      Run (Steps (step .cleared)) device
        [.delivered (.write .timedOut 0), .delivered (.read 0 .completed [] true 0)] last ∧
      Fatal device (.delivered (.write .timedOut 0)) ∧ ¬ Records last ∧
      last.returned.thread = .handling ∧ last.returned.errc = none ∧
      last.returned.opened = true ∧ last.returned.writeSide.inProgress = true ∧
      last.returned.writeSide.inFlight = 0 := by
  let writing : Device := after (write .cleared true 0 listening)
  have run : Run (Steps (step .cleared)) writing
      [.delivered (.write .timedOut 0), .delivered (.read 0 .completed [] true 0)] _ :=
    .cons rfl (.cons rfl (.nil _))
  refine ⟨writing, _, .cons rfl (.cons rfl (.cons rfl (.cons rfl (.nil _)))), run, .inl rfl, ?_,
    rfl, rfl, rfl, rfl, rfl⟩
  exact @not_records_of_packet _ ⟨.sopNotFound, none⟩ rfl

end Hdcp.Usb
