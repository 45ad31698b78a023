import Hdcp.Appli.MasterEvents
import Hdcp.Packet.Oversize

/-!
# Whom the master is connected to

A DIP read in state connecting fills the identification of the slave and ends the visit of the state
in the same wakeup, one way or the other. When it ends in state disconnected, the identification is
cleared there, and the event the DIP raised as state connecting is entered again. So in state
connected one DIP was read in the visit before, and the slave is the one its blocks make up.
-/

namespace Hdcp.Appli.Master

open Base
open Hdcp.Master hiding State Event

variable {τ κ : Type}

/-- A packet read is a DIP that state connecting takes. -/
def IsDip (read : State × Message) : Prop :=
  read.1 = .connecting ∧ read.2.packet.type = PacketType.dip.code

instance (read : State × Message) : Decidable (IsDip read) :=
  inferInstanceAs (Decidable (_ ∧ _))

/-- The DIPs that state connecting took after some packets were read. -/
def Data.dips (data : Data τ κ) (since : Nat) : List Message :=
  ((data.reads.drop since).filter fun read => IsDip read).map Prod.snd

/-- A master with the number of packets read as state connecting was last entered. -/
structure Visit (τ κ : Type) where
  /-- The master. -/
  life : Life τ κ
  /-- The packets read. -/
  entered : Nat

namespace Visit

/-- A master as constructed. -/
def initial (transport : τ) : Visit τ κ := ⟨.initial transport, 0⟩

/-- One step, if it can happen. -/
def step (setup : Setup τ κ) (visit : Visit τ κ) (move : Move τ κ) : Option (Visit τ κ) :=
  (visit.life.step setup move).map fun next =>
    ⟨next, if visit.life.enters next.party then visit.life.data.reads.length else visit.entered⟩

/-- The DIPs read in the last visit of state connecting. -/
def dips (visit : Visit τ κ) : List Message := visit.life.data.dips visit.entered

end Visit

/-! ## DIPs and the identification -/

/-- No DIP was taken, and no slave is known. -/
structure Data.Stranger (data : Data τ κ) (since : Nat) : Prop where
  /-- The packets before were read. -/
  marked : since ≤ data.reads.length
  /-- No DIP among those after them. -/
  dips : data.dips since = []
  /-- `slave_id_` is empty. -/
  slaveId : data.slaveId = .empty

/-- One DIP was taken, and the slave is the one its blocks make up. -/
def Data.Met (data : Data τ κ) (since : Nat) : Prop :=
  ∃ message, data.dips since = [message] ∧
    data.slaveId = message.packet.blocks.foldl .setBlock .empty

/-- No DIP was taken, and none is announced. -/
def Data.Unheard (data : Data τ κ) (since : Nat) : Prop :=
  data.Stranger since ∧ .dipReceived ∉ data.events

/-- A DIP is announced exactly when one was taken. -/
def Data.Heard (data : Data τ κ) (since : Nat) : Prop :=
  data.Unheard since ∨ data.Met since ∧ .dipReceived ∈ data.events

/-- A packet that is no DIP of state connecting leaves the list of them. -/
theorem Data.dips_silent (data : Data τ κ) (since : Nat) (state : State) (message : Message)
    (silent : ¬ IsDip (state, message)) :
      (data.reading state message).dips since = data.dips since := by
  have more : (([(state, message)].drop (since - data.reads.length)).filter
      fun read => IsDip read) = [] := by
    rw [List.filter_eq_nil_iff]
    intro read inside taken
    obtain rfl := List.mem_singleton.mp (List.mem_of_mem_drop inside)
    exact silent (of_decide_eq_true taken)
  change (((data.reads ++ [(state, message)]).drop since).filter _).map _ = _
  rw [List.drop_append, List.filter_append, more, List.append_nil]
  rfl

/-- A DIP read in state connecting is the last of them. -/
theorem Data.dips_read (data : Data τ κ) (since : Nat) (message : Message)
    (marked : since ≤ data.reads.length) (dip : IsDip (.connecting, message)) :
    (data.reading .connecting message).dips since = data.dips since ++ [message] := by
  have one : ([(State.connecting, message)].filter fun read => IsDip read) =
      [(.connecting, message)] := by simp [dip]
  change (((data.reads ++ [(State.connecting, message)]).drop since).filter _).map _ = _
  rw [List.drop_append_of_le_length marked, List.filter_append, one, List.map_append]
  rfl

/-- What the manager, the transport and the packet ids do not touch. -/
theorem Data.Stranger.of_same {data next : Data τ κ} {since : Nat} (stranger : data.Stranger since)
    (reads : next.reads = data.reads) (slaveId : next.slaveId = data.slaveId) :
    next.Stranger since where
  marked := by
    rw [reads]
    exact stranger.marked
  dips := by
    rw [Data.dips, reads]
    exact stranger.dips
  slaveId := slaveId.trans stranger.slaveId

/-- A packet that is no DIP of state connecting makes nobody known. -/
theorem Data.Stranger.reading {data : Data τ κ} {since : Nat} (stranger : data.Stranger since)
    {state : State} {message : Message} (silent : ¬ IsDip (state, message)) :
    (data.reading state message).Stranger since where
  marked := by
    change since ≤ (data.reads ++ [(state, message)]).length
    rw [List.length_append]
    exact Nat.le_add_right_of_le stranger.marked
  dips := (data.dips_silent since state message silent).trans stranger.dips
  slaveId := stranger.slaveId

/-! ## The handlers -/

section Handlers

variable (setup : Setup τ κ) {since : Nat}

/-- The test of an event announces no DIP. -/
theorem eraseEvent_unheard (event : Event) :
    Keeps (fun data => data.Unheard since) (eraseEvent event : Handler τ κ Bool) :=
  eraseEvent_keeps event fun _ unheard =>
    ⟨unheard.1.of_same rfl rfl, fun pending => unheard.2 (Finset.mem_of_mem_erase pending)⟩

/-- The request manager takes no DIP. -/
theorem onManager_unheard {α : Type} (action : Action τ κ α) :
    Keeps (fun data => data.Unheard since) (onManager action) :=
  onManager_keeps (fun _ _ unheard => ⟨unheard.1.of_same rfl rfl, unheard.2⟩) action

/-- A packet processed in state connecting is taken if it is a DIP. -/
theorem processConnecting_heard (message : Message) (data : Data τ κ)
    (unheard : data.Unheard since) :
    ∃ next, processConnecting message (data.reading .connecting message) = .ok () next ∧
      next.Heard since := by
  unfold processConnecting runIf
  by_cases dip : message.packet.type = PacketType.dip.code
  · rw [if_pos dip]
    have acked (known : Data τ κ) : onManager ackDip known = .ok () (known.withManager
        (known.manager.withFields
          (known.manager.toFields.withoutTimer known.manager.dipId))) :=
      onManager_apply (ackDip_apply _)
    have taken := data.dips_read since message unheard.1.marked ⟨rfl, dip⟩
    rw [unheard.1.dips] at taken
    have known : message.packet.blocks.foldl .setBlock data.slaveId =
        message.packet.blocks.foldl .setBlock .empty := by rw [unheard.1.slaveId]
    rw [bind_apply, modify_apply]
    dsimp only
    rw [bind_apply, setSlaveId, modify_apply]
    dsimp only
    rw [bind_apply, acked]
    exact ⟨_, rfl, .inr ⟨⟨message, taken, known⟩, Finset.mem_insert_self _ _⟩⟩
  · rw [if_neg dip]
    exact ⟨_, rfl, .inl ⟨unheard.1.reading fun taken => dip taken.2, unheard.2⟩⟩

/-- A wakeup in state connecting that returns has taken a DIP or not; one that throws has not. -/
theorem attempt_leads :
    Leads (fun data : Data τ κ => data.Unheard since) (attempt setup)
      (fun _ data => data.Heard since) fun data => data.Unheard since := by
  have polls : Keeps (fun data => data.Unheard since) (attemptDue : Handler τ κ Bool) :=
    .bind .get fun _ => .choice (.pure true) (eraseEvent_unheard .dipTimeout)
  have dials (due : Bool) : Keeps (fun data => data.Unheard since)
      (runIf (due = true) (attemptConnection setup)) :=
    .runIf (.bind (.modify fun _ unheard => ⟨unheard.1.of_same rfl rfl, unheard.2⟩) fun _ =>
      onManager_unheard _)
  refine .bind (.passes polls fun _ unheard => unheard) fun due =>
    .bind (.passes (dials due) fun _ unheard => unheard) fun _ => ?_
  intro data unheard
  have still : (data.withTransport (setup.transport.read data.manager.transport).2).Unheard since :=
    ⟨unheard.1.of_same rfl rfl, unheard.2⟩
  rw [readPacket_apply]
  cases (setup.transport.read data.manager.transport).1 with
  | none =>
    constructor
    · intro status next returned
      cases returned
      exact .inl still
    · intro error next thrown
      contradiction
  | some message =>
    obtain ⟨next, processed, heard⟩ := processConnecting_heard message _ still
    dsimp only
    rw [bind_apply, processed]
    constructor
    · intro status last returned
      cases returned
      exact heard
    · intro error last thrown
      contradiction

/-- The handler of state connecting, run for the first time with a manager that does not run, or
later. -/
theorem connecting_leads {nbLoop : Nat} {data : Data τ κ} (stranger : data.Stranger since)
    (idle : nbLoop = 0 → data.manager.running = false)
    (unheard : nbLoop ≠ 0 → .dipReceived ∉ data.events) :
    (∀ status next, handler setup .connecting (nbLoop + 1) data = .ok status next →
        next.Heard since) ∧
      ∀ error next, handler setup .connecting (nbLoop + 1) data = .error error next →
        next.Unheard since := by
  cases nbLoop with
  | zero =>
    have forgotten : (data.begun setup).Unheard since :=
      ⟨stranger.of_same rfl rfl, Finset.notMem_erase _ _⟩
    rw [handler_first setup data (idle rfl)]
    exact attempt_leads setup _ forgotten
  | succ nbLoop =>
    rw [handler_later setup _ (by omega)]
    exact attempt_leads setup data ⟨stranger, unheard (Nat.succ_ne_zero nbLoop)⟩

/-- State connected takes no DIP. -/
theorem connected_met (nbLoop : Nat) :
    Keeps (fun data : Data τ κ => data.Met since) (handler setup .connected nbLoop) := by
  refine connected_keeps setup (fun _ _ met => met) (fun _ _ met => met) (fun _ _ met => met) ?_
    nbLoop
  intro data message met
  have silent : ¬ IsDip (.connected, message) := fun dip => by cases dip.1
  obtain ⟨dip, only, known⟩ := met
  exact ⟨dip, (data.dips_silent since .connected message silent).trans only, known⟩

/-- From the first wakeup on, no slave is known in state disconnected. -/
theorem disconnected_stranger {nbLoop : Nat} {data : Data τ κ}
    (known : nbLoop ≠ 0 → data.slaveId = .empty) :
    (after (handler setup .disconnected (nbLoop + 1) data)).slaveId = .empty := by
  cases nbLoop with
  | zero => rfl
  | succ nbLoop =>
    have later : ¬ nbLoop + 1 + 1 = 1 := by omega
    have same : handler setup .disconnected (nbLoop + 1 + 1) data = .ok .stayCurrState data := by
      change (runIf (nbLoop + 1 + 1 = 1) enterDisconnected >>= fun _ => pure _) data = _
      rw [runIf, if_neg later]
      rfl
    rw [same]
    exact known (Nat.succ_ne_zero nbLoop)

end Handlers

/-! ## Steps -/

/-- What is known of the slave, where the master is. -/
def Knows (master : Party τ κ) (since : Nat) : Prop :=
  match master.machine.current with
  | .init => True
  | .disconnected => master.machine.nbLoop ≠ 0 → master.data.slaveId = .empty
  | .connecting =>
    if master.machine.position = 0 then
      master.data.Stranger since ∧
        (master.machine.nbLoop ≠ 0 → .dipReceived ∉ master.data.events)
    else master.data.Heard since
  | .connected => master.data.Met since

/-- A master that just moved to state disconnected need not have forgotten the slave. -/
theorem knows_left (source : State) (data : Data τ κ) (since : Nat) :
    Knows (.movedTo source .disconnected data) since := fun later => absurd rfl later

section Steps

variable {setup : Setup τ κ} {since : Nat}

/-- A handler that returns. -/
theorem Knows.handled {state : State} {nbLoop : Nat} {data : Data τ κ} {phase : Phase}
    (knows : Knows (.at state nbLoop 0 data) since) (sound : Sound (.at state nbLoop 0 data) phase)
    (returns : Returns setup state (nbLoop + 1) data) :
    Knows (.at state (nbLoop + 1) 1 (after (handler setup state (nbLoop + 1) data))) since := by
  cases state with
  | init => trivial
  | disconnected => exact fun _ => disconnected_stranger setup knows
  | connecting =>
    obtain ⟨status, next, returned⟩ := returns
    have leads := connecting_leads setup knows.1 (fun first => sound.connecting rfl first) knows.2
    rw [returned]
    exact leads.1 status next returned
  | connected => exact connected_met setup (nbLoop + 1) data knows

/-- A handler that throws. -/
theorem Knows.thrown {state : State} {nbLoop : Nat} {data : Data τ κ} {phase : Phase}
    (knows : Knows (.at state nbLoop 0 data) since) (sound : Sound (.at state nbLoop 0 data) phase)
    (throws : ¬ Returns setup state (nbLoop + 1) data) (errc : Option ErrorCode) :
    Knows (.at state (nbLoop + 1) 0
      ((after (handler setup state (nbLoop + 1) data)).withErrc errc)) since := by
  cases state with
  | init => trivial
  | disconnected => exact fun _ => disconnected_stranger setup knows
  | connecting =>
    have leads := connecting_leads setup knows.1 (fun first => sound.connecting rfl first) knows.2
    cases outcome : handler setup .connecting (nbLoop + 1) data with
    | ok status next => exact absurd ⟨status, next, outcome⟩ throws
    | error error next =>
      obtain ⟨stranger, unheard⟩ := leads.2 error next outcome
      exact ⟨stranger.of_same rfl rfl, fun _ => unheard⟩
  | connected => exact connected_met setup (nbLoop + 1) data knows

/-- The entries of the state machine. -/
theorem Knows.wakes {master next : Party τ κ} {phase : Phase} (knows : Knows master since)
    (sound : Sound master phase) (wakes : Wakes setup master next) :
    Knows next (if master.state ≠ .connecting ∧ next.state = .connecting then
      master.data.reads.length else since) := by
  have stays (state : State) : ¬(state ≠ .connecting ∧ state = .connecting) :=
    fun both => both.1 both.2
  cases wakes with
  | handled state nbLoop data returns =>
    change Knows _ (if state ≠ .connecting ∧ state = .connecting then _ else _)
    rw [if_neg (stays state)]
    exact knows.handled sound returns
  | thrown state nbLoop data errc throws =>
    change Knows _ (if state ≠ .connecting ∧ state = .connecting then _ else _)
    rw [if_neg (stays state)]
    exact knows.thrown sound throws errc
  | waits nbLoop data => exact fun _ => disconnected_stranger setup knows
  | woken nbLoop data pending => exact knows
  | begun nbLoop data => exact knows_left .init data _
  | requested nbLoop data pending =>
    -- no packet was read yet in the visit that begins
    have forgotten : data.slaveId = .empty := knows (sound.begun (.inl Nat.one_ne_zero))
    have none : data.dips data.reads.length = [] := by
      rw [Data.dips, List.drop_length]
      rfl
    exact ⟨⟨Nat.le_refl _, none, forgotten⟩, fun later => absurd rfl later⟩
  | unrequested nbLoop data absent => exact knows
  | closed state nbLoop data session isClosed => exact knows_left state _ _
  | stillOpen state nbLoop data session isOpen =>
    change Knows _ (if state ≠ .connecting ∧ state = .connecting then _ else _)
    rw [if_neg (stays state)]
    rcases session with rfl | rfl
    · exact knows
    · exact knows
  | dipTimeout nbLoop data pending exhausted => exact knows_left .connecting _ _
  | noDipTimeout nbLoop data left => exact knows
  | connected nbLoop data pending =>
    rcases knows with unheard | met
    · exact absurd pending unheard.2
    · exact met.1
  | notConnected nbLoop data absent =>
    rcases knows with unheard | met
    · exact ⟨unheard.1, fun _ => absent⟩
    · exact absurd met.2 absent
  | kaTimeout nbLoop data pending => exact knows_left .connected _ _
  | noKaTimeout nbLoop data absent => exact knows
  | dismissed nbLoop data pending => exact knows_left .connected _ _
  | undismissed nbLoop data absent => exact knows

/-- The other steps. -/
theorem Knows.lives {life : Life τ κ} {move : Move τ κ} {party : Party τ κ} {phase : Phase}
    (knows : Knows life.party since) (lives : Lives setup life move party phase)
    (other : move ≠ .wakeup) : Knows party since := by
  have same := untouched_lives lives other
  have announced := dipReceived_lives lives other
  have dips : party.data.dips since = life.data.dips since := by
    rw [Data.dips, same.reads]
    rfl
  have stranger (before : life.data.Stranger since) : party.data.Stranger since :=
    before.of_same same.reads same.slaveId
  have met : life.data.Met since → party.data.Met since := by
    rintro ⟨message, only, known⟩
    exact ⟨message, dips.trans only, same.slaveId.trans known⟩
  by_cases starts : ∃ transport, move = .start transport
  · obtain ⟨transport, rfl⟩ := starts
    cases lives with
    | start _ stopped => trivial
  · have machine := state_lives lives other fun transport starting => starts ⟨transport, starting⟩
    unfold Knows at knows ⊢
    rw [machine]
    cases current : life.party.machine.current with
    | init => trivial
    | disconnected =>
      rw [current] at knows
      exact fun later => same.slaveId.trans (knows later)
    | connecting =>
      rw [current] at knows
      dsimp only at knows ⊢
      split
      · next first =>
        rw [if_pos first] at knows
        exact ⟨stranger knows.1, fun later => announced.not.mpr (knows.2 later)⟩
      · next later =>
        rw [if_neg later] at knows
        rcases knows with unheard | heard
        · exact .inl ⟨stranger unheard.1, announced.not.mpr unheard.2⟩
        · exact .inr ⟨met heard.1, announced.mpr heard.2⟩
    | connected =>
      rw [current] at knows
      exact met knows

/-- Each step keeps what is known of the slave. -/
theorem knows_step (setup : Setup τ κ) (visit : Visit τ κ) (move : Move τ κ) (next : Visit τ κ)
    (knows : visit.life.Sound ∧ Knows visit.life.party visit.entered)
    (taken : Steps (Visit.step setup) visit move next) :
    next.life.Sound ∧ Knows next.life.party next.entered := by
  obtain ⟨life, stepped, rfl⟩ := Option.map_eq_some_iff.mp taken
  obtain ⟨party, phase, -, lives, rfl, still⟩ := knows.1.step stepped
  refine ⟨still, ?_⟩
  change Knows party (if visit.life.enters party then _ else _)
  have enters : visit.life.enters party = true ↔
      visit.life.state ≠ .connecting ∧ party.machine.current = .connecting := decide_eq_true_iff
  by_cases wakes : move = .wakeup
  · subst wakes
    cases lives with
    | wakeup _ alive wakes =>
      rw [if_congr enters rfl rfl]
      exact knows.2.wakes knows.1 wakes
  · rw [if_neg fun entered => wakes (enters_lives lives entered).1]
    exact knows.2.lives lives wakes

end Steps

/-- In every reachable state of a master that is connected, one DIP was read in the visit of state
connecting before, the slave is the one its blocks make up, and that is the device the DIP was made
for exactly when its payload does not wrap. -/
theorem slaveId_reported (setup : Setup τ κ) (transport : τ) (moves : List (Move τ κ))
    (visit : Visit τ κ)
    (run : Run (Steps (Visit.step setup)) (.initial transport) moves visit)
    (connected : visit.life.state = .connected) :
    ∃ message, visit.dips = [message] ∧
      visit.life.data.slaveId = message.packet.blocks.foldl .setBlock .empty ∧
        ∀ raw id dev, Packet.makeDip raw id dev = .ok message.packet →
          (visit.life.data.slaveId = dev ↔
            ¬ Wraps 4 ((Packet.identificationBlocks dev).flatMap makeBlock)) := by
  have begins : (Visit.initial transport : Visit τ κ).life.Sound ∧
      Knows (Visit.initial transport : Visit τ κ).life.party 0 := ⟨sound_started transport, trivial⟩
  obtain ⟨-, knows⟩ := run.invariant (knows_step setup) begins
  unfold Knows at knows
  rw [show visit.life.party.machine.current = .connected from connected] at knows
  obtain ⟨message, only, known⟩ := knows
  refine ⟨message, only, known, fun raw id dev made => ?_⟩
  have identified := Packet.makeDip_identifies_iff raw message.packet id dev made
  rw [← identified]
  exact ⟨fun same => known.symm.trans same, fun same => known.trans same⟩

/-! ## A slave that is reported, and one whose DIP is truncated -/

/-- The DIP of a device arrives on the open transport. -/
def dipOf (dev : Identification) : Move (Bool × List Message) Unit :=
  .changed (true, (Packet.makeDip .cleared 1 dev).toOption.toList.map fun dip => ⟨dip, none⟩)

/-- A device. -/
def device : Identification := ⟨[100], [1], [2], [3]⟩

/-- The DIP of another device is read as the transport closes; then this one connects. -/
def meeting : List (Move (Bool × List Message) Unit) :=
  started ++ connects ++ [dipOf ⟨[120], [], [], [9]⟩] ++ wakeups 1 ++ [closes] ++ wakeups 1 ++
    connects ++ [dipOf device] ++ wakeups 4

/-- The master connected to it, the DIP read in the last visit is the device's. -/
def Visit.MetBy (visit : Visit τ κ) (dev : Identification) : Prop :=
  visit.life.state = .connected ∧
    visit.dips.map Message.packet = (Packet.makeDip .cleared 1 dev).toOption.toList

instance (visit : Visit τ κ) (dev : Identification) : Decidable (visit.MetBy dev) :=
  inferInstanceAs (Decidable (_ ∧ _))

/-- The packet read is one made for the device. -/
theorem Visit.MetBy.made {visit : Visit τ κ} {dev : Identification} {message : Message}
    (met : visit.MetBy dev) (only : visit.dips = [message]) :
    Packet.makeDip .cleared 1 dev = .ok message.packet := by
  have same := met.2
  rw [only] at same
  cases made : Packet.makeDip .cleared 1 dev with
  | ok packet =>
    rw [made] at same
    exact congrArg Except.ok (List.singleton_inj.mp same).symm
  | error error =>
    rw [made] at same
    contradiction

/-- The master reports this device. -/
theorem slaveId_reported_meeting :
    ∃ visit, Run (Steps (Visit.step onLine)) (.initial (false, [])) meeting visit ∧
      visit.life.state = .connected ∧ visit.life.data.slaveId = device := by
  have executed : ((Base.execute (Visit.step onLine) (.initial (false, [])) meeting).any
      fun visit => decide (visit.MetBy device)) = true := by
    decide +kernel
  obtain ⟨visit, reached, ended⟩ := (Option.any_eq_true _ _).mp executed
  have met : visit.MetBy device := of_decide_eq_true ended
  have run := (execute_eq_some_iff _ _ _ _).mp reached
  obtain ⟨message, only, -, reports⟩ :=
    slaveId_reported onLine (false, []) meeting visit run met.1
  have straight : ¬ Wraps 4 ((Packet.identificationBlocks device).flatMap makeBlock) :=
    fun wraps => absurd wraps.oversized (by decide)
  exact ⟨visit, run, met.1, (reports .cleared 1 device (met.made only)).mpr straight⟩

/-- The DIP of a device whose software version has 65536 bytes is read. -/
def truncating : List (Move (Bool × List Message) Unit) :=
  started ++ connects ++ [dipArrives] ++ wakeups 4

/-- The master reports no such device. -/
theorem slaveId_unreported :
    ∃ visit message, Run (Steps (Visit.step onLine)) (.initial (false, [])) truncating visit ∧
      visit.life.state = .connected ∧ visit.dips = [message] ∧
        Packet.makeDip .cleared 1 Packet.hugeDevice = .ok message.packet ∧
          visit.life.data.slaveId = .empty ∧ visit.life.data.slaveId ≠ Packet.hugeDevice := by
  have executed : ((Base.execute (Visit.step onLine) (.initial (false, [])) truncating).any
      fun visit => decide (visit.MetBy .empty ∧ visit.dips.length = 1 ∧
        visit.life.data.slaveId = .empty)) = true := by
    decide +kernel
  obtain ⟨visit, reached, ended⟩ := (Option.any_eq_true _ _).mp executed
  obtain ⟨met, one, unknown⟩ := of_decide_eq_true ended
  obtain ⟨message, only⟩ := List.length_eq_one_iff.mp one
  have made := Packet.makeDip_hugeDevice .cleared message.packet 1 (met.made only)
  have run := (execute_eq_some_iff _ _ _ _).mp reached
  exact ⟨visit, message, run, met.1, only, made, unknown,
    fun same => Packet.hugeDevice_ne_empty (same.symm.trans unknown)⟩

end Hdcp.Appli.Master
