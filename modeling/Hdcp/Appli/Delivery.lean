import Hdcp.Appli.Account
import Mathlib.Tactic.Tauto

/-!
# Fulfilled means delivered, when packet ids are fresh

An ack names its command by packet id, and every session counts from 0 again: an ack of an earlier
command with the same id fulfils a command the slave has not read. When no command is sent under an
id that a pending command, a command underway or an ack underway still carries, every command
reported fulfilled was read by the slave while it was connected.
-/

namespace Hdcp.Appli

open Base Hdcp.Master

variable {κ : Type}

namespace Link

/-- What is on its way to the slave beyond the master's queue. -/
def away (link : Link κ) : List Message := link.toSlave ++ link.slaveQueues.readQueue

/-- What is on its way to the master before the master's queue. -/
def coming (link : Link κ) : List Message := link.slaveQueues.writeQueue ++ link.toMaster

/-- Everything is accounted for, seen from the master. -/
def Sound (link : Link κ) : Prop :=
  MasterAccounted link.away link.coming link.slave.data.reads link.master.data

/-- A command is sent under a fresh packet id. -/
def FreshSend (link : Link κ) : Happening κ → Prop
  | .sendCommand _ _ _ =>
    link.master.state = .connected →
      FreshId link.away link.coming link.master.data.manager
  | _ => True

/-- The account is the same seen from the slave. -/
theorem sound_iff (link : Link κ) :
    link.Sound ↔ SlaveAccounted link.master.data.manager.requests.entries
      link.master.data.manager.outputs (link.masterQueues.writeQueue ++ link.toSlave)
      (link.toMaster ++ link.masterQueues.readQueue) [] link.slave.data := by
  unfold Sound MasterAccounted ManagerAccounted SlaveAccounted SlaveManagerAccounted away coming
  rw [and_iff_left (List.nil_subset _), List.append_assoc, List.append_assoc]
  rfl

/-- Nothing is pending and nothing underway at the start. -/
theorem sound_started : (started : Link κ).Sound where
  commands := fun request inside => by contradiction
  acks := fun request inside => by contradiction
  fulfilled := fun request inside => by contradiction

/-- What leaves a queue for the end of the next one is in neither more than before. -/
theorem carried (front rest middle back : List Message) (message : Message) :
    front ++ (rest ++ (middle ++ ([message] ++ back))) ⊆
      front ++ (message :: rest ++ (middle ++ back)) := by
  intro other inside
  simp only [List.mem_append, List.mem_cons, List.not_mem_nil, or_false] at inside ⊢
  tauto

/-- A command sent under a fresh id keeps the account. -/
theorem sound_sendCommand {parties : Parties κ} {link : Link κ} (sound : link.Sound)
    (fresh : link.master.state = .connected →
      FreshId link.away link.coming link.master.data.manager)
    (type : UInt16) (data : Bytes) (cb : κ) :
    Sound { link with master := link.master.sendCommand parties.master type data cb } := by
  unfold Sound Master.Party.sendCommand
  split
  · next connected =>
    have sent := sendCommand_accounted parties sound (fresh connected) type data cb commandTimeout
    dsimp only
    unfold Master.onManager
    cases outcome : Hdcp.Master.sendCommand parties.master.environment type data cb
        commandTimeout link.master.data.manager with
    | ok value manager =>
      rw [outcome] at sent
      exact sent
    | error error manager =>
      rw [outcome] at sent
      exact sent
  · exact sound

/-- What leaves the request manager keeps the account. -/
theorem Sound.signalled {link : Link κ} {master : Master.Party Queues κ} (sound : link.Sound)
    (same : master.data.manager = link.master.data.manager) :
    Sound { link with master := master } := by
  unfold Sound MasterAccounted
  dsimp only
  rw [same]
  exact sound

/-- Each step keeps the account. -/
theorem sound_step (parties : Parties κ) (link : Link κ) (happening : Happening κ) (next : Link κ)
    (sound : link.Sound)
    (taken : Guarded FreshSend (Steps (step parties)) link happening next) : next.Sound := by
  obtain ⟨fresh, stepped⟩ := taken
  cases step_moves stepped with
  | master moved => exact masterWakeup_accounted parties sound moved
  | masterTick moved =>
    unfold Master.Party.tick at moved
    split at moved
    · cases moved
      exact keeps_runOnce parties _ _ sound
    · contradiction
  | asyncConnect => exact sound.signalled (Master.Party.asyncConnect_manager _)
  | connectReturns moved => exact sound.signalled (Master.Party.connectReturns_manager moved)
  | asyncDisconnect => exact sound.signalled (Master.Party.asyncDisconnect_manager _)
  | sendCommand type data cb => exact sound_sendCommand sound fresh type data cb
  | slave moved =>
    rw [sound_iff] at sound ⊢
    exact slaveWakeup_accounted parties sound moved
  | slaveTick moved =>
    rw [sound_iff] at sound ⊢
    unfold Slave.Party.tick at moved
    split at moved
    · cases moved
      exact keeps_slaveRunOnce parties _ _ sound
    · contradiction
  | sendData blocks =>
    rw [sound_iff] at sound ⊢
    unfold Slave.Party.sendData
    split
    · exact keeps_onSlave (fun _ => keeps_sendData parties blocks) _ sound
    · exact sound
  | @masterSends message rest queue =>
    refine sound.mono (List.Subset.refl _) ?_ (List.Subset.refl _) (List.Subset.refl _)
    change rest ++ (link.toSlave ++ [message] ++ link.slaveQueues.readQueue) ⊆
      link.masterQueues.writeQueue ++ (link.toSlave ++ link.slaveQueues.readQueue)
    rw [queue, List.append_assoc link.toSlave]
    exact carried [] _ _ _ _
  | @slaveReceives message rest wire =>
    refine sound.mono (List.Subset.refl _) ?_ (List.Subset.refl _) (List.Subset.refl _)
    change link.masterQueues.writeQueue ++ (rest ++ (link.slaveQueues.readQueue ++ [message])) ⊆
      link.masterQueues.writeQueue ++ (link.toSlave ++ link.slaveQueues.readQueue)
    rw [wire]
    simpa only [List.append_nil] using
      carried link.masterQueues.writeQueue rest link.slaveQueues.readQueue [] message
  | @slaveSends message rest queue =>
    refine sound.mono (List.Subset.refl _) (List.Subset.refl _) ?_ (List.Subset.refl _)
    change rest ++ (link.toMaster ++ [message]) ++ link.masterQueues.readQueue ⊆
      link.slaveQueues.writeQueue ++ link.toMaster ++ link.masterQueues.readQueue
    rw [queue, List.append_assoc, List.append_assoc, List.append_assoc]
    exact carried [] _ _ _ _
  | @masterReceives message rest wire =>
    refine sound.mono (List.Subset.refl _) (List.Subset.refl _) ?_ (List.Subset.refl _)
    change link.slaveQueues.writeQueue ++ rest ++ (link.masterQueues.readQueue ++ [message]) ⊆
      link.slaveQueues.writeQueue ++ link.toMaster ++ link.masterQueues.readQueue
    rw [wire, List.append_assoc, List.append_assoc]
    simpa only [List.append_nil] using
      carried link.slaveQueues.writeQueue rest link.masterQueues.readQueue [] message

end Link

/-- In every run in which commands are sent under fresh packet ids, a request reported fulfilled
has been read by the slave in state connected. -/
theorem fulfilled_delivered (parties : Parties κ) (happenings : List (Happening κ)) (link : Link κ)
    (run : Run (Guarded Link.FreshSend (Steps (Link.step parties))) Link.started happenings link)
    (request : Request κ) (reported : .called request ∈ link.master.data.manager.outputs)
    (status : request.status = .fulfilled) :
    (.connected, transmission request) ∈ link.slave.data.reads :=
  (run.invariant (Link.sound_step parties) Link.sound_started).fulfilled request reported status

/-! ## Two runs -/

instance (away coming : List Message) (state : Hdcp.Master.State Queues κ) :
    Decidable (FreshId away coming state) :=
  inferInstanceAs (Decidable (_ ∧ _ ∧ _))

instance (link : Link κ) (happening : Happening κ) : Decidable (link.FreshSend happening) :=
  match happening with
  | .sendCommand _ _ _ => inferInstanceAs (Decidable (_ → _))
  | .master | .masterTick _ | .asyncConnect | .connectReturns | .asyncDisconnect | .slave
  | .slaveTick _ | .sendData _ | .masterSends | .slaveReceives | .slaveSends | .masterReceives =>
    inferInstanceAs (Decidable True)

/-- Parties without identification whose callbacks raise nothing. -/
def quietParties : Parties Unit where
  masterId := .empty
  slaveId := .empty
  invoke := fun _ _ => none
  dataCb := some fun _ => none
  hasCmdCb := true
  raw := .cleared

/-- Something happens several times. -/
def Happening.times (happening : Happening Unit) (count : Nat) : List (Happening Unit) :=
  List.replicate count happening

/-- The requests reported fulfilled. -/
def Link.reported (link : Link Unit) : List (Request Unit) :=
  link.master.data.manager.outputs.filterMap fun
    | .called request => if request.status = .fulfilled then some request else none
    | _ => none

/-- A request is reported fulfilled when its callback was given it as fulfilled. -/
theorem Link.mem_reported {link : Link Unit} {request : Request Unit}
    (reported : request ∈ link.reported) :
    .called request ∈ link.master.data.manager.outputs ∧ request.status = .fulfilled := by
  obtain ⟨output, inside, given⟩ := List.mem_filterMap.mp reported
  cases output with
  | called other =>
    dsimp only at given
    split at given
    · next fulfilled =>
      obtain rfl := Option.some.inj given
      exact ⟨inside, fulfilled⟩
    · contradiction
  | written message => contradiction
  | timedOut type => contradiction

/-- A session in which one command is sent, read, acknowledged and reported. -/
def session : List (Happening Unit) :=
  Happening.master.times 3 ++ [Happening.asyncConnect] ++ Happening.master.times 6 ++
    Happening.slave.times 5 ++ [Happening.masterSends, Happening.slaveReceives] ++
    Happening.slave.times 7 ++ [Happening.slaveSends, Happening.masterReceives] ++
    Happening.master.times 8 ++ [Happening.sendCommand 1 [0] ()] ++
    [Happening.masterSends, Happening.masterSends, Happening.slaveReceives,
      Happening.slaveReceives] ++
    Happening.slave.times 5 ++ Happening.slaveSends.times 3 ++ Happening.masterReceives.times 3 ++
    Happening.master.times 9

/-- Its command is reported fulfilled, and was delivered. -/
theorem fulfilled_delivered_session :
    ∃ link,
      Run (Guarded Link.FreshSend (Steps (Link.step quietParties))) Link.started session link ∧
      ∃ request ∈ link.reported, (.connected, transmission request) ∈ link.slave.data.reads := by
  have executed : ((execute (fun link happening =>
      if link.FreshSend happening then link.step quietParties happening else none)
        Link.started session).any fun link => link.reported.any fun _ => true) = true := by
    decide +kernel
  obtain ⟨link, reached, found⟩ := (Option.any_eq_true _ _).mp executed
  obtain ⟨request, inside, -⟩ := List.any_eq_true.mp found
  obtain ⟨called, status⟩ := Link.mem_reported inside
  have run := run_of_execute_guarded Link.FreshSend (Link.step quietParties) _ _ _ reached
  exact ⟨link, run, request, inside,
    fulfilled_delivered quietParties session link run request called status⟩

/-- Two answers of the slave to one connection of the master open two sessions, and the ack of the
first session's command meets a command of the second. -/
def staleAck : List (Happening Unit) :=
  -- the slave answers a first request of the master, hears nothing and gives up
  Happening.master.times 3 ++ [Happening.asyncConnect] ++ Happening.master.times 6 ++
    Happening.slave.times 5 ++ [Happening.masterSends, Happening.slaveReceives] ++
    Happening.slave.times 7 ++ [Happening.slaveSends] ++ (Happening.slaveTick []).times 30 ++
    [Happening.slaveTick [⟨0, 30, none, .kaTimeoutCb⟩]] ++ Happening.slave.times 6 ++
    -- the master asks again, and the slave answers again
    (Happening.masterTick []).times 10 ++ [Happening.masterTick [⟨0, 10, none, .dipTimeoutCb⟩]] ++
    Happening.master.times 4 ++ [Happening.masterSends, Happening.slaveReceives] ++
    Happening.slave.times 7 ++ [Happening.slaveSends] ++
    -- the first answer opens a session, whose command 4 the slave reads and acknowledges
    [Happening.masterReceives] ++ Happening.master.times 8 ++ [Happening.sendCommand 1 [0] ()] ++
    [Happening.masterSends, Happening.masterSends, Happening.slaveReceives,
      Happening.slaveReceives] ++
    Happening.slave.times 5 ++ Happening.slaveSends.times 3 ++
    -- the user reconnects, and the second answer opens a session with a command 4 of its own
    [Happening.asyncDisconnect] ++ Happening.master.times 5 ++ [Happening.asyncConnect] ++
    Happening.master.times 5 ++ [Happening.masterReceives] ++ Happening.master.times 8 ++
    [Happening.sendCommand 2 [0] (), Happening.sendCommand 3 [0] ()] ++
    Happening.masterReceives.times 3 ++ Happening.master.times 9

/-- A command is reported fulfilled that the slave has not read. -/
theorem staleAck_undelivered :
    ∃ link, Run (Steps (Link.step quietParties)) Link.started staleAck link ∧
      ∃ request, .called request ∈ link.master.data.manager.outputs ∧
        request.status = .fulfilled ∧
          (.connected, transmission request) ∉ link.slave.data.reads := by
  have executed : ((execute (Link.step quietParties) Link.started staleAck).any fun link =>
      link.reported.any fun request =>
        decide ((.connected, transmission request) ∉ link.slave.data.reads)) = true := by
    decide +kernel
  obtain ⟨link, reached, found⟩ := (Option.any_eq_true _ _).mp executed
  obtain ⟨request, inside, unread⟩ := List.any_eq_true.mp found
  obtain ⟨called, status⟩ := Link.mem_reported inside
  exact ⟨link, (execute_eq_some_iff _ _ _ _).mp reached, request, called, status,
    of_decide_eq_true unread⟩

end Hdcp.Appli
