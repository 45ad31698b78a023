import Hdcp.Appli.Flow
import Hdcp.Appli.MasterRounds
import Hdcp.Appli.SlaveCounts

/-!
# How the sessions of the two parties agree

A packet is read no more often than it is written. So what one party enters a state for, the other
did as often: the master is connected no more often than the slave began a session, and the slave no
more often than the master, as long as no call of `send_command` is in flight where the master
begins one.
-/

namespace Hdcp.Appli

open Base Hdcp.Master
open Hdcp.Slave (Dip)

variable {κ ι μ : Type}

namespace Weave

/-- No call of `send_command` is in flight where the master begins a session. -/
def patient (weave : Weave κ ι μ) : Strand κ ι μ → Prop
  | .master act => weave.master.patient act
  | _ => True

instance [Fintype ι] (weave : Weave κ ι μ) (strand : Strand κ ι μ) :
    Decidable (weave.patient strand) :=
  match strand with
  | .master act => inferInstanceAs (Decidable (weave.master.patient act))
  | .slave _ | .masterSends | .slaveReceives | .slaveSends | .masterReceives => instDecidableTrue

/-- The entries of both parties and the packets for them. -/
structure Entered (parties : Parties κ) (weave : Weave κ ι μ) : Prop where
  /-- What is read was written. -/
  flows : weave.Flows parties
  /-- The master enters state connected for DIPs. -/
  host : weave.master.Counted
  /-- The slave enters its states for HIPs and keepalives. -/
  device : weave.slave.Counted
  /-- It answers with a DIP. -/
  identifies : weave.slave.Identifies

/-- The rounds the master writes. -/
structure Rounded (weave : Weave κ ι μ) : Prop where
  /-- The master repeats commands only. -/
  carries : weave.master.Carries
  /-- It ends a round by an entry into state connected. -/
  measured : weave.master.Measured

section Strands

variable [DecidableEq ι] [DecidableEq μ] {parties : Parties κ} {weave next : Weave κ ι μ}
  {strand : Strand κ ι μ}

/-- What a strand is to the master: an act of it, a change of its transport, or nothing. -/
theorem strand_master (taken : weave.step parties strand = some next) :
    next.master = weave.master ∨ ∃ act, weave.master.step parties.master act = some next.master ∧
      (strand = .master act ∨ ∃ transport, act = .changed transport) := by
  cases step_eq_some_iff.mp taken with
  | @master act host leaves acted => exact .inr ⟨act, acted, .inl rfl⟩
  | masterSends queue => exact .inr ⟨.changed _, rfl, .inr ⟨_, rfl⟩⟩
  | masterReceives wire => exact .inr ⟨.changed _, rfl, .inr ⟨_, rfl⟩⟩
  | slave leaves acted => exact .inl rfl
  | slaveSends queue => exact .inl rfl
  | slaveReceives wire => exact .inl rfl

/-- What a strand is to the slave: an act of it, a change of its transport, or nothing. -/
theorem strand_slave (taken : weave.step parties strand = some next) :
    next.slave = weave.slave ∨ ∃ act, weave.slave.step parties.slave act = some next.slave := by
  cases step_eq_some_iff.mp taken with
  | @slave act device leaves acted => exact .inr ⟨act, acted⟩
  | slaveSends queue => exact .inr ⟨.changed _, rfl⟩
  | slaveReceives wire => exact .inr ⟨.changed _, rfl⟩
  | master leaves acted => exact .inl rfl
  | masterSends queue => exact .inl rfl
  | masterReceives wire => exact .inl rfl

/-- A strand keeps the entries in line with the packets. -/
theorem Entered.step (entered : weave.Entered parties)
    (taken : weave.step parties strand = some next) : next.Entered parties := by
  have flows := entered.flows.step taken
  have host : next.master.Counted := by
    rcases strand_master taken with same | ⟨act, acted, -⟩
    · rw [same]
      exact entered.host
    · exact Master.Host.counted_step entered.flows.host entered.host acted
  rcases strand_slave taken with same | ⟨act, acted⟩
  · refine ⟨flows, host, ?_, ?_⟩
    · rw [same]
      exact entered.device
    · rw [same]
      exact entered.identifies
  · exact ⟨flows, host, Slave.Device.counted_step entered.flows.device entered.device acted,
      Slave.Device.identifies_step entered.flows.device entered.identifies acted⟩

/-- A strand keeps the rounds, when the master is patient. -/
theorem Rounded.step (rounded : weave.Rounded) (sound : weave.master.Sound parties.master)
    (patient : weave.patient strand) (taken : weave.step parties strand = some next) :
    next.Rounded := by
  rcases strand_master taken with same | ⟨act, acted, from_act⟩
  · refine ⟨?_, ?_⟩
    · rw [same]
      exact rounded.carries
    · rw [same]
      exact rounded.measured
  · have waits : weave.master.patient act := by
      rcases from_act with rfl | ⟨transport, rfl⟩
      · exact patient
      · exact trivial
    exact ⟨Master.Host.carries_step sound rounded.carries acted,
      Master.Host.measured_step sound rounded.carries rounded.measured waits acted⟩

end Strands

/-- Two parties as constructed. -/
theorem entered_initial {parties : Parties κ} : (initial : Weave κ ι μ).Entered parties where
  flows := flows_initial
  host := Master.Host.counted_initial _
  device := Slave.Device.counted_initial _
  identifies := Slave.Device.identifies_initial _

/-- Two parties as constructed. -/
theorem rounded_initial : (initial : Weave κ ι μ).Rounded where
  carries := Master.Host.carries_initial _
  measured := Master.Host.measured_initial _

end Weave

/-- In every run of the two parties the master was connected no more often than the slave began a
session, and the slave began no more sessions than the master wrote HIPs. -/
theorem link_sessions [DecidableEq ι] [DecidableEq μ] (parties : Parties κ)
    (strands : List (Strand κ ι μ)) (reached : Weave κ ι μ)
    (run : Run (Steps (Weave.step parties)) Weave.initial strands reached) :
    reached.master.data.entries .connected ≤ reached.slave.data.entries .connecting ∧
      reached.slave.data.entries .connecting ≤
        reached.sent.countP fun message => Hip message := by
  have entered : reached.Entered parties :=
    run.invariant (fun weave strand next standing taken => standing.step taken)
      Weave.entered_initial
  constructor
  · have read : reached.master.data.dipsRead =
        reached.answered.countP fun message => Dip message := by
      unfold Master.Data.dipsRead Weave.answered
      rw [List.countP_map]
      rfl
    calc reached.master.data.entries .connected ≤ reached.master.data.dipsRead :=
          entered.host.dips
      _ = reached.answered.countP fun message => Dip message := read
      _ ≤ reached.slave.dips := entered.flows.backward.read_sublist.countP_le
      _ ≤ reached.slave.data.entries .connecting := entered.identifies.dips
  · exact entered.device.hips.trans entered.flows.forth.read_sublist.countP_le

/-- In a session that is answered each party entered it once. -/
theorem link_sessions_answered :
    ∃ reached, Run (Steps (Weave.step quietParties)) Weave.initial answeredSession reached ∧
      reached.master.data.entries .connected = 1 ∧
      reached.master.data.entries .connected ≤ reached.slave.data.entries .connecting ∧
      reached.slave.data.entries .connecting ≤
        reached.sent.countP fun message => Hip message := by
  have executed : ((execute (Weave.step quietParties) Weave.initial answeredSession).any
      fun weave => decide (weave.master.data.entries .connected = 1)) = true := by
    decide +kernel
  obtain ⟨reached, ended, found⟩ := (Option.any_eq_true _ _).mp executed
  have run := (execute_eq_some_iff _ _ _ _).mp ended
  exact ⟨reached, run, of_decide_eq_true found,
    link_sessions quietParties answeredSession reached run⟩

/-- In every run of the two parties in which no call of `send_command` is in flight where the master
begins a session the slave was connected no more often than the master. -/
theorem link_agreement [DecidableEq ι] [DecidableEq μ] (parties : Parties κ)
    (strands : List (Strand κ ι μ)) (reached : Weave κ ι μ)
    (run : Run (Guarded Weave.patient (Steps (Weave.step parties))) Weave.initial strands reached) :
    reached.slave.data.entries .connected ≤ reached.master.data.entries .connected := by
  have kept (weave : Weave κ ι μ) (strand : Strand κ ι μ) (next : Weave κ ι μ)
      (standing : weave.Entered parties ∧ weave.Rounded)
      (taken : Guarded Weave.patient (Steps (Weave.step parties)) weave strand next) :
      next.Entered parties ∧ next.Rounded :=
    ⟨standing.1.step taken.2, standing.2.step standing.1.flows.host taken.1 taken.2⟩
  obtain ⟨entered, rounded⟩ := run.invariant kept ⟨Weave.entered_initial, Weave.rounded_initial⟩
  have heard : reached.slave.data.rounds ≤ reached.master.manager.rounds :=
    alternations_le_of_sublist Hip Keepalive entered.flows.forth.read_sublist
  have slave := entered.device.rounds
  have master := rounded.measured.bounded
  omega

/-- In a session that is answered both parties were connected once. -/
theorem link_agreement_answered :
    ∃ reached, Run (Guarded Weave.patient (Steps (Weave.step quietParties))) Weave.initial
        answeredSession reached ∧
      reached.slave.data.entries .connected = 1 ∧
      reached.slave.data.entries .connected ≤ reached.master.data.entries .connected := by
  have executed : ((execute (fun weave strand =>
      if Weave.patient weave strand then Weave.step quietParties weave strand else none)
        Weave.initial answeredSession).any fun weave =>
          decide (weave.slave.data.entries .connected = 1)) = true := by
    decide +kernel
  obtain ⟨reached, ended, found⟩ := (Option.any_eq_true _ _).mp executed
  have run := run_of_execute_guarded Weave.patient (Weave.step quietParties) _ _ _ ended
  exact ⟨reached, run, of_decide_eq_true found,
    link_agreement quietParties answeredSession reached run⟩

/-- A call of `send_command` goes on through the end of its session and the begin of the next one,
where it arms the keepalive timer; the slave answers the next HIP, but the DIP is never read. -/
def strayReset : List (Strand Unit Unit Unit) :=
  handshake ++ .replicate 10 (.master .protocol) ++ [.masterSends, .slaveReceives] ++
    .replicate 12 (.slave .protocol) ++
    [.master (.call () 7 [] ())] ++ .replicate 3 (.master (.user ())) ++
    [.master .asyncDisconnect] ++ .replicate 16 (.master .protocol) ++
    [.master .asyncConnect] ++ .replicate 17 (.master .protocol) ++
    [.masterSends, .slaveReceives] ++ .replicate 30 (.slave .protocol) ++ [.master (.user ())] ++
    (List.replicate 10 [.master (.take []), .master .timer]).flatten ++
    [.master (.take [⟨4, 10, some 10, .kaMngtTimeoutCb⟩])] ++ .replicate 3 (.master .timer) ++
    [.masterSends, .slaveReceives] ++ .replicate 13 (.slave .protocol)

-- The keepalive that timer writes ends a round of a master that is not connected.
example : ((execute (Weave.step quietParties) Weave.initial strayReset).any fun weave =>
    decide (weave.master.data.entries .connected < weave.slave.data.entries .connected)) =
      true := by
  decide +kernel

end Hdcp.Appli
