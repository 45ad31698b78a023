import Hdcp.Appli.MasterTraffic
import Hdcp.Base.Channels

/-!
# What the master delivers

A packet given to `data_cb_` was read as data in state connected. Between the two the master's
thread has it in its script. Each packet read is given at most once, and in the order of reading.
-/

namespace Hdcp.Appli.Master

open Base
open Hdcp.Master hiding State Event

variable {τ κ ι : Type}

/-- The packet a task gives to `data_cb_`. -/
def Task.gives : Task κ → Option Message
  | giveData message => some message
  | _ => none

/-- The packets a list of tasks gives to `data_cb_`. -/
def deliveries (tasks : List (Task κ)) : List Message := tasks.filterMap Task.gives

/-- A packet was read as data. -/
def informed (read : State × Message) : Bool :=
  read.1 = .connected ∧ read.2.packet.type = PacketType.data.code

/-- The data packets read in state connected, oldest first. -/
def Data.informations (data : Data τ κ) : List Message := (data.reads.filter informed).map Prod.snd

/-- What is delivered, and what is about to be, was read as data before. -/
def Host.Attentive (host : Host τ κ ι) : Prop :=
  Intact host.data.delivered (host.script.elim [] deliveries) host.data.informations

section Tasks

variable {setup : Setup τ κ}

/-- A packet read is delivered when it is data read in state connected. -/
theorem perform_informs (state : State) (data : Data τ κ) :
    ∃ more next, (Task.read state).perform setup data = .ok more next ∧
      next.delivered = data.delivered ∧
      (next.reads = data.reads ∧ deliveries more = [] ∨
        ∃ message, next.reads = data.reads ++ [(state, message)] ∧
          (deliveries more = [] ∨
            deliveries more = [message] ∧ informed (state, message) = true)) := by
  rw [perform_read]
  cases (setup.transport.read data.manager.transport).1 with
  | none => exact ⟨_, _, rfl, rfl, .inl ⟨rfl, rfl⟩⟩
  | some message =>
    dsimp only
    cases state with
    | init | disconnected => exact ⟨_, _, rfl, rfl, .inr ⟨message, rfl, .inl rfl⟩⟩
    | connecting =>
      rw [receive_connecting]
      split
      · exact ⟨_, _, rfl, rfl, .inr ⟨message, rfl, .inl rfl⟩⟩
      · exact ⟨_, _, rfl, rfl, .inr ⟨message, rfl, .inl rfl⟩⟩
    | connected =>
      unfold receive
      dsimp only
      rw [bind_apply, checkPacketId_apply]
      dsimp only
      split
      · exact ⟨_, _, rfl, rfl, .inr ⟨message, rfl, .inl rfl⟩⟩
      · split
        · next information =>
          refine ⟨_, _, rfl, rfl, .inr ⟨message, rfl, .inr ⟨rfl, ?_⟩⟩⟩
          exact decide_eq_true ⟨rfl, information⟩
        · split
          · exact ⟨_, _, rfl, rfl, .inr ⟨message, rfl, .inl rfl⟩⟩
          · exact ⟨_, _, rfl, rfl, .inr ⟨message, rfl, .inl rfl⟩⟩

/-- A packet read last keeps what is delivered, and what is about to be, among the data read. -/
theorem intact_read {state : State} {more : List (Task κ)} {data next : Data τ κ}
    (intact : Intact data.delivered [] data.informations)
    (outcome : (Task.read state).perform setup data = .ok more next) :
    Intact next.delivered (deliveries more) next.informations := by
  obtain ⟨others, last, same, delivered, read⟩ := @perform_informs _ _ setup state data
  rw [outcome] at same
  cases same
  unfold Data.informations at intact ⊢
  rw [delivered]
  rcases read with ⟨reads, none⟩ | ⟨message, reads, none | ⟨one, information⟩⟩
  · rw [reads, none]
    exact intact
  · rw [reads, none, List.filter_append, List.map_append]
    exact List.Sublist.trans intact (List.sublist_append_left _ _)
  · rw [reads, one, List.filter_append, List.map_append, List.filter_singleton, information]
    exact intact.writes message

/-- So does a packet delivered. -/
theorem intact_given {message : Message} {rest : List (Task κ)} {data : Data τ κ}
    (intact : Intact data.delivered (message :: deliveries rest) data.informations) :
    Intact (after ((Task.giveData message).perform setup data)).delivered (deliveries rest)
      (after ((Task.giveData message).perform setup data)).informations := by
  obtain ⟨delivered, either, outcome⟩ := @perform_giveData _ _ setup message data
  have left : after ((Task.giveData message).perform setup data) =
      { data with delivered := delivered } := by
    rcases outcome with outcome | ⟨error, outcome⟩
    · rw [outcome, after_ok]
    · rw [outcome, after_error]
  rw [left]
  rcases either with rfl | rfl
  · exact intact.drops (List.sublist_cons_self message _)
  · exact intact.reads

end Tasks

namespace Host

variable {setup : Setup τ κ} {host next : Host τ κ ι}

/-- A master as constructed. -/
theorem attentive_initial (transport : τ) : (initial transport : Host τ κ ι).Attentive :=
  Intact.nil

/-- No handler begins with a packet to deliver. -/
theorem deliveries_tasks (state : State) (nbLoop : Nat) :
    deliveries (tasks state nbLoop : List (Task κ)) = [] := by
  cases state with
  | init => rfl
  | disconnected | connecting | connected =>
    rw [tasks]
    split
    · rfl
    · rfl

/-- What leaves the script, what was read and what was delivered leaves the master attentive. -/
theorem Attentive.frame (attentive : host.Attentive)
    (script : (next.script.elim [] deliveries).Sublist (host.script.elim [] deliveries))
    (reads : next.data.reads = host.data.reads)
    (delivered : next.data.delivered = host.data.delivered) : next.Attentive := by
  unfold Attentive Data.informations at attentive ⊢
  rw [reads, delivered]
  exact attentive.drops script

/-- A task of a handler is performed. -/
theorem Attentive.performs {task : Task κ} {rest : List (Task κ)} (attentive : host.Attentive)
    (sound : host.Sound setup) (script : host.script = some (task :: rest)) :
    (host.performs setup task rest).Attentive := by
  obtain ⟨resting, scripted, -⟩ := sound.scripted _ script
  -- an exception ends the handler, and what it was about to deliver is not
  have ended (task : Task κ) (rest : List (Task κ)) (pending : List Message)
      (onward : ∀ more data, task.perform setup host.data = .ok more data →
        (deliveries (more ++ rest)).Sublist pending)
      (intact : Intact (after (task.perform setup host.data)).delivered pending
        (after (task.perform setup host.data)).informations) :
      (host.performs setup task rest).Attentive := by
    unfold Host.performs
    cases outcome : task.perform setup host.data with
    | ok more data =>
      rw [outcome, after_ok] at intact
      exact intact.drops (onward more data outcome)
    | error error data =>
      rw [outcome, after_error] at intact
      obtain ⟨errc, same⟩ := caught_eq error data
      unfold Attentive
      dsimp only
      rw [same]
      exact intact.drops (List.nil_sublist _)
  unfold Attentive at attentive
  rw [script] at attentive
  by_cases reading : ∃ state, task = .read state
  · obtain ⟨state, rfl⟩ := reading
    obtain ⟨-, rfl⟩ := scripted_read scripted
    obtain ⟨more, data, outcome, -⟩ := @perform_informs _ _ setup state host.data
    refine ended _ _ (deliveries more) ?_ ?_
    · intro others last same
      rw [outcome] at same
      cases same
      rw [List.append_nil]
    · rw [outcome, after_ok]
      exact intact_read attentive outcome
  by_cases giving : ∃ message, task = .giveData message
  · obtain ⟨message, rfl⟩ := giving
    refine ended _ _ (deliveries rest) ?_ (intact_given attentive)
    intro more data same
    obtain ⟨delivered, -, outcome | ⟨error, outcome⟩⟩ :=
      @perform_giveData _ _ setup message host.data
    · rw [outcome] at same
      cases same
      exact .refl _
    · rw [outcome] at same
      contradiction
  · have unread (state : State) : task ≠ .read state := fun same => reading ⟨state, same⟩
    have ungiven (message : Message) : task ≠ .giveData message := fun same =>
      giving ⟨message, same⟩
    obtain ⟨reads, -, delivered, operations⟩ := @perform_records _ _ setup task unread host.data
    refine ended _ _ (deliveries (task :: rest)) ?_ ?_
    · intro more data outcome
      have nothing : more.filterMap Task.gives = [] := by
        refine List.filterMap_eq_nil_iff.mpr fun left inside => ?_
        rcases operations more data outcome left inside with ⟨place, rfl⟩ | ⟨operation, rfl⟩
        · rfl
        · rfl
      unfold deliveries
      rw [List.filterMap_append, nothing, List.nil_append]
      exact (List.sublist_cons_self task rest).filterMap Task.gives
    · unfold Data.informations at attentive ⊢
      rw [reads, delivered ungiven]
      exact attentive

variable [DecidableEq ι]

/-- An act keeps a master attentive. -/
theorem attentive_step {act : Act τ κ ι} (sound : host.Sound setup) (attentive : host.Attentive)
    (taken : host.step setup act = some next) : next.Attentive := by
  cases step_acts taken with
  | returned script =>
    refine attentive.frame ?_ rfl rfl
    exact List.nil_sublist _
  | performed task rest script ready => exact attentive.performs sound script
  | begun script alive first =>
    refine attentive.frame ?_ rfl rfl
    change (deliveries (tasks host.state host.machine.begun.nbLoop)).Sublist _
    rw [deliveries_tasks]
    exact List.nil_sublist _
  | checked party script alive later wakes =>
    obtain ⟨-, reads, delivered⟩ := wakes_same (wakeup_wakes setup wakes sound.calm) later
    exact attentive.frame (List.Sublist.refl _) reads delivered
  | _ => exact attentive.frame (List.Sublist.refl _) rfl rfl

end Host

end Hdcp.Appli.Master
