import Sessionless.Protocol.Lemmas.Persistable
import Sessionless.Protocol.Reference

/-!
# Which machines can be persisted

A machine reached through admissible steps can be persisted, and its next step leaves a
machine that can be persisted exactly when that step is admissible too.
-/

namespace Sessionless.Protocol

open Lib

section

variable [Crypto]

/-- Reached from a new machine by successful steps that are all admissible. -/
inductive ConformanceMachine.AdmissiblyReachable : ConformanceMachine → Prop
  | new {config : MachineConfig} {machine : ConformanceMachine} (h : newConformanceMachine config = .ok machine) :
      AdmissiblyReachable machine
  | step {machine machine' : ConformanceMachine} {operation : Operation} (h : AdmissiblyReachable machine)
      (ha : machine.Admissible operation) (hs : machine.perform operation = .ok () machine') :
      AdmissiblyReachable machine'

theorem ConformanceMachine.AdmissiblyReachable.sound {machine : ConformanceMachine} (h : machine.AdmissiblyReachable) :
    machine.Sound := by
  induction h with
  | new h => exact sound_newConformanceMachine h
  | step _ ha hs ih => exact ih.perform ha hs

/-- Every machine on an admissible run can be persisted, and a further successful step keeps that
exactly when it is admissible. -/
theorem persistable_perform_iff {machine : ConformanceMachine} (h : machine.AdmissiblyReachable) :
    machine.Persistable ∧ ∀ operation machine', machine.perform operation = .ok () machine' →
      (machine'.Persistable ↔ machine.Admissible operation) := by
  refine ⟨h.sound.persistable, fun operation machine' hs => ⟨fun hp => ?_, fun ha => (h.sound.perform ha hs).persistable⟩⟩
  by_contra ha
  exact h.sound.not_persistable ha hs hp

end

section

open Reference

theorem newConformanceMachine_config : newConformanceMachine (config 1) = .ok { config := config 1 } := by
  rw [newConformanceMachine, if_pos (config_valid (by decide))]

def firstFrame (payload : Payload) : Operation :=
  .accept .workerToPlatform ((config 1).frame .workerToPlatform 1 0 payload) ((config 1).acceptance 1)

/-- The reference worker sends its `Hello`. -/
theorem persistable_perform_iff_hello :
    ∃ greeted : ConformanceMachine, greeted.AdmissiblyReachable ∧ greeted.connection = .hello ∧ greeted.Persistable := by
  have hok : ranAnd (ConformanceMachine.perform { config := config 1 } (firstFrame (.hello negotiation.hello)))
      (fun greeted => decide (greeted.connection = .hello)) = true := by decide +kernel
  obtain ⟨_, greeted, hs, hok⟩ := exists_of_ranAnd hok
  have hnew := ConformanceMachine.AdmissiblyReachable.new newConformanceMachine_config
  have hadmissible : ConformanceMachine.Admissible { config := config 1 } (firstFrame (.hello negotiation.hello)) :=
    .inr trivial
  exact ⟨greeted, hnew.step hadmissible hs, of_decide_eq_true hok,
    ((persistable_perform_iff hnew).2 _ _ hs).2 hadmissible⟩

/-- The reference worker reports an error before its `Hello`: the frame is accepted, and `Snapshot` fails. -/
theorem snapshot_refused_after_error : ∃ machine : ConformanceMachine,
    machine.Reachable ∧ machine.snapshot = .error .malformedFrame ∧ ¬ machine.Persistable := by
  have hok : ranAnd (ConformanceMachine.perform { config := config 1 } (firstFrame (.error ⟨.retryLater, true⟩)))
      (fun machine => decide (machine.snapshot = .error .malformedFrame)) = true := by decide +kernel
  obtain ⟨_, machine, hs, hok⟩ := exists_of_ranAnd hok
  have hsnapshot := of_decide_eq_true hok
  refine ⟨machine, .step (.new newConformanceMachine_config) hs, hsnapshot, ?_⟩
  rintro ⟨snapshot, hp, -⟩
  rw [hsnapshot] at hp
  cases hp

end

end Sessionless.Protocol
