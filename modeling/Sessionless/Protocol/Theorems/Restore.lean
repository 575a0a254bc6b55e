import Sessionless.Protocol.Lemmas.Dormant
import Sessionless.Protocol.Lemmas.Refusal
import Sessionless.Protocol.Reference

/-!
# Restoring a machine preserves its behaviour

A machine and the machine restored from its snapshot differ at most in dormant reconnect
fields, and answer every continuation alike.
-/

namespace Sessionless.Protocol

open Lib

section

variable [Crypto]

namespace ConformanceMachine

variable {machine : ConformanceMachine}

/-! ## The restored machine -/

theorem Tidy.flags (h : machine.Tidy) (hr : ¬ machine.Revoking) (hd : machine.connection ≠ .drained)
    (hflag : machine.reconnecting = true ∨ machine.drainReenvelopePending = true) :
    decide (machine.connection ≠ .draining) = machine.reconnecting ∧
      decide (machine.connection = .draining) = machine.drainReenvelopePending := by
  rcases hflag with hrec | hdrain
  · obtain ⟨hno, -, hconn, -⟩ := h.reconnecting hrec
    simp [hrec, hno, hconn]
  · have hconn : machine.connection = .draining := by
      rcases h.reenvelope hdrain with hc | hc | hc
      · exact hc
      · exact absurd hc hd
      · exact absurd hc hr
    have hrec := h.not_reconnecting (.inr hconn)
    simp [hrec, hdrain, hconn]

theorem alike_restoreFields (h : machine.Tidy) {snapshot} (hs : machine.snapshot = .ok snapshot) :
    machine.Alike (restoreFields machine.config snapshot) := by
  by_cases hflag : machine.reconnecting = true ∨ machine.drainReenvelopePending = true
  · obtain ⟨digest, -, ⟨-, -, hconnection⟩, rfl⟩ := snapshot_ok.1 hs
    have hattempt := restoreAttempt_snapshot h.attempt digest
    have hrec : machine.snapshotReconnect ≠ none := by simp [snapshotReconnect, hflag]
    have hd : machine.connection ≠ .drained := by
      intro hc
      have hv : (machine.snapshotContent digest).ConnectionValid .drained := hc ▸ hconnection
      exact hrec hv.1
    refine ⟨decide (machine.connection ≠ .draining), decide (machine.connection = .draining), machine.reconnectTarget,
      machine.previousConnectionGeneration, machine.reconnectWatermarks, machine.reconnectAttempt,
      machine.reconnectClaim, ?_, fun hr => h.flags hr hd hflag, fun _ _ => ⟨rfl, rfl, rfl, rfl⟩, fun _ => rfl⟩
    simp only [restoreFields, hattempt]
    simp only [snapshotContent, snapshotReconnect, hflag, if_true, restoreEnvelope_snapshot h.platform,
      restoreEnvelope_snapshot h.worker, getD_present h.hello, getD_present h.challenge, getD_present h.manifest,
      getD_present h.revoke, getD_present h.claim]
    rfl
  · have hno : machine.reconnecting = false ∧ machine.drainReenvelopePending = false := by
      simpa using hflag
    refine ⟨false, false, .unattached, 0, {}, {}, {}, ?_, fun _ => ⟨hno.1.symm, hno.2.symm⟩,
      fun _ hl => absurd hl hflag, fun hp => absurd (.inl (h.pended hp)) hflag⟩
    rw [restoreFields_snapshot h hs hno.1 hno.2]
    simp only [patched, hno.1, hno.2]

/-! ## Every continuation -/

theorem Tidy.after (h : machine.Tidy) (operation : Operation) : (after (machine.perform operation)).Tidy := by
  cases hv : machine.perform operation with
  | ok _ next => exact h.perform hv
  | error code next => exact perform_keeps operation code next hv ▸ h

theorem AlikeVerdict.code_eq {v v'} (h : AlikeVerdict v v') : verdictCode v = verdictCode v' := by
  cases h with
  | ok h | error code h => rfl

theorem AlikeVerdict.after {v v'} (h : AlikeVerdict v v') :
    (ConformanceMachine.after v).Alike (ConformanceMachine.after v') := by
  cases h with
  | ok h | error code h => exact h

theorem Alike.observe_eq {other} (h : machine.Alike other) : machine.observe = other.observe := by
  obtain ⟨r, d, t, g, w, a, c, rfl, -⟩ := h
  rfl

theorem bisimulation_alike : Bisimulation respond (fun machine other => machine.Tidy ∧ machine.Alike other) := by
  rintro machine other operation ⟨ht, ha⟩
  have hv := perform_alike ha ht operation
  refine ⟨?_, ht.after operation, hv.after⟩
  simp only [respond, hv.code_eq, hv.after.observe_eq]

end ConformanceMachine

/-- A reachable machine that can be persisted is restored from its snapshot, and the restored
machine gives the same verdicts, error codes and observations on every continuation. -/
theorem restore_trace_eq {machine : ConformanceMachine} {snapshot : MachineSnapshotV1}
    (hr : ConformanceMachine.Reachable machine) (hs : machine.snapshot = .ok snapshot) :
    ∃ restored, restoreConformanceMachine machine.config snapshot = .ok restored ∧
      ∀ operations, trace ConformanceMachine.respond machine operations =
        trace ConformanceMachine.respond restored operations :=
  ⟨_, hr.agrees.restore hs, ConformanceMachine.bisimulation_alike.trace_eq
    ⟨hr.tidy, ConformanceMachine.alike_restoreFields hr.tidy hs⟩⟩

end

section

open Reference

/-- The reference worker on its first connection, challenged. -/
def challenged : Except ErrorCode ConformanceMachine :=
  ConformanceMachine.performAll { config := config 1 } (((config 1).openingFrames negotiation).map
    fun frame => .accept frame.1 frame.2 ((config 1).acceptance 1))

/-- The challenged worker, persisted and restored. -/
theorem restore_trace_eq_challenged :
    ∃ machine snapshot, ConformanceMachine.Reachable machine ∧ machine.connection = .challenged ∧
      machine.snapshot = .ok snapshot ∧ ∃ restored, restoreConformanceMachine machine.config snapshot = .ok restored ∧
        ∀ operations, trace ConformanceMachine.respond machine operations =
          trace ConformanceMachine.respond restored operations := by
  have hnew : newConformanceMachine (config 1) = .ok { config := config 1 } := by
    rw [newConformanceMachine, if_pos (config_valid (by decide))]
  have hrun : okAnd challenged (fun machine => decide (machine.connection = .challenged) && machine.snapshot.isOk) =
      true := by decide +kernel
  obtain ⟨machine, hm, hrun⟩ := exists_of_okAnd hrun
  rw [Bool.and_eq_true] at hrun
  have hr := (ConformanceMachine.Reachable.new hnew).performAll hm
  obtain ⟨snapshot, hs⟩ := exists_of_isOk hrun.2
  exact ⟨machine, snapshot, hr, of_decide_eq_true hrun.1, hs, restore_trace_eq hr hs⟩

end

end Sessionless.Protocol
