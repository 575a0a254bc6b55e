import Sessionless.Protocol.Lemmas.Inversion
import Sessionless.Protocol.Run

/-!
# A refused operation changes nothing

Every check of a transition comes before its first assignment, so the machine that a
failed operation leaves is the machine it was called on.
-/

namespace Sessionless.Protocol

variable [Crypto]

namespace ConformanceMachine

variable {machine : ConformanceMachine} {direction : Direction}

def Keeps (machine : ConformanceMachine) (verdict : Verdict) : Prop :=
  ∀ code machine', verdict = .error code machine' → machine' = machine

theorem Keeps.error (code : ErrorCode) : machine.Keeps (.error code machine) := by
  intro code' machine' h
  cases h
  rfl

theorem Keeps.ok (machine' : ConformanceMachine) : machine.Keeps (.ok () machine') := by
  intro code machine'' h
  cases h

theorem Keeps.ite {p : Prop} [Decidable p] {v w} (hv : machine.Keeps v) (hw : machine.Keeps w) :
    machine.Keeps (if p then v else w) := by
  split
  · exact hv
  · exact hw

/-- The common shape: refuse unless the guard holds. -/
theorem Keeps.guard {p : Prop} [Decidable p] {code w} (hw : machine.Keeps w) :
    machine.Keeps (if p then .error code machine else w) := .ite (.error code) hw

theorem installReplayCommitment_keeps (machine : ConformanceMachine)
    (authoritative claim : ReconnectSnapshotV1) (plan : ReplayPlanV1) :
    machine.Keeps (machine.installReplayCommitment authoritative claim plan) := by
  unfold installReplayCommitment
  cases plan.terminalDecision with
  | committed => exact .ok _
  | none =>
    cases machine.attempt.pendingWorkerTerminal with
    | none => exact .ok _
    | some pending => exact .ite (.ok _) (.ok _)
  | replay | discard =>
    cases reconnectPendingTerminal claim with
    | none => exact .error _
    | some terminal =>
      cases machine.attempt.pendingWorkerTerminal with
      | none => exact .ok _
      | some pending => exact .guard (.ok _)

theorem acceptReconnectAccepted_keeps (accepted : ReconnectAcceptedV1) :
    machine.Keeps (machine.acceptReconnectAccepted direction accepted) := by
  unfold acceptReconnectAccepted
  refine .guard fun code machine' h => ?_
  have hkeeps := installReplayCommitment_keeps machine (machine.authoritativeRecord accepted)
    machine.reconnectClaim accepted.replayPlan
  split at h
  · rename_i hi
    cases h
    exact hkeeps _ _ hi
  · cases h

theorem acceptDrain_keeps (drain : DrainV1) : machine.Keeps (machine.acceptDrain direction drain) := by
  unfold acceptDrain
  refine .guard ?_
  cases machine.connection with
  | ready | draining => exact .guard (.ok _)
  | _ => exact .error _

theorem applyAttemptTransition_keeps (message : AttemptMessage) :
    machine.Keeps (machine.applyAttemptTransition direction message) := by
  cases message with
  | leaseOffer message | leaseClaim message | leaseAccepted message | progress message | cancel message
  | cancelAck message => exact .guard (.ok _)
  | terminal message => exact .guard (.ite (.guard (.ok _)) (.ok _))
  | terminalAck message => exact .guard (.ok _)

theorem acceptAttempt_keeps (message : AttemptMessage) (now : Int) :
    machine.Keeps (machine.acceptAttempt direction message now) := by
  unfold acceptAttempt
  cases machine.pendingRefusal direction message with
  | some code => exact .error code
  | none =>
    refine .ite (.ite (.ok _) (.error _)) (.guard (.guard (.guard (.guard fun code machine' h => ?_))))
    split at h
    · rename_i hm
      cases h
      exact applyAttemptTransition_keeps message _ _ hm
    · cases h

theorem apply_keeps (frame : FrameV1) (now : Int) : machine.Keeps (machine.apply direction frame now) := by
  unfold apply
  cases frame.payload with
  | hello message => exact .guard (.ok _)
  | challenge message => exact .guard (.guard (.ok _))
  | attach message | attachAccepted message | reconnect message => exact .guard (.ok _)
  | reconnectAccepted message => exact acceptReconnectAccepted_keeps message
  | manifest message => exact .guard (.ite (.ok _) (.ok _))
  | heartbeat message => exact .guard (.guard (.ok _))
  | attempt message => exact acceptAttempt_keeps message now
  | drain message => exact acceptDrain_keeps message
  | drained message | revoke message | revoked message => exact .guard (.ok _)
  | error message => exact .ok _

theorem perform_keeps (operation : Operation) : machine.Keeps (machine.perform operation) := by
  cases operation with
  | accept direction frame acceptance =>
    refine .guard (.guard (.ite (.ite (.ok _) (.error _)) (.guard fun code machine' h => ?_)))
    split at h
    · rename_i hm
      cases h
      exact apply_keeps frame acceptance.nowUnixMicro _ _ hm
    · cases h
  | beginReconnect next | eraseCommittedAttempt => exact .guard (.ok _)

end ConformanceMachine

end Sessionless.Protocol
