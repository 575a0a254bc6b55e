import Sessionless.Protocol.Lemmas.Inversion

/-!
# What an attempt message can do

`Moves` lists the transitions of the attempt record, one constructor per behaviour of
`applyAttemptTransition`. Everything about attempts is derived from it.
-/

namespace Sessionless.Protocol

variable [Crypto]

def AttemptRecord.content (attempt : AttemptRecord) : AttemptSummaryV1 :=
  { state := attempt.state
    binding := attempt.binding
    platformSequence := attempt.platform.sequence
    workerSequence := attempt.worker.sequence
    progressSequence := attempt.progressSequence
    cancelRevision := attempt.cancelRevision
    cancelCode := attempt.cancelCode
    terminalSequence := attempt.terminalSequence
    terminalStatus := attempt.terminalStatus
    terminalResult := attempt.terminalResult
    terminalEvidenceDigest := attempt.terminalEvidence }

namespace ConformanceMachine

variable {machine machine' : ConformanceMachine} {direction : Direction}

/-- The attempt record a message leaves, before the message is entered in its ledger. -/
inductive Moves (machine : ConformanceMachine) : Direction → AttemptMessage → AttemptRecord → Prop
  | leaseOffer (message : LeaseOfferV1) (connection : machine.connection = .ready)
      (state : machine.attempt.state = .idle) (sequence : message.attemptSequence = 1) :
      Moves machine .platformToWorker (.leaseOffer message)
        { machine.attempt with binding := message.binding, state := .offered }
  | leaseClaim (message : LeaseClaimV1) (state : machine.attempt.state = .offered) :
      Moves machine .workerToPlatform (.leaseClaim message) { machine.attempt with state := .claimPending }
  | leaseAccepted (message : LeaseAcceptedV1) (state : machine.attempt.state = .claimPending) :
      Moves machine .platformToWorker (.leaseAccepted message) { machine.attempt with state := .claimed }
  | progress (message : ProgressV1) (feature : machine.hasFeature .progress)
      (state : machine.attempt.state = .claimed ∨ machine.attempt.state = .cancelRequested ∨
        machine.attempt.state = .cancelAcked)
      (sequence : message.progressSequence = machine.attempt.progressSequence + 1)
      (notMax : machine.attempt.progressSequence ≠ maxUint64) :
      Moves machine .workerToPlatform (.progress message)
        { machine.attempt with progressSequence := message.progressSequence }
  | cancel (message : CancelV1) (feature : machine.hasFeature .cancellation)
      (state : machine.attempt.state = .offered ∨ machine.attempt.state = .claimPending ∨
        machine.attempt.state = .claimed ∨ machine.attempt.state = .terminalPending)
      (revision : message.cancelRevision = 1) :
      Moves machine .platformToWorker (.cancel message)
        { clearTerminal machine.attempt with
          cancelRevision := message.cancelRevision
          cancelCode := message.code
          state := if message.code = .fenced then .fenced else .cancelRequested }
  | cancelAck (message : CancelAckV1) (feature : machine.hasFeature .cancellation)
      (state : machine.attempt.state = .cancelRequested ∨ machine.attempt.state = .fenced)
      (revision : message.cancelRevision = machine.attempt.cancelRevision) :
      Moves machine .workerToPlatform (.cancelAck message)
        { machine.attempt with
          state := if machine.attempt.state ≠ .fenced then .cancelAcked else machine.attempt.state }
  | swallowed (message : TerminalV1)
      (state : machine.attempt.state = .claimed ∨ machine.attempt.state = .cancelRequested ∨
        machine.attempt.state = .cancelAcked ∨ machine.attempt.state = .fenced)
      (sequence : message.terminalSequence = 1) (cancelled : machine.attempt.cancelRevision ≠ 0)
      (status : message.status ≠ .cancelled) (code : machine.attempt.cancelCode ≠ .fenced)
      (revoking : ¬ machine.Revoking) :
      Moves machine .workerToPlatform (.terminal message) machine.attempt
  | terminal (message : TerminalV1)
      (state : machine.attempt.state = .claimed ∨ machine.attempt.state = .cancelRequested ∨
        machine.attempt.state = .cancelAcked ∨ machine.attempt.state = .fenced)
      (sequence : message.terminalSequence = 1)
      (cancelled : machine.attempt.cancelRevision = 0 ↔ message.status ≠ .cancelled) :
      Moves machine .workerToPlatform (.terminal message)
        { machine.attempt with
          terminalSequence := message.terminalSequence
          terminalStatus := message.status
          terminalResult := message.result
          terminalEvidence := message.evidenceDigest
          state := if machine.attempt.cancelCode ≠ .fenced ∧ ¬ machine.Revoking then .terminalPending
            else machine.attempt.state }
  | terminalAck (message : TerminalAckV1) (state : machine.attempt.state = .terminalPending)
      (revoking : ¬ machine.Revoking) (sequence : message.terminalSequence = machine.attempt.terminalSequence)
      (status : message.status = machine.attempt.terminalStatus)
      (result : message.result = machine.attempt.terminalResult)
      (evidence : message.evidenceDigest = machine.attempt.terminalEvidence) :
      Moves machine .platformToWorker (.terminalAck message) { machine.attempt with state := .terminalCommitted }

theorem Moves.active {message attempt} (h : machine.Moves direction message attempt) :
    attempt.state ≠ .idle := by
  cases h with
  | leaseOffer message | leaseClaim message | leaseAccepted message => simp
  | progress message hf hs => rcases hs with hs | hs | hs <;> simp [hs]
  | cancel message => simp only; split <;> simp
  | cancelAck message hf hs => rcases hs with hs | hs <;> simp [hs]
  | swallowed message hs => rcases hs with hs | hs | hs | hs <;> simp [hs]
  | terminal message hs =>
    simp only
    split
    · simp
    · rcases hs with hs | hs | hs | hs <;> simp [hs]
  | terminalAck message => simp

/-- The ledgers and the commitment move only when the message is entered; the binding is set once. -/
theorem Moves.kept {message attempt} (h : machine.Moves direction message attempt) :
    attempt.platform = machine.attempt.platform ∧ attempt.worker = machine.attempt.worker ∧
      attempt.pendingWorkerTerminal = machine.attempt.pendingWorkerTerminal ∧
      (machine.attempt.state ≠ .idle → attempt.binding = machine.attempt.binding) := by
  cases h with
  | leaseOffer message hc hs => exact ⟨rfl, rfl, rfl, fun h => absurd hs h⟩
  | leaseClaim message | leaseAccepted message | progress message | cancel message | cancelAck message
  | swallowed message | terminal message | terminalAck message => exact ⟨rfl, rfl, rfl, fun _ => rfl⟩

theorem moves_of_applyAttemptTransition {message}
    (h : machine.applyAttemptTransition direction message = .ok () machine') :
    ∃ attempt, machine.Moves direction message attempt ∧ machine' = machine.setAttempt attempt := by
  cases message with
  | leaseOffer message =>
    obtain ⟨⟨rfl, hc, hs, hq⟩, rfl⟩ := applyLeaseOffer_ok.1 h
    exact ⟨_, .leaseOffer message hc hs hq, rfl⟩
  | leaseClaim message =>
    obtain ⟨⟨rfl, hs⟩, rfl⟩ := applyLeaseClaim_ok.1 h
    exact ⟨_, .leaseClaim message hs, rfl⟩
  | leaseAccepted message =>
    obtain ⟨⟨rfl, hs⟩, rfl⟩ := applyLeaseAccepted_ok.1 h
    exact ⟨_, .leaseAccepted message hs, rfl⟩
  | progress message =>
    obtain ⟨⟨rfl, hf, hs, hmax, hq⟩, rfl⟩ := applyProgress_ok.1 h
    exact ⟨_, .progress message hf hs hq hmax, rfl⟩
  | cancel message =>
    obtain ⟨⟨rfl, hf, hs, hr⟩, rfl⟩ := applyCancel_ok.1 h
    exact ⟨_, .cancel message hf hs hr, rfl⟩
  | cancelAck message =>
    obtain ⟨⟨rfl, hf, hs, hr⟩, rfl⟩ := applyCancelAck_ok.1 h
    exact ⟨_, .cancelAck message hf hs hr, rfl⟩
  | terminal message =>
    obtain ⟨⟨rfl, hs, hq, hcan⟩, hcase⟩ := applyTerminal_ok h
    rcases hcase with ⟨h1, h2, h3, h4, rfl⟩ | ⟨h1, rfl⟩
    · exact ⟨machine'.attempt, .swallowed message hs hq h1 h2 h3 h4, rfl⟩
    · refine ⟨_, .terminal message hs hq ⟨fun h0 hst => hcan hst h0, fun hst => h1.resolve_right hst⟩, rfl⟩
  | terminalAck message =>
    obtain ⟨⟨rfl, hs, hr, h1, h2, h3, h4⟩, rfl⟩ := applyTerminalAck_ok.1 h
    exact ⟨_, .terminalAck message hs hr h1 h2 h3 h4, rfl⟩

theorem applyAttemptTransition_of_moves {message attempt} (h : machine.Moves direction message attempt) :
    machine.applyAttemptTransition direction message = .ok () (machine.setAttempt attempt) := by
  cases h with
  | leaseOffer message hc hs hq => exact applyLeaseOffer_ok.2 ⟨⟨rfl, hc, hs, hq⟩, rfl⟩
  | leaseClaim message hs => exact applyLeaseClaim_ok.2 ⟨⟨rfl, hs⟩, rfl⟩
  | leaseAccepted message hs => exact applyLeaseAccepted_ok.2 ⟨⟨rfl, hs⟩, rfl⟩
  | progress message hf hs hq hmax => exact applyProgress_ok.2 ⟨⟨rfl, hf, hs, hmax, hq⟩, rfl⟩
  | cancel message hf hs hr => exact applyCancel_ok.2 ⟨⟨rfl, hf, hs, hr⟩, rfl⟩
  | cancelAck message hf hs hr => exact applyCancelAck_ok.2 ⟨⟨rfl, hf, hs, hr⟩, rfl⟩
  | swallowed message hs hq hc hst hcode hr =>
    have hs' : ¬ (machine.attempt.state ≠ .claimed ∧ machine.attempt.state ≠ .cancelRequested ∧
        machine.attempt.state ≠ .cancelAcked ∧ machine.attempt.state ≠ .fenced) := by
      rcases hs with hs | hs | hs | hs <;> simp [hs]
    simp only [applyAttemptTransition, applyTerminal]
    rw [if_neg (by simp [hs', hq, hst]), if_pos ⟨hc, hst⟩, if_neg (not_or.2 ⟨hcode, hr⟩)]
    rfl
  | terminal message hs hq hc =>
    have hs' : ¬ (machine.attempt.state ≠ .claimed ∧ machine.attempt.state ≠ .cancelRequested ∧
        machine.attempt.state ≠ .cancelAcked ∧ machine.attempt.state ≠ .fenced) := by
      rcases hs with hs | hs | hs | hs <;> simp [hs]
    simp only [applyAttemptTransition, applyTerminal]
    rw [if_neg, if_neg]
    · exact fun h0 => h0.1 (hc.2 h0.2)
    · rintro (h0 | h0 | h0 | ⟨h0, h1⟩)
      · exact h0 rfl
      · exact hs' h0
      · exact h0 hq
      · exact hc.1 h1 h0
  | terminalAck message hs hr h1 h2 h3 h4 => exact applyTerminalAck_ok.2 ⟨⟨rfl, hs, hr, h1, h2, h3, h4⟩, rfl⟩

/-- An attempt record with the message entered in its ledger. -/
def entered (attempt : AttemptRecord) (direction : Direction) (message : AttemptMessage) : AttemptRecord :=
  match direction with
  | .platformToWorker => { attempt with
      platform := record attempt.platform message.sequence (attemptFingerprint message) }
  | .workerToPlatform => { attempt with
      worker := record attempt.worker message.sequence (attemptFingerprint message)
      pendingWorkerTerminal := attempt.pendingWorkerTerminal.filter
        (fun pending => decide (pending.sequence ≠ message.sequence)) }

structure Duplicate (machine : ConformanceMachine) (direction : Direction) (message : AttemptMessage) : Prop where
  admitted : machine.pendingRefusal direction message = none
  sequence_le : message.sequence ≤ (machine.attemptSender direction).sequence
  sequence_ne : message.sequence ≠ 0
  fingerprint_eq : (machine.attemptSender direction).fingerprintAt message.sequence = attemptFingerprint message

/-- A duplicate changes nothing; any other message moves the record and is entered. -/
theorem acceptAttempt_cases {message now} (h : machine.acceptAttempt direction message now = .ok () machine') :
    (machine.Duplicate direction message ∧ machine' = machine) ∨
      (machine.AttemptGuard direction message now ∧ ∃ attempt, machine.Moves direction message attempt ∧
        machine' = machine.setAttempt (entered attempt direction message)) := by
  rcases acceptAttempt_ok.1 h with ⟨h1, h2, h3, h4, rfl⟩ | ⟨hg, applied, ha, rfl⟩
  · exact .inl ⟨⟨h1, h2, h3, h4⟩, rfl⟩
  · obtain ⟨attempt, hm, rfl⟩ := moves_of_applyAttemptTransition ha
    refine .inr ⟨hg, attempt, hm, ?_⟩
    cases direction with
    | platformToWorker | workerToPlatform => rfl

theorem moves_of_acceptAttempt {message now} (h : machine.acceptAttempt direction message now = .ok () machine') :
    machine' = machine ∨ (machine.AttemptGuard direction message now ∧ ∃ attempt, machine.Moves direction message attempt ∧
      machine' = machine.setAttempt (entered attempt direction message)) :=
  (acceptAttempt_cases h).imp_left And.right

theorem Duplicate.acceptAttempt {message now} (h : machine.Duplicate direction message) :
    machine.acceptAttempt direction message now = .ok () machine :=
  acceptAttempt_ok.2 (.inl ⟨h.admitted, h.sequence_le, h.sequence_ne, h.fingerprint_eq, rfl⟩)

theorem acceptAttempt_of_moves {message now attempt}
    (hg : machine.AttemptGuard direction message now) (hm : machine.Moves direction message attempt) :
    machine.acceptAttempt direction message now = .ok () (machine.setAttempt (entered attempt direction message)) := by
  refine acceptAttempt_ok.2 (.inr ⟨hg, _, applyAttemptTransition_of_moves hm, ?_⟩)
  cases direction with
  | platformToWorker | workerToPlatform => rfl

theorem acceptAttempt_attempt {message now} (h : machine.acceptAttempt direction message now = .ok () machine') :
    ∃ attempt, machine' = machine.setAttempt attempt := by
  rcases moves_of_acceptAttempt h with rfl | ⟨-, attempt, -, rfl⟩
  · exact ⟨machine'.attempt, rfl⟩
  · exact ⟨_, rfl⟩

end ConformanceMachine

end Sessionless.Protocol
