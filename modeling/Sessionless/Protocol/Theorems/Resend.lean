import Sessionless.Protocol.Reference

/-!
# Messages sent again after a reconnect

The worker takes over the platform's attempt, but its ledger keeps only what it had itself.
A message that is sent again is a duplicate for the platform; for the worker it is one
exactly when the worker had it before the cut.
-/

set_option linter.unusedSectionVars false
set_option maxRecDepth 2000

namespace Sessionless.Protocol

section

variable [Crypto] {platform worker platform' worker' : ConformanceMachine} {next : AuthContextV1}
  {reconnect : ReconnectV1} {accepted : ReconnectAcceptedV1} {manifest : ManifestV1} {now later : Int}
  {message : AttemptMessage}

theorem Completed.unaffected_iff (h : Completed platform worker next reconnect accepted manifest now platform' worker')
    (hl : Lost platform accepted message) (hlater : 0 < later) :
    Unaffected platform' platform' message later ∧
      (Unaffected platform' worker' message later ↔
        worker.attempt.platform.fingerprintAt message.sequence = attemptFingerprint message) := by
  have hplatform := h.platform.resumedFrom
  have hworker := h.worker.resumedFrom
  have henvelopes : platform'.platform.sequence = 2 ∧ platform'.worker.sequence = 3 :=
    ⟨hplatform.platform.1, hplatform.worker⟩
  have hconfig : platform'.config = worker'.config := by
    rw [hplatform.config_eq, hworker.config_eq, h.config_eq]
  have hsequence : accepted.authoritativeAttempt.platformSequence = platform.attempt.platform.sequence := by
    obtain ⟨begun, hbegin, hbuild⟩ := h.answer
    obtain ⟨-, rfl⟩ := ConformanceMachine.beginReconnect_ok.1 hbegin
    obtain ⟨-, -, rfl⟩ := buildReconnectAcceptedV1_ok.1 hbuild
    exact sealAttemptSummary_platformSequence _
  have h0 : message.sequence ≠ 0 := Nat.ne_zero_of_lt hl.after
  have hle : message.sequence ≤ accepted.authoritativeAttempt.platformSequence := hsequence ▸ hl.sequence_le
  constructor
  · rw [hplatform.unaffected_iff rfl henvelopes hl.valid hlater h0 hle, AttemptSequenceState.fingerprintAt, hl.held]
    rfl
  · exact hworker.unaffected_iff hconfig henvelopes hl.valid hlater h0 hle

/-- Every lost message can be sent again exactly when the worker's ledger held each of them before the cut. -/
theorem resent_messages_accepted_iff
    (h : Completed platform worker next reconnect accepted manifest now platform' worker') (hlater : 0 < later) :
    (∀ message, Lost platform accepted message →
      Unaffected platform' platform' message later ∧ Unaffected platform' worker' message later) ↔
    ∀ message, Lost platform accepted message →
      worker.attempt.platform.fingerprintAt message.sequence = attemptFingerprint message := by
  constructor
  · intro hall message hl
    exact (h.unaffected_iff hl hlater).2.1 (hall message hl).2
  · intro hall message hl
    obtain ⟨hplatform, hworker⟩ := h.unaffected_iff hl hlater
    exact ⟨hplatform, hworker.2 (hall message hl)⟩

end

section

open Reference

/-- Nothing is lost after the offer was taken: the plan starts at the platform's own sequence. -/
theorem resent_messages_accepted_iff_offer : ∃ platform worker reconnect accepted platform' worker',
    Completed platform worker (auth 2) reconnect accepted signedManifest 10 platform' worker' ∧
      platform.attempt.state = .offered ∧
      ∀ message, Lost platform accepted message →
        Unaffected platform' platform' message 10 ∧ Unaffected platform' worker' message 10 := by
  have hrun : ((Connection.play 10 (.initial (ready 1 {})) [.platformSends (.attempt leaseOffer), .workerTakes]).any fun connection =>
      decide (connection.platform.attempt.state = .offered ∧
        connection.worker.attempt.state = .offered ∧ connection.worker.attempt.cancelRevision = 0 ∧
        connection.platform.attempt.platform.sequence = connection.worker.attempt.platform.sequence)) = true := by decide +kernel
  obtain ⟨connection, hplay, hrun⟩ := (Option.any_eq_true _ _).1 hrun
  obtain ⟨hplatform, hworker, hrevision, hsequence⟩ := of_decide_eq_true hrun
  have hr : Recoverable connection.platform.attempt connection.worker.attempt := by
    constructor <;> simp [hworker, hplatform, hrevision]
  obtain ⟨accepted, platform', worker', hcompleted, hplan⟩ :=
    completed_of_play (by simp [Connection.Action.IsAttempt, Payload.IsAttempt]) hplay hr
  refine ⟨_, _, _, accepted, platform', worker', hcompleted, hplatform,
    (resent_messages_accepted_iff hcompleted (by decide)).2 fun message hl => ?_⟩
  have hafter := hl.after
  have hle := hl.sequence_le
  omega

/-- The accepted lease is lost and sent again: the worker takes over that the lease is accepted, and refuses to hear it. -/
theorem lost_accepted_refused : ∃ platform worker reconnect accepted platform' worker',
    Completed platform worker (auth 2) reconnect accepted signedManifest 10 platform' worker' ∧
      Lost platform accepted leaseAccepted ∧ ¬ Unaffected platform' worker' leaseAccepted 10 := by
  have hrun : ((Connection.play 10 (.initial (ready 1 {}))
        [.platformSends (.attempt leaseOffer), .workerTakes, .workerSends (.attempt leaseClaim), .platformTakes,
          .platformSends (.attempt leaseAccepted)]).any fun connection =>
      decide (connection.platform.attempt.state = .claimed ∧
        connection.worker.attempt.state = .claimPending ∧ connection.worker.attempt.cancelRevision = 0 ∧
        connection.worker.attempt.platform.sequence = 1 ∧ connection.platform.attempt.platform.sequence = 2 ∧
        connection.platform.attempt.platform.fingerprints.get? 2 = some (attemptFingerprint leaseAccepted) ∧
        connection.worker.attempt.platform.fingerprintAt 2 ≠ attemptFingerprint leaseAccepted)) = true := by decide +kernel
  obtain ⟨connection, hplay, hrun⟩ := (Option.any_eq_true _ _).1 hrun
  obtain ⟨hplatform, hworker, hrevision, hfirst, hsecond, hheld, hmissing⟩ := of_decide_eq_true hrun
  have hr : Recoverable connection.platform.attempt connection.worker.attempt := by
    constructor <;> simp [hworker, hplatform, hrevision]
  obtain ⟨accepted, platform', worker', hcompleted, hplan⟩ :=
    completed_of_play (by simp [Connection.Action.IsAttempt, Payload.IsAttempt]) hplay hr
  have hlost : Lost connection.platform accepted leaseAccepted := by
    refine ⟨by decide, ?_, ?_, hheld⟩
    · rw [hplan, hfirst]
      decide
    · rw [hsecond]
      decide
  refine ⟨_, _, _, accepted, platform', worker', hcompleted, hlost, fun h => ?_⟩
  exact hmissing ((hcompleted.unaffected_iff hlost (by decide)).2.1 h)

end

end Sessionless.Protocol
