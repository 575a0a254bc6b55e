import Sessionless.Lib.Guards
import Sessionless.Protocol.Durable

/-!
# What one transition can do

One inversion lemma per transition of the machine: the guards under which it succeeds and
the machine it leaves. Later proofs use these and never unfold a transition again.
-/

namespace Sessionless.Protocol

open Lib

variable [Crypto]

/-! ## The replay plan -/

def plannedAnswer (authoritative claim : ReconnectSnapshotV1) (negotiation : NegotiationV1) : ReconnectAcceptedV1 :=
  { toNegotiationV1 := negotiation
    authoritativeWatermarks := authoritative.watermarks
    authoritativeAttempt := authoritative.attempt
    authoritativePendingTerminalReplay := authoritative.pendingTerminalReplay
    replayPlan := {
      platformEnvelopeAfter := claim.watermarks.platformSequence
      workerEnvelopeAfter := authoritative.watermarks.workerSequence
      platformAttemptAfter := claim.attempt.platformSequence
      workerAttemptAfter := workerAttemptAfter authoritative claim
      terminalDecision := terminalDecision authoritative claim } }

theorem buildReconnectAcceptedV1_ok {authoritative claim negotiation payload} :
    buildReconnectAcceptedV1 authoritative claim negotiation = .ok payload ↔
      (authoritative.Valid ∧ claim.Valid ∧ negotiation.Valid ∧
        authoritative.previousConnectionGeneration = claim.previousConnectionGeneration ∧
        reconnectClaimsCompatible claim authoritative) ∧
      (terminalDecision authoritative claim = .replay →
        authoritative.attempt.workerSequence < pendingSequence claim) ∧
      plannedAnswer authoritative claim negotiation = payload := by
  simp [buildReconnectAcceptedV1, ite_error_eq_ok, plannedAnswer]

namespace ConformanceMachine

variable {machine machine' : ConformanceMachine} {direction : Direction}

/-! ## Handshake frames -/

theorem acceptHello_ok {hello} : machine.acceptHello direction hello = .ok () machine' ↔
    (direction = .workerToPlatform ∧ machine.connection = .unattached ∧ hello.offer = machine.config.workerOffer) ∧
      { machine with hello := hello, connection := .hello } = machine' := by
  simp [acceptHello]

theorem acceptChallenge_ok {challenge} :
    machine.acceptChallenge direction challenge = .ok () machine' ↔
    (direction = .platformToWorker ∧ machine.connection = .hello ∧
      challenge.workerOffer = machine.hello.offer ∧ challenge.platformOffer = machine.config.platformOffer ∧
      challenge.workerNonce = machine.hello.workerNonce) ∧
      (negotiateOffers challenge.workerOffer challenge.platformOffer machine.config.implementedVersions =
        some challenge.selectedVersion ∧ challenge.selectedVersion = machine.config.auth.version) ∧
      { machine with challenge := challenge, connection := .challenged } = machine' := by
  simp [acceptChallenge]

theorem acceptAttach_ok {frame attach} :
    machine.acceptAttach direction frame attach = .ok () machine' ↔
    (direction = .workerToPlatform ∧ machine.connection = .challenged ∧ machine.reconnecting = false ∧
      negotiationMatchesChallenge attach.toNegotiationV1 machine.challenge ∧
      verifyAttachV1 machine.config.auth frame attach) ∧
      { machine with capabilityDigest := attach.capabilityDigest, connection := .attachPending } = machine' := by
  simp [acceptAttach]

theorem acceptAttachAccepted_ok {accepted} :
    machine.acceptAttachAccepted direction accepted = .ok () machine' ↔
    (direction = .platformToWorker ∧ machine.connection = .attachPending ∧
      acceptedMatchesChallenge accepted machine.challenge machine.capabilityDigest) ∧
      { machine with connection := .attached } = machine' := by
  simp [acceptAttachAccepted]

/-- The guards of a `Reconnect`. -/
structure ReconnectGuard (machine : ConformanceMachine) (direction : Direction) (frame : FrameV1)
    (reconnect : ReconnectV1) : Prop where
  direction_eq : direction = .workerToPlatform
  connection_eq : machine.connection = .challenged
  reconnecting_eq : machine.reconnecting = true
  generation_eq : reconnect.previousConnectionGeneration = machine.previousConnectionGeneration
  generation_ne : reconnect.previousConnectionGeneration ≠ maxUint64
  generation_succ : reconnect.previousConnectionGeneration + 1 = machine.config.auth.connectionGeneration
  negotiation : negotiationMatchesChallenge reconnect.toNegotiationV1 machine.challenge
  verified : verifyReconnectV1 machine.config.auth frame reconnect
  compatible : reconnectClaimsCompatible reconnect.claim machine.reconnectRecord
  capability : machine.capabilityDigest ≠ [] → reconnect.capabilityDigest = machine.capabilityDigest

theorem acceptReconnect_ok {frame reconnect} :
    machine.acceptReconnect direction frame reconnect = .ok () machine' ↔
    machine.ReconnectGuard direction frame reconnect ∧
      { machine with
        capabilityDigest := reconnect.capabilityDigest
        reconnectClaim := reconnect.claim
        connection := .reconnectPending } = machine' := by
  simp only [acceptReconnect, ite_refuse_eq_ok, not_or, ne_eq, Decidable.not_not, not_and, Bool.not_eq_false,
    List.length_eq_zero_iff, EStateM.Result.ok.injEq, true_and]
  constructor
  · rintro ⟨⟨h1, h2, h3, h4, h5, h6, h7, h8, h9, h10⟩, h⟩
    exact ⟨⟨h1, h2, h3, h4, h5, h6, h7, h8, h9, h10⟩, h⟩
  · rintro ⟨⟨h1, h2, h3, h4, h5, h6, h7, h8, h9, h10⟩, h⟩
    exact ⟨⟨h1, h2, h3, h4, h5, h6, h7, h8, h9, h10⟩, h⟩

/-- The commitment left by a plan: what is pending afterwards. -/
theorem installReplayCommitment_ok {authoritative workerClaim plan}
    (h : machine.installReplayCommitment authoritative workerClaim plan = .ok () machine') :
    ∃ pending, machine' = machine.setPending pending ∧
      ((pending = none ∧ plan.terminalDecision ≠ .discard) ∨
        (pending = machine.attempt.pendingWorkerTerminal ∧ plan.terminalDecision = .none ∧
          ∀ p ∈ pending, authoritative.attempt.workerSequence < p.sequence ∧ authoritative.attempt.terminalSequence = 0) ∨
        ((plan.terminalDecision = .replay ∨ plan.terminalDecision = .discard) ∧
          ∃ terminal, reconnectPendingTerminal workerClaim = some terminal ∧
            pending = some (replayCommitment terminal plan.terminalDecision))) := by
  unfold installReplayCommitment at h
  cases hd : plan.terminalDecision with
  | committed =>
    simp only [hd, EStateM.Result.ok.injEq, true_and] at h
    exact ⟨none, h.symm, .inl ⟨rfl, (by simp)⟩⟩
  | none =>
    simp only [hd] at h
    cases hp : machine.attempt.pendingWorkerTerminal with
    | none =>
      simp only [hp, EStateM.Result.ok.injEq, true_and] at h
      refine ⟨none, ?_, .inl ⟨rfl, (by simp)⟩⟩
      rw [← h, setPending, ← hp]
    | some pending =>
      simp only [hp] at h
      split at h
      · simp only [EStateM.Result.ok.injEq, true_and] at h
        exact ⟨none, h.symm, .inl ⟨rfl, (by simp)⟩⟩
      · rename_i hkeep
        simp only [EStateM.Result.ok.injEq, true_and] at h
        refine ⟨some pending, ?_, .inr (.inl ⟨rfl, rfl, ?_⟩)⟩
        · rw [← h, setPending, ← hp]
        · intro p hp'
          cases hp'
          omega
  | replay =>
    simp only [hd] at h
    cases ht : reconnectPendingTerminal workerClaim with
    | none => simp [ht] at h
    | some terminal =>
      simp only [ht] at h
      have hres : machine' = machine.setPending (some (replayCommitment terminal .replay)) := by
        split at h
        · split at h
          · cases h
          · simp only [EStateM.Result.ok.injEq, true_and] at h; exact h.symm
        · simp only [EStateM.Result.ok.injEq, true_and] at h; exact h.symm
      exact ⟨_, hres, .inr (.inr ⟨.inl rfl, terminal, rfl, rfl⟩)⟩
  | discard =>
    simp only [hd] at h
    cases ht : reconnectPendingTerminal workerClaim with
    | none => simp [ht] at h
    | some terminal =>
      simp only [ht] at h
      have hres : machine' = machine.setPending (some (replayCommitment terminal .discard)) := by
        split at h
        · split at h
          · cases h
          · simp only [EStateM.Result.ok.injEq, true_and] at h; exact h.symm
        · simp only [EStateM.Result.ok.injEq, true_and] at h; exact h.symm
      exact ⟨_, hres, .inr (.inr ⟨.inr rfl, terminal, rfl, rfl⟩)⟩

theorem applyDiscardTombstone_attempt (machine : ConformanceMachine) : ∃ sequence,
    machine.applyDiscardTombstone.attempt =
      { machine.attempt with worker := { machine.attempt.worker with sequence := sequence } } ∧
    (sequence = machine.attempt.worker.sequence ∨ ∃ pending ∈ machine.attempt.pendingWorkerTerminal,
      pending.decision = .discard ∧ sequence = pending.sequence ∧ machine.attempt.worker.sequence < sequence) := by
  unfold applyDiscardTombstone
  split
  · rename_i pending hp
    split
    · exact ⟨_, rfl, .inl rfl⟩
    · rename_i hraise
      simp only [not_or, ne_eq, Decidable.not_not, not_le] at hraise
      exact ⟨_, rfl, .inr ⟨pending, hp, hraise.1, rfl, hraise.2⟩⟩
  · exact ⟨_, rfl, .inl rfl⟩

theorem acceptReconnectAccepted_ok {accepted}
    (h : machine.acceptReconnectAccepted direction accepted = .ok () machine') :
    direction = .platformToWorker ∧ machine.connection = .reconnectPending ∧
      acceptedMatchesChallenge accepted.toNegotiationV1 machine.challenge machine.capabilityDigest ∧
      buildReconnectAcceptedV1 (machine.authoritativeRecord accepted) machine.reconnectClaim
        accepted.toNegotiationV1 = .ok accepted ∧
      ∃ installed, machine.installReplayCommitment (machine.authoritativeRecord accepted) machine.reconnectClaim
          accepted.replayPlan = .ok () installed ∧
        machine' = { (installed.applyAttemptSummary accepted.authoritativeAttempt).applyDiscardTombstone with
          connection := .attached } := by
  simp only [acceptReconnectAccepted, ite_refuse_eq_ok, not_or, ne_eq, Decidable.not_not] at h
  obtain ⟨⟨h1, h2, h3, h4⟩, h⟩ := h
  cases hi : machine.installReplayCommitment (machine.authoritativeRecord accepted) machine.reconnectClaim
      accepted.replayPlan with
  | error code m => simp [hi] at h
  | ok _ m =>
    simp only [hi, EStateM.Result.ok.injEq, true_and] at h
    exact ⟨h1, h2, h3, h4, m, rfl, h.symm⟩

/-- The guards of a `Manifest`. -/
structure ManifestGuard (machine : ConformanceMachine) (direction : Direction) (frame : FrameV1)
    (manifest : ManifestV1) : Prop where
  direction_eq : direction = .workerToPlatform
  connection_eq : machine.connection = .attached
  digest_eq : manifest.digest = machine.capabilityDigest
  worker_eq : manifest.manifest.workerId = machine.config.auth.workerId
  enrollment_eq : manifest.manifest.enrollmentGeneration = machine.config.auth.enrollmentGeneration
  offer_eq : manifest.manifest.protocolOffer = machine.config.workerOffer
  verified : verifyManifestV1 machine.config.auth frame manifest

/-- The machine after a `Manifest`: a reconnect returns to the state it left. -/
def admitManifest (machine : ConformanceMachine) (manifest : CapabilityManifestV1) : ConformanceMachine :=
  if machine.reconnecting then { machine with
    manifest := manifest
    connection := machine.reconnectTarget
    drainReenvelopePending := decide (machine.reconnectTarget = .draining)
    reconnecting := false }
  else { machine with manifest := manifest, connection := .ready }

theorem acceptManifest_ok {frame manifest} :
    machine.acceptManifest direction frame manifest = .ok () machine' ↔
    machine.ManifestGuard direction frame manifest ∧ machine.admitManifest manifest.manifest = machine' := by
  have hguard : (direction = .workerToPlatform ∧ machine.connection = .attached ∧
      manifest.digest = machine.capabilityDigest ∧ manifest.manifest.workerId = machine.config.auth.workerId ∧
      manifest.manifest.enrollmentGeneration = machine.config.auth.enrollmentGeneration ∧
      manifest.manifest.protocolOffer = machine.config.workerOffer ∧
      verifyManifestV1 machine.config.auth frame manifest) ↔ machine.ManifestGuard direction frame manifest :=
    ⟨fun ⟨h1, h2, h3, h4, h5, h6, h7⟩ => ⟨h1, h2, h3, h4, h5, h6, h7⟩,
      fun ⟨h1, h2, h3, h4, h5, h6, h7⟩ => ⟨h1, h2, h3, h4, h5, h6, h7⟩⟩
  simp only [acceptManifest, ite_refuse_eq_ok, not_or, ne_eq, Decidable.not_not]
  rw [hguard]
  by_cases hr : machine.reconnecting = true <;> simp [admitManifest, hr]

/-! ## Presence, drain and revocation -/

theorem acceptHeartbeat_ok {heartbeat} :
    machine.acceptHeartbeat direction heartbeat = .ok () machine' ↔
    (direction = .workerToPlatform ∧ (machine.connection = .ready ∨ machine.connection = .draining)) ∧
      (heartbeat.available = true → machine.connection = .ready) ∧ machine = machine' := by
  simp [acceptHeartbeat, ite_refuse_eq_ok, ← or_iff_not_imp_left]

theorem acceptDrain_ok {drain} : machine.acceptDrain direction drain = .ok () machine' ↔
    direction = .platformToWorker ∧
      ((machine.connection = .ready ∧ machine.drainRevision = 0 ∧ machine.drainReenvelopePending = false ∧
        machine' = { machine with drainRevision := drain.revision, connection := .draining }) ∨
      (machine.connection = .draining ∧ machine.drainReenvelopePending = true ∧
        machine.reconnectTarget = .draining ∧ machine.previousConnectionGeneration ≠ maxUint64 ∧
        machine.previousConnectionGeneration + 1 = machine.config.auth.connectionGeneration ∧
        drain.revision = machine.drainRevision ∧ machine' = { machine with drainReenvelopePending := false })) := by
  constructor
  · intro h
    simp only [acceptDrain, ite_refuse_eq_ok, ne_eq, Decidable.not_not] at h
    obtain ⟨hd, h⟩ := h
    refine ⟨hd, ?_⟩
    cases hc : machine.connection <;> simp only [hc, ite_refuse_eq_ok, reduceCtorEq] at h
    case ready =>
        obtain ⟨hg, h⟩ := h
        simp only [not_or, Decidable.not_not, Bool.not_eq_true, EStateM.Result.ok.injEq, true_and] at hg h
        exact .inl ⟨rfl, hg.1, hg.2, h.symm⟩
    case draining =>
        obtain ⟨hg, h⟩ := h
        simp only [not_or, Decidable.not_not, Bool.not_eq_false, EStateM.Result.ok.injEq, true_and] at hg h
        obtain ⟨h1, h2, h3, h4, h5⟩ := hg
        refine .inr ⟨rfl, h1, h2, h3, h4, h5, ?_⟩
        rw [← h, h5, ← hc]
  · rintro ⟨rfl, ⟨hc, h1, h2, rfl⟩ | ⟨hc, h1, h2, h3, h4, h5, rfl⟩⟩
    · simp [acceptDrain, hc, h1, h2]
    · simp [acceptDrain, hc, h1, h2, h3, h4, h5]

theorem acceptDrained_ok {drained} : machine.acceptDrained direction drained = .ok () machine' ↔
    (direction = .workerToPlatform ∧ machine.connection = .draining ∧ drained.revision = machine.drainRevision ∧
      machine.attempt.state = .idle) ∧ { machine with connection := .drained } = machine' := by
  simp [acceptDrained]

theorem acceptRevoke_ok {revoke} : machine.acceptRevoke direction revoke = .ok () machine' ↔
    (direction = .platformToWorker ∧ machine.connection ≠ .unattached ∧ machine.connection ≠ .revoked ∧
      machine.config.auth.enrollmentGeneration ≠ maxUint64 ∧ machine.config.auth.connectionGeneration ≠ maxUint64 ∧
      revoke.nextEnrollmentGeneration = machine.config.auth.enrollmentGeneration + 1 ∧
      revoke.nextConnectionGeneration = machine.config.auth.connectionGeneration + 1) ∧
      { machine with revoke := revoke, attempt := fenceAttempt machine.attempt, connection := .revoking } =
        machine' := by
  simp [acceptRevoke]

theorem acceptRevoked_ok {revoked} : machine.acceptRevoked direction revoked = .ok () machine' ↔
    (direction = .workerToPlatform ∧ machine.connection = .revoking ∧
      (machine.attempt.state = .idle ∨ machine.attempt.state = .terminalCommitted ∨ machine.attempt.state = .fenced) ∧
      revoked = machine.revoke) ∧ { machine with connection := .revoked } = machine' := by
  simp [acceptRevoked, ite_refuse_eq_ok, ← or_iff_not_imp_left]

/-! ## Attempt frames -/

theorem applyLeaseOffer_ok {message} : machine.applyLeaseOffer direction message = .ok () machine' ↔
    (direction = .platformToWorker ∧ machine.connection = .ready ∧ machine.attempt.state = .idle ∧
      message.attemptSequence = 1) ∧
      machine.setAttempt { machine.attempt with binding := message.binding, state := .offered } = machine' := by
  simp [applyLeaseOffer]

theorem applyLeaseClaim_ok : machine.applyLeaseClaim direction = .ok () machine' ↔
    (direction = .workerToPlatform ∧ machine.attempt.state = .offered) ∧
      machine.setAttempt { machine.attempt with state := .claimPending } = machine' := by
  simp [applyLeaseClaim]

theorem applyLeaseAccepted_ok : machine.applyLeaseAccepted direction = .ok () machine' ↔
    (direction = .platformToWorker ∧ machine.attempt.state = .claimPending) ∧
      machine.setAttempt { machine.attempt with state := .claimed } = machine' := by
  simp [applyLeaseAccepted]

theorem applyProgress_ok {message} : machine.applyProgress direction message = .ok () machine' ↔
    (direction = .workerToPlatform ∧ machine.hasFeature .progress ∧
      (machine.attempt.state = .claimed ∨ machine.attempt.state = .cancelRequested ∨
        machine.attempt.state = .cancelAcked) ∧
      machine.attempt.progressSequence ≠ maxUint64 ∧
      message.progressSequence = machine.attempt.progressSequence + 1) ∧
      machine.setAttempt { machine.attempt with progressSequence := message.progressSequence } = machine' := by
  simp [applyProgress, ite_refuse_eq_ok, ← or_iff_not_imp_left]

theorem applyCancel_ok {message} : machine.applyCancel direction message = .ok () machine' ↔
    (direction = .platformToWorker ∧ machine.hasFeature .cancellation ∧
      (machine.attempt.state = .offered ∨ machine.attempt.state = .claimPending ∨ machine.attempt.state = .claimed ∨
        machine.attempt.state = .terminalPending) ∧ message.cancelRevision = 1) ∧
      machine.setAttempt { clearTerminal machine.attempt with
        cancelRevision := message.cancelRevision
        cancelCode := message.code
        state := if message.code = .fenced then .fenced else .cancelRequested } = machine' := by
  simp [applyCancel, ite_refuse_eq_ok, ← or_iff_not_imp_left]

theorem applyCancelAck_ok {message} : machine.applyCancelAck direction message = .ok () machine' ↔
    (direction = .workerToPlatform ∧ machine.hasFeature .cancellation ∧
      (machine.attempt.state = .cancelRequested ∨ machine.attempt.state = .fenced) ∧
      message.cancelRevision = machine.attempt.cancelRevision) ∧
      machine.setAttempt { machine.attempt with
        state := if machine.attempt.state ≠ .fenced then .cancelAcked else machine.attempt.state } = machine' := by
  simp only [applyCancelAck, ite_refuse_eq_ok, not_or, ne_eq, Decidable.not_not, not_and, EStateM.Result.ok.injEq,
    true_and, ← or_iff_not_imp_left]

theorem applyTerminal_ok {message} (h : machine.applyTerminal direction message = .ok () machine') :
    (direction = .workerToPlatform ∧
      (machine.attempt.state = .claimed ∨ machine.attempt.state = .cancelRequested ∨
        machine.attempt.state = .cancelAcked ∨ machine.attempt.state = .fenced) ∧
      message.terminalSequence = 1 ∧ (message.status = .cancelled → machine.attempt.cancelRevision ≠ 0)) ∧
    ((machine.attempt.cancelRevision ≠ 0 ∧ message.status ≠ .cancelled ∧ machine.attempt.cancelCode ≠ .fenced ∧
        ¬ machine.Revoking ∧ machine' = machine) ∨
      ((machine.attempt.cancelRevision = 0 ∨ message.status = .cancelled) ∧
        machine' = machine.setAttempt { machine.attempt with
          terminalSequence := message.terminalSequence
          terminalStatus := message.status
          terminalResult := message.result
          terminalEvidence := message.evidenceDigest
          state := if machine.attempt.cancelCode ≠ .fenced ∧ ¬ machine.Revoking then .terminalPending
            else machine.attempt.state })) := by
  simp only [applyTerminal, ite_refuse_eq_ok, not_or, ne_eq, Decidable.not_not, not_and,
    ← or_iff_not_imp_left] at h
  obtain ⟨⟨h1, h2, h3, h4⟩, h⟩ := h
  have hguard : machine.attempt.state = .claimed ∨ machine.attempt.state = .cancelRequested ∨
      machine.attempt.state = .cancelAcked ∨ machine.attempt.state = .fenced := by
    simpa only [or_iff_not_imp_left] using h2
  refine ⟨⟨h1, hguard, h3, h4⟩, ?_⟩
  · split at h
    · rename_i hc
      simp only [ite_refuse_eq_ok, not_or, EStateM.Result.ok.injEq, true_and] at h
      exact .inl ⟨hc.1, hc.2, h.1.1, h.1.2, h.2.symm⟩
    · rename_i hc
      simp only [EStateM.Result.ok.injEq, true_and] at h
      refine .inr ⟨?_, h.symm⟩
      rw [not_and_or, Decidable.not_not, Decidable.not_not] at hc
      exact hc

theorem applyTerminalAck_ok {message} :
    machine.applyTerminalAck direction message = .ok () machine' ↔
    (direction = .platformToWorker ∧ machine.attempt.state = .terminalPending ∧ ¬ machine.Revoking ∧
      message.terminalSequence = machine.attempt.terminalSequence ∧ message.status = machine.attempt.terminalStatus ∧
      message.result = machine.attempt.terminalResult ∧ message.evidenceDigest = machine.attempt.terminalEvidence) ∧
      machine.setAttempt { machine.attempt with state := .terminalCommitted } = machine' := by
  simp [applyTerminalAck]

/-- The guards of a fresh attempt message, before its own transition. -/
structure AttemptGuard (machine : ConformanceMachine) (direction : Direction) (message : AttemptMessage)
    (nowUnixMicro : Int) : Prop where
  admitted : machine.pendingRefusal direction message = none
  notMax : (machine.attemptSender direction).sequence ≠ maxUint64
  sequence_eq : message.sequence = (machine.attemptSender direction).sequence + 1
  binding_eq : machine.attempt.state ≠ .idle → message.binding = machine.attempt.binding
  capability_eq : message.binding.capabilityDigest = machine.capabilityDigest
  lease : attemptRequiresValidLease message = true → nowUnixMicro < message.binding.expiresAtUnixMicro

theorem AttemptGuard.sequence_lt {message now} (hg : machine.AttemptGuard direction message now) :
    (machine.attemptSender direction).sequence < message.sequence := by
  rw [hg.sequence_eq]
  exact Nat.lt_succ_self _

theorem acceptAttempt_ok {message nowUnixMicro} :
    machine.acceptAttempt direction message nowUnixMicro = .ok () machine' ↔
    (machine.pendingRefusal direction message = none ∧
      message.sequence ≤ (machine.attemptSender direction).sequence ∧ message.sequence ≠ 0 ∧
      (machine.attemptSender direction).fingerprintAt message.sequence = attemptFingerprint message ∧
      machine = machine') ∨
    (machine.AttemptGuard direction message nowUnixMicro ∧
      ∃ applied, machine.applyAttemptTransition direction message = .ok () applied ∧
        applied.recordAttempt direction message = machine') := by
  unfold acceptAttempt
  cases hp : machine.pendingRefusal direction message with
  | some code =>
    simp only [reduceCtorEq, false_and, false_or, false_iff, not_and]
    intro hg
    rw [hg.admitted] at hp
    cases hp
  | none =>
    by_cases hs : message.sequence ≤ (machine.attemptSender direction).sequence
    · have hng : ¬ machine.AttemptGuard direction message nowUnixMicro := fun hg => by
        have := hg.sequence_eq; omega
      simp only [hs, if_true, hng, false_and, or_false, true_and]
      by_cases hd : message.sequence ≠ 0 ∧
          (machine.attemptSender direction).fingerprintAt message.sequence = attemptFingerprint message
      · simp [hd]
      · simp only [hd, if_false, reduceCtorEq, false_iff]
        exact fun h => hd ⟨h.1, h.2.1⟩
    · simp only [hs, if_false, ite_refuse_eq_ok, false_and, and_false, false_or]
      constructor
      · rintro ⟨h1, h2, h3, h4, h⟩
        simp only [not_or, ne_eq, Decidable.not_not, not_and, ge_iff_le, not_le] at h1 h2 h3 h4
        refine ⟨⟨hp, h1.1, h1.2, h2, h3, h4⟩, ?_⟩
        cases ha : machine.applyAttemptTransition direction message with
        | error code m => simp [ha] at h
        | ok _ m =>
          simp only [ha, EStateM.Result.ok.injEq, true_and] at h
          exact ⟨m, rfl, h⟩
      · rintro ⟨hg, m, ha, h⟩
        refine ⟨?_, ?_, ?_, ?_, ?_⟩
        · simp only [not_or, ne_eq, Decidable.not_not]; exact ⟨hg.notMax, hg.sequence_eq⟩
        · simp only [not_and, ne_eq, Decidable.not_not]; exact hg.binding_eq
        · simp only [ne_eq, Decidable.not_not]; exact hg.capability_eq
        · simp only [not_and, ge_iff_le, not_le]; exact hg.lease
        · simp [ha, h]

theorem eraseCommittedAttempt_ok : machine.eraseCommittedAttempt = .ok () machine' ↔
    machine.attempt.state = .terminalCommitted ∧ machine.setAttempt {} = machine' := by
  simp only [eraseCommittedAttempt, ite_refuse_eq_ok, ne_eq, Decidable.not_not, EStateM.Result.ok.injEq, true_and]

/-! ## Reconnect and envelopes -/

/-- The machine a successful `BeginReconnect` leaves. -/
def reconnected (machine : ConformanceMachine) (next : AuthContextV1) : ConformanceMachine :=
  { machine with
    previousConnectionGeneration := machine.config.auth.connectionGeneration
    reconnectWatermarks := machine.currentWatermarks
    reconnectAttempt := machine.currentAttemptSummary
    reconnectTarget := machine.connection
    config := { machine.config with auth := next }
    connection := .unattached
    platform := {}
    worker := {}
    hello := {}
    challenge := {}
    reconnecting := true }

/-- The guards of `BeginReconnect`. -/
structure BeginGuard (machine : ConformanceMachine) (next : AuthContextV1) : Prop where
  auth : next.Valid
  connection : machine.connection = .ready ∨ machine.connection = .draining
  tenant_eq : next.tenantId = machine.config.auth.tenantId
  owner_eq : next.ownerUserId = machine.config.auth.ownerUserId
  worker_eq : next.workerId = machine.config.auth.workerId
  key_eq : next.identityPublicKey = machine.config.auth.identityPublicKey
  enrollment_eq : next.enrollmentGeneration = machine.config.auth.enrollmentGeneration
  version_eq : next.version = machine.config.auth.version
  notReconnecting : machine.reconnecting = false
  noReenvelope : machine.drainReenvelopePending = false
  feature : machine.hasFeature .reconnect
  notMax : machine.config.auth.connectionGeneration ≠ maxUint64
  generation_eq : next.connectionGeneration = machine.config.auth.connectionGeneration + 1

theorem beginReconnect_ok {next} : machine.beginReconnect next = .ok () machine' ↔
    machine.BeginGuard next ∧ machine.reconnected next = machine' := by
  simp only [beginReconnect, ite_refuse_eq_ok, not_or, ne_eq, Decidable.not_not, not_and, Bool.not_eq_true,
    EStateM.Result.ok.injEq, true_and, ← or_iff_not_imp_left]
  constructor
  · rintro ⟨⟨h1, h2, h3, h4, h5, h6, h7, h8, h9, h10, h11, h12, h13⟩, h⟩
    exact ⟨⟨h1, h2, h3, h4, h5, h6, h7, h8, h9, h10, h11, h12, h13⟩, h⟩
  · rintro ⟨⟨h1, h2, h3, h4, h5, h6, h7, h8, h9, h10, h11, h12, h13⟩, h⟩
    exact ⟨⟨h1, h2, h3, h4, h5, h6, h7, h8, h9, h10, h11, h12, h13⟩, h⟩

structure Fresh (machine : ConformanceMachine) (direction : Direction) (frame : FrameV1)
    (acceptance : AcceptanceContextV1) : Prop where
  authorized : machine.Authorized frame acceptance
  messageId_eq : frame.messageId = messageIdV1 direction frame.sequence
  notMax : (machine.sender direction).sequence ≠ maxUint64
  sequence_eq : frame.sequence = (machine.sender direction).sequence + 1
  ack_ge : (machine.sender direction).ack ≤ frame.ack
  ack_le : frame.ack ≤ (machine.peer direction).sequence

def envelope (frame : FrameV1) : SequenceState := ⟨frame.sequence, frame.ack, frameFingerprint frame⟩

theorem accept_ok {frame acceptance} :
    machine.accept direction frame acceptance = .ok () machine' ↔
    (machine.Authorized frame acceptance ∧ frame.messageId = messageIdV1 direction frame.sequence ∧
      frame.sequence = (machine.sender direction).sequence ∧ (machine.sender direction).sequence ≠ 0 ∧
      (machine.sender direction).fingerprint = frameFingerprint frame ∧ machine = machine') ∨
    (machine.Fresh direction frame acceptance ∧
      ∃ applied, machine.apply direction frame acceptance.nowUnixMicro = .ok () applied ∧
        applied.setSender direction (envelope frame) = machine') := by
  simp only [accept, ite_refuse_eq_ok, Decidable.not_not, ne_eq]
  by_cases hs : frame.sequence = (machine.sender direction).sequence
  · have hnf : ¬ machine.Fresh direction frame acceptance := fun hf => by
      have := hf.sequence_eq; omega
    simp only [hs, if_true, hnf, false_and, or_false, true_and]
    by_cases hd : ¬ (machine.sender direction).sequence = 0 ∧
        (machine.sender direction).fingerprint = frameFingerprint frame
    · simp [hd]
    · simp only [hd, if_false, reduceCtorEq, and_false, false_iff]
      exact fun h => hd ⟨h.2.2.1, h.2.2.2.1⟩
  · simp only [hs, if_false, ite_refuse_eq_ok, false_and, and_false, false_or]
    constructor
    · rintro ⟨h1, h2, h3, h⟩
      simp only [not_or, Decidable.not_not, not_lt, gt_iff_lt] at h3
      refine ⟨⟨h1, h2, h3.1, h3.2.1, h3.2.2.1, h3.2.2.2⟩, ?_⟩
      cases ha : machine.apply direction frame acceptance.nowUnixMicro with
      | error code m => simp [ha] at h
      | ok _ m =>
        simp only [ha, EStateM.Result.ok.injEq, true_and] at h
        exact ⟨m, rfl, h⟩
    · rintro ⟨hf, m, ha, h⟩
      refine ⟨hf.authorized, hf.messageId_eq, ?_, ?_⟩
      · simp only [not_or, Decidable.not_not, not_lt, gt_iff_lt]
        exact ⟨hf.notMax, hf.sequence_eq, hf.ack_ge, hf.ack_le⟩
      · simp only [ha, EStateM.Result.ok.injEq, true_and]
        exact h

end ConformanceMachine

end Sessionless.Protocol
