import Sessionless.Protocol.Redial
import Sessionless.Protocol.Lemmas.Apart

/-!
# Accepting a reconnect

When the platform has an answer to the worker's claim, both parties accept the whole
handshake and adopt the platform's attempt.
-/

set_option linter.unusedSectionVars false
set_option maxRecDepth 2000

namespace Sessionless.Protocol

open Lib

variable [Crypto]

/-! ## Adopting the platform's attempt -/

def pendingAfter (claim : ReconnectSnapshotV1) : ReconnectTerminalDecision → Option TerminalReplayCommitment
  | .none | .committed => none
  | decision => (reconnectPendingTerminal claim).map fun terminal =>
    ConformanceMachine.replayCommitment terminal decision

theorem exists_pending_of_decision {authoritative claim}
    (h : terminalDecision authoritative claim = .replay ∨ terminalDecision authoritative claim = .discard) :
    ∃ terminal, reconnectPendingTerminal claim = some terminal := by
  unfold terminalDecision at h
  split at h
  · simp at h
  · split at h
    · simp at h
    · rename_i terminal hp
      exact ⟨terminal, hp⟩

theorem MachineConfig.frame_valid {config : MachineConfig} {direction sequence ack payload} (hauth : config.auth.Valid)
    (hid : validOpaque (messageIdV1 direction sequence)) (hsequence : sequence ≠ 0) (hpayload : payload.Valid) :
    (config.frame direction sequence ack payload).Valid :=
  ⟨⟨hauth.2.2.2.2.2.2.1, hid, hauth.2.2.1, hauth.2.2.2.2.1, hauth.2.2.2.2.2.1, hsequence⟩, hpayload⟩

namespace ConformanceMachine

variable {machine machine' : ConformanceMachine}

theorem setPending_none (h : machine.attempt.pendingWorkerTerminal = none) : machine.setPending none = machine := by
  unfold setPending
  rw [← h]

theorem installReplayCommitment_of_none {authoritative claim plan} (h : machine.attempt.pendingWorkerTerminal = none)
    (hd : plan.terminalDecision = terminalDecision authoritative claim) :
    machine.installReplayCommitment authoritative claim plan =
      .ok () (machine.setPending (pendingAfter claim (terminalDecision authoritative claim))) := by
  cases hdecision : terminalDecision authoritative claim with
  | none => simp only [installReplayCommitment, hd, hdecision, h, pendingAfter, setPending_none h]
  | committed => simp only [installReplayCommitment, hd, hdecision, pendingAfter]
  | replay =>
    obtain ⟨terminal, hp⟩ := exists_pending_of_decision (.inl hdecision)
    simp only [installReplayCommitment, hd, hdecision, h, hp, pendingAfter, Option.map_some]
  | discard =>
    obtain ⟨terminal, hp⟩ := exists_pending_of_decision (.inr hdecision)
    simp only [installReplayCommitment, hd, hdecision, h, hp, pendingAfter, Option.map_some]

theorem content_adopted {authoritative claim} :
    (((machine.setPending (pendingAfter claim (terminalDecision authoritative claim))).applyAttemptSummary
      authoritative.attempt).applyDiscardTombstone).attempt.content =
      { authoritative.attempt with workerSequence := workerAttemptAfter authoritative claim, digest := [] } := by
  cases hdecision : terminalDecision authoritative claim with
  | none | committed =>
    simp [pendingAfter, applyDiscardTombstone, applyAttemptSummary, setPending, AttemptRecord.content,
      workerAttemptAfter, hdecision, pruneAttemptFingerprints]
  | replay =>
    obtain ⟨terminal, hp⟩ := exists_pending_of_decision (.inl hdecision)
    simp [pendingAfter, applyDiscardTombstone, applyAttemptSummary, setPending, AttemptRecord.content,
      workerAttemptAfter, hdecision, hp, replayCommitment, pruneAttemptFingerprints]
  | discard =>
    obtain ⟨terminal, hp⟩ := exists_pending_of_decision (.inr hdecision)
    have hsequence : pendingSequence claim = terminal.attemptSequence := by simp [pendingSequence, hp]
    by_cases hle : terminal.attemptSequence ≤ authoritative.attempt.workerSequence
    · simp [pendingAfter, applyDiscardTombstone, applyAttemptSummary, setPending, AttemptRecord.content,
        workerAttemptAfter, hdecision, hp, replayCommitment, pruneAttemptFingerprints, hsequence, hle, not_lt.2 hle]
    · simp [pendingAfter, applyDiscardTombstone, applyAttemptSummary, setPending, AttemptRecord.content,
        workerAttemptAfter, hdecision, hp, replayCommitment, pruneAttemptFingerprints, hsequence, hle, not_le.1 hle]

/-! ## Accepting the answer -/

theorem plannedAnswer_valid {authoritative claim negotiation}
    (ha : authoritative.Valid) (hc : claim.Valid) (hn : negotiation.Valid) :
    (plannedAnswer authoritative claim negotiation).Valid := by
  obtain ⟨-, hwatermarks, hattempt, hpending, -, -⟩ := ha
  refine ⟨hn, hwatermarks, hattempt, hpending, hc.2.2.1.1.1, ?_⟩
  have hsequence : pendingSequence claim ≤ maxAttemptMessages := by
    unfold pendingSequence
    split
    · rename_i terminal hp
      by_cases h0 : terminal.attemptSequence = 0
      · rw [h0]
        exact Nat.zero_le _
      · exact ((valid_of_reconnectPendingTerminal hc hp).2.2 h0).1.2.2
    · exact Nat.zero_le _
  show workerAttemptAfter authoritative claim ≤ maxAttemptMessages
  unfold workerAttemptAfter
  split
  · exact hsequence
  · exact hattempt.1.2.1

def answered (machine : ConformanceMachine) (authoritative claim : ReconnectSnapshotV1) : ConformanceMachine :=
  { ((machine.setPending (pendingAfter claim (terminalDecision authoritative claim))).applyAttemptSummary
      authoritative.attempt).applyDiscardTombstone with
    connection := .attached }

theorem acceptReconnectAccepted_planned {authoritative accepted}
    (hc : machine.connection = .reconnectPending) (hp : machine.attempt.pendingWorkerTerminal = none)
    (hm : acceptedMatchesChallenge accepted.toNegotiationV1 machine.challenge machine.capabilityDigest)
    (hr : machine.authoritativeRecord accepted = authoritative)
    (hb : buildReconnectAcceptedV1 authoritative machine.reconnectClaim accepted.toNegotiationV1 = .ok accepted) :
    machine.acceptReconnectAccepted .platformToWorker accepted =
      .ok () (machine.answered authoritative machine.reconnectClaim) := by
  obtain ⟨-, -, hanswer⟩ := buildReconnectAcceptedV1_ok.1 hb
  have hdecision : accepted.replayPlan.terminalDecision = terminalDecision authoritative machine.reconnectClaim := by
    rw [← hanswer]
    rfl
  have hattempt : accepted.authoritativeAttempt = authoritative.attempt := by
    rw [← hanswer]
    rfl
  simp only [acceptReconnectAccepted, hr]
  rw [if_neg]
  · simp only [installReplayCommitment_of_none hp hdecision, hattempt, answered]
  · rintro (hd | hc' | hm' | hb')
    · exact hd rfl
    · exact hc' hc
    · exact hm' hm
    · exact hb' hb

/-- What a party needs to accept the worker's claim and the platform's answer to it. -/
structure RedialGuard (machine : ConformanceMachine) (authoritative : ReconnectSnapshotV1) (reconnect : ReconnectV1)
    (acceptance : AcceptanceContextV1) : Prop where
  opening : machine.OpeningGuard reconnect.toNegotiationV1 acceptance
  platform_eq : machine.platform = {}
  worker_eq : machine.worker = {}
  reconnecting : machine.reconnecting = true
  generation_eq : reconnect.previousConnectionGeneration = machine.previousConnectionGeneration
  generation_ne : reconnect.previousConnectionGeneration ≠ maxUint64
  generation_succ : reconnect.previousConnectionGeneration + 1 = machine.config.auth.connectionGeneration
  verified : verifyReconnectV1 machine.config.auth
    (machine.config.frame .workerToPlatform 2 1 (.reconnect reconnect)) reconnect
  compatible : reconnectClaimsCompatible reconnect.claim machine.reconnectRecord
  capability : machine.capabilityDigest ≠ [] → reconnect.capabilityDigest = machine.capabilityDigest
  pending : machine.attempt.pendingWorkerTerminal = none
  authority : ∃ watermarks attempt pending, authoritative = sealReconnectSnapshot
    { previousConnectionGeneration := machine.previousConnectionGeneration
      watermarks := watermarks, attempt := attempt, pendingTerminalReplay := pending }

theorem RedialGuard.acceptAll {authoritative reconnect acceptance accepted}
    (h : machine.RedialGuard authoritative reconnect acceptance)
    (hbuild : buildReconnectAcceptedV1 authoritative reconnect.claim reconnect.toNegotiationV1 = .ok accepted) :
    ∃ final, machine.acceptAll acceptance (machine.config.redialFrames reconnect accepted) = .ok final ∧
      final.attempt.content = { authoritative.attempt with
        workerSequence := accepted.replayPlan.workerAttemptAfter, digest := [] } := by
  obtain ⟨⟨hauthoritative, hclaim, hnegotiation, -, -⟩, -, rfl⟩ := buildReconnectAcceptedV1_ok.1 hbuild
  obtain ⟨hauth, hchannel, hnow, -, -⟩ := h.opening.hello
  let signed := machine.config.frame .workerToPlatform 2 1 (.reconnect reconnect)
  let challenged := machine.opened reconnect.toNegotiationV1
  let pended := challenged.reconnectPended signed reconnect
  let answer := plannedAnswer authoritative reconnect.claim reconnect.toNegotiationV1
  -- the signed claim
  have hreconnect : challenged.accept .workerToPlatform signed acceptance = .ok () pended := by
    refine (accept_next (by simp [signed, challenged, MachineConfig.frame, sender, opened, envelope])).2 ⟨?_, ?_⟩
    · refine ⟨⟨hauth, hchannel, hnow, h.verified.1, rfl, rfl, rfl, rfl⟩, rfl, ?_, ?_, ?_, ?_⟩
      all_goals simp [signed, challenged, MachineConfig.frame, sender, peer, opened, envelope, maxUint64]
    · refine ⟨_, acceptReconnect_ok.2 ⟨?_, rfl⟩, rfl⟩
      exact ⟨rfl, rfl, h.reconnecting, h.generation_eq, h.generation_ne, h.generation_succ, ⟨rfl, rfl, rfl, rfl, rfl⟩,
        h.verified, h.compatible, h.capability⟩
  -- the answer
  have happlied : pended.acceptReconnectAccepted .platformToWorker answer =
      .ok () (pended.answered authoritative reconnect.claim) := by
    obtain ⟨watermarks, attempt, pending, rfl⟩ := h.authority
    exact acceptReconnectAccepted_planned rfl h.pending ⟨⟨rfl, rfl, rfl, rfl, rfl⟩, rfl⟩ rfl hbuild
  have hvalid : (machine.config.reconnectAcceptedFrame answer).Valid := by
    exact MachineConfig.frame_valid hauth (by decide) (Nat.succ_ne_zero 1)
      (plannedAnswer_valid hauthoritative hclaim hnegotiation)
  have haccepted : pended.accept .platformToWorker (machine.config.reconnectAcceptedFrame answer) acceptance =
      .ok () ((pended.answered authoritative reconnect.claim).setSender .platformToWorker
        (envelope (machine.config.reconnectAcceptedFrame answer))) := by
    refine (accept_next ?_).2 ⟨?_, _, happlied, rfl⟩
    · simp [pended, challenged, MachineConfig.reconnectAcceptedFrame, MachineConfig.frame, sender, opened,
        reconnectPended, envelope]
    · refine ⟨⟨hauth, hchannel, hnow, hvalid, rfl, rfl, rfl, rfl⟩, rfl, ?_, ?_, ?_, ?_⟩
      all_goals simp [pended, challenged, signed, MachineConfig.reconnectAcceptedFrame, MachineConfig.frame, sender,
        peer, opened, reconnectPended, envelope, maxUint64]
  exact ⟨_, (acceptAll_opening h.platform_eq h.worker_eq).2 ⟨h.opening,
    acceptAll_cons.2 ⟨_, hreconnect, acceptAll_cons.2 ⟨_, haccepted, acceptAll_nil.2 rfl⟩⟩⟩, content_adopted⟩

/-! ## The records of a cut -/

/-- The record that a party with nothing pending seals when the connection is cut. -/
def cutRecord (machine : ConformanceMachine) : ReconnectSnapshotV1 :=
  sealReconnectSnapshot
    { previousConnectionGeneration := machine.config.auth.connectionGeneration
      watermarks := machine.currentWatermarks
      attempt := machine.currentAttemptSummary
      pendingTerminalReplay := none }

theorem reconnectRecord_reconnected {next} (h : machine.attempt.pendingWorkerTerminal = none) :
    (machine.reconnected next).reconnectRecord = machine.cutRecord := by
  simp only [reconnectRecord, reconnected, pendingTerminalForSnapshot, h, Option.map_none, cutRecord]

theorem Sound.cutRecord_valid (h : machine.Sound) : machine.cutRecord.Valid :=
  ⟨h.config.1.2.2.2.2.2.1, h.acks, h.currentAttemptSummary_valid, fun _ hmem => absurd hmem (by simp [cutRecord,
    sealReconnectSnapshot]), (Crypto.sha256 _).2, rfl⟩

theorem terminalDecision_cutRecord {platform worker : ConformanceMachine} (hp : platform.Sound) (hw : worker.Sound) :
    terminalDecision platform.cutRecord worker.cutRecord = .replay ↔
      platform.attempt.state ≠ .terminalCommitted ∧
        platform.attempt.terminalSequence < worker.attempt.terminalSequence ∧
        ¬ (platform.attempt.cancelRevision > 0 ∧ (platform.attempt.cancelCode = .fenced ∨
          (platform.attempt.cancelCode = .requested ∧ worker.attempt.terminalStatus ≠ .cancelled))) := by
  simp only [terminalDecision, reconnectPendingTerminal, cutRecord, sealReconnectSnapshot,
    currentAttemptSummary_of_tidy hp.tidy.attempt, currentAttemptSummary_of_tidy hw.tidy.attempt,
    AttemptRecord.content, cancellationOverridesTerminal]
  by_cases hc : platform.attempt.state = .terminalCommitted
  · simp [hc]
  · by_cases h0 : worker.attempt.terminalSequence = 0
    · simp [hc, h0]
    · by_cases hlt : platform.attempt.terminalSequence < worker.attempt.terminalSequence
      · simp only [hc, h0, if_false, hlt, gt_iff_lt, or_true, if_true]
        split <;> simp_all
      · simp [hc, h0, hlt]

/-- Two parties that started from one machine, when the connection is cut. -/
structure CutApart (platform worker : ConformanceMachine) : Prop where
  platformSound : platform.Sound
  workerSound : worker.Sound
  config_eq : worker.config = platform.config
  capability_eq : worker.capabilityDigest = platform.capabilityDigest
  sequence_le : worker.platform.sequence ≤ platform.platform.sequence
  ack_le : worker.platform.ack ≤ platform.platform.ack
  apart : platform.attempt.Apart worker.attempt
  platformRegular : platform.attempt.Regular
  workerRegular : worker.attempt.Regular

section

variable {platform worker : ConformanceMachine}

theorem CutApart.compatible (h : CutApart platform worker) :
    reconnectClaimsCompatible worker.cutRecord platform.cutRecord ↔
      if worker.attempt.state = .idle ∨ platform.attempt.state = .idle then
        worker.attempt.state = platform.attempt.state
      else activeAttemptsCompatible worker.attempt.content platform.attempt.content := by
  have hfront : worker.cutRecord.Valid ∧ platform.cutRecord.Valid ∧
      worker.cutRecord.previousConnectionGeneration = platform.cutRecord.previousConnectionGeneration ∧
      worker.cutRecord.watermarks.platformSequence ≤ platform.cutRecord.watermarks.platformSequence ∧
      worker.cutRecord.watermarks.platformAck ≤ platform.cutRecord.watermarks.platformAck ∧
      worker.cutRecord.attempt.platformSequence ≤ platform.cutRecord.attempt.platformSequence := by
    refine ⟨h.workerSound.cutRecord_valid, h.platformSound.cutRecord_valid, ?_, h.sequence_le, h.ack_le, ?_⟩
    · exact congrArg (fun config : MachineConfig => config.auth.connectionGeneration) h.config_eq
    · simp only [cutRecord, sealReconnectSnapshot, currentAttemptSummary_of_tidy h.platformSound.tidy.attempt,
        currentAttemptSummary_of_tidy h.workerSound.tidy.attempt]
      exact h.apart.sequence_le
  have hpending : ∀ pending ∈ platform.cutRecord.pendingTerminalReplay,
      reconnectPendingTerminal worker.cutRecord = some pending := by
    simp [cutRecord, sealReconnectSnapshot]
  unfold reconnectClaimsCompatible
  rw [and_iff_right hfront, and_iff_right hpending]
  simp only [cutRecord, sealReconnectSnapshot, currentAttemptSummary_of_tidy h.platformSound.tidy.attempt,
    currentAttemptSummary_of_tidy h.workerSound.tidy.attempt]
  rfl

theorem CutApart.replayable (h : CutApart platform worker) (hr : Recoverable platform.attempt worker.attempt)
    (hd : terminalDecision platform.cutRecord worker.cutRecord = .replay) :
    platform.attempt.worker.sequence < worker.attempt.worker.sequence := by
  obtain ⟨hcommitted, hlt, hoverride⟩ := (terminalDecision_cutRecord h.platformSound h.workerSound).1 hd
  have hle := h.workerRegular.terminal_le
  have hcoherent := h.platformSound.attempt.coherent
  have hfenced : platform.attempt.cancelCode ≠ .fenced := by
    intro hcode
    have hrevision : platform.attempt.cancelRevision ≠ 0 := fun h0 => by
      rw [hcoherent.uncancelled h0] at hcode
      cases hcode
    exact hoverride ⟨by omega, .inl hcode⟩
  rcases h.apart.replay (by omega) (by omega) hfenced with hbehind | ⟨hpending, hrequested, heq⟩
  · exact hbehind
  · -- both parties used one worker sequence: the terminal at it reports a cancellation
    have hrevision : platform.attempt.cancelRevision = 1 := by
      have hadmits := hcoherent.admits
      rw [hrequested] at hadmits
      exact hadmits
    have hcode : platform.attempt.cancelCode = .requested :=
      (hcoherent.cancelled (by omega)).resolve_right hfenced
    have hstatus : worker.attempt.terminalStatus = .cancelled := by
      by_contra hne
      exact hoverride ⟨by omega, .inr ⟨hcode, hne⟩⟩
    exact absurd heq (hr.terminal hpending hstatus hrequested)

theorem CutApart.compatible_of_recoverable (h : CutApart platform worker)
    (hr : Recoverable platform.attempt worker.attempt) :
    reconnectClaimsCompatible worker.cutRecord platform.cutRecord := by
  rw [h.compatible]
  by_cases hw : worker.attempt.state = .idle
  · simp [hw, hr.offered hw]
  · have hp : platform.attempt.state ≠ .idle := fun hp => hw (h.apart.idle hp)
    rw [if_neg (by simp [hw, hp])]
    refine ⟨h.apart.binding_eq hw, h.apart.revision_le, ?_, ?_, ?_⟩
    · rcases h.apart.states hw with hstates | ⟨hclaim, hcancelled⟩
      · exact hstates
      · obtain ⟨h1, h2⟩ := hr.claimed hclaim
        exact (hcancelled.elim h1 h2).elim
    · rintro ⟨hrevision, -, hcode⟩
      exact hcode (hr.code (Nat.pos_iff_ne_zero.1 hrevision))
    · rintro ⟨htw, htp, hdiffer⟩
      have htw' := Nat.pos_iff_ne_zero.1 htw
      have htp' := Nat.pos_iff_ne_zero.1 htp
      rcases h.apart.outcome htw' htp' with houtcome | ⟨hfw, hfp⟩
      · simp only [AttemptRecord.outcome, Prod.mk.injEq] at houtcome
        obtain ⟨-, hstatus, hresult, hevidence⟩ := houtcome
        simp only [AttemptRecord.content, hstatus, hresult, hevidence] at hdiffer
        simp at hdiffer
      · obtain ⟨hresult, hevidence⟩ := hr.evidence hfw hfp htw' htp'
        have hsw := h.workerSound.attempt.coherent.fenced (h.workerRegular.fenced.1 hfw) htw'
        have hsp := h.platformSound.attempt.coherent.fenced (h.platformRegular.fenced.1 hfp) htp'
        simp only [AttemptRecord.content, hsw, hsp, hresult, hevidence] at hdiffer
        simp at hdiffer

theorem CutApart.recoverable_of_compatible (h : CutApart platform worker)
    (hc : reconnectClaimsCompatible worker.cutRecord platform.cutRecord)
    (hd : terminalDecision platform.cutRecord worker.cutRecord = .replay →
      platform.attempt.worker.sequence < worker.attempt.worker.sequence) :
    Recoverable platform.attempt worker.attempt := by
  rw [h.compatible] at hc
  have hactive : worker.attempt.state ≠ .idle →
      activeAttemptsCompatible worker.attempt.content platform.attempt.content := by
    intro hw
    rwa [if_neg (by simp [hw, mt h.apart.idle hw])] at hc
  refine ⟨fun hw => ?_, fun hw => ?_, fun hrevision => ?_, fun hs hstatus hrequested heq => ?_,
    fun hfw hfp htw htp => ?_⟩
  · rw [if_pos (.inl hw)] at hc
    exact hc.symm.trans hw
  · have hstates := (hactive (by rcases hw with hw | hw <;> simp [hw])).2.2.1
    constructor <;> intro hp <;> rcases hw with hw | hw <;>
      simp [AttemptRecord.content, hw, hp, reconnectStatesCompatible] at hstates
  · have hw : worker.attempt.state ≠ .idle := fun hw =>
      hrevision (h.workerSound.attempt.coherent.idle hw).2.2.2.1
    by_contra hcode
    have hle := h.apart.revision_le
    exact (hactive hw).2.2.2.1 ⟨Nat.pos_iff_ne_zero.2 hrevision,
      Nat.pos_iff_ne_zero.2 (by simp only [AttemptRecord.content]; omega), hcode⟩
  · have hfinished : worker.attempt.terminalSequence = 1 := by
      have hadmits := h.workerSound.attempt.coherent.admits
      rw [hs] at hadmits
      exact hadmits
    have hunfinished : platform.attempt.terminalSequence = 0 :=
      h.platformRegular.unfinished (by simp [hrequested]) (by simp [hrequested]) (by simp [hrequested])
    have hfenced : platform.attempt.cancelCode ≠ .fenced := fun hcode => by
      have := h.platformRegular.fenced.2 hcode
      rw [hrequested] at this
      cases this
    have hreplay := (terminalDecision_cutRecord h.platformSound h.workerSound).2
      ⟨by simp [hrequested], by omega, by simp [hfenced, hstatus]⟩
    have := hd hreplay
    omega
  · have hdiffer := (hactive (by simp [hfw])).2.2.2.2
    by_contra hne
    refine hdiffer ⟨Nat.pos_iff_ne_zero.2 htw, Nat.pos_iff_ne_zero.2 htp, .inr ?_⟩
    rwa [not_and_or] at hne

theorem CutApart.self (hs : worker.Sound) (hr : worker.attempt.Regular) : CutApart worker worker where
  platformSound := hs
  workerSound := hs
  config_eq := rfl
  capability_eq := rfl
  sequence_le := le_refl _
  ack_le := le_refl _
  apart := (AttemptRecord.PlatformAhead.refl _).apart (.refl _) hr hr
  platformRegular := hr
  workerRegular := hr

theorem recoverable_self (attempt : AttemptRecord) : Recoverable attempt attempt where
  offered := id
  claimed := by rintro (h | h) <;> simp [h]
  code := fun _ => rfl
  terminal := fun h _ h' => by rw [h] at h'; cases h'
  evidence := fun _ _ _ _ => ⟨rfl, rfl⟩

theorem OpeningGuard.of_config {machine other : ConformanceMachine} {negotiation acceptance} (h : machine.OpeningGuard negotiation acceptance)
    (hc : other.config = machine.config) (hu : other.connection = .unattached) :
    other.OpeningGuard negotiation acceptance := by
  obtain ⟨h1, h2, -, h3, h4, h5, h6⟩ := h
  simp only [Authorized] at h1 h2
  rw [← hc] at h1 h2 h3 h4 h5 h6
  exact ⟨h1, h2, hu, h3, h4, h5, h6⟩

end

end ConformanceMachine

section

variable {platform worker platform' worker' : ConformanceMachine} {next : AuthContextV1} {reconnect : ReconnectV1}
  {now : Int}

open ConformanceMachine

theorem Redial.claim_eq (h : Redial platform worker next reconnect now platform' worker') :
    reconnect.claim = worker'.reconnectRecord := by
  obtain ⟨unsigned, hbuild, hreconnect⟩ := h.claim
  simp only [buildReconnectV1, ite_error_eq_ok, Except.ok.injEq] at hbuild
  obtain ⟨-, rfl⟩ := hbuild
  rw [hreconnect]
  rfl

theorem Redial.guard (h : Redial platform worker next reconnect now platform' worker') (ha : CutApart platform worker)
    {machine : ConformanceMachine} (hconfig : machine.config = worker.config)
    (hcapability : machine.capabilityDigest = worker.capabilityDigest)
    (hpending : machine.attempt.pendingWorkerTerminal = none)
    (hc : reconnectClaimsCompatible worker.cutRecord machine.cutRecord) :
    (machine.reconnected next).RedialGuard platform.cutRecord reconnect
      ((machine.reconnected next).config.acceptance now) := by
  obtain ⟨hbegin, hworker⟩ := beginReconnect_ok.1 h.worker
  have hclaim : reconnect.claim = worker.cutRecord := by
    rw [h.claim_eq, ← hworker, reconnectRecord_reconnected ha.workerRegular.pending]
  have hgeneration : reconnect.previousConnectionGeneration = worker.config.auth.connectionGeneration :=
    congrArg ReconnectSnapshotV1.previousConnectionGeneration hclaim
  have hsame : (machine.reconnected next).config = worker'.config := by
    rw [← hworker]
    simp only [reconnected, hconfig]
  obtain ⟨opened, hopened⟩ := h.opened
  have hempty : worker'.platform = {} ∧ worker'.worker = {} := by
    rw [← hworker]
    exact ⟨rfl, rfl⟩
  rw [← List.append_nil (worker'.config.openingFrames _), acceptAll_opening hempty.1 hempty.2] at hopened
  have hguard := hopened.1
  refine ⟨?_, rfl, rfl, rfl, ?_, ?_, ?_, ?_, ?_, ?_, hpending, ?_⟩
  · rw [hsame]
    exact hguard.of_config hsame rfl
  · exact hgeneration.trans (by rw [← hconfig]; rfl)
  · rw [hgeneration]
    exact hbegin.notMax
  · rw [hgeneration]
    exact hbegin.generation_eq.symm
  · rw [hsame]
    exact h.signed
  · rw [hclaim, reconnectRecord_reconnected hpending]
    exact hc
  · intro _
    rw [h.capability, ← hworker]
    exact hcapability.symm
  · refine ⟨platform.currentWatermarks, platform.currentAttemptSummary, none, ?_⟩
    show platform.cutRecord = _
    simp only [cutRecord, reconnected, hconfig, ha.config_eq]

theorem adopts_of_content {accepted final} (hs : platform.Sound)
    (hb : buildReconnectAcceptedV1 platform.cutRecord worker.cutRecord reconnect.toNegotiationV1 = .ok accepted)
    (hf : final.attempt.content = { platform.cutRecord.attempt with
      workerSequence := accepted.replayPlan.workerAttemptAfter, digest := [] }) :
    Adopts platform accepted final := by
  have hsequence : platform.cutRecord.attempt.workerSequence = platform.attempt.worker.sequence := by
    simp only [cutRecord, sealReconnectSnapshot, currentAttemptSummary_of_tidy hs.tidy.attempt]
    rfl
  constructor
  · rw [hf]
    simp only [cutRecord, sealReconnectSnapshot, currentAttemptSummary_of_tidy hs.tidy.attempt]
    rfl
  · obtain ⟨-, -, rfl⟩ := buildReconnectAcceptedV1_ok.1 hb
    simp only [plannedAnswer, workerAttemptAfter, hsequence]
    split
    · rename_i hdiscard
      exact .inr hdiscard
    · exact .inl rfl

theorem reconciled_iff (ha : CutApart platform worker)
    (h : Redial platform worker next reconnect now platform' worker') :
    Reconciled platform reconnect now platform' worker' ↔ Recoverable platform.attempt worker.attempt := by
  have hplatform := (beginReconnect_ok.1 h.platform).2
  have hworker := (beginReconnect_ok.1 h.worker).2
  have hrecord : platform'.reconnectRecord = platform.cutRecord := by
    rw [← hplatform, reconnectRecord_reconnected ha.platformRegular.pending]
  have hrecord' : worker'.reconnectRecord = worker.cutRecord := by
    rw [← hworker, reconnectRecord_reconnected ha.workerRegular.pending]
  have hsequences : terminalDecision platform.cutRecord worker.cutRecord = .replay →
      (platform.cutRecord.attempt.workerSequence < pendingSequence worker.cutRecord ↔
        platform.attempt.worker.sequence < worker.attempt.worker.sequence) := by
    intro hd
    have hlt := ((terminalDecision_cutRecord ha.platformSound ha.workerSound).1 hd).2.1
    have hne : worker.attempt.terminalSequence ≠ 0 := by omega
    simp [pendingSequence, reconnectPendingTerminal, cutRecord, sealReconnectSnapshot, AttemptRecord.content,
      currentAttemptSummary_of_tidy ha.platformSound.tidy.attempt,
      currentAttemptSummary_of_tidy ha.workerSound.tidy.attempt, hne]
  constructor
  · rintro ⟨hcompatible, accepted, hbuild, -⟩
    rw [hrecord, hrecord'] at hcompatible hbuild
    obtain ⟨-, hreplay, -⟩ := buildReconnectAcceptedV1_ok.1 hbuild
    exact ha.recoverable_of_compatible hcompatible fun hd => (hsequences hd).1 (hreplay hd)
  · intro hr
    have hcompatible := ha.compatible_of_recoverable hr
    have hclaim : reconnect.claim = worker.cutRecord := h.claim_eq.trans hrecord'
    have hnegotiation : reconnect.toNegotiationV1.Valid := by
      obtain ⟨unsigned, hbuild, -⟩ := h.claim
      simp only [buildReconnectV1, ite_error_eq_ok, not_or, Decidable.not_not] at hbuild
      exact hbuild.1.2
    have hbuild : buildReconnectAcceptedV1 platform.cutRecord worker.cutRecord reconnect.toNegotiationV1 =
        .ok (plannedAnswer platform.cutRecord worker.cutRecord reconnect.toNegotiationV1) :=
      buildReconnectAcceptedV1_ok.2 ⟨⟨ha.platformSound.cutRecord_valid, ha.workerSound.cutRecord_valid, hnegotiation,
        hcompatible.1.2.2.1.symm, hcompatible⟩, fun hd => (hsequences hd).2 (ha.replayable hr hd), rfl⟩
    have hself := (CutApart.self ha.workerSound ha.workerRegular).compatible_of_recoverable (recoverable_self _)
    have hguard := h.guard ha ha.config_eq.symm ha.capability_eq.symm ha.platformRegular.pending hcompatible
    have hguard' := h.guard ha rfl rfl ha.workerRegular.pending hself
    obtain ⟨platform'', hp, hpc⟩ := hguard.acceptAll (hclaim ▸ hbuild)
    obtain ⟨worker'', hw, hwc⟩ := hguard'.acceptAll (hclaim ▸ hbuild)
    rw [hplatform, hclaim] at hp
    rw [hworker, hclaim] at hw
    rw [hclaim] at hpc hwc
    rw [Reconciled, hrecord, hrecord']
    exact ⟨hcompatible, _, hbuild, platform'', worker'', hp, hw,
      adopts_of_content ha.platformSound hbuild hpc, adopts_of_content ha.platformSound hbuild hwc⟩

end

/-! ## Completed reconnects -/

structure ResumedFrom (machine : ConformanceMachine) (next : AuthContextV1) (accepted : ReconnectAcceptedV1)
    (resumed : ConformanceMachine) : Prop where
  auth : next.Valid
  config_eq : resumed.config = { machine.config with auth := next }
  platform : resumed.platform.sequence = 2 ∧ resumed.platform.ack = 2
  worker : resumed.worker.sequence = 3
  ledger : resumed.attempt.platform = ConformanceMachine.pruneAttemptFingerprints
    { machine.attempt.platform with sequence := accepted.authoritativeAttempt.platformSequence }
    accepted.authoritativeAttempt.platformSequence

section

variable {machine resumed : ConformanceMachine} {next : AuthContextV1} {reconnect : ReconnectV1}
  {accepted : ReconnectAcceptedV1} {manifest : ManifestV1} {now : Int}

open ConformanceMachine

theorem acceptReconnectAccepted_ledger {direction machine'}
    (h : machine.acceptReconnectAccepted direction accepted = .ok () machine') :
    machine'.attempt.platform = pruneAttemptFingerprints
      { machine.attempt.platform with sequence := accepted.authoritativeAttempt.platformSequence }
      accepted.authoritativeAttempt.platformSequence := by
  obtain ⟨-, -, -, -, installed, hinstall, rfl⟩ := acceptReconnectAccepted_ok h
  obtain ⟨pending, rfl, -⟩ := installReplayCommitment_ok hinstall
  obtain ⟨sequence, hattempt, -⟩ := applyDiscardTombstone_attempt
    ((machine.setPending pending).applyAttemptSummary accepted.authoritativeAttempt)
  simp only [hattempt]
  rfl

/-- The machine that has accepted the handshake up to the platform's answer. -/
def redialed (machine : ConformanceMachine) (reconnect : ReconnectV1) (accepted : ReconnectAcceptedV1)
    (attempt : AttemptRecord) : ConformanceMachine :=
  { (machine.opened reconnect.toNegotiationV1).reconnectPended
      (machine.config.frame .workerToPlatform 2 1 (.reconnect reconnect)) reconnect with
    attempt := attempt
    connection := .attached
    platform := envelope (machine.config.reconnectAcceptedFrame accepted) }

theorem acceptAll_redialFrames {acceptance rest} (hp : machine.platform = {}) (hw : machine.worker = {})
    (h : machine.acceptAll acceptance (machine.config.redialFrames reconnect accepted ++ rest) = .ok resumed) :
    ∃ attempt, attempt.platform = pruneAttemptFingerprints
        { machine.attempt.platform with sequence := accepted.authoritativeAttempt.platformSequence }
        accepted.authoritativeAttempt.platformSequence ∧
      (redialed machine reconnect accepted attempt).acceptAll acceptance rest = .ok resumed := by
  rw [MachineConfig.redialFrames, List.append_assoc, acceptAll_opening hp hw] at h
  obtain ⟨-, h⟩ := h
  obtain ⟨pended, hpended, h⟩ := acceptAll_cons.1 h
  obtain ⟨answered, hanswered, h⟩ := acceptAll_cons.1 h
  obtain ⟨-, -, rfl, -, applied, happlied, rfl⟩ := accept_reconnect_accepted rfl rfl rfl rfl rfl hpended hanswered
  have hledger := acceptReconnectAccepted_ledger happlied
  obtain ⟨attempt, rfl⟩ := acceptReconnectAccepted_attempt happlied
  exact ⟨attempt, hledger, h⟩

theorem Resumes.resumedFrom (h : Resumes machine next reconnect accepted manifest now resumed) :
    ResumedFrom machine next accepted resumed := by
  obtain ⟨begun, hbegin, hall⟩ := h
  obtain ⟨hguard, rfl⟩ := beginReconnect_ok.1 hbegin
  obtain ⟨attempt, hledger, hall⟩ := acceptAll_redialFrames rfl rfl hall
  obtain ⟨final, hfinal, hall⟩ := acceptAll_cons.1 hall
  cases acceptAll_nil.1 hall
  obtain ⟨-, admitted, hadmitted, rfl⟩ := (accept_next (by simp [MachineConfig.frame, sender, redialed, reconnectPended,
    envelope])).1 hfinal
  obtain ⟨-, rfl⟩ := acceptManifest_ok.1 hadmitted
  exact ⟨hguard.auth, rfl, ⟨rfl, rfl⟩, rfl, hledger⟩

theorem sealAttemptSummary_platformSequence (summary : AttemptSummaryV1) :
    (sealAttemptSummary summary).platformSequence = summary.platformSequence := by
  unfold sealAttemptSummary
  by_cases ht : summary.terminalSequence = 0 <;> by_cases hs : summary.state = .idle <;> simp [ht, hs]

theorem platformAttemptAfter_of_build {authoritative negotiation}
    (h : buildReconnectAcceptedV1 authoritative machine.cutRecord negotiation = .ok accepted) :
    accepted.replayPlan.platformAttemptAfter = machine.attempt.platform.sequence := by
  obtain ⟨-, -, rfl⟩ := buildReconnectAcceptedV1_ok.1 h
  exact sealAttemptSummary_platformSequence _

/-- A message at a used sequence is a duplicate, or it is refused: the ledger decides. -/
theorem ResumedFrom.unaffected_iff {platform' message}
    (h : ResumedFrom machine next accepted resumed) (hplatform : platform'.config = resumed.config)
    (henvelopes : platform'.platform.sequence = 2 ∧ platform'.worker.sequence = 3) (hv : message.Valid) (hnow : 0 < now)
    (h0 : message.sequence ≠ 0) (hle : message.sequence ≤ accepted.authoritativeAttempt.platformSequence) :
    Unaffected platform' resumed message now ↔
      machine.attempt.platform.fingerprintAt message.sequence = attemptFingerprint message := by
  let frame := resumed.config.frame .platformToWorker 3 3 (.attempt message)
  have hframe : platform'.nextFrame .platformToWorker (.attempt message) = frame := by
    simp only [nextFrame, hplatform, sender, peer, henvelopes, frame]
  have hauth : resumed.config.auth.Valid := by
    rw [h.config_eq]
    exact h.auth
  have hvalid : frame.Valid := MachineConfig.frame_valid hauth (by decide) (by decide) hv
  have hfresh : resumed.Fresh .platformToWorker frame (resumed.config.acceptance now) := by
    refine ⟨⟨hauth, rfl, hnow, hvalid, rfl, rfl, rfl, rfl⟩, rfl, ?_, ?_, ?_, ?_⟩
    all_goals simp [frame, MachineConfig.frame, sender, peer, h.platform, h.worker, maxUint64]
  have hsender : (resumed.attemptSender .platformToWorker).sequence = accepted.authoritativeAttempt.platformSequence := by
    simp only [attemptSender, h.ledger]
    rfl
  have hfingerprint : (resumed.attemptSender .platformToWorker).fingerprintAt message.sequence =
      machine.attempt.platform.fingerprintAt message.sequence := by
    simp [attemptSender, h.ledger, pruneAttemptFingerprints, AttemptSequenceState.fingerprintAt, OrderedMap.get?_filterKeys, hle]
  have hnext : frame.sequence ≠ (resumed.sender .platformToWorker).sequence := by
    simp [frame, MachineConfig.frame, sender, h.platform.1]
  have hpayload : resumed.apply .platformToWorker frame (resumed.config.acceptance now).nowUnixMicro =
      resumed.acceptAttempt .platformToWorker message now := rfl
  rw [Unaffected, hframe]
  constructor
  · rintro ⟨machine', haccept, -⟩
    obtain ⟨-, applied, happlied, -⟩ := (accept_next hnext).1 haccept
    rw [hpayload] at happlied
    rcases acceptAttempt_ok.1 happlied with ⟨-, -, -, heq, -⟩ | ⟨hguard, -⟩
    · exact hfingerprint ▸ heq
    · have := hguard.sequence_eq
      omega
  · intro heq
    have hdup : resumed.acceptAttempt .platformToWorker message now = .ok () resumed :=
      acceptAttempt_ok.2 (.inl ⟨rfl, hsender ▸ hle, h0, hfingerprint ▸ heq, rfl⟩)
    exact ⟨_, (accept_next hnext).2 ⟨hfresh, resumed, hpayload.trans hdup, rfl⟩, rfl⟩

end

/-! ## Runs up to the cut -/

namespace Connection

open ConformanceMachine

variable {connection : Connection}

theorem sound_takesAttempt {direction machine machine' frame}
    (h : TakesAttempt direction machine frame machine') (hs : machine.Sound) : machine'.Sound := by
  obtain ⟨⟨message, hpayload⟩, -, -, now, haccept⟩ := h
  have hadmissible : machine.Admissible (.accept direction frame (machine.config.acceptance now)) := by
    right
    rw [hpayload]
    trivial
  exact hs.perform hadmissible haccept

theorem sound_run {start} (hs : start.Sound) (run : Relation.ReflTransGen AttemptStep (.initial start) connection) :
    connection.platform.Sound ∧ connection.worker.Sound := by
  induction run with
  | refl => exact ⟨hs, hs⟩
  | tail _ step ih =>
    cases step with
    | sendLeft taken => exact ⟨sound_takesAttempt taken ih.1, ih.2⟩
    | sendRight taken => exact ⟨ih.1, sound_takesAttempt taken ih.2⟩
    | arriveRight head taken => exact ⟨ih.1, sound_takesAttempt taken ih.2⟩
    | arriveLeft head taken => exact ⟨sound_takesAttempt taken ih.1, ih.2⟩

theorem cutApart_run {start} (hs : start.Sound) (hsettled : start.Settled)
    (run : Relation.ReflTransGen AttemptStep (.initial start) connection) :
    CutApart connection.platform connection.worker := by
  have hparted := parted_run hsettled run
  obtain ⟨hplatform, hworker⟩ := sound_run hs run
  obtain ⟨hapart, hregular, hregular'⟩ := hparted.apart
  obtain ⟨hsequence, hack⟩ := follows_le hparted.envelopes
  have hsame := hparted.platform.machine_eq
  have hsame' := hparted.worker.machine_eq
  exact ⟨hplatform, hworker, by rw [hsame, hsame'], by rw [hsame, hsame'], hsequence, hack, hapart, hregular, hregular'⟩

def Action.IsAttempt : Action → Prop
  | .platformSends payload | .workerSends payload => payload.IsAttempt
  | .platformTakes | .workerTakes => True

theorem attemptRun_of_play {now connection' actions}
    (hactions : ∀ action ∈ actions, action.IsAttempt) (hr : ∀ frame ∈ connection.toRight, frame.payload.IsAttempt)
    (hl : ∀ frame ∈ connection.toLeft, frame.payload.IsAttempt) (h : connection.play now actions = some connection') :
    Relation.ReflTransGen AttemptStep connection connection' := by
  induction actions generalizing connection with
  | nil => cases h; exact .refl
  | cons action rest ih =>
    obtain ⟨next, hact, hrest⟩ := Option.bind_eq_some_iff.1 h
    have hrest' := fun action hmem => hactions action (List.mem_cons_of_mem _ hmem)
    have haction := hactions action List.mem_cons_self
    cases action with
    | platformSends payload =>
      obtain ⟨machine, ht, rfl⟩ := Option.map_eq_some_iff.1 hact
      refine .head (.sendLeft ⟨by exact haction, takes_of_take ht⟩) (ih hrest' (fun frame hmem => ?_) hl hrest)
      rcases List.mem_append.1 hmem with hmem | hmem
      · exact hr frame hmem
      · rw [List.mem_singleton.1 hmem]
        exact haction
    | workerSends payload =>
      obtain ⟨machine, ht, rfl⟩ := Option.map_eq_some_iff.1 hact
      refine .head (.sendRight ⟨by exact haction, takes_of_take ht⟩) (ih hrest' hr (fun frame hmem => ?_) hrest)
      rcases List.mem_append.1 hmem with hmem | hmem
      · exact hl frame hmem
      · rw [List.mem_singleton.1 hmem]
        exact haction
    | platformTakes =>
      simp only [act] at hact
      split at hact
      · cases hact
      · rename_i frame others hhead
        obtain ⟨machine, ht, rfl⟩ := Option.map_eq_some_iff.1 hact
        rw [hhead] at hl
        exact .head (.arriveLeft hhead ⟨hl frame List.mem_cons_self, takes_of_take ht⟩)
          (ih hrest' hr (fun other hmem => hl other (List.mem_cons_of_mem _ hmem)) hrest)
    | workerTakes =>
      simp only [act] at hact
      split at hact
      · cases hact
      · rename_i frame others hhead
        obtain ⟨machine, ht, rfl⟩ := Option.map_eq_some_iff.1 hact
        rw [hhead] at hr
        exact .head (.arriveRight hhead ⟨hr frame List.mem_cons_self, takes_of_take ht⟩)
          (ih hrest' (fun other hmem => hr other (List.mem_cons_of_mem _ hmem)) hl hrest)

end Connection

end Sessionless.Protocol
