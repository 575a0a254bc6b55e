import Sessionless.Protocol.Reference

/-!
# Replaying an accepted reconnect

`ReplayReconnectAcceptedV1` rebuilds the answer to a signed reconnect from the snapshot the first answer left. The
persisted reconnect state has no pending terminal, so the answer is the same exactly when the predecessor had none
either.
-/

namespace Sessionless.Protocol

open Lib ConformanceMachine

section

variable [Crypto]

theorem buildReconnectAcceptedV1_pending {authoritative claim negotiation payload} (h : buildReconnectAcceptedV1 authoritative claim negotiation = .ok payload) :
    payload.authoritativePendingTerminalReplay = authoritative.pendingTerminalReplay := by
  obtain ⟨-, -, rfl⟩ := buildReconnectAcceptedV1_ok.1 h
  rfl

def ReconnectSnapshotV1.withoutPending (record : ReconnectSnapshotV1) : ReconnectSnapshotV1 :=
  sealReconnectSnapshot { record with pendingTerminalReplay := none }

namespace ReconnectBuild

variable {previousConfig : MachineConfig} {previousSnapshot : MachineSnapshotV1} {nextAuth : AuthContextV1}
  {signed accepted : FrameV1} {post : MachineSnapshotV1} {reconnect : ReconnectV1} {payload : ReconnectAcceptedV1}
  {machine final : ConformanceMachine}
  (h : ReconnectBuild previousConfig previousSnapshot nextAuth signed accepted post reconnect payload machine final)

include h

theorem post_reconnect : post.reconnect = some {
    target := machine.connection
    previousConnectionGeneration := machine.config.auth.connectionGeneration
    watermarks := machine.currentWatermarks
    attempt := machine.currentAttemptSummary
    claim := some reconnect.claim } := by
  obtain ⟨attempt, hf⟩ := h.final_eq
  obtain ⟨digest, -, -, rfl⟩ := snapshot_ok.1 h.persisted
  have hclaim : reconnect.claim.Valid := h.claimed.compatible.1.1
  simp [snapshotContent, snapshotReconnect, hf, reconnectPended, opened, reconnected, hclaim]

theorem post_records : post.connection = .attached ∧ post.hello ≠ none ∧
    post.challenge = some reconnect.toNegotiationV1.challenge ∧ post.capabilityDigest = reconnect.capabilityDigest := by
  obtain ⟨attempt, hf⟩ := h.final_eq
  obtain ⟨digest, -, hcontent, rfl⟩ := snapshot_ok.1 h.persisted
  have hconn : (final.snapshotContent digest).connection = .attached := by rw [hf]; rfl
  have hnegotiated : (final.snapshotContent digest).Negotiated := by
    have hv := hcontent.2.2
    rw [hconn] at hv
    exact hv.1
  obtain ⟨hhello, hchallenge, -⟩ := hnegotiated
  obtain ⟨challenge, hc⟩ := Option.ne_none_iff_exists'.1 hchallenge
  obtain ⟨-, rfl⟩ := mem_present.1 hc
  exact ⟨hconn, hhello, by rw [hc, hf]; rfl, by rw [hf]; rfl⟩

theorem replay_ok {answer} :
    replayReconnectAcceptedV1 (nextConfig previousConfig nextAuth) post signed = .ok answer ↔
      ∃ payload', buildReconnectAcceptedV1 (machine.reconnected nextAuth).reconnectRecord.withoutPending
          reconnect.claim reconnect.toNegotiationV1 = .ok payload' ∧
        answer = (nextConfig previousConfig nextAuth).reconnectAcceptedFrame payload' ∧
        ∃ next, (restoreFields (nextConfig previousConfig nextAuth) post).accept .platformToWorker answer
            ((nextConfig previousConfig nextAuth).acceptance 1) = .ok () next ∧
          ∃ replayed, next.snapshot = .ok replayed ∧ replayed.digest = post.digest := by
  have hrestore : restoreConformanceMachine (nextConfig previousConfig nextAuth) post =
      .ok (restoreFields (nextConfig previousConfig nextAuth) post) := by
    rw [← h.final_config]; exact h.agrees.restore h.persisted
  obtain ⟨hconn, hhello, hchallenge, hcap⟩ := h.post_records
  have hverify : verifyReconnectV1 (nextConfig previousConfig nextAuth).auth signed reconnect := h.claimed.verified
  have hclaim : reconnect.claim.Valid := h.claimed.compatible.1.1
  have hneg : negotiationMatchesChallenge reconnect.toNegotiationV1 reconnect.toNegotiationV1.challenge :=
    h.claimed.negotiation
  simp only [replayReconnectAcceptedV1, hrestore, h.post_reconnect, h.signed_payload, hchallenge, hconn, hverify,
    hclaim, hhello, hneg, hcap, ne_eq, not_true_eq_false, or_self, if_false]
  constructor
  · intro hr
    split at hr
    · cases hr
    · rename_i payload' hbuilt
      split at hr
      · cases hr
      · rename_i next hnext
        split at hr
        · cases hr
        · rename_i replayed hreplayed
          simp only [ite_error_eq_ok, Decidable.not_not, Except.ok.injEq] at hr
          obtain ⟨hdigest, rfl⟩ := hr
          exact ⟨payload', hbuilt, rfl, next, hnext, replayed, hreplayed, hdigest⟩
  · rintro ⟨payload', hbuilt, rfl, next, hnext, replayed, hreplayed, hdigest⟩
    have hbuilt' : buildReconnectAcceptedV1 (MachineReconnectStateV1.authoritative {
        target := machine.connection
        previousConnectionGeneration := machine.config.auth.connectionGeneration
        watermarks := machine.currentWatermarks
        attempt := machine.currentAttemptSummary
        claim := some reconnect.claim } none) reconnect.claim reconnect.toNegotiationV1 = .ok payload' := hbuilt
    simp [hbuilt', hnext, hreplayed, hdigest]

theorem accept_answer : (restoreFields (nextConfig previousConfig nextAuth) post).accept .platformToWorker accepted
    ((nextConfig previousConfig nextAuth).acceptance 1) =
      .ok () (restoreFields (nextConfig previousConfig nextAuth) post) := by
  have hauth := h.accepted_fresh.authorized
  obtain ⟨attempt, hf⟩ := h.final_eq
  obtain ⟨digest, -, -, hpost⟩ := snapshot_ok.1 h.persisted
  have hplatform : post.platform = snapshotEnvelope (envelope accepted) := by rw [← hpost, hf]; rfl
  obtain ⟨_, _, _, _, _, _, _, heq⟩ := restoreFields_eq (nextConfig previousConfig nextAuth) post
  have hseq : accepted.sequence = 2 := by rw [h.accepted_eq]; rfl
  have hsender : (restoreFields (nextConfig previousConfig nextAuth) post).platform = envelope accepted := by
    rw [heq, hplatform]
    exact restoreEnvelope_snapshot (fun h0 => by simp [envelope, hseq] at h0)
  refine accept_ok.2 (.inl ⟨?_, h.accepted_fresh.messageId_eq, ?_, ?_, ?_, rfl⟩)
  · have hconfig : (((machine.reconnected nextAuth).opened reconnect.toNegotiationV1).reconnectPended signed
        reconnect).config = nextConfig previousConfig nextAuth := h.config_eq
    simp only [Authorized, hconfig, h.config_eq, restoreFields_config] at hauth ⊢
    exact hauth
  · simp [sender, hsender, envelope]
  · simp [sender, hsender, envelope, hseq]
  · simp [sender, hsender, envelope]

theorem accepted_frame :
    accepted = (nextConfig previousConfig nextAuth).reconnectAcceptedFrame payload := by
  rw [← h.config_eq]; exact h.accepted_eq

theorem pending_eq_none
    (hr : replayReconnectAcceptedV1 (nextConfig previousConfig nextAuth) post signed = .ok accepted) :
    previousSnapshot.attempt.pendingWorkerTerminal = none := by
  obtain ⟨payload', hbuilt, heq, -⟩ := h.replay_ok.1 hr
  have hsame : payload = payload' := by
    have hframe := h.accepted_frame.symm.trans heq
    simpa [MachineConfig.reconnectAcceptedFrame, MachineConfig.frame] using hframe
  have hpending : (machine.reconnected nextAuth).reconnectRecord.pendingTerminalReplay = none := by
    rw [← buildReconnectAcceptedV1_pending h.built, hsame]
    exact buildReconnectAcceptedV1_pending hbuilt
  rwa [h.record_pending, Option.map_eq_none_iff] at hpending

theorem replay_of_pending_eq_none (hp : previousSnapshot.attempt.pendingWorkerTerminal = none) :
    replayReconnectAcceptedV1 (nextConfig previousConfig nextAuth) post signed = .ok accepted := by
  have hrecord : (machine.reconnected nextAuth).reconnectRecord.withoutPending =
      (machine.reconnected nextAuth).reconnectRecord := by
    have hnone : (machine.reconnected nextAuth).pendingTerminalForSnapshot = none := by
      have hpending := h.record_pending
      rwa [hp, Option.map_none] at hpending
    simp only [ReconnectSnapshotV1.withoutPending, reconnectRecord, sealReconnectSnapshot, hnone]
    rfl
  have hbuilt : buildReconnectAcceptedV1 (machine.reconnected nextAuth).reconnectRecord.withoutPending
      reconnect.claim reconnect.toNegotiationV1 = .ok payload := by rw [hrecord]; exact h.built
  obtain ⟨hvalid, hdigest⟩ := valid_of_snapshot h.persisted
  rw [h.final_config] at hdigest
  exact h.replay_ok.2 ⟨payload, hbuilt, h.accepted_frame, _, h.accept_answer, post,
    snapshot_restoreFields hvalid hdigest, rfl⟩

end ReconnectBuild

/-- Whenever a reconnect was answered, its replay on the committed snapshot returns the very
same frame exactly when the predecessor carried no pending terminal. -/
theorem replayReconnectAccepted_eq_iff {previousConfig : MachineConfig} {previousSnapshot : MachineSnapshotV1}
    {nextAuth : AuthContextV1} {signed accepted : FrameV1} {post : MachineSnapshotV1}
    (h : buildReconnectAcceptedSnapshotV1 previousConfig previousSnapshot nextAuth signed = .ok (accepted, post)) :
    replayReconnectAcceptedV1 { previousConfig with auth := nextAuth } post signed = .ok accepted ↔
      previousSnapshot.attempt.pendingWorkerTerminal = none := by
  obtain ⟨reconnect, payload, machine, final, hb⟩ := buildReconnectAcceptedSnapshotV1_ok h
  exact ⟨hb.pending_eq_none, hb.replay_of_pending_eq_none⟩

end

section

open Reference

/-- A lease that was accepted before the connection broke: the replay is exact. -/
theorem replayReconnectAccepted_claimed :
    ∃ accepted post, buildReconnectAcceptedSnapshotV1 (config 1) (persisted (ready 1 (claimed none))) (auth 2)
        (signedReconnect 2 (claimOf (ready 1 (claimed none)))) = .ok (accepted, post) ∧
      replayReconnectAcceptedV1 (config 2) post (signedReconnect 2 (claimOf (ready 1 (claimed none)))) =
        .ok accepted := by
  obtain ⟨⟨accepted, post⟩, h⟩ := exists_of_isOk (r := buildReconnectAcceptedSnapshotV1 (config 1)
    (persisted (ready 1 (claimed none))) (auth 2) (signedReconnect 2 (claimOf (ready 1 (claimed none)))))
    (by decide +kernel)
  exact ⟨accepted, post, h, (replayReconnectAccepted_eq_iff h).2 rfl⟩

def promised : TerminalReplayCommitment := replayCommitment (terminal .succeeded .completed) .replay

/-- The same worker on its second reconnect, its terminal still pending: the replay is not exact. -/
theorem replayReconnectAccepted_promised :
    ∃ accepted post, buildReconnectAcceptedSnapshotV1 (config 1) (persisted (ready 1 (claimed (some promised))))
        (auth 2) (signedReconnect 2 (claimOf (ready 1 (claimed (some promised))))) = .ok (accepted, post) ∧
      replayReconnectAcceptedV1 (config 2) post (signedReconnect 2 (claimOf (ready 1 (claimed (some promised))))) ≠
        .ok accepted := by
  obtain ⟨⟨accepted, post⟩, h⟩ := exists_of_isOk (r := buildReconnectAcceptedSnapshotV1 (config 1)
    (persisted (ready 1 (claimed (some promised)))) (auth 2)
    (signedReconnect 2 (claimOf (ready 1 (claimed (some promised)))))) (by decide +kernel)
  refine ⟨accepted, post, h, fun hr => ?_⟩
  obtain ⟨_, _, _, _, hb⟩ := buildReconnectAcceptedSnapshotV1_ok h
  cases hb.pending_eq_none hr

end

end Sessionless.Protocol
