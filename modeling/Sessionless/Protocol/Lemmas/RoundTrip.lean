import Sessionless.Protocol.Lemmas.Inversion

/-!
# Snapshots survive a restore

A valid snapshot, restored and written again, is the same snapshot. `RestoreConformanceMachine`
therefore never refuses on its last comparison, and refuses only on the validity of the
snapshot and on its match with the configuration.
-/

namespace Sessionless.Protocol

open Lib

variable [Crypto]

/-! ## The zero records are not valid -/

theorem VersionOfferV1.not_valid_default : ¬ ({} : VersionOfferV1).Valid := by
  simp [VersionOfferV1.Valid, VersionWindow.Valid]

theorem HelloV1.not_valid_default : ¬ ({} : HelloV1).Valid :=
  fun h => VersionOfferV1.not_valid_default h.1

theorem ChallengeV1.not_valid_default : ¬ ({} : ChallengeV1).Valid :=
  fun h => VersionOfferV1.not_valid_default h.1

theorem CapabilityManifestV1.not_valid_default : ¬ ({} : CapabilityManifestV1).Valid :=
  fun h => h.2.1 rfl

theorem RevokeV1.not_valid_default : ¬ ({} : RevokeV1).Valid := fun h => h.1 rfl

theorem ReconnectSnapshotV1.not_valid_default : ¬ ({} : ReconnectSnapshotV1).Valid := fun h => h.1 rfl

/-! ## Optional records -/

theorem present_getD {α : Type} {P : α → Prop} [DecidablePred P] {zero} (hz : ¬ P zero) {stored}
    (h : ∀ a ∈ stored, P a) : (if P (stored.getD zero) then some (stored.getD zero) else none) = stored := by
  cases stored with
  | none => simp [hz]
  | some a => simp [h a rfl]

theorem getD_present {α : Type} {P : α → Prop} [DecidablePred P] {zero a} (h : a = zero ∨ P a) :
    (if P a then some a else none).getD zero = a := by
  by_cases hp : P a
  · simp [hp]
  · rw [if_neg hp, h.resolve_right hp, Option.getD_none]

/-! ## Envelopes, ledgers and commitments -/

theorem snapshotEnvelope_restore {snapshot} (h : validateEnvelopeSnapshot snapshot) :
    snapshotEnvelope (restoreEnvelope snapshot) = snapshot := by
  obtain ⟨sequence, ack, fingerprint⟩ := snapshot
  simp only [validateEnvelopeSnapshot] at h
  by_cases hs : sequence = 0
  · simp only [hs, if_true] at h
    simp [snapshotEnvelope, restoreEnvelope, hs, h]
  · simp only [hs, if_false] at h
    simp [snapshotEnvelope, restoreEnvelope, hs, Sum256.val_ofBytes h]

theorem restoreEnvelope_snapshot {state} (h : state.sequence = 0 → state = {}) :
    restoreEnvelope (snapshotEnvelope state) = state := by
  by_cases hs : state.sequence = 0
  · rw [h hs]; simp [snapshotEnvelope, restoreEnvelope]
  · simp [snapshotEnvelope, restoreEnvelope, hs]

theorem sorted_of_chain {items : List MachineAttemptFingerprintV1}
    (h : (items.map MachineAttemptFingerprintV1.sequence).IsChain (· < ·)) :
    (items.map fun item => (item.sequence, Sum256.ofBytes item.fingerprint)).Pairwise (fun a b => a.1 < b.1) := by
  have hp := h.pairwise
  rw [List.pairwise_map] at hp ⊢
  exact hp

theorem snapshotAttemptDirection_restore {snapshot} (h : validateAttemptDirectionSnapshot snapshot) :
    snapshotAttemptDirection (restoreAttemptDirection snapshot) = snapshot := by
  obtain ⟨sequence, fingerprints⟩ := snapshot
  obtain ⟨-, -, hitems, hchain⟩ := h
  simp only [snapshotAttemptDirection, restoreAttemptDirection, OrderedMap.entries_ofList (sorted_of_chain hchain),
    List.map_map, MachineAttemptDirectionSnapshotV1.mk.injEq, true_and]
  refine (List.map_congr_left fun item hitem => ?_).trans (List.map_id _)
  obtain ⟨s, f⟩ := item
  simp [Function.comp, Sum256.val_ofBytes (hitems _ hitem).2.2]

theorem restoreAttemptDirection_snapshot (state : AttemptSequenceState) :
    restoreAttemptDirection (snapshotAttemptDirection state) = state := by
  obtain ⟨sequence, fingerprints⟩ := state
  simp [restoreAttemptDirection, snapshotAttemptDirection, Function.comp_def, OrderedMap.ofList_entries]

theorem TerminalReplayCommitment.snapshot_restore {pending : MachinePendingTerminalSnapshotV1}
    (h : validBytes pending.fingerprint 32) : pending.restore.snapshot = pending := by
  obtain ⟨kind, sequence, fingerprint, decision, terminal⟩ := pending
  simp [TerminalReplayCommitment.snapshot, MachinePendingTerminalSnapshotV1.restore, Sum256.val_ofBytes h]

theorem TerminalReplayCommitment.restore_snapshot (commitment : TerminalReplayCommitment) :
    commitment.snapshot.restore = commitment := by
  obtain ⟨kind, sequence, fingerprint, decision, terminal⟩ := commitment
  simp [TerminalReplayCommitment.snapshot, MachinePendingTerminalSnapshotV1.restore]

/-! ## Summaries -/

theorem sealAttemptSummary_eq (summary : AttemptSummaryV1)
    (hevidence : summary.terminalSequence = 0 → summary.terminalEvidenceDigest = [])
    (hbinding : summary.state = .idle → summary.binding = {}) :
    sealAttemptSummary summary = { summary with digest := attemptSummaryDigestV1 summary } := by
  have hclear : (if summary.terminalSequence = 0 then { summary with terminalEvidenceDigest := [] } else summary) =
      summary := by
    split
    · rename_i h0; rw [← hevidence h0]
    · rfl
  have hzero : (if summary.state = .idle then { summary with
      binding := { summary.binding with contextDigest := [], capabilityDigest := [], policyDigest := [] } } else summary) =
      summary := by
    split
    · rename_i hs
      have hb := hbinding hs
      obtain ⟨state, binding⟩ := summary
      simp only at hb
      subst hb
      rfl
    · rfl
  simp only [sealAttemptSummary, hclear, hzero]

theorem AttemptSummaryV1.ContentValid.evidence {summary : AttemptSummaryV1} (h : summary.ContentValid)
    (h0 : summary.terminalSequence = 0) : summary.terminalEvidenceDigest = [] := by
  have hterm := h.2.2.2.2.2.1
  simp only [h0, if_true] at hterm
  exact hterm.2.2

theorem AttemptSummaryV1.ContentValid.binding {summary : AttemptSummaryV1} (h : summary.ContentValid)
    (hs : summary.state = .idle) : summary.binding = {} := by
  have hidle := h.2.2.2.1
  simp only [hs, if_true] at hidle
  exact hidle.2.2.2.2.2.2.2.2.2

theorem sealAttemptSummary_of_valid {summary : AttemptSummaryV1} (h : summary.Valid) (digest : Bytes) :
    sealAttemptSummary { summary with digest := digest } = summary := by
  obtain ⟨hc, -, hdigest⟩ := h
  rw [sealAttemptSummary_eq { summary with digest := digest } hc.evidence hc.binding]
  have hd : attemptSummaryDigestV1 { summary with digest := digest } = summary.digest := hdigest.symm
  rw [hd]

/-! ## The round trip -/

@[simp] theorem restoreFields_config (config : MachineConfig) (snapshot : MachineSnapshotV1) :
    (restoreFields config snapshot).config = config := by
  unfold restoreFields; cases snapshot.reconnect <;> rfl

@[simp] theorem restoreFields_connection (config : MachineConfig) (snapshot : MachineSnapshotV1) :
    (restoreFields config snapshot).connection = snapshot.connection := by
  unfold restoreFields; cases snapshot.reconnect <;> rfl

@[simp] theorem restoreFields_attempt (config : MachineConfig) (snapshot : MachineSnapshotV1) :
    (restoreFields config snapshot).attempt = restoreAttempt snapshot.attempt := by
  unfold restoreFields; cases snapshot.reconnect <;> rfl

theorem snapshotReconnect_restoreFields (config : MachineConfig) (snapshot : MachineSnapshotV1)
    (h : ∀ reconnect ∈ snapshot.reconnect, ∀ claim ∈ reconnect.claim, claim.Valid) :
    (restoreFields config snapshot).snapshotReconnect = snapshot.reconnect := by
  cases hr : snapshot.reconnect with
  | none => simp [restoreFields, hr, ConformanceMachine.snapshotReconnect]
  | some reconnect =>
    have hclaim := present_getD ReconnectSnapshotV1.not_valid_default (h reconnect hr)
    have hflag : snapshot.connection ≠ .draining ∨ snapshot.connection = .draining :=
      (em (snapshot.connection = .draining)).symm
    simp only [restoreFields, hr, ConformanceMachine.snapshotReconnect, decide_eq_true_eq, hflag, if_true, hclaim]

theorem restoreFields_eq (config : MachineConfig) (snapshot : MachineSnapshotV1) :
    ∃ reconnecting reenvelope target generation watermarks attempt claim,
      restoreFields config snapshot = {
        config := config
        connection := snapshot.connection
        platform := restoreEnvelope snapshot.platform
        worker := restoreEnvelope snapshot.worker
        hello := snapshot.hello.getD {}
        challenge := snapshot.challenge.getD {}
        capabilityDigest := snapshot.capabilityDigest
        manifest := snapshot.manifest.getD {}
        attempt := restoreAttempt snapshot.attempt
        drainRevision := snapshot.drainRevision
        revoke := snapshot.revoke.getD {}
        reconnecting := reconnecting
        drainReenvelopePending := reenvelope
        reconnectTarget := target
        previousConnectionGeneration := generation
        reconnectWatermarks := watermarks
        reconnectAttempt := attempt
        reconnectClaim := claim } := by
  unfold restoreFields
  cases snapshot.reconnect with
  | none | some reconnect => exact ⟨_, _, _, _, _, _, _, rfl⟩

theorem snapshotContent_restoreFields {config} {snapshot : MachineSnapshotV1} (h : snapshot.ContentValid) :
    (restoreFields config snapshot).snapshotContent snapshot.configurationDigest =
      { snapshot with digest := [] } := by
  obtain ⟨⟨hversion, -, hplatform, hworker, -, -, hsummary, hplatformLedger, hworkerLedger, hps, hws⟩,
    ⟨hhello, hchallenge, hmanifest, hrevoke, -, -, -, -, hpending, hreconnect, -, -⟩, -⟩ := h
  have hrec := snapshotReconnect_restoreFields config snapshot
    (fun reconnect hr claim hc => ((hreconnect reconnect hr).2.2.2.2 claim hc).1)
  have hpend : (snapshot.attempt.pendingWorkerTerminal.map MachinePendingTerminalSnapshotV1.restore).map
      TerminalReplayCommitment.snapshot = snapshot.attempt.pendingWorkerTerminal := by
    cases hp : snapshot.attempt.pendingWorkerTerminal with
    | none => rfl
    | some pending =>
      simp [TerminalReplayCommitment.snapshot_restore (hpending pending hp).2.2.2.2.2.2.1]
  have hsum : (restoreFields config snapshot).currentAttemptSummary = snapshot.attempt.summary := by
    have hseal := sealAttemptSummary_of_valid hsummary []
    simp only [ConformanceMachine.currentAttemptSummary, restoreFields_attempt, restoreAttempt,
      restoreAttemptDirection, ← hps, ← hws]
    exact hseal
  obtain ⟨_, _, _, _, _, _, _, heq⟩ := restoreFields_eq config snapshot
  simp only [ConformanceMachine.snapshotContent, hsum, hrec]
  simp only [heq, restoreAttempt, snapshotEnvelope_restore hplatform, snapshotEnvelope_restore hworker,
    snapshotAttemptDirection_restore hplatformLedger, snapshotAttemptDirection_restore hworkerLedger, hpend,
    present_getD HelloV1.not_valid_default hhello, present_getD ChallengeV1.not_valid_default hchallenge,
    present_getD CapabilityManifestV1.not_valid_default hmanifest, present_getD RevokeV1.not_valid_default hrevoke,
    ← hversion]

theorem snapshot_restoreFields {config snapshot} (h : snapshot.Valid)
    (hc : machineConfigDigestV1 config = some snapshot.configurationDigest) :
    (restoreFields config snapshot).snapshot = .ok snapshot := by
  have hcontent : ({ snapshot with digest := [] } : MachineSnapshotV1).ContentValid := h.1
  have hdigest : machineSnapshotDigestUnchecked { snapshot with digest := [] } = snapshot.digest := h.2.2.symm
  simp only [ConformanceMachine.snapshot, restoreFields_config, hc, snapshotContent_restoreFields h.1, hcontent,
    if_true, hdigest]

theorem valid_of_machineConfigDigestV1 {config digest}
    (h : machineConfigDigestV1 config = some digest) : config.Valid := by
  unfold machineConfigDigestV1 at h
  split at h
  · assumption
  · cases h

theorem restoreConformanceMachine_ok {config snapshot machine} :
    restoreConformanceMachine config snapshot = .ok machine ↔
      (snapshot.Valid ∧ machineConfigDigestV1 config = some snapshot.configurationDigest ∧
        snapshot.ValidAgainst config) ∧ restoreFields config snapshot = machine := by
  simp only [restoreConformanceMachine, ite_error_eq_ok, Decidable.not_not, ne_eq, and_assoc]
  refine and_congr_right fun hv => and_congr_right fun hc => ?_
  simp only [newConformanceMachine, if_pos (valid_of_machineConfigDigestV1 hc), ite_error_eq_ok, Decidable.not_not,
    snapshot_restoreFields hv hc, not_true_eq_false, if_false, Except.ok.injEq]

theorem ConformanceMachine.snapshot_ok {machine : ConformanceMachine} {snapshot} :
    machine.snapshot = .ok snapshot ↔ ∃ digest, machineConfigDigestV1 machine.config = some digest ∧
      (machine.snapshotContent digest).ContentValid ∧
      { machine.snapshotContent digest with
        digest := machineSnapshotDigestUnchecked (machine.snapshotContent digest) } = snapshot := by
  unfold ConformanceMachine.snapshot
  cases hd : machineConfigDigestV1 machine.config with
  | none => simp
  | some digest => simp [ite_ok_eq_ok]

theorem ConformanceMachine.valid_of_snapshot {machine : ConformanceMachine} {snapshot : MachineSnapshotV1}
    (h : machine.snapshot = .ok snapshot) :
    snapshot.Valid ∧ machineConfigDigestV1 machine.config = some snapshot.configurationDigest := by
  obtain ⟨digest, hd, hc, rfl⟩ := ConformanceMachine.snapshot_ok.1 h
  exact ⟨⟨hc, (Crypto.sha256 _).2, rfl⟩, hd⟩

end Sessionless.Protocol
