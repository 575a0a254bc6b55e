import Sessionless.Protocol.Lemmas.Soundness

/-!
# Sound machines are persisted

`Sound` was stated on the machine; here it is carried over to the content that `Snapshot`
writes, check by check in the order of `validateMachineSnapshotContent`.
-/

namespace Sessionless.Protocol

open Lib

variable [Crypto]

namespace ConformanceMachine

variable {machine machine' : ConformanceMachine} {direction : Direction} {digest : Bytes}

/-- `Snapshot` succeeds, its result validates, and the machine's own configuration restores it. -/
def Persistable (machine : ConformanceMachine) : Prop :=
  ∃ snapshot, machine.snapshot = .ok snapshot ∧ snapshot.Valid ∧
    ∃ restored, restoreConformanceMachine machine.config snapshot = .ok restored

theorem Agrees.persistable_iff (h : machine.Agrees) (hc : machine.config.Valid) :
    machine.Persistable ↔ ∀ digest, machineConfigDigestV1 machine.config = some digest →
      (machine.snapshotContent digest).ContentValid := by
  constructor
  · rintro ⟨snapshot, hs, -⟩ digest hd
    obtain ⟨digest', hd', hcontent, -⟩ := snapshot_ok.1 hs
    obtain rfl : digest' = digest := Option.some.inj (hd'.symm.trans hd)
    exact hcontent
  · intro hcontent
    have hd : ∃ digest, machineConfigDigestV1 machine.config = some digest := by
      simp [machineConfigDigestV1, hc]
    obtain ⟨digest, hd⟩ := hd
    have hs := snapshot_ok.2 ⟨digest, hd, hcontent digest hd, rfl⟩
    exact ⟨_, hs, (valid_of_snapshot hs).1, _, h.restore hs⟩

/-! ## Presence of the optional records -/

theorem present_ne_none {α : Type} {P : α → Prop} [DecidablePred P] {a} :
    (if P a then some a else none) ≠ none ↔ P a := by
  by_cases hp : P a <;> simp [hp]

theorem snapshotReconnect_eq_none : machine.snapshotReconnect = none ↔
    machine.reconnecting = false ∧ machine.drainReenvelopePending = false := by
  simp [snapshotReconnect]

theorem mem_snapshotReconnect (machine : ConformanceMachine) {reconnect} : reconnect ∈ machine.snapshotReconnect ↔
    (machine.reconnecting = true ∨ machine.drainReenvelopePending = true) ∧ reconnect = {
      target := machine.reconnectTarget
      previousConnectionGeneration := machine.previousConnectionGeneration
      watermarks := machine.reconnectWatermarks
      attempt := machine.reconnectAttempt
      claim := if machine.reconnectClaim.Valid then some machine.reconnectClaim else none } := by
  simp only [snapshotReconnect, Option.mem_def, Option.ite_none_right_eq_some, Option.some.injEq]
  exact and_congr_right fun _ => eq_comm

/-! ## Envelopes and ledgers -/

theorem validateEnvelopeSnapshot_of_tidy {state} (h : state.sequence = 0 → state = {}) :
    validateEnvelopeSnapshot (snapshotEnvelope state) := by
  unfold validateEnvelopeSnapshot
  split
  · rename_i h0
    have hs : state = {} := h h0
    subst hs
    exact ⟨rfl, rfl⟩
  · rename_i h0
    have hs : state.sequence ≠ 0 := h0
    simp only [snapshotEnvelope, if_pos hs]
    exact state.fingerprint.2

theorem validateAttemptDirectionSnapshot_of_bounded {state} (h : state.Bounded) :
    validateAttemptDirectionSnapshot (snapshotAttemptDirection state) := by
  refine ⟨h.sequence_le, ?_, fun item hitem => ?_, ?_⟩
  · simp only [snapshotAttemptDirection, List.length_map]
    exact (state.fingerprints.length_entries_le h.keys).trans h.sequence_le
  · simp only [snapshotAttemptDirection, List.mem_map] at hitem
    obtain ⟨entry, he, rfl⟩ := hitem
    exact ⟨(h.keys entry he).1, (h.keys entry he).2, entry.2.2⟩
  · simp only [snapshotAttemptDirection, List.map_map]
    refine List.Pairwise.isChain ?_
    rw [List.pairwise_map]
    exact state.fingerprints.sorted

theorem Sound.headerValid (h : machine.Sound) (hd : machineConfigDigestV1 machine.config = some digest) :
    (machine.snapshotContent digest).HeaderValid := by
  have hdigest : validBytes digest 32 := by
    simp only [machineConfigDigestV1, h.config, if_true] at hd
    cases hd
    exact (Crypto.sha256 _).2
  have hsummary := currentAttemptSummary_of_tidy h.tidy.attempt
  refine ⟨rfl, hdigest, validateEnvelopeSnapshot_of_tidy h.tidy.platform, validateEnvelopeSnapshot_of_tidy h.tidy.worker,
    h.acks.1, h.acks.2, h.currentAttemptSummary_valid, validateAttemptDirectionSnapshot_of_bounded h.attempt.platform,
    validateAttemptDirectionSnapshot_of_bounded h.attempt.worker, ?_, ?_⟩
  · simp only [snapshotContent, hsummary]
    rfl
  · simp only [snapshotContent, hsummary]
    rfl

/-! ## Records -/

theorem TerminalReplayCommitment.validate {commitment : TerminalReplayCommitment} {attempt : MachineAttemptSnapshotV1}
    (h : commitment.Sound attempt.summary.binding attempt.worker.sequence) :
    validatePendingTerminalSnapshot commitment.snapshot attempt := by
  refine ⟨h.kind_eq, h.terminal, ?_, h.sequence_eq, h.decision, h.binding_eq, commitment.fingerprint.2, ?_, ?_, ?_⟩
  · simp only [TerminalReplayCommitment.snapshot, h.sequence_eq]
    exact h.terminal.1.2.1
  · simp only [TerminalReplayCommitment.snapshot, h.fingerprint_eq]
  · rintro ⟨hd, hle⟩
    exact absurd (h.replay hd) (not_lt.2 hle)
  · rintro ⟨hd, hlt⟩
    exact absurd (h.discard hd) (not_le.2 hlt)

theorem Sound.reconnectValid (h : machine.Sound) {reconnect} (hr : reconnect ∈ machine.snapshotReconnect) :
    validateMachineReconnectState reconnect
      (machine.attempt.pendingWorkerTerminal.map TerminalReplayCommitment.snapshot) := by
  obtain ⟨hf, rfl⟩ := (mem_snapshotReconnect _).1 hr
  have hrs := h.reconnect hf
  refine ⟨hrs.target, hrs.generation, hrs.watermarks, hrs.attempt, fun claim hc => ?_⟩
  obtain ⟨hv, rfl⟩ := mem_present.1 hc
  refine ⟨hv, (hrs.claim hv).1, ?_⟩
  have hrecord := (hrs.claim hv).2
  simp only [MachineReconnectStateV1.authoritative, Option.map_map]
  exact hrecord

theorem Sound.recordsValid (h : machine.Sound) : (machine.snapshotContent digest).RecordsValid := by
  have hsummary := currentAttemptSummary_of_tidy h.tidy.attempt
  refine ⟨fun hello hh => ?_, fun challenge hc => ?_, fun manifest hm => ?_, fun revoke hr => ?_, fun challenge hc => ?_,
    fun manifest hm => ?_, fun hne => ?_, fun hs => ?_, fun pending hp => ?_, fun reconnect hr => h.reconnectValid hr,
    ?_, fun hc => ?_⟩
  · obtain ⟨hv, rfl⟩ := mem_present.1 hh
    exact hv
  · obtain ⟨hv, rfl⟩ := mem_present.1 hc
    exact hv
  · obtain ⟨hv, rfl⟩ := mem_present.1 hm
    exact hv
  · obtain ⟨hv, rfl⟩ := mem_present.1 hr
    exact hv
  · obtain ⟨hv, rfl⟩ := mem_present.1 hc
    obtain ⟨h1, h2, h3⟩ := h.challenge hv
    refine ⟨present_ne_none.2 h1, fun hello hh => ?_⟩
    obtain ⟨-, rfl⟩ := mem_present.1 hh
    exact ⟨h2, h3⟩
  · obtain ⟨hv, rfl⟩ := mem_present.1 hm
    exact h.manifest hv
  · rcases h.capability with h0 | hlen
    · exact absurd (by simp only [snapshotContent, h0, List.length_nil]) hne
    · exact hlen
  · simp only [snapshotContent, hsummary] at hs ⊢
    exact ⟨present_ne_none.2 (h.active hs).1, (h.active hs).2⟩
  · simp only [snapshotContent, Option.mem_def, Option.map_eq_some_iff] at hp
    obtain ⟨commitment, hmem, rfl⟩ := hp
    refine TerminalReplayCommitment.validate ?_
    simp only [snapshotContent, hsummary]
    exact h.attempt.pending commitment hmem
  · exact present_ne_none.trans ⟨h.agrees.revoking, h.revoke⟩
  · rcases hc with hc | hc
    · exact (h.phase_of hc).2.2.1
    · exact (h.phase_of hc).2.2.1

/-! ## The connection state -/

theorem Negotiated.snapshot (h : machine.Negotiated) : (machine.snapshotContent digest).Negotiated :=
  ⟨present_ne_none.2 h.hello, present_ne_none.2 h.challenge, h.capability⟩

theorem Sound.connectionValid (h : machine.Sound) :
    (machine.snapshotContent digest).ConnectionValid machine.connection := by
  have absent : ∀ {α : Type} {P : α → Prop} [DecidablePred P] {a : α}, ¬ P a → (if P a then some a else none) = none :=
    fun hn => if_neg hn
  cases hc : machine.connection with
  | unattached =>
    obtain ⟨-, -, hfresh⟩ := h.phase_of hc
    intro hr
    have hm := hfresh (snapshotReconnect_eq_none.1 hr).1
    obtain ⟨config, rfl⟩ : ∃ config, machine = { config := config } := ⟨_, hm⟩
    exact ⟨rfl, rfl, absent HelloV1.not_valid_default, absent ChallengeV1.not_valid_default, rfl,
      absent CapabilityManifestV1.not_valid_default, rfl, rfl, absent RevokeV1.not_valid_default⟩
  | hello =>
    obtain ⟨h1, h2, -⟩ := h.phase_of hc
    exact ⟨present_ne_none.2 h1, absent fun hv => ChallengeV1.not_valid_default (h2 ▸ hv)⟩
  | challenged =>
    obtain ⟨h1, h2, -⟩ := h.phase_of hc
    exact ⟨present_ne_none.2 h1, present_ne_none.2 h2⟩
  | attachPending =>
    obtain ⟨h1, hr, hearly⟩ := h.phase_of hc
    have hd := h.tidy.no_reenvelope hc
    exact ⟨snapshotReconnect_eq_none.2 ⟨hr, hd⟩, h1.snapshot,
      absent fun hv => CapabilityManifestV1.not_valid_default ((hearly hr).1 ▸ hv)⟩
  | reconnectPending =>
    obtain ⟨h1, hclaim⟩ := h.phase_of hc
    have hr := h.tidy.pended hc
    exact ⟨⟨_, (mem_snapshotReconnect _).2 ⟨.inl hr, rfl⟩, present_ne_none.2 hclaim⟩, h1.snapshot,
      present_ne_none.2 (h.reconnect (.inl hr)).manifest⟩
  | attached =>
    obtain ⟨h1, -, hearly⟩ := h.phase_of hc
    have hd := h.tidy.no_reenvelope hc
    refine ⟨h1.snapshot, fun hr => ?_, fun hm => ?_⟩
    · exact absent fun hv => CapabilityManifestV1.not_valid_default ((hearly (snapshotReconnect_eq_none.1 hr).1).1 ▸ hv)
    · refine snapshotReconnect_eq_none.2 ⟨?_, hd⟩
      by_contra hr
      exact present_ne_none.2 (h.reconnect (.inl (by simpa using hr))).manifest hm
  | ready =>
    obtain ⟨h1, hmanifest⟩ := h.phase_of hc
    have hd := h.tidy.no_reenvelope hc
    exact ⟨snapshotReconnect_eq_none.2 ⟨h.tidy.not_reconnecting (.inl hc), hd⟩, h1.snapshot, present_ne_none.2 hmanifest⟩
  | draining =>
    obtain ⟨h1, hmanifest, -, hdrain⟩ := h.phase_of hc
    refine ⟨h1.snapshot, present_ne_none.2 hmanifest, fun reconnect hr => ?_⟩
    obtain ⟨hf, rfl⟩ := (mem_snapshotReconnect _).1 hr
    obtain ⟨htarget, hclaim⟩ := hdrain (hf.resolve_left (by simp [h.tidy.not_reconnecting (.inr hc)]))
    exact ⟨htarget, present_ne_none.2 hclaim⟩
  | drained =>
    obtain ⟨h1, hmanifest, -, hr, hd⟩ := h.phase_of hc
    exact ⟨snapshotReconnect_eq_none.2 ⟨hr, hd⟩, h1.snapshot, present_ne_none.2 hmanifest⟩
  | revoking | revoked => trivial

theorem Sound.persistable (h : machine.Sound) : machine.Persistable :=
  (h.agrees.persistable_iff h.config).2 fun _ hd => ⟨h.headerValid hd, h.recordsValid, h.connectionValid⟩

/-! ## The steps that are not admissible -/

theorem Persistable.contentValid (h : machine.Persistable) : ∃ digest, (machine.snapshotContent digest).ContentValid := by
  obtain ⟨snapshot, hs, -⟩ := h
  obtain ⟨digest, -, hcontent, -⟩ := snapshot_ok.1 hs
  exact ⟨digest, hcontent⟩

theorem Sound.not_persistable_error (h : machine.Sound) (hc : machine.connection = .unattached)
    (hr : machine.reconnecting = false) {state} (hs : state.sequence ≠ 0) :
    ¬ (machine.setSender direction state).Persistable := by
  intro hp
  obtain ⟨digest, -, -, hconnection⟩ := hp.contentValid
  have hd := h.tidy.no_reenvelope hc
  cases direction with
  | platformToWorker =>
    change MachineSnapshotV1.ConnectionValid _ machine.connection at hconnection
    rw [hc] at hconnection
    exact hs (hconnection (snapshotReconnect_eq_none.2 ⟨hr, hd⟩)).1
  | workerToPlatform =>
    change MachineSnapshotV1.ConnectionValid _ machine.connection at hconnection
    rw [hc] at hconnection
    exact hs (hconnection (snapshotReconnect_eq_none.2 ⟨hr, hd⟩)).2.1

theorem not_persistable_drained (hc : machine.connection = .drained) (hd : machine.drainReenvelopePending = true) :
    ¬ machine.Persistable := by
  intro hp
  obtain ⟨digest, -, -, hconnection⟩ := hp.contentValid
  have hconnection' : (machine.snapshotContent digest).ConnectionValid machine.connection := hconnection
  rw [hc] at hconnection'
  have hnone := (snapshotReconnect_eq_none.1 hconnection'.1).2
  rw [hd] at hnone
  cases hnone

theorem Sound.not_persistable_reconnected (h : machine.Sound) (hclaim : machine.reconnectClaim.Valid)
    (next : AuthContextV1) : ¬ (machine.reconnected next).Persistable := by
  intro hp
  obtain ⟨digest, -, hrecords, -⟩ := hp.contentValid
  have hmem := (mem_snapshotReconnect (machine.reconnected next)).2 ⟨.inl rfl, rfl⟩
  have hreconnect := hrecords.2.2.2.2.2.2.2.2.2.1 _ hmem
  have hgeneration := (hreconnect.2.2.2.2 machine.reconnectClaim (mem_present.2 ⟨hclaim, rfl⟩)).2.1
  have hlt := h.generation hclaim
  simp only [reconnected] at hgeneration
  omega

theorem not_persistable_pending (commitment : TerminalReplayCommitment)
    (hmem : commitment ∈ machine.attempt.pendingWorkerTerminal) (hs : commitment.sequence = 0) : ¬ machine.Persistable := by
  intro hp
  obtain ⟨digest, -, hrecords, -⟩ := hp.contentValid
  have hpending := hrecords.2.2.2.2.2.2.2.2.1 commitment.snapshot
    (by simp only [snapshotContent, Option.mem_def] at hmem ⊢; rw [hmem]; rfl)
  exact hpending.2.2.1 hs

theorem not_persistable_fenced (hs : machine.attempt.state = .fenced) (hr : machine.attempt.cancelRevision ≠ 1)
    (ht : machine.attempt.Tidy) : ¬ machine.Persistable := by
  intro hp
  obtain ⟨digest, hheader, -, -⟩ := hp.contentValid
  have hadmits := hheader.2.2.2.2.2.2.1.1.2.2.2.2.2.2.2
  simp only [snapshotContent, currentAttemptSummary_of_tidy ht, AttemptRecord.content, hs] at hadmits
  exact hr hadmits

/-- A successful step from a sound machine that is not admissible leaves a machine that cannot be persisted. -/
theorem Sound.not_persistable (h : machine.Sound) {operation} (hadmissible : ¬ machine.Admissible operation)
    (hs : machine.perform operation = .ok () machine') : ¬ machine'.Persistable := by
  cases operation with
  | accept direction frame acceptance =>
    simp only [Admissible, not_or] at hadmissible
    obtain ⟨hne, hpayload⟩ := hadmissible
    rcases accept_ok.1 hs with ⟨-, -, heq, -⟩ | ⟨hf, applied, happ, rfl⟩
    · exact absurd heq hne
    have ht := h.tidy.perform hs
    have hsequence : (envelope frame).sequence ≠ 0 := by
      have := hf.sequence_eq
      simp only [envelope]
      omega
    have hattempt : (applied.setSender direction (envelope frame)).attempt = applied.attempt := by
      cases direction <;> rfl
    unfold ConformanceMachine.apply at happ
    cases hp : frame.payload with
    | error message =>
      simp only [hp, AdmissiblePayload, Decidable.not_not, EStateM.Result.ok.injEq, true_and] at hpayload happ
      subst happ
      exact h.not_persistable_error hpayload.1 hpayload.2 hsequence
    | drained message =>
      simp only [hp, AdmissiblePayload, Bool.not_eq_false] at hpayload happ
      obtain ⟨-, rfl⟩ := acceptDrained_ok.1 happ
      refine not_persistable_drained ?_ ?_
      · cases direction <;> rfl
      · cases direction <;> exact hpayload
    | reconnectAccepted accepted =>
      simp only [hp, AdmissiblePayload, Decidable.not_not] at hpayload happ
      obtain ⟨-, -, -, -, installed, hi, rfl⟩ := acceptReconnectAccepted_ok happ
      obtain ⟨pending, rfl, ⟨-, hd⟩ | ⟨-, hd, -⟩ | ⟨-, terminal, howed, rfl⟩⟩ := installReplayCommitment_ok hi
      · exact absurd hpayload.1 hd
      · rw [hd] at hpayload
        exact absurd hpayload.1 (by simp)
      · have hzero : terminal.attemptSequence = 0 := by
          have hsequence := hpayload.2
          rw [pendingSequence, howed] at hsequence
          exact hsequence
        refine not_persistable_pending (replayCommitment terminal accepted.replayPlan.terminalDecision) ?_ hzero
        rw [hattempt]
        exact (applyDiscardTombstone_kept _).2.2
    | revoke message =>
      simp only [hp, AdmissiblePayload, Classical.not_imp, not_le] at hpayload happ
      obtain ⟨hs1, hs2, hrevision⟩ := hpayload
      obtain ⟨-, rfl⟩ := acceptRevoke_ok.1 happ
      have hfence : fenceAttempt machine.attempt = { machine.attempt with
          state := .fenced
          cancelCode := .fenced
          terminalSequence := 0
          terminalStatus := .unset
          terminalResult := .unset
          terminalEvidence := []
          cancelRevision := machine.attempt.cancelRevision } := by
        rw [fenceAttempt, if_pos ⟨hs1, hs2⟩, if_neg (by omega)]
      refine not_persistable_fenced ?_ ?_ ht.attempt
      · rw [hattempt, hfence]
      · rw [hattempt, hfence]
        exact Nat.ne_of_gt hrevision
    | hello message => simp [hp, AdmissiblePayload] at hpayload
    | challenge message => simp [hp, AdmissiblePayload] at hpayload
    | attach message => simp [hp, AdmissiblePayload] at hpayload
    | attachAccepted message => simp [hp, AdmissiblePayload] at hpayload
    | reconnect message => simp [hp, AdmissiblePayload] at hpayload
    | manifest message => simp [hp, AdmissiblePayload] at hpayload
    | heartbeat message => simp [hp, AdmissiblePayload] at hpayload
    | attempt message => simp [hp, AdmissiblePayload] at hpayload
    | drain message => simp [hp, AdmissiblePayload] at hpayload
    | revoked message => simp [hp, AdmissiblePayload] at hpayload
  | beginReconnect next =>
    simp only [Admissible, Decidable.not_not] at hadmissible
    obtain ⟨-, rfl⟩ := beginReconnect_ok.1 hs
    exact h.not_persistable_reconnected hadmissible next
  | eraseCommittedAttempt => exact absurd trivial hadmissible

end ConformanceMachine

end Sessionless.Protocol
