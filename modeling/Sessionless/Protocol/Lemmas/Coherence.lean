import Sessionless.Protocol.Lemmas.Attempt

/-!
# Coherent attempt records

What `AttemptSummaryV1.Validate` and the ledger checks of a snapshot ask of an attempt
record, as an invariant of the record itself. Every attempt message, a revocation, the
erasure of a committed attempt and a reconciled reconnect keep it.
-/

namespace Sessionless.Protocol

open Lib

theorem AttemptBindingV1.not_valid_default : ¬ ({} : AttemptBindingV1).Valid := fun h => h.2.2.2.1 rfl

structure AttemptSequenceState.Bounded (state : AttemptSequenceState) : Prop where
  sequence_le : state.sequence ≤ maxAttemptMessages
  keys : ∀ entry ∈ state.fingerprints.entries, entry.1 ≠ 0 ∧ entry.1 ≤ state.sequence

structure AttemptRecord.Coherent (attempt : AttemptRecord) : Prop where
  progress_le : attempt.progressSequence ≤ maxProgressUpdates
  idle : attempt.state = .idle → attempt.platform.sequence = 0 ∧ attempt.worker.sequence = 0 ∧
    attempt.progressSequence = 0 ∧ attempt.cancelRevision = 0 ∧ attempt.terminalSequence = 0 ∧ attempt.binding = {}
  binding : attempt.state ≠ .idle → attempt.binding.Valid
  uncancelled : attempt.cancelRevision = 0 → attempt.cancelCode = .unset
  cancelled : attempt.cancelRevision ≠ 0 → attempt.cancelCode = .requested ∨ attempt.cancelCode = .fenced
  unfinished : attempt.terminalSequence = 0 →
    attempt.terminalStatus = .unset ∧ attempt.terminalResult = .unset ∧ attempt.terminalEvidence = []
  finished : attempt.terminalSequence ≠ 0 →
    validTerminalResult attempt.terminalStatus attempt.terminalResult ∧ validBytes attempt.terminalEvidence 32
  fenced : attempt.cancelCode = .fenced → attempt.terminalSequence ≠ 0 → attempt.terminalStatus = .cancelled
  admits : attempt.state.Admits attempt.content

theorem AttemptRecord.Coherent.contentValid {attempt : AttemptRecord} (h : attempt.Coherent)
    (hp : attempt.platform.Bounded) (hw : attempt.worker.Bounded) : attempt.content.ContentValid := by
  refine ⟨hp.sequence_le, hw.sequence_le, h.progress_le, ?_, ?_, ?_, ?_, h.admits⟩
  · split
    · rename_i hs
      obtain ⟨h1, h2, h3, h4, h5, h6⟩ := h.idle hs
      obtain ⟨h7, h8, h9⟩ := h.unfinished h5
      exact ⟨h1, h2, h3, h4, h.uncancelled h4, h5, h7, h8, h9, h6⟩
    · rename_i hs
      exact h.binding hs
  · split
    · rename_i h0
      exact h.uncancelled h0
    · rename_i h0
      exact h.cancelled h0
  · split
    · rename_i h0
      exact h.unfinished h0
    · rename_i h0
      exact h.finished h0
  · rintro ⟨hf, ht, hs⟩
    exact hs (h.fenced hf ht)

theorem AttemptRecord.Coherent.of_contentValid {attempt : AttemptRecord} (h : attempt.content.ContentValid) :
    attempt.Coherent := by
  obtain ⟨-, -, hprogress, hidle, hcancel, hterm, hfenced, hadmits⟩ := h
  simp only [AttemptRecord.content] at hidle hcancel hterm hfenced
  refine ⟨hprogress, fun hs => ?_, fun hs => ?_, fun h0 => ?_, fun h0 => ?_, fun h0 => ?_, fun h0 => ?_,
    fun hf ht => ?_, hadmits⟩
  · simp only [hs, if_true] at hidle
    exact ⟨hidle.1, hidle.2.1, hidle.2.2.1, hidle.2.2.2.1, hidle.2.2.2.2.2.1, hidle.2.2.2.2.2.2.2.2.2⟩
  · simpa only [hs, if_false] using hidle
  · simpa only [h0, if_true] using hcancel
  · simpa only [h0, if_false] using hcancel
  · simpa only [h0, if_true] using hterm
  · simpa only [h0, if_false] using hterm
  · by_contra hs
    exact hfenced ⟨hf, ht, hs⟩

/-! ## Commitments -/

variable [Crypto]

/-- A pending terminal as `validatePendingTerminalSnapshot` wants it. -/
structure TerminalReplayCommitment.Sound (commitment : TerminalReplayCommitment) (binding : AttemptBindingV1)
    (workerSequence : Nat) : Prop where
  kind_eq : commitment.kind = .terminal
  terminal : commitment.terminal.Valid
  sequence_eq : commitment.sequence = commitment.terminal.attemptSequence
  decision : commitment.decision = .replay ∨ commitment.decision = .discard
  binding_eq : commitment.terminal.binding = binding
  fingerprint_eq : commitment.fingerprint = attemptFingerprint (.terminal commitment.terminal)
  replay : commitment.decision = .replay → workerSequence < commitment.sequence
  discard : commitment.decision = .discard → commitment.sequence ≤ workerSequence

structure AttemptRecord.Sound (attempt : AttemptRecord) : Prop where
  coherent : attempt.Coherent
  platform : attempt.platform.Bounded
  worker : attempt.worker.Bounded
  pending : ∀ commitment ∈ attempt.pendingWorkerTerminal,
    commitment.Sound attempt.binding attempt.worker.sequence

theorem AttemptSequenceState.bounded_empty : ({} : AttemptSequenceState).Bounded :=
  ⟨Nat.zero_le _, fun _ h => absurd h List.not_mem_nil⟩

theorem AttemptRecord.sound_empty : ({} : AttemptRecord).Sound where
  coherent :=
    { progress_le := Nat.zero_le _
      idle := fun _ => ⟨rfl, rfl, rfl, rfl, rfl, rfl⟩
      binding := fun h => absurd rfl h
      uncancelled := fun _ => rfl
      cancelled := fun h => absurd rfl h
      unfinished := fun _ => ⟨rfl, rfl, rfl⟩
      finished := fun h => absurd rfl h
      fenced := fun _ h => absurd rfl h
      admits := trivial }
  platform := AttemptSequenceState.bounded_empty
  worker := AttemptSequenceState.bounded_empty
  pending := fun _ h => absurd h (Option.not_mem_none _)

/-- The zero binding is not valid, so nothing is pending on an idle attempt. -/
theorem AttemptRecord.Sound.pending_idle {attempt : AttemptRecord} (h : attempt.Sound) (hs : attempt.state = .idle) :
    attempt.pendingWorkerTerminal = none := by
  cases hp : attempt.pendingWorkerTerminal with
  | none => rfl
  | some commitment =>
    have hc := h.pending commitment hp
    have hzero : attempt.binding = {} := (h.coherent.idle hs).2.2.2.2.2
    exact absurd (hzero ▸ hc.binding_eq ▸ hc.terminal.1.1) AttemptBindingV1.not_valid_default

namespace ConformanceMachine

variable {machine : ConformanceMachine} {direction : Direction} {message : AttemptMessage}

theorem bounded_record {state} (h : state.Bounded) {sequence} (fingerprint : Sum256)
    (hs : sequence = state.sequence + 1) (hle : sequence ≤ maxAttemptMessages) :
    (record state sequence fingerprint).Bounded := by
  refine ⟨hle, fun entry he => ?_⟩
  rcases OrderedMap.mem_insert he with rfl | he
  · exact ⟨by simp only [hs]; omega, le_refl _⟩
  · have hk := h.keys entry he
    exact ⟨hk.1, by simp only [record]; omega⟩

theorem bounded_prune {state : AttemptSequenceState} (h : state.Bounded) {sequence}
    (hle : sequence ≤ maxAttemptMessages) :
    (pruneAttemptFingerprints { state with sequence := sequence } sequence).Bounded := by
  refine ⟨hle, fun entry he => ?_⟩
  obtain ⟨hmem, hk⟩ := OrderedMap.mem_filterKeys.1 he
  exact ⟨(h.keys entry hmem).1, of_decide_eq_true hk⟩

theorem sequence_le_of_valid (h : message.Valid) : message.sequence ≤ maxAttemptMessages := by
  cases message with
  | leaseOffer message | leaseClaim message | leaseAccepted message => exact h.2.2
  | progress message | cancel message | cancelAck message | terminal message | terminalAck message => exact h.1.2.2

/-! ## Attempt messages -/

theorem admits_mono {state : AttemptState} {summary summary' : AttemptSummaryV1}
    (h : state.Admits summary) (hp : summary.platformSequence ≤ summary'.platformSequence)
    (hw : summary.workerSequence ≤ summary'.workerSequence) (hc : summary'.cancelRevision = summary.cancelRevision)
    (ht : summary'.terminalSequence = summary.terminalSequence) : state.Admits summary' := by
  cases state with
  | idle => trivial
  | offered => exact le_trans h hp
  | claimPending | claimed => exact ⟨le_trans h.1 hp, le_trans h.2 hw⟩
  | cancelRequested | cancelAcked | fenced => exact hc.trans h
  | terminalPending | terminalCommitted => exact ht.trans h

theorem contentValid_digest {summary : AttemptSummaryV1} (h : summary.ContentValid) (digest : Bytes) :
    ({ summary with digest := digest } : AttemptSummaryV1).ContentValid := by
  obtain ⟨h1, h2, h3, h4, h5, h6, h7, h8⟩ := h
  exact ⟨h1, h2, h3, h4, h5, h6, h7, admits_mono h8 le_rfl le_rfl rfl rfl⟩

theorem coherent_entered {attempt now} (h : machine.attempt.Sound)
    (hg : machine.AttemptGuard direction message now) (hv : message.Valid)
    (hm : machine.Moves direction message attempt) : (entered attempt direction message).Coherent := by
  have hc := h.coherent
  have hactive := hm.active
  have hseq := hg.sequence_eq
  cases hm with
  | leaseOffer offer hconn hs hq =>
    exact { hc with
      idle := fun h0 => absurd h0 hactive
      binding := fun _ => hv.1
      admits := by simp [AttemptState.Admits, entered, record, AttemptRecord.content, AttemptMessage.sequence, hq] }
  | leaseClaim claim hs =>
    have ha := hc.admits
    rw [hs] at ha
    exact { hc with
      idle := fun h0 => absurd h0 hactive
      binding := fun _ => hc.binding (by simp [hs])
      admits := ⟨ha, by simp only [entered, record, AttemptRecord.content, hseq]; omega⟩ }
  | leaseAccepted accepted hs =>
    have ha := hc.admits
    rw [hs] at ha
    refine { hc with
      idle := fun h0 => absurd h0 hactive
      binding := fun _ => hc.binding (by simp [hs])
      admits := ⟨?_, ha.2⟩ }
    have := ha.1
    simp only [AttemptRecord.content] at this
    simp only [entered, record, AttemptRecord.content, hseq, attemptSender]; omega
  | progress progress hf hs hq =>
    refine { hc with
      progress_le := hv.2.2
      idle := fun h0 => absurd h0 hactive
      admits := admits_mono hc.admits le_rfl ?_ rfl rfl }
    simp only [entered, record, AttemptRecord.content, hseq, attemptSender]; omega
  | cancel cancel hf hs hr =>
    have hbinding : machine.attempt.binding.Valid := hc.binding (by rcases hs with hs | hs | hs | hs <;> simp [hs])
    refine ⟨hc.progress_le, fun h0 => absurd h0 hactive, fun _ => hbinding, fun h0 => ?_, fun _ => hv.2.2,
      fun _ => ⟨rfl, rfl, rfl⟩, fun h0 => absurd rfl h0, fun _ h0 => absurd rfl h0, ?_⟩
    · simp [entered, hr] at h0
    · simp only [entered, AttemptRecord.content]
      split
      · exact hr
      · exact hr
  | cancelAck ack hf hs hr =>
    have hbinding : machine.attempt.binding.Valid := hc.binding (by rcases hs with hs | hs <;> simp [hs])
    have ha := hc.admits
    refine { hc with idle := fun h0 => absurd h0 hactive, binding := fun _ => hbinding, admits := ?_ }
    rcases hs with hs | hs
    · rw [hs] at ha
      simp only [entered, hs]
      exact ha
    · rw [hs] at ha
      simp only [entered, hs]
      exact ha
  | swallowed terminal hs hq h1 h2 h3 h4 =>
    refine { hc with idle := fun h0 => absurd h0 hactive, admits := admits_mono hc.admits le_rfl ?_ rfl rfl }
    simp only [entered, record, AttemptRecord.content, hseq, attemptSender]; omega
  | terminal terminal hs hq hcan =>
    have hbinding : machine.attempt.binding.Valid := hc.binding (by rcases hs with hs | hs | hs | hs <;> simp [hs])
    refine ⟨hc.progress_le, fun h0 => absurd h0 hactive, fun _ => hbinding, hc.uncancelled, hc.cancelled,
      fun h0 => absurd h0 (by simp [entered, hq]), fun _ => hv.2.2, fun hf _ => ?_, ?_⟩
    · by_contra hne
      have h0 := hc.uncancelled (hcan.2 hne)
      rw [show machine.attempt.cancelCode = .fenced from hf] at h0
      cases h0
    · simp only [entered]
      split
      · exact hq
      · have ha := hc.admits
        rcases hs with hs | hs | hs | hs
        · rw [hs] at ha ⊢
          refine ⟨ha.1, ?_⟩
          simp only [record, AttemptRecord.content, hseq]; omega
        · rw [hs] at ha ⊢; exact ha
        · rw [hs] at ha ⊢; exact ha
        · rw [hs] at ha ⊢; exact ha
  | terminalAck ack hs =>
    have ha := hc.admits
    rw [hs] at ha
    exact { hc with idle := fun h0 => absurd h0 hactive, binding := fun _ => hc.binding (by simp [hs]), admits := ha }

theorem sound_entered {attempt now} (h : machine.attempt.Sound)
    (hg : machine.AttemptGuard direction message now) (hv : message.Valid)
    (hm : machine.Moves direction message attempt) : (entered attempt direction message).Sound := by
  have hle := sequence_le_of_valid hv
  have hcoherent := coherent_entered h hg hv hm
  obtain ⟨hp, hw, hpend, hb⟩ := hm.kept
  have hbinding : ∀ commitment ∈ machine.attempt.pendingWorkerTerminal, attempt.binding = machine.attempt.binding := by
    intro commitment hc
    refine hb fun hs => ?_
    rw [h.pending_idle hs] at hc
    exact absurd hc (Option.not_mem_none _)
  cases direction with
  | platformToWorker =>
    refine ⟨hcoherent, ?_, ?_, fun commitment hc => ?_⟩
    · have hs : message.sequence = attempt.platform.sequence + 1 := by rw [hp]; exact hg.sequence_eq
      exact bounded_record (hp ▸ h.platform) _ hs hle
    · exact hw ▸ h.worker
    · simp only [entered, hpend] at hc
      simp only [entered, hbinding commitment hc, hw]
      exact h.pending commitment hc
  | workerToPlatform =>
    have hs : message.sequence = machine.attempt.worker.sequence + 1 := hg.sequence_eq
    refine ⟨hcoherent, hp ▸ h.platform, ?_, fun commitment hc => ?_⟩
    · exact bounded_record (hw ▸ h.worker) _ (by rw [hw]; exact hs) hle
    · simp only [entered, hpend, Option.mem_def, Option.filter_eq_some_iff, decide_eq_true_eq] at hc
      obtain ⟨hc, hne⟩ := hc
      have hsound := h.pending commitment hc
      simp only [entered, hbinding commitment hc, record]
      -- a replay still lies ahead: its own sequence would have settled it
      exact { hsound with
        replay := fun hd => by have := hsound.replay hd; omega
        discard := fun hd => by have := hsound.discard hd; omega }

/-! ## Revocation and reconciliation -/

theorem sound_fenceAttempt {attempt} (h : attempt.Sound)
    (hr : attempt.state ≠ .idle → attempt.state ≠ .terminalCommitted → attempt.cancelRevision ≤ 1) :
    (fenceAttempt attempt).Sound := by
  unfold fenceAttempt
  split
  · rename_i hs
    have hrev := hr hs.1 hs.2
    have hone : (if attempt.cancelRevision = 0 then 1 else attempt.cancelRevision) = 1 := by split <;> omega
    refine ⟨⟨h.coherent.progress_le, (by simp), fun _ => h.coherent.binding hs.1, fun h0 => ?_, fun _ => .inr rfl,
      fun _ => ⟨rfl, rfl, rfl⟩, fun h0 => absurd rfl h0, fun _ h0 => absurd rfl h0, hone⟩, h.platform, h.worker,
      h.pending⟩
    simp only [hone] at h0
    cases h0
  · exact h

theorem sound_applyAttemptSummary (machine : ConformanceMachine) {summary : AttemptSummaryV1} (hp : machine.attempt.platform.Bounded)
    (hw : machine.attempt.worker.Bounded) (hs : summary.ContentValid)
    (hpending : ∀ commitment ∈ machine.attempt.pendingWorkerTerminal,
      commitment.kind = .terminal ∧ commitment.terminal.Valid ∧ commitment.sequence = commitment.terminal.attemptSequence ∧
      (commitment.decision = .replay ∨ commitment.decision = .discard) ∧ commitment.terminal.binding = summary.binding ∧
      commitment.fingerprint = attemptFingerprint (.terminal commitment.terminal) ∧
      (commitment.decision = .replay → summary.workerSequence < commitment.sequence)) :
    (machine.applyAttemptSummary summary).applyDiscardTombstone.attempt.Sound := by
  have hcoherent : (machine.applyAttemptSummary summary).attempt.Coherent := .of_contentValid (contentValid_digest hs [])
  have hplatform : (machine.applyAttemptSummary summary).attempt.platform.Bounded := bounded_prune hp hs.1
  have hworker : (machine.applyAttemptSummary summary).attempt.worker.Bounded := bounded_prune hw hs.2.1
  unfold applyDiscardTombstone
  split
  · rename_i commitment hc
    obtain ⟨h1, h2, h3, h4, h5, h6, h7⟩ := hpending commitment hc
    split
    · rename_i hkeep
      refine ⟨hcoherent, hplatform, hworker, fun other ho => ?_⟩
      obtain rfl : commitment = other := Option.some.inj (hc.symm.trans ho)
      exact ⟨h1, h2, h3, h4, h5, h6, h7, fun hd => hkeep.resolve_left fun hne => hne hd⟩
    · rename_i hraise
      simp only [not_or, ne_eq, Decidable.not_not, not_le] at hraise
      obtain ⟨hdiscard, hlt⟩ := hraise
      have hle : commitment.sequence ≤ maxAttemptMessages := h3 ▸ h2.1.2.2
      have hactive : summary.state ≠ .idle := fun hi => by
        have hzero : summary.binding = {} := (hcoherent.idle hi).2.2.2.2.2
        exact AttemptBindingV1.not_valid_default (hzero ▸ h5 ▸ h2.1.1)
      refine ⟨{ hcoherent with
        idle := fun hi => absurd hi hactive
        admits := admits_mono hcoherent.admits le_rfl hlt.le rfl rfl }, hplatform, ⟨hle, fun entry he => ?_⟩,
        fun other ho => ?_⟩
      · have hk := hworker.keys entry he
        exact ⟨hk.1, hk.2.trans hlt.le⟩
      · obtain rfl : commitment = other := Option.some.inj (hc.symm.trans ho)
        refine ⟨h1, h2, h3, h4, h5, h6, fun hd => ?_, fun _ => le_rfl⟩
        rw [hdiscard] at hd
        cases hd
  · rename_i hc
    refine ⟨hcoherent, hplatform, hworker, fun other ho => ?_⟩
    rw [hc] at ho
    exact absurd ho (Option.not_mem_none _)

end ConformanceMachine

end Sessionless.Protocol
