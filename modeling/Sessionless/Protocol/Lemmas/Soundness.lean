import Sessionless.Protocol.Lemmas.Coherence
import Sessionless.Protocol.Lemmas.Tidy

/-!
# Machines that can be persisted

`Sound` collects, state by state, what `validateMachineSnapshotContent` asks of a machine.
Every operation keeps it, except for the five that `Admissible` names.
-/

namespace Sessionless.Protocol

open Lib

variable [Crypto]

namespace ConformanceMachine

variable {machine machine' : ConformanceMachine} {direction : Direction}

/-! ## The invariant -/

/-- Both handshake records are there, and the capability digest has its size. -/
structure Negotiated (machine : ConformanceMachine) : Prop where
  hello : machine.hello.Valid
  challenge : machine.challenge.Valid
  capability : machine.capabilityDigest.length = 32

/-- Before its first manifest a connection that is not a reconnect has nothing to carry. -/
def Early (machine : ConformanceMachine) : Prop :=
  machine.reconnecting = false → machine.manifest = {} ∧ machine.attempt = {}

def Phase (machine : ConformanceMachine) : ConnectionState → Prop
  | .unattached => machine.hello = {} ∧ machine.challenge = {} ∧
      (machine.reconnecting = false → machine = { config := machine.config })
  | .hello => machine.hello.Valid ∧ machine.challenge = {} ∧ machine.Early
  | .challenged => machine.hello.Valid ∧ machine.challenge.Valid ∧ machine.Early
  | .attachPending => machine.Negotiated ∧ machine.reconnecting = false ∧ machine.Early
  | .reconnectPending => machine.Negotiated ∧ machine.reconnectClaim.Valid
  | .attached => machine.Negotiated ∧ (machine.reconnecting = true → machine.reconnectClaim.Valid) ∧ machine.Early
  | .ready => machine.Negotiated ∧ machine.manifest.Valid
  | .draining => machine.Negotiated ∧ machine.manifest.Valid ∧ machine.drainRevision ≠ 0 ∧
      (machine.drainReenvelopePending = true → machine.reconnectTarget = .draining ∧ machine.reconnectClaim.Valid)
  | .drained => machine.Negotiated ∧ machine.manifest.Valid ∧ machine.drainRevision ≠ 0 ∧
      machine.reconnecting = false ∧ machine.drainReenvelopePending = false
  | .revoking | .revoked => True

structure ReconnectSound (machine : ConformanceMachine) : Prop where
  target : machine.reconnectTarget = .ready ∨ machine.reconnectTarget = .draining
  generation : machine.previousConnectionGeneration ≠ 0
  watermarks : machine.reconnectWatermarks.Valid
  attempt : machine.reconnectAttempt.Valid
  manifest : machine.manifest.Valid
  capability : machine.reconnectAttempt.state ≠ .idle →
    machine.reconnectAttempt.binding.capabilityDigest = machine.capabilityDigest
  pending : ∀ commitment ∈ machine.attempt.pendingWorkerTerminal,
    commitment.terminal.binding = machine.reconnectAttempt.binding
  drain : machine.reconnectTarget = .draining → machine.drainRevision ≠ 0
  claim : machine.reconnectClaim.Valid →
    machine.reconnectClaim.previousConnectionGeneration = machine.previousConnectionGeneration ∧
      reconnectClaimsCompatible machine.reconnectClaim machine.reconnectRecord

structure Sound (machine : ConformanceMachine) : Prop where
  tidy : machine.Tidy
  agrees : machine.Agrees
  config : machine.config.Valid
  acks : machine.platform.ack ≤ machine.worker.sequence ∧ machine.worker.ack ≤ machine.platform.sequence
  attempt : machine.attempt.Sound
  challenge : machine.challenge.Valid → machine.hello.Valid ∧ machine.challenge.workerOffer = machine.hello.offer ∧
    machine.challenge.workerNonce = machine.hello.workerNonce
  manifest : machine.manifest.Valid → manifestDigestV1 machine.manifest = some machine.capabilityDigest
  capability : machine.capabilityDigest = [] ∨ machine.capabilityDigest.length = 32
  active : machine.attempt.state ≠ .idle →
    machine.manifest.Valid ∧ machine.attempt.binding.capabilityDigest = machine.capabilityDigest
  revoke : machine.Revoking → machine.revoke.Valid
  reconnect : machine.reconnecting = true ∨ machine.drainReenvelopePending = true → machine.ReconnectSound
  generation : machine.reconnectClaim.Valid →
    machine.reconnectClaim.previousConnectionGeneration < machine.config.auth.connectionGeneration
  phase : machine.Phase machine.connection

/-- The steps that leave a machine fit to be persisted. The five exceptions are: an error frame
before the first `Hello`, a `Drained` while the drain of an earlier connection is still to be
repeated, a second reconnect of a machine that still holds the claim of the first, a discarded
terminal without an attempt sequence, and a revocation over a cancel revision above one. -/
def AdmissiblePayload (machine : ConformanceMachine) : Payload → Prop
  | .error _ => ¬ (machine.connection = .unattached ∧ machine.reconnecting = false)
  | .drained _ => machine.drainReenvelopePending = false
  | .reconnectAccepted accepted =>
    ¬ (accepted.replayPlan.terminalDecision = .discard ∧ pendingSequence machine.reconnectClaim = 0)
  | .revoke _ => machine.attempt.state ≠ .idle → machine.attempt.state ≠ .terminalCommitted →
      machine.attempt.cancelRevision ≤ 1
  | _ => True

/-- A repeated envelope changes nothing, whatever it carries. -/
def Admissible (machine : ConformanceMachine) : Operation → Prop
  | .accept direction frame _ =>
    frame.sequence = (machine.sender direction).sequence ∨ machine.AdmissiblePayload frame.payload
  | .beginReconnect _ => ¬ machine.reconnectClaim.Valid
  | .eraseCommittedAttempt => True

/-! ## Claims and their pending terminal -/

theorem valid_of_reconnectPendingTerminal {claim terminal} (hv : claim.Valid)
    (h : reconnectPendingTerminal claim = some terminal) :
    terminal.binding = claim.attempt.binding ∧ claim.attempt.state ≠ .idle ∧
      (terminal.attemptSequence ≠ 0 → terminal.Valid) := by
  obtain ⟨-, -, ⟨hcontent, -⟩, hpending, -⟩ := hv
  unfold reconnectPendingTerminal at h
  split at h
  · rename_i carried hc
    cases h
    obtain ⟨hvalid, hbinding⟩ := hpending terminal hc
    refine ⟨hbinding, fun hs => ?_, fun _ => hvalid⟩
    have hzero : terminal.binding = {} := hbinding.trans (hcontent.binding hs)
    exact AttemptBindingV1.not_valid_default (hzero ▸ hvalid.1.1)
  · split at h
    · cases h
    · rename_i hne
      cases h
      obtain ⟨-, hw, -, hidle, -, hterm, -, -⟩ := hcontent
      simp only [hne, if_false] at hterm
      have hstate : claim.attempt.state ≠ .idle := fun hs => by
        simp only [hs, if_true] at hidle
        exact hne hidle.2.2.2.2.2.1
      simp only [hstate, if_false] at hidle
      exact ⟨rfl, hstate, fun h0 => ⟨⟨hidle, h0, hw⟩, hne, hterm.1, hterm.2⟩⟩

theorem reconnectClaimsCompatible_pending {claim record pending} (h : reconnectClaimsCompatible claim record)
    (hp : ∀ terminal ∈ pending, terminal.Valid ∧ terminal.binding = record.attempt.binding ∧
      reconnectPendingTerminal claim = some terminal) :
    reconnectClaimsCompatible claim (sealReconnectSnapshot { record with pendingTerminalReplay := pending }) := by
  obtain ⟨⟨hclaim, ⟨h1, h2, h3, -, -, -⟩, hrest⟩, -, hstates⟩ := h
  exact ⟨⟨hclaim, ⟨h1, h2, h3, fun terminal ht => ⟨(hp terminal ht).1, (hp terminal ht).2.1⟩, (Crypto.sha256 _).2, rfl⟩,
    hrest⟩, fun terminal ht => (hp terminal ht).2.2, hstates⟩

theorem Sound.phase_of (h : machine.Sound) {state} (hc : machine.connection = state) :
    machine.Phase state := hc ▸ h.phase

/-- A reconnecting worker has shown its manifest before, so its capability digest is fixed. -/
theorem ReconnectSound.capability_ne (h : machine.Sound) (hr : machine.ReconnectSound) :
    machine.capabilityDigest ≠ [] ∧ machine.capabilityDigest.length = 32 := by
  have hd := h.manifest hr.manifest
  simp only [manifestDigestV1, hr.manifest, if_true, Option.some.injEq] at hd
  have hlen : machine.capabilityDigest.length = 32 := by rw [← hd]; exact (Crypto.sha256 _).2
  exact ⟨fun h0 => by simp [h0] at hlen, hlen⟩

theorem binding_of_compatible {claim record} (h : reconnectClaimsCompatible claim record)
    (hs : claim.attempt.state ≠ .idle ∨ record.attempt.state ≠ .idle) :
    claim.attempt.state ≠ .idle ∧ record.attempt.state ≠ .idle ∧ claim.attempt.binding = record.attempt.binding := by
  obtain ⟨-, -, hstates⟩ := h
  split at hstates
  · rename_i hidle
    rcases hidle with hi | hi
    · rw [hi] at hs hstates; rw [← hstates] at hs; simp at hs
    · rw [hi] at hs hstates; rw [hstates] at hs; simp at hs
  · rename_i hactive
    rw [not_or] at hactive
    exact ⟨hactive.1, hactive.2, hstates.1⟩

theorem applyDiscardTombstone_kept (machine : ConformanceMachine) :
    machine.applyDiscardTombstone.attempt.state = machine.attempt.state ∧
    machine.applyDiscardTombstone.attempt.binding = machine.attempt.binding ∧
    machine.applyDiscardTombstone.attempt.pendingWorkerTerminal = machine.attempt.pendingWorkerTerminal := by
  obtain ⟨sequence, heq, -⟩ := applyDiscardTombstone_attempt machine
  rw [heq]
  exact ⟨rfl, rfl, rfl⟩

theorem Sound.pending_installed (h : machine.Sound) {accepted pending} (hc : machine.connection = .reconnectPending)
    (hbuilt : buildReconnectAcceptedV1 (machine.authoritativeRecord accepted) machine.reconnectClaim
      accepted.toNegotiationV1 = .ok accepted)
    (hadmissible : ¬ (accepted.replayPlan.terminalDecision = .discard ∧ pendingSequence machine.reconnectClaim = 0))
    (hpending : (pending = none ∧ accepted.replayPlan.terminalDecision ≠ .discard) ∨
      (pending = machine.attempt.pendingWorkerTerminal ∧ accepted.replayPlan.terminalDecision = .none ∧
        ∀ p ∈ pending, accepted.authoritativeAttempt.workerSequence < p.sequence ∧
          accepted.authoritativeAttempt.terminalSequence = 0) ∨
      ((accepted.replayPlan.terminalDecision = .replay ∨ accepted.replayPlan.terminalDecision = .discard) ∧
        ∃ terminal, reconnectPendingTerminal machine.reconnectClaim = some terminal ∧
          pending = some (replayCommitment terminal accepted.replayPlan.terminalDecision)))
    (commitment : TerminalReplayCommitment) (hmem : commitment ∈ pending) :
    reconnectPendingTerminal machine.reconnectClaim = some commitment.terminal ∧
      commitment.kind = .terminal ∧ commitment.terminal.Valid ∧ commitment.sequence = commitment.terminal.attemptSequence ∧
      (commitment.decision = .replay ∨ commitment.decision = .discard) ∧
      commitment.fingerprint = attemptFingerprint (.terminal commitment.terminal) ∧
      (commitment.decision = .replay → accepted.authoritativeAttempt.workerSequence < commitment.sequence) := by
  have hrs := h.reconnect (.inl (h.tidy.pended hc))
  obtain ⟨-, hclaim⟩ := h.phase_of hc
  obtain ⟨-, hcompatible⟩ := hrs.claim hclaim
  rcases hpending with ⟨rfl, -⟩ | ⟨rfl, -, hlt⟩ | ⟨hd, terminal, ht, rfl⟩
  · exact absurd hmem (Option.not_mem_none _)
  · have hs := h.attempt.pending commitment hmem
    have hrecord : commitment.terminal ∈ machine.reconnectRecord.pendingTerminalReplay := by
      simp only [reconnectRecord, sealReconnectSnapshot, pendingTerminalForSnapshot, Option.mem_def] at hmem ⊢
      rw [hmem]; rfl
    exact ⟨hcompatible.2.1 _ hrecord, hs.kind_eq, hs.terminal, hs.sequence_eq, hs.decision, hs.fingerprint_eq,
      fun _ => (hlt commitment hmem).1⟩
  · obtain rfl : replayCommitment terminal accepted.replayPlan.terminalDecision = commitment := Option.some.inj hmem
    obtain ⟨-, hreplay, heq⟩ := buildReconnectAcceptedV1_ok.1 hbuilt
    have hdecision : terminalDecision (machine.authoritativeRecord accepted) machine.reconnectClaim =
        accepted.replayPlan.terminalDecision := by rw [← heq]; rfl
    have hsequence : pendingSequence machine.reconnectClaim = terminal.attemptSequence := by
      simp [pendingSequence, ht]
    have hlt : accepted.replayPlan.terminalDecision = .replay →
        accepted.authoritativeAttempt.workerSequence < terminal.attemptSequence := fun hr => by
      have := hreplay (hdecision.trans hr)
      rw [hsequence] at this
      exact this
    have hne : terminal.attemptSequence ≠ 0 := by
      rcases hd with hr | hdis
      · have := hlt hr; omega
      · exact fun h0 => hadmissible ⟨hdis, hsequence.trans h0⟩
    exact ⟨ht, rfl, (valid_of_reconnectPendingTerminal hclaim ht).2.2 hne, rfl, hd, rfl, hlt⟩

theorem reconnectRecord_setAttempt (machine : ConformanceMachine) (attempt : AttemptRecord) :
    (machine.setAttempt attempt).reconnectRecord =
    sealReconnectSnapshot { machine.reconnectRecord with
      pendingTerminalReplay := attempt.pendingWorkerTerminal.map TerminalReplayCommitment.terminal } := rfl

theorem Moves.of_idle {message attempt} (h : machine.Moves direction message attempt)
    (hs : machine.attempt.state = .idle) : machine.connection = .ready ∧ attempt.binding = message.binding := by
  cases h with
  | leaseOffer message hc => exact ⟨hc, rfl⟩
  | leaseClaim message hs' | leaseAccepted message hs' | progress message hf hs' | cancel message hf hs'
  | cancelAck message hf hs' | swallowed message hs' | terminal message hs' | terminalAck message hs' =>
    simp [hs] at hs'

/-- The phase of a connection does not depend on the envelopes, and on the attempt only before the first manifest. -/
theorem Phase.of_same {state platform worker attempt} (h : machine.Phase state)
    (hfresh : state = .unattached → machine.reconnecting = false → platform = {} ∧ worker = {})
    (hearly : state ≠ .ready → machine.attempt = {} → attempt = {}) :
    ({ machine with platform := platform, worker := worker, attempt := attempt } : ConformanceMachine).Phase state := by
  have hearly' : machine.Early → state ≠ .ready →
      ({ machine with platform := platform, worker := worker, attempt := attempt } : ConformanceMachine).Early :=
    fun he hc hr => ⟨(he hr).1, hearly hc (he hr).2⟩
  cases state with
  | unattached =>
    obtain ⟨h1, h2, h3⟩ := h
    refine ⟨h1, h2, fun hr => ?_⟩
    have hm := h3 hr
    obtain ⟨rfl, rfl⟩ := hfresh rfl hr
    obtain rfl := hearly (by simp) (congrArg ConformanceMachine.attempt hm)
    rw [hm]
  | hello | challenged => exact ⟨h.1, h.2.1, hearly' h.2.2 (by simp)⟩
  | attachPending => exact ⟨{ h.1 with }, h.2.1, hearly' h.2.2 (by simp)⟩
  | reconnectPending => exact ⟨{ h.1 with }, h.2⟩
  | attached => exact ⟨{ h.1 with }, h.2.1, hearly' h.2.2 (by simp)⟩
  | ready | draining | drained => exact ⟨{ h.1 with }, h.2⟩
  | revoking | revoked => trivial

theorem Sound.setAttempt (h : machine.Sound) {attempt} (hs : attempt.Sound)
    (ht : (machine.setAttempt attempt).Tidy) (hg : (machine.setAttempt attempt).Agrees)
    (hpending : ∀ commitment ∈ attempt.pendingWorkerTerminal, commitment ∈ machine.attempt.pendingWorkerTerminal)
    (hactive : attempt.state ≠ .idle → machine.manifest.Valid ∧
      attempt.binding.capabilityDigest = machine.capabilityDigest)
    (hearly : machine.connection ≠ .ready → machine.attempt = {} → attempt = {}) :
    (machine.setAttempt attempt).Sound := by
  refine { h with
    tidy := ht, agrees := hg
    attempt := hs
    active := hactive
    reconnect := fun hf => ?_
    phase := h.phase.of_same (fun hc hr => ?_) hearly }
  · have hrs := h.reconnect hf
    refine { hrs with
      pending := fun commitment hmem => hrs.pending commitment (hpending commitment hmem)
      claim := fun hv => ⟨(hrs.claim hv).1, ?_⟩ }
    rw [reconnectRecord_setAttempt]
    refine reconnectClaimsCompatible_pending (hrs.claim hv).2 fun terminal hmem => ?_
    rw [Option.mem_def, Option.map_eq_some_iff] at hmem
    obtain ⟨commitment, hmem, rfl⟩ := hmem
    have hold := hpending commitment hmem
    refine ⟨(h.attempt.pending commitment hold).terminal, hrs.pending commitment hold, (hrs.claim hv).2.2.1 _ ?_⟩
    simp only [reconnectRecord, sealReconnectSnapshot, pendingTerminalForSnapshot, Option.mem_def] at hold ⊢
    rw [hold]; rfl
  · have hm := (h.phase_of hc).2.2 hr
    exact ⟨congrArg ConformanceMachine.platform hm, congrArg ConformanceMachine.worker hm⟩

theorem fenceAttempt_kept (attempt : AttemptRecord) : (fenceAttempt attempt).binding = attempt.binding ∧
    (fenceAttempt attempt).pendingWorkerTerminal = attempt.pendingWorkerTerminal ∧
    ((fenceAttempt attempt).state = .idle ↔ attempt.state = .idle) := by
  unfold fenceAttempt
  split
  · rename_i hs
    exact ⟨rfl, rfl, (by simp), fun h0 => absurd h0 hs.1⟩
  · exact ⟨rfl, rfl, Iff.rfl⟩

theorem Sound.currentAttemptSummary_valid (h : machine.Sound) : machine.currentAttemptSummary.Valid := by
  rw [currentAttemptSummary_of_tidy h.tidy.attempt]
  exact ⟨contentValid_digest (h.attempt.coherent.contentValid h.attempt.platform h.attempt.worker) _,
    (Crypto.sha256 _).2, rfl⟩

section

variable (h : machine.Sound) (ht : machine'.Tidy) (hg : machine'.Agrees)

include h ht hg

/-! ## Handshake frames -/

theorem Sound.acceptHello {hello} (hv : hello.Valid) (ha : machine.acceptHello direction hello = .ok () machine') :
    machine'.Sound := by
  obtain ⟨⟨-, hc, -⟩, rfl⟩ := acceptHello_ok.1 ha
  obtain ⟨-, hchallenge, hfresh⟩ := h.phase_of hc
  refine { h with
    tidy := ht, agrees := hg
    challenge := fun hcv => absurd (hchallenge ▸ hcv) ChallengeV1.not_valid_default
    revoke := fun hr => absurd hr (by simp [Revoking])
    reconnect := fun hf => { h.reconnect hf with }
    phase := ⟨hv, hchallenge, fun hr => ?_⟩ }
  rw [hfresh hr]
  exact ⟨rfl, rfl⟩

theorem Sound.acceptChallenge {challenge} (hv : challenge.Valid)
    (ha : machine.acceptChallenge direction challenge = .ok () machine') : machine'.Sound := by
  obtain ⟨⟨-, hc, ho, -, hn⟩, -, rfl⟩ := acceptChallenge_ok.1 ha
  obtain ⟨hhello, -, hearly⟩ := h.phase_of hc
  exact { h with
    tidy := ht, agrees := hg
    challenge := fun _ => ⟨hhello, ho, hn⟩
    revoke := fun hr => absurd hr (by simp [Revoking])
    reconnect := fun hf => { h.reconnect hf with }
    phase := ⟨hhello, hv, hearly⟩ }

theorem Sound.acceptAttach {frame attach} (hv : attach.Valid)
    (ha : machine.acceptAttach direction frame attach = .ok () machine') : machine'.Sound := by
  obtain ⟨⟨-, hc, hr, -⟩, rfl⟩ := acceptAttach_ok.1 ha
  obtain ⟨hhello, hchallenge, hearly⟩ := h.phase_of hc
  obtain ⟨hmanifest, hattempt⟩ := hearly hr
  have hcap : attach.capabilityDigest.length = 32 := hv.1.2.2.2.2.2.2.2
  have hflags := h.tidy.no_reenvelope hc
  exact { h with
    tidy := ht, agrees := hg
    manifest := fun hm => absurd (hmanifest ▸ hm) CapabilityManifestV1.not_valid_default
    capability := .inr hcap
    active := fun hs => absurd (by rw [hattempt]) hs
    revoke := fun hr => absurd hr (by simp [Revoking])
    reconnect := fun hf => absurd hf (by simp [hr, hflags])
    phase := ⟨⟨hhello, hchallenge, hcap⟩, hr, hearly⟩ }

theorem Sound.acceptAttachAccepted {accepted}
    (ha : machine.acceptAttachAccepted direction accepted = .ok () machine') : machine'.Sound := by
  obtain ⟨⟨-, hc, -⟩, rfl⟩ := acceptAttachAccepted_ok.1 ha
  obtain ⟨hnegotiated, hr, hearly⟩ := h.phase_of hc
  exact { h with
    tidy := ht, agrees := hg
    revoke := fun hr => absurd hr (by simp [Revoking])
    reconnect := fun hf => { h.reconnect hf with }
    phase := ⟨{ hnegotiated with }, fun hr' => absurd hr' (by simp [hr]), hearly⟩ }

theorem Sound.acceptReconnect {frame reconnect}
    (ha : machine.acceptReconnect direction frame reconnect = .ok () machine') : machine'.Sound := by
  obtain ⟨hguard, rfl⟩ := acceptReconnect_ok.1 ha
  have hrs := h.reconnect (.inl hguard.reconnecting_eq)
  obtain ⟨hne, hlen⟩ := hrs.capability_ne h
  have hcap := hguard.capability hne
  obtain ⟨hhello, hchallenge, -⟩ := h.phase_of hguard.connection_eq
  have hclaim : reconnect.claim.Valid := hguard.compatible.1.1
  exact { h with
    tidy := ht, agrees := hg
    manifest := fun hm => by rw [hcap]; exact h.manifest hm
    capability := .inr (by rw [hcap]; exact hlen)
    active := fun hs => by rw [hcap]; exact h.active hs
    revoke := fun hr => absurd hr (by simp [Revoking])
    reconnect := fun _ => { hrs with
      capability := fun hs => by rw [hcap]; exact hrs.capability hs
      claim := fun _ => ⟨hguard.generation_eq, hguard.compatible⟩ }
    generation := fun _ => by
      have := hguard.generation_succ
      simp only [ReconnectV1.claim, sealReconnectSnapshot]
      omega
    phase := ⟨⟨hhello, hchallenge, by rw [hcap]; exact hlen⟩, hclaim⟩ }

/-! ## The answer to a reconnect -/

theorem Sound.acceptReconnectAccepted {accepted} (hv : accepted.Valid)
    (hadmissible : ¬ (accepted.replayPlan.terminalDecision = .discard ∧ pendingSequence machine.reconnectClaim = 0))
    (ha : machine.acceptReconnectAccepted direction accepted = .ok () machine') : machine'.Sound := by
  obtain ⟨-, hc, -, hbuilt, installed, hi, heq⟩ := acceptReconnectAccepted_ok ha
  obtain ⟨pending, rfl, hpending⟩ := installReplayCommitment_ok hi
  have hinstalled := fun commitment hmem =>
    h.pending_installed hc hbuilt hadmissible hpending commitment hmem
  have hrec := h.tidy.pended hc
  have hrs := h.reconnect (.inl hrec)
  obtain ⟨hnegotiated, hclaim⟩ := h.phase_of hc
  obtain ⟨hgeneration, hcompatible⟩ := hrs.claim hclaim
  have hanswer : reconnectClaimsCompatible machine.reconnectClaim (machine.authoritativeRecord accepted) :=
    (buildReconnectAcceptedV1_ok.1 hbuilt).1.2.2.2.2
  -- whatever is pending belongs to the attempt that the claim, the record and the answer agree on
  have howed : ∀ commitment ∈ pending, commitment.terminal.binding = machine.reconnectClaim.attempt.binding ∧
      machine.reconnectClaim.attempt.state ≠ .idle := fun commitment hmem => by
    obtain ⟨hb, hs, -⟩ := valid_of_reconnectPendingTerminal hclaim (hinstalled commitment hmem).1
    exact ⟨hb, hs⟩
  obtain ⟨attempt, hframe⟩ := acceptReconnectAccepted_attempt ha
  have hattempt : attempt =
      ((machine.setPending pending).applyAttemptSummary accepted.authoritativeAttempt).applyDiscardTombstone.attempt := by
    have hsame := congrArg ConformanceMachine.attempt (hframe.symm.trans heq)
    exact hsame
  obtain ⟨hstate, hbinding, hpend⟩ := applyDiscardTombstone_kept
    ((machine.setPending pending).applyAttemptSummary accepted.authoritativeAttempt)
  rw [← hattempt] at hstate hbinding hpend
  have hstate' : attempt.state = accepted.authoritativeAttempt.state := hstate
  have hpend' : attempt.pendingWorkerTerminal = pending := hpend
  have hbinding' : attempt.binding = accepted.authoritativeAttempt.binding := hbinding
  have hbindings : accepted.authoritativeAttempt.state ≠ .idle →
      accepted.authoritativeAttempt.binding = machine.reconnectAttempt.binding ∧ machine.reconnectAttempt.state ≠ .idle := by
    intro hs
    obtain ⟨hcs, -, hb⟩ := binding_of_compatible hanswer (.inr hs)
    obtain ⟨-, hrs', hb'⟩ := binding_of_compatible hcompatible (.inl hcs)
    exact ⟨hb.symm.trans hb', hrs'⟩
  have hsound : attempt.Sound := by
    rw [hattempt]
    refine sound_applyAttemptSummary (machine.setPending pending) h.attempt.platform h.attempt.worker
      hv.2.2.1.1 fun commitment hmem => ?_
    obtain ⟨-, h1, h2, h3, h4, h5, h6⟩ := hinstalled commitment hmem
    obtain ⟨hb, hs⟩ := howed commitment hmem
    exact ⟨h1, h2, h3, h4, hb.trans (binding_of_compatible hanswer (.inl hs)).2.2, h5, h6⟩
  subst hframe
  exact { h with
    tidy := ht, agrees := hg
    attempt := hsound
    active := fun hs => by
      obtain ⟨hb, hs'⟩ := hbindings (hstate' ▸ hs)
      exact ⟨hrs.manifest, by rw [hbinding', hb]; exact hrs.capability hs'⟩
    revoke := fun hr => absurd hr (by simp [Revoking])
    reconnect := fun _ => { hrs with
      pending := fun commitment hmem => by
        rw [hpend'] at hmem
        obtain ⟨hb, hs⟩ := howed commitment hmem
        exact hb.trans (binding_of_compatible hcompatible (.inl hs)).2.2
      claim := fun _ => ⟨hgeneration, by
        have hrecord := reconnectRecord_setAttempt machine attempt
        refine hrecord ▸ reconnectClaimsCompatible_pending hcompatible fun terminal hmem => ?_
        rw [hpend', Option.mem_def, Option.map_eq_some_iff] at hmem
        obtain ⟨commitment, hmem, rfl⟩ := hmem
        obtain ⟨ht, -, hv, -⟩ := hinstalled commitment hmem
        obtain ⟨hb, hs⟩ := howed commitment hmem
        exact ⟨hv, hb.trans (binding_of_compatible hcompatible (.inl hs)).2.2, ht⟩⟩ }
    phase := ⟨{ hnegotiated with }, fun _ => hclaim, fun hr => absurd hrec (by simpa using hr)⟩ }

/-! ## Manifest, presence and drain -/

theorem Sound.acceptManifest {frame manifest} (hv : manifest.Valid)
    (ha : machine.acceptManifest direction frame manifest = .ok () machine') : machine'.Sound := by
  obtain ⟨hguard, rfl⟩ := acceptManifest_ok.1 ha
  have hc := hguard.connection_eq
  obtain ⟨hnegotiated, hclaim, -⟩ := h.phase_of hc
  have hdigest : manifestDigestV1 manifest.manifest = some machine.capabilityDigest := by
    obtain ⟨-, encoded, henc, -⟩ := hguard.verified
    simp only [manifestTranscriptV1, Option.mem_def, Option.ite_none_right_eq_some] at henc
    rw [← hguard.digest_eq]
    exact henc.1.2.2.2
  by_cases hr : machine.reconnecting = true
  · rw [admitManifest, if_pos hr] at ht hg ⊢
    have hrs := h.reconnect (.inl hr)
    refine { h with
      tidy := ht, agrees := hg
      manifest := fun _ => hdigest
      active := fun hs => ⟨hv.1, (h.active hs).2⟩
      revoke := fun hrev => ?_
      reconnect := fun _ => { hrs with manifest := hv.1 }
      phase := ?_ }
    · rcases hrs.target with htarget | htarget <;> simp [Revoking, htarget] at hrev
    · rcases hrs.target with htarget | htarget
      · simp only [htarget]
        exact ⟨{ hnegotiated with }, hv.1⟩
      · simp only [htarget]
        exact ⟨{ hnegotiated with }, hv.1, hrs.drain htarget, fun _ => ⟨rfl, hclaim hr⟩⟩
  · rw [admitManifest, if_neg hr] at ht hg ⊢
    rw [Bool.not_eq_true] at hr
    have hflags := h.tidy.no_reenvelope hc
    exact { h with
      tidy := ht, agrees := hg
      manifest := fun _ => hdigest
      active := fun hs => ⟨hv.1, (h.active hs).2⟩
      revoke := fun hrev => absurd hrev (by simp [Revoking])
      reconnect := fun hf => absurd hf (by simp [hr, hflags])
      phase := ⟨{ hnegotiated with }, hv.1⟩ }

theorem Sound.acceptDrain {drain} (hv : drain.revision ≠ 0)
    (ha : machine.acceptDrain direction drain = .ok () machine') : machine'.Sound := by
  obtain ⟨-, ⟨hc, -, hd, rfl⟩ | ⟨hc, -, -, -, -, -, rfl⟩⟩ := acceptDrain_ok.1 ha
  · obtain ⟨hnegotiated, hmanifest⟩ := h.phase_of hc
    have hr := h.tidy.not_reconnecting (.inl hc)
    exact { h with
      tidy := ht, agrees := hg
      revoke := fun hrev => absurd hrev (by simp [Revoking])
      reconnect := fun hf => absurd hf (by simp [hr, hd])
      phase := ⟨{ hnegotiated with }, hmanifest, hv, fun hd' => absurd hd' (by simp [hd])⟩ }
  · obtain ⟨hnegotiated, hmanifest, hrevision, -⟩ := h.phase_of hc
    have hr := h.tidy.not_reconnecting (.inr hc)
    refine { h with
      tidy := ht, agrees := hg
      revoke := fun hrev => absurd hrev (by simp [Revoking, hc])
      reconnect := fun hf => absurd hf (by simp [hr])
      phase := ?_ }
    simp only [hc]
    exact ⟨{ hnegotiated with }, hmanifest, hrevision, (by simp)⟩

theorem Sound.acceptDrained {drained} (hd : machine.drainReenvelopePending = false)
    (ha : machine.acceptDrained direction drained = .ok () machine') : machine'.Sound := by
  obtain ⟨⟨-, hc, -⟩, rfl⟩ := acceptDrained_ok.1 ha
  obtain ⟨hnegotiated, hmanifest, hrevision, -⟩ := h.phase_of hc
  have hr := h.tidy.not_reconnecting (.inr hc)
  exact { h with
    tidy := ht, agrees := hg
    revoke := fun hrev => absurd hrev (by simp [Revoking])
    reconnect := fun hf => absurd hf (by simp [hr, hd])
    phase := ⟨{ hnegotiated with }, hmanifest, hrevision, hr, hd⟩ }

/-! ## Attempt frames, revocation and erasure -/

theorem Sound.acceptAttempt {message now} (hv : message.Valid)
    (ha : machine.acceptAttempt direction message now = .ok () machine') : machine'.Sound := by
  rcases moves_of_acceptAttempt ha with rfl | ⟨hguard, attempt, hm, rfl⟩
  · exact h
  obtain ⟨-, -, hpend, hbinding⟩ := hm.kept
  have hentered : (entered attempt direction message).binding = attempt.binding := by cases direction <;> rfl
  refine h.setAttempt (sound_entered h.attempt hguard hv hm) ht hg (fun commitment hmem => ?_) (fun _ => ?_)
    fun hc h0 => absurd (hm.of_idle (by rw [h0])).1 hc
  · cases direction with
    | platformToWorker => exact hpend ▸ hmem
    | workerToPlatform =>
      simp only [entered, hpend, Option.mem_def, Option.filter_eq_some_iff] at hmem
      exact hmem.1
  · rw [hentered]
    by_cases hs : machine.attempt.state = .idle
    · obtain ⟨hc, hb⟩ := hm.of_idle hs
      obtain ⟨-, hmanifest⟩ := h.phase_of hc
      rw [hb]
      exact ⟨hmanifest, hguard.capability_eq⟩
    · rw [hbinding hs]
      exact h.active hs

theorem Sound.acceptRevoke {revoke} (hv : revoke.Valid)
    (hadmissible : machine.attempt.state ≠ .idle → machine.attempt.state ≠ .terminalCommitted → machine.attempt.cancelRevision ≤ 1)
    (ha : machine.acceptRevoke direction revoke = .ok () machine') : machine'.Sound := by
  obtain ⟨-, rfl⟩ := acceptRevoke_ok.1 ha
  obtain ⟨hbinding, hpend, hidle⟩ := fenceAttempt_kept machine.attempt
  refine { h with
    tidy := ht, agrees := hg
    attempt := sound_fenceAttempt h.attempt hadmissible
    active := fun hs => ?_
    revoke := fun _ => hv
    reconnect := fun hf => ?_
    phase := trivial }
  · simp only [hbinding]
    exact h.active fun h0 => hs (hidle.2 h0)
  · have hrs := h.reconnect hf
    refine { hrs with
      pending := fun commitment hmem => hrs.pending commitment (hpend ▸ hmem)
      claim := fun hc => ⟨(hrs.claim hc).1, ?_⟩ }
    have hrecord : ({ machine with
        revoke := revoke, attempt := fenceAttempt machine.attempt, connection := .revoking } : ConformanceMachine).reconnectRecord =
        machine.reconnectRecord := by
      simp only [reconnectRecord, pendingTerminalForSnapshot, hpend]
    rw [hrecord]
    exact (hrs.claim hc).2

theorem Sound.acceptRevoked {revoked} (ha : machine.acceptRevoked direction revoked = .ok () machine') :
    machine'.Sound := by
  obtain ⟨⟨-, hc, -⟩, rfl⟩ := acceptRevoked_ok.1 ha
  exact { h with
    tidy := ht, agrees := hg
    revoke := fun _ => h.revoke (.inl hc)
    reconnect := fun hf => { h.reconnect hf with }
    phase := trivial }

theorem Sound.eraseCommittedAttempt (ha : machine.eraseCommittedAttempt = .ok () machine') : machine'.Sound := by
  obtain ⟨-, rfl⟩ := eraseCommittedAttempt_ok.1 ha
  exact h.setAttempt AttemptRecord.sound_empty ht hg (fun _ hmem => absurd hmem (Option.not_mem_none _))
    (fun hs => absurd rfl hs) fun _ _ => rfl

theorem Sound.beginReconnect {next} (hclaim : ¬ machine.reconnectClaim.Valid)
    (ha : machine.beginReconnect next = .ok () machine') : machine'.Sound := by
  obtain ⟨hguard, rfl⟩ := beginReconnect_ok.1 ha
  have hmanifest : machine.manifest.Valid := by
    rcases hguard.connection with hc | hc
    · exact (h.phase_of hc).2
    · exact (h.phase_of hc).2.1
  have hsummary := currentAttemptSummary_of_tidy h.tidy.attempt
  exact { h with
    tidy := ht, agrees := hg
    config := ⟨hguard.auth, h.config.2.1, h.config.2.2.1, h.config.2.2.2.trans (congrArg some hguard.version_eq.symm)⟩
    acks := ⟨le_rfl, le_rfl⟩
    challenge := fun hv => absurd hv ChallengeV1.not_valid_default
    revoke := fun hr => absurd hr (by simp [Revoking, reconnected])
    reconnect := fun _ =>
      { target := hguard.connection
        generation := h.config.1.2.2.2.2.2.1
        watermarks := h.acks
        attempt := h.currentAttemptSummary_valid
        manifest := hmanifest
        capability := fun hs => by
          simp only [reconnected, hsummary] at hs ⊢
          exact (h.active hs).2
        pending := fun commitment hmem => by
          simp only [reconnected, hsummary]
          exact (h.attempt.pending commitment hmem).binding_eq
        drain := fun htarget => (h.phase_of htarget).2.2.1
        claim := fun hv => absurd hv hclaim }
    generation := fun hv => absurd hv hclaim
    phase := ⟨rfl, rfl, by simp [reconnected]⟩ }

end

/-! ## Every operation -/

theorem apply_kept {frame now} (ha : machine.apply direction frame now = .ok () machine') :
    machine'.platform = machine.platform ∧ machine'.worker = machine.worker ∧ machine'.config = machine.config := by
  cases applied_of_apply ha <;> exact ⟨rfl, rfl, rfl⟩

theorem config_setSender (state : SequenceState) : (machine.setSender direction state).config = machine.config := by
  cases direction with
  | platformToWorker | workerToPlatform => rfl

theorem accept_config {frame acceptance}
    (ha : machine.accept direction frame acceptance = .ok () machine') : machine'.config = machine.config := by
  rcases accept_ok.1 ha with ⟨-, -, -, -, -, rfl⟩ | ⟨-, applied, happ, rfl⟩
  · rfl
  · exact (config_setSender _).trans (apply_kept happ).2.2

/-- A first connection leaves the unattached state with the frame that it takes. -/
def Started (machine : ConformanceMachine) : Prop := machine.connection = .unattached → machine.reconnecting = true

theorem Sound.apply (h : machine.Sound) {frame now} (hv : frame.payload.Valid)
    (hadmissible : machine.AdmissiblePayload frame.payload)
    (ha : machine.apply direction frame now = .ok () machine') : machine'.Sound := by
  have ht := h.tidy.apply hv ha
  have hg := h.agrees.apply ha
  unfold ConformanceMachine.apply at ha
  cases hp : frame.payload <;> simp only [hp] at ha hv hadmissible
  case hello => exact h.acceptHello ht hg hv ha
  case challenge => exact h.acceptChallenge ht hg hv ha
  case attach => exact h.acceptAttach ht hg hv ha
  case attachAccepted => exact h.acceptAttachAccepted ht hg ha
  case reconnect => exact h.acceptReconnect ht hg ha
  case reconnectAccepted => exact h.acceptReconnectAccepted ht hg hv hadmissible ha
  case manifest => exact h.acceptManifest ht hg hv ha
  case heartbeat =>
    obtain ⟨-, -, rfl⟩ := acceptHeartbeat_ok.1 ha
    exact h
  case attempt => exact h.acceptAttempt ht hg hv ha
  case drain => exact h.acceptDrain ht hg hv ha
  case drained => exact h.acceptDrained ht hg hadmissible ha
  case revoke => exact h.acceptRevoke ht hg hv hadmissible ha
  case revoked => exact h.acceptRevoked ht hg ha
  case error =>
    simp only [EStateM.Result.ok.injEq, true_and] at ha
    exact ha ▸ h

theorem Sound.started (h : machine.Sound) {frame now} (hadmissible : machine.AdmissiblePayload frame.payload)
    (ha : machine.apply direction frame now = .ok () machine') : machine'.Started := by
  -- before its first frame a new connection has an empty attempt
  have hfresh : machine.connection = .unattached → ¬ machine.reconnecting = true → machine.attempt = {} := fun hc hr =>
    congrArg ConformanceMachine.attempt ((h.phase_of hc).2.2 (Bool.not_eq_true _ ▸ hr))
  intro hc
  cases applied_of_apply ha with
  | resumed hp hg hr => rcases (h.reconnect (.inl hr)).target with ht | ht <;> simp [ht] at hc
  | heartbeat hp hd hc' => simp [hc] at hc'
  | repeated hp hdup =>
    by_contra hr
    obtain ⟨hle, hne⟩ := And.intro hdup.sequence_le hdup.sequence_ne
    cases direction <;> simp only [attemptSender, hfresh hc hr] at hle <;> omega
  | moved hp hg hm =>
    by_contra hr
    exact absurd (hc.symm.trans (hm.of_idle (by rw [hfresh hc hr])).1) (by simp)
  | drainAgain hp hd hc' => exact absurd (hc'.symm.trans hc) (by simp)
  | error hp =>
    by_contra hr
    rw [hp] at hadmissible
    exact hadmissible ⟨hc, by simpa using hr⟩
  | _ => simp at hc

theorem Sound.setSender (h : machine.Sound) (hstarted : machine.Started) {state}
    (ht : (machine.setSender direction state).Tidy) (hg : (machine.setSender direction state).Agrees)
    (hseq : (machine.sender direction).sequence ≤ state.sequence) (hack : state.ack ≤ (machine.peer direction).sequence) :
    (machine.setSender direction state).Sound := by
  have hfresh : ∀ {p : Prop}, machine.connection = .unattached → machine.reconnecting = false → p :=
    fun hc hr => absurd (hstarted hc) (by simp [hr])
  have hacks := h.acks
  cases direction with
  | platformToWorker =>
    exact { h with
      tidy := ht, agrees := hg
      acks := ⟨hack, hacks.2.trans hseq⟩
      reconnect := fun hf => { h.reconnect hf with }
      phase := h.phase.of_same (fun hc hr => hfresh hc hr) fun _ h0 => h0 }
  | workerToPlatform =>
    exact { h with
      tidy := ht, agrees := hg
      acks := ⟨hacks.1.trans hseq, hack⟩
      reconnect := fun hf => { h.reconnect hf with }
      phase := h.phase.of_same (fun hc hr => hfresh hc hr) fun _ h0 => h0 }

theorem Sound.perform (h : machine.Sound) {operation} (hadmissible : machine.Admissible operation)
    (hs : machine.perform operation = .ok () machine') : machine'.Sound := by
  have ht := h.tidy.perform hs
  have hg := h.agrees.perform hs
  cases operation with
  | accept direction frame acceptance =>
    rcases accept_ok.1 hs with ⟨-, -, -, -, -, rfl⟩ | ⟨hf, applied, happ, rfl⟩
    · exact h
    · have hpayload := hadmissible.resolve_left (by have := hf.sequence_eq; omega)
      have hsound := h.apply hf.authorized.2.2.2.1.2 hpayload happ
      obtain ⟨hplatform, hworker, -⟩ := apply_kept happ
      refine hsound.setSender (h.started hpayload happ) ht hg ?_ ?_
      · have hseq := hf.sequence_eq
        cases direction <;> simp only [sender, hplatform, hworker, envelope] at hseq ⊢ <;> omega
      · have hack := hf.ack_le
        cases direction <;> simpa only [peer, hplatform, hworker, envelope] using hack
  | beginReconnect next => exact h.beginReconnect ht hg hadmissible hs
  | eraseCommittedAttempt => exact h.eraseCommittedAttempt ht hg hs

theorem sound_newConformanceMachine {config} (h : newConformanceMachine config = .ok machine) :
    machine.Sound := by
  have ht := tidy_newConformanceMachine h
  have hg := agrees_newConformanceMachine h
  simp only [newConformanceMachine, ite_ok_eq_ok] at h
  obtain ⟨hconfig, rfl⟩ := h
  exact {
    tidy := ht, agrees := hg, config := hconfig
    acks := ⟨le_rfl, le_rfl⟩
    attempt := AttemptRecord.sound_empty
    challenge := fun hv => absurd hv ChallengeV1.not_valid_default
    manifest := fun hv => absurd hv CapabilityManifestV1.not_valid_default
    capability := .inl rfl
    active := fun hs => absurd rfl hs
    revoke := fun hr => absurd hr (by simp [Revoking])
    reconnect := fun hf => absurd hf (by simp)
    generation := fun hv => absurd hv ReconnectSnapshotV1.not_valid_default
    phase := ⟨rfl, rfl, fun _ => rfl⟩ }

end ConformanceMachine

end Sessionless.Protocol
