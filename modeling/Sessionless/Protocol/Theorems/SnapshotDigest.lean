import Sessionless.Protocol.Lemmas.Canonical
import Sessionless.Protocol.Lemmas.Persistable
import Sessionless.Protocol.Reference

/-!
# A snapshot digest covers the whole snapshot

`CanonicalMachineSnapshotBytesV1` encodes a snapshot for its digest, with nested records represented by their own
digests. Two snapshots with valid content and the same bytes are equal in every field but the digest, as long as
SHA-256 tells the nested records apart.
-/

namespace Sessionless.Protocol

open Lib

section

variable [Crypto]

def canonicalMachineSnapshotBytesV1 (snapshot : MachineSnapshotV1) : Except ErrorCode Bytes :=
  if ¬ snapshot.ContentValid then .error .malformedFrame else .ok (canonicalMachineSnapshotBytesUnchecked snapshot)

/-! ## The sections of the encoding -/

def HelloV1.canonical (hello : HelloV1) : Bytes := hello.offer.canonical ++ field hello.workerNonce

def ChallengeV1.canonical (challenge : ChallengeV1) : Bytes :=
  challenge.workerOffer.canonical ++ challenge.platformOffer.canonical ++ uint32 challenge.selectedVersion ++
    field challenge.workerNonce ++ field challenge.platformNonce

def CapabilityManifestV1.enclosed (manifest : CapabilityManifestV1) : Bytes :=
  field (if manifest.Valid then manifest.canonical else [])

def MachinePendingTerminalSnapshotV1.canonical (pending : MachinePendingTerminalSnapshotV1) : Bytes :=
  field (utf8 pending.kind.text) ++ uint64 pending.sequence ++ field pending.fingerprint ++
    field (utf8 pending.decision.text)

def RevokeV1.canonical (revoke : RevokeV1) : Bytes :=
  uint64 revoke.revision ++ uint64 revoke.nextEnrollmentGeneration ++ uint64 revoke.nextConnectionGeneration

def MachineReconnectStateV1.canonical (reconnect : MachineReconnectStateV1) : Bytes :=
  field (utf8 reconnect.target.text) ++ uint64 reconnect.previousConnectionGeneration ++
    reconnect.watermarks.canonical ++ field reconnect.attempt.digest ++
    optional (fun claim : ReconnectSnapshotV1 => field claim.digest) reconnect.claim

theorem canonicalMachineSnapshotBytesUnchecked_eq (snapshot : MachineSnapshotV1) :
    canonicalMachineSnapshotBytesUnchecked snapshot =
      field (utf8 machineSnapshotDomainV1) ++ (uint32 snapshot.version ++ (field snapshot.configurationDigest ++
        (field (utf8 snapshot.connection.text) ++ (snapshot.platform.canonical ++ (snapshot.worker.canonical ++
          (optional HelloV1.canonical snapshot.hello ++ (optional ChallengeV1.canonical snapshot.challenge ++
            (field snapshot.capabilityDigest ++ (optional CapabilityManifestV1.enclosed snapshot.manifest ++
              (field snapshot.attempt.summary.digest ++ (snapshot.attempt.platform.canonical ++
                (snapshot.attempt.worker.canonical ++
                  (optional MachinePendingTerminalSnapshotV1.canonical snapshot.attempt.pendingWorkerTerminal ++
                    (uint64 snapshot.drainRevision ++ (optional RevokeV1.canonical snapshot.revoke ++
                      optional MachineReconnectStateV1.canonical snapshot.reconnect))))))))))))))) := by
  -- not `simp`, which would also change the sections themselves
  unfold canonicalMachineSnapshotBytesUnchecked
  repeat rw [List.append_assoc]
  rfl

def reconnectSnapshotBytes (snapshot : ReconnectSnapshotV1) : Bytes :=
  field (utf8 reconnectSnapshotDomainV1) ++ uint64 snapshot.previousConnectionGeneration ++
    snapshot.watermarks.canonical ++ field snapshot.attempt.digest ++
    field (pendingTerminalDigestV1 snapshot.pendingTerminalReplay)

theorem reconnectSnapshotDigestV1_eq (snapshot : ReconnectSnapshotV1) :
    reconnectSnapshotDigestV1 snapshot = (Crypto.sha256 (reconnectSnapshotBytes snapshot)).val :=
  rfl

/-- The byte strings hashed for the records nested in a reconnect record. -/
def ReconnectSnapshotV1.hashed (snapshot : ReconnectSnapshotV1) : List Bytes :=
  reconnectSnapshotBytes snapshot :: attemptSummaryBytes snapshot.attempt ::
    (snapshot.pendingTerminalReplay.map terminalBytes).toList

def MachineReconnectStateV1.hashed (reconnect : MachineReconnectStateV1) : List Bytes :=
  attemptSummaryBytes reconnect.attempt :: reconnect.claim.toList.flatMap ReconnectSnapshotV1.hashed

/-- The byte strings hashed for the records nested in a snapshot. -/
def MachineSnapshotV1.hashed (snapshot : MachineSnapshotV1) : List Bytes :=
  attemptSummaryBytes snapshot.attempt.summary ::
    ((snapshot.attempt.pendingWorkerTerminal.map fun pending => terminalBytes pending.terminal).toList ++
      snapshot.reconnect.toList.flatMap MachineReconnectStateV1.hashed)

/-! ## Optional parts -/

theorem peel_optional {α : Type} {encode : α → Bytes} {x y rest rest'}
    (h : optional encode x ++ rest = optional encode y ++ rest') :
    (x = none ∧ y = none ∧ rest = rest') ∨ ∃ a b, x = some a ∧ y = some b ∧ encode a ++ rest = encode b ++ rest' := by
  cases x with
  | none =>
    cases y with
    | none => exact .inl ⟨rfl, rfl, List.append_cancel_left h⟩
    | some b =>
      simp only [optional, List.append_assoc] at h
      exact absurd (delimited_uint32.peel (by decide) (by decide) h).1 (by decide)
  | some a =>
    cases y with
    | none =>
      simp only [optional, List.append_assoc] at h
      exact absurd (delimited_uint32.peel (by decide) (by decide) h).1 (by decide)
    | some b =>
      simp only [optional, List.append_assoc] at h
      exact .inr ⟨a, b, rfl, rfl, (delimited_uint32.peel (by decide) (by decide) h).2⟩

theorem delimited_optional {α : Type} {P : α → Prop} {encode : α → Bytes} (h : Delimited P encode) :
    Delimited (fun value : Option α => ∀ a ∈ value, P a) (optional encode) := by
  refine ⟨fun {x y rest rest'} hx hy heq => ?_⟩
  rcases peel_optional heq with ⟨rfl, rfl, hrest⟩ | ⟨a, b, rfl, rfl, hvalue⟩
  · exact ⟨rfl, hrest⟩
  · obtain ⟨rfl, hrest⟩ := h.peel (hx a rfl) (hy b rfl) hvalue
    exact ⟨rfl, hrest⟩

/-! ## Parts of a snapshot -/

theorem delimited_envelope : Delimited (fun envelope => validateEnvelopeSnapshot envelope ∧ envelope.Fits)
    MachineEnvelopeSnapshotV1.canonical := by
  have hsize : ∀ {envelope : MachineEnvelopeSnapshotV1}, validateEnvelopeSnapshot envelope →
      envelope.fingerprint.length < 0x100000000 := by
    intro envelope h
    unfold validateEnvelopeSnapshot at h
    split at h
    · rw [h.2]
      simp
    · exact h.size
  refine ⟨fun {a b rest rest'} ha hb heq => ?_⟩
  simp only [MachineEnvelopeSnapshotV1.canonical, List.append_assoc] at heq
  obtain ⟨h1, heq⟩ := delimited_uint64.peel ha.2.1 hb.2.1 heq
  obtain ⟨h2, heq⟩ := delimited_uint64.peel ha.2.2 hb.2.2 heq
  obtain ⟨h3, hrest⟩ := delimited_field.peel (hsize ha.1) (hsize hb.1) heq
  exact ⟨MachineEnvelopeSnapshotV1.ext h1 h2 h3, hrest⟩

theorem delimited_ledgerItem :
    Delimited (fun item : MachineAttemptFingerprintV1 => fitsUint64 item.sequence ∧ validBytes item.fingerprint 32)
      (fun item => uint64 item.sequence ++ field item.fingerprint) := by
  refine ⟨fun {a b rest rest'} ha hb heq => ?_⟩
  simp only [List.append_assoc] at heq
  obtain ⟨h1, heq⟩ := delimited_uint64.peel ha.1 hb.1 heq
  obtain ⟨h2, hrest⟩ := delimited_field.peel ha.2.size hb.2.size heq
  exact ⟨MachineAttemptFingerprintV1.ext h1 h2, hrest⟩

theorem delimited_ledger : Delimited (fun ledger => validateAttemptDirectionSnapshot ledger ∧ ledger.Fits)
    MachineAttemptDirectionSnapshotV1.canonical := by
  refine ⟨fun {a b rest rest'} ha hb heq => ?_⟩
  have hitems : ∀ {ledger : MachineAttemptDirectionSnapshotV1}, validateAttemptDirectionSnapshot ledger ∧ ledger.Fits →
      ledger.fingerprints.length < 0x100000000 ∧
        ∀ item ∈ ledger.fingerprints, fitsUint64 item.sequence ∧ validBytes item.fingerprint 32 := by
    intro ledger h
    have hle := h.1.2.1
    simp only [maxAttemptMessages] at hle
    exact ⟨by omega, fun item hmem => ⟨h.2.2 item hmem, (h.1.2.2.1 item hmem).2.2⟩⟩
  simp only [MachineAttemptDirectionSnapshotV1.canonical, List.append_assoc] at heq
  obtain ⟨h1, heq⟩ := delimited_uint64.peel ha.2.1 hb.2.1 heq
  obtain ⟨h2, hrest⟩ := delimited_ledgerItem.peel_counted (hitems ha) (hitems hb) heq
  exact ⟨MachineAttemptDirectionSnapshotV1.ext h1 h2, hrest⟩

theorem delimited_hello : Delimited (fun hello => hello.Valid ∧ hello.offer.Fits) HelloV1.canonical := by
  refine ⟨fun {a b rest rest'} ha hb heq => ?_⟩
  simp only [HelloV1.canonical, List.append_assoc] at heq
  obtain ⟨h1, heq⟩ := delimited_offer.peel ⟨ha.1.1, ha.2⟩ ⟨hb.1.1, hb.2⟩ heq
  obtain ⟨h2, hrest⟩ := delimited_field.peel ha.1.2.size hb.1.2.size heq
  exact ⟨HelloV1.ext h1 h2, hrest⟩

theorem delimited_challenge : Delimited (fun challenge => challenge.Valid ∧ challenge.workerOffer.Fits ∧
    challenge.platformOffer.Fits ∧ fitsUint32 challenge.selectedVersion) ChallengeV1.canonical := by
  refine ⟨fun {a b rest rest'} ha hb heq => ?_⟩
  obtain ⟨⟨a1, a2, -, a4, a5⟩, f1, f2, f3⟩ := ha
  obtain ⟨⟨b1, b2, -, b4, b5⟩, g1, g2, g3⟩ := hb
  simp only [ChallengeV1.canonical, List.append_assoc] at heq
  obtain ⟨h1, heq⟩ := delimited_offer.peel ⟨a1, f1⟩ ⟨b1, g1⟩ heq
  obtain ⟨h2, heq⟩ := delimited_offer.peel ⟨a2, f2⟩ ⟨b2, g2⟩ heq
  obtain ⟨h3, heq⟩ := delimited_uint32.peel f3 g3 heq
  obtain ⟨h4, heq⟩ := delimited_field.peel a4.size b4.size heq
  obtain ⟨h5, hrest⟩ := delimited_field.peel a5.size b5.size heq
  exact ⟨ChallengeV1.ext h1 h2 h3 h4 h5, hrest⟩

theorem delimited_revoke : Delimited (fun revoke => fitsUint64 revoke.revision ∧
    fitsUint64 revoke.nextEnrollmentGeneration ∧ fitsUint64 revoke.nextConnectionGeneration) RevokeV1.canonical := by
  refine ⟨fun {a b rest rest'} ha hb heq => ?_⟩
  simp only [RevokeV1.canonical, List.append_assoc] at heq
  obtain ⟨h1, heq⟩ := delimited_uint64.peel ha.1 hb.1 heq
  obtain ⟨h2, heq⟩ := delimited_uint64.peel ha.2.1 hb.2.1 heq
  obtain ⟨h3, hrest⟩ := delimited_uint64.peel ha.2.2 hb.2.2 heq
  exact ⟨RevokeV1.ext h1 h2 h3, hrest⟩

theorem delimited_manifest : Delimited (fun manifest => manifest.Valid ∧ manifest.Fits) CapabilityManifestV1.enclosed := by
  refine ⟨fun {a b rest rest'} ha hb heq => ?_⟩
  rw [CapabilityManifestV1.enclosed, CapabilityManifestV1.enclosed, if_pos ha.1, if_pos hb.1] at heq
  obtain ⟨h1, hrest⟩ := delimited_field.peel ha.1.canonical_size hb.1.canonical_size heq
  exact ⟨manifest_canonical_inj ha.1 hb.1 ha.2 hb.2 h1, hrest⟩

/-! ## Parts that are represented by a digest -/

theorem reconnectSnapshot_inj {a b : ReconnectSnapshotV1} (ha : a.Valid) (hb : b.Valid) (hfa : a.Fits) (hfb : b.Fits)
    (hinj : TellsApart a.hashed b.hashed) (h : a.digest = b.digest) : a = b := by
  have hsum : Crypto.sha256 (reconnectSnapshotBytes a) = Crypto.sha256 (reconnectSnapshotBytes b) := by
    apply Subtype.ext
    rw [← reconnectSnapshotDigestV1_eq, ← reconnectSnapshotDigestV1_eq, ← ha.2.2.2.2.2, ← hb.2.2.2.2.2, h]
  have heq := hinj _ List.mem_cons_self _ List.mem_cons_self hsum
  unfold reconnectSnapshotBytes at heq
  simp only [List.append_assoc] at heq
  replace heq := List.append_cancel_left heq
  obtain ⟨h1, heq⟩ := delimited_uint64.peel hfa.1 hfb.1 heq
  obtain ⟨h2, heq⟩ := delimited_watermarks.peel hfa.2.1 hfb.2.1 heq
  obtain ⟨h3, heq⟩ := delimited_field.peel ha.2.2.1.2.1.size hb.2.2.1.2.1.size heq
  have h4 := delimited_field.inj pendingTerminal_size pendingTerminal_size heq
  have hsummary := summary_inj ha.2.2.1 hb.2.2.1 hfa.2.2.1 hfb.2.2.1
    (hinj _ (by simp [ReconnectSnapshotV1.hashed]) _ (by simp [ReconnectSnapshotV1.hashed])) h3
  have hpending := pendingTerminal_inj (hinj.mono (fun _ hx => List.mem_cons_of_mem _ (List.mem_cons_of_mem _ hx))
    fun _ hy => List.mem_cons_of_mem _ (List.mem_cons_of_mem _ hy)) h4
  exact ReconnectSnapshotV1.ext h1 h2 hsummary hpending h

theorem peel_pending {x y left right rest rest'} (hx : ∀ pending ∈ x, validatePendingTerminalSnapshot pending left)
    (hy : ∀ pending ∈ y, validatePendingTerminalSnapshot pending right)
    (hfx : ∀ pending ∈ x, fitsUint64 pending.sequence) (hfy : ∀ pending ∈ y, fitsUint64 pending.sequence)
    (hinj : TellsApart (x.map fun pending => terminalBytes pending.terminal).toList
      (y.map fun pending => terminalBytes pending.terminal).toList)
    (h : optional MachinePendingTerminalSnapshotV1.canonical x ++ rest =
      optional MachinePendingTerminalSnapshotV1.canonical y ++ rest') : x = y ∧ rest = rest' := by
  rcases peel_optional h with ⟨rfl, rfl, hrest⟩ | ⟨a, b, rfl, rfl, heq⟩
  · exact ⟨rfl, hrest⟩
  · obtain ⟨ak, -, -, -, -, -, as, af, -, -⟩ := hx a rfl
    obtain ⟨bk, -, -, -, -, -, bs, bf, -, -⟩ := hy b rfl
    simp only [MachinePendingTerminalSnapshotV1.canonical, ak, bk, List.append_assoc] at heq
    replace heq := List.append_cancel_left heq
    obtain ⟨h1, heq⟩ := delimited_uint64.peel (hfx a rfl) (hfy b rfl) heq
    obtain ⟨h2, heq⟩ := delimited_field.peel as.size bs.size heq
    obtain ⟨h3, hrest⟩ := delimited_decision.peel trivial trivial heq
    have hsum : Crypto.sha256 (terminalBytes a.terminal) = Crypto.sha256 (terminalBytes b.terminal) := by
      apply Subtype.ext
      rw [← attemptFingerprint_terminal, ← attemptFingerprint_terminal, af, bf, h2]
    have hterminal := terminalBytes_inj (hinj _ List.mem_cons_self _ List.mem_cons_self hsum)
    exact ⟨congrArg some (MachinePendingTerminalSnapshotV1.ext (ak.trans bk.symm) h1 h2 h3 hterminal), hrest⟩

theorem peel_claim {x y : Option ReconnectSnapshotV1} {rest rest'} (hx : ∀ claim ∈ x, claim.Valid ∧ claim.Fits)
    (hy : ∀ claim ∈ y, claim.Valid ∧ claim.Fits)
    (hinj : TellsApart (x.toList.flatMap ReconnectSnapshotV1.hashed) (y.toList.flatMap ReconnectSnapshotV1.hashed))
    (h : optional (fun claim : ReconnectSnapshotV1 => field claim.digest) x ++ rest =
      optional (fun claim : ReconnectSnapshotV1 => field claim.digest) y ++ rest') : x = y ∧ rest = rest' := by
  rcases peel_optional h with ⟨rfl, rfl, hrest⟩ | ⟨a, b, rfl, rfl, heq⟩
  · exact ⟨rfl, hrest⟩
  · obtain ⟨ha, hfa⟩ := hx a rfl
    obtain ⟨hb, hfb⟩ := hy b rfl
    obtain ⟨hdigest, hrest⟩ := delimited_field.peel ha.2.2.2.2.1.size hb.2.2.2.2.1.size heq
    have hapart : TellsApart a.hashed b.hashed :=
      hinj.mono (fun x hmem => by simpa using hmem) fun y hmem => by simpa using hmem
    exact ⟨congrArg some (reconnectSnapshot_inj ha hb hfa hfb hapart hdigest), hrest⟩

theorem reconnectState_inj {a b pa pb}
    (ha : validateMachineReconnectState a pa) (hb : validateMachineReconnectState b pb) (hfa : a.Fits) (hfb : b.Fits)
    (hinj : TellsApart a.hashed b.hashed) (h : a.canonical = b.canonical) : a = b := by
  obtain ⟨-, -, -, as, ac⟩ := ha
  obtain ⟨-, -, -, bs, bc⟩ := hb
  unfold MachineReconnectStateV1.canonical at h
  simp only [List.append_assoc] at h
  obtain ⟨h1, h⟩ := delimited_connectionState.peel trivial trivial h
  obtain ⟨h2, h⟩ := delimited_uint64.peel hfa.1 hfb.1 h
  obtain ⟨h3, h⟩ := delimited_watermarks.peel hfa.2.1 hfb.2.1 h
  obtain ⟨h4, h⟩ := delimited_field.peel as.2.1.size bs.2.1.size h
  have hsummary := summary_inj as bs hfa.2.2.1 hfb.2.2.1 (hinj _ List.mem_cons_self _ List.mem_cons_self) h4
  have hclaims := hinj.mono (fun _ hx => List.mem_cons_of_mem _ hx) fun _ hy => List.mem_cons_of_mem _ hy
  obtain ⟨h5, -⟩ := peel_claim (fun claim hmem => ⟨(ac claim hmem).1, hfa.2.2.2 claim hmem⟩)
    (fun claim hmem => ⟨(bc claim hmem).1, hfb.2.2.2 claim hmem⟩) hclaims (congrArg (· ++ []) h)
  exact MachineReconnectStateV1.ext h1 h2 h3 hsummary h5

/-- The last part of the encoding: a reconnect state, if there is one. -/
theorem reconnect_inj_of_optional {x y pa pb} (hx : ∀ reconnect ∈ x, validateMachineReconnectState reconnect pa)
    (hy : ∀ reconnect ∈ y, validateMachineReconnectState reconnect pb) (hfx : ∀ reconnect ∈ x, reconnect.Fits)
    (hfy : ∀ reconnect ∈ y, reconnect.Fits)
    (hinj : TellsApart (x.toList.flatMap MachineReconnectStateV1.hashed) (y.toList.flatMap MachineReconnectStateV1.hashed))
    (h : optional MachineReconnectStateV1.canonical x = optional MachineReconnectStateV1.canonical y) : x = y := by
  rcases peel_optional (congrArg (· ++ []) h) with ⟨rfl, rfl, -⟩ | ⟨a, b, rfl, rfl, heq⟩
  · rfl
  · rw [List.append_nil, List.append_nil] at heq
    have hapart : TellsApart a.hashed b.hashed :=
      hinj.mono (fun x hmem => by simpa using hmem) fun y hmem => by simpa using hmem
    exact congrArg some (reconnectState_inj (hx a rfl) (hy b rfl) (hfx a rfl) (hfy b rfl) hapart heq)

/-- The bytes under the digest of a snapshot with valid content determine the snapshot up to its digest. -/
theorem snapshot_bytes_determine {a b : MachineSnapshotV1} {bytes : Bytes}
    (ha : canonicalMachineSnapshotBytesV1 a = .ok bytes) (hb : canonicalMachineSnapshotBytesV1 b = .ok bytes)
    (hfa : a.Fits) (hfb : b.Fits) (hinj : TellsApart a.hashed b.hashed) : a = { b with digest := a.digest } := by
  simp only [canonicalMachineSnapshotBytesV1, ite_error_eq_ok, Decidable.not_not, Except.ok.injEq] at ha hb
  obtain ⟨⟨aheader, arecords, -⟩, habytes⟩ := ha
  obtain ⟨⟨bheader, brecords, -⟩, hbbytes⟩ := hb
  obtain ⟨-, a2, a3, a4, -, -, a7, a8, a9, -⟩ := aheader
  obtain ⟨-, b2, b3, b4, -, -, b7, b8, b9, -⟩ := bheader
  obtain ⟨ahello, achallenge, amanifest, -, -, -, acapability, -, apending, areconnect, -⟩ := arecords
  obtain ⟨bhello, bchallenge, bmanifest, -, -, -, bcapability, -, bpending, breconnect, -⟩ := brecords
  have hcapability : ∀ {value : Bytes}, (value.length ≠ 0 → validBytes value 32) → value.length < 0x100000000 := by
    intro value h
    by_cases h0 : value.length = 0
    · omega
    · exact (h h0).size
  have heq := habytes.trans hbbytes.symm
  rw [canonicalMachineSnapshotBytesUnchecked_eq, canonicalMachineSnapshotBytesUnchecked_eq] at heq
  replace heq := List.append_cancel_left heq
  obtain ⟨h1, heq⟩ := delimited_uint32.peel hfa.version hfb.version heq
  obtain ⟨h2, heq⟩ := delimited_field.peel a2.size b2.size heq
  obtain ⟨h3, heq⟩ := delimited_connectionState.peel trivial trivial heq
  obtain ⟨h4, heq⟩ := delimited_envelope.peel ⟨a3, hfa.platform⟩ ⟨b3, hfb.platform⟩ heq
  obtain ⟨h5, heq⟩ := delimited_envelope.peel ⟨a4, hfa.worker⟩ ⟨b4, hfb.worker⟩ heq
  obtain ⟨h6, heq⟩ := (delimited_optional delimited_hello).peel (fun hello hmem => ⟨ahello hello hmem, hfa.hello hello hmem⟩)
    (fun hello hmem => ⟨bhello hello hmem, hfb.hello hello hmem⟩) heq
  obtain ⟨h7, heq⟩ := (delimited_optional delimited_challenge).peel
    (fun challenge hmem => ⟨achallenge challenge hmem, hfa.challenge challenge hmem⟩)
    (fun challenge hmem => ⟨bchallenge challenge hmem, hfb.challenge challenge hmem⟩) heq
  obtain ⟨h8, heq⟩ := delimited_field.peel (hcapability acapability) (hcapability bcapability) heq
  obtain ⟨h9, heq⟩ := (delimited_optional delimited_manifest).peel
    (fun manifest hmem => ⟨amanifest manifest hmem, hfa.manifest manifest hmem⟩)
    (fun manifest hmem => ⟨bmanifest manifest hmem, hfb.manifest manifest hmem⟩) heq
  obtain ⟨h10, heq⟩ := delimited_field.peel a7.2.1.size b7.2.1.size heq
  obtain ⟨h11, heq⟩ := delimited_ledger.peel ⟨a8, hfa.platformLedger⟩ ⟨b8, hfb.platformLedger⟩ heq
  obtain ⟨h12, heq⟩ := delimited_ledger.peel ⟨a9, hfa.workerLedger⟩ ⟨b9, hfb.workerLedger⟩ heq
  obtain ⟨h13, heq⟩ := peel_pending apending bpending (fun pending hmem => (hfa.pending pending hmem).1)
    (fun pending hmem => (hfb.pending pending hmem).1) (hinj.mono (by simp_all [MachineSnapshotV1.hashed])
      (by simp_all [MachineSnapshotV1.hashed])) heq
  obtain ⟨h14, heq⟩ := delimited_uint64.peel hfa.drain hfb.drain heq
  obtain ⟨h15, heq⟩ := (delimited_optional delimited_revoke).peel hfa.revoke hfb.revoke heq
  have h16 := reconnect_inj_of_optional areconnect breconnect hfa.reconnect hfb.reconnect
    (hinj.mono (by simp_all [MachineSnapshotV1.hashed]) (by simp_all [MachineSnapshotV1.hashed])) heq
  have hsummary := summary_inj a7 b7 hfa.summary hfb.summary (hinj _ List.mem_cons_self _ List.mem_cons_self) h10
  exact MachineSnapshotV1.ext h1 h2 h3 h4 h5 h6 h7 h8 h9 (MachineAttemptSnapshotV1.ext hsummary h11 h12 h13) h14 h15 h16 rfl

end

section

open Reference

theorem snapshotContent_recorded (machine : ConformanceMachine) (digest : Bytes) :
    (∀ hello ∈ (machine.snapshotContent digest).hello, machine.hello = hello) ∧
      (∀ challenge ∈ (machine.snapshotContent digest).challenge, machine.challenge = challenge) ∧
      ∀ manifest ∈ (machine.snapshotContent digest).manifest, machine.manifest = manifest :=
  ⟨fun _ hmem => (mem_present.1 hmem).2, fun _ hmem => (mem_present.1 hmem).2, fun _ hmem => (mem_present.1 hmem).2⟩

theorem fits_ready : ((ready 1 {}).snapshotContent []).Fits := by
  have hmanifest : manifest.Fits := by decide
  exact {
    version := by decide
    platform := by decide
    worker := by decide
    hello := fun hello hmem => by rw [← (snapshotContent_recorded (ready 1 {}) []).1 hello hmem]; decide
    challenge := fun challenge hmem => by rw [← (snapshotContent_recorded (ready 1 {}) []).2.1 challenge hmem]; decide
    manifest := fun stored hmem => by rw [← (snapshotContent_recorded (ready 1 {}) []).2.2 stored hmem]; exact hmanifest
    summary := by decide
    platformLedger := by decide
    workerLedger := by decide
    pending := by simp [ConformanceMachine.snapshotContent, ready]
    drain := by decide
    revoke := by simp [ConformanceMachine.snapshotContent, ready, RevokeV1.not_valid_default]
    reconnect := by simp [ConformanceMachine.snapshotContent, ConformanceMachine.snapshotReconnect, ready] }

/-- The snapshot of the reference worker and the same snapshot under another digest have the same bytes. -/
theorem snapshot_bytes_determine_ready : ∃ a b bytes, canonicalMachineSnapshotBytesV1 a = .ok bytes ∧
    canonicalMachineSnapshotBytesV1 b = .ok bytes ∧ a.digest ≠ b.digest ∧ a = { b with digest := a.digest } := by
  obtain ⟨digest, hcontent⟩ := (sound_ready Nat.one_ne_zero).persistable.contentValid
  have hbytes : ∀ value : Bytes, canonicalMachineSnapshotBytesV1
      { (ready 1 {}).snapshotContent digest with digest := value } =
        .ok (canonicalMachineSnapshotBytesUnchecked ((ready 1 {}).snapshotContent digest)) :=
    fun value => if_neg (not_not_intro hcontent)
  have hfits := fits_ready
  have hrefits : ∀ value : Bytes, ({ (ready 1 {}).snapshotContent digest with digest := value }).Fits := fun value =>
    ⟨hfits.1, hfits.2, hfits.3, hfits.4, hfits.5, hfits.6, hfits.7, hfits.8, hfits.9, hfits.10, hfits.11, hfits.12,
      hfits.13⟩
  -- only the attempt summary is hashed, and both snapshots have the same one
  have hhashed : ∀ value : Bytes, ({ (ready 1 {}).snapshotContent digest with digest := value }).hashed =
      [attemptSummaryBytes (ready 1 {}).currentAttemptSummary] := fun value => by
    simp [MachineSnapshotV1.hashed, ConformanceMachine.snapshotContent, ConformanceMachine.snapshotReconnect, ready]
  have hapart : TellsApart ({ (ready 1 {}).snapshotContent digest with digest := [1] }).hashed
      ({ (ready 1 {}).snapshotContent digest with digest := [2] }).hashed := by
    rw [hhashed, hhashed]
    intro x hx y hy _
    rw [List.mem_singleton.1 hx, List.mem_singleton.1 hy]
  exact ⟨_, _, _, hbytes [1], hbytes [2], by simp, snapshot_bytes_determine (hbytes [1]) (hbytes [2]) (hrefits [1])
    (hrefits [2]) hapart⟩

end

end Sessionless.Protocol
