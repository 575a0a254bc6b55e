import Sessionless.Lib.JsonText
import Sessionless.Protocol.Words

/-!
# Canonical encodings are unambiguous

The encodings that digests and signatures are computed over are concatenations of delimited fields. For valid records
whose integers fit their machine words, each of them determines the record.
-/

namespace Sessionless.Protocol

open Lib

attribute [ext] VersionWindow VersionOfferV1 ConnectionWatermarksV1 AttemptBindingV1 AttemptSummaryV1 CapabilityManifestV1
  TerminalV1 NegotiationV1 HelloV1 ChallengeV1 RevokeV1 ReconnectV1 ReconnectSnapshotV1 MachineEnvelopeSnapshotV1
  MachineAttemptFingerprintV1 MachineAttemptDirectionSnapshotV1 MachinePendingTerminalSnapshotV1
  MachineAttemptSnapshotV1 MachineReconnectStateV1 MachineSnapshotV1

/-! ## Fields -/

theorem validOpaque.size {value} (h : validOpaque value) : (utf8 value).length < 0x100000000 := by
  have hle := h.2.1
  simp only [maxOpaqueBytes] at hle
  omega

theorem validBytes.size {value} (h : validBytes value 32) : value.length < 0x100000000 := by
  have hlength : value.length = 32 := h
  omega

theorem delimited_name {α : Type} {name : α → String} (hinj : ∀ {a b : α}, name a = name b → a = b)
    (hsize : ∀ a, (utf8 (name a)).length < 0x100000000) : Delimited (fun _ => True) (fun a => field (utf8 (name a))) :=
  delimited_text.comp (fun _ => hsize _) fun _ _ h => hinj h

theorem AttemptState.text_inj {a b : AttemptState} (h : a.text = b.text) : a = b := by
  cases a <;> cases b <;> first | rfl | simp [text] at h

theorem ConnectionState.text_inj {a b : ConnectionState} (h : a.text = b.text) : a = b := by
  cases a <;> cases b <;> first | rfl | simp [text] at h

theorem CancelCode.text_inj {a b : CancelCode} (h : a.text = b.text) : a = b := by
  cases a <;> cases b <;> first | rfl | simp [text] at h

theorem TerminalStatus.text_inj {a b : TerminalStatus} (h : a.text = b.text) : a = b := by
  cases a <;> cases b <;> first | rfl | simp [text] at h

theorem TerminalResult.text_inj {a b : TerminalResult} (h : a.text = b.text) : a = b := by
  cases a <;> cases b <;> first | rfl | simp [text] at h

theorem ReconnectTerminalDecision.text_inj {a b : ReconnectTerminalDecision} (h : a.text = b.text) : a = b := by
  cases a <;> cases b <;> first | rfl | simp [text] at h

theorem IsolationEvidenceV1.text_inj {a b : IsolationEvidenceV1} (h : a.text = b.text) : a = b := by
  cases a <;> cases b <;> first | rfl | simp [text] at h

theorem ProtocolFeatureV1.text_inj {a b : ProtocolFeatureV1} (h : a.text = b.text) : a = b := by
  cases a <;> cases b <;> first | rfl | simp [text] at h

theorem delimited_attemptState : Delimited (fun _ => True) (fun state : AttemptState => field (utf8 state.text)) :=
  delimited_name AttemptState.text_inj fun state => by cases state <;> decide

theorem delimited_connectionState :
    Delimited (fun _ => True) (fun state : ConnectionState => field (utf8 state.text)) :=
  delimited_name ConnectionState.text_inj fun state => by cases state <;> decide

theorem delimited_cancelCode : Delimited (fun _ => True) (fun code : CancelCode => field (utf8 code.text)) :=
  delimited_name CancelCode.text_inj fun code => by cases code <;> decide

theorem delimited_terminalStatus : Delimited (fun _ => True) (fun status : TerminalStatus => field (utf8 status.text)) :=
  delimited_name TerminalStatus.text_inj fun status => by cases status <;> decide

theorem delimited_terminalResult : Delimited (fun _ => True) (fun result : TerminalResult => field (utf8 result.text)) :=
  delimited_name TerminalResult.text_inj fun result => by cases result <;> decide

theorem delimited_decision :
    Delimited (fun _ => True) (fun decision : ReconnectTerminalDecision => field (utf8 decision.text)) :=
  delimited_name ReconnectTerminalDecision.text_inj fun decision => by cases decision <;> decide

theorem delimited_evidence :
    Delimited (fun _ => True) (fun evidence : IsolationEvidenceV1 => field (utf8 evidence.text)) :=
  delimited_name IsolationEvidenceV1.text_inj fun evidence => by cases evidence <;> decide

theorem delimited_feature : Delimited (fun _ => True) (fun feature : ProtocolFeatureV1 => field (utf8 feature.text)) :=
  delimited_name ProtocolFeatureV1.text_inj fun feature => by cases feature <;> decide

/-! ## Records -/

theorem delimited_offer : Delimited (fun offer => offer.Valid ∧ offer.Fits) VersionOfferV1.canonical := by
  refine ⟨fun {a b rest rest'} ha hb heq => ?_⟩
  have hsize : ∀ {offer : VersionOfferV1}, offer.Valid → offer.supported.length < 0x100000000 := fun h => by
    have hle := h.2.2.1
    simp only [maxVersionWidth] at hle
    omega
  simp only [VersionOfferV1.canonical, List.append_assoc] at heq
  obtain ⟨hminimum, heq⟩ := delimited_uint32.peel ha.2.1 hb.2.1 heq
  obtain ⟨hmaximum, heq⟩ := delimited_uint32.peel ha.2.2.1 hb.2.2.1 heq
  obtain ⟨hsupported, hrest⟩ := delimited_uint32.peel_counted ⟨hsize ha.1, ha.2.2.2⟩ ⟨hsize hb.1, hb.2.2.2⟩ heq
  exact ⟨VersionOfferV1.ext (VersionWindow.ext hminimum hmaximum) hsupported, hrest⟩

theorem delimited_watermarks : Delimited ConnectionWatermarksV1.Fits ConnectionWatermarksV1.canonical := by
  refine ⟨fun {a b rest rest'} ha hb heq => ?_⟩
  simp only [ConnectionWatermarksV1.canonical, List.append_assoc] at heq
  obtain ⟨h1, heq⟩ := delimited_uint64.peel ha.1 hb.1 heq
  obtain ⟨h2, heq⟩ := delimited_uint64.peel ha.2.1 hb.2.1 heq
  obtain ⟨h3, heq⟩ := delimited_uint64.peel ha.2.2.1 hb.2.2.1 heq
  obtain ⟨h4, hrest⟩ := delimited_uint64.peel ha.2.2.2 hb.2.2.2 heq
  exact ⟨ConnectionWatermarksV1.ext h1 h2 h3 h4, hrest⟩

/-! ## Attempt summaries -/

def attemptSummaryBytes (summary : AttemptSummaryV1) : Bytes :=
  field (utf8 attemptSummaryDomainV1) ++ field (utf8 summary.state.text) ++
    field (utf8 summary.binding.runId) ++ field (utf8 summary.binding.attemptId) ++
    field (utf8 summary.binding.leaseId) ++ uint64 summary.binding.leaseGeneration ++
    field (utf8 summary.binding.fenceToken) ++ int64 summary.binding.expiresAtUnixMicro ++
    field summary.binding.contextDigest ++ field summary.binding.capabilityDigest ++
    field summary.binding.policyDigest ++ uint64 summary.platformSequence ++ uint64 summary.workerSequence ++
    uint64 summary.progressSequence ++ uint64 summary.cancelRevision ++ field (utf8 summary.cancelCode.text) ++
    uint64 summary.terminalSequence ++ field (utf8 summary.terminalStatus.text) ++
    field (utf8 summary.terminalResult.text) ++ field summary.terminalEvidenceDigest

theorem attemptSummaryDigestV1_eq [Crypto] (summary : AttemptSummaryV1) :
    attemptSummaryDigestV1 summary = (Crypto.sha256 (attemptSummaryBytes summary)).val :=
  rfl

/-- The texts and digests of a binding have lengths that a length prefix can hold. -/
structure AttemptBindingV1.Sized (binding : AttemptBindingV1) : Prop where
  run : (utf8 binding.runId).length < 0x100000000
  attempt : (utf8 binding.attemptId).length < 0x100000000
  lease : (utf8 binding.leaseId).length < 0x100000000
  fence : (utf8 binding.fenceToken).length < 0x100000000
  context : binding.contextDigest.length < 0x100000000
  capability : binding.capabilityDigest.length < 0x100000000
  policy : binding.policyDigest.length < 0x100000000

theorem AttemptBindingV1.Valid.sized {binding : AttemptBindingV1} (h : binding.Valid) : binding.Sized := by
  obtain ⟨h1, h2, h3, -, h4, -, h5, h6, h7⟩ := h
  exact ⟨h1.size, h2.size, h3.size, h4.size, h5.size, h6.size, h7.size⟩

theorem AttemptSummaryV1.ContentValid.sized {summary : AttemptSummaryV1} (h : summary.ContentValid) :
    summary.binding.Sized := by
  have hbinding := h.2.2.2.1
  split at hbinding
  · rw [show summary.binding = {} from hbinding.2.2.2.2.2.2.2.2.2]
    constructor <;> decide
  · exact hbinding.sized

theorem AttemptSummaryV1.ContentValid.evidence_size {summary : AttemptSummaryV1} (h : summary.ContentValid) :
    summary.terminalEvidenceDigest.length < 0x100000000 := by
  have hterminal := h.2.2.2.2.2.1
  split at hterminal
  · rw [hterminal.2.2]
    decide
  · exact hterminal.2.size

theorem attemptSummaryBytes_inj {a b : AttemptSummaryV1} (ha : a.ContentValid) (hb : b.ContentValid) (hfa : a.Fits)
    (hfb : b.Fits) (heq : attemptSummaryBytes a = attemptSummaryBytes b) : a = { b with digest := a.digest } := by
  have hsa := ha.sized
  have hsb := hb.sized
  have hea := ha.evidence_size
  have heb := hb.evidence_size
  unfold attemptSummaryBytes at heq
  simp only [List.append_assoc] at heq
  replace heq := List.append_cancel_left heq
  obtain ⟨h1, heq⟩ := delimited_attemptState.peel trivial trivial heq
  obtain ⟨h2, heq⟩ := delimited_text.peel hsa.run hsb.run heq
  obtain ⟨h3, heq⟩ := delimited_text.peel hsa.attempt hsb.attempt heq
  obtain ⟨h4, heq⟩ := delimited_text.peel hsa.lease hsb.lease heq
  obtain ⟨h5, heq⟩ := delimited_uint64.peel hfa.1.1 hfb.1.1 heq
  obtain ⟨h6, heq⟩ := delimited_text.peel hsa.fence hsb.fence heq
  obtain ⟨h7, heq⟩ := delimited_int64.peel hfa.1.2 hfb.1.2 heq
  obtain ⟨h8, heq⟩ := delimited_field.peel hsa.context hsb.context heq
  obtain ⟨h9, heq⟩ := delimited_field.peel hsa.capability hsb.capability heq
  obtain ⟨h10, heq⟩ := delimited_field.peel hsa.policy hsb.policy heq
  obtain ⟨h11, heq⟩ := delimited_uint64.peel hfa.2.1 hfb.2.1 heq
  obtain ⟨h12, heq⟩ := delimited_uint64.peel hfa.2.2.1 hfb.2.2.1 heq
  obtain ⟨h13, heq⟩ := delimited_uint64.peel hfa.2.2.2.1 hfb.2.2.2.1 heq
  obtain ⟨h14, heq⟩ := delimited_uint64.peel hfa.2.2.2.2.1 hfb.2.2.2.2.1 heq
  obtain ⟨h15, heq⟩ := delimited_cancelCode.peel trivial trivial heq
  obtain ⟨h16, heq⟩ := delimited_uint64.peel hfa.2.2.2.2.2 hfb.2.2.2.2.2 heq
  obtain ⟨h17, heq⟩ := delimited_terminalStatus.peel trivial trivial heq
  obtain ⟨h18, heq⟩ := delimited_terminalResult.peel trivial trivial heq
  have h19 := delimited_field.inj hea heb heq
  exact AttemptSummaryV1.ext h1 (AttemptBindingV1.ext h2 h3 h4 h5 h6 h7 h8 h9 h10) h11 h12 h13 h14 h15 h16 h17 h18 h19 rfl

/-! ## Manifests -/

theorem manifest_canonical_inj {a b : CapabilityManifestV1} (ha : a.Valid) (hb : b.Valid) (hfa : a.Fits) (hfb : b.Fits)
    (heq : a.canonical = b.canonical) : a = b := by
  obtain ⟨a1, -, -, a4, a5, a6, a7, a8, a9, a10, a11, -, -, a14, -, a16, -, -⟩ := ha
  obtain ⟨b1, -, -, b4, b5, b6, b7, b8, b9, b10, b11, -, -, b14, -, b16, -, -⟩ := hb
  have hsurface : a.harnessSurface = b.harnessSurface := a10.trans b10.symm
  have hevidence : ∀ {items : List IsolationEvidenceV1}, items.length ≤ 8 → items.length < 0x100000000 := by omega
  have hfeatures : ∀ {items : List ProtocolFeatureV1}, items.length ≤ 8 → items.length < 0x100000000 := by omega
  unfold CapabilityManifestV1.canonical at heq
  simp only [List.append_assoc] at heq
  replace heq := List.append_cancel_left heq
  obtain ⟨h1, heq⟩ := delimited_text.peel a1.size b1.size heq
  obtain ⟨h2, heq⟩ := delimited_uint64.peel hfa.1 hfb.1 heq
  obtain ⟨h3, heq⟩ := delimited_uint64.peel hfa.2.1 hfb.2.1 heq
  obtain ⟨h4, heq⟩ := delimited_offer.peel ⟨a4, hfa.2.2.1⟩ ⟨b4, hfb.2.2.1⟩ heq
  obtain ⟨h5, heq⟩ := delimited_text.peel a5.size b5.size heq
  obtain ⟨h6, heq⟩ := delimited_text.peel a6.size b6.size heq
  obtain ⟨h7, heq⟩ := delimited_text.peel a7.size b7.size heq
  obtain ⟨h8, heq⟩ := delimited_text.peel a8.size b8.size heq
  obtain ⟨h9, heq⟩ := delimited_text.peel a9.size b9.size heq
  rw [hsurface] at heq
  replace heq := List.append_cancel_left heq
  obtain ⟨h11, heq⟩ := delimited_field.peel a11.size b11.size heq
  obtain ⟨h12, heq⟩ := delimited_uint32.peel hfa.2.2.2 hfb.2.2.2 heq
  obtain ⟨h13, heq⟩ := delimited_evidence.peel_counted ⟨hevidence a14, fun _ _ => trivial⟩
    ⟨hevidence b14, fun _ _ => trivial⟩ heq
  have h14 := delimited_feature.counted.inj ⟨hfeatures a16, fun _ _ => trivial⟩ ⟨hfeatures b16, fun _ _ => trivial⟩ heq
  exact CapabilityManifestV1.ext h1 h2 h3 h4 h5 h6 h7 h8 h9 hsurface h11 h13 h14 h12

theorem length_canonical_offer (offer : VersionOfferV1) : offer.canonical.length = 12 + offer.supported.length * 4 := by
  have hitems : ∀ versions : List ProtocolVersion, (versions.flatMap uint32).length = versions.length * 4 := by
    intro versions
    induction versions with
    | nil => rfl
    | cons version versions ih =>
      simp only [List.flatMap_cons, List.length_append, ih, uint32, length_bigEndian, List.length_cons]
      omega
  simp only [VersionOfferV1.canonical, List.length_append, hitems, uint32, length_bigEndian]

theorem length_field (value : Bytes) : (field value).length = 4 + value.length := by
  simp [field, uint32, length_bigEndian]

theorem CapabilityManifestV1.Valid.canonical_size {manifest : CapabilityManifestV1} (h : manifest.Valid) :
    manifest.canonical.length < 0x100000000 := by
  obtain ⟨h1, -, -, h4, h5, h6, h7, h8, h9, h10, h11, -, -, h14, -, h16, -, -⟩ := h
  have hdomain : (utf8 manifestDigestDomainV1).length < 100 := by decide
  have hsurface : (utf8 manifest.harnessSurface).length < 100 := by rw [h10]; decide
  have hevidence : (manifest.isolationEvidence.flatMap fun evidence => field (utf8 evidence.text)).length ≤
      manifest.isolationEvidence.length * 23 := by
    apply length_flatMap_le
    intro evidence _
    cases evidence <;> decide
  have hfeatures : (manifest.features.flatMap fun feature => field (utf8 feature.text)).length ≤
      manifest.features.length * 21 := by
    apply length_flatMap_le
    intro feature _
    cases feature <;> decide
  have hoffer := h4.2.2.1
  have hdigest : manifest.harnessExecutableDigest.length = 32 := h11
  have hw := h1.2.1
  have ho := h5.2.1
  have ha := h6.2.1
  have hb := h7.2.1
  have hn := h8.2.1
  have hv := h9.2.1
  simp only [maxVersionWidth] at hoffer
  simp only [maxOpaqueBytes] at hw ho ha hb hn hv
  unfold CapabilityManifestV1.canonical
  simp only [List.length_append, length_field, length_canonical_offer, uint32, uint64, length_bigEndian]
  omega

/-! ## Terminals -/

def terminalBytes (terminal : TerminalV1) : Bytes :=
  Json.marshal (.obj [("kind", .str MessageKind.terminal.text), ("payload", terminal.toJson)])

theorem attemptFingerprint_terminal [Crypto] (terminal : TerminalV1) :
    attemptFingerprint (.terminal terminal) = Crypto.sha256 (terminalBytes terminal) :=
  rfl

theorem binding_toJson_inj {a b : AttemptBindingV1} (h : a.toJson = b.toJson) : a = b := by
  simp only [AttemptBindingV1.toJson, Json.obj.injEq, List.cons.injEq, Prod.mk.injEq, true_and, and_true, Json.str_eq,
    Json.nat_eq, Json.bytes_eq, Json.num.injEq] at h
  obtain ⟨h1, h2, h3, h4, h5, h6, h7, h8, h9⟩ := h
  exact AttemptBindingV1.ext h1 h2 h3 h4 h5 h6 h7 h8 h9

theorem terminal_toJson_inj {a b : TerminalV1} (h : a.toJson = b.toJson) : a = b := by
  simp only [TerminalV1.toJson, Json.obj.injEq, List.cons.injEq, Prod.mk.injEq, true_and, and_true, Json.str_eq,
    Json.nat_eq, Json.bytes_eq] at h
  obtain ⟨h1, h2, h3, h4, h5, h6⟩ := h
  exact TerminalV1.ext (binding_toJson_inj h1) h2 h3 (TerminalStatus.text_inj h4) (TerminalResult.text_inj h5) h6

theorem terminalBytes_inj {a b} (h : terminalBytes a = terminalBytes b) : a = b := by
  have hjson := Json.marshal_inj h
  simp only [Json.obj.injEq, List.cons.injEq, Prod.mk.injEq, true_and, and_true] at hjson
  exact terminal_toJson_inj hjson

/-! ## Digests -/

section

variable [Crypto]

/-- SHA-256 has different digests for different strings of the two lists. -/
def TellsApart (xs ys : List Bytes) : Prop := ∀ x ∈ xs, ∀ y ∈ ys, Crypto.sha256 x = Crypto.sha256 y → x = y

theorem TellsApart.mono {xs xs' ys ys'} (h : TellsApart xs ys) (hx : ∀ x ∈ xs', x ∈ xs)
    (hy : ∀ y ∈ ys', y ∈ ys) : TellsApart xs' ys' := fun x hmem y hmem' => h x (hx x hmem) y (hy y hmem')

theorem pendingTerminal_size {terminal} :
    (pendingTerminalDigestV1 terminal).length < 0x100000000 := by
  cases terminal with
  | none => simp [pendingTerminalDigestV1]
  | some terminal => exact validBytes.size (attemptFingerprint (.terminal terminal)).2

theorem pendingTerminal_inj {a b} (hinj : TellsApart (a.map terminalBytes).toList (b.map terminalBytes).toList)
    (h : pendingTerminalDigestV1 a = pendingTerminalDigestV1 b) : a = b := by
  have hsize : ∀ terminal, pendingTerminalDigestV1 (some terminal) ≠ [] := fun terminal hnil => by
    have hlength := congrArg List.length hnil
    rw [pendingTerminalDigestV1, (attemptFingerprint (.terminal terminal)).2] at hlength
    simp at hlength
  cases a with
  | none =>
    cases b with
    | none => rfl
    | some terminal => exact absurd h.symm (hsize terminal)
  | some left =>
    cases b with
    | none => exact absurd h (hsize left)
    | some right =>
      have hsum : Crypto.sha256 (terminalBytes left) = Crypto.sha256 (terminalBytes right) := Subtype.ext h
      exact congrArg some (terminalBytes_inj (hinj _ List.mem_cons_self _ List.mem_cons_self hsum))

theorem summary_inj {a b} (ha : a.Valid) (hb : b.Valid) (hfa : a.Fits) (hfb : b.Fits)
    (hinj : Crypto.sha256 (attemptSummaryBytes a) = Crypto.sha256 (attemptSummaryBytes b) →
      attemptSummaryBytes a = attemptSummaryBytes b) (h : a.digest = b.digest) : a = b := by
  have hsum : Crypto.sha256 (attemptSummaryBytes a) = Crypto.sha256 (attemptSummaryBytes b) := by
    apply Subtype.ext
    rw [← attemptSummaryDigestV1_eq, ← attemptSummaryDigestV1_eq, ← ha.2.2, ← hb.2.2, h]
  have hcontent := attemptSummaryBytes_inj ha.1 hb.1 hfa hfb (hinj hsum)
  rw [h] at hcontent
  exact hcontent

end

end Sessionless.Protocol
