import Sessionless.Protocol.Lemmas.Canonical
import Sessionless.Protocol.Reference

/-!
# Signed transcripts are unambiguous

`AttachTranscriptV1`, `ReconnectTranscriptV1` and `ManifestTranscriptV1` are the byte strings a worker signs. Two of
them are equal only if they come from the same function, authority and frames up to the signature, as long as SHA-256
tells apart what is hashed on the way.
-/

namespace Sessionless.Protocol

open Lib

inductive SignedKind
  | attach
  | reconnect
  | manifest
deriving DecidableEq, Repr

namespace SignedKind

def domain : SignedKind → String
  | attach => "sessionless.attached-worker.attach.v1"
  | reconnect => "sessionless.attached-worker.reconnect.v1"
  | manifest => "sessionless.attached-worker.manifest.v1"

/-- `hasExactlySignedPayload`. -/
def Carries : SignedKind → Payload → Prop
  | attach, .attach _ => True
  | reconnect, .reconnect _ => True
  | manifest, .manifest _ => True
  | _, _ => False

theorem domain_inj {a b : SignedKind} (h : a.domain = b.domain) : a = b := by
  cases a <;> cases b <;> first | rfl | simp [domain] at h

theorem domain_size (kind : SignedKind) : (utf8 kind.domain).length < 0x100000000 := by
  cases kind <;> decide

end SignedKind

def Payload.unsigned : Payload → Payload
  | attach message => .attach { message with signature := [] }
  | reconnect message => .reconnect { message with signature := [] }
  | manifest message => .manifest { message with signature := [] }
  | payload => payload

def FrameV1.unsigned (frame : FrameV1) : FrameV1 := { frame with payload := frame.payload.unsigned }

/-- The integers of a signed payload fit their machine words. -/
def Payload.SignedFits : Payload → Prop
  | attach message => message.toNegotiationV1.Fits
  | reconnect message => message.Fits
  | manifest message => message.manifest.Fits
  | _ => True

def FrameV1.SignedFits (frame : FrameV1) : Prop :=
  fitsUint64 frame.sequence ∧ fitsUint64 frame.ack ∧ frame.payload.SignedFits

/-- The authority a transcript names: everything but the key that verifies it. -/
def AuthContextV1.named (auth : AuthContextV1) : AuthContextV1 := { auth with identityPublicKey := [] }

section

variable [Crypto]

/-- The transcript function of a kind: refused for a frame of another kind. -/
def SignedKind.transcript (kind : SignedKind) (auth : AuthContextV1) (frame : FrameV1) : Option Bytes :=
  match kind, frame.payload with
  | attach, .attach message => attachTranscriptV1 auth frame message
  | reconnect, .reconnect message => reconnectTranscriptV1 auth frame message
  | manifest, .manifest message => manifestTranscriptV1 auth frame message
  | _, _ => none

/-- The body of a transcript, of which the transcript holds the digest. -/
def signedBody : Payload → Bytes
  | .attach message => message.offersCanonical ++ message.noncesCanonical
  | .reconnect message => message.offersCanonical ++ uint64 message.previousConnectionGeneration ++
      message.noncesCanonical ++ message.previousWatermarks.canonical ++ field message.attemptSummary.digest ++
      field (pendingTerminalDigestV1 message.pendingTerminalReplay)
  | .manifest message => field message.digest
  | _ => []

/-- The byte strings that are hashed for the transcript of a payload. -/
def hashedFor : Payload → List Bytes
  | .attach message => [signedBody (.attach message)]
  | .reconnect message => signedBody (.reconnect message) :: attemptSummaryBytes message.attemptSummary ::
      (message.pendingTerminalReplay.map terminalBytes).toList
  | .manifest message => [signedBody (.manifest message), message.manifest.canonical]
  | _ => []

theorem signedBody_mem_hashedFor {kind : SignedKind} {payload} (h : kind.Carries payload) :
    signedBody payload ∈ hashedFor payload := by
  cases payload <;> cases kind <;> first | exact List.mem_cons_self | exact absurd h id

/-! ## What a transcript consists of -/

theorem transcript_some {kind : SignedKind} {auth} {frame : FrameV1} {bytes}
    (h : kind.transcript auth frame = some bytes) :
    kind.Carries frame.payload ∧ validateSignedFrame auth frame ∧
      bytes = signedTranscript kind.domain auth frame (signedBody frame.payload) ∧
      ∀ message, frame.payload = .manifest message → message.digest = (Crypto.sha256 message.manifest.canonical).val := by
  unfold SignedKind.transcript at h
  split at h
  · rename_i message hp
    simp only [attachTranscriptV1, Option.ite_none_right_eq_some, Option.some.injEq] at h
    obtain ⟨hg, rfl⟩ := h
    rw [hp]
    exact ⟨trivial, hg.1, rfl, fun _ hm => by cases hm⟩
  · rename_i message hp
    simp only [reconnectTranscriptV1, Option.ite_none_right_eq_some, Option.some.injEq] at h
    obtain ⟨hg, rfl⟩ := h
    rw [hp]
    exact ⟨trivial, hg.1, rfl, fun _ hm => by cases hm⟩
  · rename_i message hp
    simp only [manifestTranscriptV1, Option.ite_none_right_eq_some, Option.some.injEq] at h
    obtain ⟨⟨hg, hv, -, hd⟩, rfl⟩ := h
    simp only [manifestDigestV1, hv, if_true, Option.some.injEq] at hd
    rw [hp]
    refine ⟨trivial, hg, rfl, fun other hm => ?_⟩
    cases hm
    exact hd.symm
  · cases h

theorem signedTranscript_inj {kind kind' : SignedKind} {auth auth' : AuthContextV1} {frame frame' : FrameV1}
    {body body'} (hv : validateSignedFrame auth frame) (hv' : validateSignedFrame auth' frame')
    (hc : kind.Carries frame.payload) (hc' : kind'.Carries frame'.payload) (hf : auth.Fits) (hf' : auth'.Fits)
    (hs : frame.SignedFits) (hs' : frame'.SignedFits)
    (h : signedTranscript kind.domain auth frame body = signedTranscript kind'.domain auth' frame' body') :
    kind = kind' ∧ auth.named = auth'.named ∧ frame.messageId = frame'.messageId ∧ frame.sequence = frame'.sequence ∧
      frame.ack = frame'.ack ∧ Crypto.sha256 body = Crypto.sha256 body' := by
  obtain ⟨⟨t1, t2, t3, -, -, -, -, t8⟩, ⟨-, m1, -⟩, -⟩ := hv
  obtain ⟨⟨t1', t2', t3', -, -, -, -, t8'⟩, ⟨-, m1', -⟩, -⟩ := hv'
  have hchannel : auth.channelBinding.length < 0x100000000 := by omega
  have hchannel' : auth'.channelBinding.length < 0x100000000 := by omega
  unfold signedTranscript at h
  simp only [List.append_assoc] at h
  obtain ⟨hdomain, htail⟩ := delimited_text.peel kind.domain_size kind'.domain_size h
  obtain rfl := SignedKind.domain_inj hdomain
  have hkind : frame.kind = frame'.kind := by
    cases hp : frame.payload <;> cases hp' : frame'.payload <;> cases kind <;>
      simp only [hp, hp', SignedKind.Carries] at hc hc' <;> simp [FrameV1.kind, hp, hp', Payload.kind]
  rw [hkind] at htail
  replace htail := List.append_cancel_left (List.append_cancel_left htail)
  obtain ⟨h1, htail⟩ := delimited_uint32.peel hf.2.2 hf'.2.2 htail
  obtain ⟨h2, htail⟩ := delimited_text.peel t1.size t1'.size htail
  obtain ⟨h3, htail⟩ := delimited_text.peel t2.size t2'.size htail
  obtain ⟨h4, htail⟩ := delimited_text.peel t3.size t3'.size htail
  obtain ⟨h5, htail⟩ := delimited_uint64.peel hf.1 hf'.1 htail
  obtain ⟨h6, htail⟩ := delimited_uint64.peel hf.2.1 hf'.2.1 htail
  obtain ⟨h7, htail⟩ := delimited_field.peel hchannel hchannel' htail
  obtain ⟨h8, htail⟩ := delimited_text.peel m1.size m1'.size htail
  obtain ⟨h9, htail⟩ := delimited_uint64.peel hs.1 hs'.1 htail
  obtain ⟨h10, htail⟩ := delimited_uint64.peel hs.2.1 hs'.2.1 htail
  have hbody : (Crypto.sha256 body).val = (Crypto.sha256 body').val :=
    delimited_field.inj (validBytes.size (Crypto.sha256 body).2) (validBytes.size (Crypto.sha256 body').2) htail
  have hnamed : auth.named = auth'.named := by
    obtain ⟨_, _, _, _, _, _, _, _⟩ := auth
    obtain ⟨_, _, _, _, _, _, _, _⟩ := auth'
    simp only at h1 h2 h3 h4 h5 h6 h7
    subst h1 h2 h3 h4 h5 h6 h7
    rfl
  exact ⟨rfl, hnamed, h8, h9, h10, Subtype.ext hbody⟩

/-! ## What the bodies determine -/

theorem peel_offers {a b : NegotiationV1} {rest rest'} (ha : a.Valid) (hb : b.Valid) (hfa : a.Fits)
    (hfb : b.Fits) (h : a.offersCanonical ++ rest = b.offersCanonical ++ rest') :
    (a.workerOffer = b.workerOffer ∧ a.platformOffer = b.platformOffer ∧ a.selectedVersion = b.selectedVersion) ∧
      rest = rest' := by
  simp only [NegotiationV1.offersCanonical, List.append_assoc] at h
  obtain ⟨h1, h⟩ := delimited_offer.peel ⟨ha.1, hfa.1⟩ ⟨hb.1, hfb.1⟩ h
  obtain ⟨h2, h⟩ := delimited_offer.peel ⟨ha.2.1, hfa.2.1⟩ ⟨hb.2.1, hfb.2.1⟩ h
  obtain ⟨h3, h⟩ := delimited_uint32.peel hfa.2.2 hfb.2.2 h
  exact ⟨⟨h1, h2, h3⟩, h⟩

theorem peel_nonces {a b : NegotiationV1} {rest rest'} (ha : a.Valid) (hb : b.Valid)
    (h : a.noncesCanonical ++ rest = b.noncesCanonical ++ rest') :
    (a.workerNonce = b.workerNonce ∧ a.platformNonce = b.platformNonce ∧ a.capabilityDigest = b.capabilityDigest) ∧
      rest = rest' := by
  obtain ⟨-, -, -, -, -, a6, a7, a8⟩ := ha
  obtain ⟨-, -, -, -, -, b6, b7, b8⟩ := hb
  simp only [NegotiationV1.noncesCanonical, List.append_assoc] at h
  obtain ⟨h1, h⟩ := delimited_field.peel a6.size b6.size h
  obtain ⟨h2, h⟩ := delimited_field.peel a7.size b7.size h
  obtain ⟨h3, h⟩ := delimited_field.peel a8.size b8.size h
  exact ⟨⟨h1, h2, h3⟩, h⟩

theorem reconnect_inj {a b : ReconnectV1} (ha : a.Valid) (hb : b.Valid) (hfa : a.Fits) (hfb : b.Fits)
    (hinj : TellsApart (hashedFor (.reconnect a)) (hashedFor (.reconnect b)))
    (h : signedBody (.reconnect a) = signedBody (.reconnect b)) :
    ({ a with signature := [] } : ReconnectV1) = { b with signature := [] } := by
  obtain ⟨-, an, -, as, -, -⟩ := ha
  obtain ⟨-, bn, -, bs, -, -⟩ := hb
  simp only [signedBody, List.append_assoc] at h
  obtain ⟨hoffers, h⟩ := peel_offers an bn hfa.1 hfb.1 h
  obtain ⟨h1, h⟩ := delimited_uint64.peel hfa.2.1 hfb.2.1 h
  obtain ⟨hnonces, h⟩ := peel_nonces an bn h
  obtain ⟨h2, h⟩ := delimited_watermarks.peel hfa.2.2.1 hfb.2.2.1 h
  obtain ⟨h3, h⟩ := delimited_field.peel as.2.1.size bs.2.1.size h
  have h4 := delimited_field.inj pendingTerminal_size pendingTerminal_size h
  have hsummary := summary_inj as bs hfa.2.2.2.1 hfb.2.2.2.1 (hinj _ (by simp [hashedFor]) _ (by simp [hashedFor])) h3
  have hpending := pendingTerminal_inj (hinj.mono (fun _ hx => List.mem_cons_of_mem _ (List.mem_cons_of_mem _ hx))
    fun _ hy => List.mem_cons_of_mem _ (List.mem_cons_of_mem _ hy)) h4
  exact ReconnectV1.ext hoffers.1 hoffers.2.1 hoffers.2.2 hnonces.1 hnonces.2.1 hnonces.2.2 h1 h2 hsummary hpending rfl

theorem signedBody_inj {kind : SignedKind} {a b : Payload} (hca : kind.Carries a) (hcb : kind.Carries b) (ha : a.Valid)
    (hb : b.Valid) (hfa : a.SignedFits) (hfb : b.SignedFits) (hinj : TellsApart (hashedFor a) (hashedFor b))
    (hda : ∀ message, a = .manifest message → message.digest = (Crypto.sha256 message.manifest.canonical).val)
    (hdb : ∀ message, b = .manifest message → message.digest = (Crypto.sha256 message.manifest.canonical).val)
    (h : signedBody a = signedBody b) : a.unsigned = b.unsigned := by
  cases kind with
  | attach =>
    cases a <;> first | exact absurd hca id | skip
    cases b <;> first | exact absurd hcb id | skip
    rename_i left right
    simp only [signedBody] at h
    obtain ⟨hoffers, hnonces⟩ := peel_offers ha.1 hb.1 hfa hfb h
    obtain ⟨hnonces, -⟩ := peel_nonces ha.1 hb.1 (congrArg (· ++ []) hnonces)
    have hnegotiation : left.toNegotiationV1 = right.toNegotiationV1 :=
      NegotiationV1.ext hoffers.1 hoffers.2.1 hoffers.2.2 hnonces.1 hnonces.2.1 hnonces.2.2
    simp only [Payload.unsigned, hnegotiation]
  | reconnect =>
    cases a <;> first | exact absurd hca id | skip
    cases b <;> first | exact absurd hcb id | skip
    exact congrArg Payload.reconnect (reconnect_inj ha hb hfa hfb hinj h)
  | manifest =>
    cases a <;> first | exact absurd hca id | skip
    cases b <;> first | exact absurd hcb id | skip
    rename_i left right
    have hdigest := delimited_field.inj ha.2.1.size hb.2.1.size h
    have hsum : Crypto.sha256 left.manifest.canonical = Crypto.sha256 right.manifest.canonical := by
      apply Subtype.ext
      rw [← hda left rfl, ← hdb right rfl, hdigest]
    have hmanifest := manifest_canonical_inj ha.1 hb.1 hfa hfb
      (hinj _ (by simp [hashedFor]) _ (by simp [hashedFor]) hsum)
    simp only [Payload.unsigned, hmanifest, hdigest]

/-- Equal transcripts come from the same function, the same authority and the same frame up to its signature. -/
theorem transcript_unambiguous {kind kind' : SignedKind} {auth auth' : AuthContextV1} {frame frame' : FrameV1}
    {bytes : Bytes} (h : kind.transcript auth frame = some bytes) (h' : kind'.transcript auth' frame' = some bytes)
    (hv : frame.Valid) (hv' : frame'.Valid) (hf : auth.Fits) (hf' : auth'.Fits) (hs : frame.SignedFits)
    (hs' : frame'.SignedFits) (hinj : TellsApart (hashedFor frame.payload) (hashedFor frame'.payload)) :
    kind = kind' ∧ auth.named = auth'.named ∧ frame.unsigned = frame'.unsigned := by
  obtain ⟨hc, hg, hbytes, hd⟩ := transcript_some h
  obtain ⟨hc', hg', hbytes', hd'⟩ := transcript_some h'
  obtain ⟨rfl, hnamed, hid, hsequence, hack, hsum⟩ :=
    signedTranscript_inj hg hg' hc hc' hf hf' hs hs' (hbytes.symm.trans hbytes')
  have hbody := hinj _ (signedBody_mem_hashedFor hc) _ (signedBody_mem_hashedFor hc') hsum
  have hpayload := signedBody_inj hc hc' hv.2 hv'.2 hs.2.2 hs'.2.2 hinj hd hd' hbody
  refine ⟨rfl, hnamed, ?_⟩
  obtain ⟨-, -, hversion, hworker, henrollment, hconnection⟩ := hg
  obtain ⟨-, -, hversion', hworker', henrollment', hconnection'⟩ := hg'
  simp only [AuthContextV1.named, AuthContextV1.mk.injEq] at hnamed
  simp only [FrameV1.unsigned, FrameV1.mk.injEq]
  refine ⟨?_, hid, ?_, ?_, ?_, hsequence, hack, hpayload⟩
  · rw [hversion, hversion', hnamed.2.2.2.2.2.2.1]
  · rw [hworker, hworker', hnamed.2.2.1]
  · rw [henrollment, henrollment', hnamed.2.2.2.2.1]
  · rw [hconnection, hconnection', hnamed.2.2.2.2.2.1]

end

section

open Reference

def resignedManifest : ManifestV1 := { signedManifest with signature := List.replicate 64 9 }

theorem transcript_manifestFrame (message : ManifestV1) :
    SignedKind.manifest.transcript (auth 2) (manifestFrame message) =
      manifestTranscriptV1 (auth 2) (manifestFrame message) message :=
  rfl

theorem transcript_resigned (message : ManifestV1) (signature : Bytes) :
    SignedKind.manifest.transcript (auth 2) (manifestFrame { message with signature := signature }) =
      manifestTranscriptV1 (auth 2) (manifestFrame message) message :=
  rfl

theorem valid_resigned {message signature} (h : (manifestFrame message).Valid)
    (hs : signature.length = 64) : (manifestFrame { message with signature := signature }).Valid :=
  ⟨h.1, h.2.1, h.2.2.1, hs⟩

/-- The manifest of the reference worker has one transcript, whatever its signature. -/
theorem transcript_unambiguous_manifest : ∃ bytes,
    SignedKind.manifest.transcript (auth 2) (manifestFrame signedManifest) = some bytes ∧
      SignedKind.manifest.transcript (auth 2) (manifestFrame resignedManifest) = some bytes ∧
      (manifestFrame signedManifest).unsigned = (manifestFrame resignedManifest).unsigned := by
  obtain ⟨hvalid, bytes, hbytes, -⟩ := verify_signedManifest
  have hsigned := (transcript_manifestFrame signedManifest).trans hbytes
  have hresigned : SignedKind.manifest.transcript (auth 2) (manifestFrame resignedManifest) = some bytes :=
    (transcript_resigned signedManifest (List.replicate 64 9)).trans hbytes
  have hvalid' : (manifestFrame resignedManifest).Valid :=
    @valid_resigned signedManifest (List.replicate 64 9) hvalid List.length_replicate
  have hfits : (auth 2).Fits := by decide
  have hmanifest : manifest.Fits := by decide
  have happart : TellsApart (hashedFor (.manifest signedManifest)) (hashedFor (.manifest resignedManifest)) := by
    unfold TellsApart
    decide +kernel
  have hframe : ∀ message : ManifestV1, message.manifest = manifest → (manifestFrame message).SignedFits := by
    intro message heq
    refine ⟨by simp [manifestFrame, MachineConfig.frame, fitsUint64],
      by simp [manifestFrame, MachineConfig.frame, fitsUint64], ?_⟩
    show message.manifest.Fits
    rw [heq]
    exact hmanifest
  exact ⟨bytes, hsigned, hresigned, (transcript_unambiguous hsigned hresigned hvalid hvalid' hfits hfits
    (hframe _ rfl) (hframe _ rfl) happart).2.2⟩

end

end Sessionless.Protocol
