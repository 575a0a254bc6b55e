import Sessionless.Protocol.Wire

/-!
# Digests, fingerprints and signatures

SHA-256 and Ed25519 verification are parameters of the development: deterministic functions of which only the size of
a digest is used. Everything the source computes around them is defined here.
-/

namespace Sessionless.Protocol

open Lib

/-- `[sha256.Size]byte`. -/
abbrev Sum256 := { value : Bytes // value.length = 32 }

namespace Sum256

/-- The zero array: what a lookup of an absent key of a fingerprint map yields. -/
def zero : Sum256 := ⟨List.replicate 32 0, by simp⟩

/-- `copy(array[:], value)` into a zero array. -/
def ofBytes (value : Bytes) : Sum256 := ⟨(value ++ List.replicate 32 0).take 32, by simp⟩

@[simp] theorem ofBytes_val (sum : Sum256) : ofBytes sum.val = sum := by
  apply Subtype.ext
  simp [ofBytes, sum.property]

theorem val_ofBytes {value} (h : value.length = 32) : (ofBytes value).val = value := by
  simp [ofBytes, h]

@[simp] theorem ofBytes_nil : ofBytes [] = zero := by
  apply Subtype.ext
  simp [ofBytes, zero]

end Sum256

class Crypto where
  sha256 : Bytes → Sum256
  ed25519Verify : (publicKey message signature : Bytes) → Bool

variable [Crypto]

open Crypto

/-! ## Fingerprints -/

def frameFingerprint (frame : FrameV1) : Sum256 := sha256 (Json.marshal frame.toJson)

/-- The fingerprint of an attempt message leaves the connection envelope out. -/
def attemptFingerprint (message : AttemptMessage) : Sum256 :=
  sha256 (Json.marshal (.obj [("kind", .str message.kind.text), ("payload", message.toJson)]))

/-! ## Canonical encodings -/

def VersionOfferV1.canonical (offer : VersionOfferV1) : Bytes :=
  uint32 offer.window.minimum ++ uint32 offer.window.maximum ++ uint32 offer.supported.length ++
    offer.supported.flatMap uint32

def ConnectionWatermarksV1.canonical (watermarks : ConnectionWatermarksV1) : Bytes :=
  uint64 watermarks.platformSequence ++ uint64 watermarks.workerSequence ++ uint64 watermarks.platformAck ++
    uint64 watermarks.workerAck

def attemptSummaryDomainV1 : String := "sessionless.attached-worker.attempt-summary.v1"
def reconnectSnapshotDomainV1 : String := "sessionless.attached-worker.reconnect-snapshot.v1"
def manifestDigestDomainV1 : String := "sessionless.attached-worker.capability-manifest.v1"

def attemptSummaryDigestV1 (summary : AttemptSummaryV1) : Bytes :=
  (sha256 (field (utf8 attemptSummaryDomainV1) ++ field (utf8 summary.state.text) ++
    field (utf8 summary.binding.runId) ++ field (utf8 summary.binding.attemptId) ++
    field (utf8 summary.binding.leaseId) ++ uint64 summary.binding.leaseGeneration ++
    field (utf8 summary.binding.fenceToken) ++ int64 summary.binding.expiresAtUnixMicro ++
    field summary.binding.contextDigest ++ field summary.binding.capabilityDigest ++
    field summary.binding.policyDigest ++ uint64 summary.platformSequence ++ uint64 summary.workerSequence ++
    uint64 summary.progressSequence ++ uint64 summary.cancelRevision ++ field (utf8 summary.cancelCode.text) ++
    uint64 summary.terminalSequence ++ field (utf8 summary.terminalStatus.text) ++
    field (utf8 summary.terminalResult.text) ++ field summary.terminalEvidenceDigest)).val

def pendingTerminalDigestV1 : Option TerminalV1 → Bytes
  | none => []
  | some terminal => (attemptFingerprint (.terminal terminal)).val

def reconnectSnapshotDigestV1 (snapshot : ReconnectSnapshotV1) : Bytes :=
  (sha256 (field (utf8 reconnectSnapshotDomainV1) ++ uint64 snapshot.previousConnectionGeneration ++
    snapshot.watermarks.canonical ++ field snapshot.attempt.digest ++
    field (pendingTerminalDigestV1 snapshot.pendingTerminalReplay))).val

/-- The bytes of `CanonicalManifestBytesV1` once its validation has passed. -/
def CapabilityManifestV1.canonical (manifest : CapabilityManifestV1) : Bytes :=
  field (utf8 manifestDigestDomainV1) ++ field (utf8 manifest.workerId) ++ uint64 manifest.enrollmentGeneration ++
    uint64 manifest.revision ++ manifest.protocolOffer.canonical ++ field (utf8 manifest.operatingSystem) ++
    field (utf8 manifest.architecture) ++ field (utf8 manifest.buildId) ++ field (utf8 manifest.harnessName) ++
    field (utf8 manifest.harnessVersion) ++ field (utf8 manifest.harnessSurface) ++
    field manifest.harnessExecutableDigest ++ uint32 manifest.maxConcurrentAttempts ++
    uint32 manifest.isolationEvidence.length ++
    manifest.isolationEvidence.flatMap (fun evidence => field (utf8 evidence.text)) ++
    uint32 manifest.features.length ++ manifest.features.flatMap (fun feature => field (utf8 feature.text))

end Sessionless.Protocol
