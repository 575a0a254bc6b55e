import Sessionless.Protocol.Validate

/-!
# Reconnect reconciliation

`reconciliation.go`: sealed summaries, the compatibility of a worker's claim with the
platform's record, and the replay plan that a `ReconnectAccepted` carries. The signed
transcripts of `crypto.go` come last, because they cover these records.
-/

namespace Sessionless.Protocol

open Lib Crypto

variable [Crypto]

/-! ## Sealed records -/

def sealAttemptSummary (summary : AttemptSummaryV1) : AttemptSummaryV1 :=
  let summary := if summary.terminalSequence = 0 then { summary with terminalEvidenceDigest := [] } else summary
  let summary := if summary.state = .idle then
    { summary with binding := { summary.binding with contextDigest := [], capabilityDigest := [], policyDigest := [] } }
    else summary
  { summary with digest := attemptSummaryDigestV1 summary }

def sealReconnectSnapshot (snapshot : ReconnectSnapshotV1) : ReconnectSnapshotV1 :=
  { snapshot with digest := reconnectSnapshotDigestV1 snapshot }

/-- Every field is compared. -/
abbrev sameTerminal (left right : TerminalV1) : Prop := left = right

/-- The terminal a snapshot still owes its peer: the one carried over from an earlier
reconnect, else the one its summary reports at the current worker sequence. -/
def reconnectPendingTerminal (snapshot : ReconnectSnapshotV1) : Option TerminalV1 :=
  match snapshot.pendingTerminalReplay with
  | some terminal => some terminal
  | none =>
    if snapshot.attempt.terminalSequence = 0 then none
    else some {
      binding := snapshot.attempt.binding
      attemptSequence := snapshot.attempt.workerSequence
      terminalSequence := snapshot.attempt.terminalSequence
      status := snapshot.attempt.terminalStatus
      result := snapshot.attempt.terminalResult
      evidenceDigest := snapshot.attempt.terminalEvidenceDigest }

/-! ## Compatibility of a worker's claim -/

def cancellationOverridesTerminal (summary : AttemptSummaryV1) (terminalStatus : TerminalStatus) : Prop :=
  summary.cancelRevision > 0 ∧
    (summary.cancelCode = .fenced ∨ (summary.cancelCode = .requested ∧ terminalStatus ≠ .cancelled))
deriving Decidable

/-- The admissible pairs of a worker state and a platform state. -/
def reconnectStatesCompatible (worker platform : AttemptState) : Bool :=
  match platform with
  | .offered => worker = .offered || worker = .claimPending
  | .claimPending => worker = .offered || worker = .claimPending
  | .claimed => worker = .claimPending || worker = .claimed || worker = .terminalPending
  | .cancelRequested =>
    worker = .claimed || worker = .cancelRequested || worker = .cancelAcked || worker = .terminalPending
  | .cancelAcked => worker = .cancelRequested || worker = .cancelAcked || worker = .terminalPending
  | .fenced =>
    worker = .claimed || worker = .cancelRequested || worker = .cancelAcked || worker = .fenced ||
      worker = .terminalPending
  | .terminalPending =>
    worker = .claimed || worker = .cancelRequested || worker = .cancelAcked || worker = .terminalPending
  | .terminalCommitted => worker = .terminalPending || worker = .terminalCommitted
  | .idle => false

def activeAttemptsCompatible (worker platform : AttemptSummaryV1) : Prop :=
  sameAttemptBinding worker.binding platform.binding ∧ worker.cancelRevision ≤ platform.cancelRevision ∧
    reconnectStatesCompatible worker.state platform.state = true ∧
    ¬ (worker.cancelRevision > 0 ∧ platform.cancelRevision > 0 ∧ worker.cancelCode ≠ platform.cancelCode) ∧
    ¬ (worker.terminalSequence > 0 ∧ platform.terminalSequence > 0 ∧
      (worker.terminalStatus ≠ platform.terminalStatus ∨ worker.terminalResult ≠ platform.terminalResult ∨
        worker.terminalEvidenceDigest ≠ platform.terminalEvidenceDigest))
deriving Decidable

def reconnectClaimsCompatible (workerClaim authoritative : ReconnectSnapshotV1) : Prop :=
  (workerClaim.Valid ∧ authoritative.Valid ∧
    workerClaim.previousConnectionGeneration = authoritative.previousConnectionGeneration ∧
    workerClaim.watermarks.platformSequence ≤ authoritative.watermarks.platformSequence ∧
    workerClaim.watermarks.platformAck ≤ authoritative.watermarks.platformAck ∧
    workerClaim.attempt.platformSequence ≤ authoritative.attempt.platformSequence) ∧
  (∀ pending ∈ authoritative.pendingTerminalReplay, reconnectPendingTerminal workerClaim = some pending) ∧
  (if workerClaim.attempt.state = .idle ∨ authoritative.attempt.state = .idle then
    workerClaim.attempt.state = authoritative.attempt.state
  else activeAttemptsCompatible workerClaim.attempt authoritative.attempt)
deriving Decidable

/-! ## The replay plan -/

def buildReconnectV1 (snapshot : ReconnectSnapshotV1) (negotiation : NegotiationV1) : Except ErrorCode ReconnectV1 :=
  if ¬ snapshot.Valid ∨ ¬ negotiation.Valid then .error .malformedFrame
  else .ok {
    toNegotiationV1 := negotiation
    previousConnectionGeneration := snapshot.previousConnectionGeneration
    previousWatermarks := snapshot.watermarks
    attemptSummary := snapshot.attempt
    pendingTerminalReplay := snapshot.pendingTerminalReplay
    signature := [] }

def terminalDecision (authoritative workerClaim : ReconnectSnapshotV1) : ReconnectTerminalDecision :=
  if authoritative.attempt.state = .terminalCommitted then .committed
  else match reconnectPendingTerminal workerClaim with
    | none => .none
    | some terminal =>
      if workerClaim.pendingTerminalReplay ≠ none ∨
          workerClaim.attempt.terminalSequence > authoritative.attempt.terminalSequence then
        if cancellationOverridesTerminal authoritative.attempt terminal.status then .discard else .replay
      else .none

def pendingSequence (workerClaim : ReconnectSnapshotV1) : Nat :=
  match reconnectPendingTerminal workerClaim with
  | some terminal => terminal.attemptSequence
  | none => 0

def workerAttemptAfter (authoritative workerClaim : ReconnectSnapshotV1) : Nat :=
  if terminalDecision authoritative workerClaim = .discard ∧
      pendingSequence workerClaim > authoritative.attempt.workerSequence then pendingSequence workerClaim
  else authoritative.attempt.workerSequence

def buildReconnectAcceptedV1 (authoritative workerClaim : ReconnectSnapshotV1) (negotiation : NegotiationV1) :
    Except ErrorCode ReconnectAcceptedV1 :=
  if ¬ authoritative.Valid ∨ ¬ workerClaim.Valid ∨ ¬ negotiation.Valid ∨
      authoritative.previousConnectionGeneration ≠ workerClaim.previousConnectionGeneration ∨
      ¬ reconnectClaimsCompatible workerClaim authoritative then .error .conflict
  else if terminalDecision authoritative workerClaim = .replay ∧
      pendingSequence workerClaim ≤ authoritative.attempt.workerSequence then .error .conflict
  else .ok {
    toNegotiationV1 := negotiation
    authoritativeWatermarks := authoritative.watermarks
    authoritativeAttempt := authoritative.attempt
    authoritativePendingTerminalReplay := authoritative.pendingTerminalReplay
    replayPlan := {
      platformEnvelopeAfter := workerClaim.watermarks.platformSequence
      workerEnvelopeAfter := authoritative.watermarks.workerSequence
      platformAttemptAfter := workerClaim.attempt.platformSequence
      workerAttemptAfter := workerAttemptAfter authoritative workerClaim
      terminalDecision := terminalDecision authoritative workerClaim } }

/-- Every field is compared. -/
abbrev sameReconnectAccepted (left right : ReconnectAcceptedV1) : Prop := left = right

/-! ## Signed transcripts -/

def manifestDigestV1 (manifest : CapabilityManifestV1) : Option Bytes :=
  if manifest.Valid then some (sha256 manifest.canonical).val else none

def validateSignedFrame (auth : AuthContextV1) (frame : FrameV1) : Prop :=
  auth.Valid ∧ validateFrameCommon frame ∧ frame.version = auth.version ∧ frame.workerId = auth.workerId ∧
    frame.enrollmentGeneration = auth.enrollmentGeneration ∧ frame.connectionGeneration = auth.connectionGeneration
deriving Decidable

def signedTranscript (domain : String) (auth : AuthContextV1) (frame : FrameV1) (body : Bytes) : Bytes :=
  field (utf8 domain) ++ field (utf8 Direction.workerToPlatform.text) ++ field (utf8 frame.kind.text) ++
    uint32 auth.version ++ field (utf8 auth.tenantId) ++ field (utf8 auth.ownerUserId) ++
    field (utf8 auth.workerId) ++ uint64 auth.enrollmentGeneration ++ uint64 auth.connectionGeneration ++
    field auth.channelBinding ++ field (utf8 frame.messageId) ++ uint64 frame.sequence ++ uint64 frame.ack ++
    field (sha256 body).val

def NegotiationV1.offersCanonical (negotiation : NegotiationV1) : Bytes :=
  negotiation.workerOffer.canonical ++ negotiation.platformOffer.canonical ++ uint32 negotiation.selectedVersion

def NegotiationV1.noncesCanonical (negotiation : NegotiationV1) : Bytes :=
  field negotiation.workerNonce ++ field negotiation.platformNonce ++ field negotiation.capabilityDigest

def attachTranscriptV1 (auth : AuthContextV1) (frame : FrameV1) (attach : AttachV1) : Option Bytes :=
  if validateSignedFrame auth frame ∧ attach.toNegotiationV1.Valid ∧ attach.selectedVersion = auth.version then
    some (signedTranscript "sessionless.attached-worker.attach.v1" auth frame
      (attach.offersCanonical ++ attach.noncesCanonical))
  else none

def reconnectTranscriptV1 (auth : AuthContextV1) (frame : FrameV1) (reconnect : ReconnectV1) : Option Bytes :=
  if validateSignedFrame auth frame ∧ reconnect.previousConnectionGeneration ≠ 0 ∧ reconnect.toNegotiationV1.Valid ∧
      reconnect.selectedVersion = auth.version then
    some (signedTranscript "sessionless.attached-worker.reconnect.v1" auth frame
      (reconnect.offersCanonical ++ uint64 reconnect.previousConnectionGeneration ++ reconnect.noncesCanonical ++
        reconnect.previousWatermarks.canonical ++ field reconnect.attemptSummary.digest ++
        field (pendingTerminalDigestV1 reconnect.pendingTerminalReplay)))
  else none

def manifestTranscriptV1 (auth : AuthContextV1) (frame : FrameV1) (manifest : ManifestV1) : Option Bytes :=
  if validateSignedFrame auth frame ∧ manifest.manifest.Valid ∧ validBytes manifest.digest 32 ∧
      manifestDigestV1 manifest.manifest = some manifest.digest then
    some (signedTranscript "sessionless.attached-worker.manifest.v1" auth frame (field manifest.digest))
  else none

/-- `verifyFrame`: the frame is valid and its signature covers the transcript. -/
def verifyFrame (auth : AuthContextV1) (frame : FrameV1) (transcript : Option Bytes) (signature : Bytes) : Prop :=
  frame.Valid ∧ ∃ encoded ∈ transcript, ed25519Verify auth.identityPublicKey encoded signature = true
deriving Decidable

def verifyAttachV1 (auth : AuthContextV1) (frame : FrameV1) (attach : AttachV1) : Prop :=
  verifyFrame auth frame (attachTranscriptV1 auth frame attach) attach.signature
deriving Decidable

def verifyReconnectV1 (auth : AuthContextV1) (frame : FrameV1) (reconnect : ReconnectV1) : Prop :=
  verifyFrame auth frame (reconnectTranscriptV1 auth frame reconnect) reconnect.signature
deriving Decidable

def verifyManifestV1 (auth : AuthContextV1) (frame : FrameV1) (manifest : ManifestV1) : Prop :=
  verifyFrame auth frame (manifestTranscriptV1 auth frame manifest) manifest.signature
deriving Decidable

end Sessionless.Protocol
