import Sessionless.Protocol.Crypto

/-!
# Validation of wire values

One predicate `Valid` per `Validate` method: it holds when the method returns `nil`. The
methods of this package return a fixed code that no caller looks at, so the code is left
to the caller here as well.
-/

namespace Sessionless.Protocol

open Lib

def validBytes (value : Bytes) (size : Nat) : Prop := value.length = size
deriving Decidable

/-- The range check rejects blanks and every character outside printable ASCII, slashes excluded. -/
def validOpaque (value : String) : Prop :=
  value ≠ "" ∧ (utf8 value).length ≤ maxOpaqueBytes ∧
    ∀ b ∈ utf8 value, 0x21 ≤ b.toNat ∧ b.toNat ≤ 0x7e ∧ b.toNat ≠ 0x2f ∧ b.toNat ≠ 0x5c

-- decided byte by byte: a derived instance would go through all values of `UInt8`
instance (value : String) : Decidable (validOpaque value) :=
  have := List.decidableBAll (fun b : UInt8 => 0x21 ≤ b.toNat ∧ b.toNat ≤ 0x7e ∧ b.toNat ≠ 0x2f ∧ b.toNat ≠ 0x5c)
    (utf8 value)
  inferInstanceAs (Decidable (_ ∧ _ ∧ _))

/-! ## Versions -/

def VersionWindow.Valid (window : VersionWindow) : Prop :=
  window.minimum ≠ 0 ∧ window.minimum ≤ window.maximum ∧ window.maximum - window.minimum + 1 ≤ maxVersionWidth
deriving Decidable

def VersionOfferV1.Valid (offer : VersionOfferV1) : Prop :=
  offer.window.Valid ∧ offer.supported ≠ [] ∧ offer.supported.length ≤ maxVersionWidth ∧
    (∀ version ∈ offer.supported, offer.window.minimum ≤ version ∧ version ≤ offer.window.maximum) ∧
    (0 :: offer.supported).IsChain (· < ·)
deriving Decidable

/-- The highest version both offers list and the implementation names. -/
def negotiateOffers (localOffer peer : VersionOfferV1) (implemented : List ProtocolVersion) : Option ProtocolVersion :=
  if ¬ localOffer.Valid ∨ ¬ peer.Valid ∨ implemented = [] ∨ implemented.length > maxVersionWidth then none
  else if 0 ∈ implemented ∨ ¬ implemented.Nodup then none
  else
    let selected := localOffer.supported.foldl (fun selected version =>
      if version ∈ peer.supported ∧ version ∈ implemented ∧ version > selected then version else selected) 0
    if selected = 0 then none else some selected

/-- Every field is compared. -/
abbrev sameVersionOffer (left right : VersionOfferV1) : Prop := left = right

def AuthContextV1.Valid (auth : AuthContextV1) : Prop :=
  validOpaque auth.tenantId ∧ validOpaque auth.ownerUserId ∧ validOpaque auth.workerId ∧
    auth.identityPublicKey.length = 32 ∧ auth.enrollmentGeneration ≠ 0 ∧ auth.connectionGeneration ≠ 0 ∧
    auth.version = protocolVersionV1 ∧ auth.channelBinding.length = 32
deriving Decidable

def CapabilityManifestV1.Valid (manifest : CapabilityManifestV1) : Prop :=
  validOpaque manifest.workerId ∧ manifest.enrollmentGeneration ≠ 0 ∧ manifest.revision ≠ 0 ∧
    manifest.protocolOffer.Valid ∧ validOpaque manifest.operatingSystem ∧ validOpaque manifest.architecture ∧
    validOpaque manifest.buildId ∧ validOpaque manifest.harnessName ∧ validOpaque manifest.harnessVersion ∧
    manifest.harnessSurface = "session_turn_v1" ∧ validBytes manifest.harnessExecutableDigest 32 ∧
    manifest.maxConcurrentAttempts = 1 ∧ manifest.isolationEvidence ≠ [] ∧ manifest.isolationEvidence.length ≤ 8 ∧
    manifest.features ≠ [] ∧ manifest.features.length ≤ 8 ∧
    (manifest.isolationEvidence.map IsolationEvidenceV1.text).IsChain (· < ·) ∧
    (manifest.features.map ProtocolFeatureV1.text).IsChain (· < ·)
deriving Decidable

/-! ## Attempt messages -/

def AttemptBindingV1.Valid (binding : AttemptBindingV1) : Prop :=
  validOpaque binding.runId ∧ validOpaque binding.attemptId ∧ validOpaque binding.leaseId ∧
    binding.leaseGeneration ≠ 0 ∧ validOpaque binding.fenceToken ∧ 0 < binding.expiresAtUnixMicro ∧
    validBytes binding.contextDigest 32 ∧ validBytes binding.capabilityDigest 32 ∧ validBytes binding.policyDigest 32
deriving Decidable

/-- Every field is compared. -/
abbrev sameAttemptBinding (left right : AttemptBindingV1) : Prop := left = right

def attemptBindingIsZero (binding : AttemptBindingV1) : Prop := binding = {}
deriving Decidable

def validateAttempt (binding : AttemptBindingV1) (sequence : Nat) : Prop :=
  binding.Valid ∧ sequence ≠ 0 ∧ sequence ≤ maxAttemptMessages
deriving Decidable

def validTerminalResult : TerminalStatus → TerminalResult → Prop
  | .succeeded, result => result = .completed
  | .failed, result => result = .failed
  | .cancelled, result => result = .cancelled
  | .unset, _ => False

instance (status : TerminalStatus) (result : TerminalResult) : Decidable (validTerminalResult status result) :=
  match status with
  | .succeeded => inferInstanceAs (Decidable (result = .completed))
  | .failed => inferInstanceAs (Decidable (result = .failed))
  | .cancelled => inferInstanceAs (Decidable (result = .cancelled))
  | .unset => inferInstanceAs (Decidable False)

def ProgressV1.Valid (message : ProgressV1) : Prop :=
  validateAttempt message.binding message.attemptSequence ∧ message.progressSequence ≠ 0 ∧
    message.progressSequence ≤ maxProgressUpdates
deriving Decidable

def CancelV1.Valid (message : CancelV1) : Prop :=
  validateAttempt message.binding message.attemptSequence ∧ message.cancelRevision ≠ 0 ∧
    (message.code = .requested ∨ message.code = .fenced)
deriving Decidable

def CancelAckV1.Valid (message : CancelAckV1) : Prop :=
  validateAttempt message.binding message.attemptSequence ∧ message.cancelRevision ≠ 0
deriving Decidable

def TerminalV1.Valid (message : TerminalV1) : Prop :=
  validateAttempt message.binding message.attemptSequence ∧ message.terminalSequence ≠ 0 ∧
    validTerminalResult message.status message.result ∧ validBytes message.evidenceDigest 32
deriving Decidable

def TerminalAckV1.Valid (message : TerminalAckV1) : Prop :=
  validateAttempt message.binding message.attemptSequence ∧ message.terminalSequence ≠ 0 ∧
    validTerminalResult message.status message.result ∧ validBytes message.evidenceDigest 32
deriving Decidable

def AttemptMessage.Valid : AttemptMessage → Prop
  | leaseOffer message => validateAttempt message.binding message.attemptSequence
  | leaseClaim message => validateAttempt message.binding message.attemptSequence
  | leaseAccepted message => validateAttempt message.binding message.attemptSequence
  | progress message => message.Valid
  | cancel message => message.Valid
  | cancelAck message => message.Valid
  | terminal message => message.Valid
  | terminalAck message => message.Valid

instance (message : AttemptMessage) : Decidable message.Valid :=
  match message with
  | .leaseOffer message => inferInstanceAs (Decidable (validateAttempt message.binding message.attemptSequence))
  | .leaseClaim message => inferInstanceAs (Decidable (validateAttempt message.binding message.attemptSequence))
  | .leaseAccepted message => inferInstanceAs (Decidable (validateAttempt message.binding message.attemptSequence))
  | .progress message => inferInstanceAs (Decidable message.Valid)
  | .cancel message => inferInstanceAs (Decidable message.Valid)
  | .cancelAck message => inferInstanceAs (Decidable message.Valid)
  | .terminal message => inferInstanceAs (Decidable message.Valid)
  | .terminalAck message => inferInstanceAs (Decidable message.Valid)

/-! ## Handshake payloads -/

def NegotiationV1.Valid (negotiation : NegotiationV1) : Prop :=
  negotiation.workerOffer.Valid ∧ negotiation.platformOffer.Valid ∧ negotiation.selectedVersion ≠ 0 ∧
    negotiation.selectedVersion ∈ negotiation.workerOffer.supported ∧
    negotiation.selectedVersion ∈ negotiation.platformOffer.supported ∧
    validBytes negotiation.workerNonce 32 ∧ validBytes negotiation.platformNonce 32 ∧
    validBytes negotiation.capabilityDigest 32
deriving Decidable

def HelloV1.Valid (message : HelloV1) : Prop := message.offer.Valid ∧ validBytes message.workerNonce 32
deriving Decidable

def ChallengeV1.Valid (message : ChallengeV1) : Prop :=
  message.workerOffer.Valid ∧ message.platformOffer.Valid ∧ message.selectedVersion ≠ 0 ∧
    validBytes message.workerNonce 32 ∧ validBytes message.platformNonce 32
deriving Decidable

def ConnectionWatermarksV1.Valid (watermarks : ConnectionWatermarksV1) : Prop :=
  watermarks.platformAck ≤ watermarks.workerSequence ∧ watermarks.workerAck ≤ watermarks.platformSequence
deriving Decidable

def RevokeV1.Valid (message : RevokeV1) : Prop :=
  message.revision ≠ 0 ∧ message.nextEnrollmentGeneration ≠ 0 ∧ message.nextConnectionGeneration ≠ 0
deriving Decidable

def HeartbeatV1.Valid (message : HeartbeatV1) : Prop :=
  0 < message.observedAtUnixMicro ∧ message.activeAttempts ≤ 1 ∧
    (message.available = true → message.activeAttempts = 0)
deriving Decidable

def ErrorV1.Valid (message : ErrorV1) : Prop := message.retryable = decide (message.code = .retryLater)
deriving Decidable

def ReplayPlanV1.Valid (plan : ReplayPlanV1) : Prop :=
  plan.platformAttemptAfter ≤ maxAttemptMessages ∧ plan.workerAttemptAfter ≤ maxAttemptMessages
deriving Decidable

/-- What each state asks of the sequences and revisions of a summary. -/
def AttemptState.Admits : AttemptState → AttemptSummaryV1 → Prop
  | idle, _ => True
  | offered, summary => 1 ≤ summary.platformSequence
  | claimPending, summary => 1 ≤ summary.platformSequence ∧ 1 ≤ summary.workerSequence
  | claimed, summary => 2 ≤ summary.platformSequence ∧ 1 ≤ summary.workerSequence
  | cancelRequested, summary | cancelAcked, summary | fenced, summary => summary.cancelRevision = 1
  | terminalPending, summary | terminalCommitted, summary => summary.terminalSequence = 1

instance (state : AttemptState) (summary : AttemptSummaryV1) : Decidable (state.Admits summary) :=
  match state with
  | .idle => inferInstanceAs (Decidable True)
  | .offered => inferInstanceAs (Decidable (1 ≤ summary.platformSequence))
  | .claimPending => inferInstanceAs (Decidable (1 ≤ summary.platformSequence ∧ 1 ≤ summary.workerSequence))
  | .claimed => inferInstanceAs (Decidable (2 ≤ summary.platformSequence ∧ 1 ≤ summary.workerSequence))
  | .cancelRequested | .cancelAcked | .fenced => inferInstanceAs (Decidable (summary.cancelRevision = 1))
  | .terminalPending | .terminalCommitted => inferInstanceAs (Decidable (summary.terminalSequence = 1))

/-- `AttemptSummaryV1.Validate` up to its digest. -/
def AttemptSummaryV1.ContentValid (summary : AttemptSummaryV1) : Prop :=
  summary.platformSequence ≤ maxAttemptMessages ∧ summary.workerSequence ≤ maxAttemptMessages ∧
    summary.progressSequence ≤ maxProgressUpdates ∧
    (if summary.state = .idle then
      summary.platformSequence = 0 ∧ summary.workerSequence = 0 ∧ summary.progressSequence = 0 ∧
        summary.cancelRevision = 0 ∧ summary.cancelCode = .unset ∧ summary.terminalSequence = 0 ∧
        summary.terminalStatus = .unset ∧ summary.terminalResult = .unset ∧ summary.terminalEvidenceDigest = [] ∧
        attemptBindingIsZero summary.binding
    else summary.binding.Valid) ∧
    (if summary.cancelRevision = 0 then summary.cancelCode = .unset
    else summary.cancelCode = .requested ∨ summary.cancelCode = .fenced) ∧
    (if summary.terminalSequence = 0 then
      summary.terminalStatus = .unset ∧ summary.terminalResult = .unset ∧ summary.terminalEvidenceDigest = []
    else validTerminalResult summary.terminalStatus summary.terminalResult ∧
      validBytes summary.terminalEvidenceDigest 32) ∧
    ¬ (summary.cancelCode = .fenced ∧ summary.terminalSequence ≠ 0 ∧ summary.terminalStatus ≠ .cancelled) ∧
    summary.state.Admits summary
deriving Decidable

variable [Crypto]

def AttemptSummaryV1.Valid (summary : AttemptSummaryV1) : Prop :=
  summary.ContentValid ∧ validBytes summary.digest 32 ∧ summary.digest = attemptSummaryDigestV1 summary
deriving Decidable

def validatePendingTerminal (terminal : Option TerminalV1) (summary : AttemptSummaryV1) : Prop :=
  ∀ pending ∈ terminal, pending.Valid ∧ sameAttemptBinding pending.binding summary.binding
deriving Decidable

def ReconnectSnapshotV1.Valid (snapshot : ReconnectSnapshotV1) : Prop :=
  snapshot.previousConnectionGeneration ≠ 0 ∧ snapshot.watermarks.Valid ∧ snapshot.attempt.Valid ∧
    validatePendingTerminal snapshot.pendingTerminalReplay snapshot.attempt ∧ validBytes snapshot.digest 32 ∧
    snapshot.digest = reconnectSnapshotDigestV1 snapshot
deriving Decidable

def AttachV1.Valid (message : AttachV1) : Prop := message.toNegotiationV1.Valid ∧ validBytes message.signature 64
deriving Decidable

def ReconnectV1.Valid (message : ReconnectV1) : Prop :=
  message.previousConnectionGeneration ≠ 0 ∧ message.toNegotiationV1.Valid ∧ message.previousWatermarks.Valid ∧
    message.attemptSummary.Valid ∧ validatePendingTerminal message.pendingTerminalReplay message.attemptSummary ∧
    validBytes message.signature 64
deriving Decidable

def ReconnectAcceptedV1.Valid (message : ReconnectAcceptedV1) : Prop :=
  message.toNegotiationV1.Valid ∧ message.authoritativeWatermarks.Valid ∧ message.authoritativeAttempt.Valid ∧
    validatePendingTerminal message.authoritativePendingTerminalReplay message.authoritativeAttempt ∧
    message.replayPlan.Valid
deriving Decidable

def ManifestV1.Valid (message : ManifestV1) : Prop :=
  message.manifest.Valid ∧ validBytes message.digest 32 ∧ validBytes message.signature 64
deriving Decidable

/-! ## Frames -/

def Payload.Valid : Payload → Prop
  | hello message => message.Valid
  | challenge message => message.Valid
  | attach message => message.Valid
  | attachAccepted message => message.Valid
  | reconnect message => message.Valid
  | reconnectAccepted message => message.Valid
  | manifest message => message.Valid
  | heartbeat message => message.Valid
  | attempt message => message.Valid
  | drain message => message.revision ≠ 0
  | drained message => message.revision ≠ 0
  | revoke message => message.Valid
  | revoked message => message.Valid
  | error message => message.Valid

instance (payload : Payload) : Decidable payload.Valid :=
  match payload with
  | .hello message => inferInstanceAs (Decidable message.Valid)
  | .challenge message => inferInstanceAs (Decidable message.Valid)
  | .attach message => inferInstanceAs (Decidable message.Valid)
  | .attachAccepted message => inferInstanceAs (Decidable message.Valid)
  | .reconnect message => inferInstanceAs (Decidable message.Valid)
  | .reconnectAccepted message => inferInstanceAs (Decidable message.Valid)
  | .manifest message => inferInstanceAs (Decidable message.Valid)
  | .heartbeat message => inferInstanceAs (Decidable message.Valid)
  | .attempt message => inferInstanceAs (Decidable message.Valid)
  | .drain message => inferInstanceAs (Decidable (message.revision ≠ 0))
  | .drained message => inferInstanceAs (Decidable (message.revision ≠ 0))
  | .revoke message => inferInstanceAs (Decidable message.Valid)
  | .revoked message => inferInstanceAs (Decidable message.Valid)
  | .error message => inferInstanceAs (Decidable message.Valid)

def validateFrameCommon (frame : FrameV1) : Prop :=
  frame.version = protocolVersionV1 ∧ validOpaque frame.messageId ∧ validOpaque frame.workerId ∧
    frame.enrollmentGeneration ≠ 0 ∧ frame.connectionGeneration ≠ 0 ∧ frame.sequence ≠ 0
deriving Decidable

def FrameV1.Valid (frame : FrameV1) : Prop := validateFrameCommon frame ∧ frame.payload.Valid
deriving Decidable

end Sessionless.Protocol
