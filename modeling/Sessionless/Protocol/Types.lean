import Sessionless.Lib.OrderedMap
import Sessionless.Lib.Encoding

/-!
# Wire types of the attached-worker protocol

The frames of `types.go`, `version.go`, `auth.go`, `manifest.go` and the reconnect payloads of `reconciliation.go`.
Wire strings of a closed set are inductive types; the empty string of an unset code is `unset`. The kind of a frame is
the constructor of its payload.
-/

namespace Sessionless.Protocol

open Lib (Bytes)

def maxUint64 : Nat := 0xffffffffffffffff

def maxAttemptMessages : Nat := 64
def maxProgressUpdates : Nat := 32
def maxOpaqueBytes : Nat := 128
def maxVersionWidth : Nat := 8

abbrev ProtocolVersion := Nat

def protocolVersionV1 : ProtocolVersion := 1

/-! ## Error codes -/

inductive ErrorCode
  | malformedFrame
  | frameTooLarge
  | unsupportedVersion
  | protocolViolation
  | unauthorized
  | conflict
  | retryLater
deriving DecidableEq, Repr

namespace ErrorCode

abbrev invalidFrame : ErrorCode := .malformedFrame
abbrev authentication : ErrorCode := .unauthorized
abbrev invalidTransition : ErrorCode := .protocolViolation
abbrev sequenceMismatch : ErrorCode := .protocolViolation
abbrev bindingMismatch : ErrorCode := .conflict

def text : ErrorCode → String
  | malformedFrame => "malformed_frame"
  | frameTooLarge => "frame_too_large"
  | unsupportedVersion => "unsupported_version"
  | protocolViolation => "protocol_violation"
  | unauthorized => "unauthorized"
  | conflict => "conflict"
  | retryLater => "retry_later"

end ErrorCode

/-! ## Closed sets of wire strings -/

inductive Direction
  | platformToWorker
  | workerToPlatform
deriving DecidableEq, Repr

def Direction.text : Direction → String
  | platformToWorker => "platform_to_worker"
  | workerToPlatform => "worker_to_platform"

inductive ConnectionState
  | unattached
  | hello
  | challenged
  | attachPending
  | reconnectPending
  | attached
  | ready
  | draining
  | drained
  | revoking
  | revoked
deriving DecidableEq, Repr, Inhabited

def ConnectionState.text : ConnectionState → String
  | unattached => "unattached"
  | hello => "hello"
  | challenged => "challenged"
  | attachPending => "attach_pending"
  | reconnectPending => "reconnect_pending"
  | attached => "attached"
  | ready => "ready"
  | draining => "draining"
  | drained => "drained"
  | revoking => "revoking"
  | revoked => "revoked"

inductive AttemptState
  | idle
  | offered
  | claimPending
  | claimed
  | cancelRequested
  | cancelAcked
  | fenced
  | terminalPending
  | terminalCommitted
deriving DecidableEq, Repr, Inhabited

def AttemptState.text : AttemptState → String
  | idle => "idle"
  | offered => "offered"
  | claimPending => "claim_pending"
  | claimed => "claimed"
  | cancelRequested => "cancel_requested"
  | cancelAcked => "cancel_acked"
  | fenced => "fenced"
  | terminalPending => "terminal_pending"
  | terminalCommitted => "terminal_committed"

inductive ProgressStage
  | started
  | active
deriving DecidableEq, Repr

def ProgressStage.text : ProgressStage → String
  | started => "started"
  | active => "active"

inductive CancelCode
  | unset
  | requested
  | fenced
deriving DecidableEq, Repr, Inhabited

def CancelCode.text : CancelCode → String
  | unset => ""
  | requested => "requested"
  | fenced => "fenced"

inductive TerminalStatus
  | unset
  | succeeded
  | failed
  | cancelled
deriving DecidableEq, Repr, Inhabited

def TerminalStatus.text : TerminalStatus → String
  | unset => ""
  | succeeded => "succeeded"
  | failed => "failed"
  | cancelled => "cancelled"

inductive TerminalResult
  | unset
  | completed
  | failed
  | cancelled
deriving DecidableEq, Repr, Inhabited

def TerminalResult.text : TerminalResult → String
  | unset => ""
  | completed => "completed"
  | failed => "failed"
  | cancelled => "cancelled"

inductive ReconnectTerminalDecision
  | none
  | replay
  | discard
  | committed
deriving DecidableEq, Repr, Inhabited

def ReconnectTerminalDecision.text : ReconnectTerminalDecision → String
  | none => "none"
  | replay => "replay"
  | discard => "discard"
  | committed => "committed"

inductive IsolationEvidenceV1
  | filesystemBoundary
  | networkBoundary
  | processBoundary
deriving DecidableEq, Repr

def IsolationEvidenceV1.text : IsolationEvidenceV1 → String
  | filesystemBoundary => "filesystem_boundary"
  | networkBoundary => "network_boundary"
  | processBoundary => "process_boundary"

inductive ProtocolFeatureV1
  | cancellation
  | outputReceipt
  | inlineOutputV2
  | progress
  | reconnect
deriving DecidableEq, Repr

def ProtocolFeatureV1.text : ProtocolFeatureV1 → String
  | cancellation => "cancellation_v1"
  | outputReceipt => "output_receipt_v1"
  | inlineOutputV2 => "output_inline_v2"
  | progress => "progress_v1"
  | reconnect => "reconnect_v1"

inductive MessageKind
  | hello | challenge | attach | attachAccepted | reconnect | reconnectAccepted | manifest | heartbeat
  | leaseOffer | leaseClaim | leaseAccepted | progress | cancel | cancelAck | terminal | terminalAck
  | drain | drained | revoke | revoked | error
deriving DecidableEq, Repr

def MessageKind.text : MessageKind → String
  | hello => "hello"
  | challenge => "challenge"
  | attach => "attach"
  | attachAccepted => "attach_accepted"
  | reconnect => "reconnect"
  | reconnectAccepted => "reconnect_accepted"
  | manifest => "manifest"
  | heartbeat => "heartbeat"
  | leaseOffer => "lease_offer"
  | leaseClaim => "lease_claim"
  | leaseAccepted => "lease_accepted"
  | progress => "progress"
  | cancel => "cancel"
  | cancelAck => "cancel_ack"
  | terminal => "terminal"
  | terminalAck => "terminal_ack"
  | drain => "drain"
  | drained => "drained"
  | revoke => "revoke"
  | revoked => "revoked"
  | error => "error"

/-! ## Authority and negotiation -/

structure VersionWindow where
  minimum : ProtocolVersion := 0
  maximum : ProtocolVersion := 0
deriving DecidableEq, Repr, Inhabited

structure VersionOfferV1 where
  window : VersionWindow := {}
  supported : List ProtocolVersion := []
deriving DecidableEq, Repr, Inhabited

/-- Supplied by the verifier from authoritative state; never decoded from a frame. -/
structure AuthContextV1 where
  tenantId : String
  ownerUserId : String
  workerId : String
  identityPublicKey : Bytes
  enrollmentGeneration : Nat
  connectionGeneration : Nat
  version : ProtocolVersion
  channelBinding : Bytes
deriving DecidableEq, Repr

structure CapabilityManifestV1 where
  workerId : String := ""
  enrollmentGeneration : Nat := 0
  revision : Nat := 0
  protocolOffer : VersionOfferV1 := {}
  operatingSystem : String := ""
  architecture : String := ""
  buildId : String := ""
  harnessName : String := ""
  harnessVersion : String := ""
  harnessSurface : String := ""
  harnessExecutableDigest : Bytes := []
  isolationEvidence : List IsolationEvidenceV1 := []
  features : List ProtocolFeatureV1 := []
  maxConcurrentAttempts : Nat := 0
deriving DecidableEq, Repr, Inhabited

/-! ## Attempt messages -/

structure AttemptBindingV1 where
  runId : String := ""
  attemptId : String := ""
  leaseId : String := ""
  leaseGeneration : Nat := 0
  fenceToken : String := ""
  expiresAtUnixMicro : Int := 0
  contextDigest : Bytes := []
  capabilityDigest : Bytes := []
  policyDigest : Bytes := []
deriving DecidableEq, Repr, Inhabited

structure LeaseOfferV1 where
  binding : AttemptBindingV1
  attemptSequence : Nat
deriving DecidableEq, Repr

structure LeaseClaimV1 where
  binding : AttemptBindingV1
  attemptSequence : Nat
deriving DecidableEq, Repr

structure LeaseAcceptedV1 where
  binding : AttemptBindingV1
  attemptSequence : Nat
deriving DecidableEq, Repr

structure ProgressV1 where
  binding : AttemptBindingV1
  attemptSequence : Nat
  progressSequence : Nat
  stage : ProgressStage
deriving DecidableEq, Repr

structure CancelV1 where
  binding : AttemptBindingV1
  attemptSequence : Nat
  cancelRevision : Nat
  code : CancelCode
deriving DecidableEq, Repr

structure CancelAckV1 where
  binding : AttemptBindingV1
  attemptSequence : Nat
  cancelRevision : Nat
deriving DecidableEq, Repr

structure TerminalV1 where
  binding : AttemptBindingV1
  attemptSequence : Nat
  terminalSequence : Nat
  status : TerminalStatus
  result : TerminalResult
  evidenceDigest : Bytes
deriving DecidableEq, Repr

structure TerminalAckV1 where
  binding : AttemptBindingV1
  attemptSequence : Nat
  terminalSequence : Nat
  status : TerminalStatus
  result : TerminalResult
  evidenceDigest : Bytes
deriving DecidableEq, Repr

/-- The eight payloads for which `isAttemptMessage` holds. -/
inductive AttemptMessage
  | leaseOffer (message : LeaseOfferV1)
  | leaseClaim (message : LeaseClaimV1)
  | leaseAccepted (message : LeaseAcceptedV1)
  | progress (message : ProgressV1)
  | cancel (message : CancelV1)
  | cancelAck (message : CancelAckV1)
  | terminal (message : TerminalV1)
  | terminalAck (message : TerminalAckV1)
deriving DecidableEq, Repr

namespace AttemptMessage

def kind : AttemptMessage → MessageKind
  | leaseOffer _ => .leaseOffer
  | leaseClaim _ => .leaseClaim
  | leaseAccepted _ => .leaseAccepted
  | progress _ => .progress
  | cancel _ => .cancel
  | cancelAck _ => .cancelAck
  | terminal _ => .terminal
  | terminalAck _ => .terminalAck

/-- First component of `attemptPayload`. -/
def binding : AttemptMessage → AttemptBindingV1
  | leaseOffer message => message.binding
  | leaseClaim message => message.binding
  | leaseAccepted message => message.binding
  | progress message => message.binding
  | cancel message => message.binding
  | cancelAck message => message.binding
  | terminal message => message.binding
  | terminalAck message => message.binding

/-- Second component of `attemptPayload`. -/
def sequence : AttemptMessage → Nat
  | leaseOffer message => message.attemptSequence
  | leaseClaim message => message.attemptSequence
  | leaseAccepted message => message.attemptSequence
  | progress message => message.attemptSequence
  | cancel message => message.attemptSequence
  | cancelAck message => message.attemptSequence
  | terminal message => message.attemptSequence
  | terminalAck message => message.attemptSequence

end AttemptMessage

/-! ## Reconnect records -/

structure ConnectionWatermarksV1 where
  platformSequence : Nat := 0
  workerSequence : Nat := 0
  platformAck : Nat := 0
  workerAck : Nat := 0
deriving DecidableEq, Repr, Inhabited

structure AttemptSummaryV1 where
  state : AttemptState := .idle
  binding : AttemptBindingV1 := {}
  platformSequence : Nat := 0
  workerSequence : Nat := 0
  progressSequence : Nat := 0
  cancelRevision : Nat := 0
  cancelCode : CancelCode := .unset
  terminalSequence : Nat := 0
  terminalStatus : TerminalStatus := .unset
  terminalResult : TerminalResult := .unset
  terminalEvidenceDigest : Bytes := []
  digest : Bytes := []
deriving DecidableEq, Repr, Inhabited

structure ReconnectSnapshotV1 where
  previousConnectionGeneration : Nat := 0
  watermarks : ConnectionWatermarksV1 := {}
  attempt : AttemptSummaryV1 := {}
  pendingTerminalReplay : Option TerminalV1 := none
  digest : Bytes := []
deriving DecidableEq, Repr, Inhabited

structure ReplayPlanV1 where
  platformEnvelopeAfter : Nat
  workerEnvelopeAfter : Nat
  platformAttemptAfter : Nat
  workerAttemptAfter : Nat
  terminalDecision : ReconnectTerminalDecision
deriving DecidableEq, Repr

/-- `ReconnectNegotiationV1`, and the body of `AttachAcceptedV1`, which has the same six fields. -/
structure NegotiationV1 where
  workerOffer : VersionOfferV1
  platformOffer : VersionOfferV1
  selectedVersion : ProtocolVersion
  workerNonce : Bytes
  platformNonce : Bytes
  capabilityDigest : Bytes
deriving DecidableEq, Repr

/-! ## Connection payloads -/

structure HelloV1 where
  offer : VersionOfferV1 := {}
  workerNonce : Bytes := []
deriving DecidableEq, Repr, Inhabited

structure ChallengeV1 where
  workerOffer : VersionOfferV1 := {}
  platformOffer : VersionOfferV1 := {}
  selectedVersion : ProtocolVersion := 0
  workerNonce : Bytes := []
  platformNonce : Bytes := []
deriving DecidableEq, Repr, Inhabited

structure AttachV1 extends NegotiationV1 where
  signature : Bytes
deriving DecidableEq, Repr

abbrev AttachAcceptedV1 := NegotiationV1

structure ReconnectV1 extends NegotiationV1 where
  previousConnectionGeneration : Nat
  previousWatermarks : ConnectionWatermarksV1
  attemptSummary : AttemptSummaryV1
  pendingTerminalReplay : Option TerminalV1
  signature : Bytes
deriving DecidableEq, Repr

structure ReconnectAcceptedV1 extends NegotiationV1 where
  authoritativeWatermarks : ConnectionWatermarksV1
  authoritativeAttempt : AttemptSummaryV1
  authoritativePendingTerminalReplay : Option TerminalV1
  replayPlan : ReplayPlanV1
deriving DecidableEq, Repr

structure ManifestV1 where
  manifest : CapabilityManifestV1
  digest : Bytes
  signature : Bytes
deriving DecidableEq, Repr

structure HeartbeatV1 where
  observedAtUnixMicro : Int
  available : Bool
  activeAttempts : Nat
deriving DecidableEq, Repr

structure DrainV1 where
  revision : Nat
deriving DecidableEq, Repr

structure DrainedV1 where
  revision : Nat
deriving DecidableEq, Repr

structure RevokeV1 where
  revision : Nat := 0
  nextEnrollmentGeneration : Nat := 0
  nextConnectionGeneration : Nat := 0
deriving DecidableEq, Repr, Inhabited

/-- `RevokedV1` has the fields of `RevokeV1`; the source converts one into the other. -/
abbrev RevokedV1 := RevokeV1

structure ErrorV1 where
  code : ErrorCode
  retryable : Bool
deriving DecidableEq, Repr

inductive Payload
  | hello (message : HelloV1)
  | challenge (message : ChallengeV1)
  | attach (message : AttachV1)
  | attachAccepted (message : AttachAcceptedV1)
  | reconnect (message : ReconnectV1)
  | reconnectAccepted (message : ReconnectAcceptedV1)
  | manifest (message : ManifestV1)
  | heartbeat (message : HeartbeatV1)
  | attempt (message : AttemptMessage)
  | drain (message : DrainV1)
  | drained (message : DrainedV1)
  | revoke (message : RevokeV1)
  | revoked (message : RevokedV1)
  | error (message : ErrorV1)
deriving DecidableEq, Repr

def Payload.kind : Payload → MessageKind
  | hello _ => .hello
  | challenge _ => .challenge
  | attach _ => .attach
  | attachAccepted _ => .attachAccepted
  | reconnect _ => .reconnect
  | reconnectAccepted _ => .reconnectAccepted
  | manifest _ => .manifest
  | heartbeat _ => .heartbeat
  | attempt message => message.kind
  | drain _ => .drain
  | drained _ => .drained
  | revoke _ => .revoke
  | revoked _ => .revoked
  | error _ => .error

structure FrameV1 where
  version : ProtocolVersion
  messageId : String
  workerId : String
  enrollmentGeneration : Nat
  connectionGeneration : Nat
  sequence : Nat
  ack : Nat
  payload : Payload
deriving DecidableEq, Repr

def FrameV1.kind (frame : FrameV1) : MessageKind := frame.payload.kind

end Sessionless.Protocol
