import Sessionless.Lib.Json
import Sessionless.Protocol.Types

/-!
# JSON form of a frame

The value `json.Marshal` is applied to by `frameFingerprint` and `attemptFingerprint`: the
struct tags of `types.go`, `version.go`, `manifest.go` and `reconciliation.go`, in field
order, with `omitempty` on the optional payloads.
-/

namespace Sessionless.Protocol

open Lib Json

/-- A field tagged `omitempty` whose value is a pointer. -/
def omitEmpty {α : Type} (name : String) (toJson : α → Json) : Option α → List (String × Json)
  | none => []
  | some value => [(name, toJson value)]

def VersionOfferV1.toJson (offer : VersionOfferV1) : Json :=
  obj [("window", obj [("minimum", nat offer.window.minimum), ("maximum", nat offer.window.maximum)]),
    ("supported", arr (offer.supported.map nat))]

def CapabilityManifestV1.toJson (manifest : CapabilityManifestV1) : Json :=
  obj [("worker_id", str manifest.workerId), ("enrollment_generation", nat manifest.enrollmentGeneration),
    ("revision", nat manifest.revision), ("protocol_offer", manifest.protocolOffer.toJson),
    ("operating_system", str manifest.operatingSystem), ("architecture", str manifest.architecture),
    ("build_id", str manifest.buildId), ("harness_name", str manifest.harnessName),
    ("harness_version", str manifest.harnessVersion), ("harness_surface", str manifest.harnessSurface),
    ("harness_executable_digest", bytes manifest.harnessExecutableDigest),
    ("isolation_evidence", arr (manifest.isolationEvidence.map fun evidence => str evidence.text)),
    ("features", arr (manifest.features.map fun feature => str feature.text)),
    ("max_concurrent_attempts", nat manifest.maxConcurrentAttempts)]

def AttemptBindingV1.toJson (binding : AttemptBindingV1) : Json :=
  obj [("run_id", str binding.runId), ("attempt_id", str binding.attemptId), ("lease_id", str binding.leaseId),
    ("lease_generation", nat binding.leaseGeneration), ("fence_token", str binding.fenceToken),
    ("expires_at_unix_micro", num binding.expiresAtUnixMicro), ("context_digest", bytes binding.contextDigest),
    ("capability_digest", bytes binding.capabilityDigest), ("policy_digest", bytes binding.policyDigest)]

def TerminalV1.toJson (message : TerminalV1) : Json :=
  obj [("binding", message.binding.toJson), ("attempt_sequence", nat message.attemptSequence),
    ("terminal_sequence", nat message.terminalSequence), ("status", str message.status.text),
    ("result", str message.result.text), ("evidence_digest", bytes message.evidenceDigest)]

def AttemptMessage.toJson : AttemptMessage → Json
  | leaseOffer message => obj [("binding", message.binding.toJson), ("attempt_sequence", nat message.attemptSequence)]
  | leaseClaim message => obj [("binding", message.binding.toJson), ("attempt_sequence", nat message.attemptSequence)]
  | leaseAccepted message =>
    obj [("binding", message.binding.toJson), ("attempt_sequence", nat message.attemptSequence)]
  | progress message =>
    obj [("binding", message.binding.toJson), ("attempt_sequence", nat message.attemptSequence),
      ("progress_sequence", nat message.progressSequence), ("stage", str message.stage.text)]
  | cancel message =>
    obj [("binding", message.binding.toJson), ("attempt_sequence", nat message.attemptSequence),
      ("cancel_revision", nat message.cancelRevision), ("code", str message.code.text)]
  | cancelAck message =>
    obj [("binding", message.binding.toJson), ("attempt_sequence", nat message.attemptSequence),
      ("cancel_revision", nat message.cancelRevision)]
  | terminal message => message.toJson
  | terminalAck message =>
    obj [("binding", message.binding.toJson), ("attempt_sequence", nat message.attemptSequence),
      ("terminal_sequence", nat message.terminalSequence), ("status", str message.status.text),
      ("result", str message.result.text), ("evidence_digest", bytes message.evidenceDigest)]

def ConnectionWatermarksV1.toJson (watermarks : ConnectionWatermarksV1) : Json :=
  obj [("platform_sequence", nat watermarks.platformSequence), ("worker_sequence", nat watermarks.workerSequence),
    ("platform_ack", nat watermarks.platformAck), ("worker_ack", nat watermarks.workerAck)]

def AttemptSummaryV1.toJson (summary : AttemptSummaryV1) : Json :=
  obj [("state", str summary.state.text), ("binding", summary.binding.toJson),
    ("platform_sequence", nat summary.platformSequence), ("worker_sequence", nat summary.workerSequence),
    ("progress_sequence", nat summary.progressSequence), ("cancel_revision", nat summary.cancelRevision),
    ("cancel_code", str summary.cancelCode.text), ("terminal_sequence", nat summary.terminalSequence),
    ("terminal_status", str summary.terminalStatus.text), ("terminal_result", str summary.terminalResult.text),
    ("terminal_evidence_digest", bytes summary.terminalEvidenceDigest), ("digest", bytes summary.digest)]

def ReplayPlanV1.toJson (plan : ReplayPlanV1) : Json :=
  obj [("platform_envelope_after", nat plan.platformEnvelopeAfter),
    ("worker_envelope_after", nat plan.workerEnvelopeAfter), ("platform_attempt_after", nat plan.platformAttemptAfter),
    ("worker_attempt_after", nat plan.workerAttemptAfter), ("terminal_decision", str plan.terminalDecision.text)]

def offersJson (negotiation : NegotiationV1) : List (String × Json) :=
  [("worker_offer", negotiation.workerOffer.toJson), ("platform_offer", negotiation.platformOffer.toJson),
    ("selected_version", nat negotiation.selectedVersion)]

def noncesJson (negotiation : NegotiationV1) : List (String × Json) :=
  [("worker_nonce", bytes negotiation.workerNonce), ("platform_nonce", bytes negotiation.platformNonce),
    ("capability_digest", bytes negotiation.capabilityDigest)]

def RevokeV1.toJson (message : RevokeV1) : Json :=
  obj [("revision", nat message.revision), ("next_enrollment_generation", nat message.nextEnrollmentGeneration),
    ("next_connection_generation", nat message.nextConnectionGeneration)]

def Payload.toJson : Payload → Json
  | hello message => obj [("offer", message.offer.toJson), ("worker_nonce", bytes message.workerNonce)]
  | challenge message =>
    obj [("worker_offer", message.workerOffer.toJson), ("platform_offer", message.platformOffer.toJson),
      ("selected_version", nat message.selectedVersion), ("worker_nonce", bytes message.workerNonce),
      ("platform_nonce", bytes message.platformNonce)]
  | attach message =>
    obj (offersJson message.toNegotiationV1 ++ noncesJson message.toNegotiationV1 ++
      [("signature", bytes message.signature)])
  | attachAccepted message => obj (offersJson message ++ noncesJson message)
  | reconnect message =>
    obj (offersJson message.toNegotiationV1 ++
      [("previous_connection_generation", nat message.previousConnectionGeneration)] ++
      noncesJson message.toNegotiationV1 ++
      [("previous_watermarks", message.previousWatermarks.toJson), ("attempt_summary", message.attemptSummary.toJson)] ++
      omitEmpty "pending_terminal_replay" TerminalV1.toJson message.pendingTerminalReplay ++
      [("signature", bytes message.signature)])
  | reconnectAccepted message =>
    obj (offersJson message.toNegotiationV1 ++ noncesJson message.toNegotiationV1 ++
      [("authoritative_watermarks", message.authoritativeWatermarks.toJson),
        ("authoritative_attempt", message.authoritativeAttempt.toJson)] ++
      omitEmpty "authoritative_pending_terminal_replay" TerminalV1.toJson message.authoritativePendingTerminalReplay ++
      [("replay_plan", message.replayPlan.toJson)])
  | manifest message =>
    obj [("manifest", message.manifest.toJson), ("digest", bytes message.digest), ("signature", bytes message.signature)]
  | heartbeat message =>
    obj [("observed_at_unix_micro", num message.observedAtUnixMicro), ("available", bool message.available),
      ("active_attempts", nat message.activeAttempts)]
  | attempt message => message.toJson
  | drain message => obj [("revision", nat message.revision)]
  | drained message => obj [("revision", nat message.revision)]
  | revoke message => message.toJson
  | revoked message => message.toJson
  | error message => obj [("code", str message.code.text), ("retryable", bool message.retryable)]

/-- The one payload of a frame is stored under the name of its kind. -/
def FrameV1.toJson (frame : FrameV1) : Json :=
  obj [("version", nat frame.version), ("message_id", str frame.messageId), ("worker_id", str frame.workerId),
    ("enrollment_generation", nat frame.enrollmentGeneration), ("connection_generation", nat frame.connectionGeneration),
    ("sequence", nat frame.sequence), ("ack", nat frame.ack), ("kind", str frame.kind.text),
    (frame.kind.text, frame.payload.toJson)]

end Sessionless.Protocol
