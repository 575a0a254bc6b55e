import Sessionless.Protocol.Reconciliation

/-!
# The conformance machine

`machine.go`: one machine per connection, driven by `accept` for both directions. The
source mutates the machine in place and returns an error; here every transition returns
the machine it leaves behind, in the error case as well.
-/

namespace Sessionless.Protocol

open Lib

variable [Crypto]

structure MachineConfig where
  auth : AuthContextV1
  workerOffer : VersionOfferV1
  platformOffer : VersionOfferV1
  implementedVersions : List ProtocolVersion
deriving DecidableEq, Repr

structure SequenceState where
  sequence : Nat := 0
  ack : Nat := 0
  fingerprint : Sum256 := Sum256.zero
deriving DecidableEq

structure AcceptanceContextV1 where
  channelBinding : Bytes
  nowUnixMicro : Int
deriving DecidableEq, Repr

structure AttemptSequenceState where
  sequence : Nat := 0
  fingerprints : OrderedMap Nat Sum256 := ∅
deriving DecidableEq

/-- `fingerprints[sequence]`: the zero array when the key is absent. -/
def AttemptSequenceState.fingerprintAt (state : AttemptSequenceState) (sequence : Nat) : Sum256 :=
  (state.fingerprints.get? sequence).getD Sum256.zero

/-- A signed reconnect claim awaiting an exact replay decision. -/
structure TerminalReplayCommitment where
  kind : MessageKind
  sequence : Nat
  fingerprint : Sum256
  decision : ReconnectTerminalDecision
  terminal : TerminalV1
deriving DecidableEq

structure AttemptRecord where
  state : AttemptState := .idle
  binding : AttemptBindingV1 := {}
  platform : AttemptSequenceState := {}
  worker : AttemptSequenceState := {}
  progressSequence : Nat := 0
  cancelRevision : Nat := 0
  cancelCode : CancelCode := .unset
  terminalSequence : Nat := 0
  terminalStatus : TerminalStatus := .unset
  terminalResult : TerminalResult := .unset
  terminalEvidence : Bytes := []
  pendingWorkerTerminal : Option TerminalReplayCommitment := none
deriving DecidableEq

structure ConformanceMachine where
  config : MachineConfig
  connection : ConnectionState := .unattached
  platform : SequenceState := {}
  worker : SequenceState := {}
  hello : HelloV1 := {}
  challenge : ChallengeV1 := {}
  capabilityDigest : Bytes := []
  manifest : CapabilityManifestV1 := {}
  attempt : AttemptRecord := {}
  drainRevision : Nat := 0
  revoke : RevokeV1 := {}
  reconnecting : Bool := false
  drainReenvelopePending : Bool := false
  reconnectTarget : ConnectionState := .unattached
  previousConnectionGeneration : Nat := 0
  reconnectWatermarks : ConnectionWatermarksV1 := {}
  reconnectAttempt : AttemptSummaryV1 := {}
  reconnectClaim : ReconnectSnapshotV1 := {}
deriving DecidableEq

/-- What a transition returns: its error, if any, and the machine it leaves. -/
abbrev Verdict := EStateM.Result ErrorCode ConformanceMachine Unit

def MachineConfig.Valid (config : MachineConfig) : Prop :=
  config.auth.Valid ∧ config.workerOffer.Valid ∧ config.platformOffer.Valid ∧
    negotiateOffers config.workerOffer config.platformOffer config.implementedVersions = some config.auth.version
deriving Decidable

def newConformanceMachine (config : MachineConfig) : Except ErrorCode ConformanceMachine :=
  if config.Valid then .ok { config := config } else .error .unauthorized

def messageIdV1 (direction : Direction) (sequence : Nat) : String :=
  String.ofList ((match direction with | .platformToWorker => 'p' | .workerToPlatform => 'w') :: '-' ::
    paddedDecimal 20 sequence)

def MachineConfig.frame (config : MachineConfig) (direction : Direction) (sequence ack : Nat) (payload : Payload) :
    FrameV1 :=
  { version := config.auth.version
    messageId := messageIdV1 direction sequence
    workerId := config.auth.workerId
    enrollmentGeneration := config.auth.enrollmentGeneration
    connectionGeneration := config.auth.connectionGeneration
    sequence := sequence
    ack := ack
    payload := payload }

def attemptRequiresValidLease : AttemptMessage → Bool
  | .leaseOffer _ | .leaseClaim _ | .leaseAccepted _ | .progress _ | .terminal _ | .terminalAck _ => true
  | .cancel _ | .cancelAck _ => false

def negotiationMatchesChallenge (negotiation : NegotiationV1) (challenge : ChallengeV1) : Prop :=
  sameVersionOffer negotiation.workerOffer challenge.workerOffer ∧
    sameVersionOffer negotiation.platformOffer challenge.platformOffer ∧
    negotiation.selectedVersion = challenge.selectedVersion ∧ negotiation.workerNonce = challenge.workerNonce ∧
    negotiation.platformNonce = challenge.platformNonce
deriving Decidable

def acceptedMatchesChallenge (accepted : AttachAcceptedV1) (challenge : ChallengeV1) (capabilityDigest : Bytes) : Prop :=
  negotiationMatchesChallenge accepted challenge ∧ accepted.capabilityDigest = capabilityDigest
deriving Decidable

/-- The claim a signed `Reconnect` makes. -/
def ReconnectV1.claim (reconnect : ReconnectV1) : ReconnectSnapshotV1 :=
  sealReconnectSnapshot {
    previousConnectionGeneration := reconnect.previousConnectionGeneration
    watermarks := reconnect.previousWatermarks
    attempt := reconnect.attemptSummary
    pendingTerminalReplay := reconnect.pendingTerminalReplay }

namespace ConformanceMachine

/-! ## Reading a machine -/

def sender (machine : ConformanceMachine) : Direction → SequenceState
  | .platformToWorker => machine.platform
  | .workerToPlatform => machine.worker

def peer (machine : ConformanceMachine) : Direction → SequenceState
  | .platformToWorker => machine.worker
  | .workerToPlatform => machine.platform

def setSender (machine : ConformanceMachine) (direction : Direction) (state : SequenceState) : ConformanceMachine :=
  match direction with
  | .platformToWorker => { machine with platform := state }
  | .workerToPlatform => { machine with worker := state }

def attemptSender (machine : ConformanceMachine) : Direction → AttemptSequenceState
  | .platformToWorker => machine.attempt.platform
  | .workerToPlatform => machine.attempt.worker

/-- The observation `AttemptBinding()`: nothing while the attempt is idle. -/
def attemptBinding (machine : ConformanceMachine) : Option AttemptBindingV1 :=
  if machine.attempt.state = .idle then none else some machine.attempt.binding

def hasFeature (machine : ConformanceMachine) (feature : ProtocolFeatureV1) : Prop :=
  feature ∈ machine.manifest.features
deriving Decidable

def currentWatermarks (machine : ConformanceMachine) : ConnectionWatermarksV1 :=
  { platformSequence := machine.platform.sequence
    workerSequence := machine.worker.sequence
    platformAck := machine.platform.ack
    workerAck := machine.worker.ack }

def currentAttemptSummary (machine : ConformanceMachine) : AttemptSummaryV1 :=
  sealAttemptSummary {
    state := machine.attempt.state
    binding := machine.attempt.binding
    platformSequence := machine.attempt.platform.sequence
    workerSequence := machine.attempt.worker.sequence
    progressSequence := machine.attempt.progressSequence
    cancelRevision := machine.attempt.cancelRevision
    cancelCode := machine.attempt.cancelCode
    terminalSequence := machine.attempt.terminalSequence
    terminalStatus := machine.attempt.terminalStatus
    terminalResult := machine.attempt.terminalResult
    terminalEvidenceDigest := machine.attempt.terminalEvidence }

def pendingTerminalForSnapshot (machine : ConformanceMachine) : Option TerminalV1 :=
  machine.attempt.pendingWorkerTerminal.map TerminalReplayCommitment.terminal

/-! ## Reconnect -/

/-- The record `SnapshotForReconnect` seals. -/
def reconnectRecord (machine : ConformanceMachine) : ReconnectSnapshotV1 :=
  sealReconnectSnapshot {
    previousConnectionGeneration := machine.previousConnectionGeneration
    watermarks := machine.reconnectWatermarks
    attempt := machine.reconnectAttempt
    pendingTerminalReplay := machine.pendingTerminalForSnapshot }

def snapshotForReconnect (machine : ConformanceMachine) : Except ErrorCode ReconnectSnapshotV1 :=
  if machine.reconnecting then .ok machine.reconnectRecord else .error .protocolViolation

/-- A new channel-bound handshake that keeps the bounded attempt record. -/
def beginReconnect (machine : ConformanceMachine) (next : AuthContextV1) : Verdict :=
  if ¬ next.Valid ∨ (machine.connection ≠ .ready ∧ machine.connection ≠ .draining) ∨
      next.tenantId ≠ machine.config.auth.tenantId ∨ next.ownerUserId ≠ machine.config.auth.ownerUserId ∨
      next.workerId ≠ machine.config.auth.workerId ∨
      next.identityPublicKey ≠ machine.config.auth.identityPublicKey ∨
      next.enrollmentGeneration ≠ machine.config.auth.enrollmentGeneration ∨
      next.version ≠ machine.config.auth.version ∨ machine.reconnecting = true ∨
      machine.drainReenvelopePending = true ∨ ¬ machine.hasFeature .reconnect ∨
      machine.config.auth.connectionGeneration = maxUint64 ∨
      next.connectionGeneration ≠ machine.config.auth.connectionGeneration + 1 then .error .unauthorized machine
  else .ok () { machine with
    previousConnectionGeneration := machine.config.auth.connectionGeneration
    reconnectWatermarks := machine.currentWatermarks
    reconnectAttempt := machine.currentAttemptSummary
    reconnectTarget := machine.connection
    config := { machine.config with auth := next }
    connection := .unattached
    platform := {}
    worker := {}
    hello := {}
    challenge := {}
    reconnecting := true }

/-! ## Handshake frames -/

def acceptHello (machine : ConformanceMachine) (direction : Direction) (hello : HelloV1) : Verdict :=
  if direction ≠ .workerToPlatform ∨ machine.connection ≠ .unattached ∨
      ¬ sameVersionOffer hello.offer machine.config.workerOffer then .error .invalidTransition machine
  else .ok () { machine with hello := hello, connection := .hello }

def acceptChallenge (machine : ConformanceMachine) (direction : Direction) (challenge : ChallengeV1) : Verdict :=
  if direction ≠ .platformToWorker ∨ machine.connection ≠ .hello ∨
      ¬ sameVersionOffer challenge.workerOffer machine.hello.offer ∨
      ¬ sameVersionOffer challenge.platformOffer machine.config.platformOffer ∨
      challenge.workerNonce ≠ machine.hello.workerNonce then .error .invalidTransition machine
  else if negotiateOffers challenge.workerOffer challenge.platformOffer machine.config.implementedVersions ≠
      some challenge.selectedVersion ∨ challenge.selectedVersion ≠ machine.config.auth.version then
    .error .unsupportedVersion machine
  else .ok () { machine with challenge := challenge, connection := .challenged }

def acceptAttach (machine : ConformanceMachine) (direction : Direction) (frame : FrameV1) (attach : AttachV1) : Verdict :=
  if direction ≠ .workerToPlatform ∨ machine.connection ≠ .challenged ∨ machine.reconnecting = true ∨
      ¬ negotiationMatchesChallenge attach.toNegotiationV1 machine.challenge ∨
      ¬ verifyAttachV1 machine.config.auth frame attach then .error .unauthorized machine
  else .ok () { machine with capabilityDigest := attach.capabilityDigest, connection := .attachPending }

def acceptAttachAccepted (machine : ConformanceMachine) (direction : Direction) (accepted : AttachAcceptedV1) : Verdict :=
  if direction ≠ .platformToWorker ∨ machine.connection ≠ .attachPending ∨
      ¬ acceptedMatchesChallenge accepted machine.challenge machine.capabilityDigest then .error .unauthorized machine
  else .ok () { machine with connection := .attached }

def acceptReconnect (machine : ConformanceMachine) (direction : Direction) (frame : FrameV1) (reconnect : ReconnectV1) :
    Verdict :=
  if direction ≠ .workerToPlatform ∨ machine.connection ≠ .challenged ∨ machine.reconnecting = false ∨
      reconnect.previousConnectionGeneration ≠ machine.previousConnectionGeneration ∨
      reconnect.previousConnectionGeneration = maxUint64 ∨
      reconnect.previousConnectionGeneration + 1 ≠ machine.config.auth.connectionGeneration ∨
      ¬ negotiationMatchesChallenge reconnect.toNegotiationV1 machine.challenge ∨
      ¬ verifyReconnectV1 machine.config.auth frame reconnect ∨
      ¬ reconnectClaimsCompatible reconnect.claim machine.reconnectRecord ∨
      (machine.capabilityDigest.length ≠ 0 ∧ reconnect.capabilityDigest ≠ machine.capabilityDigest) then
    .error .unauthorized machine
  else .ok () { machine with
    capabilityDigest := reconnect.capabilityDigest
    reconnectClaim := reconnect.claim
    connection := .reconnectPending }

/-- The commitment a plan other than `none` and `committed` installs. -/
def replayCommitment (terminal : TerminalV1) (decision : ReconnectTerminalDecision) : TerminalReplayCommitment :=
  { kind := .terminal
    sequence := terminal.attemptSequence
    fingerprint := attemptFingerprint (.terminal terminal)
    decision := decision
    terminal := terminal }

def setPending (machine : ConformanceMachine) (pending : Option TerminalReplayCommitment) : ConformanceMachine :=
  { machine with attempt := { machine.attempt with pendingWorkerTerminal := pending } }

def installReplayCommitment (machine : ConformanceMachine) (authoritative workerClaim : ReconnectSnapshotV1)
    (plan : ReplayPlanV1) : Verdict :=
  match plan.terminalDecision with
  | .committed => .ok () (machine.setPending none)
  | .none =>
    match machine.attempt.pendingWorkerTerminal with
    | some pending =>
      if pending.sequence ≤ authoritative.attempt.workerSequence ∨ authoritative.attempt.terminalSequence > 0 then
        .ok () (machine.setPending none)
      else .ok () machine
    | none => .ok () machine
  | decision =>
    match reconnectPendingTerminal workerClaim with
    | none => .error .conflict machine
    | some terminal =>
      let next := replayCommitment terminal decision
      match machine.attempt.pendingWorkerTerminal with
      | some pending =>
        if pending.sequence ≠ next.sequence ∨ pending.fingerprint ≠ next.fingerprint then .error .conflict machine
        else .ok () (machine.setPending (some next))
      | none => .ok () (machine.setPending (some next))

def pruneAttemptFingerprints (state : AttemptSequenceState) (through : Nat) : AttemptSequenceState :=
  { state with fingerprints := state.fingerprints.filterKeys (fun sequence => decide (sequence ≤ through)) }

def applyAttemptSummary (machine : ConformanceMachine) (summary : AttemptSummaryV1) : ConformanceMachine :=
  { machine with attempt := { machine.attempt with
    state := summary.state
    binding := summary.binding
    platform := pruneAttemptFingerprints
      { machine.attempt.platform with sequence := summary.platformSequence } summary.platformSequence
    worker := pruneAttemptFingerprints
      { machine.attempt.worker with sequence := summary.workerSequence } summary.workerSequence
    progressSequence := summary.progressSequence
    cancelRevision := summary.cancelRevision
    cancelCode := summary.cancelCode
    terminalSequence := summary.terminalSequence
    terminalStatus := summary.terminalStatus
    terminalResult := summary.terminalResult
    terminalEvidence := summary.terminalEvidenceDigest } }

/-- A discarded terminal keeps its attempt sequence occupied. -/
def applyDiscardTombstone (machine : ConformanceMachine) : ConformanceMachine :=
  match machine.attempt.pendingWorkerTerminal with
  | some pending =>
    if pending.decision ≠ .discard ∨ pending.sequence ≤ machine.attempt.worker.sequence then machine
    else { machine with attempt := { machine.attempt with
      worker := { machine.attempt.worker with sequence := pending.sequence } } }
  | none => machine

/-- The authoritative record a `ReconnectAccepted` states. -/
def authoritativeRecord (machine : ConformanceMachine) (accepted : ReconnectAcceptedV1) : ReconnectSnapshotV1 :=
  sealReconnectSnapshot {
    previousConnectionGeneration := machine.previousConnectionGeneration
    watermarks := accepted.authoritativeWatermarks
    attempt := accepted.authoritativeAttempt
    pendingTerminalReplay := accepted.authoritativePendingTerminalReplay }

def acceptReconnectAccepted (machine : ConformanceMachine) (direction : Direction) (accepted : ReconnectAcceptedV1) :
    Verdict :=
  let authoritative := machine.authoritativeRecord accepted
  if direction ≠ .platformToWorker ∨ machine.connection ≠ .reconnectPending ∨
      ¬ acceptedMatchesChallenge accepted.toNegotiationV1 machine.challenge machine.capabilityDigest ∨
      buildReconnectAcceptedV1 authoritative machine.reconnectClaim accepted.toNegotiationV1 ≠ .ok accepted then
    .error .unauthorized machine
  else
    match machine.installReplayCommitment authoritative machine.reconnectClaim accepted.replayPlan with
    | .error code machine => .error code machine
    | .ok _ machine =>
      .ok () { (machine.applyAttemptSummary accepted.authoritativeAttempt).applyDiscardTombstone with
        connection := .attached }

def acceptManifest (machine : ConformanceMachine) (direction : Direction) (frame : FrameV1) (manifest : ManifestV1) :
    Verdict :=
  if direction ≠ .workerToPlatform ∨ machine.connection ≠ .attached ∨ manifest.digest ≠ machine.capabilityDigest ∨
      manifest.manifest.workerId ≠ machine.config.auth.workerId ∨
      manifest.manifest.enrollmentGeneration ≠ machine.config.auth.enrollmentGeneration ∨
      ¬ sameVersionOffer manifest.manifest.protocolOffer machine.config.workerOffer ∨
      ¬ verifyManifestV1 machine.config.auth frame manifest then .error .unauthorized machine
  else if machine.reconnecting then .ok () { machine with
    manifest := manifest.manifest
    connection := machine.reconnectTarget
    drainReenvelopePending := decide (machine.reconnectTarget = .draining)
    reconnecting := false }
  else .ok () { machine with manifest := manifest.manifest, connection := .ready }

/-! ## Presence, drain and revocation -/

/-- Presence never moves the attempt; it conflicts only with a drain already under way. -/
def acceptHeartbeat (machine : ConformanceMachine) (direction : Direction) (heartbeat : HeartbeatV1) : Verdict :=
  if direction ≠ .workerToPlatform ∨ (machine.connection ≠ .ready ∧ machine.connection ≠ .draining) then
    .error .invalidTransition machine
  else if heartbeat.available = true ∧ machine.connection ≠ .ready then .error .conflict machine
  else .ok () machine

def acceptDrain (machine : ConformanceMachine) (direction : Direction) (drain : DrainV1) : Verdict :=
  if direction ≠ .platformToWorker then .error .invalidTransition machine
  else match machine.connection with
    | .ready =>
      if machine.drainRevision ≠ 0 ∨ machine.drainReenvelopePending = true then .error .invalidTransition machine
      else .ok () { machine with drainRevision := drain.revision, connection := .draining }
    | .draining =>
      if machine.drainReenvelopePending = false ∨ machine.reconnectTarget ≠ .draining ∨
          machine.previousConnectionGeneration = maxUint64 ∨
          machine.previousConnectionGeneration + 1 ≠ machine.config.auth.connectionGeneration ∨
          drain.revision ≠ machine.drainRevision then .error .invalidTransition machine
      else .ok () { machine with
        drainReenvelopePending := false, drainRevision := drain.revision, connection := .draining }
    | _ => .error .invalidTransition machine

def acceptDrained (machine : ConformanceMachine) (direction : Direction) (drained : DrainedV1) : Verdict :=
  if direction ≠ .workerToPlatform ∨ machine.connection ≠ .draining ∨ drained.revision ≠ machine.drainRevision ∨
      machine.attempt.state ≠ .idle then .error .invalidTransition machine
  else .ok () { machine with connection := .drained }

def fenceAttempt (attempt : AttemptRecord) : AttemptRecord :=
  if attempt.state ≠ .idle ∧ attempt.state ≠ .terminalCommitted then
    { attempt with
      state := .fenced
      cancelCode := .fenced
      terminalSequence := 0
      terminalStatus := .unset
      terminalResult := .unset
      terminalEvidence := []
      cancelRevision := if attempt.cancelRevision = 0 then 1 else attempt.cancelRevision }
  else attempt

def acceptRevoke (machine : ConformanceMachine) (direction : Direction) (revoke : RevokeV1) : Verdict :=
  if direction ≠ .platformToWorker ∨ machine.connection = .unattached ∨ machine.connection = .revoked ∨
      machine.config.auth.enrollmentGeneration = maxUint64 ∨ machine.config.auth.connectionGeneration = maxUint64 ∨
      revoke.nextEnrollmentGeneration ≠ machine.config.auth.enrollmentGeneration + 1 ∨
      revoke.nextConnectionGeneration ≠ machine.config.auth.connectionGeneration + 1 then
    .error .invalidTransition machine
  else .ok () { machine with revoke := revoke, attempt := fenceAttempt machine.attempt, connection := .revoking }

def acceptRevoked (machine : ConformanceMachine) (direction : Direction) (revoked : RevokedV1) : Verdict :=
  if direction ≠ .workerToPlatform ∨ machine.connection ≠ .revoking ∨
      (machine.attempt.state ≠ .idle ∧ machine.attempt.state ≠ .terminalCommitted ∧ machine.attempt.state ≠ .fenced) ∨
      revoked ≠ machine.revoke then .error .invalidTransition machine
  else .ok () { machine with connection := .revoked }

/-! ## Attempt frames -/

def Revoking (machine : ConformanceMachine) : Prop := machine.connection = .revoking ∨ machine.connection = .revoked
deriving Decidable

def clearTerminal (attempt : AttemptRecord) : AttemptRecord :=
  { attempt with terminalSequence := 0, terminalStatus := .unset, terminalResult := .unset, terminalEvidence := [] }

def setAttempt (machine : ConformanceMachine) (attempt : AttemptRecord) : ConformanceMachine :=
  { machine with attempt := attempt }

def applyLeaseOffer (machine : ConformanceMachine) (direction : Direction) (message : LeaseOfferV1) : Verdict :=
  if direction ≠ .platformToWorker ∨ machine.connection ≠ .ready ∨ machine.attempt.state ≠ .idle ∨
      message.attemptSequence ≠ 1 then .error .invalidTransition machine
  else .ok () (machine.setAttempt { machine.attempt with binding := message.binding, state := .offered })

def applyLeaseClaim (machine : ConformanceMachine) (direction : Direction) : Verdict :=
  if direction ≠ .workerToPlatform ∨ machine.attempt.state ≠ .offered then .error .invalidTransition machine
  else .ok () (machine.setAttempt { machine.attempt with state := .claimPending })

def applyLeaseAccepted (machine : ConformanceMachine) (direction : Direction) : Verdict :=
  if direction ≠ .platformToWorker ∨ machine.attempt.state ≠ .claimPending then .error .invalidTransition machine
  else .ok () (machine.setAttempt { machine.attempt with state := .claimed })

def applyProgress (machine : ConformanceMachine) (direction : Direction) (message : ProgressV1) : Verdict :=
  if direction ≠ .workerToPlatform ∨ ¬ machine.hasFeature .progress ∨
      (machine.attempt.state ≠ .claimed ∧ machine.attempt.state ≠ .cancelRequested ∧
        machine.attempt.state ≠ .cancelAcked) ∨
      machine.attempt.progressSequence = maxUint64 ∨
      message.progressSequence ≠ machine.attempt.progressSequence + 1 then .error .invalidTransition machine
  else .ok () (machine.setAttempt { machine.attempt with progressSequence := message.progressSequence })

def applyCancel (machine : ConformanceMachine) (direction : Direction) (message : CancelV1) : Verdict :=
  if direction ≠ .platformToWorker ∨ ¬ machine.hasFeature .cancellation ∨
      (machine.attempt.state ≠ .offered ∧ machine.attempt.state ≠ .claimPending ∧ machine.attempt.state ≠ .claimed ∧
        machine.attempt.state ≠ .terminalPending) ∨
      message.cancelRevision ≠ 1 then .error .invalidTransition machine
  else .ok () (machine.setAttempt { clearTerminal machine.attempt with
    cancelRevision := message.cancelRevision
    cancelCode := message.code
    state := if message.code = .fenced then .fenced else .cancelRequested })

def applyCancelAck (machine : ConformanceMachine) (direction : Direction) (message : CancelAckV1) : Verdict :=
  if direction ≠ .workerToPlatform ∨ ¬ machine.hasFeature .cancellation ∨
      (machine.attempt.state ≠ .cancelRequested ∧ machine.attempt.state ≠ .fenced) ∨
      message.cancelRevision ≠ machine.attempt.cancelRevision then .error .invalidTransition machine
  else .ok () (machine.setAttempt { machine.attempt with
    state := if machine.attempt.state ≠ .fenced then .cancelAcked else machine.attempt.state })

def applyTerminal (machine : ConformanceMachine) (direction : Direction) (message : TerminalV1) : Verdict :=
  if direction ≠ .workerToPlatform ∨
      (machine.attempt.state ≠ .claimed ∧ machine.attempt.state ≠ .cancelRequested ∧
        machine.attempt.state ≠ .cancelAcked ∧ machine.attempt.state ≠ .fenced) ∨
      message.terminalSequence ≠ 1 ∨ (message.status = .cancelled ∧ machine.attempt.cancelRevision = 0) then
    .error .invalidTransition machine
  else if machine.attempt.cancelRevision ≠ 0 ∧ message.status ≠ .cancelled then
    if machine.attempt.cancelCode = .fenced ∨ machine.Revoking then .error .invalidTransition machine
    -- a requested cancellation wins a crossed outcome: the envelope is consumed, nothing is committable
    else .ok () machine
  else .ok () (machine.setAttempt { machine.attempt with
    terminalSequence := message.terminalSequence
    terminalStatus := message.status
    terminalResult := message.result
    terminalEvidence := message.evidenceDigest
    state := if machine.attempt.cancelCode ≠ .fenced ∧ ¬ machine.Revoking then .terminalPending
      else machine.attempt.state })

def applyTerminalAck (machine : ConformanceMachine) (direction : Direction) (message : TerminalAckV1) : Verdict :=
  if direction ≠ .platformToWorker ∨ machine.attempt.state ≠ .terminalPending ∨ machine.Revoking ∨
      message.terminalSequence ≠ machine.attempt.terminalSequence ∨
      message.status ≠ machine.attempt.terminalStatus ∨ message.result ≠ machine.attempt.terminalResult ∨
      message.evidenceDigest ≠ machine.attempt.terminalEvidence then .error .conflict machine
  else .ok () (machine.setAttempt { machine.attempt with state := .terminalCommitted })

def applyAttemptTransition (machine : ConformanceMachine) (direction : Direction) (message : AttemptMessage) : Verdict :=
  match message with
  | .leaseOffer message => machine.applyLeaseOffer direction message
  | .leaseClaim _ => machine.applyLeaseClaim direction
  | .leaseAccepted _ => machine.applyLeaseAccepted direction
  | .progress message => machine.applyProgress direction message
  | .cancel message => machine.applyCancel direction message
  | .cancelAck message => machine.applyCancelAck direction message
  | .terminal message => machine.applyTerminal direction message
  | .terminalAck message => machine.applyTerminalAck direction message

/-- The refusal of a worker message at the sequence of a pending terminal. -/
def pendingRefusal (machine : ConformanceMachine) (direction : Direction) (message : AttemptMessage) : Option ErrorCode :=
  match direction, machine.attempt.pendingWorkerTerminal with
  | .workerToPlatform, some pending =>
    if message.sequence = pending.sequence then
      if pending.kind ≠ message.kind ∨ pending.fingerprint ≠ attemptFingerprint message then some .conflict
      else if pending.decision = .discard then some .protocolViolation
      else none
    else none
  | _, _ => none

def record (state : AttemptSequenceState) (sequence : Nat) (fingerprint : Sum256) : AttemptSequenceState :=
  { sequence := sequence, fingerprints := state.fingerprints.insert sequence fingerprint }

/-- The ledger entry of an applied message; a worker message also settles the commitment at its sequence. -/
def recordAttempt (machine : ConformanceMachine) (direction : Direction) (message : AttemptMessage) :
    ConformanceMachine :=
  match direction with
  | .platformToWorker => machine.setAttempt { machine.attempt with
      platform := record machine.attempt.platform message.sequence (attemptFingerprint message) }
  | .workerToPlatform => machine.setAttempt { machine.attempt with
      worker := record machine.attempt.worker message.sequence (attemptFingerprint message)
      pendingWorkerTerminal := machine.attempt.pendingWorkerTerminal.filter
        (fun pending => decide (pending.sequence ≠ message.sequence)) }

def acceptAttempt (machine : ConformanceMachine) (direction : Direction) (message : AttemptMessage)
    (nowUnixMicro : Int) : Verdict :=
  let sender := machine.attemptSender direction
  match machine.pendingRefusal direction message with
  | some code => .error code machine
  | none =>
    if message.sequence ≤ sender.sequence then
      if message.sequence ≠ 0 ∧ sender.fingerprintAt message.sequence = attemptFingerprint message then .ok () machine
      else .error .conflict machine
    else if sender.sequence = maxUint64 ∨ message.sequence ≠ sender.sequence + 1 then
      .error .sequenceMismatch machine
    else if machine.attempt.state ≠ .idle ∧ ¬ sameAttemptBinding message.binding machine.attempt.binding then
      .error .bindingMismatch machine
    else if message.binding.capabilityDigest ≠ machine.capabilityDigest then .error .bindingMismatch machine
    else if attemptRequiresValidLease message = true ∧ nowUnixMicro ≥ message.binding.expiresAtUnixMicro then
      .error .conflict machine
    else match machine.applyAttemptTransition direction message with
      | .error code machine => .error code machine
      | .ok _ machine => .ok () (machine.recordAttempt direction message)

def eraseCommittedAttempt (machine : ConformanceMachine) : Verdict :=
  if machine.attempt.state ≠ .terminalCommitted then .error .invalidTransition machine
  else .ok () (machine.setAttempt {})

/-! ## The reducer -/

def apply (machine : ConformanceMachine) (direction : Direction) (frame : FrameV1) (nowUnixMicro : Int) : Verdict :=
  match frame.payload with
  | .hello message => machine.acceptHello direction message
  | .challenge message => machine.acceptChallenge direction message
  | .attach message => machine.acceptAttach direction frame message
  | .attachAccepted message => machine.acceptAttachAccepted direction message
  | .reconnect message => machine.acceptReconnect direction frame message
  | .reconnectAccepted message => machine.acceptReconnectAccepted direction message
  | .manifest message => machine.acceptManifest direction frame message
  | .heartbeat message => machine.acceptHeartbeat direction message
  | .attempt message => machine.acceptAttempt direction message nowUnixMicro
  | .drain message => machine.acceptDrain direction message
  | .drained message => machine.acceptDrained direction message
  | .revoke message => machine.acceptRevoke direction message
  | .revoked message => machine.acceptRevoked direction message
  | .error _ => .ok () machine

/-- The scope of a frame: it is valid and addressed to this connection over its own channel. -/
def Authorized (machine : ConformanceMachine) (frame : FrameV1) (acceptance : AcceptanceContextV1) : Prop :=
  machine.config.auth.Valid ∧ acceptance.channelBinding = machine.config.auth.channelBinding ∧
    0 < acceptance.nowUnixMicro ∧ frame.Valid ∧ frame.version = machine.config.auth.version ∧
    frame.workerId = machine.config.auth.workerId ∧
    frame.enrollmentGeneration = machine.config.auth.enrollmentGeneration ∧
    frame.connectionGeneration = machine.config.auth.connectionGeneration
deriving Decidable

def accept (machine : ConformanceMachine) (direction : Direction) (frame : FrameV1)
    (acceptance : AcceptanceContextV1) : Verdict :=
  if ¬ machine.Authorized frame acceptance then .error .unauthorized machine
  else if frame.messageId ≠ messageIdV1 direction frame.sequence then .error .protocolViolation machine
  else
    let sender := machine.sender direction
    if frame.sequence = sender.sequence then
      if sender.sequence ≠ 0 ∧ sender.fingerprint = frameFingerprint frame then .ok () machine
      else .error .conflict machine
    else if sender.sequence = maxUint64 ∨ frame.sequence ≠ sender.sequence + 1 ∨ frame.ack < sender.ack ∨
        frame.ack > (machine.peer direction).sequence then .error .sequenceMismatch machine
    else match machine.apply direction frame acceptance.nowUnixMicro with
      | .error code machine => .error code machine
      | .ok _ machine =>
        .ok () (machine.setSender direction ⟨frame.sequence, frame.ack, frameFingerprint frame⟩)

end ConformanceMachine

end Sessionless.Protocol
