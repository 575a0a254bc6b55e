import Sessionless.Protocol.Snapshot

/-!
# Durable platform reducers

The reducers of `durable.go` that a store calls inside a transaction: each restores the
machine of a snapshot, derives one frame, applies it and returns the next snapshot.
-/

namespace Sessionless.Protocol

open Lib Crypto

structure LeaseOfferAuthorityV1 where
  runId : String
  attemptId : String
  leaseId : String
  leaseGeneration : Nat
  nowUnixMicro : Int
  expiresAtUnixMicro : Int
  contextDigest : Bytes
  policyDigest : Bytes
deriving DecidableEq, Repr

structure CancelAuthorityV1 where
  revision : Nat
  code : CancelCode
  nowUnixMicro : Int
deriving DecidableEq, Repr

structure DrainAuthorityV1 where
  revision : Nat
  deliveredConnectionGeneration : Nat
  nowUnixMicro : Int
deriving DecidableEq, Repr

variable [Crypto]

/-- The context in which a platform reducer accepts a frame on its own connection. -/
def MachineConfig.acceptance (config : MachineConfig) (nowUnixMicro : Int) : AcceptanceContextV1 :=
  { channelBinding := config.auth.channelBinding, nowUnixMicro := nowUnixMicro }

def ConformanceMachine.acceptAll (machine : ConformanceMachine) (acceptance : AcceptanceContextV1) :
    List (Direction × FrameV1) → Except ErrorCode ConformanceMachine
  | [] => .ok machine
  | (direction, frame) :: rest =>
    match machine.accept direction frame acceptance with
    | .error code _ => .error code
    | .ok _ machine => machine.acceptAll acceptance rest

def NegotiationV1.hello (negotiation : NegotiationV1) : HelloV1 :=
  { offer := negotiation.workerOffer, workerNonce := negotiation.workerNonce }

def NegotiationV1.challenge (negotiation : NegotiationV1) : ChallengeV1 :=
  { workerOffer := negotiation.workerOffer
    platformOffer := negotiation.platformOffer
    selectedVersion := negotiation.selectedVersion
    workerNonce := negotiation.workerNonce
    platformNonce := negotiation.platformNonce }

/-- `Hello` and `Challenge` as the signed handshake frame fixes them. -/
def MachineConfig.openingFrames (config : MachineConfig) (negotiation : NegotiationV1) : List (Direction × FrameV1) :=
  [(.workerToPlatform, config.frame .workerToPlatform 1 0 (.hello negotiation.hello)),
    (.platformToWorker, config.frame .platformToWorker 1 1 (.challenge negotiation.challenge))]

/-! ## Handshakes -/

def buildInitialAttachSnapshotV1 (config : MachineConfig) (signedAttach accepted : FrameV1) :
    Except ErrorCode MachineSnapshotV1 :=
  match signedAttach.payload, accepted.payload with
  | .attach attach, .attachAccepted _ =>
    match newConformanceMachine config with
    | .error _ => .error .unauthorized
    | .ok machine =>
      match machine.acceptAll (config.acceptance 1) (config.openingFrames attach.toNegotiationV1 ++
          [(.workerToPlatform, signedAttach), (.platformToWorker, accepted)]) with
      | .error _ => .error .unauthorized
      | .ok machine => if machine.connection ≠ .attached then .error .conflict else machine.snapshot
  | _, _ => .error .unauthorized

/-- The reply to a signed reconnect, always the second platform envelope. -/
def MachineConfig.reconnectAcceptedFrame (config : MachineConfig) (payload : ReconnectAcceptedV1) : FrameV1 :=
  config.frame .platformToWorker 2 2 (.reconnectAccepted payload)

def buildReconnectAcceptedSnapshotV1 (previousConfig : MachineConfig) (previousSnapshot : MachineSnapshotV1)
    (nextAuth : AuthContextV1) (signedReconnect : FrameV1) : Except ErrorCode (FrameV1 × MachineSnapshotV1) :=
  match signedReconnect.payload with
  | .reconnect reconnect =>
    match restoreConformanceMachine previousConfig previousSnapshot with
    | .error _ => .error .unauthorized
    | .ok machine =>
      match machine.beginReconnect nextAuth with
      | .error _ _ => .error .unauthorized
      | .ok _ machine =>
        let authoritative := machine.reconnectRecord
        let config := machine.config
        match machine.acceptAll (config.acceptance 1)
            (config.openingFrames reconnect.toNegotiationV1 ++ [(.workerToPlatform, signedReconnect)]) with
        | .error _ => .error .unauthorized
        | .ok machine =>
          match buildReconnectAcceptedV1 authoritative reconnect.claim reconnect.toNegotiationV1 with
          | .error _ => .error .unauthorized
          | .ok payload =>
            let accepted := config.reconnectAcceptedFrame payload
            match machine.accept .platformToWorker accepted (config.acceptance 1) with
            | .error _ _ => .error .unauthorized
            | .ok _ machine =>
              match machine.snapshot with
              | .error _ => .error .conflict
              | .ok post => if post.connection ≠ .attached then .error .conflict else .ok (accepted, post)
  | _ => .error .unauthorized

/-- Rebuilds the accepted frame from the committed snapshot. The authoritative record is
made from the persisted reconnect state, without a pending terminal. -/
def replayReconnectAcceptedV1 (config : MachineConfig) (post : MachineSnapshotV1) (signedReconnect : FrameV1) :
    Except ErrorCode FrameV1 :=
  match restoreConformanceMachine config post, post.reconnect, signedReconnect.payload with
  | .ok machine, some persisted, .reconnect reconnect =>
    match persisted.claim, post.challenge with
    | some persistedClaim, some challenge =>
      if post.connection ≠ .attached ∨ ¬ verifyReconnectV1 config.auth signedReconnect reconnect ∨
          ¬ reconnect.claim.Valid ∨ reconnect.claim.digest ≠ persistedClaim.digest ∨ post.hello = none ∨
          ¬ negotiationMatchesChallenge reconnect.toNegotiationV1 challenge ∨
          reconnect.capabilityDigest ≠ post.capabilityDigest then .error .unauthorized
      else
        match buildReconnectAcceptedV1 (persisted.authoritative none) reconnect.claim reconnect.toNegotiationV1 with
        | .error _ => .error .unauthorized
        | .ok payload =>
          let accepted := config.reconnectAcceptedFrame payload
          match machine.accept .platformToWorker accepted (config.acceptance 1) with
          | .error _ _ => .error .unauthorized
          | .ok _ machine =>
            match machine.snapshot with
            | .error _ => .error .conflict
            | .ok replayed => if replayed.digest ≠ post.digest then .error .conflict else .ok accepted
    | _, _ => .error .unauthorized
  | _, _, _ => .error .unauthorized

def applyMachineFrameV1 (config : MachineConfig) (snapshot : MachineSnapshotV1) (direction : Direction)
    (frame : FrameV1) (nowUnixMicro : Int) : Except ErrorCode MachineSnapshotV1 :=
  match restoreConformanceMachine config snapshot with
  | .error code => .error code
  | .ok machine =>
    match machine.accept direction frame (config.acceptance nowUnixMicro) with
    | .error code _ => .error code
    | .ok _ machine => machine.snapshot

/-! ## Platform frames -/

/-- The common end of the platform reducers: apply the derived frame and persist the result. -/
def commitFrame (config : MachineConfig) (machine : ConformanceMachine) (frame : FrameV1) (nowUnixMicro : Int) :
    Except ErrorCode (FrameV1 × MachineSnapshotV1) :=
  if ¬ frame.Valid then .error .conflict
  else match machine.accept .platformToWorker frame (config.acceptance nowUnixMicro) with
    | .error _ _ => .error .conflict
    | .ok _ machine =>
      match machine.snapshot with
      | .error _ => .error .conflict
      | .ok post => .ok (frame, post)

/-- The next platform envelope, acknowledging everything received. -/
def nextPlatformFrame (config : MachineConfig) (machine : ConformanceMachine) (payload : Payload) : FrameV1 :=
  config.frame .platformToWorker (machine.platform.sequence + 1) machine.worker.sequence payload

/-- The current platform envelope, rebuilt around a payload. -/
def currentPlatformFrame (config : MachineConfig) (machine : ConformanceMachine) (payload : Payload) : FrameV1 :=
  config.frame .platformToWorker machine.platform.sequence machine.platform.ack payload

/-- The lowercase hexadecimal digest that stands for the numeric fence on the wire. -/
def opaqueLeaseFenceTokenV1 (auth : AuthContextV1) (authority : LeaseOfferAuthorityV1) : String :=
  hex (sha256 (utf8 "sessionless.attached-worker.fence.v1\x00" ++
    [auth.tenantId, auth.ownerUserId, auth.workerId, authority.runId, authority.attemptId, authority.leaseId].flatMap
      (fun value => uint64 (utf8 value).length ++ utf8 value) ++ uint64 authority.leaseGeneration)).val

def LeaseOfferAuthorityV1.binding (authority : LeaseOfferAuthorityV1) (auth : AuthContextV1) (capabilityDigest : Bytes) :
    AttemptBindingV1 :=
  { runId := authority.runId
    attemptId := authority.attemptId
    leaseId := authority.leaseId
    leaseGeneration := authority.leaseGeneration
    fenceToken := opaqueLeaseFenceTokenV1 auth authority
    expiresAtUnixMicro := authority.expiresAtUnixMicro
    contextDigest := authority.contextDigest
    capabilityDigest := capabilityDigest
    policyDigest := authority.policyDigest }

def buildLeaseOfferTransitionV1 (config : MachineConfig) (snapshot : MachineSnapshotV1)
    (authority : LeaseOfferAuthorityV1) : Except ErrorCode (FrameV1 × MachineSnapshotV1) :=
  match restoreConformanceMachine config snapshot with
  | .error _ => .error .conflict
  | .ok machine =>
    if machine.connection ≠ .ready ∨ machine.attempt.state ≠ .idle ∨ authority.nowUnixMicro ≤ 0 ∨
        authority.expiresAtUnixMicro ≤ authority.nowUnixMicro ∨ machine.platform.sequence = maxUint64 ∨
        machine.attempt.platform.sequence = maxUint64 then .error .conflict
    else commitFrame config machine (nextPlatformFrame config machine (.attempt (.leaseOffer {
      binding := authority.binding config.auth machine.capabilityDigest
      attemptSequence := machine.attempt.platform.sequence + 1 }))) authority.nowUnixMicro

/-- The persisted frame is handed out again only if both its fingerprints are the recorded ones. -/
def exactPersistedPlatformAttemptFrame (machine : ConformanceMachine) (frame : FrameV1) (message : AttemptMessage) :
    Prop :=
  frame.Valid ∧ frame.sequence ≠ 0 ∧ machine.platform.fingerprint = frameFingerprint frame ∧
    machine.attempt.platform.fingerprints.get? message.sequence = some (attemptFingerprint message)
deriving Decidable

def replayPersisted (config : MachineConfig) (machine : ConformanceMachine) (snapshot : MachineSnapshotV1)
    (message : AttemptMessage) : Except ErrorCode (FrameV1 × MachineSnapshotV1) :=
  let frame := currentPlatformFrame config machine (.attempt message)
  if exactPersistedPlatformAttemptFrame machine frame message then .ok (frame, snapshot) else .error .conflict

def cancelMessage (machine : ConformanceMachine) (attemptSequence cancelRevision : Nat) (code : CancelCode) :
    AttemptMessage :=
  .cancel {
    binding := machine.attempt.binding
    attemptSequence := attemptSequence
    cancelRevision := cancelRevision
    code := code }

def leaseAcceptedMessage (machine : ConformanceMachine) (attemptSequence : Nat) : AttemptMessage :=
  .leaseAccepted { binding := machine.attempt.binding, attemptSequence := attemptSequence }

def terminalAckMessage (machine : ConformanceMachine) (attemptSequence : Nat) : AttemptMessage :=
  .terminalAck {
    binding := machine.attempt.binding
    attemptSequence := attemptSequence
    terminalSequence := machine.attempt.terminalSequence
    status := machine.attempt.terminalStatus
    result := machine.attempt.terminalResult
    evidenceDigest := machine.attempt.terminalEvidence }

def buildCancelTransitionV1 (config : MachineConfig) (snapshot : MachineSnapshotV1) (authority : CancelAuthorityV1) :
    Except ErrorCode (FrameV1 × MachineSnapshotV1) :=
  match restoreConformanceMachine config snapshot with
  | .error _ => .error .conflict
  | .ok machine =>
    if authority.revision ≠ 1 ∨ (authority.code ≠ .requested ∧ authority.code ≠ .fenced) ∨
        authority.nowUnixMicro ≤ 0 ∨ machine.platform.sequence = maxUint64 ∨
        machine.attempt.platform.sequence = maxUint64 then .error .conflict
    else if machine.attempt.cancelRevision ≠ 0 then
      if machine.attempt.cancelRevision ≠ authority.revision ∨ machine.attempt.cancelCode ≠ authority.code then
        .error .conflict
      else replayPersisted config machine snapshot (cancelMessage machine machine.attempt.platform.sequence
        machine.attempt.cancelRevision machine.attempt.cancelCode)
    else commitFrame config machine (nextPlatformFrame config machine (.attempt (cancelMessage machine
      (machine.attempt.platform.sequence + 1) authority.revision authority.code))) authority.nowUnixMicro

def buildLeaseAcceptedTransitionV1 (config : MachineConfig) (snapshot : MachineSnapshotV1) (nowUnixMicro : Int) :
    Except ErrorCode (FrameV1 × MachineSnapshotV1) :=
  match restoreConformanceMachine config snapshot with
  | .error _ => .error .conflict
  | .ok machine =>
    if nowUnixMicro ≤ 0 ∨ machine.platform.sequence = maxUint64 ∨ machine.attempt.platform.sequence = maxUint64 then
      .error .conflict
    else if machine.attempt.state = .claimed then
      replayPersisted config machine snapshot (leaseAcceptedMessage machine machine.attempt.platform.sequence)
    else commitFrame config machine (nextPlatformFrame config machine (.attempt (leaseAcceptedMessage machine
      (machine.attempt.platform.sequence + 1)))) nowUnixMicro

def buildTerminalAckTransitionV1 (config : MachineConfig) (snapshot : MachineSnapshotV1) (nowUnixMicro : Int) :
    Except ErrorCode (FrameV1 × MachineSnapshotV1) :=
  match restoreConformanceMachine config snapshot with
  | .error _ => .error .conflict
  | .ok machine =>
    if nowUnixMicro ≤ 0 ∨ machine.platform.sequence = maxUint64 ∨ machine.attempt.platform.sequence = maxUint64 then
      .error .conflict
    else if machine.attempt.state = .terminalCommitted then
      replayPersisted config machine snapshot (terminalAckMessage machine machine.attempt.platform.sequence)
    else commitFrame config machine (nextPlatformFrame config machine (.attempt (terminalAckMessage machine
      (machine.attempt.platform.sequence + 1)))) nowUnixMicro

/-- The persisted drain frame, if the platform envelope is still the one that carried it. -/
def exactPersistedDrainFrame (config : MachineConfig) (machine : ConformanceMachine) : Option FrameV1 :=
  let frame := currentPlatformFrame config machine (.drain ⟨machine.drainRevision⟩)
  if ¬ frame.Valid ∨ frame.sequence = 0 ∨ machine.platform.fingerprint ≠ frameFingerprint frame then none
  else some frame

def buildDrainTransitionV1 (config : MachineConfig) (snapshot : MachineSnapshotV1) (authority : DrainAuthorityV1) :
    Except ErrorCode (FrameV1 × MachineSnapshotV1) :=
  match restoreConformanceMachine config snapshot with
  | .error _ => .error .conflict
  | .ok machine =>
    if authority.revision = 0 ∨ authority.nowUnixMicro ≤ 0 ∨ machine.platform.sequence = maxUint64 then
      .error .conflict
    else if machine.connection = .draining ∧
        authority.deliveredConnectionGeneration = config.auth.connectionGeneration then
      if machine.drainRevision ≠ authority.revision then .error .conflict
      else match exactPersistedDrainFrame config machine with
        | none => .error .conflict
        | some frame => .ok (frame, snapshot)
    else if ¬ (machine.connection = .ready ∧ authority.deliveredConnectionGeneration = 0) ∧
        ¬ (machine.connection = .draining ∧ machine.drainRevision = authority.revision ∧
          authority.deliveredConnectionGeneration > 0 ∧
          authority.deliveredConnectionGeneration < config.auth.connectionGeneration) then .error .conflict
    else commitFrame config machine (nextPlatformFrame config machine (.drain ⟨authority.revision⟩))
      authority.nowUnixMicro

/-! ## Retirement -/

def retireCommittedAttemptV1 (config : MachineConfig) (snapshot : MachineSnapshotV1) : Except ErrorCode MachineSnapshotV1 :=
  match restoreConformanceMachine config snapshot with
  | .error _ => .error .conflict
  | .ok machine =>
    if machine.attempt.state ≠ .terminalCommitted ∨ machine.worker.ack < machine.platform.sequence then
      .error .conflict
    else match machine.eraseCommittedAttempt with
      | .error _ _ => .error .conflict
      | .ok _ machine =>
        match machine.snapshot with
        | .error _ => .error .conflict
        | .ok post => .ok post

def retirePreClaimCancelledAttemptV1 (config : MachineConfig) (snapshot : MachineSnapshotV1) :
    Except ErrorCode MachineSnapshotV1 :=
  match restoreConformanceMachine config snapshot with
  | .error _ => .error .conflict
  | .ok machine =>
    if machine.attempt.state ≠ .cancelAcked then .error .conflict
    else match (machine.setAttempt {}).snapshot with
      | .error _ => .error .conflict
      | .ok post => .ok post

end Sessionless.Protocol
