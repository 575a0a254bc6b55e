import Sessionless.Protocol.Duplex
import Sessionless.Protocol.Lemmas.Attempt

/-!
# The reconnect of two parties

After a cut both parties begin a reconnect from what they hold. The worker signs a claim of
its own record, the platform answers with a plan, and both take in the frames of the
handshake up to that answer.
-/

namespace Sessionless.Protocol

variable [Crypto]

/-- `Hello`, `Challenge`, the signed `Reconnect` and the platform's answer. -/
def MachineConfig.redialFrames (config : MachineConfig) (reconnect : ReconnectV1) (accepted : ReconnectAcceptedV1) :
    List (Direction × FrameV1) :=
  config.openingFrames reconnect.toNegotiationV1 ++
    [(.workerToPlatform, config.frame .workerToPlatform 2 1 (.reconnect reconnect)),
      (.platformToWorker, config.reconnectAcceptedFrame accepted)]

/-- Both parties have begun a reconnect, and the worker has signed the claim of its record. -/
structure Redial (platform worker : ConformanceMachine) (next : AuthContextV1) (reconnect : ReconnectV1) (now : Int)
    (platform' worker' : ConformanceMachine) : Prop where
  platform : platform.beginReconnect next = .ok () platform'
  worker : worker.beginReconnect next = .ok () worker'
  claim : ∃ unsigned, buildReconnectV1 worker'.reconnectRecord reconnect.toNegotiationV1 = .ok unsigned ∧
    reconnect = { unsigned with signature := reconnect.signature }
  capability : reconnect.capabilityDigest = worker'.capabilityDigest
  opened : ∃ opened, worker'.acceptAll (worker'.config.acceptance now)
    (worker'.config.openingFrames reconnect.toNegotiationV1) = .ok opened
  signed : verifyReconnectV1 worker'.config.auth (worker'.config.frame .workerToPlatform 2 1 (.reconnect reconnect))
    reconnect

/-- The machine holds the platform's attempt; only the worker's sequence may have passed a discarded terminal. -/
def Adopts (platform : ConformanceMachine) (accepted : ReconnectAcceptedV1) (machine : ConformanceMachine) : Prop :=
  machine.attempt.content =
      { platform.attempt.content with workerSequence := accepted.replayPlan.workerAttemptAfter } ∧
    (accepted.replayPlan.workerAttemptAfter = platform.attempt.worker.sequence ∨
      (accepted.replayPlan.terminalDecision = .discard ∧
        platform.attempt.worker.sequence < accepted.replayPlan.workerAttemptAfter))

/-- The platform finds an answer to the worker's claim, and both parties go on from the platform's attempt. -/
def Reconciled (platform : ConformanceMachine) (reconnect : ReconnectV1) (now : Int)
    (platform' worker' : ConformanceMachine) : Prop :=
  reconnectClaimsCompatible worker'.reconnectRecord platform'.reconnectRecord ∧
    ∃ accepted, buildReconnectAcceptedV1 platform'.reconnectRecord worker'.reconnectRecord reconnect.toNegotiationV1 =
        .ok accepted ∧
      ∃ platform'' worker'',
        platform'.acceptAll (platform'.config.acceptance now) (platform'.config.redialFrames reconnect accepted) =
          .ok platform'' ∧
        worker'.acceptAll (worker'.config.acceptance now) (worker'.config.redialFrames reconnect accepted) =
          .ok worker'' ∧
        Adopts platform accepted platform'' ∧ Adopts platform accepted worker''

structure Recoverable (platform worker : AttemptRecord) : Prop where
  offered : worker.state = .idle → platform.state = .idle
  claimed : worker.state = .offered ∨ worker.state = .claimPending →
    platform.state ≠ .cancelRequested ∧ platform.state ≠ .fenced
  code : worker.cancelRevision ≠ 0 → worker.cancelCode = platform.cancelCode
  terminal : worker.state = .terminalPending → worker.terminalStatus = .cancelled →
    platform.state = .cancelRequested → platform.worker.sequence ≠ worker.worker.sequence
  evidence : worker.state = .fenced → platform.state = .fenced → worker.terminalSequence ≠ 0 →
    platform.terminalSequence ≠ 0 →
    worker.terminalResult = platform.terminalResult ∧ worker.terminalEvidence = platform.terminalEvidence

/-! ## Completed reconnects -/

/-- The handshake up to the signed `Manifest`. -/
def MachineConfig.reconnectFrames (config : MachineConfig) (reconnect : ReconnectV1) (accepted : ReconnectAcceptedV1)
    (manifest : ManifestV1) : List (Direction × FrameV1) :=
  config.redialFrames reconnect accepted ++
    [(.workerToPlatform, config.frame .workerToPlatform 3 2 (.manifest manifest))]

/-- The party has begun a reconnect and accepted every frame of it. -/
def Resumes (machine : ConformanceMachine) (next : AuthContextV1) (reconnect : ReconnectV1)
    (accepted : ReconnectAcceptedV1) (manifest : ManifestV1) (now : Int) (resumed : ConformanceMachine) : Prop :=
  ∃ begun, machine.beginReconnect next = .ok () begun ∧
    begun.acceptAll (begun.config.acceptance now) (begun.config.reconnectFrames reconnect accepted manifest) =
      .ok resumed

/-- Both parties have completed a reconnect with the platform's own answer to the claim. -/
structure Completed (platform worker : ConformanceMachine) (next : AuthContextV1) (reconnect : ReconnectV1)
    (accepted : ReconnectAcceptedV1) (manifest : ManifestV1) (now : Int) (platform' worker' : ConformanceMachine) :
    Prop where
  config_eq : worker.config = platform.config
  answer : ∃ begun, platform.beginReconnect next = .ok () begun ∧
    buildReconnectAcceptedV1 begun.reconnectRecord reconnect.claim reconnect.toNegotiationV1 = .ok accepted
  platform : Resumes platform next reconnect accepted manifest now platform'
  worker : Resumes worker next reconnect accepted manifest now worker'

/-- The message, in the next platform envelope, is accepted and leaves the attempt as it is. -/
def Unaffected (platform machine : ConformanceMachine) (message : AttemptMessage) (now : Int) : Prop :=
  ∃ machine', machine.accept .platformToWorker (platform.nextFrame .platformToWorker (.attempt message))
      (machine.config.acceptance now) = .ok () machine' ∧ machine'.attempt = machine.attempt

/-- A platform message that the platform holds in its ledger, beyond what the plan says the worker has. -/
structure Lost (platform : ConformanceMachine) (accepted : ReconnectAcceptedV1) (message : AttemptMessage) : Prop where
  valid : message.Valid
  after : accepted.replayPlan.platformAttemptAfter < message.sequence
  sequence_le : message.sequence ≤ platform.attempt.platform.sequence
  held : platform.attempt.platform.fingerprints.get? message.sequence = some (attemptFingerprint message)

end Sessionless.Protocol
