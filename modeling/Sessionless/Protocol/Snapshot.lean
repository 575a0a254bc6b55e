import Sessionless.Protocol.Machine

/-!
# Durable snapshots

The persistence form of a conformance machine (`durable.go`): what `Snapshot` writes, the
conditions `validateMachineSnapshotContent` puts on it, and `RestoreConformanceMachine`.
-/

namespace Sessionless.Protocol

open Lib Crypto

structure MachineEnvelopeSnapshotV1 where
  sequence : Nat
  ack : Nat
  fingerprint : Bytes
deriving DecidableEq, Repr

structure MachineAttemptFingerprintV1 where
  sequence : Nat
  fingerprint : Bytes
deriving DecidableEq, Repr

structure MachineAttemptDirectionSnapshotV1 where
  sequence : Nat
  fingerprints : List MachineAttemptFingerprintV1
deriving DecidableEq, Repr

structure MachinePendingTerminalSnapshotV1 where
  kind : MessageKind
  sequence : Nat
  fingerprint : Bytes
  decision : ReconnectTerminalDecision
  terminal : TerminalV1
deriving DecidableEq, Repr

structure MachineAttemptSnapshotV1 where
  summary : AttemptSummaryV1
  platform : MachineAttemptDirectionSnapshotV1
  worker : MachineAttemptDirectionSnapshotV1
  pendingWorkerTerminal : Option MachinePendingTerminalSnapshotV1
deriving DecidableEq, Repr

structure MachineReconnectStateV1 where
  target : ConnectionState
  previousConnectionGeneration : Nat
  watermarks : ConnectionWatermarksV1
  attempt : AttemptSummaryV1
  claim : Option ReconnectSnapshotV1
deriving DecidableEq, Repr

structure MachineSnapshotV1 where
  version : Nat
  configurationDigest : Bytes
  connection : ConnectionState
  platform : MachineEnvelopeSnapshotV1
  worker : MachineEnvelopeSnapshotV1
  hello : Option HelloV1
  challenge : Option ChallengeV1
  capabilityDigest : Bytes
  manifest : Option CapabilityManifestV1
  attempt : MachineAttemptSnapshotV1
  drainRevision : Nat
  revoke : Option RevokeV1
  reconnect : Option MachineReconnectStateV1
  digest : Bytes
deriving DecidableEq, Repr

def machineSnapshotVersionV1 : Nat := 1
def machineSnapshotDomainV1 : String := "sessionless.attached-worker.machine-snapshot.v1"
def machineConfigDomainV1 : String := "sessionless.attached-worker.machine-config.v1"

variable [Crypto]

/-! ## Digests -/

def machineConfigDigestV1 (config : MachineConfig) : Option Bytes :=
  if config.Valid then
    some (sha256 (field (utf8 machineConfigDomainV1) ++ field (utf8 config.auth.tenantId) ++
      field (utf8 config.auth.ownerUserId) ++ field (utf8 config.auth.workerId) ++
      field config.auth.identityPublicKey ++ uint64 config.auth.enrollmentGeneration ++
      uint64 config.auth.connectionGeneration ++ uint32 config.auth.version ++ field config.auth.channelBinding ++
      config.workerOffer.canonical ++ config.platformOffer.canonical ++
      uint32 config.implementedVersions.length ++ config.implementedVersions.flatMap uint32)).val
  else none

/-- A presence flag, then the encoding of the value if there is one. -/
def optional {α : Type} (canonical : α → Bytes) : Option α → Bytes
  | none => uint32 0
  | some value => uint32 1 ++ canonical value

def MachineEnvelopeSnapshotV1.canonical (snapshot : MachineEnvelopeSnapshotV1) : Bytes :=
  uint64 snapshot.sequence ++ uint64 snapshot.ack ++ field snapshot.fingerprint

def MachineAttemptDirectionSnapshotV1.canonical (snapshot : MachineAttemptDirectionSnapshotV1) : Bytes :=
  uint64 snapshot.sequence ++ uint32 snapshot.fingerprints.length ++
    snapshot.fingerprints.flatMap (fun item => uint64 item.sequence ++ field item.fingerprint)

def canonicalMachineSnapshotBytesUnchecked (snapshot : MachineSnapshotV1) : Bytes :=
  field (utf8 machineSnapshotDomainV1) ++ uint32 snapshot.version ++ field snapshot.configurationDigest ++
    field (utf8 snapshot.connection.text) ++ snapshot.platform.canonical ++ snapshot.worker.canonical ++
    optional (fun hello : HelloV1 => hello.offer.canonical ++ field hello.workerNonce) snapshot.hello ++
    optional (fun challenge : ChallengeV1 => challenge.workerOffer.canonical ++ challenge.platformOffer.canonical ++
      uint32 challenge.selectedVersion ++ field challenge.workerNonce ++ field challenge.platformNonce)
      snapshot.challenge ++
    field snapshot.capabilityDigest ++
    optional (fun manifest : CapabilityManifestV1 => field (if manifest.Valid then manifest.canonical else []))
      snapshot.manifest ++
    field snapshot.attempt.summary.digest ++ snapshot.attempt.platform.canonical ++
    snapshot.attempt.worker.canonical ++
    optional (fun pending : MachinePendingTerminalSnapshotV1 => field (utf8 pending.kind.text) ++
      uint64 pending.sequence ++ field pending.fingerprint ++ field (utf8 pending.decision.text))
      snapshot.attempt.pendingWorkerTerminal ++
    uint64 snapshot.drainRevision ++
    optional (fun revoke : RevokeV1 => uint64 revoke.revision ++ uint64 revoke.nextEnrollmentGeneration ++
      uint64 revoke.nextConnectionGeneration) snapshot.revoke ++
    optional (fun reconnect : MachineReconnectStateV1 => field (utf8 reconnect.target.text) ++
      uint64 reconnect.previousConnectionGeneration ++ reconnect.watermarks.canonical ++
      field reconnect.attempt.digest ++
      optional (fun claim : ReconnectSnapshotV1 => field claim.digest) reconnect.claim) snapshot.reconnect

def machineSnapshotDigestUnchecked (snapshot : MachineSnapshotV1) : Bytes :=
  (sha256 (canonicalMachineSnapshotBytesUnchecked snapshot)).val

/-! ## Validation -/

def validateEnvelopeSnapshot (snapshot : MachineEnvelopeSnapshotV1) : Prop :=
  if snapshot.sequence = 0 then snapshot.ack = 0 ∧ snapshot.fingerprint = []
  else validBytes snapshot.fingerprint 32
deriving Decidable

def validateAttemptDirectionSnapshot (snapshot : MachineAttemptDirectionSnapshotV1) : Prop :=
  snapshot.sequence ≤ maxAttemptMessages ∧ snapshot.fingerprints.length ≤ maxAttemptMessages ∧
    (∀ item ∈ snapshot.fingerprints,
      item.sequence ≠ 0 ∧ item.sequence ≤ snapshot.sequence ∧ validBytes item.fingerprint 32) ∧
    (snapshot.fingerprints.map MachineAttemptFingerprintV1.sequence).IsChain (· < ·)
deriving Decidable

def validatePendingTerminalSnapshot (pending : MachinePendingTerminalSnapshotV1) (attempt : MachineAttemptSnapshotV1) :
    Prop :=
  pending.kind = .terminal ∧ pending.terminal.Valid ∧ pending.sequence ≠ 0 ∧
    pending.sequence = pending.terminal.attemptSequence ∧
    (pending.decision = .replay ∨ pending.decision = .discard) ∧
    sameAttemptBinding pending.terminal.binding attempt.summary.binding ∧ validBytes pending.fingerprint 32 ∧
    (attemptFingerprint (.terminal pending.terminal)).val = pending.fingerprint ∧
    ¬ (pending.decision = .replay ∧ pending.sequence ≤ attempt.worker.sequence) ∧
    ¬ (pending.decision = .discard ∧ pending.sequence > attempt.worker.sequence)
deriving Decidable

/-- The authoritative record a persisted reconnect state stands for. -/
def MachineReconnectStateV1.authoritative (reconnect : MachineReconnectStateV1)
    (pending : Option MachinePendingTerminalSnapshotV1) : ReconnectSnapshotV1 :=
  sealReconnectSnapshot {
    previousConnectionGeneration := reconnect.previousConnectionGeneration
    watermarks := reconnect.watermarks
    attempt := reconnect.attempt
    pendingTerminalReplay := pending.map MachinePendingTerminalSnapshotV1.terminal }

def validateMachineReconnectState (reconnect : MachineReconnectStateV1)
    (pending : Option MachinePendingTerminalSnapshotV1) : Prop :=
  (reconnect.target = .ready ∨ reconnect.target = .draining) ∧ reconnect.previousConnectionGeneration ≠ 0 ∧
    reconnect.watermarks.Valid ∧ reconnect.attempt.Valid ∧
    ∀ claim ∈ reconnect.claim, claim.Valid ∧
      claim.previousConnectionGeneration = reconnect.previousConnectionGeneration ∧
      reconnectClaimsCompatible claim (reconnect.authoritative pending)
deriving Decidable

namespace MachineSnapshotV1

def HeaderValid (snapshot : MachineSnapshotV1) : Prop :=
  snapshot.version = machineSnapshotVersionV1 ∧ validBytes snapshot.configurationDigest 32 ∧
    validateEnvelopeSnapshot snapshot.platform ∧ validateEnvelopeSnapshot snapshot.worker ∧
    snapshot.platform.ack ≤ snapshot.worker.sequence ∧ snapshot.worker.ack ≤ snapshot.platform.sequence ∧
    snapshot.attempt.summary.Valid ∧ validateAttemptDirectionSnapshot snapshot.attempt.platform ∧
    validateAttemptDirectionSnapshot snapshot.attempt.worker ∧
    snapshot.attempt.summary.platformSequence = snapshot.attempt.platform.sequence ∧
    snapshot.attempt.summary.workerSequence = snapshot.attempt.worker.sequence
deriving Decidable

/-- The handshake records that are present are valid and belong together. -/
def RecordsValid (snapshot : MachineSnapshotV1) : Prop :=
  (∀ hello ∈ snapshot.hello, hello.Valid) ∧ (∀ challenge ∈ snapshot.challenge, challenge.Valid) ∧
    (∀ manifest ∈ snapshot.manifest, manifest.Valid) ∧ (∀ revoke ∈ snapshot.revoke, revoke.Valid) ∧
    (∀ challenge ∈ snapshot.challenge, snapshot.hello ≠ none ∧ ∀ hello ∈ snapshot.hello,
      sameVersionOffer challenge.workerOffer hello.offer ∧ challenge.workerNonce = hello.workerNonce) ∧
    (∀ manifest ∈ snapshot.manifest, manifestDigestV1 manifest = some snapshot.capabilityDigest) ∧
    (snapshot.capabilityDigest.length ≠ 0 → validBytes snapshot.capabilityDigest 32) ∧
    (snapshot.attempt.summary.state ≠ .idle → snapshot.manifest ≠ none ∧
      snapshot.attempt.summary.binding.capabilityDigest = snapshot.capabilityDigest) ∧
    (∀ pending ∈ snapshot.attempt.pendingWorkerTerminal, validatePendingTerminalSnapshot pending snapshot.attempt) ∧
    (∀ reconnect ∈ snapshot.reconnect,
      validateMachineReconnectState reconnect snapshot.attempt.pendingWorkerTerminal) ∧
    (snapshot.revoke ≠ none ↔ snapshot.connection = .revoking ∨ snapshot.connection = .revoked) ∧
    (snapshot.connection = .draining ∨ snapshot.connection = .drained → snapshot.drainRevision ≠ 0)
deriving Decidable

/-- Both handshake records, and a capability digest of the right size. -/
def Negotiated (snapshot : MachineSnapshotV1) : Prop :=
  snapshot.hello ≠ none ∧ snapshot.challenge ≠ none ∧ validBytes snapshot.capabilityDigest 32
deriving Decidable

/-- The switch over the connection state; the case before it covers a fresh machine. -/
def ConnectionValid (snapshot : MachineSnapshotV1) : ConnectionState → Prop
  | .unattached => snapshot.reconnect = none →
      snapshot.platform.sequence = 0 ∧ snapshot.worker.sequence = 0 ∧ snapshot.hello = none ∧
        snapshot.challenge = none ∧ snapshot.capabilityDigest = [] ∧ snapshot.manifest = none ∧
        snapshot.attempt.summary.state = .idle ∧ snapshot.drainRevision = 0 ∧ snapshot.revoke = none
  | .hello => snapshot.hello ≠ none ∧ snapshot.challenge = none
  | .challenged => snapshot.hello ≠ none ∧ snapshot.challenge ≠ none
  | .attachPending => snapshot.reconnect = none ∧ snapshot.Negotiated ∧ snapshot.manifest = none
  | .reconnectPending => (∃ reconnect ∈ snapshot.reconnect, reconnect.claim ≠ none) ∧ snapshot.Negotiated ∧
      snapshot.manifest ≠ none
  | .attached => snapshot.Negotiated ∧ (snapshot.reconnect = none ↔ snapshot.manifest = none)
  | .ready | .drained => snapshot.reconnect = none ∧ snapshot.Negotiated ∧ snapshot.manifest ≠ none
  | .draining => snapshot.Negotiated ∧ snapshot.manifest ≠ none ∧
      ∀ reconnect ∈ snapshot.reconnect, reconnect.target = .draining ∧ reconnect.claim ≠ none
  | .revoking | .revoked => True

instance (snapshot : MachineSnapshotV1) (state : ConnectionState) : Decidable (snapshot.ConnectionValid state) :=
  match state with
  | .unattached => inferInstanceAs (Decidable (snapshot.reconnect = none →
      snapshot.platform.sequence = 0 ∧ snapshot.worker.sequence = 0 ∧ snapshot.hello = none ∧
        snapshot.challenge = none ∧ snapshot.capabilityDigest = [] ∧ snapshot.manifest = none ∧
        snapshot.attempt.summary.state = .idle ∧ snapshot.drainRevision = 0 ∧ snapshot.revoke = none))
  | .hello => inferInstanceAs (Decidable (snapshot.hello ≠ none ∧ snapshot.challenge = none))
  | .challenged => inferInstanceAs (Decidable (snapshot.hello ≠ none ∧ snapshot.challenge ≠ none))
  | .attachPending =>
    inferInstanceAs (Decidable (snapshot.reconnect = none ∧ snapshot.Negotiated ∧ snapshot.manifest = none))
  | .reconnectPending => inferInstanceAs (Decidable ((∃ reconnect ∈ snapshot.reconnect, reconnect.claim ≠ none) ∧
      snapshot.Negotiated ∧ snapshot.manifest ≠ none))
  | .attached =>
    inferInstanceAs (Decidable (snapshot.Negotiated ∧ (snapshot.reconnect = none ↔ snapshot.manifest = none)))
  | .ready | .drained =>
    inferInstanceAs (Decidable (snapshot.reconnect = none ∧ snapshot.Negotiated ∧ snapshot.manifest ≠ none))
  | .draining => inferInstanceAs (Decidable (snapshot.Negotiated ∧ snapshot.manifest ≠ none ∧
      ∀ reconnect ∈ snapshot.reconnect, reconnect.target = .draining ∧ reconnect.claim ≠ none))
  | .revoking | .revoked => inferInstanceAs (Decidable True)

/-- `validateMachineSnapshotContent`. -/
def ContentValid (snapshot : MachineSnapshotV1) : Prop :=
  snapshot.HeaderValid ∧ snapshot.RecordsValid ∧ snapshot.ConnectionValid snapshot.connection
deriving Decidable

/-- `MachineSnapshotV1.Validate`. -/
def Valid (snapshot : MachineSnapshotV1) : Prop :=
  snapshot.ContentValid ∧ validBytes snapshot.digest 32 ∧ snapshot.digest = machineSnapshotDigestUnchecked snapshot
deriving Decidable

/-- `validateMachineSnapshotAgainstConfig`. -/
def ValidAgainst (snapshot : MachineSnapshotV1) (config : MachineConfig) : Prop :=
  (∀ hello ∈ snapshot.hello, sameVersionOffer hello.offer config.workerOffer) ∧
    (∀ challenge ∈ snapshot.challenge, sameVersionOffer challenge.workerOffer config.workerOffer ∧
      sameVersionOffer challenge.platformOffer config.platformOffer ∧
      challenge.selectedVersion = config.auth.version ∧ snapshot.hello ≠ none ∧
      ∀ hello ∈ snapshot.hello, challenge.workerNonce = hello.workerNonce) ∧
    (∀ manifest ∈ snapshot.manifest, manifest.workerId = config.auth.workerId ∧
      manifest.enrollmentGeneration = config.auth.enrollmentGeneration ∧
      sameVersionOffer manifest.protocolOffer config.workerOffer ∧
      manifestDigestV1 manifest = some snapshot.capabilityDigest) ∧
    (∀ revoke ∈ snapshot.revoke, config.auth.enrollmentGeneration ≠ maxUint64 ∧
      config.auth.connectionGeneration ≠ maxUint64 ∧
      revoke.nextEnrollmentGeneration = config.auth.enrollmentGeneration + 1 ∧
      revoke.nextConnectionGeneration = config.auth.connectionGeneration + 1) ∧
    (∀ reconnect ∈ snapshot.reconnect, config.auth.connectionGeneration ≠ 0 ∧
      reconnect.previousConnectionGeneration ≠ maxUint64 ∧
      reconnect.previousConnectionGeneration + 1 = config.auth.connectionGeneration)
deriving Decidable

end MachineSnapshotV1

/-! ## Writing a snapshot -/

def snapshotEnvelope (state : SequenceState) : MachineEnvelopeSnapshotV1 :=
  { sequence := state.sequence
    ack := state.ack
    fingerprint := if state.sequence ≠ 0 then state.fingerprint.val else [] }

/-- The ledger is kept in key order, which is the order the source sorts it into. -/
def snapshotAttemptDirection (state : AttemptSequenceState) : MachineAttemptDirectionSnapshotV1 :=
  { sequence := state.sequence
    fingerprints := state.fingerprints.entries.map (fun entry => ⟨entry.1, entry.2.val⟩) }

def TerminalReplayCommitment.snapshot (commitment : TerminalReplayCommitment) : MachinePendingTerminalSnapshotV1 :=
  { kind := commitment.kind
    sequence := commitment.sequence
    fingerprint := commitment.fingerprint.val
    decision := commitment.decision
    terminal := commitment.terminal }

namespace ConformanceMachine

def snapshotReconnect (machine : ConformanceMachine) : Option MachineReconnectStateV1 :=
  if machine.reconnecting = true ∨ machine.drainReenvelopePending = true then
    some {
      target := machine.reconnectTarget
      previousConnectionGeneration := machine.previousConnectionGeneration
      watermarks := machine.reconnectWatermarks
      attempt := machine.reconnectAttempt
      claim := if machine.reconnectClaim.Valid then some machine.reconnectClaim else none }
  else none

/-- The content `Snapshot` collects, before it is checked and sealed. -/
def snapshotContent (machine : ConformanceMachine) (configurationDigest : Bytes) : MachineSnapshotV1 :=
  { version := machineSnapshotVersionV1
    configurationDigest := configurationDigest
    connection := machine.connection
    platform := snapshotEnvelope machine.platform
    worker := snapshotEnvelope machine.worker
    hello := if machine.hello.Valid then some machine.hello else none
    challenge := if machine.challenge.Valid then some machine.challenge else none
    capabilityDigest := machine.capabilityDigest
    manifest := if machine.manifest.Valid then some machine.manifest else none
    attempt := {
      summary := machine.currentAttemptSummary
      platform := snapshotAttemptDirection machine.attempt.platform
      worker := snapshotAttemptDirection machine.attempt.worker
      pendingWorkerTerminal := machine.attempt.pendingWorkerTerminal.map TerminalReplayCommitment.snapshot }
    drainRevision := machine.drainRevision
    revoke := if machine.revoke.Valid then some machine.revoke else none
    reconnect := machine.snapshotReconnect
    digest := [] }

def snapshot (machine : ConformanceMachine) : Except ErrorCode MachineSnapshotV1 :=
  match machineConfigDigestV1 machine.config with
  | none => .error .unauthorized
  | some configurationDigest =>
    let content := machine.snapshotContent configurationDigest
    if content.ContentValid then .ok { content with digest := machineSnapshotDigestUnchecked content }
    else .error .malformedFrame

end ConformanceMachine

/-! ## Restoring a machine -/

def restoreEnvelope (snapshot : MachineEnvelopeSnapshotV1) : SequenceState :=
  { sequence := snapshot.sequence, ack := snapshot.ack, fingerprint := Sum256.ofBytes snapshot.fingerprint }

def restoreAttemptDirection (snapshot : MachineAttemptDirectionSnapshotV1) : AttemptSequenceState :=
  { sequence := snapshot.sequence
    fingerprints := OrderedMap.ofList (snapshot.fingerprints.map fun item =>
      (item.sequence, Sum256.ofBytes item.fingerprint)) }

def MachinePendingTerminalSnapshotV1.restore (pending : MachinePendingTerminalSnapshotV1) : TerminalReplayCommitment :=
  { kind := pending.kind
    sequence := pending.sequence
    fingerprint := Sum256.ofBytes pending.fingerprint
    decision := pending.decision
    terminal := pending.terminal }

def restoreAttempt (snapshot : MachineAttemptSnapshotV1) : AttemptRecord :=
  { state := snapshot.summary.state
    binding := snapshot.summary.binding
    platform := restoreAttemptDirection snapshot.platform
    worker := restoreAttemptDirection snapshot.worker
    progressSequence := snapshot.summary.progressSequence
    cancelRevision := snapshot.summary.cancelRevision
    cancelCode := snapshot.summary.cancelCode
    terminalSequence := snapshot.summary.terminalSequence
    terminalStatus := snapshot.summary.terminalStatus
    terminalResult := snapshot.summary.terminalResult
    terminalEvidence := snapshot.summary.terminalEvidenceDigest
    pendingWorkerTerminal := snapshot.pendingWorkerTerminal.map MachinePendingTerminalSnapshotV1.restore }

/-- The fields `RestoreConformanceMachine` sets on a new machine. The one `Reconnect` record
stands for two flags: which of them depends on the connection state. -/
def restoreFields (config : MachineConfig) (snapshot : MachineSnapshotV1) : ConformanceMachine :=
  let machine : ConformanceMachine := {
    config := config
    connection := snapshot.connection
    platform := restoreEnvelope snapshot.platform
    worker := restoreEnvelope snapshot.worker
    hello := snapshot.hello.getD {}
    challenge := snapshot.challenge.getD {}
    capabilityDigest := snapshot.capabilityDigest
    manifest := snapshot.manifest.getD {}
    attempt := restoreAttempt snapshot.attempt
    drainRevision := snapshot.drainRevision
    revoke := snapshot.revoke.getD {} }
  match snapshot.reconnect with
  | none => machine
  | some reconnect => { machine with
      reconnecting := decide (snapshot.connection ≠ .draining)
      drainReenvelopePending := decide (snapshot.connection = .draining)
      reconnectTarget := reconnect.target
      previousConnectionGeneration := reconnect.previousConnectionGeneration
      reconnectWatermarks := reconnect.watermarks
      reconnectAttempt := reconnect.attempt
      reconnectClaim := reconnect.claim.getD {} }

def restoreConformanceMachine (config : MachineConfig) (snapshot : MachineSnapshotV1) :
    Except ErrorCode ConformanceMachine :=
  if ¬ snapshot.Valid then .error .conflict
  else if machineConfigDigestV1 config ≠ some snapshot.configurationDigest then .error .unauthorized
  else match newConformanceMachine config with
    | .error _ => .error .unauthorized
    | .ok _ =>
      if ¬ snapshot.ValidAgainst config then .error .unauthorized
      else
        let machine := restoreFields config snapshot
        match machine.snapshot with
        | .error _ => .error .conflict
        | .ok restored => if restored.digest ≠ snapshot.digest then .error .conflict else .ok machine

end Sessionless.Protocol
