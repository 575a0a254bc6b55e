import Sessionless.Protocol.Snapshot

/-!
# Machine words

The integers of the model are unbounded, those of the source are `uint32`, `uint64` and
`int64`. A record fits when each of its integers is a value of the type that holds it in the
source; every record of the running program does.
-/

namespace Sessionless.Protocol

def fitsUint32 (n : Nat) : Prop := n < 0x100000000
deriving Decidable

def fitsUint64 (n : Nat) : Prop := n < 0x10000000000000000
deriving Decidable

def fitsInt64 (n : Int) : Prop := -0x8000000000000000 ≤ n ∧ n < 0x8000000000000000
deriving Decidable

def VersionOfferV1.Fits (offer : VersionOfferV1) : Prop :=
  fitsUint32 offer.window.minimum ∧ fitsUint32 offer.window.maximum ∧ ∀ version ∈ offer.supported, fitsUint32 version
deriving Decidable

def AuthContextV1.Fits (auth : AuthContextV1) : Prop :=
  fitsUint64 auth.enrollmentGeneration ∧ fitsUint64 auth.connectionGeneration ∧ fitsUint32 auth.version
deriving Decidable

def CapabilityManifestV1.Fits (manifest : CapabilityManifestV1) : Prop :=
  fitsUint64 manifest.enrollmentGeneration ∧ fitsUint64 manifest.revision ∧ manifest.protocolOffer.Fits ∧
    fitsUint32 manifest.maxConcurrentAttempts
deriving Decidable

def AttemptBindingV1.Fits (binding : AttemptBindingV1) : Prop :=
  fitsUint64 binding.leaseGeneration ∧ fitsInt64 binding.expiresAtUnixMicro
deriving Decidable

def TerminalV1.Fits (terminal : TerminalV1) : Prop :=
  terminal.binding.Fits ∧ fitsUint64 terminal.attemptSequence ∧ fitsUint64 terminal.terminalSequence
deriving Decidable

def ConnectionWatermarksV1.Fits (watermarks : ConnectionWatermarksV1) : Prop :=
  fitsUint64 watermarks.platformSequence ∧ fitsUint64 watermarks.workerSequence ∧
    fitsUint64 watermarks.platformAck ∧ fitsUint64 watermarks.workerAck
deriving Decidable

def AttemptSummaryV1.Fits (summary : AttemptSummaryV1) : Prop :=
  summary.binding.Fits ∧ fitsUint64 summary.platformSequence ∧ fitsUint64 summary.workerSequence ∧
    fitsUint64 summary.progressSequence ∧ fitsUint64 summary.cancelRevision ∧ fitsUint64 summary.terminalSequence
deriving Decidable

def NegotiationV1.Fits (negotiation : NegotiationV1) : Prop :=
  negotiation.workerOffer.Fits ∧ negotiation.platformOffer.Fits ∧ fitsUint32 negotiation.selectedVersion
deriving Decidable

def ReconnectV1.Fits (reconnect : ReconnectV1) : Prop :=
  reconnect.toNegotiationV1.Fits ∧ fitsUint64 reconnect.previousConnectionGeneration ∧
    reconnect.previousWatermarks.Fits ∧ reconnect.attemptSummary.Fits ∧
    ∀ terminal ∈ reconnect.pendingTerminalReplay, terminal.Fits
deriving Decidable

/-! ## Snapshots -/

def ReconnectSnapshotV1.Fits (snapshot : ReconnectSnapshotV1) : Prop :=
  fitsUint64 snapshot.previousConnectionGeneration ∧ snapshot.watermarks.Fits ∧ snapshot.attempt.Fits ∧
    ∀ terminal ∈ snapshot.pendingTerminalReplay, terminal.Fits
deriving Decidable

def MachineEnvelopeSnapshotV1.Fits (snapshot : MachineEnvelopeSnapshotV1) : Prop :=
  fitsUint64 snapshot.sequence ∧ fitsUint64 snapshot.ack
deriving Decidable

def MachineAttemptDirectionSnapshotV1.Fits (snapshot : MachineAttemptDirectionSnapshotV1) : Prop :=
  fitsUint64 snapshot.sequence ∧ ∀ item ∈ snapshot.fingerprints, fitsUint64 item.sequence
deriving Decidable

def MachineReconnectStateV1.Fits (reconnect : MachineReconnectStateV1) : Prop :=
  fitsUint64 reconnect.previousConnectionGeneration ∧ reconnect.watermarks.Fits ∧ reconnect.attempt.Fits ∧
    ∀ claim ∈ reconnect.claim, claim.Fits
deriving Decidable

structure MachineSnapshotV1.Fits (snapshot : MachineSnapshotV1) : Prop where
  version : fitsUint32 snapshot.version
  platform : snapshot.platform.Fits
  worker : snapshot.worker.Fits
  hello : ∀ hello ∈ snapshot.hello, hello.offer.Fits
  challenge : ∀ challenge ∈ snapshot.challenge,
    challenge.workerOffer.Fits ∧ challenge.platformOffer.Fits ∧ fitsUint32 challenge.selectedVersion
  manifest : ∀ manifest ∈ snapshot.manifest, manifest.Fits
  summary : snapshot.attempt.summary.Fits
  platformLedger : snapshot.attempt.platform.Fits
  workerLedger : snapshot.attempt.worker.Fits
  pending : ∀ pending ∈ snapshot.attempt.pendingWorkerTerminal, fitsUint64 pending.sequence ∧ pending.terminal.Fits
  drain : fitsUint64 snapshot.drainRevision
  revoke : ∀ revoke ∈ snapshot.revoke, fitsUint64 revoke.revision ∧ fitsUint64 revoke.nextEnrollmentGeneration ∧
    fitsUint64 revoke.nextConnectionGeneration
  reconnect : ∀ reconnect ∈ snapshot.reconnect, reconnect.Fits

end Sessionless.Protocol
