import Sessionless.Protocol.Durable

/-!
# Runs of the platform

What a store keeps of one connection, the reducers it can call on it, and the log of a run.
`ApplyMachineFrameV1` is not called with a `ReconnectAccepted`: that frame is only built and
applied by `BuildReconnectAcceptedSnapshotV1`.
-/

namespace Sessionless.Protocol

structure PlatformState where
  config : MachineConfig
  snapshot : MachineSnapshotV1
deriving DecidableEq

inductive PlatformOperation
  | applyFrame (direction : Direction) (frame : FrameV1) (nowUnixMicro : Int)
  | reconnect (nextAuth : AuthContextV1) (signedReconnect : FrameV1)
  | leaseOffer (authority : LeaseOfferAuthorityV1)
  | cancel (authority : CancelAuthorityV1)
  | leaseAccepted (nowUnixMicro : Int)
  | terminalAck (nowUnixMicro : Int)
  | drain (authority : DrainAuthorityV1)
  | retireCommitted
  | retirePreClaimCancelled

structure AppliedFrame where
  direction : Direction
  frame : FrameV1
  nowUnixMicro : Int

namespace PlatformState

variable [Crypto]

def attempt (state : PlatformState) : AttemptSummaryV1 := state.snapshot.attempt.summary

/-- The result of a reducer that derives and applies a platform frame. -/
def committed (state : PlatformState) (nowUnixMicro : Int) :
    Except ErrorCode (FrameV1 × MachineSnapshotV1) → Except ErrorCode (Option AppliedFrame × PlatformState)
  | .error code => .error code
  | .ok (frame, post) => .ok (some ⟨.platformToWorker, frame, nowUnixMicro⟩, { state with snapshot := post })

def retired (state : PlatformState) :
    Except ErrorCode MachineSnapshotV1 → Except ErrorCode (Option AppliedFrame × PlatformState)
  | .error code => .error code
  | .ok post => .ok (none, { state with snapshot := post })

/-- One reducer call: the frame it applied to the attempt record, if any, and what is stored afterwards. -/
def reduce (state : PlatformState) : PlatformOperation → Except ErrorCode (Option AppliedFrame × PlatformState)
  | .applyFrame direction frame nowUnixMicro =>
    match applyMachineFrameV1 state.config state.snapshot direction frame nowUnixMicro with
    | .error code => .error code
    | .ok post => .ok (some ⟨direction, frame, nowUnixMicro⟩, { state with snapshot := post })
  | .reconnect nextAuth signedReconnect =>
    match buildReconnectAcceptedSnapshotV1 state.config state.snapshot nextAuth signedReconnect with
    | .error code => .error code
    | .ok (_, post) => .ok (none, { config := { state.config with auth := nextAuth }, snapshot := post })
  | .leaseOffer authority => state.committed authority.nowUnixMicro
      (buildLeaseOfferTransitionV1 state.config state.snapshot authority)
  | .cancel authority => state.committed authority.nowUnixMicro
      (buildCancelTransitionV1 state.config state.snapshot authority)
  | .leaseAccepted nowUnixMicro => state.committed nowUnixMicro
      (buildLeaseAcceptedTransitionV1 state.config state.snapshot nowUnixMicro)
  | .terminalAck nowUnixMicro => state.committed nowUnixMicro
      (buildTerminalAckTransitionV1 state.config state.snapshot nowUnixMicro)
  | .drain authority => state.committed authority.nowUnixMicro
      (buildDrainTransitionV1 state.config state.snapshot authority)
  | .retireCommitted => state.retired (retireCommittedAttemptV1 state.config state.snapshot)
  | .retirePreClaimCancelled => state.retired (retirePreClaimCancelledAttemptV1 state.config state.snapshot)

end PlatformState

/-- The calls a store makes: `ReconnectAccepted` is never applied as a frame of its own. -/
def PlatformOperation.Allowed : PlatformOperation → Prop
  | .applyFrame _ frame _ => frame.payload.kind ≠ .reconnectAccepted
  | _ => True

/-! ## Logs -/

structure Entry where
  before : PlatformState
  applied : Option AppliedFrame
  after : PlatformState

namespace Entry

def envelope (entry : Entry) : Direction → MachineEnvelopeSnapshotV1
  | .platformToWorker => entry.before.snapshot.platform
  | .workerToPlatform => entry.before.snapshot.worker

def ledger (entry : Entry) : Direction → MachineAttemptDirectionSnapshotV1
  | .platformToWorker => entry.before.snapshot.attempt.platform
  | .workerToPlatform => entry.before.snapshot.attempt.worker

/-- The payload the call took in, unless its envelope was a repetition. -/
def payload (entry : Entry) : Option Payload :=
  match entry.applied with
  | none => none
  | some applied =>
    if applied.frame.sequence = (entry.envelope applied.direction).sequence then none else some applied.frame.payload

/-- The attempt message the call took in, with its acceptance time, unless it was a repetition. -/
def message (entry : Entry) : Option (AttemptMessage × Int) :=
  match entry.applied, entry.payload with
  | some applied, some (.attempt message) =>
    if message.sequence ≤ (entry.ledger applied.direction).sequence then none
    else some (message, applied.nowUnixMicro)
  | _, _ => none

def Revokes (entry : Entry) : Prop := ∃ revoke, entry.payload = some (.revoke revoke)

def Offers (entry : Entry) (binding : AttemptBindingV1) : Prop :=
  entry.before.attempt.state = .idle ∧ entry.after.attempt.state ≠ .idle ∧ entry.after.attempt.binding = binding
deriving Decidable

def Commits (entry : Entry) (binding : AttemptBindingV1) : Prop :=
  entry.before.attempt.state ≠ .terminalCommitted ∧ entry.after.attempt.state = .terminalCommitted ∧
    entry.after.attempt.binding = binding
deriving Decidable

end Entry

/-- A run of the reducers with its log, the last call first. -/
inductive Reduces [Crypto] (start : PlatformState) : List Entry → PlatformState → Prop
  | nil : Reduces start [] start
  | step {log : List Entry} {state next : PlatformState} {operation : PlatformOperation} {applied : Option AppliedFrame}
      (h : Reduces start log state) (allowed : operation.Allowed)
      (reduced : state.reduce operation = .ok (applied, next)) : Reduces start (⟨state, applied, next⟩ :: log) next

def currentAttempt (log : List Entry) : List Entry :=
  log.takeWhile (fun entry => decide (entry.after.attempt.state ≠ .idle))

def messages (log : List Entry) : List (AttemptMessage × Int) := log.filterMap Entry.message

end Sessionless.Protocol
