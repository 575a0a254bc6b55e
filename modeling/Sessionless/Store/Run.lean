import Sessionless.Store.Session

/-!
# Runs, attempts, reservations and dispatch rows

The records of the execution of one trigger event and their status machines. Only managed runs are modelled: the
associations of attached and local capacity, derived contexts and custody records are absent
from the records here.
-/

namespace Sessionless.Store

open Lib

abbrev LeaseID := String
abbrev QuotaReservationID := String
abbrev ArtifactManifestID := String
abbrev DispatchOutboxID := String
abbrev SubscriptionConnectionID := String

/-! ## Runs -/

inductive RunStatus where
  | created | admitted | queued | running | succeeded | failed | cancelled | quotaBlocked
deriving DecidableEq, Repr

def RunStatus.terminal : RunStatus → Bool
  | .succeeded | .failed | .cancelled => true
  | _ => false

def canTransitionRun : RunStatus → RunStatus → Bool
  | .created, target => target = .admitted ∨ target = .quotaBlocked ∨ target = .cancelled ∨ target = .failed
  | .admitted, target => target = .queued ∨ target = .quotaBlocked ∨ target = .cancelled ∨ target = .failed
  | .queued, target => target = .running ∨ target = .quotaBlocked ∨ target = .cancelled ∨ target = .failed
  | .running, target => target = .succeeded ∨ target = .quotaBlocked ∨ target = .cancelled ∨ target = .failed
  | .quotaBlocked, target => target = .admitted ∨ target = .cancelled ∨ target = .failed
  | _, _ => false

structure Run where
  id : RunID
  tenantID : TenantID
  sessionID : SessionID
  triggerEventID : SessionEventID
  subscriptionConnectionID : SubscriptionConnectionID
  status : RunStatus
  idempotencyKey : IdempotencyKey
  cancellationRequestedAt : Option Int
  startedAt : Option Int
  finishedAt : Option Int
  createdAt : Int
  updatedAt : Int
deriving DecidableEq, Repr

namespace Run

def validate (run : Run) : Except StoreError Unit := do
  validateOpaqueID "run_id" run.id
  validateOpaqueID "tenant_id" run.tenantID
  validateOpaqueID "session_id" run.sessionID
  validateOpaqueID "session_event_id" run.triggerEventID
  validateOpaqueID "subscription_connection_id" run.subscriptionConnectionID
  validateOpaqueID "idempotency_key" run.idempotencyKey
  if run.createdAt = 0 then .error (.validation "run.created_at" "must not be zero")
  else if run.updatedAt < run.createdAt then .error (.validation "run.updated_at" "must not be before created_at")
  else if run.cancellationRequestedAt.any (· < run.createdAt) then
    .error (.validation "run.cancellation_requested_at" "must not be before created_at")
  else if run.startedAt.any (· < run.createdAt) then .error (.validation "run.started_at" "must not be before created_at")
  else if run.status.terminal ∧ run.finishedAt = none then
    .error (.validation "run.finished_at" "is required for a terminal run")
  else if ¬ run.status.terminal ∧ run.finishedAt ≠ none then
    .error (.validation "run.finished_at" "is allowed only for a terminal run")
  else .ok ()

def transition (run : Run) (target : RunStatus) (instant : Int) : Except StoreError Run :=
  if ¬ canTransitionRun run.status target then .error (.validation "run.status" "transition is not allowed")
  else if instant < run.updatedAt then .error (.validation "run.updated_at" "transition time must not move backwards")
  else .ok { run with
    status := target
    updatedAt := instant
    startedAt := if target = .running ∧ run.startedAt = none then some instant else run.startedAt
    finishedAt := if target.terminal then some instant else run.finishedAt }

end Run

/-! ## Attempts -/

inductive AttemptStatus where
  | created | running | succeeded | failed | cancelled
deriving DecidableEq, Repr

def AttemptStatus.terminal : AttemptStatus → Bool
  | .succeeded | .failed | .cancelled => true
  | _ => false

def canTransitionAttempt : AttemptStatus → AttemptStatus → Bool
  | .created, target => target = .running ∨ target = .failed ∨ target = .cancelled
  | .running, target => target = .succeeded ∨ target = .failed ∨ target = .cancelled
  | _, _ => false

structure Attempt where
  id : AttemptID
  tenantID : TenantID
  runID : RunID
  number : Nat
  status : AttemptStatus
  workerID : String
  createdAt : Int
  updatedAt : Int
  finishedAt : Option Int
deriving DecidableEq, Repr

namespace Attempt

def validateForRun (attempt : Attempt) (run : Run) : Except StoreError Unit := do
  run.validate
  validateOpaqueID "attempt_id" attempt.id
  ensureSameTenant run.tenantID attempt.tenantID
  if attempt.runID ≠ run.id then .error (.validation "attempt.run_id" "must reference the owning run")
  else if attempt.number = 0 then .error (.validation "attempt.number" "must be positive")
  else do
    if attempt.workerID ≠ "" then validateOpaqueID "attempt.worker_id" attempt.workerID
    if attempt.createdAt = 0 ∨ attempt.updatedAt < attempt.createdAt then
      .error (.validation "attempt.updated_at" "must not be before a non-zero created_at")
    else if attempt.status.terminal ≠ attempt.finishedAt.isSome then
      .error (.validation "attempt.finished_at" "must be present exactly when the attempt is terminal")
    else .ok ()

def transition (attempt : Attempt) (target : AttemptStatus) (instant : Int) : Except StoreError Attempt :=
  if ¬ canTransitionAttempt attempt.status target then .error (.validation "attempt.status" "transition is not allowed")
  else if instant < attempt.updatedAt then
    .error (.validation "attempt.updated_at" "transition time must not move backwards")
  else .ok { attempt with
    status := target
    updatedAt := instant
    finishedAt := if target.terminal then some instant else attempt.finishedAt }

end Attempt

/-! ## Quota reservations -/

inductive ReservationStatus where
  | held | committed | released | expired
deriving DecidableEq, Repr

def canTransitionReservation (source target : ReservationStatus) : Bool :=
  source = .held ∧ (target = .committed ∨ target = .released ∨ target = .expired)

structure QuotaReservation where
  id : QuotaReservationID
  tenantID : TenantID
  runID : RunID
  subscriptionConnectionID : SubscriptionConnectionID
  status : ReservationStatus
  capacityUnits : Nat
  heldAt : Int
  expiresAt : Int
  updatedAt : Int
deriving DecidableEq, Repr

namespace QuotaReservation

def validateForRun (reservation : QuotaReservation) (run : Run) : Except StoreError Unit := do
  run.validate
  validateOpaqueID "quota_reservation_id" reservation.id
  ensureSameTenant run.tenantID reservation.tenantID
  if reservation.runID ≠ run.id then .error (.validation "quota_reservation.run_id" "must reference the owning run")
  else if reservation.subscriptionConnectionID ≠ run.subscriptionConnectionID then
    .error (.validation "quota_reservation.subscription_connection_id" "must match the owning run")
  else do
    validateOpaqueID "subscription_connection_id" reservation.subscriptionConnectionID
    if reservation.capacityUnits = 0 then .error (.validation "quota_reservation.capacity_units" "must be positive")
    else if reservation.heldAt = 0 ∨ reservation.expiresAt ≤ reservation.heldAt then
      .error (.validation "quota_reservation.expires_at" "must be after a non-zero held_at")
    else if reservation.updatedAt < reservation.heldAt then
      .error (.validation "quota_reservation.updated_at" "must not be before held_at")
    else .ok ()

def transition (reservation : QuotaReservation) (target : ReservationStatus) (instant : Int) :
    Except StoreError QuotaReservation :=
  if ¬ canTransitionReservation reservation.status target then
    .error (.validation "quota_reservation.status" "transition is not allowed")
  else if instant < reservation.updatedAt then
    .error (.validation "quota_reservation.updated_at" "transition time must not move backwards")
  else .ok { reservation with status := target, updatedAt := instant }

end QuotaReservation

/-! ## Context windows, manifests and dispatch rows -/

structure SessionContextWindow where
  snapshotVersion : Option Nat
  afterSequence : Nat
  throughSequence : Nat
deriving DecidableEq, Repr

def SessionContextWindow.validate (window : SessionContextWindow) : Except StoreError Unit :=
  if window.throughSequence = 0 then .error (.validation "session_context_window.through_sequence" "must be positive")
  else if window.throughSequence < window.afterSequence then
    .error (.validation "session_context_window.after_sequence" "must not exceed through_sequence")
  else match window.snapshotVersion with
  | none =>
    if window.afterSequence ≠ 0 then
      .error (.validation "session_context_window.after_sequence" "requires a snapshot version when positive")
    else .ok ()
  | some version =>
    if version = 0 ∨ window.afterSequence = 0 then
      .error (.validation "session_context_window.snapshot_version"
        "snapshot version and covered sequence must be positive together")
    else .ok ()

structure ArtifactManifest where
  id : ArtifactManifestID
  tenantID : TenantID
  runID : RunID
  artifacts : List Artifact
  createdAt : Int
deriving DecidableEq, Repr

def Artifact.validate (artifact : Artifact) : Except StoreError Unit :=
  if isBlankText artifact.name then .error (.validation "artifact.name" "must not be empty")
  else if isBlankText artifact.mediaType then .error (.validation "artifact.media_type" "must not be empty")
  else artifact.blob.validate

namespace ArtifactManifest

/-- The artifacts one after another; `seen` are the names before. -/
def validateArtifacts (run : Run) (seen : List String) : List Artifact → Except StoreError Unit
  | [] => .ok ()
  | artifact :: rest => do
    artifact.validate
    if ¬ hasPrefix artifact.blob.key (sessionObjectPrefix run.tenantID run.sessionID) then
      .error (.validation "artifact.blob.key" ("must be under session prefix " ++
        quoted (sessionObjectPrefix run.tenantID run.sessionID)))
    else do
      ensureSameTenant run.tenantID artifact.blob.tenantID
      if artifact.name ∈ seen then .error (.validation "artifact_manifest.artifacts" "artifact names must be unique")
      else validateArtifacts run (artifact.name :: seen) rest

def validateForRun (manifest : ArtifactManifest) (run : Run) : Except StoreError Unit := do
  run.validate
  validateOpaqueID "artifact_manifest_id" manifest.id
  ensureSameTenant run.tenantID manifest.tenantID
  if manifest.runID ≠ run.id then .error (.validation "artifact_manifest.run_id" "must reference the owning run")
  else if manifest.createdAt = 0 then .error (.validation "artifact_manifest.created_at" "must not be zero")
  else validateArtifacts run [] manifest.artifacts

end ArtifactManifest

structure FrontendEventOrigin where
  bindingID : FrontendBindingID
  bindingRevision : Nat
  frontend : Frontend
  externalConversationID : String
  externalEventID : String
deriving DecidableEq, Repr

def FrontendEventOrigin.validate (origin : FrontendEventOrigin) : Except StoreError Unit := do
  validateOpaqueID "frontend_binding_id" origin.bindingID
  if origin.bindingRevision = 0 then
    .error (.validation "frontend_event_origin.binding_revision" "must be positive")
  else do
    validateOpaqueID "frontend" origin.frontend
    if isBlankText origin.externalConversationID then
      .error (.validation "frontend_event_origin.external_conversation_id" "must not be empty")
    else if (utf8 origin.externalConversationID).length > maxOpaqueIDLength then
      .error (.validation "frontend_event_origin.external_conversation_id" "must not exceed 160 bytes")
    else if isBlankText origin.externalEventID then
      .error (.validation "frontend_event_origin.external_event_id" "must not be empty")
    else if (utf8 origin.externalEventID).length > maxOpaqueIDLength then
      .error (.validation "frontend_event_origin.external_event_id" "must not exceed 160 bytes")
    else .ok ()

inductive DispatchStatus where
  | pending | published | cancelled
deriving DecidableEq, Repr

def canTransitionDispatch : DispatchStatus → DispatchStatus → Bool
  | .pending, target => target = .published ∨ target = .cancelled
  | _, _ => false

/-- What a run executes with is kept as the digest of its harness binding. -/
structure DispatchOutbox where
  id : DispatchOutboxID
  tenantID : TenantID
  runID : RunID
  attemptID : AttemptID
  inputManifestID : ArtifactManifestID
  credentialOwnerUserID : UserID
  harnessBindingDigest : String
  contextWindow : SessionContextWindow
  origin : FrontendEventOrigin
  status : DispatchStatus
  idempotencyKey : IdempotencyKey
  createdAt : Int
  updatedAt : Int
deriving DecidableEq, Repr

namespace DispatchOutbox

def validateForAttempt (outbox : DispatchOutbox) (run : Run) (attempt : Attempt) : Except StoreError Unit := do
  attempt.validateForRun run
  validateOpaqueID "dispatch_outbox_id" outbox.id
  ensureSameTenant run.tenantID outbox.tenantID
  if outbox.runID ≠ run.id ∨ outbox.attemptID ≠ attempt.id then
    .error (.validation "dispatch_outbox" "must reference the owning run and attempt")
  else do
    validateOpaqueID "artifact_manifest_id" outbox.inputManifestID
    outbox.contextWindow.validate
    validateOpaqueID "user_id" outbox.credentialOwnerUserID
    outbox.origin.validate
    validateOpaqueID "idempotency_key" outbox.idempotencyKey
    if outbox.createdAt = 0 ∨ outbox.updatedAt < outbox.createdAt then
      .error (.validation "dispatch_outbox.updated_at" "must not be before a non-zero created_at")
    else .ok ()

def transition (outbox : DispatchOutbox) (target : DispatchStatus) (instant : Int) : Except StoreError DispatchOutbox :=
  if ¬ canTransitionDispatch outbox.status target then
    .error (.validation "dispatch_outbox.status" "transition is not allowed")
  else if instant < outbox.updatedAt then
    .error (.validation "dispatch_outbox.updated_at" "transition time must not move backwards")
  else .ok { outbox with status := target, updatedAt := instant }

end DispatchOutbox

end Sessionless.Store
