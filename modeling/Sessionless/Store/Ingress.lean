import Sessionless.Store.Append
import Sessionless.Store.Runs

/-!
# Canonical ingress

The transactions behind a frontend delivery: resolving the session of a conversation, looking the delivery up and
committing it. A commit writes the user event, its run, attempt, manifest and dispatch row, and the row that makes a
second commit return the first one's answer.
-/

namespace Sessionless.Store

open Context

section

variable [Protocol.Crypto]

/-- `ports.FrontendSessionRequest`. -/
structure FrontendSessionRequest where
  userID : UserID
  frontend : Frontend
  externalConversationID : String
  bindingID : FrontendBindingID
  sessionID : SessionID
  instant : Int
deriving DecidableEq, Repr

namespace FrontendSessionRequest

def validate (request : FrontendSessionRequest) : Except StoreError Unit := do
  validateOpaqueID "user_id" request.userID
  validateOpaqueID "frontend" request.frontend
  if isBlankText request.externalConversationID then .error (.validation "external_conversation_id" "must not be empty")
  else do
    validateOpaqueID "frontend_binding_id" request.bindingID
    validateOpaqueID "session_id" request.sessionID
    if request.instant = 0 then .error (.validation "frontend_session.at" "must not be zero") else .ok ()

/-- The session, its owner and the binding that the first request of a conversation creates. -/
def session (tenantID : TenantID) (request : FrontendSessionRequest) : Session :=
  { id := request.sessionID, tenantID, createdBy := request.userID, status := .active, lastEventSequence := 0
    createdAt := request.instant, updatedAt := request.instant, archivedAt := none }

def owner (tenantID : TenantID) (request : FrontendSessionRequest) : SessionParticipant :=
  { tenantID, sessionID := request.sessionID, userID := request.userID, role := .owner, status := .active
    createdAt := request.instant, updatedAt := request.instant }

def binding (tenantID : TenantID) (request : FrontendSessionRequest) : FrontendBinding :=
  { id := request.bindingID, tenantID, frontend := request.frontend
    externalConversationID := request.externalConversationID, sessionID := request.sessionID, revision := 1
    createdAt := request.instant, updatedAt := request.instant }

end FrontendSessionRequest

def resolveFrontendSession (s : State) (request : FrontendSessionRequest) (bindingID : FrontendBindingID) :
    Except StoreError ((Session × FrontendBinding) × State) := do
  let binding ← requireRow (s.frontendBindings bindingID) (.inconsistent "frontend binding")
  if binding.tenantID ≠ s.tenantID ∨ binding.frontend ≠ request.frontend ∨
      binding.externalConversationID ≠ request.externalConversationID then .error .bindingConflict
  else do
    authorizeSessionWrite s binding.sessionID request.userID
    match s.sessions binding.sessionID with
    | some session =>
      if session.status ≠ .active then .error (.validation "frontend_binding.session_id" "must reference an active session")
      else .ok ((session, binding), s)
    | none => .error (.validation "frontend_binding.session_id" "must reference an active session")

def ensureFrontendSession (s : State) (request : FrontendSessionRequest) :
    Except StoreError ((Session × FrontendBinding) × State) := do
  request.validate
  authorizeTenantWrite s request.userID
  match s.frontendBindingKeys (request.frontend, request.externalConversationID) with
  | some bindingID => resolveFrontendSession s request bindingID
  | none => do
    let s' ← createSessionTx s (request.session s.tenantID) (request.owner s.tenantID)
    let s' ← writeBinding s' (request.binding s.tenantID)
    return ((request.session s.tenantID, request.binding s.tenantID), s')

end

/-! ## Committed deliveries -/

/-- `ports.CanonicalUserEventCommit`, for a managed execution whose authority has been bound. -/
structure CanonicalUserEventCommit where
  userID : UserID
  bindingID : FrontendBindingID
  expectedBindingRevision : Nat
  origin : FrontendEventOrigin
  idempotencyKey : IdempotencyKey
  mutationDigest : String
  expireAt : Int
  eventID : SessionEventID
  payload : BlobRef
  runID : RunID
  attemptID : AttemptID
  subscriptionConnectionID : SubscriptionConnectionID
  manifestID : ArtifactManifestID
  artifacts : List Artifact
  dispatchID : DispatchOutboxID
  harnessBindingDigest : String
  committedAt : Int
  committedAtOffset : Int
deriving DecidableEq, Repr

structure CanonicalUserEventResult where
  sessionID : SessionID
  eventID : SessionEventID
  sequence : Nat
  runID : RunID
  created : Bool
deriving DecidableEq, Repr

/-- A lower-case SHA-256 digest, or none. -/
def validateMutationDigest (value : String) : Except StoreError Unit :=
  if value = "" ∨ materialDigest value then .ok ()
  else .error (.validation "canonical_ingress.mutation_digest" "must be a lowercase SHA-256 digest")

def validateCanonicalCommit (request : CanonicalUserEventCommit) : Except StoreError Unit := do
  validateOpaqueID "user_id" request.userID
  validateOpaqueID "frontend_binding_id" request.bindingID
  if request.expectedBindingRevision = 0 then .error (.validation "frontend_binding.expected_revision" "must be positive")
  else do
    request.origin.validate
    if request.origin.bindingID ≠ request.bindingID ∨ request.origin.bindingRevision ≠ request.expectedBindingRevision then
      .error (.validation "frontend_event_origin" "must identify the expected binding revision")
    else do
      validateOpaqueID "idempotency_key" request.idempotencyKey
      validateOpaqueID "session_event_id" request.eventID
      validateOpaqueID "run_id" request.runID
      validateOpaqueID "attempt_id" request.attemptID
      validateOpaqueID "artifact_manifest_id" request.manifestID
      validateOpaqueID "dispatch_outbox_id" request.dispatchID
      if request.committedAt = 0 then .error (.validation "canonical_ingress.committed_at" "must not be zero")
      else if request.expireAt ≤ request.committedAt then
        .error (.validation "canonical_ingress.expire_at" "must be after committed_at")
      else do
        request.payload.validate
        validateMutationDigest request.mutationDigest

/-- The row of a delivery, while it has not run out at the time of the database. -/
def ingressRow (s : State) (now : Int) (bindingID : FrontendBindingID) (key : IdempotencyKey) : Option IngressRow :=
  (s.ingressIdempotency (bindingID, key)).filter (fun row => now < row.expireAt)

/-- The event of a recorded delivery is the one that is asked for. -/
def ingressEventMatches (event : SessionEvent) (row : IngressRow) (userID : UserID) (eventID : SessionEventID) (runID : RunID)
    (key : IdempotencyKey) : Bool :=
  event.id = row.eventID && event.id = eventID && event.authorUserID = some userID && event.runID = some runID &&
    event.idempotencyKey = key

def ingressAnswer (s : State) (row : IngressRow) (userID : UserID) (eventID : SessionEventID) (runID : RunID)
    (key : IdempotencyKey) (mutationDigest : String) : Except StoreError CanonicalUserEventResult :=
  if mutationDigest ≠ "" ∧ row.mutationDigest ≠ mutationDigest then .error .eventIdempotencyConflict
  else do
    authorizeSessionWrite s row.sessionID userID
    let event ← requireRow (s.sessionEvents (row.sessionID, row.sequence)) .eventIdempotencyConflict
    if ¬ ingressEventMatches event row userID eventID runID key then .error .eventIdempotencyConflict
    else do
      let run ← requireRow (s.runs row.runID) (.inconsistent "frontend ingress idempotency")
      if run.id ≠ runID ∨ run.triggerEventID ≠ event.id then .error (.inconsistent "frontend ingress idempotency")
      else return { sessionID := event.sessionID, eventID := event.id, sequence := event.sequence, runID := run.id
                    created := false }

/-- `ports.CanonicalUserEventLookup`. -/
structure CanonicalUserEventLookup where
  userID : UserID
  bindingID : FrontendBindingID
  frontend : Frontend
  externalConversationID : String
  idempotencyKey : IdempotencyKey
  eventID : SessionEventID
  runID : RunID
  mutationDigest : String
deriving DecidableEq, Repr

def validateCanonicalLookup (request : CanonicalUserEventLookup) : Except StoreError Unit := do
  validateOpaqueID "user_id" request.userID
  validateOpaqueID "frontend_binding_id" request.bindingID
  validateOpaqueID "frontend" request.frontend
  validateOpaqueID "idempotency_key" request.idempotencyKey
  validateOpaqueID "session_event_id" request.eventID
  validateOpaqueID "run_id" request.runID
  if request.externalConversationID = "" then .error (.validation "external_conversation_id" "must not be empty")
  else validateMutationDigest request.mutationDigest

/-- The answer of a lookup that finds the delivery, or none. -/
def lookupCanonicalUserEvent (s : State) (now : Int) (request : CanonicalUserEventLookup) :
    Except StoreError (Option CanonicalUserEventResult) := do
  validateCanonicalLookup request
  authorizeTenantWrite s request.userID
  match ingressRow s now request.bindingID request.idempotencyKey with
  | none => .ok none
  | some row =>
    match s.frontendBindings request.bindingID with
    | none => .error .eventIdempotencyConflict
    | some binding =>
      if binding.frontend ≠ request.frontend ∨ binding.externalConversationID ≠ request.externalConversationID then
        .error .eventIdempotencyConflict
      else do
        let answer ← ingressAnswer s row request.userID request.eventID request.runID request.idempotencyKey
          request.mutationDigest
        return some answer

/-! ## Commits -/

namespace CanonicalUserEventCommit

/-- The user event, in a session that has `sequence - 1` events. -/
def event (request : CanonicalUserEventCommit) (tenantID : TenantID) (sessionID : SessionID) (sequence : Nat) : SessionEvent :=
  { id := request.eventID, tenantID, sessionID, sequence, kind := .userMessage, authorUserID := some request.userID
    runID := some request.runID, idempotencyKey := request.idempotencyKey, payload := request.payload
    createdAt := request.committedAt, createdAtOffset := request.committedAtOffset }

def run (request : CanonicalUserEventCommit) (tenantID : TenantID) (sessionID : SessionID) : Run :=
  { id := request.runID, tenantID, sessionID, triggerEventID := request.eventID
    subscriptionConnectionID := request.subscriptionConnectionID, status := .created
    idempotencyKey := request.idempotencyKey, cancellationRequestedAt := none, startedAt := none, finishedAt := none
    createdAt := request.committedAt, updatedAt := request.committedAt }

def attempt (request : CanonicalUserEventCommit) (tenantID : TenantID) : Attempt :=
  { id := request.attemptID, tenantID, runID := request.runID, number := 1, status := .created, workerID := ""
    createdAt := request.committedAt, updatedAt := request.committedAt, finishedAt := none }

def manifest (request : CanonicalUserEventCommit) (tenantID : TenantID) : ArtifactManifest :=
  { id := request.manifestID, tenantID, runID := request.runID, artifacts := request.artifacts
    createdAt := request.committedAt }

def dispatch (request : CanonicalUserEventCommit) (tenantID : TenantID) (sequence : Nat) : DispatchOutbox :=
  { id := request.dispatchID, tenantID, runID := request.runID, attemptID := request.attemptID
    inputManifestID := request.manifestID, credentialOwnerUserID := request.userID
    harnessBindingDigest := request.harnessBindingDigest
    contextWindow := { snapshotVersion := none, afterSequence := 0, throughSequence := sequence }
    origin := request.origin, status := .pending, idempotencyKey := request.idempotencyKey
    createdAt := request.committedAt, updatedAt := request.committedAt }

def row (request : CanonicalUserEventCommit) (sessionID : SessionID) (sequence : Nat) : IngressRow :=
  { sessionID, sequence, eventID := request.eventID, runID := request.runID, mutationDigest := request.mutationDigest
    expireAt := request.expireAt }

end CanonicalUserEventCommit

/-- The answer to a commit of a delivery that is recorded: the winner's, when it runs with the same harness. -/
def commitExisting (s : State) (row : IngressRow) (request : CanonicalUserEventCommit) :
    Except StoreError CanonicalUserEventResult := do
  let answer ← ingressAnswer s row request.userID request.eventID request.runID request.idempotencyKey request.mutationDigest
  if (s.dispatchOutbox request.dispatchID).any (·.harnessBindingDigest = request.harnessBindingDigest) then .ok answer
  else .error .eventIdempotencyConflict

/-- The session that a new delivery goes to: the one its binding points at, at the revision the caller saw. -/
def commitSession (s : State) (request : CanonicalUserEventCommit) : Except StoreError Session := do
  let binding ← requireRow (s.frontendBindings request.bindingID) (.missing "frontend binding" request.bindingID)
  if binding.revision ≠ request.expectedBindingRevision then
    .error (.staleBinding request.expectedBindingRevision binding.revision)
  else if request.origin.frontend ≠ binding.frontend ∨
      request.origin.externalConversationID ≠ binding.externalConversationID then
    .error (.validation "frontend_event_origin" "must match the resolved binding")
  else do
    authorizeSessionWrite s binding.sessionID request.userID
    match s.sessions binding.sessionID with
    | some session =>
      if session.status ≠ .active then .error (.validation "session" "must be active for canonical ingress") else .ok session
    | none => .error (.validation "session" "must be active for canonical ingress")

/-- The payload and the artifacts lie under the prefix of the event. -/
def commitBlobs (s : State) (request : CanonicalUserEventCommit) (session : Session) : Except StoreError Unit := do
  validateSessionEventBlob s.tenantID session.id request.eventID request.payload
  request.artifacts.forM (fun artifact => validateSessionEventBlob s.tenantID session.id request.eventID artifact.blob)

def commitRun (s : State) (request : CanonicalUserEventCommit) (sessionID : SessionID) (sequence : Nat) :
    Except StoreError State := do
  let s ← putRun s (request.run s.tenantID sessionID)
  let s ← putAttempt s (request.attempt s.tenantID)
  let s ← putArtifactManifest s (request.manifest s.tenantID)
  putDispatchOutbox s (request.dispatch s.tenantID sequence)

/-- The database drops the row of a delivery some time after it has run out. -/
def expireIngress (s : State) (now : Int) (bindingID : FrontendBindingID) (key : IdempotencyKey) : State :=
  if (s.ingressIdempotency (bindingID, key)).any (·.expireAt ≤ now) then
    { s with ingressIdempotency := s.ingressIdempotency.delete (bindingID, key) }
  else s

section

variable [Protocol.Crypto]

def commitNew (s : State) (request : CanonicalUserEventCommit) (prepared : Preparation) :
    Except StoreError (CanonicalUserEventResult × State) := do
  let session ← commitSession s request
  commitBlobs s request session
  let sequence := session.lastEventSequence + 1
  let event := request.event s.tenantID session.id sequence
  let (_, next) ← appendSessionEvent session event none
  let s ← insertSessionEvent s event prepared
  let s ← updateSession s next
  let s ← commitRun s request session.id sequence
  let ingress ← insertRow "frontend_ingress_idempotency" s.ingressIdempotency (request.bindingID, request.idempotencyKey)
    (request.row session.id sequence)
  return ({ sessionID := session.id, eventID := request.eventID, sequence, runID := request.runID, created := true },
    { s with ingressIdempotency := ingress })

def commitCanonicalUserEvent (s : State) (now : Int) (request : CanonicalUserEventCommit) (prepared : Preparation) :
    Except StoreError (CanonicalUserEventResult × State) := do
  validateCanonicalCommit request
  authorizeTenantWrite s request.userID
  match ingressRow s now request.bindingID request.idempotencyKey with
  | some row => do
    let answer ← commitExisting s row request
    return (answer, s)
  | none => commitNew s request prepared

end

end Sessionless.Store
