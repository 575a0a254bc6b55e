import Sessionless.Store.Blob

/-!
# Canonical sessions

The records of a session and the rules that need no database: participants, frontend bindings, appending and
archiving. Times are instants; an event keeps the offset of its `created_at` beside it, which only shows in the
written form.
-/

namespace Sessionless.Store

/-! ## Sessions -/

inductive SessionStatus where
  | active | archived
deriving DecidableEq, Repr

structure Session where
  id : SessionID
  tenantID : TenantID
  createdBy : UserID
  status : SessionStatus
  lastEventSequence : Nat
  createdAt : Int
  updatedAt : Int
  archivedAt : Option Int
deriving DecidableEq, Repr

namespace Session

def validate (session : Session) : Except StoreError Unit := do
  validateOpaqueID "session_id" session.id
  validateOpaqueID "tenant_id" session.tenantID
  validateOpaqueID "user_id" session.createdBy
  if session.createdAt = 0 then .error (.validation "session.created_at" "must not be zero")
  else if session.updatedAt < session.createdAt then
    .error (.validation "session.updated_at" "must not be before created_at")
  else if session.status = .archived ∧ session.archivedAt = none then
    .error (.validation "session.archived_at" "is required for an archived session")
  else if session.status = .active ∧ session.archivedAt ≠ none then
    .error (.validation "session.archived_at" "is allowed only for an archived session")
  else .ok ()

def archive (session : Session) (instant : Int) : Except StoreError Session := do
  session.validate
  if session.status = .archived then .ok session
  else if instant < session.updatedAt then
    .error (.validation "session.updated_at" "transition time must not move backwards")
  else .ok { session with status := .archived, updatedAt := instant, archivedAt := some instant }

def unarchive (session : Session) (instant : Int) : Except StoreError Session := do
  session.validate
  if session.status = .active then .ok session
  else if instant < session.updatedAt then
    .error (.validation "session.updated_at" "transition time must not move backwards")
  else .ok { session with status := .active, updatedAt := instant, archivedAt := none }

end Session

/-! ## Participants and members -/

inductive SessionParticipantRole where
  | owner | member | viewer
deriving DecidableEq, Repr

inductive SessionParticipantStatus where
  | active | removed
deriving DecidableEq, Repr

structure SessionParticipant where
  tenantID : TenantID
  sessionID : SessionID
  userID : UserID
  role : SessionParticipantRole
  status : SessionParticipantStatus
  createdAt : Int
  updatedAt : Int
deriving DecidableEq, Repr

namespace SessionParticipant

def validate (participant : SessionParticipant) : Except StoreError Unit := do
  validateOpaqueID "tenant_id" participant.tenantID
  validateOpaqueID "session_id" participant.sessionID
  validateOpaqueID "user_id" participant.userID
  if participant.createdAt = 0 ∨ participant.updatedAt < participant.createdAt then
    .error (.validation "session_participant.updated_at" "must not be before created_at")
  else .ok ()

def authorize (participant : SessionParticipant) (tenantID : TenantID) (sessionID : SessionID) (userID : UserID)
    (write : Bool) : Except StoreError Unit := do
  participant.validate
  ensureSameTenant participant.tenantID tenantID
  if participant.sessionID ≠ sessionID ∨ participant.userID ≠ userID ∨ participant.status ≠ .active then
    .error (.validation "session_participant" "does not grant access to this user and session")
  else if write ∧ participant.role = .viewer then
    .error (.validation "session_participant.role" "does not grant write access")
  else .ok ()

end SessionParticipant

inductive TenantMembershipRole where
  | owner | member | viewer
deriving DecidableEq, Repr

inductive TenantMembershipStatus where
  | active | suspended | revoked
deriving DecidableEq, Repr

structure TenantMembership where
  tenantID : TenantID
  userID : UserID
  role : TenantMembershipRole
  status : TenantMembershipStatus
  securityVersion : Nat
  createdAt : Int
  updatedAt : Int
deriving DecidableEq, Repr

namespace TenantMembership

def validate (membership : TenantMembership) : Except StoreError Unit := do
  validateOpaqueID "tenant_id" membership.tenantID
  validateOpaqueID "user_id" membership.userID
  if membership.securityVersion = 0 then .error (.validation "tenant_membership.security_version" "must be positive")
  else if membership.createdAt = 0 ∨ membership.updatedAt < membership.createdAt then
    .error (.validation "tenant_membership.updated_at" "must not be before a non-zero created_at")
  else .ok ()

/-- `Authorize` for the write permission. -/
def authorizeWrite (membership : TenantMembership) (userID : UserID) (tenantID : TenantID) : Except StoreError Unit := do
  membership.validate
  if membership.userID ≠ userID ∨ membership.tenantID ≠ tenantID ∨ membership.status ≠ .active then .error .membershipDenied
  else if membership.role = .viewer then .error .membershipDenied
  else .ok ()

end TenantMembership

/-! ## Frontend bindings -/

/-- `telegram`, `web` or the identifier of another frontend. -/
abbrev Frontend := String

structure FrontendBinding where
  id : FrontendBindingID
  tenantID : TenantID
  frontend : Frontend
  externalConversationID : String
  sessionID : SessionID
  revision : Nat
  createdAt : Int
  updatedAt : Int
deriving DecidableEq, Repr

/-- `strings.TrimSpace(value) == ""`, for the blanks of ASCII. -/
def isBlankText (value : String) : Bool := value.toList.all Char.isWhitespace

namespace FrontendBinding

def validate (binding : FrontendBinding) : Except StoreError Unit := do
  validateOpaqueID "frontend_binding_id" binding.id
  validateOpaqueID "tenant_id" binding.tenantID
  validateOpaqueID "frontend" binding.frontend
  if isBlankText binding.externalConversationID then
    .error (.validation "frontend_binding.external_conversation_id" "must not be empty")
  else do
    validateOpaqueID "session_id" binding.sessionID
    if binding.revision = 0 then .error (.validation "frontend_binding.revision" "must be positive")
    else if binding.createdAt = 0 ∨ binding.updatedAt < binding.createdAt then
      .error (.validation "frontend_binding.updated_at" "must not be before created_at")
    else .ok ()

def switch (binding : FrontendBinding) (expected : Nat) (sessionID : SessionID) (instant : Int) :
    Except StoreError FrontendBinding := do
  binding.validate
  if binding.revision ≠ expected then .error (.staleBinding expected binding.revision)
  else do
    validateOpaqueID "session_id" sessionID
    if instant < binding.updatedAt then
      .error (.validation "frontend_binding.updated_at" "switch time must not move backwards")
    else .ok { binding with sessionID := sessionID, revision := binding.revision + 1, updatedAt := instant }

end FrontendBinding

/-! ## Events -/

inductive SessionEventKind where
  | userMessage | assistantMessage | toolCall | toolResult | systemNotice
deriving DecidableEq, Repr

def SessionEventKind.text : SessionEventKind → String
  | .userMessage => "user_message"
  | .assistantMessage => "assistant_message"
  | .toolCall => "tool_call"
  | .toolResult => "tool_result"
  | .systemNotice => "system_notice"

def SessionEventKind.isTool : SessionEventKind → Bool
  | .toolCall | .toolResult => true
  | _ => false

structure SessionEvent where
  id : SessionEventID
  tenantID : TenantID
  sessionID : SessionID
  sequence : Nat
  kind : SessionEventKind
  authorUserID : Option UserID
  runID : Option RunID
  idempotencyKey : IdempotencyKey
  payload : BlobRef
  createdAt : Int
  /-- The offset of the location of `created_at`, in seconds east of UTC. -/
  createdAtOffset : Int
deriving DecidableEq, Repr

namespace SessionEvent

def validateMaterialScope (event : SessionEvent) : Except StoreError Unit := do
  validateOpaqueID "session_event_id" event.id
  validateOpaqueID "tenant_id" event.tenantID
  validateOpaqueID "session_id" event.sessionID

def validateMaterialBody (event : SessionEvent) : Except StoreError Unit := do
  event.authorUserID.forM (validateOpaqueID "user_id")
  event.runID.forM (validateOpaqueID "run_id")
  if event.kind = .userMessage ∧ event.authorUserID = none then
    .error (.validation "session_event.author_user_id" "is required for a user message")
  else if (event.kind = .assistantMessage ∨ event.kind = .toolCall ∨ event.kind = .toolResult) ∧ event.runID = none then
    .error (.validation "session_event.run_id" "is required for assistant and tool events")
  else do
    validateOpaqueID "idempotency_key" event.idempotencyKey
    validateSessionEventBlob event.tenantID event.sessionID event.id event.payload

def validate (event : SessionEvent) : Except StoreError Unit := do
  event.validateMaterialScope
  if event.sequence = 0 then .error (.validation "session_event.sequence" "must be positive")
  else do
    event.validateMaterialBody
    if event.createdAt = 0 then .error (.validation "session_event.created_at" "must not be zero")
    else .ok ()

/-- `ValidateMaterialIdentity`: what is known of an event before it is appended. -/
def validateMaterialIdentity (event : SessionEvent) : Except StoreError Unit := do
  event.validateMaterialScope
  event.validateMaterialBody

end SessionEvent

def sameSessionEvent (left right : SessionEvent) : Bool :=
  { left with createdAtOffset := 0 } = { right with createdAtOffset := 0 }

/-- An exact retry leaves the session alone; a new event takes the next sequence. The answer says whether
the event is new. -/
def appendSessionEvent (session : Session) (event : SessionEvent) (existing : Option SessionEvent) :
    Except StoreError (Bool × Session) := do
  session.validate
  event.validate
  ensureSameTenant session.tenantID event.tenantID
  if session.id ≠ event.sessionID then
    .error (.validation "session_event.session_id" "must reference the owning session")
  else match existing with
  | some existing => if sameSessionEvent existing event then .ok (false, session) else .error .eventIdempotencyConflict
  | none =>
    if session.status ≠ .active then .error (.validation "session.status" "must be active to append an event")
    else if event.sequence ≠ session.lastEventSequence + 1 then
      .error (.validation "session_event.sequence" "must be exactly the next session sequence")
    else if event.createdAt < session.updatedAt then
      .error (.validation "session_event.created_at" "must not move session time backwards")
    else .ok (true, { session with lastEventSequence := event.sequence, updatedAt := event.createdAt })

end Sessionless.Store
