import Sessionless.Store.State

/-!
# Session transactions

Creating a session, binding a frontend conversation to it, appending an event with its
idempotency row and its material rows, and archiving.
-/

namespace Sessionless.Store

open Context

/-- What `MeasurePreparedRecordV1` makes of the caller's preparation once the event is final: nothing, when there is
none or it does not fit. -/
abbrev Preparation := SessionEvent → Option FinalMaterialMeasureV1

/-! ## Guards -/

def ensureSessionWritable (s : State) (sessionID : SessionID) : Except StoreError Unit :=
  match s.sessionDeletions sessionID with
  | some deletion =>
    .error (.validation "session.lifecycle" ("writes are blocked by deletion state " ++ quoted deletion.state.text))
  | none => .ok ()

@[simp] theorem ensureSessionWritable_ok {s sessionID} :
    ensureSessionWritable s sessionID = .ok () ↔ s.sessionDeletions sessionID = none := by
  unfold ensureSessionWritable
  cases s.sessionDeletions sessionID <;> simp

def authorizeTenantWrite (s : State) (userID : UserID) : Except StoreError Unit := do
  let membership ← requireRow (s.memberships userID) .membershipDenied
  membership.authorizeWrite userID s.tenantID

/-- `authorizeSessionWriteTx`, and `authorizeSessionForUserTx` for a write. -/
def authorizeSessionWrite (s : State) (sessionID : SessionID) (userID : UserID) : Except StoreError Unit := do
  ensureSessionWritable s sessionID
  let participant ← requireRow (s.sessionParticipants (sessionID, userID)) .membershipDenied
  participant.authorize s.tenantID sessionID userID true

/-! ## Material rows -/

def readMaterialRow (s : State) (sessionID : SessionID) (sequence : Nat) (row : Option SessionMaterialPrefixV1) :
    Except StoreError (Option SessionMaterialPrefixV1) :=
  if row.any (fun p => p.throughSequence ≠ sequence ∨ p.tenantID ≠ s.tenantID ∨ p.sessionID ≠ sessionID) then
    .error .sessionMaterialSource
  else .ok row

section

variable [Protocol.Crypto]

/-- The prefix an event is folded into: the two rows agree, or both are absent and the history before is unknown.
The prefixes that a transaction caches are the ones it wrote. -/
def loadSessionMaterialPredecessor (s : State) (sessionID : SessionID) (sequence : Nat) :
    Except StoreError SessionMaterialPrefixV1 := do
  let current ← readMaterialRow s sessionID sequence (s.materialCurrent sessionID)
  if sequence = 0 then
    match current with
    | none => newUnknownSessionMaterialPrefixV1 s.tenantID sessionID 0
    | some current =>
      let genesis ← newSessionMaterialGenesisV1 s.tenantID sessionID
      if current ≠ genesis then .error .sessionMaterialSource else .ok current
  else do
    let boundary ← readMaterialRow s sessionID sequence (s.materialBoundaries (sessionID, sequence))
    match current, boundary with
    | none, none => newUnknownSessionMaterialPrefixV1 s.tenantID sessionID sequence
    | some current, some boundary => if current ≠ boundary then .error .sessionMaterialSource else .ok current
    | _, _ => .error .sessionMaterialSource

def prepareSessionMaterialFold (s : State) (event : SessionEvent) (prepared : Preparation) :
    Except StoreError SessionMaterialPrefixV1 :=
  if event.tenantID ≠ s.tenantID ∨ event.validate ≠ .ok () then .error .sessionMaterialSource
  else do
    let previous ← loadSessionMaterialPredecessor s event.sessionID (event.sequence - 1)
    foldSessionMaterialV1 previous event (prepared event)

def writeSessionMaterialFold (s : State) (p : SessionMaterialPrefixV1) : Except StoreError State := do
  let encoded := encodeSessionMaterialPrefixV1 p
  if ¬ encoded.isOk ∨ p.tenantID ≠ s.tenantID ∨ p.throughSequence = 0 then .error .sessionMaterialSource
  else do
    let boundaries ← insertRow "session_material_boundaries_v1" s.materialBoundaries (p.sessionID, p.throughSequence) p
    return { s with materialBoundaries := boundaries, materialCurrent := s.materialCurrent.upsert p.sessionID p }

def createSessionMaterialGenesis (s : State) (session : Session) : Except StoreError State :=
  if session.lastEventSequence ≠ 0 then .ok s
  else do
    let genesis ← newSessionMaterialGenesisV1 session.tenantID session.id
    if session.tenantID ≠ s.tenantID ∨ ¬ (encodeSessionMaterialPrefixV1 genesis).isOk then .error .sessionMaterialSource
    else do
      let current ← insertRow "session_material_current_v1" s.materialCurrent session.id genesis
      return { s with materialCurrent := current }

end

/-! ## Sessions -/

/-- The activity rows that follow a session are left out. -/
def updateSession (s : State) (session : Session) : Except StoreError State := do
  ensureSessionWritable s session.id
  return { s with sessions := s.sessions.upsert session.id session }

def validateSessionOwner (session : Session) (owner : SessionParticipant) : Except StoreError Unit := do
  session.validate
  owner.validate
  ensureSameTenant session.tenantID owner.tenantID
  if owner.sessionID ≠ session.id ∨ owner.userID ≠ session.createdBy ∨ owner.role ≠ .owner ∨ owner.status ≠ .active then
    .error (.validation "session.owner" "must be the active owner and creator of the session")
  else .ok ()

def sessionOwnerMatches (s : State) (owner : SessionParticipant) : Bool :=
  s.sessionParticipants (owner.sessionID, owner.userID) = some owner

def sessionAndOwnerMatch (s : State) (session : Session) (owner : SessionParticipant) : Bool :=
  s.sessions session.id = some session && sessionOwnerMatches s owner

section

variable [Protocol.Crypto]

def insertSession (s : State) (session : Session) (owner : SessionParticipant) : Except StoreError State := do
  let sessions ← insertRow "sessions" s.sessions session.id session
  let participants ← insertRow "session_participants" s.sessionParticipants (owner.sessionID, owner.userID) owner
  createSessionMaterialGenesis { s with sessions := sessions, sessionParticipants := participants } session

def createSessionTx (s : State) (session : Session) (owner : SessionParticipant) : Except StoreError State := do
  ensureSessionWritable s session.id
  match s.sessions session.id with
  | some existing =>
    if existing ≠ session then .error .sessionConflict
    else if ¬ sessionOwnerMatches s owner then .error .sessionConflict
    else .ok s
  | none => insertSession s session owner

def createSession (s : State) (session : Session) (owner : SessionParticipant) : Except StoreError State := do
  validateSessionOwner session owner
  createSessionTx s session owner

end

/-! ## Bindings -/

def writeBinding (s : State) (binding : FrontendBinding) : Except StoreError State := do
  ensureSameTenant s.tenantID binding.tenantID
  binding.validate
  ensureSessionWritable s binding.sessionID
  return { s with
    frontendBindings := s.frontendBindings.upsert binding.id binding
    frontendBindingKeys := s.frontendBindingKeys.upsert (binding.frontend, binding.externalConversationID) binding.id }

/-- The binding is at the revision after the expected one, on this session, since this instant: the call has committed
before. -/
def alreadySwitched (binding : FrontendBinding) (expectedRevision : Nat) (sessionID : SessionID) (instant : Int) : Prop :=
  binding.revision = expectedRevision + 1 ∧ binding.sessionID = sessionID ∧ binding.updatedAt = instant
deriving Decidable

section

variable [Protocol.Crypto]

def createAndSwitchSession (s : State) (session : Session) (owner : SessionParticipant) (bindingID : FrontendBindingID)
    (expectedRevision : Nat) (instant : Int) : Except StoreError (FrontendBinding × State) := do
  validateSessionOwner session owner
  if session.status ≠ .active then .error (.validation "frontend_binding.session_id" "must reference an active session")
  else do
    validateOpaqueID "frontend_binding_id" bindingID
    let binding ← requireRow (s.frontendBindings bindingID) (.missing "frontend binding" bindingID)
    if alreadySwitched binding expectedRevision session.id instant then
      if sessionAndOwnerMatch s session owner then .ok (binding, s) else .error .sessionConflict
    else if binding.revision ≠ expectedRevision then .error (.staleBinding expectedRevision binding.revision)
    else do
      let next ← binding.switch expectedRevision session.id instant
      let s ← createSessionTx s session owner
      let s ← writeBinding s next
      return (next, s)

/-- `ports.CanonicalSessionSwitchRequest`. -/
structure CanonicalSessionSwitchRequest where
  userID : UserID
  bindingID : FrontendBindingID
  expectedRevision : Nat
  sessionID : SessionID
  instant : Int
deriving DecidableEq, Repr

namespace CanonicalSessionSwitchRequest

def validate (request : CanonicalSessionSwitchRequest) : Except StoreError Unit := do
  validateOpaqueID "user_id" request.userID
  validateOpaqueID "frontend_binding_id" request.bindingID
  if request.expectedRevision = 0 then .error (.validation "frontend_binding.expected_revision" "must be positive")
  else do
    validateOpaqueID "session_id" request.sessionID
    if request.instant = 0 then .error (.validation "canonical_session_switch.at" "must not be zero") else .ok ()

def session (tenantID : TenantID) (request : CanonicalSessionSwitchRequest) : Session :=
  { id := request.sessionID, tenantID, createdBy := request.userID, status := .active, lastEventSequence := 0
    createdAt := request.instant, updatedAt := request.instant, archivedAt := none }

def owner (tenantID : TenantID) (request : CanonicalSessionSwitchRequest) : SessionParticipant :=
  { tenantID, sessionID := request.sessionID, userID := request.userID, role := .owner, status := .active
    createdAt := request.instant, updatedAt := request.instant }

end CanonicalSessionSwitchRequest

def createAndSwitchFrontendSession (s : State) (request : CanonicalSessionSwitchRequest) :
    Except StoreError ((Session × FrontendBinding) × State) := do
  request.validate
  authorizeTenantWrite s request.userID
  let binding ← requireRow (s.frontendBindings request.bindingID) (.missing "frontend binding" request.bindingID)
  let session := request.session s.tenantID
  let owner := request.owner s.tenantID
  if alreadySwitched binding request.expectedRevision request.sessionID request.instant then
    if sessionAndOwnerMatch s session owner then .ok ((session, binding), s) else .error .sessionConflict
  else if binding.revision ≠ request.expectedRevision then
    .error (.staleBinding request.expectedRevision binding.revision)
  else do
    authorizeSessionWrite s binding.sessionID request.userID
    let s ← createSessionTx s session owner
    let next ← binding.switch request.expectedRevision request.sessionID request.instant
    let s ← writeBinding s next
    return ((session, next), s)

end

end Sessionless.Store
