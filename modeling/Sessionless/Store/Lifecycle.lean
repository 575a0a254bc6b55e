import Sessionless.Store.Session

/-!
# Deletion records and legal holds

The durable record of a destructive deletion and of a hold against it, with their transitions.
Sessions with retained custody are left out, so a deletion carries no verification of it.
-/

namespace Sessionless.Store

inductive SessionDeletionState where
  | requested | deleting | completed
deriving DecidableEq, Repr

def SessionDeletionState.text : SessionDeletionState → String
  | .requested => "requested"
  | .deleting => "deleting"
  | .completed => "completed"

structure SessionDeletion where
  tenantID : TenantID
  sessionID : SessionID
  requestedBy : UserID
  reason : String
  state : SessionDeletionState
  requestedAt : Int
  startedAt : Option Int
  completedAt : Option Int
  deletedObjects : Nat
  deletedBytes : Nat
deriving DecidableEq, Repr

namespace SessionDeletion

/-- The results a deletion in its state must and must not carry. -/
def validateState (deletion : SessionDeletion) : Except StoreError Unit :=
  match deletion.state with
  | .requested =>
    if deletion.startedAt ≠ none ∨ deletion.completedAt ≠ none ∨ deletion.deletedObjects ≠ 0 ∨ deletion.deletedBytes ≠ 0 then
      .error (.validation "session_deletion" "requested deletion must not contain execution results")
    else .ok ()
  | .deleting =>
    if ¬ deletion.startedAt.any (deletion.requestedAt ≤ ·) ∨ deletion.completedAt ≠ none then
      .error (.validation "session_deletion.started_at" "must follow the request while deleting")
    else .ok ()
  | .completed =>
    if ¬ deletion.startedAt.any (fun started =>
        deletion.requestedAt ≤ started ∧ deletion.completedAt.any (started ≤ ·)) then
      .error (.validation "session_deletion.completed_at" "must follow deletion start")
    else .ok ()

def validate (deletion : SessionDeletion) : Except StoreError Unit := do
  validateOpaqueID "tenant_id" deletion.tenantID
  validateOpaqueID "session_id" deletion.sessionID
  validateOpaqueID "user_id" deletion.requestedBy
  if isBlankText deletion.reason ∨ (Lib.utf8 deletion.reason).length > 1024 then
    .error (.validation "session_deletion.reason" "must contain 1 to 1024 characters")
  else if deletion.requestedAt = 0 then .error (.validation "session_deletion.requested_at" "must not be zero")
  else deletion.validateState

def start (deletion : SessionDeletion) (instant : Int) : Except StoreError SessionDeletion := do
  deletion.validate
  if deletion.state = .deleting ∨ deletion.state = .completed then .ok deletion
  else if instant < deletion.requestedAt then
    .error (.validation "session_deletion.started_at" "must not precede the request")
  else .ok { deletion with state := .deleting, startedAt := some instant }

def complete (deletion : SessionDeletion) (instant : Int) (deletedObjects deletedBytes : Nat) :
    Except StoreError SessionDeletion := do
  deletion.validate
  if deletion.state = .completed then
    if deletion.deletedObjects = deletedObjects ∧ deletion.deletedBytes = deletedBytes then .ok deletion
    else .error .sessionLifecycleConflict
  else if deletion.state ≠ .deleting ∨ ¬ deletion.startedAt.any (· ≤ instant) then
    .error (.validation "session_deletion.completed_at" "requires a started deletion and monotonic time")
  else .ok { deletion with
    state := .completed, completedAt := some instant, deletedObjects, deletedBytes }

end SessionDeletion

inductive SessionLegalHoldState where
  | active | released
deriving DecidableEq, Repr

structure SessionLegalHold where
  tenantID : TenantID
  sessionID : SessionID
  state : SessionLegalHoldState
  reason : String
  setBy : UserID
  setAt : Int
  releasedBy : Option UserID
  releasedAt : Option Int
deriving DecidableEq, Repr

namespace SessionLegalHold

def validateState (hold : SessionLegalHold) : Except StoreError Unit :=
  match hold.state with
  | .active =>
    if hold.releasedBy ≠ none ∨ hold.releasedAt ≠ none then
      .error (.validation "session_legal_hold.release" "is allowed only for a released hold")
    else .ok ()
  | .released =>
    if hold.releasedBy = none ∨ ¬ hold.releasedAt.any (hold.setAt ≤ ·) then
      .error (.validation "session_legal_hold.release" "must identify a monotonic release")
    else hold.releasedBy.forM (validateOpaqueID "user_id")

def validate (hold : SessionLegalHold) : Except StoreError Unit := do
  validateOpaqueID "tenant_id" hold.tenantID
  validateOpaqueID "session_id" hold.sessionID
  validateOpaqueID "user_id" hold.setBy
  if isBlankText hold.reason ∨ (Lib.utf8 hold.reason).length > 1024 then
    .error (.validation "session_legal_hold.reason" "must contain 1 to 1024 characters")
  else if hold.setAt = 0 then .error (.validation "session_legal_hold.set_at" "must not be zero")
  else hold.validateState

def release (hold : SessionLegalHold) (userID : UserID) (instant : Int) : Except StoreError SessionLegalHold := do
  hold.validate
  if hold.state = .released then .ok hold
  else do
    validateOpaqueID "user_id" userID
    if instant < hold.setAt then .error (.validation "session_legal_hold.released_at" "must not precede the hold")
    else .ok { hold with state := .released, releasedBy := some userID, releasedAt := some instant }

end SessionLegalHold

end Sessionless.Store
