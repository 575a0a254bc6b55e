import Sessionless.Store.Sessions

/-!
# Deletion requests and legal holds

The transactions that set and release a legal hold and that request the deletion of a
session. A request is refused while a hold is active or a run of the session has not ended; once it is recorded,
every canonical writer refuses the session.
-/

namespace Sessionless.Store

def maxSessionDeletionRows : Nat := 10000

def ensureNoActiveLegalHold (s : State) (sessionID : SessionID) : Except StoreError Unit :=
  if (s.sessionLegalHolds sessionID).any (·.state = .active) then
    .error (.validation "session_deletion.legal_hold" "active legal hold blocks destructive cleanup")
  else .ok ()

def authorizeSessionOwner (s : State) (sessionID : SessionID) (userID : UserID) : Except StoreError Unit := do
  let participant ← requireRow (s.sessionParticipants (sessionID, userID)) .membershipDenied
  if participant.status ≠ .active ∨ participant.role ≠ .owner then .error .membershipDenied
  else participant.authorize s.tenantID sessionID userID true

/-- One row of the join of the runs of a session with the runs. -/
def ensureRunTerminal (s : State) (sessionID : SessionID) (runID : RunID) : Except StoreError Unit := do
  let run ← requireRow (s.runs runID) (.validation "session_deletion.runs" "missing or oversized canonical Run")
  if ¬ run.status.terminal then
    .error (.validation "session_deletion.runs" ("run " ++ quoted runID ++ " is not terminal"))
  else if run.validate ≠ .ok () ∨ run.id ≠ runID ∨ run.tenantID ≠ s.tenantID ∨ run.sessionID ≠ sessionID then
    .error (.validation "session_deletion.runs" "canonical Run does not match deletion index")
  else .ok ()

def ensureSessionRunsTerminal (s : State) (sessionID : SessionID) : Except StoreError Unit := do
  (s.runsBySession sessionID).take maxSessionDeletionRows |>.forM (ensureRunTerminal s sessionID)
  if (s.runsBySession sessionID).length > maxSessionDeletionRows then
    .error (.validation "session_deletion.runs" "exceeds the hard deletion bound")
  else .ok ()

def writeSessionDeletion (s : State) (deletion : SessionDeletion) : Except StoreError State := do
  deletion.validate
  return { s with sessionDeletions := s.sessionDeletions.upsert deletion.sessionID deletion }

def writeSessionLegalHold (s : State) (hold : SessionLegalHold) : Except StoreError State := do
  hold.validate
  return { s with sessionLegalHolds := s.sessionLegalHolds.upsert hold.sessionID hold }

/-! ## Legal holds -/

/-- Cleanup that has started can not be held any more. -/
def ensureNotDeleting (s : State) (sessionID : SessionID) : Except StoreError Unit :=
  if (s.sessionDeletions sessionID).any (fun deletion => deletion.state = .deleting ∨ deletion.state = .completed) then
    .error (.validation "session_legal_hold" "cannot establish a hold after destructive cleanup starts")
  else .ok ()

def replaceLegalHold (s : State) (hold : SessionLegalHold) : Except StoreError (SessionLegalHold × State) :=
  if (s.sessionLegalHolds hold.sessionID).any (fun existing => existing.releasedAt.any (hold.setAt < ·)) then
    .error (.validation "session_legal_hold.set_at" "must follow the prior release")
  else do
    let s ← writeSessionLegalHold s hold
    return (hold, s)

def putSessionLegalHold (s : State) (hold : SessionLegalHold) : Except StoreError (SessionLegalHold × State) := do
  hold.validate
  if hold.state ≠ .active then .error (.validation "session_legal_hold.state" "new holds must be active")
  else do
    let _ ← requireRow (s.sessions hold.sessionID) (.missing "session" hold.sessionID)
    ensureNotDeleting s hold.sessionID
    match s.sessionLegalHolds hold.sessionID with
    | some existing =>
      if existing.state = .active then
        if existing.setBy = hold.setBy ∧ existing.reason = hold.reason then .ok (existing, s)
        else .error .sessionLifecycleConflict
      else replaceLegalHold s hold
    | none => replaceLegalHold s hold

def releaseSessionLegalHold (s : State) (sessionID : SessionID) (releasedBy : UserID) (instant : Int) :
    Except StoreError (SessionLegalHold × State) := do
  validateOpaqueID "session_id" sessionID
  validateOpaqueID "user_id" releasedBy
  if instant = 0 then .error (.validation "session_lifecycle.at" "must not be zero")
  else do
    let hold ← requireRow (s.sessionLegalHolds sessionID) (.missing "legal hold" sessionID)
    if hold.state = .released then .ok (hold, s)
    else do
      let hold ← hold.release releasedBy instant
      let s ← writeSessionLegalHold s hold
      return (hold, s)

/-! ## Requests -/

/-- A deletion that has not been completed still needs ended runs. -/
def recheckRuns (s : State) (existing : SessionDeletion) (sessionID : SessionID) : Except StoreError Unit :=
  if existing.state ≠ .completed then ensureSessionRunsTerminal s sessionID else .ok ()

/-- A request that is there already: the same one is answered with it. -/
def repeatedDeletion (s : State) (existing deletion : SessionDeletion) : Except StoreError (SessionDeletion × State) :=
  if existing.requestedBy ≠ deletion.requestedBy ∨ existing.reason ≠ deletion.reason then .error .sessionLifecycleConflict
  else do
    recheckRuns s existing deletion.sessionID
    return (existing, s)

def newDeletion (s : State) (deletion : SessionDeletion) : Except StoreError (SessionDeletion × State) := do
  let _ ← requireRow (s.sessions deletion.sessionID) (.missing "session" deletion.sessionID)
  authorizeTenantWrite s deletion.requestedBy
  authorizeSessionOwner s deletion.sessionID deletion.requestedBy
  ensureNoActiveLegalHold s deletion.sessionID
  if (s.sessionLegalHolds deletion.sessionID).any (fun hold => hold.releasedAt.any (deletion.requestedAt < ·)) then
    .error (.validation "session_deletion.requested_at" "must not precede the legal-hold release")
  else do
    ensureSessionRunsTerminal s deletion.sessionID
    let s ← writeSessionDeletion s deletion
    return (deletion, s)

def requestSessionDeletion (s : State) (deletion : SessionDeletion) : Except StoreError (SessionDeletion × State) := do
  deletion.validate
  if deletion.state ≠ .requested then .error (.validation "session_deletion.state" "new deletions must be requested")
  else
    match s.sessionDeletions deletion.sessionID with
    | some existing => repeatedDeletion s existing deletion
    | none => newDeletion s deletion

end Sessionless.Store
