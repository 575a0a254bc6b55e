import Sessionless.Store.Sessions

/-!
# Appending and archiving

`AppendSessionEvent` and the two ways to archive a session. `insertSessionEvent` is the one
writer of events: it folds the event into the material account and inserts the event, its
idempotency row and its material rows.
-/

namespace Sessionless.Store

section

variable [Protocol.Crypto]

def insertSessionEvent (s : State) (event : SessionEvent) (prepared : Preparation) : Except StoreError State := do
  event.validate
  let folded ← prepareSessionMaterialFold s event prepared
  let events ← insertRow "session_events" s.sessionEvents (event.sessionID, event.sequence) event
  let keys ← insertRow "session_event_idempotency" s.sessionEventIdempotency (event.sessionID, event.idempotencyKey)
    (event.sequence, event.id)
  writeSessionMaterialFold { s with sessionEvents := events, sessionEventIdempotency := keys } folded

/-- The retry of an event whose idempotency key is taken: it must be that very event. -/
def appendExisting (s : State) (session : Session) (event : SessionEvent) (sequence : Nat) (eventID : SessionEventID) :
    Except StoreError (Bool × State) := do
  let existing ← requireRow (s.sessionEvents (event.sessionID, sequence)) (.inconsistent "session event idempotency")
  if existing.id ≠ eventID then .error (.inconsistent "session event idempotency")
  else do
    let candidate := if event.sequence = 0 then { event with sequence := sequence } else event
    let _ ← appendSessionEvent session candidate (some existing)
    return (false, s)

/-- An event under a new idempotency key. A sequence of zero asks for the next one. -/
def appendNew (s : State) (session : Session) (event : SessionEvent) (prepared : Preparation) :
    Except StoreError (Bool × State) := do
  let candidate := if event.sequence = 0 then { event with sequence := session.lastEventSequence + 1 } else event
  let (created, next) ← appendSessionEvent session candidate none
  let s ← insertSessionEvent s candidate prepared
  let s ← updateSession s next
  return (created, s)

/-- `AppendSessionEvent` and `AppendPreparedSessionEventV1`. -/
def appendSessionEventTx (s : State) (event : SessionEvent) (prepared : Preparation) : Except StoreError (Bool × State) := do
  validateOpaqueID "tenant_id" event.tenantID
  validateOpaqueID "session_id" event.sessionID
  validateOpaqueID "idempotency_key" event.idempotencyKey
  ensureSessionWritable s event.sessionID
  let session ← requireRow (s.sessions event.sessionID) (.missing "session" event.sessionID)
  match s.sessionEventIdempotency (event.sessionID, event.idempotencyKey) with
  | some (sequence, eventID) => appendExisting s session event sequence eventID
  | none => appendNew s session event prepared

end

/-! ## Archiving -/

/-- `Archive` and `Unarchive` of a session. -/
def setArchived (session : Session) (archived : Bool) (instant : Int) : Except StoreError Session :=
  if archived then session.archive instant else session.unarchive instant

/-- `ArchiveSession` and `UnarchiveSession`. -/
def transitionSession (s : State) (sessionID : SessionID) (archived : Bool) (instant : Int) : Except StoreError State := do
  validateOpaqueID "session_id" sessionID
  ensureSessionWritable s sessionID
  let session ← requireRow (s.sessions sessionID) (.missing "session" sessionID)
  let next ← setArchived session archived instant
  updateSession s next

/-- The answer to a mutation that was made before under this key: the session must still be as it left it. -/
def replayArchived (s : State) (session : Session) (archived : Bool) (recorded : SessionID × Bool) :
    Except StoreError (Session × State) :=
  if recorded.1 ≠ session.id ∨ recorded.2 ≠ archived then .error .sessionMutationConflict
  else if (archived ∧ session.status ≠ .archived) ∨ (¬ archived ∧ session.status ≠ .active) then
    .error .sessionMutationConflict
  else .ok (session, s)

def setSessionArchivedForUser (s : State) (userID : UserID) (sessionID : SessionID) (archived : Bool)
    (idempotencyKey : IdempotencyKey) (instant : Int) : Except StoreError (Session × State) := do
  validateOpaqueID "user_id" userID
  validateOpaqueID "session_id" sessionID
  if instant = 0 then .error (.validation "session.updated_at" "must not be zero")
  else do
    validateOpaqueID "idempotency_key" idempotencyKey
    authorizeSessionWrite s sessionID userID
    let session ← requireRow (s.sessions sessionID) .membershipDenied
    match s.sessionAPIMutations (userID, idempotencyKey) with
    | some recorded => replayArchived s session archived recorded
    | none => do
      let next ← setArchived session archived instant
      let s ← updateSession s next
      let mutations ← insertRow "session_api_mutations" s.sessionAPIMutations (userID, idempotencyKey) (sessionID, archived)
      return (next, { s with sessionAPIMutations := mutations })

end Sessionless.Store
