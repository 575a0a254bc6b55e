import Sessionless.Delivery.Record
import Sessionless.Store.Sessions

/-!
# The tables of the outbox

`telegram_delivery_outbox` with its copy by run and its ready index, for all tenants. Every writer ends in
`PutTelegramDeliveryOutbox`, which keeps the three tables together. The ready index is ordered by a `Timestamp`
column, which holds microseconds. The indexes of the projection outbox are left out.
-/

namespace Sessionless.Delivery

open Lib Store Protocol

/-- A `Timestamp` column keeps whole microseconds. -/
def timestamp (instant : Int) : Int := instant / 1000

/-- A row of `telegram_delivery_ready_v2`; all but the run is its primary key. -/
structure ReadyRow where
  bucket : Nat
  availableAt : Int
  tenantID : TenantID
  deliveryID : TelegramDeliveryID
  runID : RunID
deriving DecidableEq, Repr

def ReadyRow.sameKey (row other : ReadyRow) : Bool :=
  row.bucket = other.bucket ∧ row.availableAt = other.availableAt ∧ row.tenantID = other.tenantID ∧
    row.deliveryID = other.deliveryID

theorem sameKey_iff {row other : ReadyRow} : row.sameKey other = true ↔ row.bucket = other.bucket ∧
    row.availableAt = other.availableAt ∧ row.tenantID = other.tenantID ∧ row.deliveryID = other.deliveryID := by
  simp [ReadyRow.sameKey]

structure Database where
  tenants : TenantID → State
  tenants_id : ∀ tenantID, (tenants tenantID).tenantID = tenantID
  projections : Table (TenantID × FrontendProjectionID) FrontendProjection
  outbox : Table (TenantID × TelegramDeliveryID) DeliveryRecord
  byRun : Table (TenantID × RunID × TelegramDeliveryID) DeliveryRecord
  ready : List ReadyRow

/-! ## Putting a record -/

def telegramDeliveryAvailableAt (record : DeliveryRecord) : Int :=
  match record.nextAttemptAt with
  | some next => next
  | none => if record.status = .sending then record.updatedAt + telegramDeliveryClaimTimeout else record.updatedAt

def owningRun (s : State) (tenantID : TenantID) (runID : RunID) : Except StoreError Run := do
  ensureSameTenant s.tenantID tenantID
  validateOpaqueID "run_id" runID
  let run ← requireRow (s.runs runID) (.missing "run" runID)
  ensureSessionWritable s run.sessionID
  return run

section

variable [Crypto]

/-- The ready row that a record has while it waits or is being sent. -/
def readyRow (bucket : Nat) (record : DeliveryRecord) : ReadyRow :=
  { bucket, availableAt := timestamp (telegramDeliveryAvailableAt record), tenantID := record.tenantID
    deliveryID := record.id, runID := record.runID }

/-- The ready index without the row of the record that is about to be replaced. -/
def withoutPrevious (ready : List ReadyRow) (record : DeliveryRecord) (previous : Option DeliveryRecord) :
    Except StoreError (List ReadyRow) :=
  match previous with
  | none => .ok ready
  | some previous =>
    if previous.runID ≠ record.runID then
      .error (.validation "telegram_delivery.run_id" "cannot change after the delivery is created")
    else do
      let bucket ← bucketV1 previous.id
      return ready.filter fun row => !row.sameKey (readyRow bucket previous)

/-- `UPSERT`: the row takes the place of the one with its key. -/
def upsertReady (ready : List ReadyRow) (row : ReadyRow) : List ReadyRow :=
  row :: ready.filter fun other => !other.sameKey row

def Database.putTelegramDeliveryOutbox (db : Database) (tenantID : TenantID) (record : DeliveryRecord) :
    Except StoreError Database := do
  let run ← owningRun (db.tenants tenantID) record.tenantID record.runID
  let bucket ← bucketV1 record.id
  record.validateForRun run
  let ready ← withoutPrevious db.ready record (db.outbox (record.tenantID, record.id))
  return { db with
    outbox := db.outbox.upsert (record.tenantID, record.id) record
    byRun := db.byRun.upsert (record.tenantID, record.runID, record.id) record
    ready := if record.status.terminal then ready else upsertReady ready (readyRow bucket record) }

end

/-! ## May a projected delivery still be sent -/

/-- The event of a session with an identifier; a session has the sequences up to its last one. -/
def eventByID (s : State) (sessionID : SessionID) (eventID : SessionEventID) : Option SessionEvent :=
  (s.sessions sessionID).bind fun session =>
    (List.range (session.lastEventSequence + 1)).findSome? fun sequence =>
      (s.sessionEvents (sessionID, sequence)).filter (·.id = eventID)

/-- `Authorize` for the read permission. -/
def authorizeRead (membership : TenantMembership) (userID : UserID) (tenantID : TenantID) : Except StoreError Unit := do
  membership.validate
  if membership.userID ≠ userID ∨ membership.tenantID ≠ tenantID ∨ membership.status ≠ .active then .error .membershipDenied
  else .ok ()

/-- Why the author of the trigger may no longer read the answer, if so. -/
def authorCode (s : State) (sessionID : SessionID) (userID : UserID) : Option String :=
  match s.memberships userID with
  | none => some "membership_revoked"
  | some membership =>
    if membership.status ≠ .active ∨ authorizeRead membership userID s.tenantID ≠ .ok () then some "membership_revoked"
    else match s.sessionParticipants (sessionID, userID) with
    | none => some "participant_removed"
    | some participant =>
      if participant.status ≠ .active ∨ participant.authorize s.tenantID sessionID userID false ≠ .ok () then
        some "participant_removed"
      else none

/-- Why the session of a projection can not be projected, if so. -/
def sessionCode (s : State) (sessionID : SessionID) (mismatch : StoreError) : Except StoreError (Option String) :=
  match s.sessions sessionID with
  | none => .ok (some "session_missing")
  | some session => do
    session.validate
    if session.tenantID ≠ s.tenantID ∨ session.id ≠ sessionID then .error mismatch
    else if session.status = .archived then .ok (some "session_archived")
    else .ok none

/-- The user message that triggered the run of a delivery, with its author. -/
def triggerAuthor (s : State) (ref : TelegramProjectionRef) : Except StoreError UserID :=
  let mismatch := StoreError.validation "Telegram delivery trigger" "does not reference a canonical user event"
  match eventByID s ref.sessionID ref.triggerEventID with
  | none => .error mismatch
  | some trigger =>
    if trigger.id ≠ ref.triggerEventID ∨ trigger.kind ≠ .userMessage then .error mismatch
    else match trigger.authorUserID with
    | none => .error mismatch
    | some userID => do
      trigger.validate
      return userID

/-- The event and the run that a projected delivery refers to. -/
def checkReferences (s : State) (record : DeliveryRecord) (ref : TelegramProjectionRef) : Except StoreError Unit := do
  ref.validate
  let eventMismatch := StoreError.validation "Telegram delivery canonical event" "does not match its immutable projection reference"
  let event ← requireRow (s.sessionEvents (ref.sessionID, ref.eventSequence)) eventMismatch
  if event.id ≠ ref.eventID ∨ event.runID ≠ some record.runID ∨ event.payload ≠ record.payload ∨
      (event.kind ≠ .assistantMessage ∧ event.kind ≠ .systemNotice) then .error eventMismatch
  else do
    event.validate
    validateOpaqueID "run_id" record.runID
    let runMismatch := StoreError.validation "Telegram delivery run" "does not match its immutable projection reference"
    let run ← requireRow (s.runs record.runID) runMismatch
    if run.sessionID ≠ ref.sessionID ∨ run.triggerEventID ≠ ref.triggerEventID then .error runMismatch
    else do
      run.validate
      if ¬ run.status.terminal then .error (.validation "Telegram delivery run" "must remain terminal") else .ok ()

/-- The conversation is bound as it was when the delivery was made: why the delivery may still not be sent, if so. -/
def liveBindingCode (s : State) (record : DeliveryRecord) (ref : TelegramProjectionRef) (binding : FrontendBinding) :
    Except StoreError (Option String) :=
  if parseInt64 binding.externalConversationID ≠ some record.chat.chatID ∨ record.chat.chatID = 0 ∨
      record.chat.tenantID ≠ s.tenantID then
    .error (.validation "Telegram delivery chat" "does not match the live binding")
  else do
    let code ← sessionCode s ref.sessionID
      (.validation "Telegram delivery session" "does not match its immutable projection reference")
    match code with
    | some code => return some code
    | none =>
      let userID ← triggerAuthor s ref
      return authorCode s ref.sessionID userID

def authorizeTelegramProjectionDelivery (s : State) (record : DeliveryRecord) : Except StoreError (Option String) :=
  match record.projection with
  | none => .ok none
  | some ref => do
    checkReferences s record ref
    match s.frontendBindings ref.bindingID with
    | none => return some "binding_missing"
    | some binding =>
      if binding.frontend ≠ "telegram" ∨ binding.sessionID ≠ ref.sessionID ∨ binding.revision ≠ ref.bindingRevision then
        return some "binding_stale"
      else liveBindingCode s record ref binding

/-! ## Claims and outcomes -/

section

variable [Crypto]

/-- What a claim decides about the record it finds: the record to write, and whether the caller holds it. -/
inductive Decision where
  | nothing
  | already
  | write (record : DeliveryRecord) (claimed : Bool)

def decideClaim (s : State) (record : DeliveryRecord) (instant : Int) : Except StoreError Decision := do
  let code ← authorizeTelegramProjectionDelivery s record
  if code.isSome then
    if record.status.terminal then return .already
    else do
      let record ← record.transition .cancelled instant none
      return .write record false
  else match record.status with
  | .pending | .retryWait =>
    if ∃ next ∈ record.nextAttemptAt, instant < next then return .nothing
    else do
      let record ← record.transition .sending instant none
      return .write record true
  | .sending =>
    if instant < record.updatedAt + telegramDeliveryClaimTimeout then return .nothing
    else return .write { record with attemptCount := record.attemptCount + 1, updatedAt := instant } true
  | .sent | .failed | .cancelled => return .nothing

/-- The answer of `ClaimTelegramDelivery`, and the database. -/
def Database.claimTelegramDelivery (db : Database) (tenantID : TenantID) (deliveryID : TelegramDeliveryID)
    (instant : Int) : Except StoreError (Option DeliveryRecord × Bool × Database) :=
  if instant = 0 then .error (.validation "Telegram delivery claim time" "must not be zero")
  else match db.outbox (tenantID, deliveryID) with
  | none => .ok (none, false, db)
  | some record => do
    let decision ← decideClaim (db.tenants tenantID) record instant
    match decision with
    | .nothing => return (none, false, db)
    | .already => return (some record, false, db)
    | .write record claimed =>
      let db ← db.putTelegramDeliveryOutbox tenantID record
      return (some record, claimed, db)

def Database.transitionTelegramDelivery (db : Database) (tenantID : TenantID) (deliveryID : TelegramDeliveryID)
    (target : DeliveryStatus) (instant : Int) (retryAt : Option Int) : Except StoreError Database :=
  match db.outbox (tenantID, deliveryID) with
  | none => .error (.missing "Telegram delivery" deliveryID)
  | some record =>
    if record.status = target then .ok db
    else do
      let record ← record.transition target instant retryAt
      db.putTelegramDeliveryOutbox tenantID record

end

end Sessionless.Delivery
