import Sessionless.Delivery.Tables

/-!
# Materializing a projection

`MaterializeTelegramProjection` turns a row of the projection outbox into a delivery, in one
transaction that also deletes the row. It is called twice: without content, to learn which objects to read,
and with the content read from them.
-/

namespace Sessionless.Delivery

open Store Protocol

structure TelegramProjectionContext where
  projection : FrontendProjection
  event : SessionEvent
  run : Run
  trigger : SessionEvent
  binding : Option FrontendBinding

structure TelegramProjectionContent where
  eventPayload : BlobRef
  triggerPayload : BlobRef
  replyToMessageID : Int
  triggerChatID : Int
  artifactManifestID : Option ArtifactManifestID
deriving DecidableEq, Repr

inductive ProjectionOutcome where
  | noop | terminal | needsContent | materialized
deriving DecidableEq, Repr

structure TelegramProjectionResult where
  outcome : ProjectionOutcome
  code : String
  deliveryID : TelegramDeliveryID
deriving DecidableEq, Repr

/-! ## Resolving the references -/

/-- The canonical event of a projection and the ended run it belongs to. -/
def resolveEvent (s : State) (projection : FrontendProjection) : Except StoreError (SessionEvent × Run) := do
  let event ← requireRow (s.sessionEvents (projection.sessionID, projection.eventSequence))
    (.missing "canonical event" projection.id)
  if event.id ≠ projection.eventID ∨ event.kind ≠ projection.eventKind then
    .error (.validation "frontend_projection.event" "does not match the canonical event")
  else match event.runID with
  | none => .error (.validation "frontend_projection.event" "does not match the canonical event")
  | some runID => do
    validateOpaqueID "run_id" runID
    let run ← requireRow (s.runs runID) (.missing "owning run" projection.id)
    if run.sessionID ≠ projection.sessionID then .error (.missing "owning run" projection.id)
    else do
      run.validate
      if ¬ run.status.terminal then .error (.validation "frontend_projection.run" "must be terminal")
      else return (event, run)

def resolveTrigger (s : State) (projection : FrontendProjection) (run : Run) : Except StoreError (SessionEvent × UserID) := do
  let missing := StoreError.missing "canonical trigger event" projection.id
  let trigger ← requireRow (eventByID s run.sessionID run.triggerEventID) missing
  if trigger.id ≠ run.triggerEventID ∨ trigger.kind ≠ .userMessage then .error missing
  else match trigger.authorUserID with
  | none => .error missing
  | some userID => do
    trigger.validate
    return (trigger, userID)

/-- Why a projection whose binding is there can not be delivered any more, if so. -/
def projectionCode (s : State) (projection : FrontendProjection) (event : SessionEvent) (userID : UserID)
    (binding : FrontendBinding) : Except StoreError (Option String) := do
  projection.validateFor event { binding with sessionID := projection.sessionID, revision := projection.bindingRevision }
  if binding.sessionID ≠ projection.sessionID ∨ binding.revision ≠ projection.bindingRevision then return some "binding_stale"
  else do
    let code ← sessionCode s projection.sessionID
      (.validation "frontend_projection.session" "does not match the canonical session")
    match code with
    | some code => return some code
    | none => return authorCode s projection.sessionID userID

def resolveTelegramProjection (s : State) (projection : FrontendProjection) :
    Except StoreError (TelegramProjectionContext × Option String) := do
  let (event, run) ← resolveEvent s projection
  let (trigger, userID) ← resolveTrigger s projection run
  match s.frontendBindings projection.bindingID with
  | none => return (⟨projection, event, run, trigger, none⟩, some "binding_missing")
  | some binding => do
    let code ← projectionCode s projection event userID binding
    return (⟨projection, event, run, trigger, some binding⟩, code)

/-! ## The delivery -/

/-- The manifest that an answer comes with; a notice has none. -/
def checkManifest (s : State) (resolved : TelegramProjectionContext) (content : TelegramProjectionContent) :
    Except StoreError Unit :=
  match resolved.event.kind with
  | .assistantMessage =>
    match content.artifactManifestID with
    | none => .error (.validation "Telegram projection artifact manifest" "is required for an assistant event")
    | some manifestID => do
      let manifest ← requireRow (s.artifactManifests manifestID) (.missing "artifact manifest" manifestID)
      manifest.validateForRun resolved.run
  | .systemNotice =>
    if content.artifactManifestID ≠ none then
      .error (.validation "Telegram projection artifact manifest" "is not allowed for a system notice")
    else .ok ()
  | _ => .error (.validation "Telegram projection event kind" "is not projectable to Telegram")

section

variable [Crypto]

def projectedDelivery (tenantID : TenantID) (resolved : TelegramProjectionContext) (content : TelegramProjectionContent)
    (instant : Int) : DeliveryRecord :=
  { id := telegramProjectionDeliveryID resolved.projection.id
    tenantID := tenantID
    runID := resolved.run.id
    chat := ⟨tenantID, content.triggerChatID⟩
    replyToMessageID := content.replyToMessageID
    payload := resolved.event.payload
    text := ""
    artifactManifestID := content.artifactManifestID
    projection := some
      { projectionID := resolved.projection.id
        sessionID := resolved.projection.sessionID
        eventID := resolved.projection.eventID
        eventSequence := resolved.projection.eventSequence
        bindingID := resolved.projection.bindingID
        bindingRevision := resolved.projection.bindingRevision
        triggerEventID := resolved.run.triggerEventID }
    status := .pending
    idempotencyKey := resolved.projection.idempotencyKey
    attemptCount := 0
    nextAttemptAt := none
    createdAt := instant
    updatedAt := instant }

/-- The content must be the one of the resolved references, and the trigger must come from the bound conversation. -/
def checkContent (s : State) (resolved : TelegramProjectionContext) (content : TelegramProjectionContent) :
    Except StoreError Unit :=
  if content.eventPayload ≠ resolved.event.payload ∨ content.triggerPayload ≠ resolved.trigger.payload then
    .error (.validation "Telegram projection payload" "must preserve the exact canonical blob references")
  else if content.replyToMessageID < 0 ∨ content.triggerChatID = 0 then
    .error (.validation "Telegram projection origin" "contains an invalid Telegram message or chat identifier")
  else if resolved.binding.bind (fun binding => parseInt64 binding.externalConversationID) ≠ some content.triggerChatID then
    .error (.validation "Telegram projection binding" "does not match the canonical trigger origin")
  else checkManifest s resolved content

def Database.deleteFrontendProjection (db : Database) (tenantID : TenantID) (projectionID : FrontendProjectionID) : Database :=
  { db with projections := db.projections.delete (tenantID, projectionID) }

def Database.materializeTelegramProjection (db : Database) (tenantID : TenantID) (projectionID : FrontendProjectionID)
    (content : Option TelegramProjectionContent) (instant : Int) :
    Except StoreError (TelegramProjectionResult × Database) := do
  validateOpaqueID "frontend_projection_id" projectionID
  if instant = 0 then .error (.validation "Telegram projection time" "must not be zero")
  else match db.projections (tenantID, projectionID) with
  | none => return (⟨.noop, "projection_missing", ""⟩, db)
  | some projection => do
    let (resolved, code) ← resolveTelegramProjection (db.tenants tenantID) projection
    let deliveryID := telegramProjectionDeliveryID projection.id
    if projection.frontend ≠ "telegram" then return (⟨.noop, "frontend_not_telegram", deliveryID⟩, db)
    else match code with
    | some code => return (⟨.terminal, code, deliveryID⟩, db.deleteFrontendProjection tenantID projection.id)
    | none =>
      match content with
      | none => return (⟨.needsContent, "canonical_content_required", deliveryID⟩, db)
      | some content => do
        checkContent (db.tenants tenantID) resolved content
        let db ← db.putTelegramDeliveryOutbox tenantID (projectedDelivery tenantID resolved content instant)
        return (⟨.materialized, "delivery_created", deliveryID⟩, db.deleteFrontendProjection tenantID projection.id)

end

end Sessionless.Delivery
