import Sessionless.Delivery.Outbox
import Sessionless.Protocol.Crypto
import Sessionless.Store.Run

/-!
# Delivery records

A row of `telegram_delivery_outbox` with everything it carries. What moves (`Delivery.Outbox`) is a part of it. A
delivery made from a frontend projection keeps the references by which it is authorized again before every send.
-/

namespace Sessionless.Delivery

open Lib Store Protocol

abbrev FrontendProjectionID := String

structure TelegramChatRef where
  tenantID : TenantID
  chatID : Int
deriving DecidableEq, Repr

def TelegramChatRef.validate (ref : TelegramChatRef) : Except StoreError Unit := do
  validateOpaqueID "tenant_id" ref.tenantID
  if ref.chatID = 0 then .error (.validation "chat_id" "must not be zero") else .ok ()

structure TelegramProjectionRef where
  projectionID : FrontendProjectionID
  sessionID : SessionID
  eventID : SessionEventID
  eventSequence : Nat
  bindingID : FrontendBindingID
  bindingRevision : Nat
  triggerEventID : SessionEventID
deriving DecidableEq, Repr

def TelegramProjectionRef.validate (ref : TelegramProjectionRef) : Except StoreError Unit := do
  validateOpaqueID "frontend_projection_id" ref.projectionID
  validateOpaqueID "session_id" ref.sessionID
  validateOpaqueID "session_event_id" ref.eventID
  if ref.eventSequence = 0 then .error (.validation "telegram_projection.event_sequence" "must be positive")
  else do
    validateOpaqueID "frontend_binding_id" ref.bindingID
    if ref.bindingRevision = 0 then .error (.validation "telegram_projection.binding_revision" "must be positive")
    else validateOpaqueID "session_event_id" ref.triggerEventID

structure DeliveryRecord where
  id : TelegramDeliveryID
  tenantID : TenantID
  runID : RunID
  chat : TelegramChatRef
  replyToMessageID : Int
  payload : BlobRef
  text : String
  artifactManifestID : Option ArtifactManifestID
  projection : Option TelegramProjectionRef
  status : DeliveryStatus
  idempotencyKey : IdempotencyKey
  attemptCount : UInt32
  nextAttemptAt : Option Int
  createdAt : Int
  updatedAt : Int
deriving DecidableEq, Repr

namespace DeliveryRecord

def outbox (record : DeliveryRecord) : TelegramDeliveryOutbox :=
  { id := record.id
    projection := record.projection.map (·.projectionID)
    status := record.status
    attemptCount := record.attemptCount
    nextAttemptAt := record.nextAttemptAt
    createdAt := record.createdAt
    updatedAt := record.updatedAt }

/-- The record after its moving part became `row`. -/
def withOutbox (record : DeliveryRecord) (row : TelegramDeliveryOutbox) : DeliveryRecord :=
  { record with
    status := row.status
    attemptCount := row.attemptCount
    nextAttemptAt := row.nextAttemptAt
    updatedAt := row.updatedAt }

def transition (record : DeliveryRecord) (target : DeliveryStatus) (instant : Int) (retryAt : Option Int) :
    Except StoreError DeliveryRecord := do
  let row ← record.outbox.transition target instant retryAt
  return record.withOutbox row

def validateProjection (record : DeliveryRecord) (run : Run) : Except StoreError Unit :=
  match record.projection with
  | none => .ok ()
  | some ref => do
    ref.validate
    if ref.sessionID ≠ run.sessionID ∨ ref.triggerEventID ≠ run.triggerEventID then
      .error (.validation "telegram_delivery.projection" "must reference the owning run session and trigger event")
    else .ok ()

/-- A delivery says either a text of its own or what an object holds. -/
def validateContent (record : DeliveryRecord) (run : Run) : Except StoreError Unit :=
  if !isBlankText record.text = (record.payload.key != "") then
    .error (.validation "telegram_delivery.content" "must contain exactly one of inline text or a blob payload")
  else if !isBlankText record.text then
    if record.text.length > 4096 then
      .error (.validation "telegram_delivery.text" "must not exceed 4096 Unicode characters")
    else .ok ()
  else do
    record.payload.validate
    ensureSameTenant run.tenantID record.payload.tenantID

def validateForRun (record : DeliveryRecord) (run : Run) : Except StoreError Unit := do
  run.validate
  validateOpaqueID "telegram_delivery_id" record.id
  ensureSameTenant run.tenantID record.tenantID
  if record.runID ≠ run.id then .error (.validation "telegram_delivery.run_id" "must reference the owning run")
  else do
    record.chat.validate
    ensureSameTenant run.tenantID record.chat.tenantID
    if record.replyToMessageID < 0 ∨ (record.replyToMessageID = 0 ∧ record.projection = none) then
      .error (.validation "telegram_delivery.reply_to_message_id"
        "must be positive for legacy delivery and non-negative for a projection")
    else do
      record.validateProjection run
      record.validateContent run
      record.artifactManifestID.forM (validateOpaqueID "artifact_manifest_id")
      validateOpaqueID "idempotency_key" record.idempotencyKey
      record.outbox.validateForRun

theorem transition_eq_ok {record next : DeliveryRecord} {target instant retryAt} :
    record.transition target instant retryAt = .ok next ↔
      ∃ row, record.outbox.transition target instant retryAt = .ok row ∧ record.withOutbox row = next := by
  simp [transition, bind_eq_ok, pure, Except.pure]

theorem outbox_withOutbox {record : DeliveryRecord} {row target instant retryAt} (h : record.outbox.transition target instant retryAt = .ok row) :
    (record.withOutbox row).outbox = row := by
  simp only [TelegramDeliveryOutbox.transition, ite_error_eq_ok, Except.ok.injEq] at h
  obtain ⟨-, -, -, rfl⟩ := h
  rfl

/-- What `ValidateForRun` asks of the part of a record that never changes. -/
structure ValidContent (record : DeliveryRecord) (run : Run) : Prop where
  valid : run.validate = .ok ()
  id : validateOpaqueID "telegram_delivery_id" record.id = .ok ()
  tenant : ensureSameTenant run.tenantID record.tenantID = .ok ()
  owning : record.runID = run.id
  chat : record.chat.validate = .ok ()
  chatTenant : ensureSameTenant run.tenantID record.chat.tenantID = .ok ()
  reply : ¬ (record.replyToMessageID < 0 ∨ (record.replyToMessageID = 0 ∧ record.projection = none))
  projection : record.validateProjection run = .ok ()
  content : record.validateContent run = .ok ()
  artifact : record.artifactManifestID.forM (validateOpaqueID "artifact_manifest_id") = .ok ()
  key : validateOpaqueID "idempotency_key" record.idempotencyKey = .ok ()

theorem validateForRun_ok {record : DeliveryRecord} {run} :
    record.validateForRun run = .ok () ↔ record.ValidContent run ∧ record.outbox.validateForRun = .ok () := by
  simp only [validateForRun, bind_eq_ok, exists_unit, ite_error_eq_ok, Decidable.not_not, ne_eq]
  constructor
  · rintro ⟨h1, h2, h3, h4, h5, h6, h7, h8, h9, h10, h11, hshape⟩
    exact ⟨⟨h1, h2, h3, h4, h5, h6, h7, h8, h9, h10, h11⟩, hshape⟩
  · rintro ⟨⟨h1, h2, h3, h4, h5, h6, h7, h8, h9, h10, h11⟩, hshape⟩
    exact ⟨h1, h2, h3, h4, h5, h6, h7, h8, h9, h10, h11, hshape⟩

end DeliveryRecord

/-! ## Projections -/

/-- A row of `frontend_projection_outbox`; its only status is pending. -/
structure FrontendProjection where
  id : FrontendProjectionID
  tenantID : TenantID
  sessionID : SessionID
  eventID : SessionEventID
  eventSequence : Nat
  eventKind : SessionEventKind
  bindingID : FrontendBindingID
  bindingRevision : Nat
  frontend : Frontend
  idempotencyKey : IdempotencyKey
  createdAt : Int
  updatedAt : Int
deriving DecidableEq, Repr

def FrontendProjection.validateFor (projection : FrontendProjection) (event : SessionEvent) (binding : FrontendBinding) :
    Except StoreError Unit := do
  event.validate
  if event.kind ≠ .assistantMessage ∧ event.kind ≠ .systemNotice then
    .error (.validation "frontend_projection.event_kind" "is not frontend-projectable")
  else do
    binding.validate
    validateOpaqueID "frontend_projection_id" projection.id
    ensureSameTenant event.tenantID projection.tenantID
    ensureSameTenant event.tenantID binding.tenantID
    if projection.sessionID ≠ event.sessionID ∨ projection.sessionID ≠ binding.sessionID then
      .error (.validation "frontend_projection.session_id" "must reference the event and binding session")
    else if projection.eventID ≠ event.id ∨ projection.eventSequence ≠ event.sequence ∨ projection.eventKind ≠ event.kind then
      .error (.validation "frontend_projection.event" "must reference the canonical event")
    else if projection.bindingID ≠ binding.id ∨ projection.bindingRevision ≠ binding.revision ∨
        projection.frontend ≠ binding.frontend then
      .error (.validation "frontend_projection.binding" "must snapshot the current binding")
    else do
      validateOpaqueID "idempotency_key" projection.idempotencyKey
      if projection.createdAt = 0 ∨ projection.updatedAt < projection.createdAt then
        .error (.validation "frontend_projection.updated_at" "must not be before created_at")
      else .ok ()

/-! ## Identifiers and buckets -/

section

variable [Crypto]

def bucketCountV1 : Nat := 16

/-- `BucketV1`: the first four bytes of the digest, read big-endian. -/
def bucketV1 (identifier : String) : Except StoreError Nat :=
  if identifier = "" then .error (.validation "partition identifier" "must not be empty")
  else .ok (((Crypto.sha256 (utf8 identifier)).val.take 4).foldl (fun n b => n * 256 + b.toNat) 0 % bucketCountV1)

def stableIdentifier (start value : String) : String :=
  start ++ "-" ++ hex ((Crypto.sha256 (utf8 value)).val.take 16)

def telegramProjectionDeliveryID (projectionID : FrontendProjectionID) : TelegramDeliveryID :=
  stableIdentifier "tdl" projectionID

end

/-- The digits of `strconv.ParseInt` in base 10. -/
def parseDigits : List Char → Option Nat
  | [] => none
  | digits => if digits.all Char.isDigit then some (digits.foldl (fun n c => n * 10 + (c.toNat - 48)) 0) else none

/-- `strconv.ParseInt(value, 10, 64)`. -/
def parseInt64 (value : String) : Option Int :=
  match value.toList with
  | '-' :: digits => (parseDigits digits).bind fun n => if n ≤ 9223372036854775808 then some (-n) else none
  | '+' :: digits => (parseDigits digits).bind fun n => if n ≤ 9223372036854775807 then some n else none
  | digits => (parseDigits digits).bind fun n => if n ≤ 9223372036854775807 then some n else none

end Sessionless.Delivery
