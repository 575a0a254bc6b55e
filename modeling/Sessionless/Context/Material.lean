import Sessionless.Lib.Calendar
import Sessionless.Lib.JsonText
import Sessionless.Protocol.Crypto
import Sessionless.Store.Session

/-!
# Material prefixes

Beside every canonical append the store keeps a running account of the session's material: its events by kind, how
many were measured, and their bytes. `FoldSessionMaterialV1` adds one event. Counters stop at the largest `int64`, and
an account that is not complete says why.
-/

namespace Sessionless.Context

open Lib Store Protocol

def recordSchemaV1 : String := "sessionless.context-event.v1"

/-- `canonicalprompt.ContractV1`. -/
def contractV1 : String := "codex-text-v1"

/-- `canonicalprompt.MaxFrameBytesV1`. -/
def maxFrameBytesV1 : Nat := 1048576

def maxMeasuredPayloadBytesV1 : Nat := 1048576

def maxMeasuredMetadataBytesV1 : Nat := 8192

def maxMeasuredEncodedRecordBytesV1 : Nat := maxMeasuredPayloadBytesV1 + maxMeasuredMetadataBytesV1

def maxSessionMaterialPrefixBytesV1 : Nat := 8192

/-- `math.MaxInt64`. -/
def maxInt64 : Nat := 9223372036854775807

/-- `math.MaxUint64`. -/
def maxUint64 : Nat := 18446744073709551615

/-! ## Measures -/

structure MeasuresV1 where
  kind : SessionEventKind
  payloadBytes : Nat
  toolEnvelopeBytes : Nat
  attachmentCount : Nat
  referencedAttachmentBytes : Nat
  codexCompatible : Bool
  renderedFrameBytes : Nat
deriving DecidableEq, Repr

structure RecordMeasureV1 where
  event : SessionEvent
  encodedBytes : Nat
  digest : String
  verified : Bool
deriving DecidableEq, Repr

structure FinalMaterialMeasureV1 where
  record : RecordMeasureV1
  measures : MeasuresV1
  verified : Bool
deriving DecidableEq, Repr

/-- Times are compared as instants. -/
def sameMeasuredEvent (left right : SessionEvent) : Bool :=
  { left with createdAtOffset := 0 } = { right with createdAtOffset := 0 }

def createdAtText (event : SessionEvent) : String := Calendar.rfc3339Nano event.createdAt event.createdAtOffset

def RecordMeasureV1.matchesEvent (measure : RecordMeasureV1) (event : SessionEvent) : Bool :=
  measure.verified && sameMeasuredEvent measure.event event && createdAtText measure.event = createdAtText event

def FinalMaterialMeasureV1.matchesEvent (measure : FinalMaterialMeasureV1) (event : SessionEvent) : Bool :=
  measure.verified && measure.record.matchesEvent event

/-! ## Contributions -/

structure SessionMaterialContributionV1 where
  version : Nat
  eventID : SessionEventID
  sequence : Nat
  kind : SessionEventKind
  identityDigest : String
  recordDigest : String
  verified : Bool
  payloadBytes : Nat
  encodedRecordBytes : Nat
  toolEnvelopeBytes : Nat
  attachmentCount : Nat
  referencedAttachmentBytes : Nat
  codexCompatible : Bool
  renderedFrameBytes : Nat
deriving DecidableEq, Repr

/-- A digit, or a lower-case letter up to `f`. -/
def isLowerHex (b : UInt8) : Bool := (48 ≤ b.toNat && b.toNat ≤ 57) || (97 ≤ b.toNat && b.toNat ≤ 102)

def materialDigest (value : String) : Prop := (utf8 value).length = 64 ∧ (utf8 value).all isLowerHex
deriving Decidable

/-- The identifier passes `Validate`. -/
def validID (value : String) : Prop := validateOpaqueID "" value = .ok ()

instance (value : String) : Decidable (validID value) := inferInstanceAs (Decidable (_ = _))

namespace SessionMaterialContributionV1

def Blank (c : SessionMaterialContributionV1) : Prop :=
  c.recordDigest = "" ∧ c.payloadBytes = 0 ∧ c.encodedRecordBytes = 0 ∧ c.toolEnvelopeBytes = 0 ∧ c.attachmentCount = 0 ∧
    c.referencedAttachmentBytes = 0 ∧ c.codexCompatible = false ∧ c.renderedFrameBytes = 0
deriving Decidable

def Measured (c : SessionMaterialContributionV1) : Prop :=
  (materialDigest c.recordDigest ∧ c.payloadBytes ≠ 0 ∧ c.payloadBytes ≤ maxMeasuredPayloadBytesV1 ∧
    c.payloadBytes ≤ c.encodedRecordBytes ∧ c.encodedRecordBytes ≤ maxMeasuredEncodedRecordBytesV1 ∧
    c.attachmentCount ≤ 64 ∧ c.referencedAttachmentBytes ≤ maxInt64) ∧
  ((c.kind.isTool → c.toolEnvelopeBytes = c.payloadBytes) ∧
    (¬ c.kind.isTool → c.toolEnvelopeBytes = 0) ∧
    (c.kind ≠ .userMessage → c.attachmentCount = 0) ∧ (c.attachmentCount = 0 → c.referencedAttachmentBytes = 0)) ∧
  (c.codexCompatible → (c.kind = .userMessage ∨ c.kind = .assistantMessage) ∧ c.attachmentCount = 0 ∧
    c.renderedFrameBytes ≠ 0 ∧ c.renderedFrameBytes ≤ maxFrameBytesV1) ∧
  (¬ c.codexCompatible → c.renderedFrameBytes = 0)
deriving Decidable

/-- `validate`. -/
def Valid (c : SessionMaterialContributionV1) : Prop :=
  (c.version = 1 ∧ validID c.eventID ∧ c.sequence ≠ 0 ∧ materialDigest c.identityDigest) ∧
    (¬ c.verified → c.Blank) ∧ (c.verified → c.Measured)
deriving Decidable

end SessionMaterialContributionV1

/-! ## Prefixes -/

inductive SessionMaterialCoverageV1 where
  | complete | unknown
deriving DecidableEq, Repr

/-- The bits of `SessionMaterialUnknownReasonsV1`. -/
structure SessionMaterialUnknownReasonsV1 where
  legacy : Bool
  missingInvalid : Bool
  unsupported : Bool
  nonRoundTrip : Bool
  saturated : Bool
deriving DecidableEq, Repr

namespace SessionMaterialUnknownReasonsV1

def none : SessionMaterialUnknownReasonsV1 := ⟨false, false, false, false, false⟩

def missing (reasons : SessionMaterialUnknownReasonsV1) : Bool :=
  reasons.missingInvalid || reasons.unsupported || reasons.nonRoundTrip

end SessionMaterialUnknownReasonsV1

structure SessionMaterialPrefixV1 where
  version : Nat
  tenantID : TenantID
  sessionID : SessionID
  throughSequence : Nat
  lastEventID : SessionEventID
  recordSchema : String
  rendererContract : String
  coverage : SessionMaterialCoverageV1
  unknownReasons : SessionMaterialUnknownReasonsV1
  prefixDigest : String
  lastContribution : Option SessionMaterialContributionV1
  userMessageCount : Nat
  assistantMessageCount : Nat
  toolCallCount : Nat
  toolResultCount : Nat
  systemNoticeCount : Nat
  verifiedPayloadBytes : Nat
  encodedJSONLBytes : Nat
  maxEncodedRecordBytes : Nat
  toolEnvelopeBytes : Nat
  attachmentCount : Nat
  referencedAttachmentBytes : Nat
  codexCompatibleRecords : Nat
  codexIncompatibleRecords : Nat
  renderedFrameBytes : Nat
  unknownRecords : Nat
deriving DecidableEq, Repr

section

variable [Crypto]

/-- A frame of a digest: the length of a text in eight bytes, and its bytes. -/
def materialFrame (value : Bytes) : Bytes := uint64 value.length ++ value

def materialUint (value : Nat) : Bytes := materialFrame (uint64 value)

def seedInput (domainName : String) (tenantID : TenantID) (sessionID : SessionID) (sequence : Nat) : Bytes :=
  materialFrame (utf8 domainName) ++ materialFrame (utf8 tenantID) ++ materialFrame (utf8 sessionID) ++ materialUint sequence

def materialSeedDigest (domainName : String) (tenantID : TenantID) (sessionID : SessionID) (sequence : Nat) : String :=
  hex (Crypto.sha256 (seedInput domainName tenantID sessionID sequence)).val

/-- An optional identifier is framed with the word for its presence. -/
def materialOption (value : Option String) : Bytes :=
  match value with
  | none => materialFrame (utf8 "absent")
  | some value => materialFrame (utf8 "present") ++ materialFrame (utf8 value)

def identityInput (event : SessionEvent) : Bytes :=
  materialFrame (utf8 "sessionless.session-material.final-identity.v1") ++
    materialFrame (utf8 event.id) ++ materialFrame (utf8 event.tenantID) ++ materialFrame (utf8 event.sessionID) ++
    materialUint event.sequence ++ materialFrame (utf8 event.kind.text) ++ materialOption event.authorUserID ++
    materialOption event.runID ++ materialFrame (utf8 event.idempotencyKey) ++ materialFrame (utf8 event.payload.tenantID) ++
    materialFrame (utf8 event.payload.key) ++ materialUint event.payload.size.toNat ++
    materialFrame (utf8 event.payload.sha256) ++ materialFrame (utf8 (Calendar.rfc3339Nano event.createdAt 0)) ++
    materialFrame (utf8 (createdAtText event))

def materialIdentityDigest (event : SessionEvent) : String := hex (Crypto.sha256 (identityInput event)).val

/-- `materialBase`, with the digest it is given next. -/
def materialBase (tenantID : TenantID) (sessionID : SessionID) (digest : String) : SessionMaterialPrefixV1 :=
  { version := 1, tenantID, sessionID, throughSequence := 0, lastEventID := "", recordSchema := recordSchemaV1
    rendererContract := contractV1, coverage := .complete, unknownReasons := .none, prefixDigest := digest
    lastContribution := none, userMessageCount := 0, assistantMessageCount := 0, toolCallCount := 0, toolResultCount := 0
    systemNoticeCount := 0, verifiedPayloadBytes := 0, encodedJSONLBytes := 0, maxEncodedRecordBytes := 0
    toolEnvelopeBytes := 0, attachmentCount := 0, referencedAttachmentBytes := 0, codexCompatibleRecords := 0
    codexIncompatibleRecords := 0, renderedFrameBytes := 0, unknownRecords := 0 }

def genesis (tenantID : TenantID) (sessionID : SessionID) : SessionMaterialPrefixV1 :=
  materialBase tenantID sessionID (materialSeedDigest "sessionless.session-material.genesis.v1" tenantID sessionID 0)

def unknownPrefix (tenantID : TenantID) (sessionID : SessionID) (priorSequence : Nat) : SessionMaterialPrefixV1 :=
  { materialBase tenantID sessionID
      (materialSeedDigest "sessionless.session-material.unknown-legacy.v1" tenantID sessionID priorSequence) with
    throughSequence := priorSequence
    coverage := .unknown
    unknownReasons := ⟨true, false, false, false, maxInt64 < priorSequence⟩
    unknownRecords := min priorSequence maxInt64 }

def newSessionMaterialGenesisV1 (tenantID : TenantID) (sessionID : SessionID) : Except StoreError SessionMaterialPrefixV1 :=
  if validID tenantID ∧ validID sessionID then .ok (genesis tenantID sessionID) else .error .sessionMaterialPrefix

def newUnknownSessionMaterialPrefixV1 (tenantID : TenantID) (sessionID : SessionID) (priorSequence : Nat) :
    Except StoreError SessionMaterialPrefixV1 :=
  if validID tenantID ∧ validID sessionID then .ok (unknownPrefix tenantID sessionID priorSequence)
  else .error .sessionMaterialPrefix

end

namespace SessionMaterialPrefixV1

def kindCount (p : SessionMaterialPrefixV1) : SessionEventKind → Nat
  | .userMessage => p.userMessageCount
  | .assistantMessage => p.assistantMessageCount
  | .toolCall => p.toolCallCount
  | .toolResult => p.toolResultCount
  | .systemNotice => p.systemNoticeCount

def counters (p : SessionMaterialPrefixV1) : List Nat :=
  [p.userMessageCount, p.assistantMessageCount, p.toolCallCount, p.toolResultCount, p.systemNoticeCount,
    p.verifiedPayloadBytes, p.encodedJSONLBytes, p.maxEncodedRecordBytes, p.toolEnvelopeBytes, p.attachmentCount,
    p.referencedAttachmentBytes, p.codexCompatibleRecords, p.codexIncompatibleRecords, p.renderedFrameBytes, p.unknownRecords]

end SessionMaterialPrefixV1

/-- The sum of the values, where it stays within the ceiling. -/
def materialSumWithin (ceiling : Nat) (values : List Nat) : Option Nat :=
  if values.sum ≤ ceiling then some values.sum else none

/-! ## Validation

The clauses of `Validate` in the order of the source. -/

namespace SessionMaterialPrefixV1

def WellFormed (p : SessionMaterialPrefixV1) : Prop :=
  p.version = 1 ∧ validID p.tenantID ∧ validID p.sessionID ∧ p.recordSchema = recordSchemaV1 ∧
    p.rendererContract = contractV1 ∧ materialDigest p.prefixDigest ∧
    (p.coverage = .complete ↔ p.unknownReasons = .none)
deriving Decidable

def Capped (p : SessionMaterialPrefixV1) : Prop :=
  (∀ value ∈ p.counters, value ≤ maxInt64) ∧ (p.unknownReasons.saturated → maxInt64 ∈ p.counters)
deriving Decidable

def Anchored (p : SessionMaterialPrefixV1) (c : SessionMaterialContributionV1) : Prop :=
  p.throughSequence ≠ 0 ∧ validID p.lastEventID ∧ c.Valid ∧ c.eventID = p.lastEventID ∧ c.sequence = p.throughSequence
deriving Decidable

def kindSum (p : SessionMaterialPrefixV1) : Option Nat :=
  materialSumWithin p.throughSequence
    [p.userMessageCount, p.assistantMessageCount, p.toolCallCount, p.toolResultCount, p.systemNoticeCount]

def renderSum (p : SessionMaterialPrefixV1) : Option Nat :=
  materialSumWithin p.throughSequence [p.codexCompatibleRecords, p.codexIncompatibleRecords, p.unknownRecords]

def Counted (p : SessionMaterialPrefixV1) : Prop :=
  p.kindSum.isSome ∧ p.renderSum.isSome ∧ (¬ p.unknownReasons.saturated → p.renderSum = some p.throughSequence) ∧
    (¬ p.unknownReasons.legacy ∧ ¬ p.unknownReasons.saturated → p.kindSum = some p.throughSequence) ∧
    (p.coverage = .complete → p.kindSum = some p.throughSequence ∧ p.renderSum = some p.throughSequence ∧
      p.unknownRecords = 0)
deriving Decidable

def BytesOrdered (p : SessionMaterialPrefixV1) : Prop :=
  p.maxEncodedRecordBytes ≤ maxMeasuredEncodedRecordBytesV1 ∧ p.maxEncodedRecordBytes ≤ p.encodedJSONLBytes ∧
    (p.encodedJSONLBytes = 0 ↔ p.maxEncodedRecordBytes = 0) ∧ p.verifiedPayloadBytes ≤ p.encodedJSONLBytes ∧
    p.toolEnvelopeBytes ≤ p.verifiedPayloadBytes ∧ (p.attachmentCount = 0 → p.referencedAttachmentBytes = 0) ∧
    (p.codexCompatibleRecords = 0 → p.renderedFrameBytes = 0) ∧ p.codexCompatibleRecords ≤ p.renderedFrameBytes
deriving Decidable

def RecordsMeasured (p : SessionMaterialPrefixV1) : Prop :=
  (p.codexCompatibleRecords = 0 ∧ p.codexIncompatibleRecords = 0 → p.verifiedPayloadBytes = 0 ∧ p.encodedJSONLBytes = 0 ∧
      p.toolEnvelopeBytes = 0 ∧ p.attachmentCount = 0 ∧ p.referencedAttachmentBytes = 0) ∧
    (p.codexCompatibleRecords ≠ 0 ∨ p.codexIncompatibleRecords ≠ 0 → p.verifiedPayloadBytes ≠ 0 ∧ p.encodedJSONLBytes ≠ 0) ∧
    (p.attachmentCount ≠ 0 → p.codexIncompatibleRecords ≠ 0) ∧
    (p.toolEnvelopeBytes ≠ 0 → p.toolCallCount ≠ 0 ∨ p.toolResultCount ≠ 0)
deriving Decidable

/-- Only messages of users and assistants are rendered, only users attach files, and a measured tool event is not rendered. -/
def KindsAgree (p : SessionMaterialPrefixV1) : Prop :=
  p.codexCompatibleRecords ≤ p.userMessageCount + p.assistantMessageCount ∧
    (p.attachmentCount ≠ 0 → p.userMessageCount ≠ 0) ∧ (p.toolEnvelopeBytes ≠ 0 → p.codexIncompatibleRecords ≠ 0)
deriving Decidable

def ReasonsAgree (p : SessionMaterialPrefixV1) : Prop :=
  (p.unknownRecords ≠ 0 → p.unknownReasons ≠ .none) ∧ (p.unknownReasons.missing → p.unknownRecords ≠ 0)
deriving Decidable

def Holds (p : SessionMaterialPrefixV1) (c : SessionMaterialContributionV1) : Prop :=
  (¬ c.verified → p.unknownReasons.missing ∧ p.unknownRecords ≠ 0) ∧
    (p.kindCount c.kind ≠ 0 ∧ c.payloadBytes ≤ p.verifiedPayloadBytes ∧ c.encodedRecordBytes ≤ p.maxEncodedRecordBytes ∧
      c.toolEnvelopeBytes ≤ p.toolEnvelopeBytes ∧ c.attachmentCount ≤ p.attachmentCount ∧
      c.referencedAttachmentBytes ≤ p.referencedAttachmentBytes ∧ c.renderedFrameBytes ≤ p.renderedFrameBytes) ∧
    (c.verified → (c.codexCompatible → p.codexCompatibleRecords ≠ 0) ∧ (¬ c.codexCompatible → p.codexIncompatibleRecords ≠ 0))
deriving Decidable

/-- The clauses on a prefix that some event was folded into. -/
def Folded (p : SessionMaterialPrefixV1) (c : SessionMaterialContributionV1) : Prop :=
  p.Anchored c ∧ p.Counted ∧ p.BytesOrdered ∧ p.RecordsMeasured ∧ p.KindsAgree ∧ p.ReasonsAgree ∧ p.Holds c
deriving Decidable

variable [Crypto]

def expectedSeed (p : SessionMaterialPrefixV1) : SessionMaterialPrefixV1 :=
  if p.coverage = .complete ∧ p.throughSequence = 0 then genesis p.tenantID p.sessionID
  else unknownPrefix p.tenantID p.sessionID p.throughSequence

/-- What is left to check, by the last contribution where there is a last event. -/
def ValidFrom (p : SessionMaterialPrefixV1) : Option SessionMaterialContributionV1 → Prop
  | none => p = p.expectedSeed
  | some c => p.Folded c

instance (p : SessionMaterialPrefixV1) : (last : Option SessionMaterialContributionV1) → Decidable (p.ValidFrom last)
  | none => inferInstanceAs (Decidable (p = p.expectedSeed))
  | some c => inferInstanceAs (Decidable (p.Folded c))

/-- `Validate`. -/
def Valid (p : SessionMaterialPrefixV1) : Prop :=
  p.WellFormed ∧ p.Capped ∧ p.ValidFrom (if p.lastEventID = "" then none else p.lastContribution)
deriving Decidable

end SessionMaterialPrefixV1

/-! ## Encoding -/

def SessionMaterialCoverageV1.text : SessionMaterialCoverageV1 → String
  | .complete => "complete"
  | .unknown => "unknown"

def SessionMaterialUnknownReasonsV1.toNat (reasons : SessionMaterialUnknownReasonsV1) : Nat :=
  reasons.legacy.toNat + 2 * reasons.missingInvalid.toNat + 4 * reasons.unsupported.toNat +
    8 * reasons.nonRoundTrip.toNat + 16 * reasons.saturated.toNat

def SessionMaterialContributionV1.toJson (c : SessionMaterialContributionV1) : Json :=
  .obj [("version", .nat c.version), ("event_id", .str c.eventID), ("sequence", .nat c.sequence), ("kind", .str c.kind.text),
    ("identity_digest", .str c.identityDigest), ("record_digest", .str c.recordDigest), ("verified", .bool c.verified),
    ("payload_bytes", .nat c.payloadBytes), ("encoded_record_bytes", .nat c.encodedRecordBytes),
    ("tool_envelope_bytes", .nat c.toolEnvelopeBytes), ("attachment_count", .nat c.attachmentCount),
    ("referenced_attachment_bytes", .nat c.referencedAttachmentBytes), ("codex_compatible", .bool c.codexCompatible),
    ("rendered_frame_bytes", .nat c.renderedFrameBytes)]

namespace SessionMaterialPrefixV1

/-- The empty identifier and the absent contribution are left out. -/
def toJson (p : SessionMaterialPrefixV1) : Json :=
  .obj ([("version", .nat p.version), ("tenant_id", .str p.tenantID), ("session_id", .str p.sessionID),
      ("through_sequence", .nat p.throughSequence)] ++
    (if p.lastEventID = "" then [] else [("last_event_id", .str p.lastEventID)]) ++
    [("record_schema", .str p.recordSchema), ("renderer_contract", .str p.rendererContract),
      ("coverage", .str p.coverage.text), ("unknown_reasons", .nat p.unknownReasons.toNat),
      ("prefix_digest", .str p.prefixDigest)] ++
    p.lastContribution.toList.map (fun c => ("last_contribution", c.toJson)) ++
    [("user_message_count", .nat p.userMessageCount), ("assistant_message_count", .nat p.assistantMessageCount),
      ("tool_call_count", .nat p.toolCallCount), ("tool_result_count", .nat p.toolResultCount),
      ("system_notice_count", .nat p.systemNoticeCount), ("verified_payload_bytes", .nat p.verifiedPayloadBytes),
      ("encoded_jsonl_bytes", .nat p.encodedJSONLBytes), ("max_encoded_record_bytes", .nat p.maxEncodedRecordBytes),
      ("tool_envelope_bytes", .nat p.toolEnvelopeBytes), ("attachment_count", .nat p.attachmentCount),
      ("referenced_attachment_bytes", .nat p.referencedAttachmentBytes),
      ("codex_compatible_records", .nat p.codexCompatibleRecords),
      ("codex_incompatible_records", .nat p.codexIncompatibleRecords),
      ("rendered_frame_bytes", .nat p.renderedFrameBytes), ("unknown_records", .nat p.unknownRecords)])

end SessionMaterialPrefixV1

section

variable [Crypto]

def encodeSessionMaterialPrefixV1 (p : SessionMaterialPrefixV1) : Except StoreError Bytes :=
  if ¬ p.Valid then .error .sessionMaterialPrefix
  else if (Json.marshal p.toJson).length > maxSessionMaterialPrefixBytesV1 then .error .sessionMaterialPrefix
  else .ok (Json.marshal p.toJson)

/-! ## The fold -/

/-- What an event adds: its measure where that measure is of this very event, and nothing known otherwise. -/
def contribution (event : SessionEvent) (measure : Option FinalMaterialMeasureV1) : SessionMaterialContributionV1 :=
  let blank : SessionMaterialContributionV1 :=
    { version := 1, eventID := event.id, sequence := event.sequence, kind := event.kind
      identityDigest := materialIdentityDigest event, recordDigest := "", verified := false, payloadBytes := 0
      encodedRecordBytes := 0, toolEnvelopeBytes := 0, attachmentCount := 0, referencedAttachmentBytes := 0
      codexCompatible := false, renderedFrameBytes := 0 }
  match measure with
  | none => blank
  | some m =>
    if m.matchesEvent event ∧ m.verified ∧ m.record.verified ∧ 0 < m.record.encodedBytes ∧ m.measures.kind = event.kind then
      { blank with
        recordDigest := m.record.digest, verified := true, payloadBytes := m.measures.payloadBytes
        encodedRecordBytes := m.record.encodedBytes, toolEnvelopeBytes := m.measures.toolEnvelopeBytes
        attachmentCount := m.measures.attachmentCount
        referencedAttachmentBytes := m.measures.referencedAttachmentBytes
        codexCompatible := m.measures.codexCompatible, renderedFrameBytes := m.measures.renderedFrameBytes }
    else blank

/-- A counter stops at the largest `int64`. -/
def addCapped (value amount : Nat) : Nat := if maxInt64 - value < amount then maxInt64 else value + amount

def overflows (value amount : Nat) : Bool := maxInt64 - value < amount

/-- What each counter of a prefix is raised by, in the order of `counters`; the largest record is not a sum. -/
structure Amounts where
  userMessage : Nat
  assistantMessage : Nat
  toolCall : Nat
  toolResult : Nat
  systemNotice : Nat
  verifiedPayload : Nat
  encodedJSONL : Nat
  toolEnvelope : Nat
  attachment : Nat
  referencedAttachment : Nat
  codexCompatible : Nat
  codexIncompatible : Nat
  renderedFrame : Nat
  unknownRecord : Nat
deriving DecidableEq, Repr

/-- A counter that an event of another kind, or an unmeasured one, leaves alone is raised by nothing. -/
def amounts (c : SessionMaterialContributionV1) : Amounts :=
  { userMessage := if c.kind = .userMessage then 1 else 0
    assistantMessage := if c.kind = .assistantMessage then 1 else 0
    toolCall := if c.kind = .toolCall then 1 else 0
    toolResult := if c.kind = .toolResult then 1 else 0
    systemNotice := if c.kind = .systemNotice then 1 else 0
    verifiedPayload := if c.verified then c.payloadBytes else 0
    encodedJSONL := if c.verified then c.encodedRecordBytes else 0
    toolEnvelope := if c.verified then c.toolEnvelopeBytes else 0
    attachment := if c.verified then c.attachmentCount else 0
    referencedAttachment := if c.verified then c.referencedAttachmentBytes else 0
    codexCompatible := if c.verified ∧ c.codexCompatible then 1 else 0
    codexIncompatible := if c.verified ∧ ¬ c.codexCompatible then 1 else 0
    renderedFrame := if c.verified ∧ c.codexCompatible then c.renderedFrameBytes else 0
    unknownRecord := if c.verified then 0 else 1 }

def SessionMaterialPrefixV1.saturates (p : SessionMaterialPrefixV1) (a : Amounts) : Bool :=
  overflows p.userMessageCount a.userMessage || overflows p.assistantMessageCount a.assistantMessage ||
    overflows p.toolCallCount a.toolCall || overflows p.toolResultCount a.toolResult ||
    overflows p.systemNoticeCount a.systemNotice || overflows p.verifiedPayloadBytes a.verifiedPayload ||
    overflows p.encodedJSONLBytes a.encodedJSONL || overflows p.toolEnvelopeBytes a.toolEnvelope ||
    overflows p.attachmentCount a.attachment || overflows p.referencedAttachmentBytes a.referencedAttachment ||
    overflows p.codexCompatibleRecords a.codexCompatible || overflows p.codexIncompatibleRecords a.codexIncompatible ||
    overflows p.renderedFrameBytes a.renderedFrame || overflows p.unknownRecords a.unknownRecord

/-- The reasons after an event: it may be one that nothing is known of, and a counter may have been cut off. -/
def SessionMaterialPrefixV1.nextReasons (p : SessionMaterialPrefixV1) (c : SessionMaterialContributionV1) :
    SessionMaterialUnknownReasonsV1 :=
  { p.unknownReasons with
    missingInvalid := p.unknownReasons.missingInvalid || !c.verified
    saturated := p.unknownReasons.saturated || p.saturates (amounts c) }

/-- The account with one more event, under the digest it had. -/
def SessionMaterialPrefixV1.account (p : SessionMaterialPrefixV1) (c : SessionMaterialContributionV1) :
    SessionMaterialPrefixV1 :=
  let a := amounts c
  { p with
    throughSequence := c.sequence
    lastEventID := c.eventID
    lastContribution := some c
    coverage := if p.nextReasons c ≠ .none then .unknown else p.coverage
    unknownReasons := p.nextReasons c
    userMessageCount := addCapped p.userMessageCount a.userMessage
    assistantMessageCount := addCapped p.assistantMessageCount a.assistantMessage
    toolCallCount := addCapped p.toolCallCount a.toolCall
    toolResultCount := addCapped p.toolResultCount a.toolResult
    systemNoticeCount := addCapped p.systemNoticeCount a.systemNotice
    verifiedPayloadBytes := addCapped p.verifiedPayloadBytes a.verifiedPayload
    encodedJSONLBytes := addCapped p.encodedJSONLBytes a.encodedJSONL
    maxEncodedRecordBytes := if c.verified then max p.maxEncodedRecordBytes c.encodedRecordBytes else p.maxEncodedRecordBytes
    toolEnvelopeBytes := addCapped p.toolEnvelopeBytes a.toolEnvelope
    attachmentCount := addCapped p.attachmentCount a.attachment
    referencedAttachmentBytes := addCapped p.referencedAttachmentBytes a.referencedAttachment
    codexCompatibleRecords := addCapped p.codexCompatibleRecords a.codexCompatible
    codexIncompatibleRecords := addCapped p.codexIncompatibleRecords a.codexIncompatible
    renderedFrameBytes := addCapped p.renderedFrameBytes a.renderedFrame
    unknownRecords := addCapped p.unknownRecords a.unknownRecord }

def foldInput (p : SessionMaterialPrefixV1) (encoded : Bytes) (c : SessionMaterialContributionV1) : Bytes :=
  materialFrame (utf8 "sessionless.session-material.fold.v1") ++ materialFrame (utf8 p.prefixDigest) ++
    materialFrame encoded ++ materialFrame (utf8 c.identityDigest) ++ materialFrame (utf8 c.recordDigest) ++
    materialFrame (utf8 (if c.verified then "verified-contribution.v1" else "unknown-contribution.v1")) ++
    materialFrame (Json.marshal c.toJson)

def foldDigest (p : SessionMaterialPrefixV1) (encoded : Bytes) (c : SessionMaterialContributionV1) : String :=
  hex (Crypto.sha256 (foldInput p encoded c)).val

def foldSessionMaterialV1 (previous : SessionMaterialPrefixV1) (event : SessionEvent) (measure : Option FinalMaterialMeasureV1) :
    Except StoreError SessionMaterialPrefixV1 :=
  if ¬ previous.Valid ∨ event.validate ≠ .ok () ∨ previous.tenantID ≠ event.tenantID ∨ previous.sessionID ≠ event.sessionID ∨
      previous.throughSequence = maxUint64 ∨ event.sequence ≠ previous.throughSequence + 1 then .error .sessionMaterialPrefix
  else if ¬ (contribution event measure).Valid then .error .sessionMaterialPrefix
  else do
    let encoded ← encodeSessionMaterialPrefixV1 previous
    let next := { previous.account (contribution event measure) with
      prefixDigest := foldDigest previous encoded (contribution event measure) }
    if ¬ next.Valid then .error .sessionMaterialPrefix else .ok next

end

end Sessionless.Context
