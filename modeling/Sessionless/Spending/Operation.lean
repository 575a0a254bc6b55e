import Sessionless.Spending.Debit

/-!
# Operations of an attempt

A request the attempt seals before it is sent: a model call, a compaction, a call of a tool or a web
search, with the debit it reserves. `validate` holds the debit to what the kind of the operation may reserve.
-/

namespace Sessionless.Spending

open Lib Store

inductive AttemptOperationKindV1 where
  | model
  | compaction
  | mcpTool
  | webSearch
  | other (text : String)
deriving DecidableEq, Repr

structure AttemptOperationScopeV1 where
  tenantID : TenantID
  sessionID : SessionID
  ownerUserID : UserID
  runID : RunID
  attemptID : AttemptID
  leaseID : String
  fenceToken : Nat
  physicalInvocationClaimID : String
  effectReservationDigest : String
  invocationAuthorityDigest : String
  harnessBindingDigest : String
  agentLoopPolicyDigest : String
deriving DecidableEq, Repr

structure AttemptOperationSearchWireV1 where
  version : Nat
  apiProfile : String
  argumentsBytes : UInt64
  compilerArtifactDigest : String
deriving DecidableEq, Repr

structure AttemptOperationV1 where
  version : Nat
  scope : AttemptOperationScopeV1
  sequence : UInt64
  kind : AttemptOperationKindV1
  callID : String
  requestRef : String
  requestDigest : String
  predecessorObservationDigest : String
  modelResponseDigest : String
  argumentsDigest : String
  queryDigest : String
  toolGrantDigest : String
  consentRequestDigest : String
  consentDecisionDigest : String
  consentDecisionRef : String
  deadline : Int
  cleanupDuration : Int
  debit : AttemptOperationDebitV1
  requestBytes : UInt64
  resultBytes : UInt64
  contextBytes : UInt64
  summaryBytes : UInt64
  currency : String
  priceRevision : String
  admissionCostCeilingDigest : String
  externalChargeEvidenceDigest : String
  searchWire : Option AttemptOperationSearchWireV1

/-! ## Checks -/

def validateSHA256 (field value : String) : Except StoreError Unit :=
  if (utf8 value).length = 64 ∧ (utf8 value).all (fun b => (48 ≤ b && b ≤ 57) || (97 ≤ b && b ≤ 102)) then .ok ()
  else .error (.validation field "must be a lowercase 64-character SHA-256 digest")

def validCurrencyV1 (value : String) : Bool := (utf8 value).length = 3 ∧ (utf8 value).all fun b => 65 ≤ b && b ≤ 90

def yearOf (time : Int) : Int := (Calendar.dateOfDays (time / Calendar.nanosecondsPerDay)).year

def AttemptOperationScopeV1.validate (v : AttemptOperationScopeV1) : Except StoreError Unit := do
  validateOpaqueID "tenant_id" v.tenantID
  validateOpaqueID "session_id" v.sessionID
  validateOpaqueID "user_id" v.ownerUserID
  validateOpaqueID "run_id" v.runID
  validateOpaqueID "attempt_id" v.attemptID
  validateOpaqueID "lease_id" v.leaseID
  validateSHA256 "attempt_effect_reservation_digest" v.effectReservationDigest
  validateSHA256 "serverless_invocation_authority_digest" v.invocationAuthorityDigest
  validateSHA256 "harness_binding_digest" v.harnessBindingDigest
  validateSHA256 "agent_loop_policy_digest" v.agentLoopPolicyDigest
  if v.fenceToken = 0 then .error (operationError "scope.fence_token" "must be positive") else
  validateOpaqueID "attempt_operation.scope.physical_invocation_claim_id" v.physicalInvocationClaimID

def AttemptOperationSearchWireV1.validate (v : AttemptOperationSearchWireV1) : Except StoreError Unit :=
  if v.version ≠ 1 ∨ v.apiProfile ≠ "tavily.search.basic.v1" ∨ v.argumentsBytes = 0 ∨ v.argumentsBytes > 4096 then
    .error (operationError "search_wire" "requires the closed version 1 Tavily Basic profile and bounded original argument count")
  else validateSHA256 "attempt_operation.search_wire.compiler_artifact_digest" v.compilerArtifactDigest

namespace AttemptOperationV1

def isTool (v : AttemptOperationV1) : Bool := v.kind = .mcpTool ∨ v.kind = .webSearch

def toolArgumentBytes (v : AttemptOperationV1) : UInt64 := (v.searchWire.map (·.argumentsBytes)).getD v.requestBytes

def validateSearchWire (v : AttemptOperationV1) : Except StoreError Unit :=
  match v.searchWire with
  | none => .ok ()
  | some wire =>
    if v.kind ≠ .webSearch ∨ ¬ wire.validate.isOk ∨ v.requestBytes > 8192 then
      .error (operationError "search_wire" "requires a complete search-only encoding and bounded physical request")
    else .ok ()

def validatePredecessor (v : AttemptOperationV1) : Except StoreError Unit :=
  if v.sequence = 1 then
    if v.predecessorObservationDigest ≠ "" ∨ v.kind ≠ .model ∧ v.kind ≠ .compaction then
      .error (operationError "predecessor" "the first operation must be a model or pre-model compaction with no predecessor")
    else .ok ()
  else validateSHA256 "attempt_operation_observation_digest" v.predecessorObservationDigest

def validateLimits (v : AttemptOperationV1) : Except StoreError Unit :=
  if v.deadline = 0 ∨ yearOf v.deadline < 1 ∨ yearOf v.deadline > 9999 ∨ v.debit.activeDuration ≤ 0 ∨
      v.debit.activeDuration > 30 * second ∨ v.debit.counter .operations ≠ 1 ∨ v.requestBytes = 0 ∨ v.resultBytes = 0 ∨
      v.requestBytes > 1048576 ∨ v.resultBytes > 1048576 ∨ v.debit.counter .responseBytes = 0 ∨
      v.debit.counter .responseBytes > 1048576 then
    .error (operationError "limits" "requires finite request/result/network/time reservations")
  else if v.cleanupDuration ≤ 0 ∨ v.cleanupDuration > 30 * second then
    .error (operationError "cleanup_duration" "requires a bounded separately admitted observation window")
  else if v.debit.counter .bodyBytes < v.requestBytes ∨ v.resultBytes > v.debit.counter .bodyBytes - v.requestBytes ∨
      v.debit.counter .bodyBytes > 1048576 then
    .error (operationError "body_bytes" "must cover request and normalized result without overflow")
  else .ok ()

def validateTool (v : AttemptOperationV1) : Except StoreError Unit := do
  if v.debit.counter .modelCalls ≠ 0 ∨ v.debit.counter .compactionCalls ≠ 0 ∨ v.debit.counter .toolDispatches ≠ 1 ∨
      v.debit.counter .inputTokens ≠ 0 ∨ v.debit.counter .outputTokens ≠ 0 ∨ v.toolArgumentBytes > 4096 ∨
      v.resultBytes > 65536 ∨ v.contextBytes ≠ 0 ∨ v.summaryBytes ≠ 0 ∨ v.sequence = 1 then
    .error (operationError "tool" "requires one bounded tool dispatch with independent price evidence") else
  -- the source walks these four in no fixed order
  validateSHA256 "attempt_operation.model_response_digest" v.modelResponseDigest
  validateSHA256 "attempt_operation.arguments_digest" v.argumentsDigest
  validateSHA256 "attempt_operation.tool_grant_digest" v.toolGrantDigest
  validateSHA256 "attempt_operation.external_charge_evidence_digest" v.externalChargeEvidenceDigest

def validateModel (v : AttemptOperationV1) : Except StoreError Unit :=
  if v.kind ≠ .model ∧ v.kind ≠ .compaction then .error (operationError "kind" "is unsupported")
  else if v.debit.counter .modelCalls ≠ 1 ∨ v.debit.counter .toolDispatches ≠ 0 ∨ v.debit.counter .webSearches ≠ 0 ∨
      v.debit.counter .inputTokens = 0 ∨ v.debit.counter .inputTokens > 32768 ∨ v.debit.counter .outputTokens = 0 ∨
      v.debit.counter .outputTokens > 2048 ∨ v.contextBytes = 0 ∨ v.contextBytes > 1048576 ∨ v.modelResponseDigest ≠ "" ∨
      v.argumentsDigest ≠ "" ∨ v.toolGrantDigest ≠ "" ∨ v.externalChargeEvidenceDigest ≠ "" then
    .error (operationError "model" "requires one bounded model call without tool authority")
  else if v.kind = .compaction ∧ (v.debit.counter .compactionCalls ≠ 1 ∨ v.summaryBytes = 0 ∨ v.summaryBytes > 16384) ∨
      v.kind = .model ∧ (v.debit.counter .compactionCalls ≠ 0 ∨ v.summaryBytes ≠ 0) then
    .error (operationError "compaction" "must debit a model call and bounded summary only for compaction")
  else .ok ()

def validateSearch (v : AttemptOperationV1) : Except StoreError Unit :=
  if v.kind = .webSearch then do
    if v.debit.counter .webSearches ≠ 1 ∨ v.debit.activeDuration > 15 * second ∨ v.debit.counter .responseBytes > 262144 ∨
        v.resultBytes > 24576 then .error (operationError "web_search" "requires the bounded search sub-budget") else
    -- the source walks these three in no fixed order
    validateSHA256 "attempt_operation.query_digest" v.queryDigest
    validateSHA256 "attempt_operation.consent_request_digest" v.consentRequestDigest
    validateSHA256 "attempt_operation.consent_decision_digest" v.consentDecisionDigest
    validateOpaqueID "attempt_operation.consent_decision_ref" v.consentDecisionRef
  else if v.debit.counter .webSearches ≠ 0 ∨ v.queryDigest ≠ "" ∨ v.consentRequestDigest ≠ "" ∨
      v.consentDecisionDigest ≠ "" ∨ v.consentDecisionRef ≠ "" then
    .error (operationError "consent" "search receipt fields are exclusive to web_search")
  else .ok ()

def validateMCP (v : AttemptOperationV1) : Except StoreError Unit :=
  if v.kind = .mcpTool then
    if v.debit.counter .mcpOutboundMessages = 0 ∨ v.debit.counter .mcpOutboundMessages > 12 ∨
        v.debit.counter .mcpCatalogPages > 1 ∨ v.debit.counter .mcpInboundFrames = 0 ∨
        v.debit.counter .mcpInboundFrames > 128 ∨ v.debit.counter .mcpInboundBytes = 0 ∨
        v.debit.counter .mcpInboundBytes > 262144 ∨ v.debit.counter .responseBytes < v.debit.counter .mcpInboundBytes then
      .error (operationError "mcp" "requires bounded protocol reservations")
    else .ok ()
  else if v.debit.counter .mcpOutboundMessages ≠ 0 ∨ v.debit.counter .mcpCatalogPages ≠ 0 ∨
      v.debit.counter .mcpInboundFrames ≠ 0 ∨ v.debit.counter .mcpInboundBytes ≠ 0 then
    .error (operationError "mcp" "protocol debit is exclusive to mcp_tool")
  else .ok ()

def validate (v : AttemptOperationV1) : Except StoreError Unit := do
  if v.version ≠ 1 ∨ v.sequence = 0 ∨ v.sequence > 12 then
    .error (operationError "identity" "requires version 1 and bounded positive sequence") else
  v.scope.validate
  v.validateSearchWire
  validateOpaqueID "attempt_operation.call_id" v.callID
  validateOpaqueID "attempt_operation.request_ref" v.requestRef
  validateSHA256 "attempt_operation.request_digest" v.requestDigest
  validateSHA256 "admission_cost_ceiling_digest" v.admissionCostCeilingDigest
  v.validatePredecessor
  if ¬ validCurrencyV1 v.currency then .error (operationError "currency" "requires canonical admission currency") else
  validateOpaqueID "attempt_operation.price_revision" v.priceRevision
  v.validateLimits
  if v.isTool then v.validateTool else v.validateModel
  v.validateSearch
  v.validateMCP

theorem validate_ok {v : AttemptOperationV1} (h : v.validate = .ok ()) : v.debit.counter .operations = 1 := by
  simp only [validate, bind_eq_ok, exists_unit, ite_error_eq_ok] at h
  obtain ⟨_, _, _, _, _, _, _, _, _, _, hlimits, _⟩ := h
  simp only [validateLimits, ite_error_eq_ok, not_or, Decidable.not_not] at hlimits
  exact hlimits.1.2.2.2.2.2.1

end AttemptOperationV1

end Sessionless.Spending
