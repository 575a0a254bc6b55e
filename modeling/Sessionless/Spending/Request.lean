import Sessionless.Protocol.Crypto
import Sessionless.Spending.Operation

/-!
# Consent to a web search

The request a user is asked to approve, the decision on it and the state both go through, from
`domain/web_search_consent.go`. A request is known by its digest.
-/

namespace Sessionless.Spending

open Lib Store

inductive ConsentError where
  | store (error : StoreError)
  | conflict
deriving DecidableEq, Repr

def consentInvalid (field reason : String) : ConsentError := .store (.validation ("web_search_consent." ++ field) reason)

def checked (check : Except StoreError Unit) : Except ConsentError Unit := check.mapError .store

structure WebSearchConsentScopeV1 where
  tenantID : TenantID
  sessionID : SessionID
  ownerUserID : UserID
  runID : RunID
  attemptID : AttemptID
  leaseID : String
  fenceToken : UInt64
  physicalInvocationClaimID : String
  effectReservationDigest : String
  invocationAuthorityDigest : String
  harnessBindingDigest : String
  policyDigest : String
deriving DecidableEq, Repr

structure WebSearchConsentRequestV1 where
  version : Nat
  id : String
  scope : WebSearchConsentScopeV1
  initiatingUserID : UserID
  modelResponseDigest : String
  callID : String
  argumentsDigest : String
  queryDigest : String
  grantDigest : String
  consentRevision : UInt64
  revocationGeneration : UInt64
  arguments : BlobRef
  createdAt : Int
  expiresAt : Int
deriving DecidableEq, Repr

inductive WebSearchConsentChoiceV1 where
  | approve
  | deny
  | other (text : String)
deriving DecidableEq, Repr

structure WebSearchConsentDecisionV1 where
  version : Nat
  request : WebSearchConsentRequestV1
  requestDigest : String
  requestRevision : UInt64
  actorUserID : UserID
  webSessionDigest : String
  membershipSecurityVersion : UInt64
  choice : WebSearchConsentChoiceV1
  observedAt : Int
deriving DecidableEq, Repr

inductive WebSearchConsentStatusV1 where
  | pending
  | approved
  | denied
  | expired
  | cancelled
  | revoked
  | reconcileOnly
  | other (text : String)
deriving DecidableEq, Repr

structure WebSearchConsentStateV1 where
  request : WebSearchConsentRequestV1
  revision : UInt64
  status : WebSearchConsentStatusV1
  decision : Option WebSearchConsentDecisionV1
  updatedAt : Int
deriving DecidableEq, Repr

/-! ## Requests -/

def WebSearchConsentScopeV1.validate (v : WebSearchConsentScopeV1) : Except StoreError Unit := do
  validateOpaqueID "tenant_id" v.tenantID
  validateOpaqueID "session_id" v.sessionID
  validateOpaqueID "user_id" v.ownerUserID
  validateOpaqueID "run_id" v.runID
  validateOpaqueID "attempt_id" v.attemptID
  validateOpaqueID "lease_id" v.leaseID
  if v.fenceToken = 0 then .error (.validation "web_search_consent.fence_token" "must be positive") else
  validateOpaqueID "web_search_consent.physical_invocation_claim_id" v.physicalInvocationClaimID
  validateSHA256 "web_search_consent.effect_reservation_digest" v.effectReservationDigest
  validateSHA256 "web_search_consent.invocation_authority_digest" v.invocationAuthorityDigest
  validateSHA256 "web_search_consent.harness_binding_digest" v.harnessBindingDigest
  validateSHA256 "web_search_consent.policy_digest" v.policyDigest

/-- `SessionRunObjectPrefix` and the directory of the attempt in it. -/
def WebSearchConsentScopeV1.objectPrefix (v : WebSearchConsentScopeV1) : String :=
  sessionObjectPrefix v.tenantID v.sessionID ++ "runs/" ++ v.runID ++ "/" ++ "attempts/" ++ v.attemptID ++ "/"

def WebSearchConsentRequestV1.validate (v : WebSearchConsentRequestV1) : Except StoreError Unit := do
  if v.version ≠ 1 then .error (.validation "web_search_consent.version" "must equal 1") else
  validateOpaqueID "web_search_consent.id" v.id
  v.scope.validate
  validateOpaqueID "user_id" v.initiatingUserID
  v.arguments.validate
  validateOpaqueID "web_search_consent.call_id" v.callID
  validateSHA256 "web_search_consent.model_response_digest" v.modelResponseDigest
  validateSHA256 "web_search_consent.arguments_digest" v.argumentsDigest
  validateSHA256 "web_search_consent.query_digest" v.queryDigest
  validateSHA256 "web_search_consent.grant_digest" v.grantDigest
  if v.consentRevision = 0 ∨ v.revocationGeneration = 0 then
    .error (.validation "web_search_consent.revisions" "must be positive") else
  if v.arguments.tenantID ≠ v.scope.tenantID ∨ ¬ hasPrefix v.arguments.key v.scope.objectPrefix ∨
      (utf8 v.arguments.key).length > 2048 ∨ v.arguments.size ≤ 0 ∨ v.arguments.size > 4096 ∨
      v.arguments.sha256 ≠ v.argumentsDigest then
    .error (.validation "web_search_consent.arguments"
      "requires the exact bounded argument digest in the owning Attempt's immutable namespace") else
  if v.createdAt = 0 ∨ yearOf v.createdAt < 1 ∨ yearOf v.expiresAt > 9999 ∨ v.expiresAt ≤ v.createdAt ∨
      v.expiresAt - v.createdAt > 120 * second then
    .error (.validation "web_search_consent.expires_at"
      "requires an absolute window within the original active-time ceiling") else .ok ()

theorem WebSearchConsentRequestV1.validate_ok {v : WebSearchConsentRequestV1} (h : v.validate = .ok ()) :
    0 < v.arguments.size ∧ v.arguments.size ≤ 4096 := by
  simp only [WebSearchConsentRequestV1.validate, bind_eq_ok, exists_unit, ite_error_eq_ok, not_or, Int.not_le] at h
  obtain ⟨_, _, _, _, _, _, _, _, _, _, _, ⟨_, _, _, hpos, hmax, _⟩, _⟩ := h
  exact ⟨hpos, by omega⟩

section

variable [Protocol.Crypto]

/-- A transcript: its domain, a zero byte, and each field after its length. -/
def serverlessDigest (name : String) (fields : List Bytes) : String :=
  hex (Protocol.Crypto.sha256 (utf8 name ++ [0] ++ fields.flatMap fun field => uint64 field.length ++ field)).val

/-- `digest.instant`. -/
def instantField (time : Int) : Bytes := utf8 (Calendar.rfc3339Nano time 0)

def WebSearchConsentScopeV1.digestFields (v : WebSearchConsentScopeV1) : List Bytes :=
  [v.tenantID, v.sessionID, v.ownerUserID, v.runID, v.attemptID, v.leaseID, v.physicalInvocationClaimID,
    v.effectReservationDigest, v.invocationAuthorityDigest, v.harnessBindingDigest, v.policyDigest].map utf8 ++
    [uint64 v.fenceToken.toNat]

def WebSearchConsentRequestV1.digest (v : WebSearchConsentRequestV1) : Except StoreError String := do
  v.validate
  .ok (serverlessDigest "sessionless.web-search-consent-request.v1" ([uint64 v.version, utf8 v.id] ++ v.scope.digestFields ++
    [v.initiatingUserID, v.modelResponseDigest, v.callID, v.argumentsDigest, v.queryDigest, v.grantDigest].map utf8 ++
    [uint64 v.consentRevision.toNat, uint64 v.revocationGeneration.toNat, utf8 v.arguments.tenantID, utf8 v.arguments.key,
      int64 v.arguments.size, utf8 v.arguments.sha256, instantField v.createdAt, instantField v.expiresAt]))

/-! ## Decisions and states -/

def WebSearchConsentChoiceV1.validate : WebSearchConsentChoiceV1 → Except ConsentError Unit
  | .approve => .ok ()
  | .deny => .ok ()
  | .other _ => .error (consentInvalid "choice" "must be approve or deny")

def WebSearchConsentChoiceV1.text : WebSearchConsentChoiceV1 → String
  | .approve => "approve"
  | .deny => "deny"
  | .other text => text

def WebSearchConsentDecisionV1.validate (v : WebSearchConsentDecisionV1) : Except ConsentError Unit := do
  let digest ← v.request.digest.mapError .store
  if v.version ≠ 1 ∨ v.requestRevision ≠ 1 ∨ digest ≠ v.requestDigest ∨ v.actorUserID ≠ v.request.initiatingUserID ∨
      v.membershipSecurityVersion = 0 then
    .error (consentInvalid "decision" "must seal the exact initial request and authenticated initiating user") else
  if ¬ (validateSHA256 "" v.webSessionDigest).isOk then
    .error (consentInvalid "web_session_digest" "must be a lowercase SHA-256 digest") else
  v.choice.validate
  if v.observedAt < v.request.createdAt ∨ v.request.expiresAt ≤ v.observedAt then
    .error (consentInvalid "observed_at" "must be inside the unchanged request window") else .ok ()

def WebSearchConsentDecisionV1.digest (v : WebSearchConsentDecisionV1) : Except ConsentError String := do
  v.validate
  .ok (serverlessDigest "sessionless.web-search-consent-decision.v1"
    [uint64 v.version, utf8 v.requestDigest, uint64 v.requestRevision.toNat, utf8 v.actorUserID, utf8 v.webSessionDigest,
      uint64 v.membershipSecurityVersion.toNat, utf8 v.choice.text, instantField v.observedAt])

/-- What the status of a state says about its revision and its decision. -/
def WebSearchConsentStateV1.validateStatus (v : WebSearchConsentStateV1) : Except ConsentError Unit :=
  match v.status with
  | .pending =>
    if v.revision ≠ 1 ∨ v.decision.isSome ∨ v.updatedAt ≠ v.request.createdAt then .error .conflict else .ok ()
  | .approved =>
    if v.revision ≠ 2 ∨ ¬ v.decision.any (fun d => d.choice = .approve ∧ v.updatedAt = d.observedAt) then .error .conflict
    else .ok ()
  | .denied =>
    if v.revision ≠ 2 ∨ ¬ v.decision.any (fun d => d.choice = .deny ∧ v.updatedAt = d.observedAt) then .error .conflict
    else .ok ()
  | .expired | .cancelled | .revoked | .reconcileOnly =>
    if v.decision.isNone ∧ v.revision ≠ 2 ∨ v.decision.any (fun d => v.revision ≠ 3 ∨ d.choice ≠ .approve) then
      .error .conflict
    else .ok ()
  | .other _ => .error (consentInvalid "status" "unknown status")

def WebSearchConsentStateV1.validate (v : WebSearchConsentStateV1) : Except ConsentError Unit := do
  let digest ← v.request.digest.mapError .store
  if v.updatedAt < v.request.createdAt then .error (consentInvalid "updated_at" "must not move backwards") else
  v.decision.forM fun decision => do
    decision.validate
    if decision.requestDigest ≠ digest ∨ v.updatedAt < decision.observedAt then .error .conflict else .ok ()
  v.validateStatus

/-- `ValidateWebSearchConsentAppendV1`. -/
def validateWebSearchConsentAppend (existing : List WebSearchConsentStateV1) (request : WebSearchConsentRequestV1)
    (remainingRows : Int) (remainingBodyBytes : UInt64) : Except ConsentError Unit := do
  checked request.validate
  if existing.length ≥ 2 ∨ remainingRows < 2 ∨ request.arguments.size > remainingBodyBytes.toNat then
    .error (consentInvalid "storage" "requires bounded shared rows/blobs and at most two requests per Attempt") else
  existing.forM fun state => do
    state.validate
    if state.request.scope ≠ request.scope ∨ state.request.initiatingUserID ≠ request.initiatingUserID ∨
        state.request.id = request.id ∨ state.status = .pending ∨ state.request.callID = request.callID ∨
        state.request.argumentsDigest = request.argumentsDigest ∨ state.request.queryDigest = request.queryDigest then
      .error .conflict
    else .ok ()

end

end Sessionless.Spending
