import Sessionless.Protocol.Crypto
import Sessionless.Store.Base

/-!
# Web sessions and the memberships they rest on

The records of `domain/web_auth.go` and `domain/web_session_v2.go` that decide whether a cookie is
served, with the checks in the order of the source. The browser's secret is stored as its digest only.
-/

namespace Sessionless.WebAuth

open Lib Store

inductive WebError where
  | store (error : StoreError)
  | sessionRevoked
  | sessionExpired
  | sessionRotation
  | membershipVersionChanged
deriving DecidableEq, Repr

def invalid (field reason : String) : WebError := .store (.validation field reason)

def denied : WebError := .store .membershipDenied

def opaqueID (field value : String) : Except WebError Unit := (validateOpaqueID field value).mapError .store

/-! ## Digests -/

abbrev SecretDigest := String

def isLowerHex (b : UInt8) : Bool := (48 ≤ b.toNat && b.toNat ≤ 57) || (97 ≤ b.toNat && b.toNat ≤ 102)

def validateDigest (field : String) (digest : SecretDigest) : Except WebError Unit :=
  if (utf8 digest).length = 64 ∧ (utf8 digest).all isLowerHex then .ok ()
  else .error (invalid field "must be a lowercase SHA-256 digest")

def digestSecret [Protocol.Crypto] (secret : String) : SecretDigest := hex (Protocol.Crypto.sha256 (utf8 secret)).val

/-! ## Identities -/

abbrev IdentityProvider := String

structure ExternalSubject where
  provider : IdentityProvider
  subject : String
deriving DecidableEq, Repr

def ExternalSubject.validate (subject : ExternalSubject) : Except WebError Unit := do
  opaqueID "identity_provider" subject.provider
  opaqueID "external_subject" subject.subject

structure ExternalIdentity where
  subject : ExternalSubject
  userID : UserID
  createdAt : Int
  updatedAt : Int
deriving DecidableEq, Repr

inductive ExternalIdentityStateV2 where
  | active
  | unlinked
  | other (text : String)
deriving DecidableEq, Repr

structure ExternalIdentityV2 where
  version : Nat
  subject : ExternalSubject
  userID : UserID
  createdAt : Int
  state : ExternalIdentityStateV2
  revision : Nat
  updatedAt : Int
deriving DecidableEq, Repr

def ExternalIdentityV2.zero : ExternalIdentityV2 := ⟨0, ⟨"", ""⟩, "", 0, .other "", 0, 0⟩

def validateIdentitySubjectV2 (subject : ExternalSubject) : Except WebError Unit :=
  if subject.provider ≠ "yandex" ∧ subject.provider ≠ "telegram" then
    .error (invalid "external_identity_v2.provider" "must be yandex or telegram")
  else subject.validate

def validateAuthRevisionV2 (revision : Nat) : Except WebError Unit :=
  if revision = 0 then .error (invalid "auth_revision_v2" "must be a canonical positive uint64 decimal string") else .ok ()

def ExternalIdentityV2.validate (identity : ExternalIdentityV2) : Except WebError Unit := do
  if identity.version ≠ 2 then .error (invalid "external_identity_v2.version" "must be 2") else
  validateIdentitySubjectV2 identity.subject
  opaqueID "user_id" identity.userID
  if identity.state ≠ .active ∧ identity.state ≠ .unlinked then
    .error (invalid "external_identity_v2.state" "must be active or unlinked") else
  validateAuthRevisionV2 identity.revision
  if identity.createdAt = 0 ∨ identity.updatedAt < identity.createdAt then
    .error (invalid "external_identity_v2.updated_at" "must not precede a nonzero created_at") else .ok ()

/-- The loop of `ValidateExternalIdentitySetV2`: the providers and the revision met so far. -/
def validateExternalIdentitySet (user : UserID) : List IdentityProvider → Nat → List ExternalIdentityV2 → Except WebError Nat
  | _, revision, [] => .ok revision
  | providers, revision, identity :: rest => do
    identity.validate
    if identity.userID ≠ user ∨ identity.state ≠ .active ∨ identity.subject.provider ∈ providers then
      .error (invalid "external_identity_v2.active_set" "requires same-owner active methods with distinct providers") else
    if revision ≠ 0 ∧ revision ≠ identity.revision then
      .error (invalid "external_identity_v2.active_set" "requires a common security revision") else
    validateExternalIdentitySet user (identity.subject.provider :: providers) identity.revision rest

def validateExternalIdentitySetV2 (user : UserID) (active : List ExternalIdentityV2) : Except WebError Nat := do
  opaqueID "user_id" user
  if active.length < 1 ∨ active.length > 2 then
    .error (invalid "external_identity_v2.active_set" "must contain one or two canonical methods") else
  validateExternalIdentitySet user [] 0 active

/-! ## Memberships -/

inductive TenantMembershipRole where
  | owner
  | member
  | viewer
  | other (text : String)
deriving DecidableEq, Repr

inductive TenantMembershipStatus where
  | active
  | suspended
  | revoked
  | other (text : String)
deriving DecidableEq, Repr

inductive TenantPermission where
  | read
  | write
  | admin
  | other (text : String)
deriving DecidableEq, Repr

structure TenantMembership where
  tenantID : TenantID
  userID : UserID
  role : TenantMembershipRole
  status : TenantMembershipStatus
  securityVersion : Nat
  createdAt : Int
  updatedAt : Int
deriving DecidableEq, Repr

def TenantMembership.validate (membership : TenantMembership) : Except WebError Unit := do
  opaqueID "tenant_id" membership.tenantID
  opaqueID "user_id" membership.userID
  if membership.role ≠ .owner ∧ membership.role ≠ .member ∧ membership.role ≠ .viewer then
    .error (invalid "tenant_membership.role" "is unknown") else
  if membership.status ≠ .active ∧ membership.status ≠ .suspended ∧ membership.status ≠ .revoked then
    .error (invalid "tenant_membership.status" "is unknown") else
  if membership.securityVersion = 0 then
    .error (invalid "tenant_membership.security_version" "must be positive") else
  if membership.createdAt = 0 ∨ membership.updatedAt < membership.createdAt then
    .error (invalid "tenant_membership.updated_at" "must not be before a non-zero created_at") else .ok ()

def TenantMembership.authorize (membership : TenantMembership) (userID : UserID) (tenantID : TenantID)
    (permission : TenantPermission) : Except WebError Unit := do
  membership.validate
  if membership.userID ≠ userID ∨ membership.tenantID ≠ tenantID ∨ membership.status ≠ .active then .error denied else
  match permission with
  | .read => .ok ()
  | .write => if membership.role ≠ .viewer then .ok () else .error denied
  | .admin => if membership.role = .owner then .ok () else .error denied
  | .other _ => .error (invalid "tenant_permission" "is unknown")

/-! ## Sessions -/

structure WebSession where
  sessionDigest : SecretDigest
  csrfTokenDigest : SecretDigest
  userID : UserID
  activeTenantID : TenantID
  authenticatedSubject : ExternalSubject
  membershipSecurityVersion : Nat
  issuedAt : Int
  lastSeenAt : Int
  idleExpiresAt : Int
  absoluteExpiresAt : Int
  revokedAt : Option Int
deriving DecidableEq, Repr

namespace WebSession

def zero : WebSession := ⟨"", "", "", "", ⟨"", ""⟩, 0, 0, 0, 0, 0, none⟩

def validate (session : WebSession) : Except WebError Unit := do
  validateDigest "web_session.session_digest" session.sessionDigest
  validateDigest "web_session.csrf_token_digest" session.csrfTokenDigest
  opaqueID "user_id" session.userID
  opaqueID "tenant_id" session.activeTenantID
  session.authenticatedSubject.validate
  if session.membershipSecurityVersion = 0 then
    .error (invalid "web_session.membership_security_version" "must be positive") else
  if session.issuedAt = 0 ∨ session.lastSeenAt < session.issuedAt ∨ session.idleExpiresAt ≤ session.lastSeenAt ∨
      session.absoluteExpiresAt ≤ session.issuedAt ∨ session.idleExpiresAt > session.absoluteExpiresAt then
    .error (invalid "web_session.expiry" "timestamps are inconsistent") else
  if session.revokedAt.any (· < session.issuedAt) then
    .error (invalid "web_session.revoked_at" "must not be before issued_at") else .ok ()

def authorize (session : WebSession) (membership : TenantMembership) (permission : TenantPermission) (now : Int) :
    Except WebError Unit := do
  session.validate
  if session.revokedAt.isSome then .error .sessionRevoked else
  if session.idleExpiresAt ≤ now ∨ session.absoluteExpiresAt ≤ now then .error .sessionExpired else
  membership.authorize session.userID session.activeTenantID permission
  if session.membershipSecurityVersion ≠ membership.securityVersion then .error .membershipVersionChanged else .ok ()

/-- A revoked session keeps the time of its first revocation. -/
def revoke (session : WebSession) (now : Int) : Except WebError WebSession := do
  session.validate
  if now < session.issuedAt then .error (invalid "web_session.revoked_at" "must not be before issued_at") else
  .ok { session with revokedAt := session.revokedAt <|> some now }

/-- The session as `AuthorizeWebSession` leaves it: seen now, its idle deadline moved and capped by the absolute one. -/
def seen (session : WebSession) (idleTTL now : Int) : WebSession :=
  { session with lastSeenAt := now, idleExpiresAt := min (now + idleTTL) session.absoluteExpiresAt }

end WebSession

def validateWebSessionRotation (previous next : WebSession) (selected : TenantMembership) (now : Int) :
    Except WebError Unit := do
  previous.validate
  if previous.revokedAt.isSome ∨ previous.idleExpiresAt ≤ now ∨ previous.absoluteExpiresAt ≤ now then
    .error .sessionRotation else
  next.validate
  if previous.userID ≠ next.userID ∨ previous.authenticatedSubject ≠ next.authenticatedSubject ∨
      previous.sessionDigest = next.sessionDigest ∨ previous.csrfTokenDigest = next.csrfTokenDigest ∨
      next.issuedAt ≠ now then .error .sessionRotation else
  selected.authorize next.userID next.activeTenantID .read
  if next.membershipSecurityVersion ≠ selected.securityVersion then .error .membershipVersionChanged else .ok ()

/-- The record of the second version: the session and the revision of the identity it was issued for. -/
structure WebSessionV2 where
  version : Nat
  session : WebSession
  identityRevision : Nat
deriving DecidableEq, Repr

namespace WebSessionV2

def validate (record : WebSessionV2) : Except WebError Unit := do
  if record.version ≠ 2 then .error (invalid "web_session_v2.version" "must be 2") else
  record.session.validate
  validateIdentitySubjectV2 record.session.authenticatedSubject
  validateAuthRevisionV2 record.identityRevision

def authorizeCurrent (record : WebSessionV2) (identity : ExternalIdentityV2) (membership : TenantMembership)
    (permission : TenantPermission) (now : Int) : Except WebError Unit := do
  record.validate
  identity.validate
  if identity.state ≠ .active ∨ identity.userID ≠ record.session.userID ∨
      identity.subject ≠ record.session.authenticatedSubject ∨ identity.revision ≠ record.identityRevision then
    .error .sessionRevoked else
  if now = 0 ∨ record.session.issuedAt > now ∨ record.session.lastSeenAt > now ∨ identity.createdAt > now ∨
      identity.updatedAt > now ∨ membership.createdAt > now ∨ membership.updatedAt > now then .error .sessionRevoked else
  record.session.authorize membership permission now

end WebSessionV2

/-! ## What a check says -/

theorem WebSession.authorize_ok {session : WebSession} {membership permission now} (h : session.authorize membership permission now = .ok ()) :
    session.validate = .ok () ∧ session.revokedAt = none ∧ now < session.absoluteExpiresAt := by
  simp only [WebSession.authorize, bind_eq_ok, exists_unit, ite_error_eq_ok, not_or, Int.not_le, Bool.not_eq_true,
    Option.isSome_eq_false_iff, Option.isNone_iff_eq_none] at h
  obtain ⟨hvalid, hrevoked, ⟨_, habsolute⟩, _⟩ := h
  exact ⟨hvalid, hrevoked, habsolute⟩

theorem WebSession.revoke_ok {session revoked : WebSession} {now} (h : session.revoke now = .ok revoked) :
    revoked = { session with revokedAt := session.revokedAt <|> some now } := by
  simp only [WebSession.revoke, bind_eq_ok, exists_unit, ite_error_eq_ok, Except.ok.injEq] at h
  exact h.2.2.symm

theorem WebSessionV2.authorizeCurrent_ok {record : WebSessionV2} {identity membership permission now}
    (h : record.authorizeCurrent identity membership permission now = .ok ()) :
    record.session.authorize membership permission now = .ok () := by
  simp only [WebSessionV2.authorizeCurrent, bind_eq_ok, exists_unit, ite_error_eq_ok] at h
  exact h.2.2.2.2

end Sessionless.WebAuth
