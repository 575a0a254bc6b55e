import Sessionless.WebAuth.Session

/-!
# Transactions on web sessions

`CreateWebSession`, `AuthorizeWebSession`, `SwitchTenant` and `RevokeWebSession`, each one serializable transaction,
in the form of the second identity version: the time is read inside the transaction. The audit rows decide nothing and
are left out.
-/

namespace Sessionless.WebAuth

open Lib Store

/-- A row of `web_sessions`, in one of its two JSON shapes. -/
inductive SessionRecord where
  | v1 (session : WebSession)
  | v2 (record : WebSessionV2)
deriving DecidableEq, Repr

def SessionRecord.session : SessionRecord → WebSession
  | .v1 session => session
  | .v2 record => record.session

structure Database where
  sessions : Table SecretDigest SessionRecord
  memberships : List TenantMembership
  identities : Table ExternalSubject ExternalIdentityV2
  /-- `external_identities_by_user`, in key order: the subject and `created_at`. -/
  identitiesByUser : UserID → List (ExternalSubject × Int)

/-- What a store is configured with. `bindings` are the providers of a second identity version, `none` when its
configuration does not pass its checks. -/
inductive IdentityMode where
  | v1
  | v2 (bindings : Option (List IdentityProvider))
deriving DecidableEq, Repr

/-- The session handed out together with the membership it was checked against. -/
structure WebAuthorization where
  session : WebSession
  membership : TenantMembership
deriving DecidableEq, Repr

def requireFound {α : Type} (row : Option α) (error : WebError) : Except WebError α :=
  match row with
  | none => .error error
  | some value => .ok value

/-- Every failure of a check is answered with one error. -/
def orElseFail (check : Except WebError Unit) (error : WebError) : Except WebError Unit :=
  match check with
  | .ok _ => .ok ()
  | .error _ => .error error

theorem requireFound_ok {α : Type} {row : Option α} {error : WebError} {value : α} :
    requireFound row error = .ok value ↔ row = some value := by
  cases row <;> simp [requireFound]

theorem orElseFail_ok {check error} :
    orElseFail check error = .ok () ↔ check = .ok () := by
  cases check <;> simp [orElseFail]

namespace Database

def readMembership (db : Database) (userID : UserID) (tenantID : TenantID) : Option TenantMembership :=
  db.memberships.find? fun row => row.userID = userID ∧ row.tenantID = tenantID

/-! ## The first version -/

/-- `json.Unmarshal` of a record of the second shape meets none of the fields of the first. -/
def readWebSession (db : Database) (digest : SecretDigest) : Option WebSession :=
  (db.sessions digest).map fun
    | .v1 session => session
    | .v2 _ => .zero

def writeWebSession (db : Database) (session : WebSession) : Except WebError Database := do
  session.validate
  .ok { db with sessions := db.sessions.upsert session.sessionDigest (.v1 session) }

def createWebSessionV1 (db : Database) (session : WebSession) : Except WebError Database := do
  session.validate
  let membership ← requireFound (db.readMembership session.userID session.activeTenantID) denied
  session.authorize membership .read session.issuedAt
  match db.readWebSession session.sessionDigest with
  | some existing =>
    if existing = session then .ok db else .error (invalid "web_session.session_digest" "already exists")
  | none => db.writeWebSession session

def authorizeWebSessionV1 (db : Database) (idleTTL : Int) (digest : SecretDigest) (permission : TenantPermission)
    (now : Int) : Except WebError (WebAuthorization × Database) := do
  validateDigest "web_session.session_digest" digest
  let session ← requireFound (db.readWebSession digest) .sessionRevoked
  let membership ← requireFound (db.readMembership session.userID session.activeTenantID) denied
  session.authorize membership permission now
  if session.lastSeenAt < now then
    let db ← db.writeWebSession (session.seen idleTTL now)
    .ok (⟨session.seen idleTTL now, membership⟩, db)
  else .ok (⟨session, membership⟩, db)

def switchTenantV1 (db : Database) (current : SecretDigest) (next : WebSession) (selectedTenantID : TenantID) (now : Int) :
    Except WebError (WebAuthorization × Database) := do
  validateDigest "web_session.current_digest" current
  next.validate
  if next.activeTenantID ≠ selectedTenantID then .error .sessionRotation else
  let previous ← requireFound (db.readWebSession current) .sessionRevoked
  let currentMembership ← requireFound (db.readMembership previous.userID previous.activeTenantID) denied
  previous.authorize currentMembership .read now
  let selected ← requireFound (db.readMembership previous.userID selectedTenantID) denied
  validateWebSessionRotation previous next selected now
  if (db.readWebSession next.sessionDigest).isSome then .error .sessionRotation else
  let revoked ← previous.revoke now
  let db ← db.writeWebSession revoked
  let db ← db.writeWebSession next
  .ok (⟨next, selected⟩, db)

def revokeWebSessionV1 (db : Database) (digest : SecretDigest) (now : Int) : Except WebError Database := do
  validateDigest "web_session.session_digest" digest
  match db.readWebSession digest with
  | none => .ok db
  | some session =>
    let revoked ← session.revoke now
    db.writeWebSession revoked

/-! ## The second version -/

/-- A record of the first shape does not decode. -/
def readWebSessionV2 (db : Database) (digest : SecretDigest) : Except WebError (Option WebSessionV2) := do
  orElseFail (validateDigest "web_session_v2.session_digest" digest) .sessionRevoked
  match db.sessions digest with
  | none => .ok none
  | some (.v1 _) => .error .sessionRevoked
  | some (.v2 record) => do
    orElseFail record.validate .sessionRevoked
    if record.session.sessionDigest ≠ digest then .error .sessionRevoked else .ok (some record)

def writeWebSessionV2 (db : Database) (record : WebSessionV2) : Except WebError Database := do
  record.validate
  .ok { db with sessions := db.sessions.upsert record.session.sessionDigest (.v2 record) }

def readExternalIdentityV2 (db : Database) (subject : ExternalSubject) : Except WebError (Option ExternalIdentityV2) := do
  orElseFail subject.validate denied
  match db.identities subject with
  | none => .ok none
  | some identity => do
    orElseFail identity.validate denied
    if identity.subject ≠ subject then .error denied else .ok (some identity)

/-- The canonical rows behind the reverse index of a user; a third row of the index is refused. -/
def readActiveExternalIdentitiesV2 (db : Database) (user : UserID) : Except WebError (List ExternalIdentityV2) := do
  orElseFail (opaqueID "user_id" user) denied
  if (db.identitiesByUser user).length > 2 then .error denied else
  let active ← (db.identitiesByUser user).mapM fun (subject, created) => do
    let identity ← requireFound (← db.readExternalIdentityV2 subject) denied
    if identity.userID ≠ user ∨ identity.createdAt ≠ created then .error denied else .ok identity
  orElseFail ((validateExternalIdentitySetV2 user active).map fun _ => ()) denied
  .ok active

/-- `authorizeWebSessionV2`: the session, its identity and its membership, joined in one transaction. -/
def joinWebSessionV2 (db : Database) (digest : SecretDigest) (permission : TenantPermission) (now : Int) :
    Except WebError (WebSessionV2 × TenantMembership) :=
  match db.readWebSessionV2 digest with
  | .ok (some record) =>
    match db.readExternalIdentityV2 record.session.authenticatedSubject,
        db.readMembership record.session.userID record.session.activeTenantID with
    | .ok (some identity), some membership => do
      orElseFail (record.authorizeCurrent identity membership permission now) .sessionRevoked
      .ok (record, membership)
    | _, _ => .error .sessionRevoked
  | _ => .error .sessionRevoked

def servingBindings (bindings : Option (List IdentityProvider)) : Except WebError (List IdentityProvider) :=
  requireFound bindings .sessionRevoked

def createWebSessionV2 (db : Database) (bindings : Option (List IdentityProvider)) (session : WebSession) (now : Int) :
    Except WebError Database := do
  let enabled ← servingBindings bindings
  orElseFail session.validate .sessionRevoked
  if session.revokedAt.isSome ∨ session.authenticatedSubject.provider ∉ enabled then .error .sessionRevoked else
  let active ← db.readActiveExternalIdentitiesV2 session.userID
  if ∃ candidate ∈ active, candidate.createdAt > now ∨ candidate.updatedAt > now then .error .sessionRevoked else
  let identity := (active.reverse.find? (·.subject = session.authenticatedSubject)).getD .zero
  let membership ← requireFound (db.readMembership session.userID session.activeTenantID) denied
  let next : WebSessionV2 := ⟨2, session, identity.revision⟩
  orElseFail (next.authorizeCurrent identity membership .read now) .sessionRevoked
  match ← db.readWebSessionV2 session.sessionDigest with
  | some existing => if existing = next then .ok db else .error .sessionRotation
  | none => db.writeWebSessionV2 next

def authorizeWebSessionServingV2 (db : Database) (bindings : Option (List IdentityProvider)) (idleTTL : Int)
    (digest : SecretDigest) (permission : TenantPermission) (now : Int) : Except WebError (WebAuthorization × Database) := do
  let enabled ← servingBindings bindings
  orElseFail (validateDigest "web_session_v2.session_digest" digest) .sessionRevoked
  let (record, membership) ← db.joinWebSessionV2 digest permission now
  if record.session.authenticatedSubject.provider ∉ enabled then .error .sessionRevoked else
  if record.session.lastSeenAt < now then
    let db ← db.writeWebSessionV2 { record with session := record.session.seen idleTTL now }
    .ok (⟨record.session.seen idleTTL now, membership⟩, db)
  else .ok (⟨record.session, membership⟩, db)

/-- `preparedAt` is the time the handler put on the next session; both sessions are checked at the time of the transaction. -/
def switchTenantV2 (db : Database) (bindings : Option (List IdentityProvider)) (current : SecretDigest) (next : WebSession)
    (tenant : TenantID) (preparedAt now : Int) : Except WebError (WebAuthorization × Database) := do
  let enabled ← orElseRotation (servingBindings bindings)
  orElseFail (validateDigest "web_session_v2.current_digest" current) .sessionRotation
  orElseFail next.validate .sessionRotation
  if next.activeTenantID ≠ tenant ∨ next.issuedAt ≠ preparedAt then .error .sessionRotation else
  let (previous, _) ← db.joinWebSessionV2 current .read now
  if previous.session.authenticatedSubject.provider ∉ enabled then .error .sessionRevoked else
  let selected ← requireFound (db.readMembership previous.session.userID tenant) denied
  if next.issuedAt < previous.session.issuedAt ∨ next.issuedAt > now ∨ next.lastSeenAt > now ∨ selected.createdAt > now ∨
      selected.updatedAt > now then .error .sessionRotation else
  orElseFail (validateWebSessionRotation previous.session next selected preparedAt) .sessionRotation
  orElseFail (next.authorize selected .read now) .sessionRotation
  match db.readWebSessionV2 next.sessionDigest with
  | .ok none => do
    let revoked ← previous.session.revoke now
    let db ← db.writeWebSessionV2 { previous with session := revoked }
    let db ← db.writeWebSessionV2 ⟨2, next, previous.identityRevision⟩
    .ok (⟨next, selected⟩, db)
  | _ => .error .sessionRotation
where
  orElseRotation (bindings : Except WebError (List IdentityProvider)) : Except WebError (List IdentityProvider) :=
    bindings.mapError fun _ => .sessionRotation

/-- An expired session or membership does not prevent a logout; a stale or unlinked identity does. -/
def revokeWebSessionV2 (db : Database) (bindings : Option (List IdentityProvider)) (digest : SecretDigest) (now : Int) :
    Except WebError Database := do
  let enabled ← servingBindings bindings
  orElseFail (validateDigest "web_session_v2.session_digest" digest) .sessionRevoked
  match ← db.readWebSessionV2 digest with
  | none => .ok db
  | some record =>
    match db.readExternalIdentityV2 record.session.authenticatedSubject with
    | .ok (some identity) =>
      if identity.state ≠ .active ∨ identity.userID ≠ record.session.userID ∨
          identity.revision ≠ record.identityRevision ∨ identity.createdAt > now ∨ identity.updatedAt > now ∨
          record.session.issuedAt > now ∨ record.session.lastSeenAt > now ∨ record.session.revokedAt.any (· > now) ∨
          identity.subject.provider ∉ enabled then .error .sessionRevoked else
      if record.session.revokedAt.isSome then .ok db else do
      let revoked ← record.session.revoke now
      db.writeWebSessionV2 { record with session := revoked }
    | _ => .error .sessionRevoked

end Database

/-! ## The store -/

structure StoreConfig where
  identityMode : IdentityMode
  webSessionIdleTTL : Int
deriving DecidableEq, Repr

namespace StoreConfig

/-- The time a call is judged by: the caller's, or the transaction's own. -/
def judgedAt (config : StoreConfig) (clock now : Int) : Int :=
  match config.identityMode with
  | .v1 => now
  | .v2 _ => clock

def createWebSession (config : StoreConfig) (db : Database) (clock : Int) (session : WebSession) : Except WebError Database :=
  match config.identityMode with
  | .v1 => db.createWebSessionV1 session
  | .v2 bindings => db.createWebSessionV2 bindings session clock

def authorizeWebSession (config : StoreConfig) (db : Database) (clock : Int) (digest : SecretDigest)
    (permission : TenantPermission) (now : Int) : Except WebError (WebAuthorization × Database) :=
  match config.identityMode with
  | .v1 => db.authorizeWebSessionV1 config.webSessionIdleTTL digest permission now
  | .v2 bindings => db.authorizeWebSessionServingV2 bindings config.webSessionIdleTTL digest permission clock

def switchTenant (config : StoreConfig) (db : Database) (clock : Int) (current : SecretDigest) (next : WebSession)
    (selectedTenantID : TenantID) (now : Int) : Except WebError (WebAuthorization × Database) :=
  match config.identityMode with
  | .v1 => db.switchTenantV1 current next selectedTenantID now
  | .v2 bindings => db.switchTenantV2 bindings current next selectedTenantID now clock

def revokeWebSession (config : StoreConfig) (db : Database) (clock : Int) (digest : SecretDigest) (now : Int) :
    Except WebError Database :=
  match config.identityMode with
  | .v1 => db.revokeWebSessionV1 digest now
  | .v2 bindings => db.revokeWebSessionV2 bindings digest clock

end StoreConfig

end Sessionless.WebAuth
