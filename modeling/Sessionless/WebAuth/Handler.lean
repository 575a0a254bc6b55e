import Sessionless.Lib.Rotation
import Sessionless.Lib.Trace
import Sessionless.WebAuth.Effects

/-!
# Logins, tenant switches and logouts

The browser-facing handler prepares a session from its own clock and hands it to the store. What it read before may be
stale when the transaction runs, so a step takes any such value, and a time is any reading of the clock up to now.
-/

namespace Sessionless.WebAuth

open Lib Store

structure Config where
  idleTTL : Int
  absoluteTTL : Int
  store : StoreConfig
deriving DecidableEq, Repr

section

variable [Protocol.Crypto]

/-- `Handler.newSession`, for the two secrets drawn. -/
def Config.newSession (config : Config) (identity : ExternalIdentity) (membership : TenantMembership) (now : Int)
    (rawSession rawCSRF : String) : Except WebError WebSession := do
  let session : WebSession :=
    { sessionDigest := digestSecret rawSession, csrfTokenDigest := digestSecret rawCSRF, userID := identity.userID
      activeTenantID := membership.tenantID, authenticatedSubject := identity.subject
      membershipSecurityVersion := membership.securityVersion, issuedAt := now, lastSeenAt := now
      idleExpiresAt := now + config.idleTTL, absoluteExpiresAt := now + config.absoluteTTL, revokedAt := none }
  session.validate
  .ok session

theorem Config.newSession_ok {config : Config} {identity membership now rawSession rawCSRF} {session : WebSession}
    (h : config.newSession identity membership now rawSession rawCSRF = .ok session) :
    session.absoluteExpiresAt = now + config.absoluteTTL := by
  simp only [Config.newSession, bind_eq_ok, exists_unit, Except.ok.injEq] at h
  rw [← h.2]

/-- The session `Handler.switchTenant` prepares for the tenant selected, out of the session it was authorized with. -/
def Config.rotatedSession (config : Config) (authorized : WebSession) (selected : TenantMembership) (now : Int)
    (rawSession rawCSRF : String) : Except WebError WebSession :=
  config.newSession ⟨authorized.authenticatedSubject, authorized.userID, authorized.issuedAt, now⟩ selected now rawSession
    rawCSRF

/-! ## Runs -/

structure Login where
  digest : SecretDigest
  loggedInAt : Int
deriving DecidableEq, Repr

structure Web where
  db : Database
  clock : Int
  /-- The sessions that authorized calls were answered with. -/
  granted : List WebSession
  /-- The login that a session goes back to, directly or through tenant switches. -/
  logins : SecretDigest → Option Login
  /-- The digests that a switch or a revocation was committed for. -/
  ended : List SecretDigest

/-- A digest that no session and no ended call had: the secrets are drawn at random. -/
def Web.Fresh (web : Web) (digest : SecretDigest) : Prop := web.logins digest = none ∧ digest ∉ web.ended

inductive Event where
  | quiet
  /-- A tenant switch of a session of this login, prepared at an instant. -/
  | switched (login : Option Login) (now : Int)
deriving DecidableEq, Repr

inductive Turn (config : Config) : Web → Event → Web → Prop where
  | ticked {web : Web} {later : Int} (hlater : web.clock ≤ later) : Turn config web .quiet { web with clock := later }
  | enrolled {web : Web} (memberships : List TenantMembership) :
      Turn config web .quiet { web with db := { web.db with memberships := memberships } }
  | identified {web : Web} (identities : Table ExternalSubject ExternalIdentityV2)
      (identitiesByUser : UserID → List (ExternalSubject × Int)) :
      Turn config web .quiet
        { web with db := { web.db with identities := identities, identitiesByUser := identitiesByUser } }
  | loggedIn {web : Web} {identity : ExternalIdentity} {membership : TenantMembership} {rawSession rawCSRF : String}
      {now : Int} {session : WebSession} {db : Database} (hnow : now ≤ web.clock)
      (hsession : config.newSession identity membership now rawSession rawCSRF = .ok session)
      (hfresh : web.Fresh session.sessionDigest)
      (h : config.store.createWebSession web.db web.clock session = .ok db) :
      Turn config web .quiet
        { web with
          db := db
          logins := Function.update web.logins session.sessionDigest (some ⟨session.sessionDigest, now⟩) }
  | authorized {web : Web} {digest : SecretDigest} {permission : TenantPermission} {now : Int}
      {authorization : WebAuthorization} {db : Database} (hnow : now ≤ web.clock)
      (h : config.store.authorizeWebSession web.db web.clock digest permission now = .ok (authorization, db)) :
      Turn config web .quiet { web with db := db, granted := authorization.session :: web.granted }
  | switched {web : Web} {authorized : WebSession} {selected : TenantMembership} {rawSession rawCSRF : String} {now : Int}
      {next : WebSession} {authorization : WebAuthorization} {db : Database} (hauthorized : authorized ∈ web.granted)
      (hactive : selected.status = .active) (hnow : now ≤ web.clock)
      (hnext : config.rotatedSession authorized selected now rawSession rawCSRF = .ok next)
      (hfresh : web.Fresh next.sessionDigest)
      (h : config.store.switchTenant web.db web.clock authorized.sessionDigest next selected.tenantID now =
        .ok (authorization, db)) :
      Turn config web (.switched (web.logins authorized.sessionDigest) now)
        { web with
          db := db
          logins := Function.update web.logins next.sessionDigest (web.logins authorized.sessionDigest)
          ended := authorized.sessionDigest :: web.ended }
  | revoked {web : Web} {digest : SecretDigest} {now : Int} {db : Database} (hnow : now ≤ web.clock)
      (h : config.store.revokeWebSession web.db web.clock digest now = .ok db) :
      Turn config web .quiet { web with db := db, ended := digest :: web.ended }

end

/-- No session, no login: the memberships and identities are what they are. -/
def Web.start (db : Database) (clock : Int) : Web :=
  ⟨{ db with sessions := fun _ => none }, clock, [], fun _ => none, []⟩

end Sessionless.WebAuth
