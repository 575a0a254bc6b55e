import Sessionless.WebAuth.Handler

/-!
# How long a login lasts

A switch revokes the session it is made with, so at most one session of a login is served. `newSession` counts the
absolute lifetime from its own clock, and the rotation check compares no deadline of the two sessions, so a switch
restarts the lifetime of the login.
-/

namespace Sessionless.WebAuth

open Lib Store

namespace Web

def Live (web : Web) (digest : SecretDigest) : Prop :=
  ∃ record, web.db.sessions digest = some record ∧ record.session.revokedAt = none

/-- A call judged by the reading `now` is authorized in this state. -/
def Authorizes (web : Web) (config : Config) (digest : SecretDigest) (now : Int) : Prop :=
  ∃ permission authorization db,
    config.store.authorizeWebSession web.db web.clock digest permission now = .ok (authorization, db)

def credentials (web : Web) : Credentials SecretDigest Login := ⟨web.logins, web.Live, (· ∈ web.ended)⟩

structure Inv (web : Web) : Prop where
  keyed : web.db.Keyed
  known : ∀ digest record, web.db.sessions digest = some record → web.logins digest ≠ none
  named : ∀ digest login, web.logins digest = some login → web.logins login.digest ≠ none

/-- Every session of the login expires within the absolute lifetime of the login. -/
def Within (config : Config) (login : Login) (web : Web) : Prop :=
  ∀ digest record, web.logins digest = some login → web.db.sessions digest = some record →
    record.session.absoluteExpiresAt ≤ login.loggedInAt + config.absoluteTTL

end Web

/-! ## One row rewritten -/

section

variable {web web' : Web} {digest : SecretDigest} {old new record : SessionRecord} {login : Login} {config : Config}

theorem Database.Keyed.upsert {db db' : Database} (hkeyed : db.Keyed)
    (hwritten : db'.sessions = db.sessions.upsert digest new) (hdigest : new.session.sessionDigest = digest) : db'.Keyed := by
  intro key record hrow
  rw [hwritten] at hrow
  obtain ⟨rfl, rfl⟩ | ⟨_, hold⟩ := Table.of_upsert hrow
  · exact hdigest
  · exact hkeyed key record hold

theorem Web.Inv.rewritten (hinv : web.Inv) (hfound : web.db.sessions digest = some old) (hterms : old.SameTerms new)
    (hwritten : web'.db.sessions = web.db.sessions.upsert digest new) (hlogins : web'.logins = web.logins) : web'.Inv := by
  refine ⟨hinv.keyed.upsert hwritten (hterms.digest.trans (hinv.keyed _ _ hfound)), ?_, ?_⟩
  · intro key record hrow
    rw [hwritten] at hrow
    rw [hlogins]
    obtain ⟨rfl, rfl⟩ | ⟨_, hold⟩ := Table.of_upsert hrow
    · exact hinv.known _ _ hfound
    · exact hinv.known _ _ hold
  · rw [hlogins]
    exact hinv.named

theorem Web.Within.rewritten (h : web.Within config login) (hfound : web.db.sessions digest = some old)
    (hterms : old.SameTerms new) (hwritten : web'.db.sessions = web.db.sessions.upsert digest new)
    (hlogins : web'.logins = web.logins) : web'.Within config login := by
  intro key record hlogin hrow
  rw [hlogins] at hlogin
  rw [hwritten] at hrow
  obtain ⟨rfl, rfl⟩ | ⟨_, hold⟩ := Table.of_upsert hrow
  · rw [hterms.absolute]
    exact h _ _ hlogin hfound
  · exact h _ _ hlogin hold

theorem Web.Inv.issued (hinv : web.Inv) (hdigest : record.session.sessionDigest = digest)
    (hwritten : web'.db.sessions = web.db.sessions.upsert digest record)
    (hlogins : web'.logins = Function.update web.logins digest (some login))
    (hlogin : login.digest = digest ∨ web.logins login.digest ≠ none) : web'.Inv := by
  refine ⟨hinv.keyed.upsert hwritten hdigest, ?_, ?_⟩
  · intro key record hrow
    rw [hlogins]
    by_cases hkey : key = digest
    · simp [hkey]
    · rw [hwritten, Table.upsert_of_ne hkey] at hrow
      rw [Function.update_of_ne hkey]
      exact hinv.known _ _ hrow
  · intro key login' hroot
    rw [hlogins] at hroot ⊢
    have hkept : login'.digest = digest ∨ web.logins login'.digest ≠ none := by
      by_cases hkey : key = digest
      · rw [hkey, Function.update_self] at hroot
        cases hroot
        exact hlogin
      · rw [Function.update_of_ne hkey] at hroot
        exact .inr (hinv.named _ _ hroot)
    by_cases hself : login'.digest = digest
    · simp [hself]
    · rw [Function.update_of_ne hself]
      exact hkept.resolve_left hself

theorem Web.Within.issued {root} (h : web.Within config login)
    (hwritten : web'.db.sessions = web.db.sessions.upsert digest record)
    (hlogins : web'.logins = Function.update web.logins digest (some root))
    (hdeadline : root = login → record.session.absoluteExpiresAt ≤ login.loggedInAt + config.absoluteTTL) :
    web'.Within config login := by
  intro key stored hlogin hrow
  rw [hlogins] at hlogin
  rw [hwritten] at hrow
  obtain ⟨rfl, rfl⟩ | ⟨hkey, hold⟩ := Table.of_upsert hrow
  · rw [Function.update_self, Option.some.injEq] at hlogin
    exact hdeadline hlogin
  · rw [Function.update_of_ne hkey] at hlogin
    exact h _ _ hlogin hold

theorem Web.Inv.absent (hinv : web.Inv) (hfresh : web.Fresh digest) :
    web.db.sessions digest = none := by
  cases hrow : web.db.sessions digest with
  | none => rfl
  | some record => exact absurd hfresh.1 (hinv.known _ _ hrow)

theorem live_of_rewritten {key} (hfound : web.db.sessions digest = some old) (hunrevoked : new.session.revokedAt = none → old.session.revokedAt = none)
    (hwritten : web'.db.sessions = web.db.sessions.upsert digest new) (hlive : web'.Live key) : web.Live key := by
  obtain ⟨record, hrow, hrevoked⟩ := hlive
  rw [hwritten] at hrow
  obtain ⟨rfl, rfl⟩ | ⟨_, hold⟩ := Table.of_upsert hrow
  · exact ⟨old, hfound, hunrevoked hrevoked⟩
  · exact ⟨record, hold, hrevoked⟩

theorem not_live_of_revoked {ended} (hrevoked : ended.session.revokedAt ≠ none)
    (hrow : web'.db.sessions digest = some ended) : ¬ web'.Live digest := by
  rintro ⟨record, hrecord, hlive⟩
  rw [hrow, Option.some.injEq] at hrecord
  exact hrevoked (hrecord ▸ hlive)

end

/-! ## One step -/

section

variable [Protocol.Crypto] {config : Config} {web web' : Web} {event : Event} {login : Login}

def Web.ending (web : Web) (digest : SecretDigest) (ended : SessionRecord) : Web :=
  { web with db := { web.db with sessions := web.db.sessions.upsert digest ended } }

theorem Turn.inv (h : Turn config web event web') (hinv : web.Inv) : web'.Inv := by
  cases h with
  | ticked hlater | enrolled memberships | identified identities identitiesByUser =>
    exact ⟨hinv.keyed, hinv.known, hinv.named⟩
  | loggedIn hnow hsession hfresh h =>
    obtain ⟨record, hrecord, hwritten⟩ := createWebSession_ok h (hinv.absent hfresh)
    exact hinv.issued (congrArg WebSession.sessionDigest hrecord) hwritten rfl (.inl rfl)
  | authorized hnow h =>
    obtain ⟨old, new, hserves⟩ := authorizeWebSession_ok h hinv.keyed
    exact hinv.rewritten hserves.found hserves.terms hserves.written rfl
  | @switched authorized _ _ _ _ next _ _ hauthorized hactive hnow hnext hfresh h =>
    obtain ⟨old, ended, record, hrotates⟩ := switchTenant_ok h hinv.keyed
    have hending : (web.ending authorized.sessionDigest ended).Inv := hinv.rewritten hrotates.found hrotates.terms rfl rfl
    obtain ⟨root, hroot⟩ := Option.ne_none_iff_exists'.mp (hinv.known _ _ hrotates.found)
    exact hending.issued (congrArg WebSession.sessionDigest hrotates.issued) hrotates.written (by rw [hroot]; rfl)
      (.inr (hinv.named _ _ hroot))
  | revoked hnow h =>
    obtain ⟨_, rfl⟩ | ⟨old, ended, hends⟩ := revokeWebSession_ok h hinv.keyed
    · exact ⟨hinv.keyed, hinv.known, hinv.named⟩
    · exact hinv.rewritten hends.found hends.terms hends.written rfl

theorem Turn.refines (h : Turn config web event web') (hinv : web.Inv) : web.credentials.Step web'.credentials := by
  cases h with
  | ticked hlater | enrolled memberships | identified identities identitiesByUser =>
    exact .kept rfl (fun _ h => h) (fun _ h => .inl h)
  | @loggedIn _ _ _ _ now session _ hnow hsession hfresh h =>
    obtain ⟨record, hrecord, hwritten⟩ := createWebSession_ok h (hinv.absent hfresh)
    refine .opened session.sessionDigest ⟨session.sessionDigest, now⟩ hfresh.1 hfresh.2 ?_ rfl ?_ rfl
    · intro key hroot
      exact hinv.named key _ hroot hfresh.1
    · rintro key ⟨stored, hrow, hrevoked⟩
      rw [hwritten] at hrow
      obtain ⟨hkey, _⟩ | ⟨_, hold⟩ := Table.of_upsert hrow
      · exact .inl hkey
      · exact .inr ⟨stored, hold, hrevoked⟩
  | authorized hnow h =>
    obtain ⟨old, new, hserves⟩ := authorizeWebSession_ok h hinv.keyed
    refine .kept rfl (fun key hlive => ?_) (fun _ h => .inl h)
    exact live_of_rewritten hserves.found (fun _ => hserves.unrevoked) hserves.written hlive
  | @switched authorized _ _ _ _ next _ _ hauthorized hactive hnow hnext hfresh h =>
    obtain ⟨old, ended, record, hrotates⟩ := switchTenant_ok h hinv.keyed
    have hne : next.sessionDigest ≠ authorized.sessionDigest := by
      intro heq
      have hfound := hrotates.found
      rw [← heq, hrotates.fresh] at hfound
      cases hfound
    refine .rotated authorized.sessionDigest next.sessionDigest ⟨old, hrotates.found, hrotates.unrevoked⟩ hfresh.1 hfresh.2
      rfl ?_ hne (fun key hclosed => (List.mem_cons.mp hclosed).symm)
    rintro key ⟨stored, hrow, hlive⟩
    rw [hrotates.written] at hrow
    obtain ⟨hkey, _⟩ | ⟨_, hrow⟩ := Table.of_upsert hrow
    · exact .inl hkey
    · obtain ⟨_, rfl⟩ | ⟨hkey, hold⟩ := Table.of_upsert hrow
      · exact absurd hlive hrotates.revoked
      · exact .inr ⟨hkey, stored, hold, hlive⟩
  | @revoked digest _ db hnow h =>
    obtain ⟨habsent, rfl⟩ | ⟨old, ended, hends⟩ := revokeWebSession_ok h hinv.keyed
    · refine .kept rfl (fun _ h => h) (fun key hclosed => ?_)
      cases List.mem_cons.mp hclosed with
      | inl hkey =>
        refine .inr fun ⟨record, hrow, _⟩ => ?_
        rw [hkey, habsent] at hrow
        cases hrow
      | inr hold => exact .inl hold
    · refine .kept rfl (fun key hlive => ?_) (fun key hclosed => ?_)
      · exact live_of_rewritten hends.found (fun hnew => absurd hnew hends.revoked) hends.written hlive
      · cases List.mem_cons.mp hclosed with
        | inl hkey =>
          refine .inr (not_live_of_revoked hends.revoked ?_)
          rw [hkey, hends.written, Table.upsert_self]
        | inr hold => exact .inl hold

/-- Not a switch of this login, or one at the instant of the login. -/
def Event.Prompt (login : Login) (event : Event) : Prop := ∀ now, event = .switched (some login) now → now ≤ login.loggedInAt

theorem Turn.within (h : Turn config web event web') (hinv : web.Inv) (hprompt : event.Prompt login)
    (hwithin : web.Within config login) : web'.Within config login := by
  cases h with
  | ticked hlater | enrolled memberships | identified identities identitiesByUser => exact hwithin
  | loggedIn hnow hsession hfresh h =>
    obtain ⟨record, rfl, hwritten⟩ := createWebSession_ok h (hinv.absent hfresh)
    refine hwithin.issued hwritten rfl fun hlogin => ?_
    rw [Config.newSession_ok hsession, ← hlogin]
  | authorized hnow h =>
    obtain ⟨old, new, hserves⟩ := authorizeWebSession_ok h hinv.keyed
    exact hwithin.rewritten hserves.found hserves.terms hserves.written rfl
  | @switched authorized _ _ _ now next _ _ hauthorized hactive hnow hnext hfresh h =>
    obtain ⟨old, ended, record, hrotates⟩ := switchTenant_ok h hinv.keyed
    have hending : (web.ending authorized.sessionDigest ended).Within config login :=
      hwithin.rewritten hrotates.found hrotates.terms rfl rfl
    obtain ⟨root, hroot⟩ := Option.ne_none_iff_exists'.mp (hinv.known _ _ hrotates.found)
    refine hending.issued hrotates.written (by rw [hroot]; rfl) fun hlogin => ?_
    have hearly := hprompt now (by rw [hroot, hlogin])
    rw [hrotates.issued, Config.newSession_ok hnext]
    omega
  | revoked hnow h =>
    obtain ⟨_, rfl⟩ | ⟨old, ended, hends⟩ := revokeWebSession_ok h hinv.keyed
    · exact hwithin
    · exact hwithin.rewritten hends.found hends.terms hends.written rfl

end

/-! ## Runs -/

variable {db : Database} {clock : Int}

theorem Web.start_inv : (Web.start db clock).Inv := by
  constructor
  · intro digest record hrow
    cases hrow
  · intro digest record hrow
    cases hrow
  · intro digest login hlogin
    cases hlogin

theorem Web.start_sound : (Web.start db clock).credentials.Sound := by
  constructor
  · rintro digest ⟨record, hrow, _⟩
    cases hrow
  · rintro digest digest' login ⟨record, hrow, _⟩
    cases hrow
  · intro digest hended
    cases hended

theorem Web.Authorizes.live {config : Config} {web : Web} {digest now} (hinv : web.Inv)
    (h : web.Authorizes config digest now) :
    web.Live digest ∧ ∃ record, web.db.sessions digest = some record ∧
      config.store.judgedAt web.clock now < record.session.absoluteExpiresAt := by
  obtain ⟨_, _, _, hauthorize⟩ := h
  obtain ⟨old, _, hserves⟩ := authorizeWebSession_ok hauthorize hinv.keyed
  exact ⟨⟨old, hserves.found, hserves.unrevoked⟩, old, hserves.found, hserves.early⟩

section

variable [Protocol.Crypto] {config : Config} {events : List Event} {web : Web}

theorem inv_of_run (hrun : Trace (Turn config) (Web.start db clock) events web) :
    web.Inv ∧ web.credentials.Sound := by
  refine hrun.invariant (p := fun _ => True) (I := fun web => web.Inv ∧ web.credentials.Sound) ?_ (fun _ _ => trivial)
    ⟨Web.start_inv, Web.start_sound⟩
  intro web event web' _ ⟨hinv, hsound⟩ hturn
  exact ⟨hturn.inv hinv, (hturn.refines hinv).sound hsound⟩

theorem within_of_run {login} (hrun : Trace (Turn config) (Web.start db clock) events web)
    (hprompt : ∀ event ∈ events, event.Prompt login) : web.Within config login := by
  have hboth : web.Inv ∧ web.Within config login := by
    refine hrun.invariant (I := fun web => web.Inv ∧ web.Within config login) ?_ hprompt
      ⟨Web.start_inv, fun _ _ h => by cases h⟩
    intro web event web' hevent ⟨hinv, hwithin⟩ hturn
    exact ⟨hturn.inv hinv, hturn.within hinv hevent hwithin⟩
  exact hboth.2

/-- In every run: as long as no session of a login is switched after the instant of the login, none is
authorized once the absolute lifetime is over; one session of a login at most is authorized; and none is
authorized that a switch or a revocation was committed for. -/
theorem login_lifetime_of_prompt (hrun : Trace (Turn config) (Web.start db clock) events web) :
    (∀ login, (∀ now, Event.switched (some login) now ∈ events → now ≤ login.loggedInAt) → ∀ digest now,
        web.logins digest = some login → web.Authorizes config digest now →
        config.store.judgedAt web.clock now < login.loggedInAt + config.absoluteTTL) ∧
      (∀ login digest digest' now now', web.logins digest = some login → web.logins digest' = some login →
        web.Authorizes config digest now → web.Authorizes config digest' now' → digest = digest') ∧
      ∀ digest ∈ web.ended, ∀ now, ¬ web.Authorizes config digest now := by
  obtain ⟨hinv, hsound⟩ := inv_of_run hrun
  refine ⟨?_, ?_, ?_⟩
  · intro login hprompt digest now hlogin hauthorizes
    have hwithin : web.Within config login := within_of_run hrun fun event hmem now hevent => hprompt now (hevent ▸ hmem)
    obtain ⟨_, record, hrow, hearly⟩ := hauthorizes.live hinv
    exact lt_of_lt_of_le hearly (hwithin digest record hlogin hrow)
  · intro login digest digest' now now' hlogin hlogin' hauthorizes hauthorizes'
    exact hsound.unique digest digest' login (hauthorizes.live hinv).1 (hauthorizes'.live hinv).1 hlogin hlogin'
  · intro digest hended now hauthorizes
    exact hsound.dead digest hended (hauthorizes.live hinv).1

end

/-! ## One login -/

namespace Sample

/-- The digests that SHA-256 gives the four secrets below. -/
scoped instance crypto : Protocol.Crypto where
  sha256 value :=
    if value = utf8 "session_AAAAAAAAAAAAAAAAAAAAAAAAAAAAAAAAAAAAAAAAAAA" then
      .ofBytes [35, 124, 114, 25, 193, 125, 192, 117, 186, 66, 163, 72, 91, 20, 111, 14,
        121, 127, 231, 34, 154, 144, 251, 162, 223, 68, 182, 74, 15, 43, 99, 181]
    else if value = utf8 "csrf_AAAAAAAAAAAAAAAAAAAAAAAAAAAAAAAAAAAAAAAAAAA" then
      .ofBytes [89, 84, 50, 162, 199, 233, 126, 196, 193, 21, 123, 253, 68, 240, 78, 186,
        139, 41, 42, 93, 173, 212, 187, 188, 85, 226, 141, 253, 179, 208, 170, 149]
    else if value = utf8 "session_AQEBAQEBAQEBAQEBAQEBAQEBAQEBAQEBAQEBAQEBAQE" then
      .ofBytes [116, 89, 70, 189, 93, 158, 219, 132, 79, 40, 148, 89, 79, 131, 246, 254,
        0, 189, 242, 97, 9, 10, 106, 115, 62, 218, 58, 239, 24, 232, 226, 187]
    else if value = utf8 "csrf_AQEBAQEBAQEBAQEBAQEBAQEBAQEBAQEBAQEBAQEBAQE" then
      .ofBytes [130, 130, 229, 145, 135, 149, 29, 68, 223, 177, 204, 192, 219, 232, 59, 137,
        193, 1, 10, 145, 162, 150, 83, 146, 135, 149, 144, 57, 196, 156, 162, 18]
    else .zero
  ed25519Verify _ _ _ := false

def hour : Int := 60 * minute

/-- Both lifetimes are shortened to twelve hours. -/
def config : Config := ⟨12 * hour, 12 * hour, ⟨.v1, 12 * hour⟩⟩

def identity : ExternalIdentity := ⟨⟨"telegram", "12"⟩, "user", hour, hour⟩

def membership : TenantMembership := ⟨"tenant", "user", .owner, .active, 1, hour, hour⟩

def database : Database := ⟨fun _ => none, [membership], fun _ => none, fun _ => []⟩

/-- Logged in at the first hour; the tenant selected at the seventh, which may be the active one. -/
def first : Except WebError WebSession :=
  config.newSession identity membership hour "session_AAAAAAAAAAAAAAAAAAAAAAAAAAAAAAAAAAAAAAAAAAA"
    "csrf_AAAAAAAAAAAAAAAAAAAAAAAAAAAAAAAAAAAAAAAAAAA"

def second (authorized : WebSession) : Except WebError WebSession :=
  config.rotatedSession authorized membership (7 * hour) "session_AQEBAQEBAQEBAQEBAQEBAQEBAQEBAQEBAQEBAQEBAQE"
    "csrf_AQEBAQEBAQEBAQEBAQEBAQEBAQEBAQEBAQEBAQEBAQE"

/-- The calls of a user who selects a tenant before the session expires: the sessions issued and the one authorized. -/
def visit : Except WebError (WebSession × WebSession × WebSession) := do
  let session ← first
  let created ← config.store.createWebSession database hour session
  let (authorization, seen) ← config.store.authorizeWebSession created (7 * hour) session.sessionDigest .read (7 * hour)
  let next ← second authorization.session
  let (_, switched) ←
    config.store.switchTenant seen (7 * hour) authorization.session.sessionDigest next "tenant" (7 * hour)
  let _ ← config.store.authorizeWebSession switched (14 * hour) next.sessionDigest .read (14 * hour)
  .ok (session, authorization.session, next)

theorem visit_ok : okAnd visit (fun (session, authorized, next) =>
    decide (authorized.sessionDigest = session.sessionDigest ∧ next.sessionDigest ≠ session.sessionDigest)) = true := by
  decide +kernel

/-- Six hours after the login the session is served, within the lifetime. -/
theorem login_lifetime_of_prompt_seen : ∃ web session login, Trace (Turn config) (Web.start database hour) [.quiet, .quiet] web ∧
    web.logins session = some login ∧ web.Authorizes config session (7 * hour) ∧
    config.store.judgedAt web.clock (7 * hour) < login.loggedInAt + config.absoluteTTL := by
  obtain ⟨⟨session, authorized, next⟩, hvisit, -⟩ := exists_of_okAnd visit_ok
  simp only [visit, bind_eq_ok, Prod.exists] at hvisit
  obtain ⟨session, hfirst, created, hcreate, authorization, seen, hauthorize, -⟩ := hvisit
  have hmorning : hour ≤ 7 * hour := by decide
  have hrun : Trace (Turn config) (Web.start database hour) [.quiet, .quiet] _ :=
    .cons (.loggedIn le_rfl hfirst ⟨rfl, List.not_mem_nil⟩ hcreate) (.single (.ticked hmorning))
  have hlogin := Function.update_self session.sessionDigest (some (⟨session.sessionDigest, hour⟩ : Login)) fun _ => none
  refine ⟨_, session.sessionDigest, ⟨session.sessionDigest, hour⟩, hrun, hlogin, ⟨.read, authorization, seen, hauthorize⟩, ?_⟩
  exact (login_lifetime_of_prompt hrun).1 _ (by simp) _ _ hlogin ⟨.read, authorization, seen, hauthorize⟩

/-- Thirteen hours after the login a session of it is served: the switch restarted the lifetime of twelve. -/
theorem switch_restarts_lifetime : ∃ events web digest login, Trace (Turn config) (Web.start database hour) events web ∧
    web.logins digest = some login ∧ web.Authorizes config digest (14 * hour) ∧
    login.loggedInAt + config.absoluteTTL ≤ config.store.judgedAt web.clock (14 * hour) := by
  obtain ⟨⟨session, authorized, next⟩, hvisit, hfacts⟩ := exists_of_okAnd visit_ok
  simp only [visit, bind_eq_ok, Prod.exists, Except.ok.injEq, Prod.mk.injEq] at hvisit
  obtain ⟨session, hfirst, created, hcreate, authorization, seen, hauthorize, next, hsecond, rotation, switched, hswitch,
    served, last, hserved, rfl, rfl, rfl⟩ := hvisit
  obtain ⟨hsame, hother⟩ := of_decide_eq_true hfacts
  have hlogin := Function.update_self session.sessionDigest (some (⟨session.sessionDigest, hour⟩ : Login)) fun _ => none
  have hmorning : hour ≤ 7 * hour := by decide
  have hevening : 7 * hour ≤ 14 * hour := by decide
  have hlate : hour + config.absoluteTTL ≤ config.store.judgedAt (14 * hour) (14 * hour) := by decide
  have hrun : Trace (Turn config) (Web.start database hour) _ _ :=
    .cons (.loggedIn le_rfl hfirst ⟨rfl, List.not_mem_nil⟩ hcreate) <|
    .cons (.ticked hmorning) <|
    .cons (.authorized le_rfl hauthorize) <|
    .cons (.switched List.mem_cons_self rfl le_rfl hsecond ⟨Function.update_of_ne hother .., List.not_mem_nil⟩ hswitch) <|
    .single (.ticked hevening)
  refine ⟨_, _, next.sessionDigest, ⟨session.sessionDigest, hour⟩, hrun, ?_, ⟨.read, served, last, hserved⟩, hlate⟩
  rw [← hlogin, ← hsame]
  exact Function.update_self ..

end Sample

end Sessionless.WebAuth
