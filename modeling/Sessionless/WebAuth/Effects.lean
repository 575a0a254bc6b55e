import Sessionless.WebAuth.Store

/-!
# What the transactions do to the session table

Both bodies of a transaction have one effect on the table: it is written at the digest the call is
about, by a record that keeps its digest and its absolute deadline, and a tenant switch adds the
next session at a digest that was absent.
-/

namespace Sessionless.WebAuth

open Lib Store

def Database.Keyed (db : Database) : Prop :=
  ∀ digest record, db.sessions digest = some record → record.session.sessionDigest = digest

/-- The digest and the absolute deadline are those of the earlier record. -/
structure SessionRecord.SameTerms (old new : SessionRecord) : Prop where
  digest : new.session.sessionDigest = old.session.sessionDigest
  absolute : new.session.absoluteExpiresAt = old.session.absoluteExpiresAt

/-- A session is served by a call judged at an instant, and its row is rewritten on the same terms. -/
structure Serves (db db' : Database) (digest : SecretDigest) (judgedAt : Int) (old new : SessionRecord) : Prop where
  found : db.sessions digest = some old
  unrevoked : old.session.revokedAt = none
  early : judgedAt < old.session.absoluteExpiresAt
  terms : old.SameTerms new
  stays : new.session.revokedAt = none
  written : db'.sessions = db.sessions.upsert digest new

/-- A session gives way to the next one, at a digest that no row had. -/
structure Rotates (db db' : Database) (digest : SecretDigest) (next : WebSession) (old ended record : SessionRecord) :
    Prop where
  found : db.sessions digest = some old
  unrevoked : old.session.revokedAt = none
  terms : old.SameTerms ended
  revoked : ended.session.revokedAt ≠ none
  fresh : db.sessions next.sessionDigest = none
  issued : record.session = next
  written : db'.sessions = (db.sessions.upsert digest ended).upsert next.sessionDigest record

structure Ends (db db' : Database) (digest : SecretDigest) (old ended : SessionRecord) : Prop where
  found : db.sessions digest = some old
  terms : old.SameTerms ended
  revoked : ended.session.revokedAt ≠ none
  written : db'.sessions = db.sessions.upsert digest ended

variable {db db' : Database} {digest : SecretDigest} {session next : WebSession} {now clock : Int}
  {permission : TenantPermission} {authorization : WebAuthorization} {tenant : TenantID}
  {bindings : Option (List IdentityProvider)} {idleTTL : Int}

theorem Serves.unchanged {old} (hfound : db.sessions digest = some old)
    (hunrevoked : old.session.revokedAt = none) (hearly : now < old.session.absoluteExpiresAt) :
    Serves db db digest now old old :=
  ⟨hfound, hunrevoked, hearly, ⟨rfl, rfl⟩, hunrevoked, (Table.upsert_eq_self hfound).symm⟩

/-! ## Rows of the first version -/

theorem WebSession.zero_invalid : WebSession.zero.validate ≠ .ok () := by
  intro h
  cases h

theorem readWebSession_valid (h : db.readWebSession digest = some session) (hvalid : session.validate = .ok ()) :
    db.sessions digest = some (.v1 session) := by
  simp only [Database.readWebSession, Option.map_eq_some_iff] at h
  obtain ⟨record, hrow, hsession⟩ := h
  cases record with
  | v1 stored => rw [hrow, ← hsession]
  | v2 record =>
    have hzero : WebSession.zero = session := hsession
    exact absurd (hzero ▸ hvalid) WebSession.zero_invalid

theorem readWebSession_none : db.readWebSession digest = none ↔ db.sessions digest = none := by
  simp [Database.readWebSession]

theorem writeWebSession_ok (h : db.writeWebSession session = .ok db') :
    db'.sessions = db.sessions.upsert session.sessionDigest (.v1 session) := by
  simp only [Database.writeWebSession, bind_eq_ok, exists_unit, Except.ok.injEq] at h
  rw [← h.2]

theorem createWebSessionV1_ok (h : db.createWebSessionV1 session = .ok db')
    (habsent : db.sessions session.sessionDigest = none) :
    db'.sessions = db.sessions.upsert session.sessionDigest (.v1 session) := by
  simp only [Database.createWebSessionV1, bind_eq_ok, exists_unit, readWebSession_none.mpr habsent] at h
  obtain ⟨_, _, _, _, hwrite⟩ := h
  exact writeWebSession_ok hwrite

theorem authorizeWebSessionV1_ok (h : db.authorizeWebSessionV1 idleTTL digest permission now = .ok (authorization, db'))
    (hkeyed : db.Keyed) : ∃ old new, Serves db db' digest now old new := by
  simp only [Database.authorizeWebSessionV1, bind_eq_ok, exists_unit, requireFound_ok] at h
  obtain ⟨_, session, hread, membership, _, hauthorize, h⟩ := h
  obtain ⟨hvalid, hunrevoked, hearly⟩ := WebSession.authorize_ok hauthorize
  have hfound := readWebSession_valid hread hvalid
  have hkey : session.sessionDigest = digest := hkeyed _ _ hfound
  split at h
  · simp only [bind_eq_ok, Except.ok.injEq, Prod.mk.injEq] at h
    obtain ⟨written, hwrite, -, rfl⟩ := h
    have hsessions := writeWebSession_ok hwrite
    refine ⟨.v1 session, .v1 (session.seen idleTTL now), hfound, hunrevoked, hearly, ⟨rfl, rfl⟩, hunrevoked, ?_⟩
    rw [hsessions]
    exact congrArg (fun key => db.sessions.upsert key _) hkey
  · cases h
    exact ⟨_, _, .unchanged hfound hunrevoked hearly⟩

theorem switchTenantV1_ok (h : db.switchTenantV1 digest next tenant now = .ok (authorization, db')) (hkeyed : db.Keyed) :
    ∃ old ended record, Rotates db db' digest next old ended record := by
  simp only [Database.switchTenantV1, bind_eq_ok, exists_unit, requireFound_ok, ite_error_eq_ok, Except.ok.injEq,
    Prod.mk.injEq, Bool.not_eq_true, Option.isSome_eq_false_iff, Option.isNone_iff_eq_none] at h
  obtain ⟨_, _, _, previous, hread, _, _, hauthorize, _, _, _, habsent, revoked, hrevoke, db₁, hwrite, db₂, hnext, _, rfl⟩ := h
  obtain ⟨hvalid, hunrevoked, -⟩ := WebSession.authorize_ok hauthorize
  have hfound := readWebSession_valid hread hvalid
  have hkey : previous.sessionDigest = digest := hkeyed _ _ hfound
  have hrevoked := WebSession.revoke_ok hrevoke
  refine ⟨.v1 previous, .v1 revoked, .v1 next, hfound, hunrevoked, ?_, ?_, readWebSession_none.mp habsent, rfl, ?_⟩
  · rw [hrevoked]
    exact ⟨rfl, rfl⟩
  · rw [hrevoked]
    simp [SessionRecord.session, hunrevoked]
  · rw [writeWebSession_ok hnext, writeWebSession_ok hwrite, hrevoked]
    exact congrArg (fun key => (db.sessions.upsert key _).upsert _ _) hkey

theorem revokeWebSessionV1_ok (h : db.revokeWebSessionV1 digest now = .ok db') (hkeyed : db.Keyed) :
    db.sessions digest = none ∧ db' = db ∨ ∃ old ended, Ends db db' digest old ended := by
  simp only [Database.revokeWebSessionV1, bind_eq_ok, exists_unit] at h
  obtain ⟨_, h⟩ := h
  cases hread : db.readWebSession digest with
  | none =>
    simp only [hread, Except.ok.injEq] at h
    exact .inl ⟨readWebSession_none.mp hread, h.symm⟩
  | some session =>
    simp only [hread, bind_eq_ok] at h
    obtain ⟨revoked, hrevoke, hwrite⟩ := h
    have hrevoked := WebSession.revoke_ok hrevoke
    have hvalid : session.validate = .ok () := by
      simp only [WebSession.revoke, bind_eq_ok, exists_unit] at hrevoke
      exact hrevoke.1
    have hfound := readWebSession_valid hread hvalid
    have hkey : session.sessionDigest = digest := hkeyed _ _ hfound
    refine .inr ⟨.v1 session, .v1 revoked, hfound, ?_, ?_, ?_⟩
    · rw [hrevoked]
      exact ⟨rfl, rfl⟩
    · rw [hrevoked]
      cases hold : session.revokedAt <;> simp [SessionRecord.session]
    · rw [writeWebSession_ok hwrite, hrevoked]
      exact congrArg (fun key => db.sessions.upsert key _) hkey

/-! ## Rows of the second version -/

theorem readWebSessionV2_some {record} (h : db.readWebSessionV2 digest = .ok (some record)) :
    db.sessions digest = some (.v2 record) ∧ record.session.sessionDigest = digest := by
  simp only [Database.readWebSessionV2, bind_eq_ok, exists_unit] at h
  obtain ⟨_, h⟩ := h
  cases hrow : db.sessions digest with
  | none => simp [hrow] at h
  | some stored =>
    cases stored with
    | v1 session => simp [hrow] at h
    | v2 stored =>
      simp only [hrow, bind_eq_ok, exists_unit, ite_error_eq_ok, Decidable.not_not, Except.ok.injEq,
        Option.some.injEq] at h
      obtain ⟨_, hdigest, rfl⟩ := h
      exact ⟨rfl, hdigest⟩

theorem readWebSessionV2_none (h : db.readWebSessionV2 digest = .ok none) : db.sessions digest = none := by
  simp only [Database.readWebSessionV2, bind_eq_ok, exists_unit] at h
  obtain ⟨_, h⟩ := h
  cases hrow : db.sessions digest with
  | none => rfl
  | some stored =>
    cases stored with
    | v1 session => simp [hrow] at h
    | v2 stored =>
      simp only [hrow, bind_eq_ok, exists_unit, ite_error_eq_ok, Except.ok.injEq, reduceCtorEq, and_false] at h

theorem writeWebSessionV2_ok {record} (h : db.writeWebSessionV2 record = .ok db') :
    db'.sessions = db.sessions.upsert record.session.sessionDigest (.v2 record) := by
  simp only [Database.writeWebSessionV2, bind_eq_ok, exists_unit, Except.ok.injEq] at h
  rw [← h.2]

theorem joinWebSessionV2_ok {record membership}
    (h : db.joinWebSessionV2 digest permission now = .ok (record, membership)) :
    db.sessions digest = some (.v2 record) ∧ record.session.sessionDigest = digest ∧
      record.session.authorize membership permission now = .ok () := by
  unfold Database.joinWebSessionV2 at h
  split at h
  case h_2 => cases h
  case h_1 stored hread =>
      split at h
      case h_2 => cases h
      case h_1 identity found hidentity hmembership =>
          simp only [bind_eq_ok, exists_unit, orElseFail_ok, Except.ok.injEq, Prod.mk.injEq] at h
          obtain ⟨hcurrent, rfl, rfl⟩ := h
          obtain ⟨hrow, hdigest⟩ := readWebSessionV2_some hread
          exact ⟨hrow, hdigest, WebSessionV2.authorizeCurrent_ok hcurrent⟩

theorem createWebSessionV2_ok (h : db.createWebSessionV2 bindings session now = .ok db')
    (habsent : db.sessions session.sessionDigest = none) :
    ∃ record, record.session = session ∧ db'.sessions = db.sessions.upsert session.sessionDigest record := by
  simp only [Database.createWebSessionV2, bind_eq_ok, exists_unit, ite_error_eq_ok] at h
  obtain ⟨_, _, _, _, _, _, _, _, _, _, found, hread, h⟩ := h
  cases found with
  | none => exact ⟨.v2 _, rfl, writeWebSessionV2_ok h⟩
  | some record => simp [(readWebSessionV2_some hread).1] at habsent

theorem authorizeWebSessionServingV2_ok
    (h : db.authorizeWebSessionServingV2 bindings idleTTL digest permission now = .ok (authorization, db')) :
    ∃ old new, Serves db db' digest now old new := by
  simp only [Database.authorizeWebSessionServingV2, bind_eq_ok, exists_unit, ite_error_eq_ok, Prod.exists] at h
  obtain ⟨_, _, _, record, membership, hjoin, _, h⟩ := h
  obtain ⟨hfound, hkey, hauthorize⟩ := joinWebSessionV2_ok hjoin
  obtain ⟨_, hunrevoked, hearly⟩ := WebSession.authorize_ok hauthorize
  split at h
  · simp only [bind_eq_ok, Except.ok.injEq, Prod.mk.injEq] at h
    obtain ⟨written, hwrite, -, rfl⟩ := h
    have hsessions := writeWebSessionV2_ok hwrite
    refine ⟨.v2 record, .v2 { record with session := record.session.seen idleTTL now }, hfound, hunrevoked, hearly,
      ⟨rfl, rfl⟩, hunrevoked, ?_⟩
    rw [hsessions]
    exact congrArg (fun key => db.sessions.upsert key _) hkey
  · cases h
    exact ⟨_, _, .unchanged hfound hunrevoked hearly⟩

theorem switchTenantV2_ok (h : db.switchTenantV2 bindings digest next tenant now clock = .ok (authorization, db')) :
    ∃ old ended record, Rotates db db' digest next old ended record := by
  simp only [Database.switchTenantV2, bind_eq_ok, exists_unit, ite_error_eq_ok, Prod.exists, requireFound_ok] at h
  obtain ⟨_, _, _, _, _, previous, _, hjoin, _, _, _, _, _, _, h⟩ := h
  obtain ⟨hfound, hkey, hauthorize⟩ := joinWebSessionV2_ok hjoin
  obtain ⟨_, hunrevoked, -⟩ := WebSession.authorize_ok hauthorize
  split at h
  case h_2 => cases h
  case h_1 habsent =>
      simp only [bind_eq_ok, Except.ok.injEq, Prod.mk.injEq] at h
      obtain ⟨revoked, hrevoke, db₁, hwrite, db₂, hnext, _, rfl⟩ := h
      have hrevoked := WebSession.revoke_ok hrevoke
      refine ⟨.v2 previous, .v2 { previous with session := revoked }, .v2 ⟨2, next, previous.identityRevision⟩, hfound,
        hunrevoked, ?_, ?_, readWebSessionV2_none habsent, rfl, ?_⟩
      · rw [hrevoked]
        exact ⟨rfl, rfl⟩
      · rw [hrevoked]
        simp [SessionRecord.session, hunrevoked]
      · rw [writeWebSessionV2_ok hnext, writeWebSessionV2_ok hwrite, hrevoked]
        exact congrArg (fun key => (db.sessions.upsert key _).upsert _ _) hkey

theorem revokeWebSessionV2_ok (h : db.revokeWebSessionV2 bindings digest now = .ok db') :
    db.sessions digest = none ∧ db' = db ∨ ∃ old ended, Ends db db' digest old ended := by
  simp only [Database.revokeWebSessionV2, bind_eq_ok, exists_unit] at h
  obtain ⟨_, _, _, found, hread, h⟩ := h
  cases found with
  | none =>
    simp only [Except.ok.injEq] at h
    exact .inl ⟨readWebSessionV2_none hread, h.symm⟩
  | some record =>
    obtain ⟨hfound, hkey⟩ := readWebSessionV2_some hread
    dsimp only at h
    split at h
    case h_2 => cases h
    case h_1 identity _ =>
        simp only [ite_error_eq_ok] at h
        obtain ⟨_, h⟩ := h
        split at h
        · -- the session was revoked before: the row stays as it is
          rename_i hrevoked
          simp only [Except.ok.injEq] at h
          refine .inr ⟨.v2 record, .v2 record, hfound, ⟨rfl, rfl⟩, ?_, ?_⟩
          · exact Option.isSome_iff_ne_none.mp hrevoked
          · rw [← h, Table.upsert_eq_self hfound]
        · simp only [bind_eq_ok] at h
          obtain ⟨revoked, hrevoke, hwrite⟩ := h
          have hrevoked := WebSession.revoke_ok hrevoke
          refine .inr ⟨.v2 record, .v2 { record with session := revoked }, hfound, ?_, ?_, ?_⟩
          · rw [hrevoked]
            exact ⟨rfl, rfl⟩
          · rw [hrevoked]
            cases hold : record.session.revokedAt <;> simp [SessionRecord.session]
          · rw [writeWebSessionV2_ok hwrite, hrevoked]
            exact congrArg (fun key => db.sessions.upsert key _) hkey

/-! ## Either store -/

variable {config : StoreConfig}

theorem createWebSession_ok (h : config.createWebSession db clock session = .ok db')
    (habsent : db.sessions session.sessionDigest = none) :
    ∃ record, record.session = session ∧ db'.sessions = db.sessions.upsert session.sessionDigest record := by
  unfold StoreConfig.createWebSession at h
  cases hmode : config.identityMode with
  | v1 =>
    rw [hmode] at h
    exact ⟨.v1 session, rfl, createWebSessionV1_ok h habsent⟩
  | v2 bindings =>
    rw [hmode] at h
    exact createWebSessionV2_ok h habsent

theorem authorizeWebSession_ok (h : config.authorizeWebSession db clock digest permission now = .ok (authorization, db'))
    (hkeyed : db.Keyed) : ∃ old new, Serves db db' digest (config.judgedAt clock now) old new := by
  unfold StoreConfig.authorizeWebSession at h
  unfold StoreConfig.judgedAt
  cases hmode : config.identityMode with
  | v1 =>
    rw [hmode] at h
    exact authorizeWebSessionV1_ok h hkeyed
  | v2 bindings =>
    rw [hmode] at h
    exact authorizeWebSessionServingV2_ok h

theorem switchTenant_ok (h : config.switchTenant db clock digest next tenant now = .ok (authorization, db'))
    (hkeyed : db.Keyed) : ∃ old ended record, Rotates db db' digest next old ended record := by
  unfold StoreConfig.switchTenant at h
  cases hmode : config.identityMode with
  | v1 =>
    rw [hmode] at h
    exact switchTenantV1_ok h hkeyed
  | v2 bindings =>
    rw [hmode] at h
    exact switchTenantV2_ok h

theorem revokeWebSession_ok (h : config.revokeWebSession db clock digest now = .ok db') (hkeyed : db.Keyed) :
    db.sessions digest = none ∧ db' = db ∨ ∃ old ended, Ends db db' digest old ended := by
  unfold StoreConfig.revokeWebSession at h
  cases hmode : config.identityMode with
  | v1 =>
    rw [hmode] at h
    exact revokeWebSessionV1_ok h hkeyed
  | v2 bindings =>
    rw [hmode] at h
    exact revokeWebSessionV2_ok h

end Sessionless.WebAuth
