import Sessionless.Store.Lemmas.Inversion

/-!
# What the writers leave alone

Every transaction is a sequence of writes of rows. The writers of events, runs and archives never touch the members of a
tenant, the participants, bindings, deletions and holds. The transactions that create sessions and switch bindings only
add participants, and a binding they write gets a higher revision.
-/

namespace Sessionless.Store

open Lib

variable {s s' s'' : State}

/-! ## Rows -/

/-- The event and the run that the row of a delivery points at. -/
structure Backed (s : State) (key : FrontendBindingID × IdempotencyKey) (row : IngressRow) : Prop where
  event : ∃ found, s.sessionEventIdempotency (row.sessionID, key.2) = some found
  run : ∃ run, s.runs row.runID = some run ∧ run.id = row.runID ∧ run.sessionID = row.sessionID

/-- The writes that the canonical writers are made of; the row of a finalization is none of them. -/
inductive RowWrite (s : State) : State → Prop where
  | session (session) : RowWrite s { s with sessions := s.sessions.upsert session.id session }
  | event (event p) (hfresh : s.sessionEventIdempotency (event.sessionID, event.idempotencyKey) = none) :
      RowWrite s (eventInserted s event p)
  | run (run : Run) (bySession keys attempts manifests outbox reservations)
      (hstored : ∀ stored, s.runs run.id = some stored → stored.sameIdentity run = true) :
      RowWrite s { s with
        runs := s.runs.upsert run.id run, runsBySession := bySession, runIdempotency := keys, attempts := attempts
        artifactManifests := manifests, dispatchOutbox := outbox, quotaReservations := reservations }
  | scheduler (manifests slots counters heads) : RowWrite s { s with
      artifactManifests := manifests, schedulerSlots := slots, schedulerCounters := counters, leaseHeads := heads }
  | delivery (key row) (hbacked : Backed s key row) :
      RowWrite s { s with ingressIdempotency := s.ingressIdempotency.upsert key row }
  | expiry (key) : RowWrite s { s with ingressIdempotency := s.ingressIdempotency.delete key }
  | mutation (key row) (hfresh : s.sessionAPIMutations key = none) :
      RowWrite s { s with sessionAPIMutations := s.sessionAPIMutations.upsert key row }
  | deletion (id row) (hfresh : s.sessionDeletions id = none) :
      RowWrite s { s with sessionDeletions := s.sessionDeletions.upsert id row }
  | creation (session owner current) (hfresh : s.sessionParticipants (owner.sessionID, owner.userID) = none) :
      RowWrite s { s with
        sessions := s.sessions.upsert session.id session
        sessionParticipants := s.sessionParticipants.upsert (owner.sessionID, owner.userID) owner
        materialCurrent := current }
  | binding {binding next bindingID expected sessionID instant s'} (hstored : s.frontendBindings bindingID = some binding)
      (hswitch : binding.switch expected sessionID instant = .ok next) (h : writeBinding s next = .ok s') : RowWrite s s'

abbrev RowWrites : State → State → Prop := Relation.ReflTransGen RowWrite

namespace RowWrites

theorem updateSession {session} (h : updateSession s session = .ok s') : RowWrites s s' := by
  obtain ⟨-, rfl⟩ := updateSession_ok.mp h
  exact .single (.session session)

variable [Protocol.Crypto]

theorem insertSessionEvent {event prepared} (h : insertSessionEvent s event prepared = .ok s') : RowWrites s s' := by
  obtain ⟨-, -, hfresh, -, p, -, rfl⟩ := insertSessionEvent_ok h
  exact .single (.event event p hfresh)

theorem createSessionTx {session owner} (h : createSessionTx s session owner = .ok s') :
    RowWrites s s' ∧ s'.frontendBindings = s.frontendBindings ∧
      s'.sessionParticipants (owner.sessionID, owner.userID) = some owner := by
  rcases createSessionTx_ok h with ⟨-, howner, rfl⟩ | hinserted
  · exact ⟨.refl, rfl, by simpa [sessionOwnerMatches] using howner⟩
  · obtain ⟨current, rfl, -⟩ := hinserted.effect
    exact ⟨.single (.creation session owner current hinserted.freshOwner), rfl, Table.upsert_self⟩

theorem switched {s₁ session owner binding next bindingID expected sessionID instant}
    (hstored : s.frontendBindings bindingID = some binding)
    (hswitch : binding.switch expected sessionID instant = .ok next)
    (hcreate : Store.createSessionTx s session owner = .ok s₁) (hwrite : writeBinding s₁ next = .ok s') :
    RowWrites s s' := by
  obtain ⟨hrows, hkept, -⟩ := createSessionTx hcreate
  rw [← hkept] at hstored
  exact hrows.tail (.binding hstored hswitch hwrite)

theorem committed {request prepared session} (h : DeliveryCommitted s request prepared session s') :
    RowWrites s s' := by
  obtain ⟨next, s₁, s₂, s₃, -, hinsert, hupdate, hrun, rfl⟩ := h.rows
  have hrows := (insertSessionEvent hinsert).trans (updateSession hupdate)
  obtain ⟨-, hstored, rfl⟩ := commitRun_ok hrun
  refine (hrows.tail (.run (request.run s₂.tenantID session.id) _ _ _ _ _ s₂.quotaReservations hstored)).tail
    (.delivery _ _ ⟨?_, _, Table.upsert_self, rfl, rfl⟩)
  obtain ⟨-, rfl⟩ := updateSession_ok.mp hupdate
  obtain ⟨-, -, -, -, p, -, rfl⟩ := insertSessionEvent_ok hinsert
  exact ⟨_, Table.upsert_self⟩

theorem appendDrafts {run prepared drafts acc next} (h : appendDrafts run prepared acc drafts = .ok next) :
    RowWrites acc.2 next.2 := by
  induction drafts generalizing acc with
  | nil =>
    cases h
    exact .refl
  | cons draft rest ih =>
    simp only [Store.appendDrafts, appendDraft, bind_eq_ok, pure_eq_ok] at h
    obtain ⟨_, ⟨_, -, s₁, hinsert, rfl⟩, hrest⟩ := h
    exact (insertSessionEvent hinsert).trans (ih hrest)

/-- All rows of a finalization but the last one. -/
theorem jobFinalized {job run outcome prepared} (h : JobFinalized s job run outcome prepared s') :
    ∃ s₁ id row, RowWrites s s₁ ∧ s₁.runFinalizations id = none ∧
      s' = { s₁ with runFinalizations := s₁.runFinalizations.upsert id row } := by
  obtain ⟨ended, s₁, s₂, s₃, manifests, digest, hended, rfl, hevents, slots, counters, rfl⟩ := h.states
  obtain ⟨session, next, s₄, s₅, -, -, happend, hupdate, hfresh, rfl⟩ := hevents.rows
  have hrun : RowWrite s { s₁ with artifactManifests := manifests } := by
    obtain ⟨attempts, reservations, rfl⟩ := hended.rows
    exact .run ended _ _ attempts manifests s.dispatchOutbox reservations hended.stored
  have hrows := (Relation.ReflTransGen.head hrun (appendDrafts happend)).trans (updateSession hupdate)
  exact ⟨_, _, _, hrows.tail (.scheduler _ slots (some counters) (s₅.leaseHeads.delete ended.id)), hfresh, rfl⟩

theorem transact {op} (h : transact s op = .ok s') : RowWrites s s' ∨
    ∃ job run outcome prepared, op.job? = some job ∧ JobFinalized s job run outcome prepared s' := by
  cases op with
  | createSession session owner =>
    simp only [Store.transact, createSession, bind_eq_ok, exists_unit] at h
    exact .inl (createSessionTx h.2).1
  | createAndSwitchSession session owner bindingID expectedRevision instant =>
    obtain ⟨next, h⟩ := map_snd_eq_ok.mp h
    obtain ⟨-, -, -, ⟨-, -, -, rfl⟩ | ⟨binding, s₁, hstored, hswitch, hcreate, hwrite⟩⟩ := createAndSwitchSession_ok h
    · exact .inl .refl
    · exact .inl (switched hstored hswitch hcreate hwrite)
  | createAndSwitchFrontendSession request =>
    obtain ⟨answer, h⟩ := map_snd_eq_ok.mp h
    obtain ⟨-, -, -, ⟨-, -, -, rfl⟩ | ⟨binding, s₁, hstored, hswitch, hcreate, hwrite⟩⟩ :=
      createAndSwitchFrontendSession_ok h
    · exact .inl .refl
    · exact .inl (switched hstored hswitch hcreate hwrite)
  | appendSessionEvent event prepared =>
    obtain ⟨created, h⟩ := map_snd_eq_ok.mp h
    obtain ⟨-, rfl⟩ | ⟨session, candidate, next, happended⟩ := appendSessionEventTx_ok h
    · exact .inl .refl
    · obtain ⟨s₁, hinsert, hupdate⟩ := happended.insert
      exact .inl ((insertSessionEvent hinsert).trans (updateSession hupdate))
  | commitCanonicalUserEvent now request prepared =>
    obtain ⟨answer, h⟩ := map_snd_eq_ok.mp h
    obtain ⟨-, -, ⟨row, -, -, rfl⟩ | ⟨-, hnew⟩⟩ := commitCanonicalUserEvent_ok h
    · exact .inl .refl
    · obtain ⟨session, hcommitted, -⟩ := commitNew_ok hnew
      exact .inl (committed hcommitted)
  | completeWorkerJob job manifest substrateEvidence prepared
  | failWorkerJob job cancelled reconciliationEvidence prepared =>
    obtain ⟨rfl, -⟩ | ⟨run, hjob⟩ := finalizeWorkerJob_ok (ite_error_eq_ok.mp h).2
    · exact .inl .refl
    · exact .inr ⟨job, run, _, prepared, rfl, hjob⟩
  | transitionSession sessionID archived instant =>
    obtain ⟨session, next, -, -, -, hupdate⟩ := transitionSession_ok h
    exact .inl (updateSession hupdate)
  | setSessionArchivedForUser userID sessionID archived idempotencyKey instant =>
    obtain ⟨answer, h⟩ := map_snd_eq_ok.mp h
    obtain ⟨-, -, ⟨rfl, -⟩ | ⟨session, s₁, -, -, hfresh, hupdate, rfl⟩⟩ := setSessionArchivedForUser_ok h
    · exact .inl .refl
    · obtain ⟨-, rfl⟩ := updateSession_ok.mp hupdate
      exact .inl (.tail (.single (.session answer)) (.mutation _ _ hfresh))
  | requestSessionDeletion deletion =>
    obtain ⟨answer, h⟩ := map_snd_eq_ok.mp h
    rcases requestSessionDeletion_ok h with ⟨rfl, -⟩ | ⟨hfresh, rfl⟩
    · exact .inl .refl
    · exact .inl (.single (.deletion _ _ hfresh))
  | expireIngress now bindingID key =>
    cases h
    unfold expireIngress
    split
    · exact .inl (.single (.expiry _))
    · exact .inl .refl

end RowWrites

/-! ## Members, participants and bindings -/

structure SameScope (s s' : State) : Prop where
  tenantID : s'.tenantID = s.tenantID
  memberships : s'.memberships = s.memberships
  sessionParticipants : s'.sessionParticipants = s.sessionParticipants
  frontendBindings : s'.frontendBindings = s.frontendBindings
  frontendBindingKeys : s'.frontendBindingKeys = s.frontendBindingKeys
  sessionDeletions : s'.sessionDeletions = s.sessionDeletions
  sessionLegalHolds : s'.sessionLegalHolds = s.sessionLegalHolds

def State.BindingsKeyed (s : State) : Prop := ∀ id binding, s.frontendBindings id = some binding → binding.id = id

/-- Members and participants stay, and a binding stays or has a higher revision. -/
structure Retains (s s' : State) : Prop where
  tenantID : s'.tenantID = s.tenantID
  memberships : s'.memberships = s.memberships
  sessionParticipants : ∀ key row, s.sessionParticipants key = some row → s'.sessionParticipants key = some row
  frontendBindings : ∀ id binding, s.frontendBindings id = some binding →
    ∃ binding', s'.frontendBindings id = some binding' ∧ (binding' = binding ∨ binding.revision < binding'.revision)
  keyed : s.BindingsKeyed → s'.BindingsKeyed

namespace Retains

theorem refl (s : State) : Retains s s :=
  ⟨rfl, rfl, fun _ _ h => h, fun _ binding h => ⟨binding, h, .inl rfl⟩, id⟩

theorem trans (h : Retains s s') (h' : Retains s' s'') : Retains s s'' where
  tenantID := h'.tenantID.trans h.tenantID
  memberships := h'.memberships.trans h.memberships
  sessionParticipants key row hrow := h'.sessionParticipants key row (h.sessionParticipants key row hrow)
  frontendBindings id binding hbinding := by
    obtain ⟨binding', hstored, hfirst⟩ := h.frontendBindings id binding hbinding
    obtain ⟨binding'', hstored', hsecond⟩ := h'.frontendBindings id binding' hstored
    refine ⟨binding'', hstored', ?_⟩
    rcases hfirst with rfl | hlt
    · exact hsecond
    · rcases hsecond with rfl | hlt'
      · exact .inr hlt
      · exact .inr (Nat.lt_trans hlt hlt')
  keyed hkeyed := h'.keyed (h.keyed hkeyed)

theorem of_sameScope (h : SameScope s s') : Retains s s' where
  tenantID := h.tenantID
  memberships := h.memberships
  sessionParticipants key row hrow := by rw [h.sessionParticipants]; exact hrow
  frontendBindings id binding hbinding := ⟨binding, by rw [h.frontendBindings]; exact hbinding, .inl rfl⟩
  keyed hkeyed := by
    intro id binding hbinding
    rw [h.frontendBindings] at hbinding
    exact hkeyed id binding hbinding

theorem writeBinding {binding next bindingID expected sessionID instant} (hkeyed : s.BindingsKeyed) (hstored : s.frontendBindings bindingID = some binding)
    (hswitch : binding.switch expected sessionID instant = .ok next) (h : writeBinding s next = .ok s') :
    Retains s s' ∧ s'.sessionParticipants = s.sessionParticipants ∧ s'.frontendBindings bindingID = some next := by
  obtain ⟨-, -, -, rfl⟩ := switch_ok hswitch
  obtain ⟨-, -, -, rfl⟩ := writeBinding_ok.mp h
  have hid : binding.id = bindingID := hkeyed _ _ hstored
  refine ⟨⟨rfl, rfl, fun _ _ h => h, ?_, ?_⟩, rfl, ?_⟩
  · intro id stored hid'
    by_cases heq : id = binding.id
    · refine ⟨_, by rw [heq]; exact Table.upsert_self, .inr ?_⟩
      rw [heq, hid, hstored] at hid'
      cases hid'
      exact Nat.lt_succ_self _
    · exact ⟨stored, (Table.upsert_of_ne heq).trans hid', .inl rfl⟩
  · intro _ id stored hid'
    rcases Table.of_upsert hid' with ⟨rfl, rfl⟩ | ⟨-, hold⟩
    · rfl
    · exact hkeyed id stored hold
  · rw [← hid]
    exact Table.upsert_self

theorem row (hkeyed : s.BindingsKeyed) (h : RowWrite s s') : Retains s s' := by
  cases h with
  | session | event | run | scheduler | delivery | expiry | mutation =>
    exact of_sameScope ⟨rfl, rfl, rfl, rfl, rfl, rfl, rfl⟩
  | deletion => exact { refl s with }
  | creation session owner current hfresh =>
    exact { refl s with sessionParticipants := fun _ _ h => Table.upsert_of_fresh hfresh h }
  | binding hstored hswitch h => exact (writeBinding hkeyed hstored hswitch h).1

theorem rows (hkeyed : s.BindingsKeyed) (h : RowWrites s s') : Retains s s' := by
  induction h with
  | refl => exact refl s
  | tail _ hlast ih => exact ih.trans (row (ih.keyed hkeyed) hlast)

theorem transact [Protocol.Crypto] {op} (hkeyed : s.BindingsKeyed) (h : transact s op = .ok s') : Retains s s' := by
  rcases RowWrites.transact h with hrows | ⟨job, run, outcome, prepared, -, hjob⟩
  · exact rows hkeyed hrows
  · obtain ⟨s₁, id, row, hrows, -, rfl⟩ := RowWrites.jobFinalized hjob
    exact (rows hkeyed hrows).trans { refl s₁ with }

end Retains

end Sessionless.Store
