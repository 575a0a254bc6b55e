import Sessionless.Store.Ops

/-!
# What a committed statement did

One lemma for each function of the store: when it succeeds, its guards held and the state it
returns is this one.
-/

namespace Sessionless.Store

open Lib Context

variable {s s' : State}

/-! ## Sessions and bindings -/

theorem updateSession_ok {session} : updateSession s session = .ok s' ↔
    s.sessionDeletions session.id = none ∧ { s with sessions := s.sessions.upsert session.id session } = s' := by
  simp only [updateSession, bind_eq_ok, exists_unit, ensureSessionWritable_ok, pure_eq_ok]

theorem writeBinding_ok {binding} : writeBinding s binding = .ok s' ↔
    ensureSameTenant s.tenantID binding.tenantID = .ok () ∧ binding.validate = .ok () ∧
      s.sessionDeletions binding.sessionID = none ∧
      { s with
        frontendBindings := s.frontendBindings.upsert binding.id binding
        frontendBindingKeys := s.frontendBindingKeys.upsert (binding.frontend, binding.externalConversationID) binding.id } = s' := by
  simp only [writeBinding, bind_eq_ok, exists_unit, ensureSessionWritable_ok, pure_eq_ok]

theorem switch_ok {binding next : FrontendBinding} {expected sessionID instant}
    (h : binding.switch expected sessionID instant = .ok next) :
    binding.validate = .ok () ∧ binding.revision = expected ∧ binding.updatedAt ≤ instant ∧
      next = { binding with sessionID := sessionID, revision := binding.revision + 1, updatedAt := instant } := by
  simp only [FrontendBinding.switch, bind_eq_ok, ite_error_eq_ok, Decidable.not_not, Int.not_lt, Except.ok.injEq] at h
  obtain ⟨_, hvalid, hrevision, _, _, hle, rfl⟩ := h
  exact ⟨hvalid, hrevision, hle, rfl⟩

/-! ## Appending and archiving in memory -/

theorem appendSessionEvent_ok {session next event created}
    (h : appendSessionEvent session event none = .ok (created, next)) : created = true ∧ session.validate = .ok () ∧
      event.validate = .ok () ∧ session.tenantID = event.tenantID ∧ session.id = event.sessionID ∧
      session.status = .active ∧ event.sequence = session.lastEventSequence + 1 ∧ session.updatedAt ≤ event.createdAt ∧
      next = { session with lastEventSequence := event.sequence, updatedAt := event.createdAt } := by
  simp only [appendSessionEvent, ensureSameTenant, bind_eq_ok, exists_unit, ite_error_eq_ok, Decidable.not_not, Int.not_lt,
    Except.ok.injEq, Prod.mk.injEq] at h
  obtain ⟨hsession, hevent, ⟨-, -, htenant, -⟩, hid, hactive, hsequence, hle, rfl, rfl⟩ := h
  exact ⟨rfl, hsession, hevent, htenant, hid, hactive, hsequence, hle, rfl⟩

theorem setArchived_ok {session next archived instant}
    (h : setArchived session archived instant = .ok next) : session.validate = .ok () ∧
      (next = session ∨ session.updatedAt ≤ instant ∧ next = { session with
        status := if archived then .archived else .active
        updatedAt := instant
        archivedAt := if archived then some instant else none }) := by
  cases archived
  all_goals
    simp only [setArchived, if_true, Bool.false_eq_true, if_false, Session.archive, Session.unarchive, bind_eq_ok,
      exists_unit] at h
    obtain ⟨hvalid, h⟩ := h
    refine ⟨hvalid, ?_⟩
    split at h
    · exact .inl (Except.ok.inj h).symm
    · simp only [ite_error_eq_ok, Int.not_lt, Except.ok.injEq] at h
      exact .inr ⟨h.1, h.2.symm⟩

/-! ## Archiving -/

theorem transitionSession_ok {sessionID archived instant}
    (h : transitionSession s sessionID archived instant = .ok s') : ∃ session next, s.sessions sessionID = some session ∧
      setArchived session archived instant = .ok next ∧ s.sessionDeletions sessionID = none ∧
      updateSession s next = .ok s' := by
  simp only [transitionSession, bind_eq_ok, exists_unit, ensureSessionWritable_ok, requireRow_ok] at h
  obtain ⟨-, hwritable, session, hsession, next, hnext, hupdate⟩ := h
  exact ⟨session, next, hsession, hnext, hwritable, hupdate⟩

/-- A mutation under a key that is taken changes nothing; a new one archives and takes the key. -/
theorem setSessionArchivedForUser_ok {userID sessionID archived idempotencyKey instant answer}
    (h : setSessionArchivedForUser s userID sessionID archived idempotencyKey instant = .ok (answer, s')) :
    s.sessionDeletions sessionID = none ∧ s.sessions sessionID ≠ none ∧
      ((s' = s ∧ s.sessionAPIMutations (userID, idempotencyKey) ≠ none) ∨
        ∃ session s₁, s.sessions sessionID = some session ∧ setArchived session archived instant = .ok answer ∧
        s.sessionAPIMutations (userID, idempotencyKey) = none ∧ updateSession s answer = .ok s₁ ∧
        s' = { s₁ with
          sessionAPIMutations := s₁.sessionAPIMutations.upsert (userID, idempotencyKey) (sessionID, archived) }) := by
  simp only [setSessionArchivedForUser, authorizeSessionWrite, bind_eq_ok, exists_unit, ite_error_eq_ok, requireRow_ok,
    ensureSessionWritable_ok] at h
  obtain ⟨-, -, -, -, ⟨hwritable, -⟩, session, hsession, h⟩ := h
  refine ⟨hwritable, by simp [hsession], ?_⟩
  cases hkey : s.sessionAPIMutations (userID, idempotencyKey) with
  | some recorded =>
    simp only [hkey, replayArchived, ite_error_eq_ok, Except.ok.injEq, Prod.mk.injEq] at h
    exact .inl ⟨h.2.2.2.symm, Option.some_ne_none recorded⟩
  | none =>
    simp only [hkey, bind_eq_ok, insertRow_ok, pure_eq_ok, Prod.mk.injEq] at h
    obtain ⟨next, hnext, s₁, hupdate, _, ⟨-, rfl⟩, rfl, rfl⟩ := h
    exact .inr ⟨session, s₁, hsession, hnext, rfl, hupdate, rfl⟩

/-! ## The rows of a run -/

theorem putRun_ok {run} (h : putRun s run = .ok s') : run.validate = .ok () ∧
    s.sessionDeletions run.sessionID = none ∧ (∀ stored, s.runs run.id = some stored → stored.sameIdentity run = true) ∧
    (∀ id, s.runIdempotency run.idempotencyKey = some id → id = run.id) ∧
    s' = { s with
      runs := s.runs.upsert run.id run
      runsBySession := Function.update s.runsBySession run.sessionID (addID (s.runsBySession run.sessionID) run.id)
      runIdempotency := s.runIdempotency.upsert run.idempotencyKey run.id } := by
  simp only [putRun, bind_eq_ok, exists_unit, ensureSessionWritable_ok, ite_error_eq_ok, pure_eq_ok] at h
  obtain ⟨-, hvalid, hwritable, hkey, hstored, rfl⟩ := h
  refine ⟨hvalid, hwritable, ?_, ?_, rfl⟩
  · intro stored heq
    simpa [heq] using hstored
  · intro id heq
    simpa [heq] using hkey

theorem putAttempt_ok {attempt} (h : putAttempt s attempt = .ok s') :
    (∃ run, owningRun s attempt.runID = .ok run ∧ attempt.validateForRun run = .ok ()) ∧
      s' = { s with attempts := s.attempts.upsert attempt.id attempt } := by
  simp only [putAttempt, bind_eq_ok, exists_unit, pure_eq_ok] at h
  obtain ⟨run, hrun, hvalid, rfl⟩ := h
  exact ⟨⟨run, hrun, hvalid⟩, rfl⟩

theorem putQuotaReservation_ok {reservation} (h : putQuotaReservation s reservation = .ok s') :
    (∃ run, owningRun s reservation.runID = .ok run ∧ reservation.validateForRun run = .ok ()) ∧
      s' = { s with quotaReservations := s.quotaReservations.upsert reservation.id reservation } := by
  simp only [putQuotaReservation, bind_eq_ok, exists_unit, ite_error_eq_ok, pure_eq_ok] at h
  obtain ⟨run, hrun, hvalid, -, rfl⟩ := h
  exact ⟨⟨run, hrun, hvalid⟩, rfl⟩

theorem putArtifactManifest_ok {manifest} (h : putArtifactManifest s manifest = .ok s') :
    (∃ run, owningRun s manifest.runID = .ok run ∧ manifest.validateForRun run = .ok ()) ∧
      s' = { s with artifactManifests := s.artifactManifests.upsert manifest.id manifest } := by
  simp only [putArtifactManifest, bind_eq_ok, exists_unit, pure_eq_ok] at h
  obtain ⟨run, hrun, hvalid, rfl⟩ := h
  exact ⟨⟨run, hrun, hvalid⟩, rfl⟩

theorem putDispatchOutbox_ok {outbox} (h : putDispatchOutbox s outbox = .ok s') :
    (∃ run, owningRun s outbox.runID = .ok run) ∧
      s' = { s with dispatchOutbox := s.dispatchOutbox.upsert outbox.id outbox } := by
  simp only [putDispatchOutbox, bind_eq_ok, exists_unit, pure_eq_ok] at h
  obtain ⟨run, hrun, _, -, -, rfl⟩ := h
  exact ⟨⟨run, hrun⟩, rfl⟩

/-! ## Deliveries -/

def runCommitted (s : State) (request : CanonicalUserEventCommit) (sessionID : SessionID) (sequence : Nat) : State :=
  { s with
    runs := s.runs.upsert request.runID (request.run s.tenantID sessionID)
    runsBySession := Function.update s.runsBySession sessionID (addID (s.runsBySession sessionID) request.runID)
    runIdempotency := s.runIdempotency.upsert request.idempotencyKey request.runID
    attempts := s.attempts.upsert request.attemptID (request.attempt s.tenantID)
    artifactManifests := s.artifactManifests.upsert request.manifestID (request.manifest s.tenantID)
    dispatchOutbox := s.dispatchOutbox.upsert request.dispatchID (request.dispatch s.tenantID sequence) }

theorem commitRun_ok {request sessionID sequence}
    (h : commitRun s request sessionID sequence = .ok s') : s.sessionDeletions sessionID = none ∧
      (∀ stored, s.runs request.runID = some stored → stored.sameIdentity (request.run s.tenantID sessionID) = true) ∧
      s' = runCommitted s request sessionID sequence := by
  simp only [commitRun, bind_eq_ok] at h
  obtain ⟨s₁, hrun, s₂, hattempt, s₃, hmanifest, hdispatch⟩ := h
  obtain ⟨-, hwritable, hstored, -, rfl⟩ := putRun_ok hrun
  obtain ⟨-, rfl⟩ := putAttempt_ok hattempt
  obtain ⟨-, rfl⟩ := putArtifactManifest_ok hmanifest
  obtain ⟨-, rfl⟩ := putDispatchOutbox_ok hdispatch
  exact ⟨hwritable, hstored, rfl⟩

theorem commitSession_ok {request session}
    (h : commitSession s request = .ok session) : ∃ binding, s.frontendBindings request.bindingID = some binding ∧
      binding.revision = request.expectedBindingRevision ∧ s.sessions binding.sessionID = some session ∧
      s.sessionDeletions binding.sessionID = none ∧ session.status = .active := by
  simp only [commitSession, authorizeSessionWrite, bind_eq_ok, exists_unit, requireRow_ok, ite_error_eq_ok,
    Decidable.not_not, ensureSessionWritable_ok] at h
  obtain ⟨binding, hbinding, hrevision, -, ⟨hwritable, -⟩, h⟩ := h
  cases hsession : s.sessions binding.sessionID with
  | none => simp [hsession] at h
  | some stored =>
    simp only [hsession, ite_error_eq_ok, Decidable.not_not, Except.ok.injEq] at h
    obtain ⟨hactive, rfl⟩ := h
    exact ⟨binding, hbinding, hrevision, hsession, hwritable, hactive⟩

theorem ingressRow_eq_some {now bindingID key row}
    (h : ingressRow s now bindingID key = some row) : s.ingressIdempotency (bindingID, key) = some row :=
  (Option.filter_eq_some_iff.mp h).1

theorem ingressAnswer_ok {row userID eventID runID key mutationDigest answer}
    (h : ingressAnswer s row userID eventID runID key mutationDigest = .ok answer) :
    ∃ event, s.sessionEvents (row.sessionID, row.sequence) = some event ∧ event.id = row.eventID ∧
      event.runID = some runID ∧ answer = { sessionID := event.sessionID, eventID := event.id, sequence := event.sequence
                                            runID := runID, created := false } := by
  simp only [ingressAnswer, ite_error_eq_ok, bind_eq_ok, exists_unit, requireRow_ok, not_or, Decidable.not_not, pure_eq_ok] at h
  obtain ⟨-, -, event, hevent, hmatches, run, -, ⟨hrun, -⟩, rfl⟩ := h
  simp only [ingressEventMatches, Bool.and_eq_true, decide_eq_true_eq] at hmatches
  exact ⟨event, hevent, hmatches.1.1.1.1, hmatches.1.2, by rw [hrun]⟩

theorem lookupCanonicalUserEvent_ok {now request answer}
    (h : lookupCanonicalUserEvent s now request = .ok (some answer)) :
    ∃ row, ingressRow s now request.bindingID request.idempotencyKey = some row ∧
      ingressAnswer s row request.userID request.eventID request.runID request.idempotencyKey request.mutationDigest =
        .ok answer := by
  simp only [lookupCanonicalUserEvent, bind_eq_ok, exists_unit] at h
  obtain ⟨-, -, h⟩ := h
  cases hrow : ingressRow s now request.bindingID request.idempotencyKey with
  | none => simp [hrow] at h
  | some row =>
    cases hbinding : s.frontendBindings request.bindingID with
    | none => simp [hrow, hbinding] at h
    | some binding =>
      simp only [hrow, hbinding, ite_error_eq_ok, bind_eq_ok, pure_eq_ok, Option.some.injEq] at h
      obtain ⟨-, found, hanswer, rfl⟩ := h
      exact ⟨row, rfl, hanswer⟩

/-! ## Ending a run -/

theorem freeSchedulerSlot_ok {run reservation instant}
    (h : freeSchedulerSlot s run reservation instant = .ok s') : ∃ slots, s' = { s with schedulerSlots := slots } := by
  simp only [freeSchedulerSlot, ensureSchedulerSlot, writeSchedulerSlot, bind_eq_ok, requireRow_ok, pure,
    Except.pure] at h
  obtain ⟨entitlement, -, ⟨slot, s₁⟩, hslot, h⟩ := h
  have hfirst : ∃ slots, s₁ = { s with schedulerSlots := slots } := by
    cases hstored : s.schedulerSlots run.subscriptionConnectionID with
    | some stored =>
      simp only [hstored, bind_eq_ok, exists_unit, Except.ok.injEq, Prod.mk.injEq] at hslot
      exact ⟨s.schedulerSlots, hslot.2.2.symm⟩
    | none =>
      simp only [hstored, bind_eq_ok, exists_unit, Except.ok.injEq, Prod.mk.injEq] at hslot
      obtain ⟨_, ⟨-, rfl⟩, -, rfl⟩ := hslot
      exact ⟨_, rfl⟩
  obtain ⟨slots, rfl⟩ := hfirst
  split at h
  · simp only [bind_eq_ok, exists_unit, Except.ok.injEq] at h
    exact ⟨_, h.2.symm⟩
  · exact ⟨slots, (Except.ok.inj h).symm⟩

theorem finishWorkerScheduling_ok {run reservation leaseID fence instant}
    (h : finishWorkerScheduling s run reservation leaseID fence instant = .ok s') :
    ∃ slots counters, s' = { s with
      schedulerSlots := slots, schedulerCounters := some counters, leaseHeads := s.leaseHeads.delete run.id } := by
  simp only [finishWorkerScheduling, bind_eq_ok, requireRow_ok, ite_error_eq_ok, pure_eq_ok] at h
  obtain ⟨s₁, hfree, head, -, -, rfl⟩ := h
  obtain ⟨slots, rfl⟩ := freeSchedulerSlot_ok hfree
  exact ⟨slots, _, rfl⟩

theorem Run.transition_ok {run next : Run} {target instant} (h : run.transition target instant = .ok next) :
    canTransitionRun run.status target = true ∧ run.updatedAt ≤ instant ∧ next = { run with
      status := target
      updatedAt := instant
      startedAt := if target = .running ∧ run.startedAt = none then some instant else run.startedAt
      finishedAt := if target.terminal then some instant else run.finishedAt } := by
  simp only [Run.transition, ite_error_eq_ok, Decidable.not_not, Int.not_lt, Except.ok.injEq] at h
  exact ⟨h.1, h.2.1, h.2.2.symm⟩

/-- The rows that end a run: the run itself, one attempt and one reservation. -/
structure RunEnded (s : State) (run : Run) (outcome : Outcome) (instant : Int) (ended : Run) (s' : State) : Prop where
  transition : run.transition outcome.run instant = .ok ended
  stored : ∀ stored, s.runs ended.id = some stored → stored.sameIdentity ended = true
  rows : ∃ attempts reservations, s' = { s with
    runs := s.runs.upsert ended.id ended
    runsBySession := Function.update s.runsBySession ended.sessionID (addID (s.runsBySession ended.sessionID) ended.id)
    runIdempotency := s.runIdempotency.upsert ended.idempotencyKey ended.id
    attempts := attempts
    quotaReservations := reservations }

theorem endRun_ok {run ended attempt reservation released outcome instant} (h : endRun s run attempt reservation outcome instant = .ok (ended, released, s')) :
    RunEnded s run outcome instant ended s' := by
  simp only [endRun, bind_eq_ok, pure_eq_ok, Prod.mk.injEq] at h
  obtain ⟨_, hrun, _, -, _, -, s₁, hput, s₂, hattempt, s₃, hreservation, rfl, rfl, rfl⟩ := h
  obtain ⟨-, -, hstored, -, rfl⟩ := putRun_ok hput
  obtain ⟨-, rfl⟩ := putAttempt_ok hattempt
  obtain ⟨-, rfl⟩ := putQuotaReservation_ok hreservation
  exact ⟨hrun, hstored, _, _, rfl⟩

section

variable [Protocol.Crypto]

/-! ## Creating a session -/

theorem createSessionMaterialGenesis_ok {session} (h : createSessionMaterialGenesis s session = .ok s') :
    (session.lastEventSequence ≠ 0 ∧ s' = s) ∨
      (session.lastEventSequence = 0 ∧ session.tenantID = s.tenantID ∧ s.materialCurrent session.id = none ∧
        ∃ genesis, newSessionMaterialGenesisV1 session.tenantID session.id = .ok genesis ∧
          s' = { s with materialCurrent := s.materialCurrent.upsert session.id genesis }) := by
  unfold createSessionMaterialGenesis at h
  split at h
  · exact .inl ⟨‹_›, (Except.ok.inj h).symm⟩
  · simp only [bind_eq_ok, ite_error_eq_ok, insertRow_ok, not_or, Decidable.not_not, pure_eq_ok] at h
    obtain ⟨genesis, hgenesis, ⟨htenant, -⟩, current, ⟨hfree, rfl⟩, rfl⟩ := h
    exact .inr ⟨Decidable.not_not.mp ‹_›, htenant, hfree, genesis, hgenesis, rfl⟩

/-- A session that is created anew gets its row, its owner's row and, without events, a material row. -/
structure SessionInserted (s : State) (session : Session) (owner : SessionParticipant) (s' : State) : Prop where
  fresh : s.sessions session.id = none
  freshOwner : s.sessionParticipants (owner.sessionID, owner.userID) = none
  writable : s.sessionDeletions session.id = none
  effect : ∃ current, s' = { s with
    sessions := s.sessions.upsert session.id session
    sessionParticipants := s.sessionParticipants.upsert (owner.sessionID, owner.userID) owner
    materialCurrent := current } ∧
      ((session.lastEventSequence ≠ 0 ∧ current = s.materialCurrent) ∨
        (session.lastEventSequence = 0 ∧ session.tenantID = s.tenantID ∧ s.materialCurrent session.id = none ∧
          ∃ genesis, newSessionMaterialGenesisV1 session.tenantID session.id = .ok genesis ∧
            current = s.materialCurrent.upsert session.id genesis))

theorem createSessionTx_ok {session owner} (h : createSessionTx s session owner = .ok s') :
    (s.sessions session.id = some session ∧ sessionOwnerMatches s owner = true ∧ s' = s) ∨
      SessionInserted s session owner s' := by
  simp only [createSessionTx, bind_eq_ok, exists_unit, ensureSessionWritable_ok] at h
  obtain ⟨hwritable, h⟩ := h
  cases hsession : s.sessions session.id with
  | some existing =>
    simp only [hsession, ite_error_eq_ok, Decidable.not_not, Except.ok.injEq] at h
    obtain ⟨rfl, howner, rfl⟩ := h
    exact .inl ⟨rfl, by simpa using howner, rfl⟩
  | none =>
    simp only [hsession, insertSession, bind_eq_ok, insertRow_ok] at h
    obtain ⟨_, ⟨_, rfl⟩, _, ⟨hfree, rfl⟩, hgenesis⟩ := h
    refine .inr ⟨hsession, hfree, hwritable, ?_⟩
    rcases createSessionMaterialGenesis_ok hgenesis with ⟨hlegacy, rfl⟩ | ⟨hzero, htenant, hcurrent, genesis, hnew, rfl⟩
    · exact ⟨_, rfl, .inl ⟨hlegacy, rfl⟩⟩
    · exact ⟨_, rfl, .inr ⟨hzero, htenant, hcurrent, genesis, hnew, rfl⟩⟩

theorem createAndSwitchSession_ok {session owner bindingID expectedRevision instant next}
    (h : createAndSwitchSession s session owner bindingID expectedRevision instant = .ok (next, s')) :
    validateSessionOwner session owner = .ok () ∧ session.status = .active ∧
      validateOpaqueID "frontend_binding_id" bindingID = .ok () ∧
      ((s.frontendBindings bindingID = some next ∧ alreadySwitched next expectedRevision session.id instant ∧
          sessionAndOwnerMatch s session owner = true ∧ s' = s) ∨
        ∃ binding s₁, s.frontendBindings bindingID = some binding ∧
          binding.switch expectedRevision session.id instant = .ok next ∧ createSessionTx s session owner = .ok s₁ ∧
          writeBinding s₁ next = .ok s') := by
  simp only [createAndSwitchSession, bind_eq_ok, ite_error_eq_ok, requireRow_ok, Decidable.not_not] at h
  obtain ⟨_, howner, hactive, _, hid, binding, hbinding, h⟩ := h
  refine ⟨howner, hactive, hid, ?_⟩
  split at h
  · rw [ite_ok_eq_ok] at h
    obtain ⟨hmatch, heq⟩ := h
    cases heq
    exact .inl ⟨hbinding, ‹_›, hmatch, rfl⟩
  · simp only [bind_eq_ok, ite_error_eq_ok, pure_eq_ok, Prod.mk.injEq] at h
    obtain ⟨-, switched, hswitch, s₁, hcreate, s₂, hwrite, rfl, rfl⟩ := h
    exact .inr ⟨binding, s₁, hbinding, hswitch, hcreate, hwrite⟩

theorem createAndSwitchFrontendSession_ok {request answer}
    (h : createAndSwitchFrontendSession s request = .ok (answer, s')) :
    request.validate = .ok () ∧ authorizeTenantWrite s request.userID = .ok () ∧ answer.1 = request.session s.tenantID ∧
      ((s.frontendBindings request.bindingID = some answer.2 ∧
          alreadySwitched answer.2 request.expectedRevision request.sessionID request.instant ∧
          sessionAndOwnerMatch s (request.session s.tenantID) (request.owner s.tenantID) = true ∧ s' = s) ∨
        ∃ binding s₁, s.frontendBindings request.bindingID = some binding ∧
          binding.switch request.expectedRevision request.sessionID request.instant = .ok answer.2 ∧
          createSessionTx s (request.session s.tenantID) (request.owner s.tenantID) = .ok s₁ ∧
          writeBinding s₁ answer.2 = .ok s') := by
  obtain ⟨session, next⟩ := answer
  simp only [createAndSwitchFrontendSession, bind_eq_ok, requireRow_ok] at h
  obtain ⟨_, hvalid, _, hauth, binding, hbinding, h⟩ := h
  refine ⟨hvalid, hauth, ?_⟩
  split at h
  · rw [ite_ok_eq_ok] at h
    obtain ⟨hmatch, heq⟩ := h
    cases heq
    exact ⟨rfl, .inl ⟨hbinding, ‹_›, hmatch, rfl⟩⟩
  · simp only [bind_eq_ok, ite_error_eq_ok, pure_eq_ok, Prod.mk.injEq] at h
    obtain ⟨-, _, -, s₁, hcreate, switched, hswitch, s₂, hwrite, ⟨rfl, rfl⟩, rfl⟩ := h
    exact ⟨rfl, .inr ⟨binding, s₁, hbinding, hswitch, hcreate, hwrite⟩⟩

/-! ## Appending an event -/

theorem foldSessionMaterialV1_ok {previous next event measure} (h : foldSessionMaterialV1 previous event measure = .ok next) :
    previous.tenantID = event.tenantID ∧ previous.sessionID = event.sessionID ∧
      event.sequence = previous.throughSequence + 1 ∧ next.Valid ∧ next.tenantID = event.tenantID ∧
      next.sessionID = event.sessionID ∧ next.throughSequence = event.sequence := by
  simp only [foldSessionMaterialV1, ite_error_eq_ok, bind_eq_ok, not_or, Decidable.not_not, Except.ok.injEq] at h
  obtain ⟨⟨-, -, htenant, hsession, -, hsequence⟩, -, encoded, -, hvalid, rfl⟩ := h
  refine ⟨htenant, hsession, hsequence, hvalid, htenant, hsession, ?_⟩
  unfold SessionMaterialPrefixV1.account contribution
  cases measure with
  | none => rfl
  | some m => dsimp only; split <;> rfl

theorem prepareSessionMaterialFold_ok {event prepared p}
    (h : prepareSessionMaterialFold s event prepared = .ok p) : event.tenantID = s.tenantID ∧ event.validate = .ok () ∧
      ∃ previous, loadSessionMaterialPredecessor s event.sessionID (event.sequence - 1) = .ok previous ∧
        foldSessionMaterialV1 previous event (prepared event) = .ok p := by
  simp only [prepareSessionMaterialFold, ite_error_eq_ok, bind_eq_ok, not_or, Decidable.not_not] at h
  obtain ⟨⟨htenant, hvalid⟩, previous, hprevious, hfold⟩ := h
  exact ⟨htenant, hvalid, previous, hprevious, hfold⟩

/-- The state after an event was inserted with the account `p`. -/
def eventInserted (s : State) (event : SessionEvent) (p : SessionMaterialPrefixV1) : State :=
  { s with
    sessionEvents := s.sessionEvents.upsert (event.sessionID, event.sequence) event
    sessionEventIdempotency :=
      s.sessionEventIdempotency.upsert (event.sessionID, event.idempotencyKey) (event.sequence, event.id)
    materialBoundaries := s.materialBoundaries.upsert (event.sessionID, event.sequence) p
    materialCurrent := s.materialCurrent.upsert event.sessionID p }

theorem insertSessionEvent_ok {event prepared}
    (h : insertSessionEvent s event prepared = .ok s') : event.validate = .ok () ∧
      s.sessionEvents (event.sessionID, event.sequence) = none ∧
      s.sessionEventIdempotency (event.sessionID, event.idempotencyKey) = none ∧
      s.materialBoundaries (event.sessionID, event.sequence) = none ∧
      ∃ p, prepareSessionMaterialFold s event prepared = .ok p ∧ s' = eventInserted s event p := by
  simp only [insertSessionEvent, writeSessionMaterialFold, bind_eq_ok, exists_unit, insertRow_ok, ite_error_eq_ok, pure_eq_ok] at h
  obtain ⟨hvalid, p, hfold, _, ⟨hevent, rfl⟩, _, ⟨hkey, rfl⟩, -, _, ⟨hboundary, rfl⟩, rfl⟩ := h
  obtain ⟨-, -, previous, -, hp⟩ := prepareSessionMaterialFold_ok hfold
  obtain ⟨-, -, -, -, -, hsession, hthrough⟩ := foldSessionMaterialV1_ok hp
  rw [hsession, hthrough] at hboundary
  refine ⟨hvalid, hevent, hkey, hboundary, p, hfold, ?_⟩
  unfold eventInserted
  rw [hsession, hthrough]

/-- A new event: the session takes it, it is inserted, and the session's row is raised. -/
structure EventAppended (s : State) (session : Session) (event : SessionEvent) (prepared : Preparation) (next : Session)
    (s' : State) : Prop where
  stored : s.sessions event.sessionID = some session
  append : appendSessionEvent session event none = .ok (true, next)
  writable : s.sessionDeletions event.sessionID = none
  insert : ∃ s₁, insertSessionEvent s event prepared = .ok s₁ ∧ updateSession s₁ next = .ok s'

theorem appendSessionEventTx_ok {event prepared created}
    (h : appendSessionEventTx s event prepared = .ok (created, s')) :
    (created = false ∧ s' = s) ∨ ∃ session candidate next, EventAppended s session candidate prepared next s' := by
  simp only [appendSessionEventTx, bind_eq_ok, exists_unit, ensureSessionWritable_ok, requireRow_ok] at h
  obtain ⟨-, -, -, hwritable, session, hsession, h⟩ := h
  cases hkey : s.sessionEventIdempotency (event.sessionID, event.idempotencyKey) with
  | some recorded =>
    simp only [hkey, appendExisting, bind_eq_ok, requireRow_ok, ite_error_eq_ok, pure_eq_ok,
      Prod.mk.injEq] at h
    obtain ⟨existing, -, -, answer, -, rfl, rfl⟩ := h
    exact .inl ⟨rfl, rfl⟩
  | none =>
    simp only [hkey, appendNew, bind_eq_ok, pure_eq_ok, Prod.mk.injEq] at h
    obtain ⟨⟨_, next⟩, happend, s₁, hinsert, s₂, hupdate, rfl, rfl⟩ := h
    obtain ⟨rfl, -⟩ := appendSessionEvent_ok happend
    refine .inr ⟨session, _, next, ?_, happend, ?_, s₁, hinsert, hupdate⟩
    · split <;> exact hsession
    · split <;> exact hwritable

/-! ## Committing a delivery -/

/-- What a new delivery wrote, from the session it went to on. -/
structure DeliveryCommitted (s : State) (request : CanonicalUserEventCommit) (prepared : Preparation) (session : Session)
    (s' : State) : Prop where
  target : commitSession s request = .ok session
  fresh : s.ingressIdempotency (request.bindingID, request.idempotencyKey) = none
  rows : ∃ next s₁ s₂ s₃,
    appendSessionEvent session (request.event s.tenantID session.id (session.lastEventSequence + 1)) none = .ok (true, next) ∧
      insertSessionEvent s (request.event s.tenantID session.id (session.lastEventSequence + 1)) prepared = .ok s₁ ∧
      updateSession s₁ next = .ok s₂ ∧ commitRun s₂ request session.id (session.lastEventSequence + 1) = .ok s₃ ∧
      s' = { s₃ with
        ingressIdempotency := s₃.ingressIdempotency.upsert (request.bindingID, request.idempotencyKey)
          (request.row session.id (session.lastEventSequence + 1)) }

theorem commitNew_ok {request prepared answer}
    (h : commitNew s request prepared = .ok (answer, s')) : ∃ session, DeliveryCommitted s request prepared session s' ∧
      answer = { sessionID := session.id, eventID := request.eventID, sequence := session.lastEventSequence + 1
                 runID := request.runID, created := true } := by
  simp only [commitNew, bind_eq_ok, exists_unit, insertRow_ok, pure_eq_ok, Prod.mk.injEq] at h
  obtain ⟨session, htarget, -, ⟨_, next⟩, happend, s₁, hinsert, s₂, hupdate, s₃, hrun, _, ⟨hfresh, rfl⟩, rfl, rfl⟩ := h
  obtain ⟨rfl, -⟩ := appendSessionEvent_ok happend
  obtain ⟨-, -, rfl⟩ := commitRun_ok hrun
  obtain ⟨-, rfl⟩ := updateSession_ok.mp hupdate
  obtain ⟨-, -, -, -, p, -, rfl⟩ := insertSessionEvent_ok hinsert
  exact ⟨session, ⟨htarget, hfresh, next, _, _, _, happend, hinsert, hupdate, hrun, rfl⟩, rfl⟩

theorem commitCanonicalUserEvent_ok {now request prepared answer} (h : commitCanonicalUserEvent s now request prepared = .ok (answer, s')) :
    validateCanonicalCommit request = .ok () ∧ authorizeTenantWrite s request.userID = .ok () ∧
      ((∃ row, ingressRow s now request.bindingID request.idempotencyKey = some row ∧
          commitExisting s row request = .ok answer ∧ s' = s) ∨
        (ingressRow s now request.bindingID request.idempotencyKey = none ∧
          commitNew s request prepared = .ok (answer, s'))) := by
  simp only [commitCanonicalUserEvent, bind_eq_ok, exists_unit] at h
  obtain ⟨hvalid, hauth, h⟩ := h
  refine ⟨hvalid, hauth, ?_⟩
  cases hrow : ingressRow s now request.bindingID request.idempotencyKey with
  | some row =>
    simp only [hrow, bind_eq_ok, pure_eq_ok, Prod.mk.injEq] at h
    obtain ⟨_, hexisting, rfl, rfl⟩ := h
    exact .inl ⟨row, rfl, hexisting, rfl⟩
  | none =>
    simp only [hrow] at h
    exact .inr ⟨rfl, h⟩

theorem ensureFrontendSession_ok {request answer} (h : ensureFrontendSession s request = .ok (answer, s')) :
    (∃ bindingID, s.frontendBindingKeys (request.frontend, request.externalConversationID) = some bindingID ∧
        s.frontendBindings bindingID = some answer.2 ∧ s' = s) ∨
      (s.frontendBindingKeys (request.frontend, request.externalConversationID) = none ∧
        answer.2 = request.binding s.tenantID ∧
        ∃ s₁, createSessionTx s (request.session s.tenantID) (request.owner s.tenantID) = .ok s₁ ∧
          writeBinding s₁ (request.binding s.tenantID) = .ok s') := by
  simp only [ensureFrontendSession, bind_eq_ok, exists_unit] at h
  obtain ⟨-, -, h⟩ := h
  cases hindex : s.frontendBindingKeys (request.frontend, request.externalConversationID) with
  | none =>
    simp only [hindex, bind_eq_ok, pure_eq_ok, Prod.mk.injEq] at h
    obtain ⟨s₁, hcreate, s₂, hwrite, rfl, rfl⟩ := h
    exact .inr ⟨rfl, rfl, s₁, hcreate, hwrite⟩
  | some bindingID =>
    simp only [hindex, resolveFrontendSession, bind_eq_ok, exists_unit, requireRow_ok, ite_error_eq_ok] at h
    obtain ⟨binding, hbinding, -, -, h⟩ := h
    cases hsession : s.sessions binding.sessionID with
    | none => simp [hsession] at h
    | some session =>
      simp only [hsession, ite_error_eq_ok, Except.ok.injEq, Prod.mk.injEq] at h
      obtain ⟨-, rfl, rfl⟩ := h
      exact .inl ⟨bindingID, rfl, hbinding, rfl⟩

/-! ## Finalization -/

/-- The worker's events were appended one after another, and the finalization was recorded. -/
structure EventsFinalized (s : State) (run : Run) (status : RunStatus) (digest : String) (drafts : List SessionEventDraft)
    (prepared : Preparation) (s' : State) : Prop where
  writable : s.sessionDeletions run.sessionID = none
  rows : ∃ session next s₁ s₂, s.sessions run.sessionID = some session ∧ validateDrafts run [] [] drafts = .ok () ∧
    appendDrafts run prepared (session, s) drafts = .ok (next, s₁) ∧ updateSession s₁ next = .ok s₂ ∧
    s₂.runFinalizations run.id = none ∧
    s' = { s₂ with runFinalizations := s₂.runFinalizations.upsert run.id ⟨status, digest⟩ }

theorem appendCanonicalFinalization_ok {run status digest drafts prepared} (h : appendCanonicalFinalization s run status digest drafts prepared = .ok s') :
    drafts ≠ [] ∧ EventsFinalized s run status digest drafts prepared s' := by
  simp only [appendCanonicalFinalization, ite_error_eq_ok, bind_eq_ok, exists_unit, ensureSessionWritable_ok, requireRow_ok,
    insertRow_ok, pure_eq_ok] at h
  obtain ⟨hdrafts, hwritable, session, hsession, hvalid, ⟨next, s₁⟩, happend, s₂, hupdate, _, ⟨hfree, rfl⟩, rfl⟩ := h
  exact ⟨hdrafts, hwritable, session, next, s₁, s₂, hsession, hvalid, happend, hupdate, hfree, rfl⟩

/-- A finalization that commits anew goes through these states. -/
structure JobFinalized (s : State) (job : WorkerFinalization) (run : Run) (outcome : Outcome) (prepared : Preparation)
    (s' : State) : Prop where
  stored : s.runs job.runID = some run
  identity : run.id = job.runID ∧ run.tenantID = s.tenantID
  fresh : s.runFinalizations job.runID = none
  states : ∃ ended s₁ s₂ s₃ manifests digest, RunEnded s run outcome job.instant ended s₁ ∧
    s₂ = { s₁ with artifactManifests := manifests } ∧
    EventsFinalized s₂ ended outcome.run digest job.events prepared s₃ ∧
    ∃ slots counters, s' = { s₃ with
      schedulerSlots := slots, schedulerCounters := some counters, leaseHeads := s₃.leaseHeads.delete ended.id }

theorem finalizeWorkerJob_ok {job outcome manifest evidence prepared}
    (h : finalizeWorkerJob s job outcome manifest evidence prepared = .ok s') :
    (s' = s ∧ s.runFinalizations job.runID ≠ none) ∨ ∃ run, JobFinalized s job run outcome prepared s' := by
  simp only [finalizeWorkerJob, loadWorkerTerminalState, bind_eq_ok, exists_unit, requireRow_ok, ite_error_eq_ok, not_or,
    Decidable.not_not, pure_eq_ok] at h
  obtain ⟨_, ⟨run, hrun, ⟨htenant, hid⟩, attempt, -, reservation, -, rfl⟩, -, -, matched, hmatched, h⟩ := h
  cases matched with
  | true =>
    refine .inl ⟨(Except.ok.inj h).symm, fun hnone => ?_⟩
    rw [← hid] at hnone
    simp [matchingRunFinalization, hnone] at hmatched
  | false =>
    have hfresh : s.runFinalizations job.runID = none := by
      rw [← hid]
      cases hrecorded : s.runFinalizations run.id with
      | none => rfl
      | some recorded => simp [matchingRunFinalization, hrecorded] at hmatched
    simp only [Bool.false_eq_true, if_false, ite_error_eq_ok, finalizeWorkerTx, bind_eq_ok, exists_unit] at h
    obtain ⟨-, -, ⟨ended, released, s₁⟩, hended, s₂, hmanifest, s₃, hevents, hfinish⟩ := h
    have hmanifests : ∃ manifests, s₂ = { s₁ with artifactManifests := manifests } := by
      cases manifest with
      | none => exact ⟨_, (Except.ok.inj hmanifest).symm⟩
      | some manifest => exact ⟨_, (putArtifactManifest_ok hmanifest).2⟩
    obtain ⟨manifests, hs₂⟩ := hmanifests
    exact .inr ⟨run, hrun, ⟨hid, htenant⟩, hfresh, ended, s₁, s₂, s₃, manifests, _, endRun_ok hended, hs₂,
      (appendCanonicalFinalization_ok hevents).2, finishWorkerScheduling_ok hfinish⟩

end

/-! ## Requesting a deletion -/

theorem requestSessionDeletion_ok {deletion answer} (h : requestSessionDeletion s deletion = .ok (answer, s')) :
    (s' = s ∧ s.sessionDeletions deletion.sessionID ≠ none) ∨
      s.sessionDeletions deletion.sessionID = none ∧
        s' = { s with sessionDeletions := s.sessionDeletions.upsert deletion.sessionID deletion } := by
  simp only [requestSessionDeletion, bind_eq_ok, exists_unit, ite_error_eq_ok] at h
  obtain ⟨-, -, h⟩ := h
  cases hstored : s.sessionDeletions deletion.sessionID with
  | some existing =>
    simp only [hstored, repeatedDeletion, ite_error_eq_ok, bind_eq_ok, exists_unit, pure_eq_ok,
      Prod.mk.injEq] at h
    exact .inl ⟨h.2.2.2.symm, Option.some_ne_none existing⟩
  | none =>
    simp only [hstored, newDeletion, writeSessionDeletion, bind_eq_ok, exists_unit, ite_error_eq_ok, requireRow_ok, pure_eq_ok, Prod.mk.injEq] at h
    obtain ⟨_, -, -, -, -, -, -, _, ⟨-, rfl⟩, -, rfl⟩ := h
    exact .inr ⟨rfl, rfl⟩

end Sessionless.Store
