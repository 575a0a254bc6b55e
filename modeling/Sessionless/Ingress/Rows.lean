import Sessionless.Ingress.Service
import Sessionless.Store.Lemmas.Inversion

/-!
# The rows of one delivery

The transactions around a delivery fall in two classes. Resolving a conversation, switching it and
archiving its session write no event and no run. A commit writes one row into each of the
tables of a delivery, all under the identifiers of its request.
-/

namespace Sessionless.Ingress

open Lib Store

variable {s s' s'' : State} {key : IdempotencyKey}

/-! ## Consistent tables -/

/-- Rows lie under their own identifiers, the index of the conversations leads to every binding, and the rows of a run
have their run. -/
structure Consistent (s : State) : Prop where
  sessions : ∀ id session, s.sessions id = some session → session.id = id
  bindings : ∀ id binding, s.frontendBindings id = some binding → binding.id = id ∧
    s.frontendBindingKeys (binding.frontend, binding.externalConversationID) = some id
  attempts : ∀ id attempt, s.attempts id = some attempt → s.runs attempt.runID ≠ none
  manifests : ∀ id manifest, s.artifactManifests id = some manifest → s.runs manifest.runID ≠ none
  dispatches : ∀ id outbox, s.dispatchOutbox id = some outbox → s.runs outbox.runID ≠ none

/-! ## Writes beside a delivery -/

/-- A write that touches no row of the delivery `key`: conversations keep the binding they have. -/
structure Beside (key : IdempotencyKey) (s s' : State) : Prop where
  tenantID : s'.tenantID = s.tenantID
  sessionEvents : s'.sessionEvents = s.sessionEvents
  runs : s'.runs = s.runs
  attempts : s'.attempts = s.attempts
  artifactManifests : s'.artifactManifests = s.artifactManifests
  dispatchOutbox : s'.dispatchOutbox = s.dispatchOutbox
  ingressIdempotency : ∀ bindingID, s'.ingressIdempotency (bindingID, key) = s.ingressIdempotency (bindingID, key)
  index : ∀ conversation bindingID, s.frontendBindingKeys conversation = some bindingID →
    s'.frontendBindingKeys conversation = some bindingID
  sessions : (∀ id session, s.sessions id = some session → session.id = id) →
    ∀ id session, s'.sessions id = some session → session.id = id
  bindings : (∀ id binding, s.frontendBindings id = some binding → binding.id = id ∧
      s.frontendBindingKeys (binding.frontend, binding.externalConversationID) = some id) →
    ∀ id binding, s'.frontendBindings id = some binding → binding.id = id ∧
      s'.frontendBindingKeys (binding.frontend, binding.externalConversationID) = some id

namespace Beside

theorem refl (s : State) : Beside key s s :=
  ⟨rfl, rfl, rfl, rfl, rfl, rfl, fun _ => rfl, fun _ _ h => h, id, id⟩

theorem trans (h : Beside key s s') (h' : Beside key s' s'') : Beside key s s'' where
  tenantID := h'.tenantID.trans h.tenantID
  sessionEvents := h'.sessionEvents.trans h.sessionEvents
  runs := h'.runs.trans h.runs
  attempts := h'.attempts.trans h.attempts
  artifactManifests := h'.artifactManifests.trans h.artifactManifests
  dispatchOutbox := h'.dispatchOutbox.trans h.dispatchOutbox
  ingressIdempotency bindingID := (h'.ingressIdempotency bindingID).trans (h.ingressIdempotency bindingID)
  index conversation bindingID hindex := h'.index conversation bindingID (h.index conversation bindingID hindex)
  sessions hkeyed := h'.sessions (h.sessions hkeyed)
  bindings hindexed := h'.bindings (h.bindings hindexed)

theorem consistent (h : Beside key s s') (hs : Consistent s) : Consistent s' where
  sessions := h.sessions hs.sessions
  bindings := h.bindings hs.bindings
  attempts := by rw [h.attempts, h.runs]; exact hs.attempts
  manifests := by rw [h.artifactManifests, h.runs]; exact hs.manifests
  dispatches := by rw [h.dispatchOutbox, h.runs]; exact hs.dispatches

theorem updateSession {session} (h : updateSession s session = .ok s') : Beside key s s' := by
  obtain ⟨-, rfl⟩ := updateSession_ok.mp h
  exact ⟨rfl, rfl, rfl, rfl, rfl, rfl, fun _ => rfl, fun _ _ h => h, fun hkeyed => Table.forall_upsert hkeyed rfl, id⟩

theorem transitionSession {sessionID archived instant}
    (h : transitionSession s sessionID archived instant = .ok s') : Beside key s s' := by
  obtain ⟨session, next, -, -, -, hupdate⟩ := transitionSession_ok h
  exact updateSession hupdate

theorem setSessionArchivedForUser {userID sessionID archived idempotencyKey instant answer}
    (h : setSessionArchivedForUser s userID sessionID archived idempotencyKey instant = .ok (answer, s')) :
    Beside key s s' := by
  obtain ⟨-, -, ⟨rfl, -⟩ | ⟨session, s₁, -, -, -, hupdate, rfl⟩⟩ := setSessionArchivedForUser_ok h
  · exact refl s'
  · exact (updateSession hupdate).trans ⟨rfl, rfl, rfl, rfl, rfl, rfl, fun _ => rfl, fun _ _ h => h, id, id⟩

theorem expireIngress {now bindingID other} (hother : other ≠ key) :
    Beside key s (expireIngress s now bindingID other) := by
  unfold Store.expireIngress
  split
  · refine ⟨rfl, rfl, rfl, rfl, rfl, rfl, ?_, fun _ _ h => h, id, id⟩
    intro bindingID'
    exact Table.delete_of_ne (by simp [hother.symm])
  · exact refl s

theorem writeBinding {binding} (h : writeBinding s binding = .ok s')
    (hindex : ∀ id, s.frontendBindingKeys (binding.frontend, binding.externalConversationID) = some id → id = binding.id) :
    Beside key s s' := by
  obtain ⟨-, -, -, rfl⟩ := writeBinding_ok.mp h
  have hkept : ∀ conversation id, s.frontendBindingKeys conversation = some id →
      s.frontendBindingKeys.upsert (binding.frontend, binding.externalConversationID) binding.id conversation = some id := by
    intro conversation id hid
    by_cases heq : conversation = (binding.frontend, binding.externalConversationID)
    · subst heq
      rw [hindex id hid]
      exact Table.upsert_self
    · exact (Table.upsert_of_ne heq).trans hid
  refine ⟨rfl, rfl, rfl, rfl, rfl, rfl, fun _ => rfl, hkept, id, ?_⟩
  intro hindexed
  exact Table.forall_upsert (fun id stored hold => (hindexed id stored hold).imp_right (hkept _ _)) ⟨rfl, Table.upsert_self⟩

variable [Protocol.Crypto]

theorem createSessionTx {session owner} (h : createSessionTx s session owner = .ok s') :
    Beside key s s' ∧ s'.frontendBindingKeys = s.frontendBindingKeys := by
  rcases createSessionTx_ok h with ⟨-, -, rfl⟩ | hinserted
  · exact ⟨refl s', rfl⟩
  · obtain ⟨current, rfl, -⟩ := hinserted.effect
    exact ⟨⟨rfl, rfl, rfl, rfl, rfl, rfl, fun _ => rfl, fun _ _ h => h, fun hkeyed => Table.forall_upsert hkeyed rfl, id⟩,
      rfl⟩

theorem ensureFrontendSession {request answer} (hs : Consistent s)
    (h : ensureFrontendSession s request = .ok (answer, s')) : Beside key s s' ∧
      s'.frontendBindingKeys (request.frontend, request.externalConversationID) = some answer.2.id := by
  rcases ensureFrontendSession_ok h with ⟨bindingID, hindex, hbinding, rfl⟩ | ⟨hindex, hanswer, s₁, hcreate, hwrite⟩
  · refine ⟨refl s', ?_⟩
    rw [(hs.bindings bindingID answer.2 hbinding).1]
    exact hindex
  · obtain ⟨hcreated, hkeys⟩ := @createSessionTx s s₁ key _ _ _ hcreate
    refine ⟨hcreated.trans (writeBinding hwrite ?_), ?_⟩
    · intro id hid
      rw [hkeys] at hid
      exact absurd (hindex.symm.trans hid) (by simp)
    · obtain ⟨-, -, -, rfl⟩ := writeBinding_ok.mp hwrite
      rw [hanswer]
      exact Table.upsert_self

theorem createAndSwitchFrontendSession {request answer}
    (hs : Consistent s) (h : createAndSwitchFrontendSession s request = .ok (answer, s')) : Beside key s s' := by
  obtain ⟨-, -, -, ⟨-, -, -, rfl⟩ | ⟨binding, s₁, hbinding, hswitch, hcreate, hwrite⟩⟩ :=
    createAndSwitchFrontendSession_ok h
  · exact refl s'
  · obtain ⟨hcreated, hkeys⟩ := @createSessionTx s s₁ key _ _ _ hcreate
    obtain ⟨hid, hindex⟩ := hs.bindings _ binding hbinding
    obtain ⟨-, -, -, hnext⟩ := switch_ok hswitch
    refine hcreated.trans (writeBinding hwrite ?_)
    rw [hnext, hkeys]
    intro id hstored
    exact (Option.some.inj (hindex.symm.trans hstored)).symm.trans hid.symm

end Beside

/-! ## Commits -/

/-- The rows that a new commit wrote, one for each table of a delivery. -/
structure Inserted (s : State) (request : CanonicalUserEventCommit) (session : Session) (sequence : Nat) (s' : State) :
    Prop where
  target : ∃ binding, s.frontendBindings request.bindingID = some binding ∧ s.sessions binding.sessionID = some session
  tenantID : s'.tenantID = s.tenantID
  event : s'.sessionEvents =
    s.sessionEvents.upsert (session.id, sequence) (request.event s.tenantID session.id sequence)
  freshEvent : s.sessionEvents (session.id, sequence) = none
  run : s'.runs = s.runs.upsert request.runID (request.run s.tenantID session.id)
  sameRun : ∀ stored, s.runs request.runID = some stored →
    stored.sameIdentity (request.run s.tenantID session.id) = true
  attempt : s'.attempts = s.attempts.upsert request.attemptID (request.attempt s.tenantID)
  manifest : s'.artifactManifests = s.artifactManifests.upsert request.manifestID (request.manifest s.tenantID)
  dispatch : s'.dispatchOutbox = s.dispatchOutbox.upsert request.dispatchID (request.dispatch s.tenantID sequence)
  delivery : s'.ingressIdempotency =
    s.ingressIdempotency.upsert (request.bindingID, request.idempotencyKey) (request.row session.id sequence)
  freshDelivery : s.ingressIdempotency (request.bindingID, request.idempotencyKey) = none
  session : ∃ next : Session, s'.sessions = s.sessions.upsert next.id next
  bindings : s'.frontendBindings = s.frontendBindings
  index : s'.frontendBindingKeys = s.frontendBindingKeys

theorem Inserted.of_commitNew [Protocol.Crypto] {request prepared answer} (h : commitNew s request prepared = .ok (answer, s')) :
    ∃ session sequence, Inserted s request session sequence s' ∧
      answer = { sessionID := session.id, eventID := request.eventID, sequence, runID := request.runID, created := true } := by
  obtain ⟨session, hcommitted, hanswer⟩ := commitNew_ok h
  obtain ⟨binding, hbinding, -, hsession, -, -⟩ := commitSession_ok hcommitted.target
  obtain ⟨next, s₁, s₂, s₃, -, hinsert, hupdate, hrun, rfl⟩ := hcommitted.rows
  obtain ⟨-, hfresh, -, -, p, -, rfl⟩ := insertSessionEvent_ok hinsert
  obtain ⟨-, rfl⟩ := updateSession_ok.mp hupdate
  obtain ⟨-, hsame, rfl⟩ := commitRun_ok hrun
  exact ⟨session, session.lastEventSequence + 1, ⟨⟨binding, hbinding, hsession⟩, rfl, rfl, hfresh, rfl, hsame, rfl, rfl, rfl,
    rfl, hcommitted.fresh, ⟨next, rfl⟩, rfl, rfl⟩, hanswer⟩

namespace Inserted

variable {request : CanonicalUserEventCommit} {session : Session} {sequence : Nat}
  (h : Inserted s request session sequence s')
include h

theorem runs_ne_none {id} (hid : s.runs id ≠ none) :
    s'.runs id ≠ none := by
  rw [h.run]
  by_cases heq : id = request.runID
  · simp [heq]
  · rw [Table.upsert_of_ne heq]
    exact hid

theorem runs_self : s'.runs request.runID ≠ none := by
  rw [h.run]
  simp

theorem consistent (hs : Consistent s) : Consistent s' where
  sessions := by
    obtain ⟨next, hnext⟩ := h.session
    rw [hnext]
    exact Table.forall_upsert hs.sessions rfl
  bindings := by
    rw [h.bindings, h.index]
    exact hs.bindings
  attempts := by
    rw [h.attempt]
    exact Table.forall_upsert (fun id attempt hold => h.runs_ne_none (hs.attempts id attempt hold)) h.runs_self
  manifests := by
    rw [h.manifest]
    exact Table.forall_upsert (fun id manifest hold => h.runs_ne_none (hs.manifests id manifest hold)) h.runs_self
  dispatches := by
    rw [h.dispatch]
    exact Table.forall_upsert (fun id outbox hold => h.runs_ne_none (hs.dispatches id outbox hold)) h.runs_self

theorem key_of_stored {stored} (hstored : s.runs request.runID = some stored) : stored.idempotencyKey = request.idempotencyKey := by
  have hsame := h.sameRun stored hstored
  simp only [Run.sameIdentity, Bool.and_eq_true, decide_eq_true_eq] at hsame
  simp_all [CanonicalUserEventCommit.run]

end Inserted

end Sessionless.Ingress
