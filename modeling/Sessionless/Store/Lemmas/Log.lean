import Sessionless.Store.Log

/-!
# The canonical writers as journal steps

For each writer, what it does to the log of every session.
-/

namespace Sessionless.Store

open Lib Context

variable {s s' s₁ s₂ : State} {sessionID : SessionID}

theorem SameLog.of_rows (hsessions : s'.sessions = s.sessions) (hevents : s'.sessionEvents = s.sessionEvents)
    (hkeys : s'.sessionEventIdempotency = s.sessionEventIdempotency) (hcurrent : s'.materialCurrent = s.materialCurrent)
    (hboundaries : s'.materialBoundaries = s.materialBoundaries) : SameLog s s' sessionID where
  session := by rw [hsessions]
  journal session := by
    unfold journalOf
    rw [hevents, hkeys, hcurrent, hboundaries]

theorem journalOf_updateSession {session next} (h : updateSession s next = .ok s') :
    journalOf s' sessionID session = journalOf s sessionID session := by
  obtain ⟨-, rfl⟩ := updateSession_ok.mp h
  rfl

theorem SameLog.updateSession_other {next} (h : updateSession s next = .ok s') (hne : sessionID ≠ next.id) :
    SameLog s s' sessionID where
  session := by
    obtain ⟨-, rfl⟩ := updateSession_ok.mp h
    exact Table.upsert_of_ne hne
  journal session := journalOf_updateSession h

theorem sessions_updateSession {next} (h : updateSession s next = .ok s') : s'.sessions next.id = some next := by
  obtain ⟨-, rfl⟩ := updateSession_ok.mp h
  exact Table.upsert_self

theorem LogMoves.then_same (h : LogMoves s s₁ sessionID) (h' : SameLog s₁ s₂ sessionID) : LogMoves s s₂ sessionID := by
  cases h with
  | same hsame => exact .same (hsame.trans h')
  | created session hfresh hid hempty hwritable hstored hentries hindex hcheckpoints =>
    refine .created session hfresh hid hempty hwritable (h'.session.trans hstored) ?_ ?_ ?_
    · rw [h'.journal]; exact hentries
    · rw [h'.journal]; exact hindex
    · rw [h'.journal]; exact hcheckpoints
  | extended session next hsession hid hwritable hstored hsteps =>
    refine .extended session next hsession hid hwritable (h'.session.trans hstored) ?_
    rw [h'.journal]
    exact hsteps

theorem LogMoves.after_same (h : SameLog s s₁ sessionID) (hdeletions : s₁.sessionDeletions = s.sessionDeletions)
    (h' : LogMoves s₁ s₂ sessionID) : LogMoves s s₂ sessionID := by
  cases h' with
  | same hsame => exact .same (h.trans hsame)
  | created session hfresh hid hempty hwritable hstored hentries hindex hcheckpoints =>
    rw [h.session] at hfresh
    rw [hdeletions] at hwritable
    rw [h.journal] at hentries hindex hcheckpoints
    exact .created session hfresh hid hempty hwritable hstored hentries hindex hcheckpoints
  | extended session next hsession hid hwritable hstored hsteps =>
    rw [h.session] at hsession
    rw [hdeletions] at hwritable
    rw [h.journal] at hsteps
    exact .extended session next hsession hid hwritable hstored hsteps

/-! ## Archiving -/

theorem LogMoves.setArchived {session next archived instant}
    (hkeyed : s.SessionsKeyed) {id}
    (hsession : s.sessions id = some session) (harchived : setArchived session archived instant = .ok next)
    (hwritable : s.sessionDeletions id = none) (hupdate : updateSession s next = .ok s') (sessionID : SessionID) :
    LogMoves s s' sessionID := by
  obtain ⟨-, hnext⟩ := setArchived_ok harchived
  have hid : session.id = id := hkeyed _ _ hsession
  have hnextID : next.id = session.id := by
    rcases hnext with rfl | ⟨-, rfl⟩ <;> rfl
  by_cases heq : sessionID = id
  · subst heq
    refine .extended session next hsession hnextID hwritable ?_ ?_
    · rw [← hid, ← hnextID]
      exact sessions_updateSession hupdate
    · rw [journalOf_updateSession hupdate]
      rcases hnext with rfl | ⟨htime, rfl⟩
      · exact .refl
      · exact .single (.advance htime)
  · exact .same (.updateSession_other hupdate (by rw [hnextID, hid]; exact heq))

theorem LogMoves.transitionSession {id archived instant}
    (hkeyed : s.SessionsKeyed)
    (h : transitionSession s id archived instant = .ok s') (sessionID : SessionID) : LogMoves s s' sessionID := by
  obtain ⟨session, next, hsession, harchived, hwritable, hupdate⟩ := transitionSession_ok h
  exact .setArchived hkeyed hsession harchived hwritable hupdate sessionID

theorem LogMoves.setSessionArchivedForUser {userID id archived idempotencyKey instant answer}
    (hkeyed : s.SessionsKeyed)
    (h : setSessionArchivedForUser s userID id archived idempotencyKey instant = .ok (answer, s'))
    (sessionID : SessionID) : LogMoves s s' sessionID := by
  obtain ⟨hwritable, -, ⟨rfl, -⟩ | ⟨session, s₁, hsession, harchived, -, hupdate, rfl⟩⟩ := setSessionArchivedForUser_ok h
  · exact .same (.refl s' sessionID)
  · exact (LogMoves.setArchived hkeyed hsession harchived hwritable hupdate sessionID).then_same
      (.of_rows rfl rfl rfl rfl rfl)

/-! ## Inserting an event -/

theorem SameLog.eventInserted_other {event p}
    (hne : sessionID ≠ event.sessionID) : SameLog s (eventInserted s event p) sessionID where
  session := rfl
  journal session := by
    simp only [journalOf, eventInserted, Table.upsert_other_section hne, Table.upsert_of_ne hne]

theorem journalOf_eventInserted {event p session} (hsequence : event.sequence = session.lastEventSequence + 1) :
    journalOf (eventInserted s event p) event.sessionID
        { session with lastEventSequence := event.sequence, updatedAt := event.createdAt } =
      (journalOf s event.sessionID session).append eventView event p := by
  simp only [journalOf, eventInserted, Journal.append, eventView, Table.upsert_section, Table.upsert_self, hsequence]

section

variable [Protocol.Crypto]

theorem step_of_insert {session next event prepared}
    (happend : appendSessionEvent session event none = .ok (true, next))
    (hinsert : insertSessionEvent s event prepared = .ok s₁) :
    Journal.Step eventView (journalOf s event.sessionID session) (journalOf s₁ event.sessionID next) := by
  obtain ⟨-, -, -, -, -, -, hsequence, htime, rfl⟩ := appendSessionEvent_ok happend
  obtain ⟨-, -, hkey, -, p, -, rfl⟩ := insertSessionEvent_ok hinsert
  rw [journalOf_eventInserted hsequence]
  exact .append hsequence htime hkey

theorem SameLog.insert_other {event prepared}
    (hinsert : insertSessionEvent s event prepared = .ok s₁) (hne : sessionID ≠ event.sessionID) :
    SameLog s s₁ sessionID := by
  obtain ⟨-, -, -, -, p, -, rfl⟩ := insertSessionEvent_ok hinsert
  exact eventInserted_other hne

theorem LogMoves.append {session next event prepared}
    (hstored : s.sessions event.sessionID = some session) (hwritable : s.sessionDeletions event.sessionID = none)
    (happend : appendSessionEvent session event none = .ok (true, next))
    (hinsert : insertSessionEvent s event prepared = .ok s₁) (hupdate : updateSession s₁ next = .ok s₂)
    (sessionID : SessionID) : LogMoves s s₂ sessionID := by
  obtain ⟨-, -, -, -, hid, -, -, -, hnext⟩ := appendSessionEvent_ok happend
  have hnextID : next.id = event.sessionID := by rw [hnext]; exact hid
  by_cases heq : sessionID = event.sessionID
  · subst heq
    have hstep := step_of_insert happend hinsert
    rw [← journalOf_updateSession hupdate] at hstep
    refine .extended session next hstored (by rw [hnext]) hwritable ?_ (.single hstep)
    rw [← hnextID]
    exact sessions_updateSession hupdate
  · exact .same ((SameLog.insert_other hinsert heq).trans (SameLog.updateSession_other hupdate (by rw [hnextID]; exact heq)))

theorem LogMoves.appendSessionEventTx {event prepared created}
    (h : appendSessionEventTx s event prepared = .ok (created, s')) (sessionID : SessionID) :
    LogMoves s s' sessionID := by
  rcases appendSessionEventTx_ok h with ⟨-, rfl⟩ | ⟨session, candidate, next, happended⟩
  · exact .same (.refl s' sessionID)
  · obtain ⟨s₁, hinsert, hupdate⟩ := happended.insert
    exact .append happended.stored happended.writable happended.append hinsert hupdate sessionID

theorem LogMoves.commitCanonicalUserEvent {now request prepared answer} (hkeyed : s.SessionsKeyed)
    (h : commitCanonicalUserEvent s now request prepared = .ok (answer, s')) (sessionID : SessionID) :
    LogMoves s s' sessionID := by
  obtain ⟨-, -, ⟨row, -, -, rfl⟩ | ⟨-, hnew⟩⟩ := commitCanonicalUserEvent_ok h
  · exact .same (.refl s' sessionID)
  · obtain ⟨session, hcommitted, -⟩ := commitNew_ok hnew
    obtain ⟨binding, -, -, hstored, hwritable, -⟩ := commitSession_ok hcommitted.target
    obtain ⟨next, s₁, s₂, s₃, happend, hinsert, hupdate, hrun, rfl⟩ := hcommitted.rows
    obtain ⟨-, -, rfl⟩ := commitRun_ok hrun
    have hid : session.id = binding.sessionID := hkeyed _ _ hstored
    rw [← hid] at hstored hwritable
    exact (LogMoves.append hstored hwritable happend hinsert hupdate sessionID).then_same
      (.of_rows rfl rfl rfl rfl rfl)

/-! ## Finalization -/

/-- The drafts of a run extend the journal of its session one by one; the session's row is written later. -/
theorem appendDrafts_steps {run prepared drafts acc next} (h : appendDrafts run prepared acc drafts = .ok next) :
    Relation.ReflTransGen (Journal.Step eventView) (journalOf acc.2 run.sessionID acc.1)
        (journalOf next.2 run.sessionID next.1) ∧ next.1.id = acc.1.id ∧ next.2.sessions = acc.2.sessions ∧
      ∀ sessionID, sessionID ≠ run.sessionID → SameLog acc.2 next.2 sessionID := by
  induction drafts generalizing acc with
  | nil =>
    cases h
    exact ⟨.refl, rfl, rfl, fun sessionID _ => .refl _ sessionID⟩
  | cons draft rest ih =>
    simp only [appendDrafts, appendDraft, bind_eq_ok, pure_eq_ok] at h
    obtain ⟨_, ⟨⟨created, session⟩, happend, s₁, hinsert, rfl⟩, hrest⟩ := h
    obtain ⟨rfl, -, -, -, -, -, -, -, hsession⟩ := appendSessionEvent_ok happend
    obtain ⟨hsteps, hid, hsessions, hother⟩ := ih hrest
    have hstep := step_of_insert happend hinsert
    refine ⟨.head hstep hsteps, ?_, ?_, ?_⟩
    · rw [hid, hsession]
    · obtain ⟨-, -, -, -, p, -, rfl⟩ := insertSessionEvent_ok hinsert
      exact hsessions
    · intro sessionID hne
      exact (SameLog.insert_other hinsert hne).trans (hother sessionID hne)

theorem LogMoves.eventsFinalized {run status digest drafts prepared} (h : EventsFinalized s run status digest drafts prepared s')
    (hkeyed : s.SessionsKeyed) (sessionID : SessionID) :
    LogMoves s s' sessionID := by
  obtain ⟨session, next, s₁, s₂, hstored, -, happend, hupdate, -, rfl⟩ := h.rows
  obtain ⟨hsteps, hid, hsessions, hother⟩ := appendDrafts_steps happend
  have hnext : next.id = run.sessionID := hid.trans (hkeyed _ _ hstored)
  have hmoves : LogMoves s s₂ sessionID := by
    by_cases heq : sessionID = run.sessionID
    · subst heq
      rw [← journalOf_updateSession hupdate] at hsteps
      refine .extended session next hstored hid h.writable ?_ hsteps
      rw [← hnext]
      exact sessions_updateSession hupdate
    · exact .same ((hother sessionID heq).trans (SameLog.updateSession_other hupdate (by rw [hnext]; exact heq)))
  exact hmoves.then_same (.of_rows rfl rfl rfl rfl rfl)

theorem LogMoves.finalizeWorkerJob {job outcome manifest evidence prepared}
    (hkeyed : s.SessionsKeyed)
    (h : finalizeWorkerJob s job outcome manifest evidence prepared = .ok s') (sessionID : SessionID) :
    LogMoves s s' sessionID := by
  rcases finalizeWorkerJob_ok h with ⟨rfl, -⟩ | ⟨run, hjob⟩
  · exact .same (.refl s' sessionID)
  · obtain ⟨ended, s₁, s₂, s₃, manifests, digest, hended, hs₂, hevents, slots, counters, rfl⟩ := hjob.states
    -- the run's own rows are no part of a log
    have hrows : (s₂.sessions = s.sessions ∧ s₂.sessionDeletions = s.sessionDeletions) ∧ SameLog s s₂ sessionID := by
      obtain ⟨attempts, reservations, rfl⟩ := hended.rows
      subst hs₂
      exact ⟨⟨rfl, rfl⟩, .of_rows rfl rfl rfl rfl rfl⟩
    obtain ⟨⟨hsessions, hdeletions⟩, hsame⟩ := hrows
    rw [State.SessionsKeyed, ← hsessions] at hkeyed
    refine .after_same hsame hdeletions ((LogMoves.eventsFinalized hevents hkeyed sessionID).then_same ?_)
    exact .of_rows rfl rfl rfl rfl rfl

/-! ## Creating a session -/

theorem LogMoves.createSessionTx {session owner} (hempty : session.lastEventSequence = 0)
    (h : createSessionTx s session owner = .ok s') (sessionID : SessionID) : LogMoves s s' sessionID := by
  rcases createSessionTx_ok h with ⟨-, -, rfl⟩ | hinserted
  · exact .same (.refl s' sessionID)
  · obtain ⟨current, rfl, ⟨hlegacy, -⟩ | ⟨-, -, -, genesis, -, rfl⟩⟩ := hinserted.effect
    · exact absurd hempty hlegacy
    · by_cases heq : sessionID = session.id
      · subst heq
        exact .created session hinserted.fresh rfl hempty hinserted.writable Table.upsert_self rfl rfl rfl
      · refine .same ⟨Table.upsert_of_ne heq, fun stored => ?_⟩
        simp only [journalOf, Table.upsert_of_ne heq]

theorem LogMoves.switched {session owner next}
    (hempty : session.lastEventSequence = 0) (hcreate : Store.createSessionTx s session owner = .ok s₁)
    (hwrite : writeBinding s₁ next = .ok s') (sessionID : SessionID) : LogMoves s s' sessionID := by
  obtain ⟨-, -, -, rfl⟩ := writeBinding_ok.mp hwrite
  exact (LogMoves.createSessionTx hempty hcreate sessionID).then_same (.of_rows rfl rfl rfl rfl rfl)

end

end Sessionless.Store
