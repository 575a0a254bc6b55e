import Sessionless.Store.Lemmas.Later
import Sessionless.Store.Reference

/-!
# The session log

In every history of canonical writes the log of every session is sound, a repeated write changes nothing, a run is
finalized at most once and in one transaction, and a session with a deletion record is never written again. Only
`ArchiveSession` and `UnarchiveSession` carry no idempotency key.
-/

namespace Sessionless.Store

open Lib

def Op.CreatesEmpty : Op → Prop
  | .createSession session _ => session.lastEventSequence = 0
  | .createAndSwitchSession session _ _ _ _ => session.lastEventSequence = 0
  | _ => True

/-- The rows of a tenant from which a history starts: the logs are sound, and the rows of deliveries point at events and
runs. -/
structure State.LogsSound (s : State) : Prop where
  logs : ∀ sessionID, LogSound s sessionID
  deliveries : ∀ key row, s.ingressIdempotency key = some row → Backed s key row

section

variable [Protocol.Crypto] {s s' t t' : State}

/-! ## Every write is a step of the journals -/

theorem LogMoves.transact {op} (hkeyed : s.SessionsKeyed)
    (hempty : op.CreatesEmpty) (h : transact s op = .ok s') (sessionID : SessionID) : LogMoves s s' sessionID := by
  cases op with
  | createSession session owner =>
    simp only [Store.transact, createSession, bind_eq_ok, exists_unit] at h
    exact .createSessionTx hempty h.2 sessionID
  | createAndSwitchSession session owner bindingID expectedRevision instant =>
    obtain ⟨next, h⟩ := map_snd_eq_ok.mp h
    obtain ⟨-, -, -, ⟨-, -, -, rfl⟩ | ⟨binding, s₁, -, -, hcreate, hwrite⟩⟩ := createAndSwitchSession_ok h
    · exact .same (.refl s' sessionID)
    · exact .switched hempty hcreate hwrite sessionID
  | createAndSwitchFrontendSession request =>
    obtain ⟨answer, h⟩ := map_snd_eq_ok.mp h
    obtain ⟨-, -, -, ⟨-, -, -, rfl⟩ | ⟨binding, s₁, -, -, hcreate, hwrite⟩⟩ := createAndSwitchFrontendSession_ok h
    · exact .same (.refl s' sessionID)
    · exact .switched rfl hcreate hwrite sessionID
  | appendSessionEvent event prepared =>
    obtain ⟨created, h⟩ := map_snd_eq_ok.mp h
    exact .appendSessionEventTx h sessionID
  | commitCanonicalUserEvent now request prepared =>
    obtain ⟨answer, h⟩ := map_snd_eq_ok.mp h
    exact .commitCanonicalUserEvent hkeyed h sessionID
  | completeWorkerJob job manifest substrateEvidence prepared
  | failWorkerJob job cancelled reconciliationEvidence prepared =>
    exact .finalizeWorkerJob hkeyed (ite_error_eq_ok.mp h).2 sessionID
  | transitionSession id archived instant => exact .transitionSession hkeyed h sessionID
  | setSessionArchivedForUser userID id archived idempotencyKey instant =>
    obtain ⟨answer, h⟩ := map_snd_eq_ok.mp h
    exact .setSessionArchivedForUser hkeyed h sessionID
  | requestSessionDeletion deletion =>
    obtain ⟨answer, h⟩ := map_snd_eq_ok.mp h
    rcases requestSessionDeletion_ok h with ⟨rfl, -⟩ | ⟨-, rfl⟩
    · exact .same (.refl s' sessionID)
    · exact .same (.of_rows rfl rfl rfl rfl rfl)
  | expireIngress now bindingID key =>
    cases h
    unfold expireIngress
    split
    · exact .same (.of_rows rfl rfl rfl rfl rfl)
    · exact .same (.refl s sessionID)

omit [Protocol.Crypto] in
theorem State.LogsSound.keyed (h : s.LogsSound) : s.SessionsKeyed :=
  fun id session hsession => ((h.logs id).stored session hsession).1

theorem State.LogsSound.transact {op} (h : s.LogsSound) (hempty : op.CreatesEmpty)
    (hwrites : Writes s op s') : s'.LogsSound where
  logs sessionID := (h.logs sessionID).moves (.transact h.keyed hempty hwrites sessionID)
  deliveries key row hrow := by
    have hlater := Later.transact hwrites
    rcases hlater.deliveries key row hrow with hold | hbacked
    · exact (h.deliveries key row hold).later hlater
    · exact hbacked

theorem State.LogsSound.trace {ops} (h : s.LogsSound) (htrace : Trace Writes s ops s')
    (hempty : ∀ op ∈ ops, op.CreatesEmpty) : s'.LogsSound :=
  htrace.invariant (fun _ _ _ hop hsound hstep => hsound.transact hop hstep) hempty h

/-! ## Deletion records -/

theorem SameLog.of_deletion {op sessionID} (h : s.LogsSound) (hempty : op.CreatesEmpty)
    (hwrites : Writes s op s') (hdeletion : s.sessionDeletions sessionID ≠ none) : SameLog s s' sessionID := by
  cases LogMoves.transact h.keyed hempty hwrites sessionID with
  | same hsame => exact hsame
  | created session hfresh hid hempty hwritable hstored hentries hindex hcheckpoints
  | extended session next hsession hid hwritable hstored hsteps => exact absurd hwritable hdeletion

/-! ## Finalizations -/

structure DraftedAs (event : SessionEvent) (draft : SessionEventDraft) (runID : RunID) : Prop where
  id : event.id = draft.id
  kind : event.kind = draft.kind
  idempotencyKey : event.idempotencyKey = draft.idempotencyKey
  payload : event.payload = draft.payload
  run : event.runID = some runID

/-- One transaction recorded the finalization and appended all its events, one after another, to the run's session. -/
structure FinalizedTogether (s s' : State) (job : WorkerFinalization) : Prop where
  fresh : s.runFinalizations job.runID = none
  recorded : ∃ row, s'.runFinalizations = s.runFinalizations.upsert job.runID row
  events : ∃ run session next, s.runs job.runID = some run ∧ s.sessionDeletions run.sessionID = none ∧
    s.sessions run.sessionID = some session ∧ s'.sessions run.sessionID = some next ∧
    next.lastEventSequence = session.lastEventSequence + job.events.length ∧
    ∀ i draft, job.events[i]? = some draft →
      ∃ event, s'.sessionEvents (run.sessionID, session.lastEventSequence + 1 + i) = some event ∧
        DraftedAs event draft job.runID

theorem appendDrafts_keeps {run prepared drafts acc next} (h : appendDrafts run prepared acc drafts = .ok next) {key event} (hevent : acc.2.sessionEvents key = some event) : next.2.sessionEvents key = some event := by
  induction drafts generalizing acc with
  | nil =>
    cases h
    exact hevent
  | cons draft rest ih =>
    simp only [appendDrafts, appendDraft, bind_eq_ok, pure_eq_ok] at h
    obtain ⟨_, ⟨_, -, s₁, hinsert, rfl⟩, hrest⟩ := h
    obtain ⟨-, hfresh, -, -, p, -, rfl⟩ := insertSessionEvent_ok hinsert
    exact ih hrest (Table.upsert_of_fresh hfresh hevent)

theorem appendDrafts_events {run prepared drafts acc next} (h : appendDrafts run prepared acc drafts = .ok next) :
    next.1.lastEventSequence = acc.1.lastEventSequence + drafts.length ∧
      ∀ i draft, drafts[i]? = some draft →
        ∃ event, next.2.sessionEvents (run.sessionID, acc.1.lastEventSequence + 1 + i) = some event ∧
          DraftedAs event draft run.id := by
  induction drafts generalizing acc with
  | nil =>
    cases h
    exact ⟨rfl, by simp⟩
  | cons draft rest ih =>
    simp only [appendDrafts, appendDraft, bind_eq_ok, pure_eq_ok] at h
    obtain ⟨_, ⟨⟨created, session⟩, happend, s₁, hinsert, rfl⟩, hrest⟩ := h
    obtain ⟨-, -, -, -, -, -, hsequence, -, hsession⟩ := appendSessionEvent_ok happend
    obtain ⟨-, -, -, -, p, -, hs₁⟩ := insertSessionEvent_ok hinsert
    have hlast : session.lastEventSequence = acc.1.lastEventSequence + 1 := by rw [hsession]; exact hsequence
    obtain ⟨hnext, hevents⟩ := ih hrest
    simp only [hlast] at hnext hevents
    refine ⟨by rw [hnext, List.length_cons]; omega, ?_⟩
    intro i later hlater
    cases i with
    | zero =>
      cases Option.some.inj hlater
      refine ⟨draft.event run acc.1, appendDrafts_keeps hrest ?_, rfl, rfl, rfl, rfl, rfl⟩
      subst hs₁
      exact Table.upsert_self
    | succ i =>
      obtain ⟨event, hevent, hdrafted⟩ := hevents i later hlater
      have hindex : acc.1.lastEventSequence + 1 + (i + 1) = acc.1.lastEventSequence + 1 + 1 + i := by omega
      exact ⟨event, by rw [hindex]; exact hevent, hdrafted⟩

omit [Protocol.Crypto] in
theorem finalizations_of_rows (h : RowWrites s s') : s'.runFinalizations = s.runFinalizations := by
  induction h with
  | refl => rfl
  | tail _ hlast ih =>
    rw [← ih]
    cases hlast with
    | binding hstored hswitch h =>
      obtain ⟨-, -, -, rfl⟩ := writeBinding_ok.mp h
      rfl
    | _ => rfl

theorem JobFinalized.together {job run outcome prepared}
    (h : JobFinalized s job run outcome prepared s') (hkeyed : s.SessionsKeyed) :
    FinalizedTogether s s' job := by
  obtain ⟨ended, s₁, s₂, s₃, manifests, digest, hended, hs₂, hevents, slots, counters, rfl⟩ := h.states
  obtain ⟨attempts, reservations, hs₁⟩ := hended.rows
  obtain ⟨-, -, htransition⟩ := Run.transition_ok hended.transition
  have hid : ended.id = job.runID := by rw [htransition]; exact h.identity.1
  have hsessionID : ended.sessionID = run.sessionID := by rw [htransition]
  obtain ⟨session, next, s₄, s₅, hstored, -, happend, hupdate, -, rfl⟩ := hevents.rows
  have hsession : s.sessions run.sessionID = some session := by
    rw [hs₂, hs₁, hsessionID] at hstored
    exact hstored
  have hwritable : s.sessionDeletions run.sessionID = none := by
    have hdeletions := hevents.writable
    rw [hs₂, hs₁, hsessionID] at hdeletions
    exact hdeletions
  obtain ⟨-, hnextID, -, -⟩ := appendDrafts_steps happend
  have hnext : next.id = run.sessionID := hnextID.trans (hkeyed _ _ hsession)
  obtain ⟨hlast, hdrafts⟩ := appendDrafts_events happend
  have hfinalizations := finalizations_of_rows (.appendDrafts happend)
  obtain ⟨-, rfl⟩ := updateSession_ok.mp hupdate
  rw [hsessionID, hid] at hdrafts
  refine ⟨h.fresh, ⟨⟨outcome.run, digest⟩, ?_⟩, run, session, next, h.stored, hwritable, hsession, ?_, hlast, hdrafts⟩
  · have hkept : s₄.runFinalizations = s.runFinalizations := by
      rw [hfinalizations, hs₂, hs₁]
    simp only [hkept, hid]
  · rw [← hnext]
    exact Table.upsert_self

theorem finalizations_of_writes {op} (h : s.LogsSound) (hwrites : Writes s op s') :
    s'.runFinalizations = s.runFinalizations ∨ ∃ job, op.job? = some job ∧ FinalizedTogether s s' job := by
  rcases RowWrites.transact hwrites with hrows | ⟨job, run, outcome, prepared, hop, hjob⟩
  · exact .inl (finalizations_of_rows hrows)
  · exact .inr ⟨job, hop, hjob.together h.keyed⟩

/-! ## Retries -/

/-- A call that is repeated in a state. The clock of the database and the caller's preparation may be others. A
transition without a key is repeated while the session is still in the status it was brought to. -/
inductive Retries (t : State) : Op → Op → Prop where
  | appendSessionEvent (event : SessionEvent) (prepared prepared' : Preparation) :
      Retries t (.appendSessionEvent event prepared) (.appendSessionEvent event prepared')
  | commitCanonicalUserEvent (now now' : Int) (request : CanonicalUserEventCommit) (prepared prepared' : Preparation) :
      Retries t (.commitCanonicalUserEvent now request prepared) (.commitCanonicalUserEvent now' request prepared')
  | completeWorkerJob (job : WorkerFinalization) (manifest : ArtifactManifest) (substrateEvidence : String)
      (prepared prepared' : Preparation) :
      Retries t (.completeWorkerJob job manifest substrateEvidence prepared)
        (.completeWorkerJob job manifest substrateEvidence prepared')
  | failWorkerJob (job : WorkerFinalization) (cancelled : Bool) (reconciliationEvidence : Option String)
      (prepared prepared' : Preparation) :
      Retries t (.failWorkerJob job cancelled reconciliationEvidence prepared)
        (.failWorkerJob job cancelled reconciliationEvidence prepared')
  | setSessionArchivedForUser (userID : UserID) (sessionID : SessionID) (archived : Bool) (key : IdempotencyKey)
      (instant : Int) :
      Retries t (.setSessionArchivedForUser userID sessionID archived key instant)
        (.setSessionArchivedForUser userID sessionID archived key instant)
  | requestSessionDeletion (deletion : SessionDeletion) :
      Retries t (.requestSessionDeletion deletion) (.requestSessionDeletion deletion)
  | transitionSession (sessionID : SessionID) (archived : Bool) (instant : Int) (session : Session)
      (hstored : t.sessions sessionID = some session)
      (hstatus : session.status = if archived then .archived else .active) :
      Retries t (.transitionSession sessionID archived instant) (.transitionSession sessionID archived instant)

theorem keys_of_append {event prepared created} (h : appendSessionEventTx s event prepared = .ok (created, s')) :
    ∃ row, s'.sessionEventIdempotency (event.sessionID, event.idempotencyKey) = some row := by
  cases hkey : s.sessionEventIdempotency (event.sessionID, event.idempotencyKey) with
  | some row =>
    have hwrites : Writes s (.appendSessionEvent event prepared) s' := map_snd_eq_ok.mpr ⟨created, h⟩
    exact ⟨row, (Later.transact hwrites).keys _ _ hkey⟩
  | none =>
    simp only [appendSessionEventTx, hkey, appendNew, bind_eq_ok, exists_unit, pure_eq_ok,
      Prod.mk.injEq] at h
    obtain ⟨-, -, -, -, session, -, ⟨_, next⟩, -, s₁, hinsert, s₂, hupdate, -, rfl⟩ := h
    obtain ⟨-, rfl⟩ := updateSession_ok.mp hupdate
    obtain ⟨-, -, -, -, p, -, rfl⟩ := insertSessionEvent_ok hinsert
    split
    · exact ⟨_, Table.upsert_self⟩
    · exact ⟨_, Table.upsert_self⟩

structure Delivered (s : State) (request : CanonicalUserEventCommit) (sessionID : SessionID) : Prop where
  event : ∃ found, s.sessionEventIdempotency (sessionID, request.idempotencyKey) = some found
  run : ∃ run, s.runs request.runID = some run ∧ run.sessionID = sessionID

omit [Protocol.Crypto] in
theorem Delivered.later {request sessionID} (h : Delivered s request sessionID)
    (hlater : Later s s') : Delivered s' request sessionID := by
  obtain ⟨⟨found, hfound⟩, run, hrun, hsession⟩ := h
  obtain ⟨run', hrun', hsession', -⟩ := hlater.runs _ run hrun
  exact ⟨⟨found, hlater.keys _ _ hfound⟩, run', hrun', hsession'.trans hsession⟩

omit [Protocol.Crypto] in
theorem ingressRow_ok {now bindingID key row}
    (h : ingressRow s now bindingID key = some row) : s.ingressIdempotency (bindingID, key) = some row ∧ now < row.expireAt := by
  simp only [ingressRow, Option.filter_eq_some_iff, decide_eq_true_eq] at h
  exact h

omit [Protocol.Crypto] in
theorem commitExisting_ok {row request answer}
    (h : commitExisting s row request = .ok answer) : ∃ run, s.runs row.runID = some run ∧ run.id = request.runID := by
  simp only [commitExisting, ingressAnswer, bind_eq_ok, exists_unit, ite_error_eq_ok, requireRow_ok, not_or,
    Decidable.not_not] at h
  obtain ⟨_, ⟨-, -, event, -, -, run, hrun, ⟨hid, -⟩, -⟩, -⟩ := h
  exact ⟨run, hrun, hid⟩

theorem delivered_of_commit {now request prepared answer} (hsound : s.LogsSound)
    (h : commitCanonicalUserEvent s now request prepared = .ok (answer, s')) :
    ∃ sessionID, Delivered s' request sessionID := by
  obtain ⟨-, -, ⟨row, hrow, hexisting, rfl⟩ | ⟨-, hnew⟩⟩ := commitCanonicalUserEvent_ok h
  · obtain ⟨hstored, -⟩ := ingressRow_ok hrow
    obtain ⟨hevent, run, hrun, hid, hsession⟩ := hsound.deliveries _ row hstored
    obtain ⟨run', hrun', hid'⟩ := commitExisting_ok hexisting
    rw [hrun] at hrun'
    cases hrun'
    exact ⟨row.sessionID, hevent, run, by rw [← hid', hid]; exact hrun, hsession⟩
  · obtain ⟨session, hcommitted, -⟩ := commitNew_ok hnew
    obtain ⟨next, s₁, s₂, s₃, -, hinsert, hupdate, hrun, rfl⟩ := hcommitted.rows
    obtain ⟨-, -, rfl⟩ := commitRun_ok hrun
    obtain ⟨-, rfl⟩ := updateSession_ok.mp hupdate
    obtain ⟨-, -, -, -, p, -, rfl⟩ := insertSessionEvent_ok hinsert
    exact ⟨session.id, ⟨_, Table.upsert_self⟩, _, Table.upsert_self, rfl⟩

/-- A delivery whose event and run are there is not committed anew: in that session its key is taken, and in another one
its run is. -/
theorem Delivered.not_commitNew {request prepared sessionID answer} (h : Delivered t request sessionID) :
    commitNew t request prepared ≠ .ok (answer, t') := by
  intro hnew
  obtain ⟨session, hcommitted, -⟩ := commitNew_ok hnew
  obtain ⟨next, s₁, s₂, s₃, -, hinsert, hupdate, hrun, -⟩ := hcommitted.rows
  obtain ⟨⟨found, hfound⟩, run, hstored, hsession⟩ := h
  obtain ⟨-, -, hfresh, -, p, -, rfl⟩ := insertSessionEvent_ok hinsert
  obtain ⟨-, rfl⟩ := updateSession_ok.mp hupdate
  obtain ⟨-, hidentity, -⟩ := commitRun_ok hrun
  have hsame := hidentity run hstored
  simp only [Run.sameIdentity, Bool.and_eq_true, decide_eq_true_eq] at hsame
  have heq : session.id = sessionID := hsame.1.1.1.1.symm.trans hsession
  subst heq
  exact absurd (hfresh.symm.trans hfound) (by simp)

theorem finalizations_of_job {job outcome manifest evidence prepared} (hsound : s.LogsSound)
    (h : finalizeWorkerJob s job outcome manifest evidence prepared = .ok s') : s'.runFinalizations job.runID ≠ none := by
  rcases finalizeWorkerJob_ok h with ⟨rfl, hrecorded⟩ | ⟨run, hjob⟩
  · exact hrecorded
  · obtain ⟨row, hrow⟩ := (hjob.together hsound.keyed).recorded
    rw [hrow, Table.upsert_self]
    exact Option.some_ne_none row

theorem finalizeWorkerJob_retry {job outcome manifest evidence prepared} (hrecorded : t.runFinalizations job.runID ≠ none)
    (h : finalizeWorkerJob t job outcome manifest evidence prepared = .ok t') : t' = t := by
  rcases finalizeWorkerJob_ok h with ⟨rfl, -⟩ | ⟨run, hjob⟩
  · rfl
  · exact absurd hjob.fresh hrecorded

omit [Protocol.Crypto] in
theorem transitionSession_retry {sessionID archived instant session}
    (hstored : t.sessions sessionID = some session) (hid : session.id = sessionID)
    (hstatus : session.status = if archived then .archived else .active)
    (h : transitionSession t sessionID archived instant = .ok t') : t' = t := by
  obtain ⟨session', next, hstored', harchived, -, hupdate⟩ := transitionSession_ok h
  rw [hstored] at hstored'
  cases hstored'
  have hnext : next = session := by
    cases archived with
    | true =>
      simp only [setArchived, if_true, Session.archive, bind_eq_ok, exists_unit, hstatus, Except.ok.injEq] at harchived
      exact harchived.2.symm
    | false =>
      simp only [setArchived, Bool.false_eq_true, if_false, Session.unarchive, bind_eq_ok, exists_unit, hstatus, if_true,
        Except.ok.injEq] at harchived
      exact harchived.2.symm
  obtain ⟨-, rfl⟩ := updateSession_ok.mp hupdate
  subst hnext hid
  rw [Table.upsert_eq_self hstored]

omit [Protocol.Crypto] in
theorem mutations_of_archive {userID sessionID archived key instant answer}
    (h : setSessionArchivedForUser s userID sessionID archived key instant = .ok (answer, s')) :
    ∃ row, s'.sessionAPIMutations (userID, key) = some row := by
  obtain ⟨-, -, ⟨rfl, hrecorded⟩ | ⟨session, s₁, -, -, -, -, rfl⟩⟩ := setSessionArchivedForUser_ok h
  · exact Option.ne_none_iff_exists'.mp hrecorded
  · exact ⟨_, Table.upsert_self⟩

omit [Protocol.Crypto] in
theorem deletions_of_request {deletion answer} (h : requestSessionDeletion s deletion = .ok (answer, s')) :
    ∃ row, s'.sessionDeletions deletion.sessionID = some row := by
  rcases requestSessionDeletion_ok h with ⟨rfl, hrecorded⟩ | ⟨-, rfl⟩
  · exact Option.ne_none_iff_exists'.mp hrecorded
  · exact ⟨_, Table.upsert_self⟩

/-- A call that committed is repeated after any further history: it changes no row. -/
theorem retry_unchanged {op retry} (hsound : s.LogsSound) (hwrites : Writes s op s') (hlater : Later s' t)
    (hkeyed : t.SessionsKeyed) (hretry : Retries t op retry)
    (h : Writes t retry t') : t' = t := by
  cases hretry with
  | appendSessionEvent event prepared prepared' =>
    obtain ⟨created, hcall⟩ := map_snd_eq_ok.mp hwrites
    obtain ⟨created', hcall'⟩ := map_snd_eq_ok.mp h
    obtain ⟨row, hrow⟩ := keys_of_append hcall
    have hkey := hlater.keys _ row hrow
    simp only [appendSessionEventTx, hkey, appendExisting, bind_eq_ok, exists_unit, ite_error_eq_ok, pure_eq_ok, Prod.mk.injEq] at hcall'
    obtain ⟨-, -, -, -, session, -, existing, -, -, _, -, -, rfl⟩ := hcall'
    rfl
  | commitCanonicalUserEvent now now' request prepared prepared' =>
    obtain ⟨answer, hcall⟩ := map_snd_eq_ok.mp hwrites
    obtain ⟨answer', hcall'⟩ := map_snd_eq_ok.mp h
    obtain ⟨sessionID, hdelivered⟩ := delivered_of_commit hsound hcall
    obtain ⟨-, -, ⟨row, -, -, rfl⟩ | ⟨-, hnew⟩⟩ := commitCanonicalUserEvent_ok hcall'
    · rfl
    · exact absurd hnew (hdelivered.later hlater).not_commitNew
  | completeWorkerJob job manifest substrateEvidence prepared prepared'
  | failWorkerJob job cancelled reconciliationEvidence prepared prepared' =>
    have hrecorded := finalizations_of_job hsound (ite_error_eq_ok.mp hwrites).2
    obtain ⟨row, hrow⟩ := Option.ne_none_iff_exists'.mp hrecorded
    refine finalizeWorkerJob_retry ?_ (ite_error_eq_ok.mp h).2
    rw [hlater.finalizations _ row hrow]
    exact Option.some_ne_none row
  | setSessionArchivedForUser userID sessionID archived key instant =>
    obtain ⟨answer, hcall⟩ := map_snd_eq_ok.mp hwrites
    obtain ⟨answer', hcall'⟩ := map_snd_eq_ok.mp h
    obtain ⟨row, hrow⟩ := mutations_of_archive hcall
    have hkey := hlater.mutations _ row hrow
    obtain ⟨-, -, ⟨rfl, -⟩ | ⟨session, s₁, -, -, hfresh, -, -⟩⟩ := setSessionArchivedForUser_ok hcall'
    · rfl
    · exact absurd (hfresh.symm.trans hkey) (by simp)
  | requestSessionDeletion deletion =>
    obtain ⟨answer, hcall⟩ := map_snd_eq_ok.mp hwrites
    obtain ⟨answer', hcall'⟩ := map_snd_eq_ok.mp h
    obtain ⟨row, hrow⟩ := deletions_of_request hcall
    have hstored := hlater.deletions _ row hrow
    rcases requestSessionDeletion_ok hcall' with ⟨rfl, -⟩ | ⟨hfresh, -⟩
    · rfl
    · exact absurd (hfresh.symm.trans hstored) (by simp)
  | transitionSession sessionID archived instant session hstored hstatus =>
    exact transitionSession_retry hstored (hkeyed _ _ hstored) hstatus h

/-! ## The log of every session in every history -/

/-- What a committed write keeps: a session with a deletion record is left alone with its finalizations, a finalization
stays as it is, and a new one is recorded with all its events by this one transaction. -/
structure Keeps (s : State) (op : Op) (s' : State) : Prop where
  deleted : ∀ sessionID, s.sessionDeletions sessionID ≠ none → SameLog s s' sessionID ∧
    s'.sessionDeletions sessionID = s.sessionDeletions sessionID ∧
    ∀ runID run, s.runs runID = some run → run.sessionID = sessionID →
      s'.runFinalizations runID = s.runFinalizations runID
  finalized : ∀ runID row, s.runFinalizations runID = some row → s'.runFinalizations runID = some row
  together : ∀ runID, s'.runFinalizations runID ≠ s.runFinalizations runID →
    ∃ job, op.job? = some job ∧ job.runID = runID ∧ FinalizedTogether s s' job

theorem State.LogsSound.keeps {op} (h : s.LogsSound) (hempty : op.CreatesEmpty) (hwrites : Writes s op s') :
    Keeps s op s' := by
  have hlater := Later.transact hwrites
  have htogether : ∀ runID, s'.runFinalizations runID ≠ s.runFinalizations runID →
      ∃ job, op.job? = some job ∧ job.runID = runID ∧ FinalizedTogether s s' job := by
    intro runID hchanged
    rcases finalizations_of_writes h hwrites with hsame | ⟨job, hjob, htogether⟩
    · rw [hsame] at hchanged
      exact absurd rfl hchanged
    · refine ⟨job, hjob, ?_, htogether⟩
      obtain ⟨row, hrow⟩ := htogether.recorded
      by_contra hne
      rw [hrow, Table.upsert_of_ne (Ne.symm hne)] at hchanged
      exact hchanged rfl
  refine ⟨?_, hlater.finalizations, htogether⟩
  intro sessionID hdeletion
  obtain ⟨deletion, hstored⟩ := Option.ne_none_iff_exists'.mp hdeletion
  refine ⟨.of_deletion h hempty hwrites hdeletion, by rw [hlater.deletions _ _ hstored, hstored], ?_⟩
  intro runID run hrun hsession
  by_contra hchanged
  obtain ⟨job, -, rfl, hfinalized⟩ := htogether runID hchanged
  obtain ⟨run', session, next, hrun', hwritable, -⟩ := hfinalized.events
  rw [hrun] at hrun'
  cases hrun'
  rw [hsession] at hwritable
  exact hdeletion hwritable

/-- After every history of canonical writes the log of every session is sound, the next write keeps what is recorded,
and repeating it after any further history changes no row. -/
theorem session_log_exactly_once {ops : List Op} (hsound : s.LogsSound) (htrace : Trace Writes s ops s')
    (hempty : ∀ op ∈ ops, op.CreatesEmpty) :
    (∀ sessionID, LogSound s' sessionID) ∧
    ∀ op s'', op.CreatesEmpty → Writes s' op s'' → Keeps s' op s'' ∧
      ∀ later t t' retry, Trace Writes s'' later t → (∀ op ∈ later, op.CreatesEmpty) → Retries t op retry →
        Writes t retry t' → t' = t := by
  have hsound' := hsound.trace htrace hempty
  refine ⟨hsound'.logs, ?_⟩
  intro op s'' hop hwrites
  refine ⟨hsound'.keeps hop hwrites, ?_⟩
  intro later t t' retry hlater hlaterEmpty hretry hwrites'
  have hsound'' := (hsound'.transact hop hwrites).trace hlater hlaterEmpty
  exact retry_unchanged hsound' hwrites (.trace hlater) hsound''.keyed hretry hwrites'

end

section

open Reference

open scoped Protocol.Reference

theorem bound_logsSound : bound.LogsSound where
  logs sessionID := by
    constructor
    · intro hnone
      exact ⟨hnone, fun _ => rfl, fun _ => rfl, fun _ => rfl⟩
    · intro stored hstored
      rcases Table.of_upsert (t := fun _ => none) (k := "first") hstored with ⟨rfl, rfl⟩ | ⟨-, hnone⟩
      · exact ⟨rfl, Journal.sound_empty⟩
      · cases hnone
  deliveries key row hrow := by cases hrow

/-- A message in the first session, committed twice. -/
theorem session_log_exactly_once_message : ∃ s₁, Writes bound (.appendSessionEvent (message "first" "event" 3) unprepared) s₁ ∧
    (∀ sessionID, LogSound s₁ sessionID) ∧
    ∀ s₂, Writes s₁ (.appendSessionEvent (message "first" "event" 3) unprepared) s₂ → s₂ = s₁ := by
  obtain ⟨s₁, hwrites⟩ := exists_of_isOk (r := transact bound (.appendSessionEvent (message "first" "event" 3) unprepared))
    (by decide +kernel)
  have hfirst := session_log_exactly_once bound_logsSound (.nil bound) (by simp)
  obtain ⟨-, hretry⟩ := hfirst.2 (.appendSessionEvent (message "first" "event" 3) unprepared) s₁ trivial hwrites
  refine ⟨s₁, hwrites, (session_log_exactly_once bound_logsSound (.single hwrites) (by simp [Op.CreatesEmpty])).1, ?_⟩
  intro s₂ hagain
  exact hretry [] s₁ s₂ _ (.nil s₁) (by simp) (.appendSessionEvent _ _ _) hagain

/-- A session is archived and unarchived at one instant; the archiving is repeated, and the session is archived again. -/
theorem archive_retry_applies : ∃ s₁ s₂ s₃, Writes bound (.transitionSession "first" true 3) s₁ ∧
    Writes s₁ (.transitionSession "first" false 3) s₂ ∧ Writes s₂ (.transitionSession "first" true 3) s₃ ∧
    s₃.sessions "first" ≠ s₂.sessions "first" := by
  obtain ⟨s₁, h₁, hrest⟩ := exists_of_okAnd (r := transact bound (.transitionSession "first" true 3))
    (p := fun s₁ => okAnd (transact s₁ (.transitionSession "first" false 3)) (fun s₂ =>
      okAnd (transact s₂ (.transitionSession "first" true 3)) (fun s₃ =>
        decide (s₃.sessions "first" ≠ s₂.sessions "first")))) (by decide +kernel)
  obtain ⟨s₂, h₂, hrest⟩ := exists_of_okAnd hrest
  obtain ⟨s₃, h₃, hdiffers⟩ := exists_of_okAnd hrest
  exact ⟨s₁, s₂, s₃, h₁, h₂, h₃, of_decide_eq_true hdiffers⟩

end

end Sessionless.Store
