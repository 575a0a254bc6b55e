import Sessionless.Lib.Journal
import Sessionless.Store.Lemmas.Frame

/-!
# The log of a session

The rows of one session read as a journal: the events numbered by their sequences, the idempotency rows as the index,
`updated_at` as the clock and the material rows as the checkpoints. A canonical writer leaves the journal alone,
starts it empty or extends it; the last two only while no deletion is recorded.
-/

namespace Sessionless.Store

open Lib Context

def eventView : EntryView SessionEvent IdempotencyKey SessionEventID Int where
  number event := event.sequence
  key event := event.idempotencyKey
  ident event := event.id
  time event := event.createdAt

abbrev SessionJournal := Journal SessionEvent IdempotencyKey SessionEventID Int SessionMaterialPrefixV1

/-- The rows of a session, under a version of its session row. -/
def journalOf (s : State) (sessionID : SessionID) (session : Session) : SessionJournal where
  last := session.lastEventSequence
  clock := session.updatedAt
  entries n := s.sessionEvents (sessionID, n)
  index key := s.sessionEventIdempotency (sessionID, key)
  current := s.materialCurrent sessionID
  checkpoints n := s.materialBoundaries (sessionID, n)

def State.SessionsKeyed (s : State) : Prop := ∀ id session, s.sessions id = some session → session.id = id

structure SameLog (s s' : State) (sessionID : SessionID) : Prop where
  session : s'.sessions sessionID = s.sessions sessionID
  journal : ∀ session, journalOf s' sessionID session = journalOf s sessionID session

structure Unused (s : State) (sessionID : SessionID) : Prop where
  session : s.sessions sessionID = none
  events : ∀ n, s.sessionEvents (sessionID, n) = none
  keys : ∀ key, s.sessionEventIdempotency (sessionID, key) = none
  boundaries : ∀ n, s.materialBoundaries (sessionID, n) = none

structure LogSound (s : State) (sessionID : SessionID) : Prop where
  unused : s.sessions sessionID = none → Unused s sessionID
  stored : ∀ session, s.sessions sessionID = some session →
    session.id = sessionID ∧ (journalOf s sessionID session).Sound eventView

inductive LogMoves (s s' : State) (sessionID : SessionID) : Prop where
  | same (h : SameLog s s' sessionID)
  | created (session : Session) (hfresh : s.sessions sessionID = none) (hid : session.id = sessionID)
      (hempty : session.lastEventSequence = 0) (hwritable : s.sessionDeletions sessionID = none)
      (hstored : s'.sessions sessionID = some session)
      (hentries : (journalOf s' sessionID session).entries = (journalOf s sessionID session).entries)
      (hindex : (journalOf s' sessionID session).index = (journalOf s sessionID session).index)
      (hcheckpoints : (journalOf s' sessionID session).checkpoints = (journalOf s sessionID session).checkpoints)
  | extended (session next : Session) (hsession : s.sessions sessionID = some session) (hid : next.id = session.id)
      (hwritable : s.sessionDeletions sessionID = none) (hstored : s'.sessions sessionID = some next)
      (hsteps : Relation.ReflTransGen (Journal.Step eventView) (journalOf s sessionID session)
        (journalOf s' sessionID next))

variable {s s' s'' : State} {sessionID : SessionID}

namespace SameLog

theorem refl (s : State) (sessionID : SessionID) : SameLog s s sessionID := ⟨rfl, fun _ => rfl⟩

theorem trans (h : SameLog s s' sessionID) (h' : SameLog s' s'' sessionID) : SameLog s s'' sessionID :=
  ⟨h'.session.trans h.session, fun session => (h'.journal session).trans (h.journal session)⟩

end SameLog

theorem LogSound.moves (h : LogSound s sessionID) (hmoves : LogMoves s s' sessionID) : LogSound s' sessionID := by
  cases hmoves with
  | same hsame =>
    constructor
    · intro hnone
      rw [hsame.session] at hnone
      have hold := h.unused hnone
      have hjournal := hsame.journal ⟨"", "", "", .active, 0, 0, 0, none⟩
      simp only [journalOf, Journal.mk.injEq, true_and] at hjournal
      obtain ⟨hevents, hkeys, -, hboundaries⟩ := hjournal
      exact ⟨by rw [hsame.session]; exact hnone, fun n => (congrFun hevents n).trans (hold.events n),
        fun key => (congrFun hkeys key).trans (hold.keys key),
        fun n => (congrFun hboundaries n).trans (hold.boundaries n)⟩
    · intro session hsession
      rw [hsame.session] at hsession
      rw [hsame.journal]
      exact h.stored session hsession
  | created session hfresh hid hempty hwritable hstored hentries hindex hcheckpoints =>
    constructor
    · intro hnone
      rw [hstored] at hnone
      cases hnone
    · intro session' hsession'
      rw [hstored] at hsession'
      cases hsession'
      refine ⟨hid, ?_⟩
      have hold := h.unused hfresh
      have hjournal : journalOf s' sessionID session =
          ⟨0, session.updatedAt, fun _ => none, fun _ => none, s'.materialCurrent sessionID, fun _ => none⟩ := by
        have hentries' : (journalOf s' sessionID session).entries = fun _ => none :=
          hentries.trans (funext hold.events)
        have hindex' : (journalOf s' sessionID session).index = fun _ => none := hindex.trans (funext hold.keys)
        have hcheckpoints' : (journalOf s' sessionID session).checkpoints = fun _ => none :=
          hcheckpoints.trans (funext hold.boundaries)
        rw [← hentries', ← hindex', ← hcheckpoints', ← hempty]
        rfl
      rw [hjournal]
      exact Journal.sound_empty
  | extended session next hsession hid hwritable hstored hsteps =>
    obtain ⟨hkey, hsound⟩ := h.stored session hsession
    constructor
    · intro hnone
      rw [hstored] at hnone
      cases hnone
    · intro session' hsession'
      rw [hstored] at hsession'
      cases hsession'
      exact ⟨hid.trans hkey, hsound.steps hsteps⟩

end Sessionless.Store
