import Sessionless.Store.Lemmas.Log

/-!
# Rows that stay

The idempotency rows of events, the finalizations, the archive mutations and the deletions are inserted once and never
written again, and the identity of a run never changes: what made a transaction recognise its own earlier commit is
there at any later time.
-/

namespace Sessionless.Store

open Lib

variable {s s' s'' : State}

structure Later (s s' : State) : Prop where
  tenantID : s'.tenantID = s.tenantID
  keys : ∀ key row, s.sessionEventIdempotency key = some row → s'.sessionEventIdempotency key = some row
  runs : ∀ id run, s.runs id = some run → ∃ run', s'.runs id = some run' ∧ run'.sessionID = run.sessionID ∧
    (run.id = id → run'.id = id)
  finalizations : ∀ id row, s.runFinalizations id = some row → s'.runFinalizations id = some row
  mutations : ∀ key row, s.sessionAPIMutations key = some row → s'.sessionAPIMutations key = some row
  deletions : ∀ id row, s.sessionDeletions id = some row → s'.sessionDeletions id = some row
  deliveries : ∀ key row, s'.ingressIdempotency key = some row → s.ingressIdempotency key = some row ∨ Backed s' key row

theorem Backed.later {key row} (hbacked : Backed s key row) (h : Later s s') : Backed s' key row := by
  obtain ⟨⟨found, hfound⟩, run, hrun, hid, hsession⟩ := hbacked
  obtain ⟨run', hrun', hsession', hid'⟩ := h.runs _ run hrun
  exact ⟨⟨found, h.keys _ _ hfound⟩, run', hrun', hid' hid, hsession'.trans hsession⟩

namespace Later

theorem refl (s : State) : Later s s :=
  ⟨rfl, fun _ _ h => h, fun _ run h => ⟨run, h, rfl, id⟩, fun _ _ h => h, fun _ _ h => h, fun _ _ h => h,
    fun _ _ h => .inl h⟩

theorem trans (h : Later s s') (h' : Later s' s'') : Later s s'' where
  tenantID := h'.tenantID.trans h.tenantID
  keys key row hrow := h'.keys key row (h.keys key row hrow)
  runs id run hrun := by
    obtain ⟨run', hrun', hsession, hid⟩ := h.runs id run hrun
    obtain ⟨run'', hrun'', hsession', hid'⟩ := h'.runs id run' hrun'
    exact ⟨run'', hrun'', hsession'.trans hsession, fun h => hid' (hid h)⟩
  finalizations id row hrow := h'.finalizations id row (h.finalizations id row hrow)
  mutations key row hrow := h'.mutations key row (h.mutations key row hrow)
  deletions id row hrow := h'.deletions id row (h.deletions id row hrow)
  deliveries key row hrow := by
    rcases h'.deliveries key row hrow with hold | hbacked
    · rcases h.deliveries key row hold with holder | hbacked
      · exact .inl holder
      · exact .inr (hbacked.later h')
    · exact .inr hbacked

end Later

theorem runs_kept {run} (hstored : ∀ stored, s.runs run.id = some stored → stored.sameIdentity run = true)
    {id stored} (h : s.runs id = some stored) :
    ∃ run', s.runs.upsert run.id run id = some run' ∧ run'.sessionID = stored.sessionID ∧
      (stored.id = id → run'.id = id) := by
  by_cases heq : id = run.id
  · subst heq
    have hsame := hstored stored h
    simp only [Run.sameIdentity, Bool.and_eq_true, decide_eq_true_eq] at hsame
    exact ⟨run, Table.upsert_self, hsame.1.1.1.1.symm, fun _ => rfl⟩
  · exact ⟨stored, (Table.upsert_of_ne heq).trans h, rfl, fun h => h⟩

namespace Later

theorem row (h : RowWrite s s') : Later s s' := by
  have hsame := refl s
  cases h with
  | session | scheduler | creation => exact { hsame with deliveries := fun _ _ h => .inl h }
  | event event p hfresh => exact { hsame with
      keys := fun _ _ h => Table.upsert_of_fresh hfresh h
      deliveries := fun _ _ h => .inl h }
  | run run _ _ _ _ _ _ hstored => exact { hsame with runs := fun _ _ h => runs_kept hstored h, deliveries := fun _ _ h => .inl h }
  | delivery key row hbacked =>
    refine { hsame with deliveries := fun key' row' hrow => ?_ }
    rcases Table.of_upsert hrow with ⟨rfl, rfl⟩ | ⟨-, hold⟩
    · exact .inr ⟨hbacked.event, hbacked.run⟩
    · exact .inl hold
  | expiry key => exact { hsame with deliveries := fun _ _ hrow => .inl (Table.of_delete hrow).2 }
  | mutation key row hfresh => exact { hsame with
      mutations := fun _ _ h => Table.upsert_of_fresh hfresh h
      deliveries := fun _ _ h => .inl h }
  | deletion id row hfresh => exact { hsame with
      deletions := fun _ _ h => Table.upsert_of_fresh hfresh h
      deliveries := fun _ _ h => .inl h }
  | binding hstored hswitch h =>
    obtain ⟨-, -, -, rfl⟩ := writeBinding_ok.mp h
    exact { hsame with deliveries := fun _ _ h => .inl h }

theorem rows (h : RowWrites s s') : Later s s' := by
  induction h with
  | refl => exact refl s
  | tail _ hlast ih => exact ih.trans (row hlast)

variable [Protocol.Crypto]

theorem transact {op} (h : transact s op = .ok s') : Later s s' := by
  rcases RowWrites.transact h with hrows | ⟨job, run, outcome, prepared, -, hjob⟩
  · exact rows hrows
  · obtain ⟨s₁, id, row, hrows, hfresh, rfl⟩ := RowWrites.jobFinalized hjob
    exact (rows hrows).trans { refl s₁ with
      finalizations := fun _ _ h => Table.upsert_of_fresh hfresh h
      deliveries := fun _ _ h => .inl h }

theorem trace {ops} (h : Trace Writes s ops s') : Later s s' := by
  induction h with
  | nil s => exact refl s
  | cons hfirst rest ih => exact (transact hfirst).trans ih

end Later

end Sessionless.Store
