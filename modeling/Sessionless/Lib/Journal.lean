import Mathlib.Data.Int.ConditionallyCompleteOrder

/-!
# Numbered journals

A journal numbers its entries from one on, finds an entry by its key, keeps a clock that no entry passes, and sums its
entries up in a checkpoint per entry. Entries are only appended, and the clock only moves forward.
-/

namespace Sessionless.Lib

open Function

structure EntryView (E K I T : Type) where
  number : E → Nat
  key : E → K
  ident : E → I
  time : E → T

structure Journal (E K I T A : Type) where
  last : Nat
  clock : T
  entries : Nat → Option E
  index : K → Option (Nat × I)
  /-- The last checkpoint, kept beside them. -/
  current : Option A
  checkpoints : Nat → Option A

namespace Journal

variable {E K I T A : Type} [DecidableEq K] [Preorder T] {view : EntryView E K I T} {log log' : Journal E K I T A}

def append (view : EntryView E K I T) (log : Journal E K I T A) (entry : E) (checkpoint : A) : Journal E K I T A where
  last := log.last + 1
  clock := view.time entry
  entries := update log.entries (log.last + 1) (some entry)
  index := update log.index (view.key entry) (some (log.last + 1, view.ident entry))
  current := some checkpoint
  checkpoints := update log.checkpoints (log.last + 1) (some checkpoint)

def advance (log : Journal E K I T A) (clock : T) : Journal E K I T A := { log with clock }

inductive Step (view : EntryView E K I T) : Journal E K I T A → Journal E K I T A → Prop where
  | append {log : Journal E K I T A} {entry : E} {checkpoint : A} (hnumber : view.number entry = log.last + 1)
      (htime : log.clock ≤ view.time entry) (hkey : log.index (view.key entry) = none) :
      Step view log (log.append view entry checkpoint)
  | advance {log : Journal E K I T A} {clock : T} (htime : log.clock ≤ clock) : Step view log (log.advance clock)

/-- The entries are numbered without gaps and in the order of their times, every entry is found by its key and by no
other, and the checkpoints are those of the entries from some first one on, the last of them kept apart. -/
structure Sound (view : EntryView E K I T) (log : Journal E K I T A) : Prop where
  numbered : ∀ n, (log.entries n).isSome ↔ 1 ≤ n ∧ n ≤ log.last
  named : ∀ n entry, log.entries n = some entry → view.number entry = n
  ordered : ∀ m n entry entry', m ≤ n → log.entries m = some entry → log.entries n = some entry' →
    view.time entry ≤ view.time entry'
  clocked : ∀ n entry, log.entries n = some entry → view.time entry ≤ log.clock
  indexed : ∀ key n ident, log.index key = some (n, ident) ↔
    ∃ entry, log.entries n = some entry ∧ view.key entry = key ∧ view.ident entry = ident
  checkpointed : ∃ first, 1 ≤ first ∧ first ≤ log.last + 1 ∧
    (∀ n, (log.checkpoints n).isSome ↔ first ≤ n ∧ n ≤ log.last) ∧ (first ≤ log.last → log.current = log.checkpoints log.last)

omit [DecidableEq K] in
theorem Sound.entries_next (h : log.Sound view) : log.entries (log.last + 1) = none := by
  cases hentry : log.entries (log.last + 1) with
  | none => rfl
  | some entry =>
    have hle := ((h.numbered (log.last + 1)).mp (by simp [hentry])).2
    exact absurd hle (Nat.not_succ_le_self log.last)

omit [Preorder T] in
theorem entries_append {entry stored checkpoint n} (h : (log.append view entry checkpoint).entries n = some stored) :
    n = log.last + 1 ∧ stored = entry ∨ n ≠ log.last + 1 ∧ log.entries n = some stored := by
  by_cases heq : n = log.last + 1
  · subst heq
    simp only [append, update_self, Option.some.injEq] at h
    exact .inl ⟨rfl, h.symm⟩
  · simp only [append, update_of_ne heq] at h
    exact .inr ⟨heq, h⟩

theorem Sound.indexed_append {entry checkpoint} (h : log.Sound view) (hkey : log.index (view.key entry) = none)
    (key : K) (n : Nat) (ident : I) : (log.append view entry checkpoint).index key = some (n, ident) ↔
      ∃ stored, (log.append view entry checkpoint).entries n = some stored ∧ view.key stored = key ∧
        view.ident stored = ident := by
  by_cases heq : key = view.key entry
  · subst heq
    constructor
    · intro hfound
      simp only [append, update_self] at hfound
      cases hfound
      exact ⟨entry, update_self .., rfl, rfl⟩
    · rintro ⟨stored, hstored, hsame, rfl⟩
      rcases entries_append hstored with ⟨rfl, rfl⟩ | ⟨-, hold⟩
      · exact update_self ..
      · -- an older entry under this key would be in the index
        have hindex := (h.indexed (view.key entry) n (view.ident stored)).mpr ⟨stored, hold, hsame, rfl⟩
        rw [hkey] at hindex
        cases hindex
  · have hindex : (log.append view entry checkpoint).index key = log.index key := update_of_ne heq ..
    rw [hindex, h.indexed]
    constructor
    · rintro ⟨stored, hstored, hsame, rfl⟩
      have hne : n ≠ log.last + 1 := by
        rintro rfl
        rw [h.entries_next] at hstored
        cases hstored
      exact ⟨stored, (update_of_ne hne ..).trans hstored, hsame, rfl⟩
    · rintro ⟨stored, hstored, rfl, rfl⟩
      rcases entries_append hstored with ⟨-, rfl⟩ | ⟨-, hold⟩
      · exact absurd rfl heq
      · exact ⟨stored, hold, rfl, rfl⟩

theorem Sound.append {entry checkpoint} (h : log.Sound view) (hnumber : view.number entry = log.last + 1)
    (htime : log.clock ≤ view.time entry) (hkey : log.index (view.key entry) = none) :
    (log.append view entry checkpoint).Sound view where
  numbered n := by
    by_cases heq : n = log.last + 1
    · subst heq
      simp [Journal.append]
    · have hentry : (log.append view entry checkpoint).entries n = log.entries n := update_of_ne heq ..
      rw [hentry, h.numbered]
      simp only [Journal.append]
      omega
  named n stored hstored := by
    rcases entries_append hstored with ⟨rfl, rfl⟩ | ⟨-, hold⟩
    · exact hnumber
    · exact h.named n stored hold
  ordered m n stored stored' hle hm hn := by
    rcases entries_append hn with ⟨rfl, rfl⟩ | ⟨hne, hold'⟩
    · rcases entries_append hm with ⟨-, rfl⟩ | ⟨-, hold⟩
      · exact le_refl _
      · exact le_trans (h.clocked m stored hold) htime
    · rcases entries_append hm with ⟨rfl, rfl⟩ | ⟨-, hold⟩
      · have hbound := ((h.numbered n).mp (by simp [hold'])).2
        omega
      · exact h.ordered m n stored stored' hle hold hold'
  clocked n stored hstored := by
    rcases entries_append hstored with ⟨-, rfl⟩ | ⟨-, hold⟩
    · exact le_refl _
    · exact le_trans (h.clocked n stored hold) htime
  indexed := h.indexed_append hkey
  checkpointed := by
    obtain ⟨first, hpos, hfirst, hcheckpoints, -⟩ := h.checkpointed
    refine ⟨first, hpos, Nat.le_succ_of_le hfirst, ?_, fun _ => by simp [Journal.append]⟩
    intro n
    by_cases heq : n = log.last + 1
    · subst heq
      simp [Journal.append, hfirst]
    · have hsame : (log.append view entry checkpoint).checkpoints n = log.checkpoints n := update_of_ne heq ..
      rw [hsame, hcheckpoints]
      simp only [Journal.append]
      omega

omit [DecidableEq K] in
theorem Sound.advance {clock} (h : log.Sound view) (htime : log.clock ≤ clock) : (log.advance clock).Sound view :=
  { h with clocked := fun n entry hentry => le_trans (h.clocked n entry hentry) htime }

omit [DecidableEq K] in
theorem sound_empty {clock current} : (Journal.mk 0 clock (fun _ => none) (fun _ => none) current
    (fun _ => none) : Journal E K I T A).Sound view where
  numbered n := by simp; omega
  named := by simp
  ordered := by simp
  clocked := by simp
  indexed := by simp
  checkpointed := ⟨1, Nat.le_refl 1, Nat.le_refl 1, by simp; omega, by simp⟩

theorem Sound.step (h : log.Sound view) (hstep : Step view log log') : log'.Sound view := by
  cases hstep with
  | append hnumber htime hkey => exact h.append hnumber htime hkey
  | advance htime => exact h.advance htime

theorem Sound.steps (h : log.Sound view) (hsteps : Relation.ReflTransGen (Step view) log log') : log'.Sound view := by
  induction hsteps with
  | refl => exact h
  | tail _ hstep ih => exact ih.step hstep

end Journal

end Sessionless.Lib
