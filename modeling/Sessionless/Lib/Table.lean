import Mathlib.Logic.Function.Basic

/-!
# Tables

The rows of a database table by primary key. A statement that writes or deletes one row
leaves the others alone, and writing a row that is already there changes nothing.
-/

namespace Sessionless.Lib

abbrev Table (K V : Type) := K → Option V

namespace Table

variable {K V : Type} [DecidableEq K] {t : Table K V} {k k' : K} {v v' : V}

def upsert (t : Table K V) (k : K) (v : V) : Table K V := Function.update t k (some v)

def delete (t : Table K V) (k : K) : Table K V := Function.update t k none

@[simp] theorem upsert_self : t.upsert k v k = some v := Function.update_self ..

@[simp] theorem delete_self : t.delete k k = none := Function.update_self ..

theorem upsert_of_ne (h : k' ≠ k) : t.upsert k v k' = t k' := Function.update_of_ne h ..

theorem delete_of_ne (h : k' ≠ k) : t.delete k k' = t k' := Function.update_of_ne h ..

theorem upsert_eq_self (h : t k = some v) : t.upsert k v = t := by
  rw [upsert, ← h, Function.update_eq_self]

theorem of_upsert (h : t.upsert k v k' = some v') : k' = k ∧ v' = v ∨ k' ≠ k ∧ t k' = some v' := by
  by_cases heq : k' = k
  · subst heq
    rw [upsert_self] at h
    exact .inl ⟨rfl, (Option.some.inj h).symm⟩
  · rw [upsert_of_ne heq] at h
    exact .inr ⟨heq, h⟩

theorem upsert_of_fresh (hfresh : t k = none) (h : t k' = some v') : t.upsert k v k' = some v' := by
  have hne : k' ≠ k := by
    rintro rfl
    rw [hfresh] at h
    cases h
  exact (upsert_of_ne hne).trans h

/-- What holds of every row and of a new one holds of every row after it is written. -/
theorem forall_upsert {P : K → V → Prop} (h : ∀ k v, t k = some v → P k v) (hv : P k v) :
    ∀ k' v', t.upsert k v k' = some v' → P k' v' := by
  intro k' v' hk'
  rcases of_upsert hk' with ⟨rfl, rfl⟩ | ⟨-, hold⟩
  · exact hv
  · exact h k' v' hold

theorem of_delete (h : t.delete k k' = some v') : k' ≠ k ∧ t k' = some v' := by
  by_cases heq : k' = k
  · subst heq
    simp at h
  · rw [delete_of_ne heq] at h
    exact ⟨heq, h⟩

/-! The rows of a table whose key is a pair, under one first component. -/

section

variable {K' : Type} [DecidableEq K'] {p : Table (K × K') V} {a a' : K} {b : K'}

theorem upsert_section : (fun n => p.upsert (a, b) v (a, n)) = Function.update (fun n => p (a, n)) b (some v) := by
  funext n
  by_cases heq : n = b
  · subst heq
    simp
  · rw [upsert_of_ne (by simp [heq]), Function.update_of_ne heq]

theorem upsert_other_section (h : a' ≠ a) : (fun n => p.upsert (a, b) v (a', n)) = fun n => p (a', n) := by
  funext n
  exact upsert_of_ne (by simp [h])

end

end Table

end Sessionless.Lib
