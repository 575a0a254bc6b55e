import Mathlib.Logic.Basic

/-!
# Guarded results

A function that refuses with an error when a guard fails succeeds exactly when the guard
holds and the rest succeeds. These lemmas turn a success of such a function into the
conjunction of its guards, and back.
-/

namespace Sessionless.Lib

variable {ε σ α : Type}

@[simp] theorem ite_error_eq_ok {p : Prop} [Decidable p] {e : ε} {a : α} {x : Except ε α} :
    (if p then .error e else x) = .ok a ↔ ¬ p ∧ x = .ok a := by
  by_cases hp : p <;> simp [hp]

@[simp] theorem ite_refuse_eq_ok {p : Prop} [Decidable p] {e : ε} {s s' : σ} {a : α} {x : EStateM.Result ε σ α} :
    (if p then .error e s else x) = .ok a s' ↔ ¬ p ∧ x = .ok a s' := by
  by_cases hp : p <;> simp [hp]

theorem ite_ok_eq_ok {p : Prop} [Decidable p] {e : ε} {a b : α} :
    (if p then Except.ok b else .error e) = .ok a ↔ p ∧ b = a := by
  by_cases hp : p <;> simp [hp]

/-! ## Computed results -/

theorem exists_of_isOk {r : Except ε α} (h : r.isOk = true) : ∃ value, r = .ok value := by
  cases r with
  | error e => cases h
  | ok value => exact ⟨value, rfl⟩

/-- The result is a success, of a value that passes the test. -/
def okAnd (r : Except ε α) (p : α → Bool) : Bool :=
  match r with
  | .ok value => p value
  | .error _ => false

theorem exists_of_okAnd {r : Except ε α} {p : α → Bool} (h : okAnd r p = true) : ∃ value, r = .ok value ∧ p value = true := by
  cases r with
  | error e => cases h
  | ok value => exact ⟨value, rfl, h⟩

def failsWith [DecidableEq ε] (r : Except ε α) (e : ε) : Bool :=
  match r with
  | .ok _ => false
  | .error e' => e' = e

theorem eq_error_of_failsWith [DecidableEq ε] {r : Except ε α} {e : ε} (h : failsWith r e = true) : r = .error e := by
  cases r with
  | ok value => cases h
  | error e' => rw [of_decide_eq_true h]

def ranAnd (r : EStateM.Result ε σ α) (p : σ → Bool) : Bool :=
  match r with
  | .ok _ state => p state
  | .error _ _ => false

theorem exists_of_ranAnd {r : EStateM.Result ε σ α} {p : σ → Bool} (h : ranAnd r p = true) :
    ∃ value state, r = .ok value state ∧ p state = true := by
  cases r with
  | error e state => cases h
  | ok value state => exact ⟨value, state, rfl, h⟩

theorem bind_eq_ok {β : Type} {r} {f : α → Except ε β} {b} :
    (r >>= f) = .ok b ↔ ∃ a, r = .ok a ∧ f a = .ok b := by
  cases r with
  | error e | ok a => simp [bind, Except.bind]

theorem pure_eq_ok {a b : α} : (pure a : Except ε α) = .ok b ↔ a = b :=
  ⟨Except.ok.inj, congrArg Except.ok⟩

theorem exists_unit {p : Unit → Prop} : (∃ u, p u) ↔ p () :=
  ⟨fun ⟨_, h⟩ => h, fun h => ⟨(), h⟩⟩

end Sessionless.Lib
