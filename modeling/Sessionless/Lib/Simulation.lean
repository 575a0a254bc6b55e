import Mathlib.Data.List.Basic

/-!
# Bisimulation of deterministic transducers

A transducer answers each input with an output and moves to a next state. Two states that
a bisimulation relates give the same outputs on every input sequence.
-/

namespace Sessionless.Lib

variable {σ ι ο : Type}

def trace (step : σ → ι → ο × σ) : σ → List ι → List ο
  | _, [] => []
  | state, input :: rest => (step state input).1 :: trace step (step state input).2 rest

def Bisimulation (step : σ → ι → ο × σ) (related : σ → σ → Prop) : Prop :=
  ∀ {a b : σ} (input : ι), related a b → (step a input).1 = (step b input).1 ∧ related (step a input).2 (step b input).2

theorem Bisimulation.trace_eq {step : σ → ι → ο × σ} {related : σ → σ → Prop} (h : Bisimulation step related)
    {a b} (hr : related a b) (inputs : List ι) : trace step a inputs = trace step b inputs := by
  induction inputs generalizing a b with
  | nil => rfl
  | cons input rest ih =>
    obtain ⟨ho, hn⟩ := h input hr
    simp only [trace]
    rw [ho, ih hn]

end Sessionless.Lib
