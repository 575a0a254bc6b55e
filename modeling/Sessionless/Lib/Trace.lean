import Mathlib.Data.List.Basic

/-!
# Traces

A labelled transition system takes one step per label. A trace is a finite sequence of steps
with its labels; what every step preserves holds at the end of a trace.
-/

namespace Sessionless.Lib

variable {σ ε : Type} {step : σ → ε → σ → Prop} {s s' s'' : σ} {e : ε} {es : List ε}

inductive Trace (step : σ → ε → σ → Prop) : σ → List ε → σ → Prop where
  | nil (s : σ) : Trace step s [] s
  | cons {s s' s'' : σ} {e : ε} {es : List ε} (h : step s e s') (rest : Trace step s' es s'') : Trace step s (e :: es) s''

/-- A predicate preserved by every step whose label passes the test holds at the end of a trace of such labels. -/
theorem Trace.invariant {p : ε → Prop} {I : σ → Prop} (hstep : ∀ s e s', p e → I s → step s e s' → I s')
    (h : Trace step s es s') (hp : ∀ e ∈ es, p e) (hi : I s) : I s' := by
  induction h with
  | nil s => exact hi
  | cons hfirst rest ih =>
    have hhead := hstep _ _ _ (hp _ List.mem_cons_self) hi hfirst
    exact ih (fun e hmem => hp e (List.mem_cons_of_mem _ hmem)) hhead

theorem Trace.single (h : step s e s') : Trace step s [e] s' := .cons h (.nil s')

end Sessionless.Lib
