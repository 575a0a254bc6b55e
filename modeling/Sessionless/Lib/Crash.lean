import Mathlib.Logic.Basic

/-!
# Programs over storage that fails and crashes

Each step of a program has its effect, fails with an error that the program sees, or has its effect and the process
ends right after it. How the steps turn out is a list that the program consumes. A triple says what holds in each of
the three ways a whole program can end, whatever the list.
-/

namespace Sessionless.Lib

inductive Fault
  | ok
  | fail
  | crash
deriving DecidableEq, Repr

inductive Stop (ε : Type)
  | failed (e : ε)
  | crashed
deriving DecidableEq, Repr

def Prog (σ ε α : Type) : Type := List Fault → σ → Except (Stop ε) α × List Fault × σ

namespace Prog

variable {σ ε α β : Type}

def bind (c : Prog σ ε α) (f : α → Prog σ ε β) : Prog σ ε β := fun faults s =>
  match c faults s with
  | (.ok a, faults, s) => f a faults s
  | (.error stop, faults, s) => (.error stop, faults, s)

instance : Monad (Prog σ ε) where
  pure a := fun faults s => (.ok a, faults, s)
  bind := bind

def get : Prog σ ε σ := fun faults s => (.ok s, faults, s)

def modify (f : σ → σ) : Prog σ ε Unit := fun faults s => (.ok (), faults, f s)

def fail (e : ε) : Prog σ ε α := fun faults s => (.error (.failed e), faults, s)

/-- A step with an effect, or with a partial one when it fails. -/
def stepOr (e : ε) (effect broken : σ → σ) : Prog σ ε Unit := fun faults s =>
  match faults with
  | [] => (.ok (), [], effect s)
  | .ok :: faults => (.ok (), faults, effect s)
  | .fail :: faults => (.error (.failed e), faults, broken s)
  | .crash :: faults => (.error .crashed, faults, effect s)

def step (e : ε) (effect : σ → σ) : Prog σ ε Unit := stepOr e effect id

def look (e : ε) : Prog σ ε Unit := step e id

def require (p : Prop) [Decidable p] (e : ε) : Prog σ ε Unit := if p then pure () else fail e

/-- Goes on from an error with a handler. A crash still ends the process. -/
def handle (c : Prog σ ε α) (h : ε → Prog σ ε α) : Prog σ ε α := fun faults s =>
  match c faults s with
  | (.error (.failed e), faults, s) => h e faults s
  | result => result

def orFail (c : Prog σ ε α) (e : ε) : Prog σ ε α := handle c fun _ => fail e

/-! ## Triples -/

/-- What holds at an end: after a return, after an error, after a crash. -/
def Ends (Q : α → σ → Prop) (E : ε → σ → Prop) (C : σ → Prop) : Except (Stop ε) α → σ → Prop
  | .ok a, s => Q a s
  | .error (.failed e), s => E e s
  | .error .crashed, s => C s

/-- From every state with `P`, every run of the program ends as said. -/
def Meets (P : σ → Prop) (c : Prog σ ε α) (Q : α → σ → Prop) (E : ε → σ → Prop) (C : σ → Prop) : Prop :=
  ∀ faults s, P s → Ends Q E C (c faults s).1 (c faults s).2.2

variable {P : σ → Prop} {c : Prog σ ε α} {f : α → Prog σ ε β} {Q Q' : α → σ → Prop} {R : β → σ → Prop}
  {E E' : ε → σ → Prop} {C C' : σ → Prop}

theorem Ends.imp {r s} (h : Ends Q E C r s) (hQ : ∀ a, Q a s → Q' a s)
    (hE : ∀ e, E e s → E' e s) (hC : C s → C' s) : Ends Q' E' C' r s := by
  cases r with
  | ok a => exact hQ a h
  | error stop =>
    cases stop with
    | failed e => exact hE e h
    | crashed => exact hC h

theorem Meets.imp (h : Meets P c Q E C) (hQ : ∀ a s, Q a s → Q' a s) (hE : ∀ e s, E e s → E' e s)
    (hC : ∀ s, C s → C' s) : Meets P c Q' E' C' :=
  fun faults s hP => (h faults s hP).imp (fun a => hQ a _) (fun e => hE e _) (hC _)

theorem Meets.keeps {I J : σ → Prop} (h : Meets P c Q (fun _ => I) I) (hI : ∀ s, I s → J s) :
    Meets P c Q (fun _ => J) J :=
  h.imp (fun _ _ h => h) (fun _ => hI) hI

theorem Meets.of {P' : σ → Prop} (h : Meets P c Q E C) (hP : ∀ s, P' s → P s) : Meets P' c Q E C :=
  fun faults s hs => h faults s (hP s hs)

theorem Meets.named (h : ∀ s, P s → Meets (fun t => t = s) c Q E C) : Meets P c Q E C :=
  fun faults s hs => h s hs faults s rfl

theorem Meets.pure {a} (h : ∀ s, P s → Q a s) : Meets P (Pure.pure a : Prog σ ε α) Q E C :=
  fun _ s hs => h s hs

theorem Meets.fail {e} (h : ∀ s, P s → E e s) : Meets P (Prog.fail e : Prog σ ε α) Q E C :=
  fun _ s hs => h s hs

theorem Meets.bind (h : Meets P c Q E C) (hf : ∀ a, Meets (Q a) (f a) R E C) : Meets P (c >>= f) R E C := by
  intro faults s hs
  have hc := h faults s hs
  show Ends R E C (Prog.bind c f faults s).1 (Prog.bind c f faults s).2.2
  unfold Prog.bind
  generalize c faults s = result at hc
  obtain ⟨r, faults', s'⟩ := result
  cases r with
  | ok a => exact hf a faults' s' hc
  | error stop =>
    cases stop with
    | failed e => exact hc
    | crashed => exact hc

theorem Meets.get_bind {f : σ → Prog σ ε β} (h : ∀ w, P w → Meets (fun s => s = w) (f w) R E C) :
    Meets P (Prog.get >>= f) R E C :=
  fun faults s hs => h s hs faults s rfl

theorem bind_ok {faults rest s t a} (h : c faults s = (.ok a, rest, t)) :
    (c >>= f) faults s = f a rest t := by
  show Prog.bind c f faults s = f a rest t
  simp only [Prog.bind, h]

theorem bind_eq_bind {d faults s} (h : c faults s = d faults s) :
    (c >>= f) faults s = (d >>= f) faults s := by
  show Prog.bind c f faults s = Prog.bind d f faults s
  simp only [Prog.bind, h]

theorem require_bind_pos {p : Prop} [Decidable p] {e} {f : Unit → Prog σ ε β} (hp : p) :
    (require p e >>= f : Prog σ ε β) = f () := by
  simp only [require, if_pos hp]
  rfl

theorem Meets.require_bind {p : Prop} [Decidable p] {e} {f : Unit → Prog σ ε β} (h : p → Meets P (f ()) R E C)
    (he : ¬ p → ∀ s, P s → E e s) : Meets P (require p e >>= f) R E C := by
  by_cases hp : p
  · rw [require_bind_pos hp]
    exact h hp
  · simp only [require, if_neg hp]
    exact fun _ s hs => he hp s hs

theorem Meets.require {p : Prop} [Decidable p] {e} {Q : Unit → σ → Prop} (h : p → ∀ s, P s → Q () s)
    (he : ¬ p → ∀ s, P s → E e s) : Meets P (Prog.require p e) Q E C := by
  unfold Prog.require
  split
  · exact Meets.pure (h ‹_›)
  · exact Meets.fail (he ‹_›)

theorem Meets.modify {g : σ → σ} {Q : Unit → σ → Prop} (h : ∀ s, P s → Q () (g s)) :
    Meets P (Prog.modify g : Prog σ ε Unit) Q E C :=
  fun _ s hs => h s hs

theorem Meets.stepOr {e} {effect broken : σ → σ} {Q : Unit → σ → Prop} (hQ : ∀ s, P s → Q () (effect s))
    (hE : ∀ s, P s → E e (broken s)) (hC : ∀ s, P s → C (effect s)) :
    Meets P (Prog.stepOr e effect broken) Q E C := by
  intro faults s hs
  cases faults with
  | nil => exact hQ s hs
  | cons fault faults =>
    cases fault with
    | ok => exact hQ s hs
    | fail => exact hE s hs
    | crash => exact hC s hs

theorem Meets.step {e} {effect : σ → σ} {Q : Unit → σ → Prop} (hQ : ∀ s, P s → Q () (effect s))
    (hE : ∀ s, P s → E e s) (hC : ∀ s, P s → C (effect s)) : Meets P (Prog.step e effect) Q E C :=
  Meets.stepOr hQ hE hC

theorem Meets.look {e} (hE : ∀ s, P s → E e s) (hC : ∀ s, P s → C s) :
    Meets P (Prog.look e : Prog σ ε Unit) (fun _ => P) E C :=
  Meets.stepOr (fun _ hs => hs) hE hC

theorem Meets.handle {E' : ε → σ → Prop} {h : ε → Prog σ ε α} (hc : Meets P c Q E' C) (hh : ∀ e, Meets (E' e) (h e) Q E C) :
    Meets P (Prog.handle c h) Q E C := by
  intro faults s hs
  have hend := hc faults s hs
  unfold Prog.handle
  generalize c faults s = result at hend
  obtain ⟨r, faults', s'⟩ := result
  cases r with
  | ok a => exact hend
  | error stop =>
    cases stop with
    | failed e => exact hh e faults' s' hend
    | crashed => exact hend

theorem Meets.orFail {e} (h : Meets P c Q (fun _ => E e) C) : Meets P (Prog.orFail c e) Q E C :=
  h.handle fun _ => Meets.fail fun _ hs => hs

end Prog

end Sessionless.Lib
