import Mathlib.Logic.Relation

/-!
# Two copies of a machine over a pair of channels

A party takes its own message in when it sends it and the other takes it in when it arrives; each direction is a
first-in first-out channel. While messages of the two directions commute, the parties are two continuations of one
common state, and equal once nothing is under way.
-/

namespace Sessionless.Lib

variable {S M L R : Type}

inductive Takes (step : S → M → S → Prop) : S → List M → S → Prop
  | nil (state : S) : Takes step state [] state
  | cons {state next final : S} {message : M} {rest : List M} (head : step state message next)
      (tail : Takes step next rest final) : Takes step state (message :: rest) final

theorem Takes.eq_of_nil {step : S → M → S → Prop} {state final} (h : Takes step state [] final) :
    state = final := by
  cases h
  rfl

theorem Takes.concat {step : S → M → S → Prop} {state mid final messages message}
    (h : Takes step state messages mid) (hs : step mid message final) :
    Takes step state (messages ++ [message]) final := by
  induction h with
  | nil state => exact .cons hs (.nil final)
  | cons head _ ih => exact .cons head (ih hs)

theorem Takes.split {step : S → M → S → Prop} {state final pre post message}
    (h : Takes step state (pre ++ message :: post) final) :
    ∃ mid next, Takes step state pre mid ∧ step mid message next ∧ Takes step next post final := by
  induction pre generalizing state with
  | nil =>
    cases h with
    | cons head tail => exact ⟨state, _, .nil state, head, tail⟩
  | cons first rest ih =>
    cases h with
    | cons head tail =>
      obtain ⟨mid, next, hpre, hstep, hpost⟩ := ih tail
      exact ⟨mid, next, .cons head hpre, hstep, hpost⟩

theorem Takes.unique {step : S → M → S → Prop} {state left right messages}
    (hl : Takes step state messages left) (hr : Takes step state messages right)
    (hu : ∀ {state a b message}, step state message a → step state message b → a = b) : left = right := by
  induction hl with
  | nil state => exact hr.eq_of_nil
  | cons head _ ih =>
    cases hr with
    | cons head' tail' =>
      cases hu head head'
      exact ih tail'

/-- What every step keeps, a run keeps. -/
theorem Takes.keeps {step : S → M → S → Prop} {P : S → Prop} {state final messages}
    (h : Takes step state messages final) (hstep : ∀ {state message next}, P state → step state message next → P next)
    (hs : P state) : P final := by
  induction h with
  | nil state => exact hs
  | cons head _ ih => exact ih (hstep hs head)

/-- The states of the parties and what each has sent that the other has not taken yet. -/
structure Link (S L R : Type) where
  left : S
  right : S
  toRight : List L
  toLeft : List R

def Link.initial (state : S) : Link S L R := ⟨state, state, [], []⟩

inductive Link.Step (stepL : S → L → S → Prop) (stepR : S → R → S → Prop) : Link S L R → Link S L R → Prop
  | sendLeft {link : Link S L R} {message : L} {state : S} (taken : stepL link.left message state) :
      Step stepL stepR link { link with left := state, toRight := link.toRight ++ [message] }
  | sendRight {link : Link S L R} {message : R} {state : S} (taken : stepR link.right message state) :
      Step stepL stepR link { link with right := state, toLeft := link.toLeft ++ [message] }
  | arriveRight {link : Link S L R} {message : L} {rest : List L} {state : S}
      (head : link.toRight = message :: rest) (taken : stepL link.right message state) :
      Step stepL stepR link { link with right := state, toRight := rest }
  | arriveLeft {link : Link S L R} {message : R} {rest : List R} {state : S}
      (head : link.toLeft = message :: rest) (taken : stepR link.left message state) :
      Step stepL stepR link { link with left := state, toLeft := rest }

/-- Both parties continue one common state, each by the messages it has sent. -/
def Link.Forked (stepL : S → L → S → Prop) (stepR : S → R → S → Prop) (inv : S → Prop) (link : Link S L R) : Prop :=
  ∃ state, inv state ∧ Takes stepL state link.toRight link.left ∧ Takes stepR state link.toLeft link.right

/-- Messages of the two directions commute in every state in which they do not clash. -/
structure Diamond (stepL : S → L → S → Prop) (stepR : S → R → S → Prop) (inv : S → Prop)
    (clash : S → L → R → Prop) : Prop where
  left_unique : ∀ {state a b l}, stepL state l a → stepL state l b → a = b
  right_unique : ∀ {state a b r}, stepR state r a → stepR state r b → a = b
  left_keeps : ∀ {state a l}, inv state → stepL state l a → inv a
  right_keeps : ∀ {state b r}, inv state → stepR state r b → inv b
  join : ∀ {state a b l r}, inv state → ¬ clash state l r → stepL state l a → stepR state r b →
    ∃ final, stepR a r final ∧ stepL b l final

/-- A message clashes with no message of a channel when its turn comes. -/
def Passes (step : S → M → S → Prop) (clash : S → M → Prop) (state : S) (messages : List M) : Prop :=
  ∀ pre message post mid, messages = pre ++ message :: post → Takes step state pre mid → ¬ clash mid message

namespace Diamond

variable {stepL : S → L → S → Prop} {stepR : S → R → S → Prop} {inv : S → Prop} {clash : S → L → R → Prop}
  (h : Diamond stepL stepR inv clash)
include h

theorem swap : Diamond stepR stepL inv (fun state r l => clash state l r) where
  left_unique := h.right_unique
  right_unique := h.left_unique
  left_keeps := h.right_keeps
  right_keeps := h.left_keeps
  join := fun hi hc hr hl => (h.join hi hc hl hr).imp fun _ => And.symm

theorem mono (clash' : S → L → R → Prop)
    (hc : ∀ {state l r}, clash state l r → clash' state l r) : Diamond stepL stepR inv clash' :=
  { h with join := fun hi hn => h.join hi fun hclash => hn (hc hclash) }

theorem pass {state next final l rs} (hi : inv state)
    (hl : stepL state l next) (hr : Takes stepR state rs final)
    (hc : Passes stepR (fun mid r => clash mid l r) state rs) :
    ∃ joined, Takes stepR next rs joined ∧ stepL final l joined := by
  induction hr generalizing next with
  | nil state => exact ⟨next, .nil next, hl⟩
  | cons head _ ih =>
    obtain ⟨joined, hhead, hpassed⟩ := h.join hi (hc [] _ _ _ rfl (.nil _)) hl head
    obtain ⟨final, htail, hfinal⟩ := ih (h.right_keeps hi head) hpassed fun pre r post mid hsplit hmid =>
      hc (_ :: pre) r post mid (hsplit ▸ rfl) (.cons head hmid)
    exact ⟨final, .cons hhead htail, hfinal⟩

theorem arrive {state left right l ls rs}
    (hi : inv state) (hl : Takes stepL state (l :: ls) left) (hr : Takes stepR state rs right)
    (hc : Passes stepR (fun mid r => clash mid l r) state rs) :
    ∃ next joined, stepL right l joined ∧ inv next ∧ Takes stepL next ls left ∧ Takes stepR next rs joined := by
  cases hl with
  | cons head tail =>
    obtain ⟨joined, hjoined, hstep⟩ := h.pass hi head hr hc
    exact ⟨_, joined, hstep, h.left_keeps hi head, tail, hjoined⟩

theorem forked_arriveRight {state left right taken l ls rs} (hi : inv state) (hl : Takes stepL state (l :: ls) left) (hr : Takes stepR state rs right)
    (hc : Passes stepR (fun mid r => clash mid l r) state rs) (ht : stepL right l taken) :
    Link.Forked stepL stepR inv ⟨left, taken, ls, rs⟩ := by
  obtain ⟨next, joined, hstep, hnext, hls, hrs⟩ := h.arrive hi hl hr hc
  rw [h.left_unique ht hstep]
  exact ⟨next, hnext, hls, hrs⟩

theorem forked_arriveLeft {state left right taken r ls rs} (hi : inv state) (hl : Takes stepL state ls left) (hr : Takes stepR state (r :: rs) right)
    (hc : Passes stepL (fun mid l => clash mid l r) state ls) (ht : stepR left r taken) :
    Link.Forked stepL stepR inv ⟨taken, right, ls, rs⟩ := by
  obtain ⟨next, hnext, hrs, hls⟩ := h.swap.forked_arriveRight hi hr hl hc ht
  exact ⟨next, hnext, hls, hrs⟩

end Diamond

/-! ## Messages that never clash in any state -/

section

variable {stepL : S → L → S → Prop} {stepR : S → R → S → Prop} {inv : S → Prop} {collides : L → R → Prop}
  {link link' : Link S L R}

/-- No two messages that collide are under way at the same time. -/
def Link.Clear (collides : L → R → Prop) (link : Link S L R) : Prop :=
  ∀ l ∈ link.toRight, ∀ r ∈ link.toLeft, ¬ collides l r

theorem Link.Clear.passes_right (h : link.Clear collides) {l} (hl : l ∈ link.toRight) {state} :
    Passes stepR (fun _ r => collides l r) state link.toLeft :=
  fun _ r _ _ hsplit _ => h l hl r (hsplit ▸ List.mem_append_right _ List.mem_cons_self)

theorem Link.Clear.passes_left (h : link.Clear collides) {r} (hr : r ∈ link.toLeft) {state} :
    Passes stepL (fun _ l => collides l r) state link.toRight :=
  fun _ l _ _ hsplit _ => h l (hsplit ▸ List.mem_append_right _ List.mem_cons_self) r hr

namespace Diamond

variable (h : Diamond stepL stepR inv fun _ => collides)
include h

theorem forked_step (hf : link.Forked stepL stepR inv) (hc : link.Clear collides) (hs : link.Step stepL stepR link') :
    link'.Forked stepL stepR inv := by
  obtain ⟨state, hi, hl, hr⟩ := hf
  cases hs with
  | sendLeft taken => exact ⟨state, hi, hl.concat taken, hr⟩
  | sendRight taken => exact ⟨state, hi, hl, hr.concat taken⟩
  | arriveRight head taken =>
    exact h.forked_arriveRight hi (head ▸ hl) hr (hc.passes_right (head ▸ List.mem_cons_self)) taken
  | arriveLeft head taken =>
    exact h.forked_arriveLeft hi hl (head ▸ hr) (hc.passes_left (head ▸ List.mem_cons_self)) taken

theorem forked_run {state} (hi : inv state)
    (run : Relation.ReflTransGen (fun a b => Link.Step stepL stepR a b ∧ b.Clear collides) (.initial state) link) :
    link.Forked stepL stepR inv ∧ link.Clear collides := by
  induction run with
  | refl => exact ⟨⟨state, hi, .nil state, .nil state⟩, fun _ hl => absurd hl List.not_mem_nil⟩
  | tail _ hs ih => exact ⟨h.forked_step ih.1 ih.2 hs.1, hs.2⟩

theorem right_takes (hf : link.Forked stepL stepR inv) (hc : link.Clear collides) {l rest}
    (head : link.toRight = l :: rest) : ∃ state, stepL link.right l state := by
  obtain ⟨state, hi, hl, hr⟩ := hf
  obtain ⟨-, joined, hstep, -⟩ := h.arrive hi (head ▸ hl) hr (hc.passes_right (head ▸ List.mem_cons_self))
  exact ⟨joined, hstep⟩

theorem left_takes (hf : link.Forked stepL stepR inv) (hc : link.Clear collides) {r rest}
    (head : link.toLeft = r :: rest) : ∃ state, stepR link.left r state := by
  obtain ⟨state, hi, hl, hr⟩ := hf
  obtain ⟨-, joined, hstep, -⟩ := h.swap.arrive hi (head ▸ hr) hl (hc.passes_left (head ▸ List.mem_cons_self))
  exact ⟨joined, hstep⟩

end Diamond

end

theorem Link.Forked.eq_of_quiet {stepL : S → L → S → Prop} {stepR : S → R → S → Prop} {inv : S → Prop}
    {link : Link S L R} (h : link.Forked stepL stepR inv) (hl : link.toRight = []) (hr : link.toLeft = []) :
    link.left = link.right := by
  obtain ⟨state, -, hleft, hright⟩ := h
  rw [hl] at hleft
  rw [hr] at hright
  exact hleft.eq_of_nil.symm.trans hright.eq_of_nil

end Sessionless.Lib
