import Mathlib.Logic.Function.Basic

/-!
# Rotating credentials

A credential is opened for a root, may be exchanged for a fresh one of the same root, and may be
closed. What is exchanged or closed is dead from then on, so a root never has two live credentials.
-/

namespace Sessionless.Lib

structure Credentials (K R : Type) where
  root : K → Option R
  live : K → Prop
  closed : K → Prop

namespace Credentials

variable {K R : Type} [DecidableEq K] {s s' : Credentials K R}

inductive Step : Credentials K R → Credentials K R → Prop where
  /-- Credentials may die, and only dead ones are newly closed. -/
  | kept {s s' : Credentials K R} (hroot : s'.root = s.root) (hlive : ∀ k, s'.live k → s.live k)
      (hclosed : ∀ k, s'.closed k → s.closed k ∨ ¬ s'.live k) : Step s s'
  | opened {s s' : Credentials K R} (key : K) (r : R) (hfresh : s.root key = none) (hopen : ¬ s.closed key)
      (hnew : ∀ k, s.root k ≠ some r) (hroot : s'.root = Function.update s.root key (some r))
      (hlive : ∀ k, s'.live k → k = key ∨ s.live k) (hclosed : s'.closed = s.closed) : Step s s'
  | rotated {s s' : Credentials K R} (key next : K) (hkey : s.live key) (hfresh : s.root next = none)
      (hopen : ¬ s.closed next) (hroot : s'.root = Function.update s.root next (s.root key))
      (hlive : ∀ k, s'.live k → k = next ∨ k ≠ key ∧ s.live k) (hne : next ≠ key)
      (hclosed : ∀ k, s'.closed k → s.closed k ∨ k = key) : Step s s'

structure Sound (s : Credentials K R) : Prop where
  rooted : ∀ k, s.live k → s.root k ≠ none
  unique : ∀ k k' r, s.live k → s.live k' → s.root k = some r → s.root k' = some r → k = k'
  dead : ∀ k, s.closed k → ¬ s.live k

theorem Step.rooted (h : Step s s') (hs : s.Sound) (k : K) (hk : s'.live k) : s'.root k ≠ none := by
  cases h with
  | kept hroot hlive hclosed =>
    rw [hroot]
    exact hs.rooted k (hlive k hk)
  | opened key r hfresh hopen hnew hroot hlive hclosed =>
    rw [hroot]
    by_cases hkey : k = key
    · simp [hkey]
    · rw [Function.update_of_ne hkey]
      exact hs.rooted k ((hlive k hk).resolve_left hkey)
  | rotated key next hkey hfresh hopen hroot hlive hne hclosed =>
    rw [hroot]
    by_cases hnext : k = next
    · rw [hnext, Function.update_self]
      exact hs.rooted key hkey
    · rw [Function.update_of_ne hnext]
      exact hs.rooted k ((hlive k hk).resolve_left hnext).2

theorem Step.unique (h : Step s s') (hs : s.Sound) (k k' : K) (r : R) (hk : s'.live k) (hk' : s'.live k')
    (hr : s'.root k = some r) (hr' : s'.root k' = some r) : k = k' := by
  cases h with
  | kept hroot hlive hclosed =>
    rw [hroot] at hr hr'
    exact hs.unique k k' r (hlive k hk) (hlive k' hk') hr hr'
  | opened key r₀ hfresh hopen hnew hroot hlive hclosed =>
    rw [hroot] at hr hr'
    by_cases hkey : k = key <;> by_cases hkey' : k' = key
    · rw [hkey, hkey']
    · -- the root of the opened credential is new
      rw [hkey, Function.update_self] at hr
      rw [Function.update_of_ne hkey'] at hr'
      exact absurd (hr'.trans hr.symm) (hnew k')
    · rw [hkey', Function.update_self] at hr'
      rw [Function.update_of_ne hkey] at hr
      exact absurd (hr.trans hr'.symm) (hnew k)
    · rw [Function.update_of_ne hkey] at hr
      rw [Function.update_of_ne hkey'] at hr'
      exact hs.unique k k' r ((hlive k hk).resolve_left hkey) ((hlive k' hk').resolve_left hkey') hr hr'
  | rotated key next hkey hfresh hopen hroot hlive hne hclosed =>
    rw [hroot] at hr hr'
    -- a live credential of the same root other than `next` would have been `key`
    have hold : ∀ j, s'.live j → j ≠ next → s.root key = some r → Function.update s.root next (s.root key) j = some r → False := by
      intro j hj hjn hkr hjr
      obtain ⟨hjk, hjl⟩ := (hlive j hj).resolve_left hjn
      rw [Function.update_of_ne hjn] at hjr
      exact hjk (hs.unique j key r hjl hkey hjr hkr)
    by_cases hn : k = next <;> by_cases hn' : k' = next
    · rw [hn, hn']
    · rw [hn, Function.update_self] at hr
      exact absurd hr' (hold k' hk' hn' hr)
    · rw [hn', Function.update_self] at hr'
      exact absurd hr (hold k hk hn hr')
    · rw [Function.update_of_ne hn] at hr
      rw [Function.update_of_ne hn'] at hr'
      exact hs.unique k k' r ((hlive k hk).resolve_left hn).2 ((hlive k' hk').resolve_left hn').2 hr hr'

theorem Step.dead (h : Step s s') (hs : s.Sound) (k : K) (hk : s'.closed k) : ¬ s'.live k := by
  intro hl
  cases h with
  | kept hroot hlive hclosed =>
    cases hclosed k hk with
    | inl hc => exact hs.dead k hc (hlive k hl)
    | inr hd => exact hd hl
  | opened key r hfresh hopen hnew hroot hlive hclosed =>
    rw [hclosed] at hk
    cases hlive k hl with
    | inl hkey => exact hopen (hkey ▸ hk)
    | inr hold => exact hs.dead k hk hold
  | rotated key next hkey hfresh hopen hroot hlive hne hclosed =>
    cases hclosed k hk with
    | inl hc =>
      cases hlive k hl with
      | inl hnext => exact hopen (hnext ▸ hc)
      | inr hold => exact hs.dead k hc hold.2
    | inr hke =>
      cases hlive k hl with
      | inl hnext => exact hne (hnext.symm.trans hke)
      | inr hold => exact hold.1 hke

theorem Step.sound (h : Step s s') (hs : s.Sound) : s'.Sound :=
  ⟨h.rooted hs, h.unique hs, h.dead hs⟩

end Credentials

end Sessionless.Lib
