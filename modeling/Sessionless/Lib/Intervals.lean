import Mathlib.Order.Lattice

/-!
# Joining overlapping intervals

One sweep over half-open intervals, ordered by where they start, joins those that overlap. When every position is the
start of one of them, the result tiles the whole range, keeps each interval whole and is the finest such tiling.
-/

namespace Sessionless.Lib

/-- The positions from `start` to before `stop`. -/
structure Interval (α : Type) where
  start : Nat
  stop : Nat
  label : α
deriving DecidableEq, Repr

namespace Interval

variable {α : Type}

/-- One interval lies in another. -/
def Within (a b : Interval α) : Prop := b.start ≤ a.start ∧ a.stop ≤ b.stop

/-- The intervals follow one another without a gap, none of them empty. -/
def Tiles : Nat → List (Interval α) → Nat → Prop
  | first, [], stop => first = stop
  | first, u :: us, stop => u.start = first ∧ u.start < u.stop ∧ Tiles u.stop us stop

/-- Joins what follows to the last interval for as long as it overlaps, and then starts a new one. -/
def sweepFrom (last : Interval α) : List (Interval α) → List (Interval α)
  | [] => [last]
  | span :: spans =>
    if span.start < last.stop then sweepFrom { last with stop := max last.stop span.stop } spans
    else last :: sweepFrom span spans

def sweep : List (Interval α) → List (Interval α)
  | [] => []
  | span :: spans => sweepFrom span spans

/-! ## Tilings -/

theorem Tiles.le {us : List (Interval α)} {first stop} (h : Tiles first us stop) : first ≤ stop := by
  induction us generalizing first with
  | nil => exact Nat.le_of_eq h
  | cons u us ih =>
    obtain ⟨rfl, hlt, htail⟩ := h
    exact hlt.le.trans (ih htail)

theorem Tiles.bounds {us : List (Interval α)} {first stop u} (h : Tiles first us stop) (hu : u ∈ us) :
    first ≤ u.start ∧ u.start < u.stop ∧ u.stop ≤ stop := by
  induction us generalizing first with
  | nil => cases hu
  | cons v us ih =>
    obtain ⟨rfl, hlt, htail⟩ := h
    cases hu with
    | head => exact ⟨le_refl _, hlt, htail.le⟩
    | tail _ hu =>
      obtain ⟨h1, h2⟩ := ih htail hu
      exact ⟨hlt.le.trans h1, h2⟩

theorem Tiles.apart {us : List (Interval α)} {first stop u v} (h : Tiles first us stop) (hu : u ∈ us) (hv : v ∈ us) :
    u = v ∨ u.stop ≤ v.start ∨ v.stop ≤ u.start := by
  induction us generalizing first with
  | nil => cases hu
  | cons w us ih =>
    obtain ⟨rfl, -, htail⟩ := h
    cases hu with
    | head =>
      cases hv with
      | head => exact .inl rfl
      | tail _ hv => exact .inr (.inl (htail.bounds hv).1)
    | tail _ hu =>
      cases hv with
      | head => exact .inr (.inr (htail.bounds hu).1)
      | tail _ hv => exact ih htail hu hv

/-- Every position in the range is in one of the intervals. -/
theorem Tiles.at {us : List (Interval α)} {first stop i} (h : Tiles first us stop) (hf : first ≤ i) (hi : i < stop) :
    ∃ u ∈ us, u.start ≤ i ∧ i < u.stop := by
  induction us generalizing first with
  | nil =>
    simp only [Tiles] at h
    omega
  | cons u us ih =>
    obtain ⟨rfl, -, htail⟩ := h
    by_cases hlt : i < u.stop
    · exact ⟨u, List.mem_cons_self, hf, hlt⟩
    · obtain ⟨v, hv, hin⟩ := ih htail (not_lt.1 hlt)
      exact ⟨v, List.mem_cons_of_mem _ hv, hin⟩

/-! ## The sweep -/

/-- What the sweep makes of `spans`. -/
structure Swept (spans units : List (Interval α)) : Prop where
  kept : ∀ span ∈ spans, ∃ u ∈ units, span.Within u
  joined : ∀ u ∈ units, ∀ b, u.start < b → b < u.stop → ∃ span ∈ spans, span.start < b ∧ b < span.stop
  opened : ∀ u ∈ units, ∃ span ∈ spans, span.Within u ∧ u.label = span.label

theorem swept_sweepFrom {last : Interval α} {spans} (h : (last :: spans).Pairwise fun a b => a.start ≤ b.start) :
    Swept (last :: spans) (sweepFrom last spans) := by
  induction spans generalizing last with
  | nil =>
    simp only [sweepFrom]
    exact { kept := fun span hspan => ⟨span, hspan, le_refl _, le_refl _⟩
            joined := fun u hu b hb hb' => ⟨u, hu, hb, hb'⟩
            opened := fun u hu => ⟨u, hu, ⟨le_refl _, le_refl _⟩, rfl⟩ }
  | cons span spans ih =>
    rw [List.pairwise_cons, List.pairwise_cons] at h
    obtain ⟨hlast, hspan, hspans⟩ := h
    have hle := hlast span List.mem_cons_self
    simp only [sweepFrom]
    split
    · rename_i hlt
      have hi := @ih { last with stop := max last.stop span.stop }
        (List.pairwise_cons.2 ⟨fun s hs => hle.trans (hspan s hs), hspans⟩)
      obtain ⟨u, hu, hstart, hstop⟩ := hi.kept _ List.mem_cons_self
      constructor
      · intro s hs
        rcases List.mem_cons.1 hs with rfl | hs
        · exact ⟨u, hu, hstart, (le_max_left _ _).trans hstop⟩
        · rcases List.mem_cons.1 hs with rfl | hs
          · exact ⟨u, hu, le_trans hstart hle, (le_max_right _ _).trans hstop⟩
          · exact hi.kept s (List.mem_cons_of_mem _ hs)
      · intro v hv b hb hb'
        obtain ⟨s, hs, hin⟩ := hi.joined v hv b hb hb'
        rcases List.mem_cons.1 hs with rfl | hs
        · -- a position inside the joined interval is inside one of the two
          by_cases hb : b < last.stop
          · exact ⟨last, by simp, hin.1, hb⟩
          · exact ⟨span, by simp, by omega, by simp only at hin; omega⟩
        · exact ⟨s, by simp [hs], hin⟩
      · intro v hv
        obtain ⟨s, hs, hin, hlabel⟩ := hi.opened v hv
        rcases List.mem_cons.1 hs with rfl | hs
        · exact ⟨last, by simp, ⟨hin.1, (le_max_left _ _).trans hin.2⟩, hlabel⟩
        · exact ⟨s, by simp [hs], hin, hlabel⟩
    · have hi := ih (List.pairwise_cons.2 ⟨hspan, hspans⟩)
      constructor
      · intro s hs
        rcases List.mem_cons.1 hs with rfl | hs
        · exact ⟨s, by simp, le_refl _, le_refl _⟩
        · obtain ⟨u, hu, hin⟩ := hi.kept s hs
          exact ⟨u, by simp [hu], hin⟩
      · intro v hv b hb hb'
        rcases List.mem_cons.1 hv with rfl | hv
        · exact ⟨v, by simp, hb, hb'⟩
        · obtain ⟨s, hs, hin⟩ := hi.joined v hv b hb hb'
          exact ⟨s, List.mem_cons_of_mem _ hs, hin⟩
      · intro v hv
        rcases List.mem_cons.1 hv with rfl | hv
        · exact ⟨v, by simp, ⟨le_refl _, le_refl _⟩, rfl⟩
        · obtain ⟨s, hs, hin⟩ := hi.opened v hv
          exact ⟨s, List.mem_cons_of_mem _ hs, hin⟩

/-- With an interval at every position, the sweep leaves no gap. -/
theorem tiles_sweepFrom {last : Interval α} {spans n} (h : spans.Pairwise fun a b => a.start ≤ b.start)
    (hne : last.start < last.stop) (hspans : ∀ span ∈ spans, span.start < span.stop ∧ span.stop ≤ n)
    (hn : last.stop ≤ n) (hat : ∀ i, last.stop ≤ i → i < n → ∃ span ∈ spans, span.start = i) :
    Tiles last.start (sweepFrom last spans) n := by
  induction spans generalizing last with
  | nil =>
    refine ⟨rfl, hne, le_antisymm hn (not_lt.1 fun hlt => ?_)⟩
    obtain ⟨s, hs, -⟩ := hat last.stop (le_refl _) hlt
    cases hs
  | cons span spans ih =>
    rw [List.pairwise_cons] at h
    obtain ⟨hspan, hstop⟩ := hspans span List.mem_cons_self
    have htail := fun s hs => hspans s (List.mem_cons_of_mem _ hs)
    simp only [sweepFrom]
    split
    · rename_i hlt
      refine @ih { last with stop := max last.stop span.stop } h.2 (lt_of_lt_of_le hne (le_max_left _ _)) htail
        (max_le hn hstop) fun i hi hin => ?_
      obtain ⟨s, hs, hstart⟩ := hat i ((le_max_left _ _).trans hi) hin
      rcases List.mem_cons.1 hs with rfl | hs
      · have := (le_max_right last.stop s.stop).trans hi
        omega
      · exact ⟨s, hs, hstart⟩
    · rename_i hge
      -- the position after the last interval starts one, and none starts before this one
      obtain ⟨s, hs, hstart⟩ := hat last.stop (le_refl _) (by omega)
      have hle : span.start ≤ s.start := by
        rcases List.mem_cons.1 hs with rfl | hs
        · exact le_refl _
        · exact h.1 s hs
      refine ⟨rfl, hne, ?_⟩
      rw [show last.stop = span.start by omega]
      refine ih h.2 hspan htail hstop fun i hi hin => ?_
      obtain ⟨s, hs, hstart⟩ := hat i (by omega) hin
      rcases List.mem_cons.1 hs with rfl | hs
      · omega
      · exact ⟨s, hs, hstart⟩

theorem swept_sweep {spans : List (Interval α)} (h : spans.Pairwise fun a b => a.start ≤ b.start) :
    Swept spans (sweep spans) := by
  cases spans with
  | nil => exact ⟨by simp, by simp [sweep], by simp [sweep]⟩
  | cons span spans => exact swept_sweepFrom h

theorem tiles_sweep {spans : List (Interval α)} {n} (h : spans.Pairwise fun a b => a.start ≤ b.start)
    (hspans : ∀ span ∈ spans, span.start < span.stop ∧ span.stop ≤ n)
    (hat : ∀ i < n, ∃ span ∈ spans, span.start = i) : Tiles 0 (sweep spans) n := by
  cases spans with
  | nil =>
    refine (Nat.eq_zero_of_not_pos fun hn => ?_).symm
    obtain ⟨s, hs, -⟩ := hat 0 hn
    cases hs
  | cons span spans =>
    rw [List.pairwise_cons] at h
    obtain ⟨hne, hn⟩ := hspans span List.mem_cons_self
    obtain ⟨s, hs, hs0⟩ := hat 0 (by omega)
    have hzero : span.start = 0 := by
      rcases List.mem_cons.1 hs with rfl | hs
      · exact hs0
      · exact Nat.le_zero.1 (hs0 ▸ h.1 s hs)
    rw [← hzero]
    refine tiles_sweepFrom h.2 hne (fun s hs => hspans s (List.mem_cons_of_mem _ hs)) hn fun i hi hin => ?_
    obtain ⟨s, hs, rfl⟩ := hat i hin
    rcases List.mem_cons.1 hs with rfl | hs
    · omega
    · exact ⟨s, hs, rfl⟩

/-- Any other tiling that keeps the intervals whole is coarser. -/
theorem Swept.refines {spans units parts : List (Interval α)} {n} (h : Swept spans units) (htiles : Tiles 0 units n)
    (hparts : Tiles 0 parts n) (hkept : ∀ span ∈ spans, ∃ p ∈ parts, span.Within p) {u} (hu : u ∈ units) :
    ∃ p ∈ parts, u.Within p := by
  obtain ⟨-, hlt, hstop⟩ := htiles.bounds hu
  obtain ⟨p, hp, hstart, hin⟩ := hparts.at (Nat.zero_le _) (lt_of_lt_of_le hlt hstop)
  refine ⟨p, hp, hstart, not_lt.1 fun hend => ?_⟩
  obtain ⟨s, hs, hs1, hs2⟩ := h.joined u hu p.stop hin hend
  obtain ⟨q, hq, hq1, hq2⟩ := hkept s hs
  have hpne := (hparts.bounds hp).2.1
  rcases hparts.apart hp hq with rfl | hpq | hpq <;> omega

end Interval

end Sessionless.Lib
