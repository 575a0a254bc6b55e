import Mathlib.Data.Int.Log
import Mathlib.Data.Rat.Floor

/-!
# Rounding to the double-precision format

A rational number is rounded to the nearest multiple of the spacing that doubles have at its magnitude, a tie going to
the even multiple. Which magnitudes overflow, and which vanish.
-/

namespace Sessionless.Lib.Binary64

/-- The nearest integer, and of two that are equally near the even one. -/
def roundEven (x : ℚ) : ℤ :=
  if x - ⌊x⌋ < 1 / 2 then ⌊x⌋
  else if 1 / 2 < x - ⌊x⌋ then ⌊x⌋ + 1
  else if ⌊x⌋ % 2 = 0 then ⌊x⌋ else ⌊x⌋ + 1

/-- How far apart the doubles around a magnitude are: 53 binary digits, and no finer than the subnormal numbers. -/
def spacing (magnitude : ℚ) : ℚ :=
  if magnitude < 2 ^ (-1022 : ℤ) then 2 ^ (-1074 : ℤ) else 2 ^ (Int.log 2 magnitude - 52)

def roundMagnitude (magnitude : ℚ) : Option ℚ :=
  let rounded := roundEven (magnitude / spacing magnitude) * spacing magnitude
  if rounded < 2 ^ (1024 : ℤ) then some rounded else none

/-- The double nearest to a number, or none where it would be infinite. -/
def round (x : ℚ) : Option ℚ := (roundMagnitude |x|).map fun magnitude => if x < 0 then -magnitude else magnitude

/-! ## Rounding to an integer -/

theorem le_roundEven_of_even {k} (hk : k % 2 = 0) (x : ℚ) : k ≤ roundEven x ↔ (k : ℚ) - 1 / 2 ≤ x := by
  have hle := Int.floor_le x
  have hlt := Int.lt_floor_add_one x
  rcases lt_trichotomy k (⌊x⌋ + 1) with hlow | rfl | hhigh
  · have hfloor : (k : ℚ) ≤ ⌊x⌋ := by exact_mod_cast Int.lt_add_one_iff.mp hlow
    refine iff_of_true ?_ (by linarith)
    unfold roundEven
    split_ifs <;> omega
  · push_cast
    unfold roundEven
    split_ifs with hbelow habove heven
    · exact iff_of_false (by omega) (by linarith)
    · exact iff_of_true le_rfl (by linarith)
    · omega
    · exact iff_of_true le_rfl (by linarith)
  · have hfloor : (⌊x⌋ : ℚ) + 2 ≤ k := by exact_mod_cast (by omega : ⌊x⌋ + 2 ≤ k)
    refine iff_of_false ?_ (by linarith)
    unfold roundEven
    split_ifs <;> omega

theorem roundEven_le (x : ℚ) : (roundEven x : ℚ) ≤ x + 1 / 2 := by
  have hle := Int.floor_le x
  unfold roundEven
  split_ifs with hbelow habove heven
  · linarith
  · push_cast
    linarith
  · linarith
  · push_cast
    linarith

theorem roundEven_eq_zero {x} (hx : 0 ≤ x) : roundEven x = 0 ↔ x ≤ 1 / 2 := by
  have hle := Int.floor_le x
  have hlt := Int.lt_floor_add_one x
  have hnonneg : 0 ≤ ⌊x⌋ := Int.floor_nonneg.mpr hx
  rcases hnonneg.eq_or_lt with hzero | hpos
  · rw [← hzero] at hle hlt
    unfold roundEven
    rw [← hzero]
    push_cast at hle hlt ⊢
    split_ifs with hbelow habove
    · exact iff_of_true rfl (by linarith)
    · exact iff_of_false (by omega) (by linarith)
    · exact iff_of_true rfl (by linarith)
  · have hone : (1 : ℚ) ≤ ⌊x⌋ := by exact_mod_cast hpos
    refine iff_of_false ?_ (by linarith)
    unfold roundEven
    split_ifs <;> omega

/-! ## Spacing -/

theorem two_zpow_pos (n : ℤ) : (0 : ℚ) < 2 ^ n := zpow_pos two_pos n

theorem spacing_pos (magnitude : ℚ) : 0 < spacing magnitude := by
  unfold spacing
  split_ifs
  · exact two_zpow_pos _
  · exact two_zpow_pos _

theorem normal_ratio {magnitude} (h : ¬ magnitude < 2 ^ (-1022 : ℤ)) :
    2 ^ (52 : ℤ) ≤ magnitude / spacing magnitude ∧ magnitude / spacing magnitude < 2 ^ (53 : ℤ) := by
  have hpos : (0 : ℚ) < magnitude := lt_of_lt_of_le (two_zpow_pos _) (not_lt.mp h)
  have hlow : (2 : ℚ) ^ Int.log 2 magnitude ≤ magnitude := by
    exact_mod_cast Int.zpow_log_le_self (R := ℚ) Nat.one_lt_two hpos
  have hhigh : magnitude < (2 : ℚ) ^ (Int.log 2 magnitude + 1) := by
    exact_mod_cast Int.lt_zpow_succ_log_self (R := ℚ) Nat.one_lt_two magnitude
  rw [spacing, if_neg h, le_div_iff₀ (two_zpow_pos _), div_lt_iff₀ (two_zpow_pos _), ← zpow_add₀ two_ne_zero,
    ← zpow_add₀ two_ne_zero]
  constructor
  · rwa [show (52 : ℤ) + (Int.log 2 magnitude - 52) = Int.log 2 magnitude by omega]
  · rwa [show (53 : ℤ) + (Int.log 2 magnitude - 52) = Int.log 2 magnitude + 1 by omega]

/-! ## What vanishes and what overflows -/

theorem roundMagnitude_zero {magnitude} (h : 0 ≤ magnitude) :
    roundMagnitude magnitude = some 0 ↔ magnitude ≤ 2 ^ (-1075 : ℤ) := by
  have hratio : 0 ≤ magnitude / spacing magnitude := div_nonneg h (spacing_pos _).le
  have hzero : roundMagnitude magnitude = some 0 ↔ magnitude / spacing magnitude ≤ 1 / 2 := by
    rw [← roundEven_eq_zero hratio]
    simp only [roundMagnitude]
    constructor
    · intro hround
      split_ifs at hround
      simpa [(spacing_pos magnitude).ne'] using hround
    · intro hround
      simp [hround, if_pos (two_zpow_pos 1024)]
  rw [hzero]
  by_cases hsmall : magnitude < 2 ^ (-1022 : ℤ)
  · rw [spacing, if_pos hsmall, div_le_iff₀ (two_zpow_pos _)]
    have hhalf : (1 / 2 : ℚ) * 2 ^ (-1074 : ℤ) = 2 ^ (-1075 : ℤ) := by
      rw [show (1 / 2 : ℚ) = 2 ^ (-1 : ℤ) by norm_num, ← zpow_add₀ two_ne_zero]
      rfl
    rw [hhalf]
  · have hlarge := (normal_ratio hsmall).1
    refine iff_of_false ?_ ?_
    · have : (1 / 2 : ℚ) < 2 ^ (52 : ℤ) := by norm_num
      linarith
    · have hlt : (2 : ℚ) ^ (-1075 : ℤ) < 2 ^ (-1022 : ℤ) := zpow_lt_zpow_right₀ one_lt_two (by decide)
      exact not_le.mpr (hlt.trans_le (not_lt.mp hsmall))

theorem reaches {magnitude : ℚ} {k : ℤ} (hk : k % 2 = 0) :
    k * spacing magnitude ≤ roundEven (magnitude / spacing magnitude) * spacing magnitude ↔
      (k - 1 / 2) * spacing magnitude ≤ magnitude := by
  have hpos := spacing_pos magnitude
  rw [mul_le_mul_iff_left₀ hpos, Int.cast_le, le_roundEven_of_even hk, le_div_iff₀ hpos]

theorem rounded_lt {magnitude} (h : magnitude < 2 ^ (1023 : ℤ)) :
    roundEven (magnitude / spacing magnitude) * spacing magnitude < 2 ^ (1024 : ℤ) := by
  have hpos := spacing_pos magnitude
  have hfine : spacing magnitude ≤ 2 ^ (1023 : ℤ) := by
    by_cases hsmall : magnitude < 2 ^ (-1022 : ℤ)
    · rw [spacing, if_pos hsmall]
      exact zpow_le_zpow_right₀ one_le_two (by decide)
    · have hone : (1 : ℚ) ≤ 2 ^ (52 : ℤ) := by norm_num
      have hratio := hone.trans (normal_ratio hsmall).1
      rw [le_div_iff₀ hpos, one_mul] at hratio
      exact hratio.trans h.le
  have hdouble : (2 : ℚ) ^ (1024 : ℤ) = 2 * 2 ^ (1023 : ℤ) := (zpow_one_add₀ two_ne_zero 1023)
  calc roundEven (magnitude / spacing magnitude) * spacing magnitude
      ≤ (magnitude / spacing magnitude + 1 / 2) * spacing magnitude := by
        exact mul_le_mul_of_nonneg_right (roundEven_le _) hpos.le
    _ = magnitude + 1 / 2 * spacing magnitude := by rw [add_mul, div_mul_cancel₀ _ hpos.ne']
    _ < 2 ^ (1024 : ℤ) := by
        rw [hdouble]
        generalize (2 : ℚ) ^ (1023 : ℤ) = half at h hfine ⊢
        linarith

theorem roundMagnitude_none {magnitude : ℚ} :
    roundMagnitude magnitude = none ↔ 2 ^ (1024 : ℤ) - 2 ^ (970 : ℤ) ≤ magnitude := by
  have hnone : roundMagnitude magnitude = none ↔
      2 ^ (1024 : ℤ) ≤ roundEven (magnitude / spacing magnitude) * spacing magnitude := by
    simp [roundMagnitude]
  have hdouble : (2 : ℚ) ^ (1024 : ℤ) = 2 * 2 ^ (1023 : ℤ) := (zpow_one_add₀ two_ne_zero 1023)
  have hstep : (2 : ℚ) ^ (970 : ℤ) < 2 ^ (1023 : ℤ) := zpow_lt_zpow_right₀ one_lt_two (by decide)
  rw [hnone]
  rcases lt_or_ge magnitude (2 ^ (1023 : ℤ)) with hlow | hlow
  · refine iff_of_false (not_le.mpr (rounded_lt hlow)) (not_le.mpr ?_)
    rw [hdouble]
    generalize (2 : ℚ) ^ (1023 : ℤ) = half at hlow hstep ⊢
    generalize (2 : ℚ) ^ (970 : ℤ) = step at hstep ⊢
    linarith
  have hpos : (0 : ℚ) < magnitude := (two_zpow_pos _).trans_le hlow
  have hnormal : ¬ magnitude < 2 ^ (-1022 : ℤ) :=
    not_lt.mpr ((zpow_le_zpow_right₀ one_le_two (by decide)).trans hlow)
  rcases lt_or_ge magnitude (2 ^ (1024 : ℤ)) with hhigh | hhigh
  · -- The last binade: doubles are 2 ^ 971 apart, and the end of the range is their multiple by 2 ^ 53.
    have hlog : Int.log 2 magnitude = 1023 := by
      have hge : 1023 ≤ Int.log 2 magnitude :=
        (Int.zpow_le_iff_le_log Nat.one_lt_two hpos).mp (by exact_mod_cast hlow)
      have hlt : Int.log 2 magnitude < 1024 :=
        (Int.lt_zpow_iff_log_lt Nat.one_lt_two hpos).mp (by exact_mod_cast hhigh)
      omega
    have hspacing : spacing magnitude = 2 ^ (971 : ℤ) := by
      rw [spacing, if_neg hnormal, hlog]
      rfl
    have hend : (2 : ℚ) ^ (1024 : ℤ) = ((2 ^ 53 : ℤ) : ℚ) * spacing magnitude := by
      rw [hspacing, Int.cast_pow, Int.cast_ofNat, ← zpow_natCast, ← zpow_add₀ two_ne_zero]
      rfl
    have hhalf : (2 : ℚ) ^ (970 : ℤ) = 1 / 2 * spacing magnitude := by
      rw [hspacing, show (1 / 2 : ℚ) = 2 ^ (-1 : ℤ) by norm_num, ← zpow_add₀ two_ne_zero]
      rfl
    rw [hhalf, hend, reaches (by decide), sub_mul]
  · refine iff_of_true ?_ ((sub_le_self _ (two_zpow_pos 970).le).trans hhigh)
    have hratio := (normal_ratio hnormal).1
    rw [le_div_iff₀ (spacing_pos _)] at hratio
    have hlog : 1024 ≤ Int.log 2 magnitude :=
      (Int.zpow_le_iff_le_log Nat.one_lt_two hpos).mp (by exact_mod_cast hhigh)
    have hend : (2 : ℚ) ^ (1024 : ℤ) ≤ ((2 ^ 52 : ℤ) : ℚ) * spacing magnitude := by
      rw [spacing, if_neg hnormal, Int.cast_pow, Int.cast_ofNat, ← zpow_natCast, ← zpow_add₀ two_ne_zero]
      exact zpow_le_zpow_right₀ one_le_two (by push_cast; omega)
    refine hend.trans ((reaches (by decide)).mpr ?_)
    have hcast : ((2 ^ 52 : ℤ) : ℚ) = 2 ^ (52 : ℤ) := by norm_num
    rw [hcast, sub_mul]
    exact (sub_le_self _ (mul_nonneg (by norm_num) (spacing_pos magnitude).le)).trans hratio

theorem round_none (x : ℚ) : round x = none ↔ 2 ^ (1024 : ℤ) - 2 ^ (970 : ℤ) ≤ |x| := by
  rw [round, Option.map_eq_none_iff, roundMagnitude_none]

theorem round_zero (x : ℚ) : round x = some 0 ↔ |x| ≤ 2 ^ (-1075 : ℤ) := by
  have hsign : ∀ magnitude : ℚ, (if x < 0 then -magnitude else magnitude) = 0 ↔ magnitude = 0 := by
    intro magnitude
    split_ifs
    · exact neg_eq_zero
    · rfl
  rw [round, Option.map_eq_some_iff, ← roundMagnitude_zero (abs_nonneg x)]
  simp only [hsign, exists_eq_right]

end Sessionless.Lib.Binary64
