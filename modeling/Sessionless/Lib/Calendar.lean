import Mathlib.Tactic.IntervalCases
import Sessionless.Lib.Encoding

/-!
# Calendar times

Days and seconds of the proleptic Gregorian calendar, and the RFC 3339 text of a time with an
offset as Go writes it. A time is the number of nanoseconds since the start of the year 1.
-/

namespace Sessionless.Lib.Calendar

/-! ## Days -/

structure Date where
  year : Int
  month : Int
  day : Int
deriving DecidableEq, Repr

/-- Years are counted from March, in eras of 400 years, so that the leap day is the last day of a year. -/
def dateOfDays (days : Int) : Date :=
  let era := (days + 306) / 146097
  let dayOfEra := (days + 306) % 146097
  let yearOfEra := (dayOfEra - dayOfEra / 1460 + dayOfEra / 36524 - dayOfEra / 146096) / 365
  let dayOfYear := dayOfEra - (365 * yearOfEra + yearOfEra / 4 - yearOfEra / 100)
  let shifted := (5 * dayOfYear + 2) / 153
  let month := if shifted < 10 then shifted + 3 else shifted - 9
  { year := yearOfEra + era * 400 + (if month ≤ 2 then 1 else 0)
    month := month
    day := dayOfYear - (153 * shifted + 2) / 5 + 1 }

/-! ## Text -/

def nanosecondsPerDay : Int := 86400000000000

/-- Decimal digits, zero-padded to the width where they are fewer. -/
def padded (width n : Nat) : List Char :=
  if n < 10 ^ width then paddedDecimal width n else Nat.toDigits 10 n

/-- The year has four digits at least, and a sign before the year zero. -/
def yearText (year : Int) : List Char :=
  if year < 0 then '-' :: padded 4 year.natAbs else padded 4 year.natAbs

def fractionText (nanosecond : Nat) : List Char :=
  if nanosecond = 0 then []
  else '.' :: ((paddedDecimal 9 nanosecond).reverse.dropWhile (· = '0')).reverse

/-- The seconds of an offset are dropped. -/
def offsetText (offset : Int) : List Char :=
  if offset = 0 then ['Z']
  else
    let minutes := offset.tdiv 60
    (if minutes < 0 then '-' else '+') :: padded 2 (minutes.natAbs / 60) ++ ':' :: padded 2 (minutes.natAbs % 60)

/-- The date and the time of day of nanoseconds since the start of the year 1. -/
def dateTimeText (time : Int) : List Char :=
  let date := dateOfDays (time / nanosecondsPerDay)
  let ofDay := (time % nanosecondsPerDay).toNat
  let seconds := ofDay / 1000000000
  yearText date.year ++ '-' :: padded 2 date.month.toNat ++ '-' :: padded 2 date.day.toNat ++
    'T' :: padded 2 (seconds / 3600) ++ ':' :: padded 2 (seconds / 60 % 60) ++ ':' :: padded 2 (seconds % 60) ++
    fractionText (ofDay % 1000000000)

/-- `t.Format(time.RFC3339Nano)` for an instant seen at an offset of so many seconds east of UTC. -/
def rfc3339Nano (instant offset : Int) : String :=
  String.ofList (dateTimeText (instant + offset * 1000000000) ++ offsetText offset)

/-! ## A time is read back from its text -/

theorem yearStart_le {day : Int} (h : 0 ≤ day) (h' : day < 146097) :
    365 * ((day - day / 1460 + day / 36524 - day / 146096) / 365) +
      (day - day / 1460 + day / 36524 - day / 146096) / 365 / 4 -
      (day - day / 1460 + day / 36524 - day / 146096) / 365 / 100 ≤ day := by
  generalize hyear : (day - day / 1460 + day / 36524 - day / 146096) / 365 = year
  have hcentury : day / 36524 ≤ day / 1460 := by omega
  have hleap : year / 4 ≤ day / 1460 := by omega
  have hlater : day = 146096 ∨ day / 36524 ≤ year / 100 := by omega
  omega

/-- The days from the year, the month counted from March, and the day. -/
theorem dateOfDays_spec (days : Int) : ∃ era year month : Int, (0 ≤ year ∧ year < 400) ∧ (0 ≤ month ∧ month < 12) ∧
    dateOfDays days = ⟨year + era * 400 + (if month < 10 then 0 else 1), if month < 10 then month + 3 else month - 9,
      (dateOfDays days).day⟩ ∧ (1 ≤ (dateOfDays days).day ∧ (dateOfDays days).day ≤ 31) ∧
    days + 306 = era * 146097 + (365 * year + year / 4 - year / 100) +
      ((dateOfDays days).day - 1 + (153 * month + 2) / 5) := by
  have hstart := @yearStart_le ((days + 306) % 146097) (by omega) (by omega)
  simp only [dateOfDays]
  generalize hyear : ((days + 306) % 146097 - (days + 306) % 146097 / 1460 + (days + 306) % 146097 / 36524 -
    (days + 306) % 146097 / 146096) / 365 = year at hstart ⊢
  generalize hday : (days + 306) % 146097 - (365 * year + year / 4 - year / 100) = day
  refine ⟨(days + 306) / 146097, year, (5 * day + 2) / 153, by omega, by omega, ?_, by omega, by omega⟩
  simp only [Date.mk.injEq, and_true]
  split_ifs <;> omega

theorem dateOfDays_inj {m n} (h : dateOfDays m = dateOfDays n) : m = n := by
  obtain ⟨era, year, month, hyear, hmonth, hdate, -, hm⟩ := dateOfDays_spec m
  obtain ⟨era', year', month', hyear', hmonth', hdate', -, hn⟩ := dateOfDays_spec n
  rw [h] at hdate hm
  rw [hdate'] at hdate
  simp only [Date.mk.injEq, and_true] at hdate
  obtain rfl : month = month' := by
    have hsame := hdate.2
    split_ifs at hsame <;> omega
  omega

theorem digitChar_inj {m n} (hm : m < 10) (hn : n < 10) (h : Nat.digitChar m = Nat.digitChar n) : m = n := by
  interval_cases m <;> interval_cases n <;> first | rfl | cases h

theorem paddedDecimal_inj {width m n} (hm : m < 10 ^ width) (hn : n < 10 ^ width)
    (h : paddedDecimal width m = paddedDecimal width n) : m = n := by
  induction width generalizing m n with
  | zero => omega
  | succ width ih =>
    rw [Nat.pow_succ] at hm hn
    obtain ⟨hhigh, hlow⟩ := List.append_inj h (by simp)
    have hdiv := ih (by omega) (by omega) hhigh
    have hmod := digitChar_inj (by omega) (by omega) (List.cons.inj hlow).1
    omega

theorem isDigit_padded (width n : Nat) : ∀ c ∈ padded width n, c.isDigit = true := by
  unfold padded
  split
  · intro c hc
    induction width generalizing n with
    | zero => cases hc
    | succ width ih =>
      rcases List.mem_append.1 hc with hc | hc
      · exact ih (n / 10) (by rw [Nat.pow_succ] at *; omega) hc
      · rw [List.mem_singleton.1 hc, Nat.isDigit_digitChar]
        exact decide_eq_true (Nat.mod_lt _ (by decide))
  · exact fun c => Nat.isDigit_of_mem_toDigits (by decide) (by decide)

theorem padded_inj {width m n} (hw : 0 < width) (h : padded width m = padded width n) : m = n := by
  have hlength : m < 10 ^ width ↔ n < 10 ^ width := by
    have hlong (k : Nat) : k < 10 ^ width ↔ (padded width k).length ≤ width := by
      unfold padded
      split
      · simpa
      · rw [Nat.length_toDigits_le_iff (by decide) hw]
    rw [hlong m, hlong n, h]
  unfold padded at h
  split_ifs at h with hm hn hn
  · exact paddedDecimal_inj hm hn h
  · exact absurd (hlength.1 hm) hn
  · exact absurd (hlength.2 hn) hm
  · rw [← @Nat.ofDigitChars_ten_toDigits m, h, Nat.ofDigitChars_ten_toDigits]

theorem padded_peel {width m n} {c c' : Char} {rest rest'} (hw : 0 < width) (hc : c.isDigit = false)
    (hc' : c'.isDigit = false) (h : padded width m ++ c :: rest = padded width n ++ c' :: rest') :
    m = n ∧ c :: rest = c' :: rest' := by
  have hread : ∀ {k c rest}, Char.isDigit c = false → (padded width k ++ c :: rest).takeWhile Char.isDigit = padded width k ∧
      (padded width k ++ c :: rest).dropWhile Char.isDigit = c :: rest := by
    intro k c rest hc
    rw [List.takeWhile_append_of_pos (isDigit_padded width k), List.dropWhile_append_of_pos (isDigit_padded width k)]
    simp [hc]
  obtain ⟨htake, hdrop⟩ := @hread m c rest hc
  obtain ⟨htake', hdrop'⟩ := @hread n c' rest' hc'
  rw [h, htake'] at htake
  rw [h, hdrop'] at hdrop
  exact ⟨padded_inj hw htake.symm, hdrop.symm⟩

theorem yearText_peel {m n rest rest'} (h : yearText m ++ '-' :: rest = yearText n ++ '-' :: rest') : m = n ∧ rest = rest' := by
  have hsign : ∀ {k : Nat} {rest rest' : List Char}, '-' :: rest ≠ padded 4 k ++ '-' :: rest' := by
    intro k rest rest' heq
    cases hk : padded 4 k with
    | nil =>
      have hlength := congrArg List.length hk
      unfold padded at hlength
      split at hlength <;> simp at hlength
    | cons c tail =>
      have hdigit := isDigit_padded 4 k c (by simp [hk])
      rw [hk, List.cons_append] at heq
      rw [← (List.cons.inj heq).1] at hdigit
      cases hdigit
  unfold yearText at h
  split_ifs at h with hm hn hn
  · obtain ⟨habs, hrest⟩ := padded_peel (by decide) (by decide) (by decide) (List.cons.inj h).2
    exact ⟨by omega, (List.cons.inj hrest).2⟩
  · exact absurd h hsign
  · exact absurd h.symm hsign
  · obtain ⟨habs, hrest⟩ := padded_peel (by decide) (by decide) (by decide) h
    exact ⟨by omega, (List.cons.inj hrest).2⟩

theorem eq_of_dropWhile_eq {c : Char} {xs ys : List Char} (hlength : xs.length = ys.length)
    (h : xs.dropWhile (· = c) = ys.dropWhile (· = c)) : xs = ys := by
  have hsplit (zs : List Char) : zs = List.replicate (zs.takeWhile (· = c)).length c ++ zs.dropWhile (· = c) := by
    have hall : ∀ x ∈ zs.takeWhile (· = c), x = c := fun x hx => by simpa using List.all_eq_true.1 List.all_takeWhile x hx
    rw [← List.eq_replicate_iff.2 ⟨rfl, hall⟩, List.takeWhile_append_dropWhile]
  have hx := congrArg List.length (hsplit xs)
  have hy := congrArg List.length (hsplit ys)
  simp only [List.length_append, List.length_replicate, h] at hx hy
  rw [hsplit xs, hsplit ys, h, show (xs.takeWhile (· = c)).length = (ys.takeWhile (· = c)).length by omega]

theorem fractionText_inj {m n} (hm : m < 10 ^ 9) (hn : n < 10 ^ 9) (h : fractionText m = fractionText n) : m = n := by
  unfold fractionText at h
  split_ifs at h with hm0 hn0 hn0
  · omega
  · have hdigits := List.reverse_inj.1 (List.cons.inj h).2
    exact paddedDecimal_inj hm hn (List.reverse_inj.1 (eq_of_dropWhile_eq (by simp) hdigits))

theorem fractionText_head (n : Nat) : ∃ c tail, fractionText n ++ ['Z'] = c :: tail ∧ c.isDigit = false := by
  unfold fractionText
  split
  · exact ⟨'Z', [], rfl, rfl⟩
  · exact ⟨'.', _, rfl, rfl⟩

/-- Instants have different texts in UTC. -/
theorem rfc3339Nano_inj {m n} (h : rfc3339Nano m 0 = rfc3339Nano n 0) : m = n := by
  have htext := String.ofList_injective h
  simp only [dateTimeText, offsetText, Int.zero_mul, Int.add_zero, if_true, List.append_assoc, List.cons_append] at htext
  obtain ⟨c, tail, htail, hc⟩ := fractionText_head ((m % nanosecondsPerDay).toNat % 1000000000)
  obtain ⟨c', tail', htail', hc'⟩ := fractionText_head ((n % nanosecondsPerDay).toNat % 1000000000)
  have hpeel : ∀ {width k k' : Nat} {c : Char} {rest rest' : List Char}, 0 < width → c.isDigit = false →
      padded width k ++ c :: rest = padded width k' ++ c :: rest' → k = k' ∧ rest = rest' := by
    intro width k k' c rest rest' hw hc heq
    obtain ⟨hk, hrest⟩ := padded_peel hw hc hc heq
    exact ⟨hk, (List.cons.inj hrest).2⟩
  obtain ⟨hyear, htext⟩ := yearText_peel htext
  obtain ⟨hmonth, htext⟩ := hpeel (by decide) (by decide) htext
  obtain ⟨hday, htext⟩ := hpeel (by decide) (by decide) htext
  obtain ⟨hhour, htext⟩ := hpeel (by decide) (by decide) htext
  obtain ⟨hminute, htext⟩ := hpeel (by decide) (by decide) htext
  rw [htail, htail'] at htext
  obtain ⟨hsecond, htext⟩ := padded_peel (by decide) hc hc' htext
  rw [← htail, ← htail'] at htext
  have hfraction := fractionText_inj (Nat.mod_lt _ (by decide)) (Nat.mod_lt _ (by decide)) (List.append_cancel_right htext)
  obtain ⟨_, _, _, -, hbound, hread, hdays, -⟩ := dateOfDays_spec (m / nanosecondsPerDay)
  obtain ⟨_, _, _, -, hbound', hread', hdays', -⟩ := dateOfDays_spec (n / nanosecondsPerDay)
  have hdate : dateOfDays (m / nanosecondsPerDay) = dateOfDays (n / nanosecondsPerDay) := by
    rw [hread, hread'] at hyear hmonth ⊢
    simp only [Date.mk.injEq] at hyear hmonth ⊢
    refine ⟨hyear, ?_, by omega⟩
    split_ifs at hmonth ⊢ <;> omega
  have hsame := dateOfDays_inj hdate
  simp only [nanosecondsPerDay] at *
  omega

end Sessionless.Lib.Calendar
