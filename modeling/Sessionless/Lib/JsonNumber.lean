import Mathlib.Algebra.Order.Field.Rat
import Sessionless.Lib.JsonRaw

/-!
# Numbers of a JSON text

The number rule of RFC 8259. A `Numeral` holds the parts of one number, each well formed, so that every value of the
type has a text; the scanner reads exactly these texts, and a numeral has an exact rational value.
-/

namespace Sessionless.Lib

open Json

def Digits (digits : Bytes) : Prop := digits ≠ [] ∧ ∀ b ∈ digits, isDigit b = true

def natOf (digits : Bytes) : Nat := digits.foldl (fun n b => n * 10 + (b.toNat - 48)) 0

def isMark (b : UInt8) : Bool := b = 101 || b = 69

/-- `exp = e [ minus / plus ] 1*DIGIT` -/
structure Exponent where
  mark : UInt8
  sign : Bytes
  digits : Bytes
  mark_ok : mark = 101 ∨ mark = 69
  sign_ok : sign = [] ∨ sign = [43] ∨ sign = [45]
  digits_ok : Digits digits

namespace Exponent

def text (exponent : Exponent) : Bytes := exponent.mark :: exponent.sign ++ exponent.digits

def value (exponent : Exponent) : Int :=
  if exponent.sign = [45] then -(natOf exponent.digits : Int) else natOf exponent.digits

end Exponent

/-- `number = [ minus ] int [ frac ] [ exp ]` -/
structure Numeral where
  negative : Bool
  int : Bytes
  fraction : Option Bytes
  exponent : Option Exponent
  int_ok : Digits int ∧ (int.head? = some 48 → int = [48])
  fraction_ok : ∀ digits ∈ fraction, Digits digits

namespace Numeral

def signText (n : Numeral) : Bytes := if n.negative then [45] else []

def fractionText (n : Numeral) : Bytes := (n.fraction.map fun digits => 46 :: digits).getD []

def exponentText (n : Numeral) : Bytes := (n.exponent.map Exponent.text).getD []

def text (n : Numeral) : Bytes := n.signText ++ n.int ++ n.fractionText ++ n.exponentText

def mantissa (n : Numeral) : Nat := natOf (n.int ++ n.fraction.getD [])

def scale (n : Numeral) : Int := (n.exponent.map Exponent.value).getD 0 - (n.fraction.getD []).length

def value (n : Numeral) : ℚ := (if n.negative then -1 else 1) * n.mantissa * 10 ^ n.scale

end Numeral

namespace Raw

/-! ## What the scanner reads is a number -/

theorem spanDigits_split {input digits rest} (h : spanDigits input = (digits, rest)) :
    input = digits ++ rest ∧ ∀ b ∈ digits, isDigit b = true := by
  refine ⟨?_, spanDigits_digits h⟩
  cases h
  exact (List.takeWhile_append_dropWhile).symm

theorem scanInt_split {input int rest} (h : scanInt input = some (int, rest)) :
    input = int ++ rest ∧ Digits int ∧ (int.head? = some 48 → int = [48]) := by
  unfold scanInt at h
  split at h
  · cases h
  · rename_i d digits tail hspan
    obtain ⟨hsplit, hdigits⟩ := spanDigits_split hspan
    split at h
    · rename_i hzero
      subst hzero
      cases h
      refine ⟨hsplit, ⟨by simp, ?_⟩, fun _ => rfl⟩
      intro b hb
      rw [List.mem_singleton.mp hb]
      rfl
    · rename_i hzero
      cases h
      refine ⟨hsplit, ⟨by simp, hdigits⟩, ?_⟩
      intro hhead
      exact absurd (Option.some.inj hhead) hzero

theorem scanMarked_split {mark input marked rest} (h : scanMarked mark input = some (marked, rest)) :
    ∃ digits, Digits digits ∧ marked = mark ++ digits ∧ input = digits ++ rest := by
  unfold scanMarked at h
  split at h
  · cases h
  · rename_i digits tail hne hspan
    obtain ⟨hsplit, hdigits⟩ := spanDigits_split hspan
    cases h
    exact ⟨digits, ⟨hne, hdigits⟩, rfl, hsplit⟩

theorem scanFraction_split {input text rest} (h : scanFraction input = some (text, rest)) :
    input = text ++ rest ∧ ∃ fraction : Option Bytes, (∀ digits ∈ fraction, Digits digits) ∧
      text = (fraction.map fun digits => 46 :: digits).getD [] := by
  unfold scanFraction at h
  split at h
  · cases h
    exact ⟨rfl, none, by simp, rfl⟩
  · split at h
    · rename_i hpoint
      obtain ⟨digits, hdigits, rfl, rfl⟩ := scanMarked_split h
      exact ⟨by rw [hpoint]; rfl, some digits, by simpa using hdigits, rfl⟩
    · cases h
      exact ⟨rfl, none, by simp, rfl⟩

theorem scanExponent_split {input text rest} (h : scanExponent input = some (text, rest)) :
    input = text ++ rest ∧ ∃ exponent : Option Exponent, text = (exponent.map Exponent.text).getD [] := by
  unfold scanExponent at h
  split at h
  · cases h
    exact ⟨rfl, none, rfl⟩
  · rename_i mark tail
    split at h
    · rename_i hmark
      split at h
      · cases h
      · rename_i sign tail
        split at h
        · rename_i hsign
          obtain ⟨digits, hdigits, rfl, rfl⟩ := scanMarked_split h
          refine ⟨rfl, some ⟨mark, [sign], digits, hmark, ?_, hdigits⟩, rfl⟩
          rcases hsign with rfl | rfl
          · exact .inr (.inl rfl)
          · exact .inr (.inr rfl)
        · obtain ⟨digits, hdigits, rfl, hsplit⟩ := scanMarked_split h
          rw [hsplit]
          exact ⟨rfl, some ⟨mark, [], digits, hmark, .inl rfl, hdigits⟩, rfl⟩
    · cases h
      exact ⟨rfl, none, rfl⟩

theorem scanSign_split (input : Bytes) :
    input = (scanSign input).1 ++ (scanSign input).2 ∧
      ∃ negative : Bool, (scanSign input).1 = if negative then [45] else [] := by
  cases input with
  | nil => exact ⟨rfl, false, rfl⟩
  | cons b rest =>
    by_cases hb : b = 45
    · exact ⟨by simp [scanSign, hb], true, by simp [scanSign, hb]⟩
    · exact ⟨by simp [scanSign, hb], false, by simp [scanSign, hb]⟩

theorem numeral_of_parts (input : Bytes) {r₀ int r₁ fraction r₂} (hint : scanInt r₀ = some (int, r₁))
    (hfraction : scanFraction r₁ = some (fraction, r₂)) (exponent : Option Exponent) :
    ∃ n : Numeral, n.exponent = exponent ∧
      n.text = (scanSign input).1 ++ int ++ fraction ++ (exponent.map Exponent.text).getD [] := by
  obtain ⟨-, negative, hsign⟩ := scanSign_split input
  obtain ⟨-, hint⟩ := scanInt_split hint
  obtain ⟨-, fraction, hdigits, rfl⟩ := scanFraction_split hfraction
  refine ⟨⟨negative, int, fraction, exponent, hint, hdigits⟩, rfl, ?_⟩
  rw [hsign]
  rfl

theorem scanNumber_split {input digits rest} (h : scanNumber input = some (digits, rest)) :
    input = digits ++ rest ∧ ∃ n : Numeral, n.text = digits := by
  simp only [scanNumber, Option.bind_eq_bind, Option.bind_eq_some_iff, pure, Prod.exists, Option.some.injEq,
    Prod.mk.injEq] at h
  obtain ⟨int, r₁, hint, fraction, r₂, hfraction, exponent, r₃, hexponent, rfl, rfl⟩ := h
  obtain ⟨hsplit₃, exponent, rfl⟩ := scanExponent_split hexponent
  constructor
  · have hsplit := (scanSign_split input).1
    rw [(scanInt_split hint).1, (scanFraction_split hfraction).1, hsplit₃] at hsplit
    simpa only [List.append_assoc] using hsplit
  · obtain ⟨n, -, htext⟩ := numeral_of_parts input hint hfraction exponent
    exact ⟨n, htext⟩

/-! ## Every number is read -/

theorem scanInt_digits {int rest} (hdigits : Digits int) (hzero : int.head? = some 48 → int = [48])
    (hr : NoDigit rest) : scanInt (int ++ rest) = some (int, rest) := by
  cases int with
  | nil => exact absurd rfl hdigits.1
  | cons d digits =>
    rw [scanInt, spanDigits_append hdigits.2 hr]
    by_cases hd : d = 48
    · subst hd
      cases hzero rfl
      rfl
    · simp only [if_neg hd]

theorem scanMarked_digits {mark digits rest} (h : Digits digits) (hr : NoDigit rest) :
    scanMarked mark (digits ++ rest) = some (mark ++ digits, rest) := by
  rw [scanMarked, spanDigits_append h.2 hr]
  cases digits with
  | nil => exact absurd rfl h.1
  | cons d digits => rfl

theorem scanExponent_text (exponent : Exponent) : scanExponent exponent.text = some (exponent.text, []) := by
  obtain ⟨mark, sign, digits, hmark, hsign, hdigits⟩ := exponent
  have hread : ∀ mark, scanMarked mark digits = some (mark ++ digits, []) := by
    intro mark
    have hall : scanMarked mark (digits ++ []) = _ := scanMarked_digits hdigits rfl
    rwa [List.append_nil] at hall
  cases digits with
  | nil => exact absurd rfl hdigits.1
  | cons d digits =>
    have hd : ¬ (d = 43 ∨ d = 45) := by
      have hdigit := hdigits.2 d List.mem_cons_self
      rintro (rfl | rfl)
      · exact absurd hdigit (by decide)
      · exact absurd hdigit (by decide)
    rcases hsign with rfl | rfl | rfl
    · simp [Exponent.text, scanExponent, if_pos hmark, if_neg hd, hread]
    · simp [Exponent.text, scanExponent, if_pos hmark, hread]
    · simp [Exponent.text, scanExponent, if_pos hmark, hread]

end Raw

namespace Numeral

open Raw

theorem scanExponent_exponentText (n : Numeral) :
    scanExponent n.exponentText = some (n.exponentText, []) ∧ NoDigit n.exponentText ∧
      n.exponentText.head? ≠ some 46 := by
  unfold exponentText
  cases hexponent : n.exponent with
  | none => exact ⟨rfl, rfl, by simp⟩
  | some exponent =>
    refine ⟨scanExponent_text exponent, ?_⟩
    rcases exponent.mark_ok with hmark | hmark
    · simp [Exponent.text, NoDigit, hmark, isDigit]
    · simp [Exponent.text, NoDigit, hmark, isDigit]

theorem scanFraction_fractionText (n : Numeral) :
    scanFraction (n.fractionText ++ n.exponentText) = some (n.fractionText, n.exponentText) ∧
      NoDigit (n.fractionText ++ n.exponentText) := by
  obtain ⟨-, hdigit, hpoint⟩ := n.scanExponent_exponentText
  unfold fractionText
  cases hfraction : n.fraction with
  | none =>
    refine ⟨?_, hdigit⟩
    cases htext : n.exponentText with
    | nil => rfl
    | cons b tail =>
      have hb : b ≠ 46 := by simpa [htext] using hpoint
      simp [scanFraction, hb]
  | some digits =>
    have hread : scanMarked [46] (digits ++ n.exponentText) = _ :=
      scanMarked_digits (n.fraction_ok digits hfraction) hdigit
    refine ⟨?_, rfl⟩
    simpa [scanFraction] using hread

theorem number (n : Numeral) : Number n.text := by
  obtain ⟨hexponent, -, -⟩ := n.scanExponent_exponentText
  obtain ⟨hfraction, hdigit⟩ := n.scanFraction_fractionText
  have hint := scanInt_digits n.int_ok.1 n.int_ok.2 hdigit
  have hsign : scanSign n.text = (n.signText, n.int ++ (n.fractionText ++ n.exponentText)) := by
    have hfirst := n.int_ok.1
    unfold text signText
    cases hint' : n.int with
    | nil => exact absurd hint' hfirst.1
    | cons d digits =>
      have hd : d ≠ 45 := by
        rintro rfl
        exact absurd (hfirst.2 45 (by simp [hint'])) (by decide)
      cases n.negative with
      | false => simp [scanSign, hd]
      | true => simp [scanSign]
  have hscan : scanNumber n.text = some (n.text, []) := by
    simp only [scanNumber, hsign, Option.bind_eq_bind, hint, hfraction, hexponent, Option.bind_some, pure]
    rfl
  exact scanNumber_ok hscan

/-! ## A text has one numeral -/

theorem span_append {p : UInt8 → Bool} {first rest : Bytes} (hfirst : ∀ b ∈ first, p b = true)
    (hrest : ∀ b ∈ rest.head?, p b = false) :
    (first ++ rest).takeWhile p = first ∧ (first ++ rest).dropWhile p = rest := by
  rw [List.takeWhile_append_of_pos hfirst, List.dropWhile_append_of_pos hfirst]
  cases rest with
  | nil => simp
  | cons b rest =>
    have hb := hrest b rfl
    simp [hb]

theorem isMark_of_isDigit {b} (h : isDigit b = true) : isMark b = false := by
  simp only [isDigit, decide_eq_true_eq] at h
  simp only [isMark, Bool.or_eq_false_iff, decide_eq_false_iff_not, ← UInt8.toNat_inj, UInt8.reduceToNat]
  omega

theorem fractionText_bytes (n : Numeral) : ∀ b ∈ n.fractionText, b = 46 ∨ isDigit b = true := by
  unfold fractionText
  cases hfraction : n.fraction with
  | none => simp
  | some digits =>
    intro b hb
    rcases List.mem_cons.mp hb with rfl | hb
    · exact .inl rfl
    · exact .inr ((n.fraction_ok digits hfraction).2 b hb)

theorem mantissa_noMark (n : Numeral) : ∀ b ∈ n.int ++ n.fractionText, (!isMark b) = true := by
  intro b hb
  rw [Bool.not_eq_true']
  rcases List.mem_append.mp hb with hb | hb
  · exact isMark_of_isDigit (n.int_ok.1.2 b hb)
  · rcases n.fractionText_bytes b hb with rfl | hdigit
    · rfl
    · exact isMark_of_isDigit hdigit

theorem exponentText_mark (n : Numeral) : ∀ b ∈ n.exponentText.head?, (!isMark b) = false := by
  unfold exponentText
  cases n.exponent with
  | none => simp
  | some exponent =>
    intro b hb
    cases hb
    rcases exponent.mark_ok with hmark | hmark
    · rw [hmark]
      rfl
    · rw [hmark]
      rfl

theorem span_body (n : Numeral) :
    (n.int ++ n.fractionText ++ n.exponentText).takeWhile (fun b => !isMark b) = n.int ++ n.fractionText ∧
      (n.int ++ n.fractionText ++ n.exponentText).dropWhile (fun b => !isMark b) = n.exponentText :=
  span_append n.mantissa_noMark n.exponentText_mark

theorem span_mantissa (n : Numeral) :
    (n.int ++ n.fractionText).takeWhile isDigit = n.int ∧ (n.int ++ n.fractionText).dropWhile isDigit = n.fractionText := by
  apply span_append n.int_ok.1.2
  unfold fractionText
  cases n.fraction with
  | none => simp
  | some digits =>
    intro b hb
    cases hb
    rfl

end Numeral

end Sessionless.Lib
