import Sessionless.StrictJson.Scanner

/-!
# The tokens of the strict scanner

Strings are those of the grammar in which every surrogate escape is half of a pair. Numbers are those of the grammar;
where a caller computes with them they are also short, have a small exponent, fit an unsigned word if they are
integers, and neither overflow a double nor vanish in one.
-/

namespace Sessionless.StrictJson

open Lib Json Raw

theorem take_eq_some {c input rest} : take c input = some rest ↔ input = c :: rest := by
  cases input with
  | nil => simp [take]
  | cons b tail => by_cases hb : b = c <;> simp [take, hb]

theorem sliced_append (token rest : Bytes) : sliced (token ++ rest) rest = token := by
  simp [sliced]

/-! ## Strings -/

/-- A `\u` escape and its code unit. -/
def Escapes (n : Nat) (char : Bytes) : Prop :=
  ∃ h₁ h₂ h₃ h₄, char = [92, 117, h₁, h₂, h₃, h₄] ∧ hexQuad h₁ h₂ h₃ h₄ = some n

/-- A character that is no surrogate escape, or a high and a low surrogate escape in a row. -/
inductive Piece : Bytes → Prop where
  | plain {char : Bytes} (hchar : Raw.Char char) (h : ∀ n, Escapes n char → ¬ (0xd800 ≤ n ∧ n ≤ 0xdfff)) : Piece char
  | pair {high low : Bytes} {m n : Nat} (hhigh : Escapes m high) (hm : 0xd800 ≤ m ∧ m ≤ 0xdbff) (hlow : Escapes n low)
    (hn : 0xdc00 ≤ n ∧ n ≤ 0xdfff) : Piece (high ++ low)

/-- The inside of a string without unpaired surrogate escapes. -/
inductive Paired : Bytes → Prop where
  | nil : Paired []
  | cons {piece rest : Bytes} (hpiece : Piece piece) (h : Paired rest) : Paired (piece ++ rest)

theorem Escapes.char {n char} (h : Escapes n char) : Raw.Char char := by
  obtain ⟨h₁, h₂, h₃, h₄, rfl, hquad⟩ := h
  exact .unicode (by rw [hquad]; rfl)

theorem Paired.body {body} (h : Paired body) : Body body := by
  induction h with
  | nil => exact .nil
  | cons hpiece _ ih =>
    cases hpiece with
    | plain hchar _ => exact .cons hchar ih
    | pair hhigh _ hlow _ =>
      rw [List.append_assoc]
      exact .cons hhigh.char (.cons hlow.char ih)

theorem hex4_eq_some {input rest n} :
    hex4 input = some (n, rest) ↔ ∃ h₁ h₂ h₃ h₄, input = h₁ :: h₂ :: h₃ :: h₄ :: rest ∧ hexQuad h₁ h₂ h₃ h₄ = some n := by
  constructor
  · intro h
    unfold hex4 at h
    split at h
    · obtain ⟨m, hm, heq⟩ := Option.map_eq_some_iff.mp h
      cases heq
      exact ⟨_, _, _, _, rfl, hm⟩
    · cases h
  · rintro ⟨h₁, h₂, h₃, h₄, rfl, hquad⟩
    simp [hex4, hquad]

theorem unescape_isSome (c : UInt8) :
    (unescape c).isSome = true ↔ c = 34 ∨ c = 92 ∨ c = 47 ∨ c = 98 ∨ c = 102 ∨ c = 110 ∨ c = 114 ∨ c = 116 := by
  simp only [unescape, ← UInt8.toNat_inj, UInt8.reduceToNat]
  split_ifs <;> simp only [Option.isSome_some, Option.isSome_none, true_iff, Bool.false_eq_true, false_iff] <;> omega

theorem escape_sound {input rest} (h : escape input = some rest) :
    ∃ piece, Piece (92 :: piece) ∧ input = piece ++ rest := by
  cases input with
  | nil => cases h
  | cons c tail =>
    simp only [escape] at h
    split_ifs at h with hletter hu
    · cases h
      refine ⟨[c], .plain (.escape ((unescape_isSome c).mpr hletter)) ?_, rfl⟩
      rintro n ⟨h₁, h₂, h₃, h₄, heq, -⟩
      cases heq
    · subst hu
      obtain ⟨⟨n, after⟩, hread, hrest⟩ := Option.bind_eq_some_iff.mp h
      obtain ⟨h₁, h₂, h₃, h₄, rfl, hquad⟩ := hex4_eq_some.mp hread
      have hescapes : Escapes n [92, 117, h₁, h₂, h₃, h₄] := ⟨h₁, h₂, h₃, h₄, rfl, hquad⟩
      simp only [surrogate] at hrest
      split_ifs at hrest with hhigh hlow
      · simp only [Option.bind_eq_some_iff, take_eq_some, Prod.exists] at hrest
        obtain ⟨r₁, rfl, r₂, rfl, low, r₃, hread', hlow⟩ := hrest
        obtain ⟨l₁, l₂, l₃, l₄, rfl, hquad'⟩ := hex4_eq_some.mp hread'
        split_ifs at hlow with hrange
        cases hlow
        exact ⟨_, .pair hescapes hhigh ⟨l₁, l₂, l₃, l₄, rfl, hquad'⟩ (by omega), rfl⟩
      · cases hrest
        refine ⟨[117, h₁, h₂, h₃, h₄], .plain hescapes.char ?_, rfl⟩
        rintro m ⟨_, _, _, _, heq, hm⟩
        cases heq
        cases hquad.symm.trans hm
        omega

theorem escape_complete {piece rest} (h : Piece (92 :: piece)) : escape (piece ++ rest) = some rest := by
  generalize hpiece : 92 :: piece = char at h
  cases h with
  | plain hchar hsurrogate =>
    cases hchar with
    | byte _ hslash _ =>
      cases hpiece
      exact absurd rfl hslash
    | @escape c hc =>
      cases hpiece
      simp only [List.cons_append, List.nil_append, escape, if_pos ((unescape_isSome c).mp hc)]
    | @unicode h₁ h₂ h₃ h₄ hhex =>
      cases hpiece
      obtain ⟨n, hn⟩ := Option.isSome_iff_exists.mp hhex
      have hplain := hsurrogate n ⟨h₁, h₂, h₃, h₄, rfl, hn⟩
      have hhigh : ¬ (0xd800 ≤ n ∧ n ≤ 0xdbff) := by omega
      have hlow : ¬ (0xdc00 ≤ n ∧ n ≤ 0xdfff) := by omega
      simp [escape, hex4, hn, surrogate, hhigh, hlow]
  | pair hhigh hm hlow hn =>
    obtain ⟨h₁, h₂, h₃, h₄, rfl, hquad⟩ := hhigh
    obtain ⟨l₁, l₂, l₃, l₄, rfl, hquad'⟩ := hlow
    cases hpiece
    have hrange : ¬ (_ < 0xdc00 ∨ 0xdfff < _) := not_or.mpr ⟨not_lt.mpr hn.1, not_lt.mpr hn.2⟩
    simp [escape, hex4, hquad, surrogate, hm, take, hquad', hrange]

theorem Piece.head {piece} (h : Piece piece) :
    (∃ b, piece = [b] ∧ b ≠ 34 ∧ b ≠ 92 ∧ 32 ≤ b.toNat) ∨ ∃ tail, piece = 92 :: tail := by
  cases h with
  | plain hchar _ =>
    cases hchar with
    | byte hquote hslash hprint => exact .inl ⟨_, rfl, hquote, hslash, hprint⟩
    | escape hc => exact .inr ⟨_, rfl⟩
    | unicode hhex => exact .inr ⟨_, rfl⟩
  | pair hhigh =>
    obtain ⟨h₁, h₂, h₃, h₄, rfl, -⟩ := hhigh
    exact .inr ⟨_, rfl⟩

theorem stringBody_sound {fuel input rest} (h : stringBody fuel input = some rest) :
    ∃ body, Paired body ∧ input = body ++ 34 :: rest := by
  induction fuel generalizing input with
  | zero => cases h
  | succ fuel ih =>
    cases input with
    | nil => cases h
    | cons c tail =>
      simp only [stringBody] at h
      split_ifs at h with hquote hcontrol hslash
      · cases h
        exact ⟨[], .nil, by rw [hquote]; rfl⟩
      · subst hslash
        obtain ⟨after, hescape, hloop⟩ := Option.bind_eq_some_iff.mp h
        obtain ⟨piece, hpiece, rfl⟩ := escape_sound hescape
        obtain ⟨body, hbody, rfl⟩ := ih hloop
        exact ⟨92 :: piece ++ body, .cons hpiece hbody, by simp⟩
      · obtain ⟨body, hbody, rfl⟩ := ih h
        have hplain : Piece [c] := by
          refine .plain (.byte hquote hslash (by omega)) ?_
          rintro n ⟨h₁, h₂, h₃, h₄, heq, -⟩
          cases heq
        exact ⟨[c] ++ body, .cons hplain hbody, rfl⟩

theorem stringBody_complete {fuel body rest} (h : Paired body) (hf : body.length < fuel) :
    stringBody fuel (body ++ 34 :: rest) = some rest := by
  induction h generalizing fuel with
  | nil =>
    obtain ⟨fuel, rfl⟩ : ∃ k, fuel = k + 1 := ⟨fuel - 1, by omega⟩
    rfl
  | @cons piece tail hpiece h ih =>
    obtain ⟨fuel, rfl⟩ : ∃ k, fuel = k + 1 := ⟨fuel - 1, by omega⟩
    rw [List.length_append] at hf
    rw [List.append_assoc]
    rcases hpiece.head with ⟨b, rfl, hquote, hslash, hprint⟩ | ⟨piece, rfl⟩
    · rw [List.length_singleton] at hf
      have hrest := ih (show tail.length < fuel by omega)
      simp only [List.cons_append, List.nil_append, stringBody]
      rw [if_neg hquote, if_neg (by omega), if_neg hslash, hrest]
    · rw [List.length_cons] at hf
      have hrest := ih (show tail.length < fuel by omega)
      simp only [List.cons_append, stringBody]
      rw [if_neg (by decide), if_neg (by decide), if_pos trivial, escape_complete hpiece]
      exact hrest

/-- The strict scanner reads the strings that the grammar's scanner reads, as long as their surrogates are paired. -/
theorem string_iff {tail rest} :
    string (34 :: tail) = some rest ↔ ∃ body, scanBody (tail.length + 1) tail = some (body, rest) ∧ Paired body := by
  have hstring : string (34 :: tail) = stringBody (tail.length + 1) tail := rfl
  rw [hstring]
  constructor
  · intro h
    obtain ⟨body, hbody, rfl⟩ := stringBody_sound h
    exact ⟨body, hbody.body.scan (by simp only [List.length_append, List.length_cons]; omega), hbody⟩
  · rintro ⟨body, hscan, hbody⟩
    rw [scanBody_split hscan]
    exact stringBody_complete hbody (by simp only [List.length_append, List.length_cons]; omega)

theorem string_quote {input rest} (h : string input = some rest) : ∃ tail, input = 34 :: tail := by
  obtain ⟨tail, htake, -⟩ := Option.bind_eq_some_iff.mp h
  exact ⟨tail, take_eq_some.mp htake⟩

theorem unmarshalKey_quoted {body} (h : Body body) : unmarshalKey (34 :: body ++ [34]) = unescaped body := by
  simp only [unmarshalKey, Raw.parse_quoted h]

/-! ## The value of a number -/

theorem isDigit_ne_minus {b} (h : isDigit b = true) : b ≠ 45 := by
  rintro rfl
  exact absurd h (by decide)

theorem head_text (n : Numeral) : n.text.head? = some 45 ↔ n.negative = true := by
  unfold Numeral.text Numeral.signText
  cases n.negative with
  | true => simp
  | false =>
    cases hint : n.int with
    | nil => exact absurd hint n.int_ok.1.1
    | cons d digits =>
      have hd := isDigit_ne_minus (n.int_ok.1.2 d (by simp [hint]))
      simp [hd]

theorem body_text (n : Numeral) : (take 45 n.text).getD n.text = n.int ++ n.fractionText ++ n.exponentText := by
  have hhead := head_text n
  unfold Numeral.text Numeral.signText at *
  cases hnegative : n.negative with
  | true => simp [take]
  | false =>
    simp only [hnegative, Bool.false_eq_true, if_false, List.nil_append, iff_false] at hhead ⊢
    cases hbody : n.int ++ n.fractionText ++ n.exponentText with
    | nil => rfl
    | cons b rest =>
      have hb : b ≠ 45 := by
        rintro rfl
        simp [hbody] at hhead
      simp [take, hb]

theorem exponent_drop (e : Exponent) :
    (e.text.drop 1).dropWhile (fun b => !isDigit b) = e.digits ∧ ((e.text.drop 1).head? = some 45 ↔ e.sign = [45]) := by
  obtain ⟨mark, sign, digits, hmark, hsign, hdigits⟩ := e
  have hdrop : (sign ++ digits).dropWhile (fun b => !isDigit b) = digits := by
    refine (Numeral.span_append ?_ ?_).2
    · rcases hsign with rfl | rfl | rfl <;> simp [isDigit]
    · intro b hb
      have hdigit := hdigits.2 b (List.mem_of_mem_head? hb)
      simp [hdigit]
  refine ⟨hdrop, ?_⟩
  rcases hsign with rfl | rfl | rfl
  · cases digits with
    | nil => exact absurd rfl hdigits.1
    | cons d digits =>
      have hd := isDigit_ne_minus (hdigits.2 d List.mem_cons_self)
      simp [Exponent.text, hd]
  · simp [Exponent.text]
  · simp [Exponent.text]

theorem decimalValue_text (n : Numeral) : decimalValue n.text = n.value := by
  have hfraction : n.fractionText.drop 1 = n.fraction.getD [] := by
    unfold Numeral.fractionText
    cases n.fraction with
    | none | some digits => rfl
  simp only [decimalValue, body_text, n.span_body.1, n.span_body.2, n.span_mantissa.1, n.span_mantissa.2, hfraction,
    head_text, Numeral.value, Numeral.mantissa, Numeral.scale]
  unfold Numeral.exponentText
  cases n.exponent with
  | none => simp [natOf]
  | some e =>
    obtain ⟨hdigits, hsign⟩ := exponent_drop e
    simp only [Option.map_some, Option.getD_some, hdigits, hsign, Exponent.value]

def nonzeroDigit (c : UInt8) : Bool := 49 ≤ c.toNat && c.toNat ≤ 57

theorem foldl_eq_zero (digits : Bytes) (n : Nat) :
    digits.foldl (fun n b => n * 10 + (b.toNat - 48)) n = 0 ↔ n = 0 ∧ ∀ b ∈ digits, b.toNat - 48 = 0 := by
  induction digits generalizing n with
  | nil => simp
  | cons b digits ih =>
    rw [List.foldl_cons, ih, List.forall_mem_cons, Nat.add_eq_zero_iff, and_assoc, Nat.mul_eq_zero]
    simp

theorem natOf_ne_zero {digits} (h : ∀ b ∈ digits, isDigit b = true) :
    digits.any nonzeroDigit = true ↔ natOf digits ≠ 0 := by
  rw [natOf, Ne, foldl_eq_zero, List.any_eq_true]
  simp only [true_and, not_forall, exists_prop]
  refine exists_congr fun b => and_congr_right fun hb => ?_
  have hdigit := h b hb
  simp only [isDigit, decide_eq_true_eq] at hdigit
  simp only [nonzeroDigit, Bool.and_eq_true, decide_eq_true_eq]
  omega

theorem mantissa_nonzero (n : Numeral) :
    (n.text.takeWhile fun b => !isMark b).any nonzeroDigit = true ↔ n.value ≠ 0 := by
  have hsign : ∀ b ∈ n.signText, (!isMark b) = true ∧ nonzeroDigit b = false := by
    unfold Numeral.signText
    cases n.negative with
    | true => simp [isMark, nonzeroDigit]
    | false => simp
  have htake : (n.text.takeWhile fun b => !isMark b) = n.signText ++ (n.int ++ n.fractionText) := by
    have htext : n.text = n.signText ++ (n.int ++ n.fractionText ++ n.exponentText) := by
      simp only [Numeral.text, List.append_assoc]
    rw [htext, List.takeWhile_append_of_pos fun b hb => (hsign b hb).1, n.span_body.1]
  have hskip : n.signText.any nonzeroDigit = false := by
    rw [List.any_eq_false]
    intro b hb
    simp [(hsign b hb).2]
  have hfraction : n.fractionText.any nonzeroDigit = (n.fraction.getD []).any nonzeroDigit := by
    unfold Numeral.fractionText
    cases n.fraction with
    | none => rfl
    | some digits => simp [nonzeroDigit]
  have hdigits : ∀ b ∈ n.int ++ n.fraction.getD [], isDigit b = true := by
    intro b hb
    rcases List.mem_append.mp hb with hb | hb
    · exact n.int_ok.1.2 b hb
    · cases hf : n.fraction with
      | none => simp [hf] at hb
      | some digits =>
        rw [hf] at hb
        exact (n.fraction_ok digits hf).2 b hb
  have hmantissa := natOf_ne_zero hdigits
  rw [htake, List.any_append, hskip, Bool.false_or, List.any_append, hfraction, ← List.any_append, hmantissa]
  have hscale : (10 : ℚ) ^ n.scale ≠ 0 := zpow_ne_zero _ (by norm_num)
  have hfactor : (if n.negative then -1 else 1 : ℚ) ≠ 0 := by split_ifs <;> norm_num
  rw [Numeral.value, mul_ne_zero_iff, mul_ne_zero_iff, Nat.cast_ne_zero]
  exact ⟨fun h => ⟨⟨hfactor, h⟩, hscale⟩, fun h => h.1.2⟩

theorem integer_text (n : Numeral) :
    n.text.any (fun b => b = 46 || isMark b) = (n.fraction.isSome || n.exponent.isSome) := by
  have hsign : n.signText.any (fun b => b = 46 || isMark b) = false := by
    unfold Numeral.signText
    cases n.negative with
    | true | false => rfl
  have hint : n.int.any (fun b => b = 46 || isMark b) = false := by
    rw [List.any_eq_false]
    intro b hb
    have hdigit := n.int_ok.1.2 b hb
    have hpoint : b ≠ 46 := by
      rintro rfl
      exact absurd hdigit (by decide)
    simp [hpoint, Numeral.isMark_of_isDigit hdigit]
  have hfraction : n.fractionText.any (fun b => b = 46 || isMark b) = n.fraction.isSome := by
    unfold Numeral.fractionText
    cases n.fraction with
    | none => rfl
    | some digits => simp
  have hexponent : n.exponentText.any (fun b => b = 46 || isMark b) = n.exponent.isSome := by
    unfold Numeral.exponentText
    cases n.exponent with
    | none => rfl
    | some exponent =>
      rcases exponent.mark_ok with hmark | hmark
      · simp [Exponent.text, isMark, hmark]
      · simp [Exponent.text, isMark, hmark]
  rw [Numeral.text, List.any_append, List.any_append, List.any_append, hsign, hint, hfraction, hexponent]
  rfl

/-! ## Numbers to compute with -/

/-- The numbers that `Parse` takes. -/
structure Bounded (n : Numeral) : Prop where
  /-- At most 128 bytes. -/
  length : n.text.length ≤ 128
  /-- An exponent of at most 324 either way. -/
  exponent : ∀ exponent ∈ n.exponent, natOf exponent.digits ≤ 324
  /-- A bare integer fits an unsigned word. -/
  integer : n.fraction = none → n.exponent = none → natOf n.int < 2 ^ 64
  /-- The nearest double is finite. -/
  finite : |n.value| < 2 ^ (1024 : ℤ) - 2 ^ (970 : ℤ)
  /-- The nearest double is not zero, unless the number is. -/
  nonzero : n.value ≠ 0 → 2 ^ (-1075 : ℤ) < |n.value|

theorem parseUint_text (n : Numeral) (hf : n.fraction = none) (he : n.exponent = none) :
    parseUint ((take 45 n.text).getD n.text) = none ↔ ¬ natOf n.int < 2 ^ 64 := by
  have hbody : (take 45 n.text).getD n.text = n.int := by
    rw [body_text, Numeral.fractionText, Numeral.exponentText, hf, he]
    simp
  rw [hbody, parseUint]
  have hdigits := n.int_ok.1
  split_ifs with h
  · exact iff_of_false (by simp) (not_not.mpr h.2.2)
  · have hlarge : ¬ natOf n.int < 2 ^ 64 := fun hsmall => h ⟨hdigits.1, List.all_eq_true.mpr hdigits.2, hsmall⟩
    exact iff_of_true rfl hlarge

theorem finiteNumber_text (n : Numeral) :
    finiteNumber n.text = true ↔ n.text.length ≤ 128 ∧ (n.fraction = none → n.exponent = none → natOf n.int < 2 ^ 64) ∧
      |n.value| < 2 ^ (1024 : ℤ) - 2 ^ (970 : ℤ) ∧ (n.value ≠ 0 → 2 ^ (-1075 : ℤ) < |n.value|) := by
  have hnone : parseFloat n.text = none ↔ 2 ^ (1024 : ℤ) - 2 ^ (970 : ℤ) ≤ |n.value| := by
    rw [parseFloat, decimalValue_text, Binary64.round_none]
  have hzero : parseFloat n.text = some 0 ↔ |n.value| ≤ 2 ^ (-1075 : ℤ) := by
    rw [parseFloat, decimalValue_text, Binary64.round_zero]
  have hinteger : (!n.text.any (fun b => b = 46 || isMark b) && (parseUint ((take 45 n.text).getD n.text)).isNone) = true ↔
      ¬ (n.fraction = none → n.exponent = none → natOf n.int < 2 ^ 64) := by
    rw [integer_text, Bool.and_eq_true]
    simp only [Bool.not_eq_true', Bool.or_eq_false_iff, Option.isSome_eq_false_iff, Option.isNone_iff_eq_none,
      Classical.not_imp, and_assoc]
    exact and_congr_right fun hf => and_congr_right fun he => parseUint_text n hf he
  unfold finiteNumber
  by_cases hlength : 128 < n.text.length
  · rw [if_pos hlength]
    exact iff_of_false (by simp) (fun h => absurd h.1 (not_le.mpr hlength))
  rw [if_neg hlength]
  by_cases hsmall : n.fraction = none → n.exponent = none → natOf n.int < 2 ^ 64
  · rw [if_neg fun h => hinteger.mp h hsmall]
    rw [and_iff_right (not_lt.mp hlength), and_iff_right hsmall]
    split
    · rename_i hround
      have hover := hnone.mp hround
      exact iff_of_false (by simp) (fun h => absurd h.1 (not_lt.mpr hover))
    · rename_i v hround
      have hfinite : |n.value| < 2 ^ (1024 : ℤ) - 2 ^ (970 : ℤ) := by
        rw [← not_le, ← hnone, hround]
        simp
      rw [and_iff_right hfinite]
      split_ifs with hv
      · rw [hv] at hround
        have hvanish := hzero.mp hround
        rw [Bool.not_eq_true', ← Bool.not_eq_true]
        refine (not_congr (mantissa_nonzero n)).trans ?_
        exact ⟨fun h hne => absurd hne h, fun h hne => absurd (h hne) (not_lt.mpr hvanish)⟩
      · refine iff_of_true rfl fun _ => ?_
        rw [← not_le, ← hzero, hround]
        simpa using hv
  · rw [if_pos (hinteger.mpr hsmall)]
    exact iff_of_false (by simp) (fun h => hsmall h.2.1)

/-! ## Scanning a number -/

theorem le_foldl (ds : Bytes) (n : Nat) : n ≤ ds.foldl (fun n b => n * 10 + (b.toNat - 48)) n := by
  induction ds generalizing n with
  | nil => exact le_rfl
  | cons b ds ih => exact le_trans (by omega) (ih (n * 10 + (b.toNat - 48)))

theorem smallExponent_iff (ds : Bytes) {n} (hn : n ≤ 324) :
    smallExponent n ds = true ↔ ds.foldl (fun n b => n * 10 + (b.toNat - 48)) n ≤ 324 := by
  induction ds generalizing n with
  | nil => simp [smallExponent, hn]
  | cons b ds ih =>
    rw [smallExponent, List.foldl_cons]
    split_ifs with hlarge
    · have hle := le_foldl ds (n * 10 + (b.toNat - 48))
      exact iff_of_false (by simp) (by omega)
    · exact ih (by omega)

theorem digits_eq (mark input : Bytes) : digits input = (scanMarked mark input).map Prod.snd := by
  unfold digits scanMarked spanDigits
  cases hspan : input.takeWhile isDigit with
  | nil | cons d ds => rfl

theorem integer_eq (input : Bytes) : integer input = (scanInt input).map Prod.snd := by
  cases input with
  | nil => rfl
  | cons b rest =>
    by_cases hb : isDigit b = true
    · have hspan : spanDigits (b :: rest) = (b :: rest.takeWhile isDigit, rest.dropWhile isDigit) := by
        simp [spanDigits, hb]
      by_cases hzero : b = 48
      · subst hzero
        simp [integer, scanInt, hspan, List.takeWhile_append_dropWhile]
      · have hrange : ¬ (b.toNat < 49 ∨ 57 < b.toNat) := by
          simp only [isDigit, decide_eq_true_eq] at hb
          have hne : b.toNat ≠ 48 := fun h => hzero (UInt8.toNat_inj.mp h)
          omega
        simp [integer, scanInt, hspan, hzero, hrange, digits, hb]
    · have hspan : spanDigits (b :: rest) = ([], b :: rest) := by simp [spanDigits, hb]
      have hzero : b ≠ 48 := by
        rintro rfl
        exact hb (by decide)
      have hrange : b.toNat < 49 ∨ 57 < b.toNat := by
        simp only [isDigit, decide_eq_true_eq] at hb
        omega
      simp [integer, scanInt, hspan, hzero, hrange]

theorem fraction_eq (input : Bytes) : fraction input = (scanFraction input).map Prod.snd := by
  cases input with
  | nil => rfl
  | cons b rest =>
    by_cases hb : b = 46
    · simp only [fraction, take, scanFraction, if_pos hb, digits_eq [46]]
    · simp only [fraction, take, scanFraction, if_neg hb]
      rfl

theorem sign_eq (input : Bytes) : (take 45 input).getD input = (scanSign input).2 := by
  cases input with
  | nil => rfl
  | cons b rest => by_cases hb : b = 45 <;> simp [take, scanSign, hb]

theorem exponent_text_digits {x y : Exponent} (h : x.text = y.text) : x.digits = y.digits := by
  rw [← (exponent_drop x).1, ← (exponent_drop y).1, h]

theorem scanExponent_mark {b} (hb : b = 101 ∨ b = 69) (tail : Bytes) :
    ∃ sign, (sign = [] ∨ sign = [43] ∨ sign = [45]) ∧
      scanExponent (b :: tail) = scanMarked (b :: sign) (exponentSign tail) := by
  cases tail with
  | nil =>
    refine ⟨[], .inl rfl, ?_⟩
    rw [scanExponent, if_pos hb]
    rfl
  | cons c rest =>
    by_cases hplus : c = 43
    · exact ⟨[43], .inr (.inl rfl), by simp [scanExponent, hb, hplus, exponentSign, take]⟩
    · by_cases hminus : c = 45
      · exact ⟨[45], .inr (.inr rfl), by simp [scanExponent, hb, hminus, exponentSign, take]⟩
      · exact ⟨[], .inl rfl, by simp [scanExponent, hb, hplus, hminus, exponentSign, take]⟩

theorem exponent_iff {documentNumbers input rest} :
    exponent documentNumbers input = some rest ↔
      ∃ e : Option Exponent, scanExponent input = some ((e.map Exponent.text).getD [], rest) ∧
        (documentNumbers = true ∨ ∀ x ∈ e, natOf x.digits ≤ 324) := by
  by_cases hmark : ∃ b tail, input = b :: tail ∧ (b = 101 ∨ b = 69)
  · obtain ⟨b, tail, rfl, hb⟩ := hmark
    obtain ⟨sign, hsign, hscan⟩ := scanExponent_mark hb tail
    have hexponent : exponent documentNumbers (b :: tail) = (digits (exponentSign tail)).bind fun after =>
        if documentNumbers || smallExponent 0 (sliced (exponentSign tail) after) then some after else none := by
      rcases hb with rfl | rfl <;> rfl
    rw [hexponent, hscan, digits_eq (b :: sign)]
    cases hmarked : scanMarked (b :: sign) (exponentSign tail) with
    | none => simp
    | some read =>
      obtain ⟨marked, after⟩ := read
      obtain ⟨ds, hds, rfl, hsplit⟩ := scanMarked_split hmarked
      have hsmall : smallExponent 0 ds = true ↔ natOf ds ≤ 324 := smallExponent_iff ds (by omega)
      simp only [Option.map_some, Option.bind_some, hsplit, sliced_append, Option.some.injEq, Prod.mk.injEq]
      have hone (e : Option Exponent) (he : b :: sign ++ ds = (e.map Exponent.text).getD []) :
          ∃ x, e = some x ∧ x.digits = ds := by
        cases e with
        | none => cases he
        | some x =>
          exact ⟨x, rfl, exponent_text_digits (y := ⟨b, sign, ds, hb, hsign, hds⟩) he.symm⟩
      constructor
      · intro h
        split_ifs at h with hok
        cases h
        refine ⟨some ⟨b, sign, ds, hb, hsign, hds⟩, ⟨rfl, rfl⟩, ?_⟩
        rw [Bool.or_eq_true, hsmall] at hok
        simpa using hok
      · rintro ⟨e, ⟨he, rfl⟩, hok⟩
        obtain ⟨x, rfl, hx⟩ := hone e he
        have hok' : (documentNumbers || smallExponent 0 ds) = true := by
          rw [Bool.or_eq_true, hsmall]
          exact hok.imp_right fun hall => hx ▸ hall x rfl
        rw [if_pos hok']
  · have hscan : scanExponent input = some ([], input) := by
      apply scanExponent_skip
      intro b hb hmark'
      cases input with
      | nil => cases hb
      | cons c tail =>
        cases hb
        exact hmark ⟨b, tail, rfl, hmark'⟩
    have hexponent : exponent documentNumbers input = some input := by
      unfold exponent
      cases input with
      | nil => rfl
      | cons c tail =>
        have hc : ¬ (c = 101 ∨ c = 69) := fun hc => hmark ⟨c, tail, rfl, hc⟩
        simp [take, not_or.mp hc]
    rw [hexponent, hscan]
    constructor
    · intro h
      cases h
      exact ⟨none, rfl, .inr (by simp)⟩
    · rintro ⟨e, he, -⟩
      simp only [Option.some.injEq, Prod.mk.injEq] at he
      rw [he.2]

theorem exponent_of_text {n m : Numeral} (h : n.text = m.text) {x : Exponent} (hx : x ∈ m.exponent) :
    ∃ y ∈ n.exponent, y.digits = x.digits := by
  have htext : n.exponentText = m.exponentText := by
    rw [← n.span_body.2, ← m.span_body.2, ← body_text, ← body_text, h]
  unfold Numeral.exponentText at htext
  rw [Option.mem_def.mp hx] at htext
  cases hn : n.exponent with
  | none =>
    rw [hn] at htext
    cases htext
  | some y =>
    rw [hn] at htext
    exact ⟨y, rfl, exponent_text_digits htext⟩

/-- The strict scanner reads the numbers that the grammar's scanner reads, within its bounds unless it takes any. -/
theorem number_iff {documentNumbers input rest} :
    number documentNumbers input = some rest ↔
      ∃ token, scanNumber input = some (token, rest) ∧
        (documentNumbers = true ∨ ∃ n : Numeral, n.text = token ∧ Bounded n) := by
  constructor
  · intro h
    simp only [number, sign_eq, integer_eq, fraction_eq, Option.bind_eq_some_iff, Option.map_eq_some_iff, Prod.exists,
      exists_eq_right, exponent_iff] at h
    obtain ⟨r₁, ⟨int, hint⟩, r₂, ⟨fraction, hfraction⟩, r₃, ⟨e, hexponent, hsmall⟩, hcheck⟩ := h
    obtain ⟨n, rfl, htext⟩ := numeral_of_parts input hint hfraction e
    split_ifs at hcheck with hfinite
    cases hcheck
    have hscan : scanNumber input = some (n.text, rest) := by
      simp [scanNumber, hint, hfraction, hexponent, pure, htext]
    refine ⟨n.text, hscan, ?_⟩
    rw [(scanNumber_split hscan).1, sliced_append, Bool.or_eq_true, finiteNumber_text] at hfinite
    rcases hsmall with hdocument | hsmall
    · exact .inl hdocument
    · refine hfinite.imp_right ?_
      rintro ⟨hlength, hinteger, hrange, hnonzero⟩
      exact ⟨n, rfl, hlength, hsmall, hinteger, hrange, hnonzero⟩
  · rintro ⟨token, hscan, hok⟩
    have hsplit := (scanNumber_split hscan).1
    simp only [scanNumber, Option.bind_eq_bind, Option.bind_eq_some_iff, pure, Prod.exists, Option.some.injEq,
      Prod.mk.injEq] at hscan
    obtain ⟨int, r₁, hint, fraction, r₂, hfraction, text, r₃, hexponent, rfl, rfl⟩ := hscan
    obtain ⟨-, e, rfl⟩ := scanExponent_split hexponent
    obtain ⟨m, rfl, htext⟩ := numeral_of_parts input hint hfraction e
    rw [← htext] at hsplit hok
    have hsmall : documentNumbers = true ∨ ∀ x ∈ m.exponent, natOf x.digits ≤ 324 := by
      refine hok.imp_right ?_
      rintro ⟨n, hn, hbounded⟩ x hx
      obtain ⟨y, hy, hdigits⟩ := exponent_of_text hn hx
      exact hdigits ▸ hbounded.exponent y hy
    have hcheck : (documentNumbers || finiteNumber (sliced input r₃)) = true := by
      rw [hsplit, sliced_append, Bool.or_eq_true]
      refine hok.imp_right ?_
      rintro ⟨n, hn, hbounded⟩
      rw [← hn]
      exact (finiteNumber_text n).mpr ⟨hbounded.length, hbounded.integer, hbounded.finite, hbounded.nonzero⟩
    simp only [number, sign_eq, integer_eq, fraction_eq, hint, hfraction, Option.map_some, Option.bind_some,
      exponent_iff.mpr ⟨m.exponent, hexponent, hsmall⟩, if_pos hcheck]

theorem literal_iff {v value input rest} :
    literal v input = some rest ↔ scanLiteral v value input = some (value, rest) := by
  have hbefore : utf8 v <+: input ↔ ¬ (input.length < (utf8 v).length ∨ input.take (utf8 v).length ≠ utf8 v) := by
    rw [List.prefix_iff_eq_take, not_or, not_lt, not_ne_iff]
    refine ⟨fun h => ⟨?_, h.symm⟩, fun h => h.2.symm⟩
    rw [h, List.length_take]
    omega
  unfold literal scanLiteral
  by_cases h : utf8 v <+: input
  · rw [if_neg (hbefore.mp h), if_pos h]
    simp
  · rw [if_pos (not_not.mp fun hnot => h (hbefore.mpr hnot)), if_neg h]
    simp

end Sessionless.StrictJson
