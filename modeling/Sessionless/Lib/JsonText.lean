import Sessionless.Lib.Delimited
import Sessionless.Lib.Json

/-!
# The text of a JSON value

The characters, digits and blanks of JSON text, and the text that `marshal` writes: it tells where it
ends, as long as no digit follows it, so `marshal` is injective.
-/

namespace Sessionless.Lib.Json

/-! ## Strings -/

def hexValue (b : UInt8) : Option Nat :=
  let n := b.toNat
  if 48 ≤ n ∧ n ≤ 57 then some (n - 48)
  else if 97 ≤ n ∧ n ≤ 102 then some (n - 87)
  else if 65 ≤ n ∧ n ≤ 70 then some (n - 55)
  else none

def hexQuad (a b c d : UInt8) : Option Nat :=
  (hexValue a).bind fun a => (hexValue b).bind fun b => (hexValue c).bind fun c => (hexValue d).map fun d =>
    ((a * 16 + b) * 16 + c) * 16 + d

/-- The bytes of a character of the basic plane. A surrogate is none. -/
def encodeRune (n : Nat) : Option Bytes :=
  if n < 0x80 then some [UInt8.ofNat n]
  else if n < 0x800 then some [UInt8.ofNat (0xc0 + n / 64), UInt8.ofNat (0x80 + n % 64)]
  else if 0xd800 ≤ n ∧ n < 0xe000 then none
  else some [UInt8.ofNat (0xe0 + n / 4096), UInt8.ofNat (0x80 + n / 64 % 64), UInt8.ofNat (0x80 + n % 64)]

def unescape (c : UInt8) : Option UInt8 :=
  let n := c.toNat
  if n = 34 ∨ n = 92 ∨ n = 47 then some c
  else if n = 98 then some 8
  else if n = 102 then some 12
  else if n = 110 then some 10
  else if n = 114 then some 13
  else if n = 116 then some 9
  else none

/-- The next character of a string, or `none` for its closing quote, and what follows. -/
def readChar : Bytes → Option (Option Bytes × Bytes)
  | [] => none
  | b :: rest =>
    if b.toNat = 34 then some (none, rest)
    else if b.toNat = 92 then
      match rest with
      | [] => none
      | c :: rest =>
        if c.toNat = 117 then
          match rest with
          | h1 :: h2 :: h3 :: h4 :: rest => ((hexQuad h1 h2 h3 h4).bind encodeRune).map fun rune => (some rune, rest)
          | _ => none
        else (unescape c).map fun b => (some [b], rest)
    else if b.toNat < 32 then none
    else some (some [b], rest)

/-! ## Numbers and blanks -/

def isDigit (b : UInt8) : Bool := decide (48 ≤ b.toNat ∧ b.toNat ≤ 57)

def continuesNumber (b : UInt8) : Bool := isDigit b || b.toNat = 46 || b.toNat = 101 || b.toNat = 69

def Stops (rest : Bytes) : Prop := rest.head?.any continuesNumber = false

theorem stops_cons {b rest} (h : continuesNumber b = false) : Stops (b :: rest) := h

def isBlank (b : UInt8) : Bool := b.toNat = 32 || b.toNat = 9 || b.toNat = 10 || b.toNat = 13

def skipBlanks (input : Bytes) : Bytes := input.dropWhile isBlank

theorem skipBlanks_cons {b rest} (h : isBlank b = false) : skipBlanks (b :: rest) = b :: rest := by
  simp [skipBlanks, h]

/-! ## A written string ends at its quote -/

theorem hexValue_hexDigit {n} (h : n < 16) : hexValue (hexDigit n) = some n := by
  revert n
  decide

theorem hexQuad_hexDigit {n} (h : n < 256) :
    hexQuad 48 48 (hexDigit (n / 16)) (hexDigit (n % 16)) = some n := by
  have hzero : hexValue 48 = some 0 := by decide
  have hhigh := hexValue_hexDigit (show n / 16 < 16 by omega)
  have hlow := hexValue_hexDigit (show n % 16 < 16 by omega)
  simp only [hexQuad, hzero, hhigh, hlow, Option.bind_some, Option.map_some, Option.some.injEq]
  omega

theorem readChar_escapeByte (b : UInt8) (rest : Bytes) :
    readChar (escapeByte b ++ rest) = some (some [b], rest) := by
  have hb := b.toNat_lt
  have hbyte {n : UInt8} (h : b.toNat = n.toNat) : b = n := UInt8.toNat_inj.1 h
  unfold escapeByte
  simp only
  split_ifs with hquote hline hreturn htab hback hfeed hother
  · rcases hquote with h | h <;> simp [readChar, unescape, h]
  · simp [readChar, unescape, @hbyte 10 hline]
  · simp [readChar, unescape, @hbyte 13 hreturn]
  · simp [readChar, unescape, @hbyte 9 htab]
  · simp [readChar, unescape, @hbyte 8 hback]
  · simp [readChar, unescape, @hbyte 12 hfeed]
  · have hrune : encodeRune b.toNat = some [b] := by
      rw [encodeRune, if_pos (by omega), UInt8.ofNat_toNat]
    simp [readChar, hexQuad_hexDigit hb, hrune]
  · simp only [List.singleton_append, readChar]
    rw [if_neg (by omega), if_neg (by omega), if_neg (by omega)]

theorem readChar_escape (value : Bytes) :
    value = [] ∨ ∃ char tail, value = char ++ tail ∧ tail.length < value.length ∧
      ∀ rest, readChar (escape value ++ rest) = some (some char, escape tail ++ rest) := by
  induction value using escape.induct with
  | case1 tail =>
    refine .inr ⟨[0xe2, 0x80, 0xa8], tail, rfl, by simp; omega, fun rest => ?_⟩
    simp only [escape]
    rfl
  | case2 tail =>
    refine .inr ⟨[0xe2, 0x80, 0xa9], tail, rfl, by simp; omega, fun rest => ?_⟩
    simp only [escape]
    rfl
  | case3 b tail h1 h2 =>
    have hescape : escape (b :: tail) = escapeByte b ++ escape tail := by
      rw [escape]
      · exact h1
      · exact h2
    refine .inr ⟨[b], tail, rfl, by simp, fun rest => ?_⟩
    rw [hescape, List.append_assoc, readChar_escapeByte]
  | case4 => exact .inl rfl

theorem escape_peel {left right rest rest'} (h : escape left ++ 34 :: rest = escape right ++ 34 :: rest') :
    left = right ∧ rest = rest' := by
  have hclose : ∀ rest, readChar (escape [] ++ 34 :: rest) = some (none, rest) := fun _ => rfl
  rcases readChar_escape left with rfl | ⟨char, tail, rfl, hlength, hread⟩
  · rcases readChar_escape right with rfl | ⟨char', tail', rfl, -, hread'⟩
    · exact ⟨rfl, (List.cons.inj h).2⟩
    · have hchars := (hclose rest).symm.trans ((congrArg readChar h).trans (hread' _))
      cases hchars
  · rcases readChar_escape right with rfl | ⟨char', tail', rfl, -, hread'⟩
    · have hchars := (hread _).symm.trans ((congrArg readChar h).trans (hclose rest'))
      cases hchars
    · have hchars := (hread _).symm.trans ((congrArg readChar h).trans (hread' _))
      simp only [Option.some.injEq, Prod.mk.injEq] at hchars
      obtain ⟨rfl, htail⟩ := hchars
      obtain ⟨rfl, hrest⟩ := escape_peel htail
      exact ⟨rfl, hrest⟩
termination_by left.length

theorem quote_peel {left right rest rest'} (h : quote left ++ rest = quote right ++ rest') :
    left = right ∧ rest = rest' := by
  simp only [quote, List.cons_append, List.append_assoc, List.nil_append, List.cons.injEq, true_and] at h
  exact escape_peel h

/-! ## A written number ends before what is no digit -/

theorem isDigit_digitByte {c} (h : c.isDigit = true) :
    isDigit (UInt8.ofNat c.toNat) = true ∧ Char.ofNat (UInt8.ofNat c.toNat).toNat = c := by
  have hrange : 48 ≤ c.toNat ∧ c.toNat ≤ 57 := by
    simp only [Char.isDigit, Bool.and_eq_true, decide_eq_true_eq] at h
    exact ⟨h.1, h.2⟩
  have hbyte : (UInt8.ofNat c.toNat).toNat = c.toNat := by
    rw [UInt8.toNat_ofNat']
    omega
  refine ⟨?_, ?_⟩
  · simp only [isDigit, hbyte, decide_eq_true_eq]
    exact hrange
  · rw [hbyte, Char.ofNat_toNat]

theorem takeWhile_append_stop {digits rest} (hd : ∀ b ∈ digits, isDigit b = true) (hs : Stops rest) :
    (digits ++ rest).takeWhile isDigit = digits ∧ (digits ++ rest).dropWhile isDigit = rest := by
  have hrest : rest.takeWhile isDigit = [] ∧ rest.dropWhile isDigit = rest := by
    cases rest with
    | nil => exact ⟨rfl, rfl⟩
    | cons b rest =>
      have hb : isDigit b = false := by
        simp only [Stops, continuesNumber, List.head?_cons, Option.any_some, Bool.or_eq_false_iff] at hs
        exact hs.1.1.1
      simp [hb]
  rw [List.takeWhile_append_of_pos hd, List.dropWhile_append_of_pos hd, hrest.1, hrest.2]
  simp

theorem isDigit_toDigits (n : Nat) : ∀ b ∈ (Nat.toDigits 10 n).map (fun c => UInt8.ofNat c.toNat), isDigit b = true := by
  intro b hb
  obtain ⟨c, hc, rfl⟩ := List.mem_map.1 hb
  exact (isDigit_digitByte (Nat.isDigit_of_mem_toDigits (by decide) (by decide) hc)).1

theorem chars_toDigits (n : Nat) :
    ((Nat.toDigits 10 n).map (fun c => UInt8.ofNat c.toNat)).map (fun b => Char.ofNat b.toNat) = Nat.toDigits 10 n := by
  have hback : ∀ c ∈ Nat.toDigits 10 n, Char.ofNat (UInt8.ofNat c.toNat).toNat = c := fun c hc =>
    (isDigit_digitByte (Nat.isDigit_of_mem_toDigits (by decide) (by decide) hc)).2
  rw [List.map_map]
  exact (List.map_congr_left hback).trans (List.map_id _)

theorem toDigits_peel {m n rest rest'} (hs : Stops rest) (hs' : Stops rest')
    (h : (Nat.toDigits 10 m).map (fun c => UInt8.ofNat c.toNat) ++ rest =
      (Nat.toDigits 10 n).map (fun c => UInt8.ofNat c.toNat) ++ rest') : m = n ∧ rest = rest' := by
  obtain ⟨htake, hdrop⟩ := takeWhile_append_stop (isDigit_toDigits m) hs
  obtain ⟨htake', hdrop'⟩ := takeWhile_append_stop (isDigit_toDigits n) hs'
  rw [h, htake'] at htake
  rw [h, hdrop'] at hdrop
  have hdigits : Nat.toDigits 10 m = Nat.toDigits 10 n := by rw [← chars_toDigits m, ← chars_toDigits n, htake]
  refine ⟨?_, hdrop.symm⟩
  rw [← @Nat.ofDigitChars_ten_toDigits m, hdigits, Nat.ofDigitChars_ten_toDigits]

theorem decimal_cons (n : Int) : ∃ b tail, decimal n = b :: tail ∧ if n < 0 then b.toNat = 45 else isDigit b = true := by
  cases n with
  | negSucc m => exact ⟨45, _, rfl, by rw [if_pos (Int.negSucc_lt_zero m)]; rfl⟩
  | ofNat m =>
    cases hd : decimal (.ofNat m) with
    | nil => simp [decimal] at hd
    | cons b tail =>
      refine ⟨b, tail, rfl, ?_⟩
      rw [if_neg (by simp)]
      exact isDigit_toDigits m b (by rw [show List.map _ _ = b :: tail from hd]; exact List.mem_cons_self)

theorem decimal_peel {m n rest rest'} (hs : Stops rest) (hs' : Stops rest') (h : decimal m ++ rest = decimal n ++ rest') :
    m = n ∧ rest = rest' := by
  obtain ⟨b, tail, hb, hsign⟩ := decimal_cons m
  obtain ⟨c, tail', hc, hsign'⟩ := decimal_cons n
  have hhead : b = c := by
    rw [hb, hc] at h
    exact (List.cons.inj h).1
  subst hhead
  simp only [isDigit, decide_eq_true_eq] at hsign hsign'
  cases m with
  | ofNat m =>
    cases n with
    | ofNat n =>
      obtain ⟨rfl, hrest⟩ := toDigits_peel hs hs' h
      exact ⟨rfl, hrest⟩
    | negSucc n =>
      rw [if_neg (by simp)] at hsign
      rw [if_pos (Int.negSucc_lt_zero n)] at hsign'
      omega
  | negSucc m =>
    cases n with
    | ofNat n =>
      rw [if_pos (Int.negSucc_lt_zero m)] at hsign
      rw [if_neg (by simp)] at hsign'
      omega
    | negSucc n =>
      obtain ⟨hmn, hrest⟩ := toDigits_peel hs hs' (List.cons.inj h).2
      exact ⟨congrArg Int.negSucc (Nat.succ.inj hmn), hrest⟩

/-! ## A written value tells where it ends -/

/-- The kind of a value, as the first byte of its text gives it. -/
def kind : Json → Nat
  | null => 0
  | bool true => 1
  | bool false => 2
  | text _ => 3
  | arr _ => 4
  | obj _ => 5
  | num _ => 6

def kindOf (b : UInt8) : Nat :=
  if b = 110 then 0 else if b = 116 then 1 else if b = 102 then 2 else if b = 34 then 3 else if b = 91 then 4
  else if b = 123 then 5 else 6

theorem marshal_cons (value : Json) : ∃ b tail, marshal value = b :: tail ∧ kindOf b = value.kind ∧ b ≠ 93 := by
  cases value with
  | null => exact ⟨_, _, rfl, rfl, by decide⟩
  | bool value =>
    cases value with
    | false => exact ⟨_, _, rfl, rfl, by decide⟩
    | true => exact ⟨_, _, rfl, rfl, by decide⟩
  | num value =>
    obtain ⟨b, tail, hd, hb⟩ := decimal_cons value
    have hrange : b.toNat ≤ 57 ∧ b.toNat ≠ 34 := by
      simp only [isDigit, decide_eq_true_eq] at hb
      split_ifs at hb <;> omega
    have hne : ∀ c : UInt8, 57 < c.toNat ∨ c.toNat = 34 → b ≠ c := by
      rintro c hc rfl
      omega
    refine ⟨b, tail, hd, ?_, hne 93 (by decide)⟩
    simp only [kindOf, kind, hne 110 (by decide), hne 116 (by decide), hne 102 (by decide), hne 34 (by decide),
      hne 91 (by decide), hne 123 (by decide), if_false]
  | text value | arr items | obj fields => exact ⟨_, _, rfl, rfl, by decide⟩

theorem kind_eq {value other rest rest'} (h : marshal value ++ rest = marshal other ++ rest') : value.kind = other.kind := by
  obtain ⟨b, tail, hb, hkind, -⟩ := marshal_cons value
  obtain ⟨c, tail', hc, hkind', -⟩ := marshal_cons other
  rw [hb, hc] at h
  rw [← hkind, ← hkind', (List.cons.inj h).1]

theorem marshalItems_cons (item : Json) (items : List Json) (rest : Bytes) : ∃ after,
    marshalItems (item :: items) ++ 93 :: rest = marshal item ++ after ∧ Stops after ∧
      (items = [] ∧ after = 93 :: rest ∨ items ≠ [] ∧ after = 44 :: (marshalItems items ++ 93 :: rest)) := by
  cases items with
  | nil => exact ⟨93 :: rest, rfl, rfl, .inl ⟨rfl, rfl⟩⟩
  | cons next items =>
    exact ⟨44 :: (marshalItems (next :: items) ++ 93 :: rest), by simp [marshalItems], rfl, .inr ⟨by simp, rfl⟩⟩

theorem marshalFields_cons (name : String) (value : Json) (fields : List (String × Json)) (rest : Bytes) : ∃ after,
    marshalFields ((name, value) :: fields) ++ 125 :: rest = quote (utf8 name) ++ (58 :: (marshal value ++ after)) ∧
      Stops after ∧ (fields = [] ∧ after = 125 :: rest ∨ fields ≠ [] ∧ after = 44 :: (marshalFields fields ++ 125 :: rest)) := by
  cases fields with
  | nil => exact ⟨125 :: rest, by simp [marshalFields], rfl, .inl ⟨rfl, rfl⟩⟩
  | cons next fields =>
    exact ⟨44 :: (marshalFields (next :: fields) ++ 125 :: rest), by simp [marshalFields], rfl, .inr ⟨by simp, rfl⟩⟩

theorem after_eq {α : Type} {xs ys : List α} {close : UInt8} {after text text' rest rest' : Bytes} (hclose : close ≠ 44)
    (hx : xs = [] ∧ after = close :: rest ∨ xs ≠ [] ∧ after = 44 :: text)
    (hy : ys = [] ∧ after = close :: rest' ∨ ys ≠ [] ∧ after = 44 :: text') :
    xs = [] ∧ ys = [] ∧ rest = rest' ∨ text = text' := by
  rcases hx with ⟨hx, heq⟩ | ⟨-, heq⟩
  · rcases hy with ⟨hy, heq'⟩ | ⟨-, heq'⟩
    · exact .inl ⟨hx, hy, (List.cons.inj (heq.symm.trans heq')).2⟩
    · exact absurd (List.cons.inj (heq.symm.trans heq')).1 hclose
  · rcases hy with ⟨-, heq'⟩ | ⟨-, heq'⟩
    · exact absurd (List.cons.inj (heq'.symm.trans heq)).1 hclose
    · exact .inr (List.cons.inj (heq.symm.trans heq')).2

mutual

theorem marshal_peel (value : Json) {other rest rest'} (hs : Stops rest) (hs' : Stops rest')
    (h : marshal value ++ rest = marshal other ++ rest') : value = other ∧ rest = rest' := by
  have hkind := kind_eq h
  cases value with
  | null =>
    cases other with
    | null => exact ⟨rfl, List.append_cancel_left h⟩
    | bool other => cases other <;> cases hkind
    | _ => cases hkind
  | bool value =>
    cases other with
    | bool other =>
      obtain rfl : value = other := by cases value <;> cases other <;> first | rfl | cases hkind
      exact ⟨rfl, List.append_cancel_left h⟩
    | _ => cases value <;> cases hkind
  | num value =>
    cases other with
    | num other =>
      obtain ⟨rfl, hrest⟩ := decimal_peel hs hs' h
      exact ⟨rfl, hrest⟩
    | bool other => cases other <;> cases hkind
    | _ => cases hkind
  | text value =>
    cases other with
    | text other =>
      obtain ⟨rfl, hrest⟩ := quote_peel h
      exact ⟨rfl, hrest⟩
    | bool other => cases other <;> cases hkind
    | _ => cases hkind
  | arr items =>
    cases other with
    | arr others =>
      simp only [marshal, List.cons_append, List.append_assoc, List.nil_append, List.cons.injEq, true_and] at h
      obtain ⟨rfl, hrest⟩ := marshalItems_peel items h
      exact ⟨rfl, hrest⟩
    | bool other => cases other <;> cases hkind
    | _ => cases hkind
  | obj fields =>
    cases other with
    | obj others =>
      simp only [marshal, List.cons_append, List.append_assoc, List.nil_append, List.cons.injEq, true_and] at h
      obtain ⟨rfl, hrest⟩ := marshalFields_peel fields h
      exact ⟨rfl, hrest⟩
    | bool other => cases other <;> cases hkind
    | _ => cases hkind

theorem marshalItems_peel (items : List Json) {others rest rest'}
    (h : marshalItems items ++ 93 :: rest = marshalItems others ++ 93 :: rest') : items = others ∧ rest = rest' := by
  cases items with
  | nil =>
    cases others with
    | nil => exact ⟨rfl, (List.cons.inj h).2⟩
    | cons other others =>
      obtain ⟨after, hafter, -⟩ := marshalItems_cons other others rest'
      obtain ⟨b, tail, hb, -, hne⟩ := marshal_cons other
      rw [hafter, hb] at h
      exact absurd (List.cons.inj h).1.symm hne
  | cons item items =>
    obtain ⟨after, hafter, hstops, hend⟩ := marshalItems_cons item items rest
    cases others with
    | nil =>
      obtain ⟨b, tail, hb, -, hne⟩ := marshal_cons item
      rw [hafter, hb] at h
      exact absurd (List.cons.inj h).1 hne
    | cons other others =>
      obtain ⟨after', hafter', hstops', hend'⟩ := marshalItems_cons other others rest'
      rw [hafter, hafter'] at h
      obtain ⟨rfl, rfl⟩ := marshal_peel item hstops hstops' h
      rcases after_eq (by decide) hend hend' with ⟨rfl, rfl, hrest⟩ | htext
      · exact ⟨rfl, hrest⟩
      · obtain ⟨rfl, hrest⟩ := marshalItems_peel items htext
        exact ⟨rfl, hrest⟩

theorem marshalFields_peel (fields : List (String × Json)) {others rest rest'}
    (h : marshalFields fields ++ 125 :: rest = marshalFields others ++ 125 :: rest') : fields = others ∧ rest = rest' := by
  cases fields with
  | nil =>
    cases others with
    | nil => exact ⟨rfl, (List.cons.inj h).2⟩
    | cons other others =>
      obtain ⟨after, hafter, -⟩ := marshalFields_cons other.1 other.2 others rest'
      rw [hafter] at h
      cases (List.cons.inj h).1
  | cons field fields =>
    obtain ⟨name, value⟩ := field
    obtain ⟨after, hafter, hstops, hend⟩ := marshalFields_cons name value fields rest
    cases others with
    | nil =>
      rw [hafter] at h
      cases (List.cons.inj h).1
    | cons other others =>
      obtain ⟨name', value'⟩ := other
      obtain ⟨after', hafter', hstops', hend'⟩ := marshalFields_cons name' value' others rest'
      rw [hafter, hafter'] at h
      obtain ⟨hname, hvalue⟩ := quote_peel h
      obtain rfl := utf8_inj hname
      obtain ⟨rfl, rfl⟩ := marshal_peel value hstops hstops' (List.cons.inj hvalue).2
      rcases after_eq (by decide) hend hend' with ⟨rfl, rfl, hrest⟩ | htext
      · exact ⟨rfl, hrest⟩
      · obtain ⟨rfl, hrest⟩ := marshalFields_peel fields htext
        exact ⟨rfl, hrest⟩

end

theorem marshal_inj {left right} (h : marshal left = marshal right) : left = right :=
  (@marshal_peel left right [] [] rfl rfl (congrArg (· ++ []) h)).1

/-! ## Byte strings -/

theorem toNat_base64Digit {n} (h : n < 64) : (base64Digit n).toNat =
    if n < 26 then 65 + n else if n < 52 then 71 + n else if n < 62 then n - 4 else if n = 62 then 43 else 47 := by
  rw [base64Digit, UInt8.toNat_ofNat']
  split_ifs <;> omega

theorem base64Digit_inj {m n} (hm : m < 64) (hn : n < 64) (h : base64Digit m = base64Digit n) : m = n := by
  have htoNat := congrArg UInt8.toNat h
  rw [toNat_base64Digit hm, toNat_base64Digit hn] at htoNat
  split_ifs at htoNat <;> omega

theorem base64Digit_ne {n} (h : n < 64) : base64Digit n ≠ 61 := by
  intro heq
  have htoNat := congrArg UInt8.toNat heq
  rw [toNat_base64Digit h] at htoNat
  simp only [UInt8.reduceToNat] at htoNat
  split_ifs at htoNat <;> omega

theorem base64_first {a a' : UInt8} {x x'} (hx : x < 16) (hx' : x' < 16)
    (h : base64Digit (a.toNat / 4) = base64Digit (a'.toNat / 4))
    (h' : base64Digit (a.toNat % 4 * 16 + x) = base64Digit (a'.toNat % 4 * 16 + x')) : a = a' ∧ x = x' := by
  have ha := a.toNat_lt
  have ha' := a'.toNat_lt
  have hhigh := base64Digit_inj (by omega) (by omega) h
  have hlow := base64Digit_inj (by omega) (by omega) h'
  exact ⟨UInt8.toNat_inj.mp (by omega), by omega⟩

theorem base64_second {b b' : UInt8} {y y'} (hy : y < 4) (hy' : y' < 4) (h : b.toNat / 16 = b'.toNat / 16)
    (h' : base64Digit (b.toNat % 16 * 4 + y) = base64Digit (b'.toNat % 16 * 4 + y')) : b = b' ∧ y = y' := by
  have hlow := base64Digit_inj (by omega) (by omega) h'
  exact ⟨UInt8.toNat_inj.mp (by omega), by omega⟩

theorem base64_inj {left right} (h : base64 left = base64 right) : left = right := by
  have hlow (c : UInt8) : c.toNat / 16 < 16 ∧ c.toNat / 64 < 4 := by
    have hc := c.toNat_lt
    omega
  have hpad (n : Nat) (hn : n < 64) := base64Digit_ne hn
  induction left using base64.induct generalizing right with
  | case1 => cases right using base64.fun_cases <;> simp [base64] at h ⊢
  | case2 a =>
    cases right using base64.fun_cases with
    | case1 => simp [base64] at h
    | case2 a' =>
      simp only [base64, List.cons.injEq] at h
      rw [(@base64_first a a' 0 0 (by omega) (by omega) h.1 h.2.1).1]
    | case3 a' b' =>
      simp only [base64, List.cons.injEq] at h
      exact absurd h.2.2.1.symm (hpad _ (by omega))
    | case4 a' b' c' rest' =>
      simp only [base64, List.cons.injEq] at h
      exact absurd h.2.2.1.symm (hpad _ (by have := hlow c'; omega))
  | case3 a b =>
    cases right using base64.fun_cases with
    | case1 => simp [base64] at h
    | case2 a' =>
      simp only [base64, List.cons.injEq] at h
      exact absurd h.2.2.1 (hpad _ (by omega))
    | case3 a' b' =>
      simp only [base64, List.cons.injEq] at h
      obtain ⟨rfl, hb⟩ := base64_first (hlow b).1 (hlow b').1 h.1 h.2.1
      rw [(@base64_second b b' 0 0 (by omega) (by omega) hb h.2.2.1).1]
    | case4 a' b' c' rest' =>
      simp only [base64, List.cons.injEq] at h
      exact absurd h.2.2.2.1.symm (hpad _ (by omega))
  | case4 a b c rest ih =>
    cases right using base64.fun_cases with
    | case1 => simp [base64] at h
    | case2 a' =>
      simp only [base64, List.cons.injEq] at h
      exact absurd h.2.2.1 (hpad _ (by have := hlow c; omega))
    | case3 a' b' =>
      simp only [base64, List.cons.injEq] at h
      exact absurd h.2.2.2.1 (hpad _ (by omega))
    | case4 a' b' c' rest' =>
      simp only [base64, List.cons.injEq] at h
      obtain ⟨rfl, hb⟩ := base64_first (hlow b).1 (hlow b').1 h.1 h.2.1
      obtain ⟨rfl, hc⟩ := base64_second (hlow c).2 (hlow c').2 hb h.2.2.1
      have hlast := base64Digit_inj (by omega) (by omega) h.2.2.2.1
      obtain rfl : c = c' := UInt8.toNat_inj.mp (by omega)
      rw [ih h.2.2.2.2]

/-! ## Values that are equal -/

theorem str_eq {left right} : str left = str right ↔ left = right :=
  ⟨fun h => utf8_inj (text.inj h), fun h => congrArg str h⟩

theorem nat_eq {left right} : nat left = nat right ↔ left = right :=
  ⟨fun h => Int.ofNat.inj (num.inj h), fun h => congrArg nat h⟩

theorem bytes_eq {left right} : bytes left = bytes right ↔ left = right :=
  ⟨fun h => base64_inj (text.inj h), fun h => congrArg bytes h⟩

end Sessionless.Lib.Json
