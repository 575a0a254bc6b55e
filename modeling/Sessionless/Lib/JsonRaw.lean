import Mathlib.Data.List.TakeWhile
import Sessionless.Lib.JsonText

/-!
# JSON text as it was written

Go's decoder first checks the whole text against the grammar, with a bound on how deep
values nest, and hands parts of it on as they stand. A `Raw` value keeps numbers and the
insides of strings as they were written.
-/

namespace Sessionless.Lib

inductive Raw
  | null
  | bool (value : Bool)
  | num (digits : Bytes)
  | str (body : Bytes)
  | arr (items : List Raw)
  | obj (members : List (Bytes × Raw))

namespace Raw

open Json

/-! ## Strings -/

/-- One character of a string as it is written: a byte, or one of the escapes JSON knows. -/
inductive Char : Bytes → Prop where
  | byte {b : UInt8} (hquote : b ≠ 34) (hslash : b ≠ 92) (hprint : 32 ≤ b.toNat) : Char [b]
  | escape {c : UInt8} (hc : (unescape c).isSome = true) : Char [92, c]
  | unicode {h₁ h₂ h₃ h₄ : UInt8} (hhex : (hexQuad h₁ h₂ h₃ h₄).isSome = true) : Char [92, 117, h₁, h₂, h₃, h₄]

inductive Body : Bytes → Prop where
  | nil : Body []
  | cons {char rest : Bytes} (hchar : Char char) (h : Body rest) : Body (char ++ rest)

/-- The next character of a string, or `none` for its closing quote, and what follows. -/
def scanChar : Bytes → Option (Option Bytes × Bytes)
  | [] => none
  | b :: rest =>
    if b = 34 then some (none, rest)
    else if b = 92 then
      match rest with
      | [] => none
      | c :: rest =>
        if c = 117 then
          match rest with
          | h₁ :: h₂ :: h₃ :: h₄ :: rest =>
            if (hexQuad h₁ h₂ h₃ h₄).isSome then some (some [92, 117, h₁, h₂, h₃, h₄], rest) else none
          | _ => none
        else if (unescape c).isSome then some (some [92, c], rest)
        else none
    else if b.toNat < 32 then none
    else some (some [b], rest)

/-- The inside of a string whose opening quote has been read, and what follows the closing one. -/
def scanBody : Nat → Bytes → Option (Bytes × Bytes)
  | 0, _ => none
  | fuel + 1, input =>
    match scanChar input with
    | none => none
    | some (none, rest) => some ([], rest)
    | some (some char, rest) => (scanBody fuel rest).map fun read => (char ++ read.1, read.2)

theorem Char.scan {char rest} (h : Char char) : scanChar (char ++ rest) = some (some char, rest) := by
  cases h with
  | byte hquote hslash hprint => simp [scanChar, hquote, hslash, hprint]
  | @escape c hc =>
    have hne : c ≠ 117 := by
      rintro rfl
      exact absurd hc (by decide)
    simp [scanChar, hne, hc]
  | unicode hhex => simp [scanChar, hhex]

theorem Char.length_pos {char} (h : Char char) : 0 < char.length := by
  cases h with
  | byte | escape | unicode => simp

theorem scanChar_ok {input char rest} (h : scanChar input = some (some char, rest)) :
    Char char ∧ input = char ++ rest := by
  unfold scanChar at h
  split at h
  · cases h
  · rename_i b tail
    split at h
    · cases h
    · rename_i hquote
      split at h
      · rename_i hslash
        subst hslash
        split at h
        · cases h
        · rename_i c tail
          split at h
          · rename_i hu
            subst hu
            split at h
            · split at h
              · cases h
                exact ⟨.unicode ‹_›, rfl⟩
              · cases h
            · cases h
          · split at h
            · cases h
              exact ⟨.escape ‹_›, rfl⟩
            · cases h
      · rename_i hslash
        split at h
        · cases h
        · rename_i hprint
          cases h
          exact ⟨.byte hquote hslash (by omega), rfl⟩

theorem Body.scan {body rest fuel} (h : Body body) (hf : body.length < fuel) :
    scanBody fuel (body ++ 34 :: rest) = some (body, rest) := by
  induction h generalizing fuel with
  | nil =>
    obtain ⟨fuel, rfl⟩ : ∃ k, fuel = k + 1 := ⟨fuel - 1, by omega⟩
    rfl
  | cons hchar h ih =>
    obtain ⟨fuel, rfl⟩ : ∃ k, fuel = k + 1 := ⟨fuel - 1, by omega⟩
    have hpos := hchar.length_pos
    rw [List.length_append] at hf
    rw [List.append_assoc]
    simp only [scanBody, hchar.scan, ih (show _ < fuel by omega)]
    rfl

theorem scanBody_ok {fuel input body rest} (h : scanBody fuel input = some (body, rest)) : Body body := by
  induction fuel generalizing input body with
  | zero => cases h
  | succ fuel ih =>
    simp only [scanBody] at h
    split at h
    · cases h
    · cases h
      exact .nil
    · rename_i char tail hchar
      obtain ⟨⟨read, rest⟩, hread, heq⟩ := Option.map_eq_some_iff.mp h
      cases heq
      exact .cons (scanChar_ok hchar).1 (ih hread)

/-! ## Numbers -/

/-- The digits at the start of a text, and what follows them. -/
def spanDigits (input : Bytes) : Bytes × Bytes := (input.takeWhile isDigit, input.dropWhile isDigit)

/-- A zero stands alone. -/
def scanInt (input : Bytes) : Option (Bytes × Bytes) :=
  match spanDigits input with
  | ([], _) => none
  | (d :: digits, rest) => if d = 48 then some ([48], digits ++ rest) else some (d :: digits, rest)

def scanMarked (mark : Bytes) (input : Bytes) : Option (Bytes × Bytes) :=
  match spanDigits input with
  | ([], _) => none
  | (digits, rest) => some (mark ++ digits, rest)

def scanFraction : Bytes → Option (Bytes × Bytes)
  | [] => some ([], [])
  | b :: rest => if b = 46 then scanMarked [46] rest else some ([], b :: rest)

def scanExponent : Bytes → Option (Bytes × Bytes)
  | [] => some ([], [])
  | b :: rest =>
    if b = 101 ∨ b = 69 then
      match rest with
      | [] => none
      | sign :: tail => if sign = 43 ∨ sign = 45 then scanMarked [b, sign] tail else scanMarked [b] rest
    else some ([], b :: rest)

def scanSign : Bytes → Bytes × Bytes
  | [] => ([], [])
  | b :: rest => if b = 45 then ([45], rest) else ([], b :: rest)

def scanNumber (input : Bytes) : Option (Bytes × Bytes) := do
  let (sign, rest) := scanSign input
  let (int, rest) ← scanInt rest
  let (fraction, rest) ← scanFraction rest
  let (exponent, rest) ← scanExponent rest
  return (sign ++ int ++ fraction ++ exponent, rest)

/-- The text of a number: it is read to its end wherever it is followed by something that does not continue it. -/
def Number (digits : Bytes) : Prop :=
  digits ≠ [] ∧ ∀ rest, Stops rest → scanNumber (digits ++ rest) = some (digits, rest)

/-! Each part of a number is read back when what follows does not continue it. -/

def NoDigit (rest : Bytes) : Prop := rest.head?.any isDigit = false

theorem spanDigits_append {digits rest} (hd : ∀ b ∈ digits, isDigit b = true) (hr : NoDigit rest) :
    spanDigits (digits ++ rest) = (digits, rest) := by
  have hrest : rest.takeWhile isDigit = [] ∧ rest.dropWhile isDigit = rest := by
    cases rest with
    | nil => exact ⟨rfl, rfl⟩
    | cons b rest =>
      have hb : isDigit b = false := hr
      simp [hb]
  rw [spanDigits, List.takeWhile_append_of_pos hd, List.dropWhile_append_of_pos hd, hrest.1, hrest.2, List.append_nil]

theorem spanDigits_digits {input digits rest} (h : spanDigits input = (digits, rest)) :
    ∀ b ∈ digits, isDigit b = true := by
  cases h
  exact fun b hb => List.mem_takeWhile_imp hb

theorem scanInt_ok {input int rest} (h : scanInt input = some (int, rest)) :
    (∃ d digits, int = d :: digits ∧ isDigit d = true) ∧
      ∀ rest', NoDigit rest' → scanInt (int ++ rest') = some (int, rest') := by
  unfold scanInt at h
  split at h
  · cases h
  · rename_i d digits tail hspan
    have hdigits := spanDigits_digits hspan
    split at h
    · cases h
      refine ⟨⟨48, [], rfl, by decide⟩, ?_⟩
      intro rest' _
      have hspan' : spanDigits (48 :: rest') = (48 :: rest'.takeWhile isDigit, rest'.dropWhile isDigit) := by
        simp [spanDigits, show isDigit 48 = true by decide]
      simp [scanInt, hspan', List.takeWhile_append_dropWhile]
    · rename_i hzero
      cases h
      refine ⟨⟨d, digits, rfl, hdigits d List.mem_cons_self⟩, ?_⟩
      intro rest' hrest'
      simp only [scanInt, spanDigits_append hdigits hrest', if_neg hzero]

theorem scanMarked_ok {mark input marked rest} (h : scanMarked mark input = some (marked, rest)) :
    ∃ d digits, marked = mark ++ d :: digits ∧ isDigit d = true ∧
      ∀ rest', NoDigit rest' → scanMarked mark (d :: digits ++ rest') = some (marked, rest') := by
  unfold scanMarked at h
  split at h
  · cases h
  · rename_i digits rest' hne hspan
    have hdigits := spanDigits_digits hspan
    cases h
    cases digits with
    | nil => exact absurd rfl hne
    | cons d digits =>
      refine ⟨d, digits, rfl, hdigits d List.mem_cons_self, ?_⟩
      intro rest' hrest'
      simp only [scanMarked, spanDigits_append hdigits hrest']

/-- A fraction starts with a point, an exponent with a letter; either is left out when the other part follows. -/
theorem scanFraction_ok {input fraction rest} (h : scanFraction input = some (fraction, rest)) :
    (fraction = [] ∨ ∃ tail, fraction = 46 :: tail) ∧
      ∀ rest', NoDigit rest' → rest'.head? ≠ some 46 → scanFraction (fraction ++ rest') = some (fraction, rest') := by
  unfold scanFraction at h
  split at h
  · cases h
    refine ⟨.inl rfl, ?_⟩
    intro rest' _ hpoint
    cases rest' with
    | nil => rfl
    | cons b tail =>
      have hb : b ≠ 46 := by simpa using hpoint
      simp [scanFraction, hb]
  · split at h
    · obtain ⟨d, digits, rfl, -, hread⟩ := scanMarked_ok h
      refine ⟨.inr ⟨_, rfl⟩, ?_⟩
      intro rest' hdigit _
      have hread' := hread rest' hdigit
      simp only [List.cons_append, List.nil_append] at hread' ⊢
      simp only [scanFraction, if_true, hread']
    · cases h
      refine ⟨.inl rfl, ?_⟩
      intro rest' _ hpoint
      cases rest' with
      | nil => rfl
      | cons b tail =>
        have hb : b ≠ 46 := by simpa using hpoint
        simp [scanFraction, hb]

def IsExponent (b : UInt8) : Prop := b = 101 ∨ b = 69

theorem scanExponent_skip {rest} (h : ∀ b, rest.head? = some b → ¬ IsExponent b) :
    scanExponent rest = some ([], rest) := by
  cases rest with
  | nil => rfl
  | cons b tail =>
    have hb : ¬ (b = 101 ∨ b = 69) := h b rfl
    simp [scanExponent, hb]

theorem scanExponent_ok {input exponent rest} (h : scanExponent input = some (exponent, rest)) :
    (exponent = [] ∨ ∃ b tail, exponent = b :: tail ∧ IsExponent b) ∧
      ∀ rest', NoDigit rest' → (∀ b, rest'.head? = some b → ¬ IsExponent b) →
        scanExponent (exponent ++ rest') = some (exponent, rest') := by
  unfold scanExponent at h
  split at h
  · cases h
    exact ⟨.inl rfl, fun rest' _ hskip => scanExponent_skip hskip⟩
  · rename_i b tail
    split at h
    · rename_i hb
      split at h
      · cases h
      · rename_i sign tail
        split at h
        · rename_i hsign
          obtain ⟨d, digits, rfl, -, hread⟩ := scanMarked_ok h
          refine ⟨.inr ⟨b, _, rfl, hb⟩, ?_⟩
          intro rest' hdigit _
          have hread' := hread rest' hdigit
          simp only [List.cons_append, List.nil_append] at hread' ⊢
          simp only [scanExponent, if_pos hb, if_pos hsign, hread']
        · obtain ⟨d, digits, rfl, hd, hread⟩ := scanMarked_ok h
          refine ⟨.inr ⟨b, _, rfl, hb⟩, ?_⟩
          intro rest' hdigit _
          have hread' := hread rest' hdigit
          have hnot : ¬ (d = 43 ∨ d = 45) := by
            rintro (rfl | rfl)
            · exact absurd hd (by decide)
            · exact absurd hd (by decide)
          simp only [List.cons_append, List.nil_append] at hread' ⊢
          simp only [scanExponent, if_pos hb, if_neg hnot, hread']
    · cases h
      exact ⟨.inl rfl, fun rest' _ hskip => scanExponent_skip hskip⟩

theorem Stops.parts {rest} (h : Stops rest) :
    NoDigit rest ∧ rest.head? ≠ some 46 ∧ ∀ b, rest.head? = some b → ¬ IsExponent b := by
  cases rest with
  | nil => exact ⟨rfl, by simp, by simp⟩
  | cons b tail =>
    simp only [Stops, continuesNumber, List.head?_cons, Option.any_some, Bool.or_eq_false_iff] at h
    obtain ⟨⟨⟨hdigit, hpoint⟩, he⟩, hE⟩ := h
    refine ⟨hdigit, ?_, ?_⟩
    · rintro ⟨⟩
      exact absurd hpoint (by decide)
    · rintro c ⟨⟩ (rfl | rfl)
      · exact absurd he (by decide)
      · exact absurd hE (by decide)

theorem scanNumber_ok {input digits rest} (h : scanNumber input = some (digits, rest)) : Number digits := by
  simp only [scanNumber, Option.bind_eq_bind, Option.bind_eq_some_iff, pure, Prod.exists, Option.some.injEq,
    Prod.mk.injEq] at h
  obtain ⟨int, r₁, hint, fraction, r₂, hfraction, exponent, r₃, hexponent, rfl, rfl⟩ := h
  obtain ⟨⟨d, ds, rfl, hd⟩, hint'⟩ := scanInt_ok hint
  obtain ⟨hfractionHead, hfraction'⟩ := scanFraction_ok hfraction
  obtain ⟨hexponentHead, hexponent'⟩ := scanExponent_ok hexponent
  refine ⟨by simp, ?_⟩
  intro rest' hstops
  obtain ⟨hnoDigit, hnoPoint, hnoExponent⟩ := Stops.parts hstops
  have hr₂ : NoDigit (exponent ++ rest') ∧ (exponent ++ rest').head? ≠ some 46 := by
    rcases hexponentHead with rfl | ⟨b, tail, rfl, hb⟩
    · exact ⟨hnoDigit, hnoPoint⟩
    · rcases hb with rfl | rfl
      · exact ⟨rfl, by simp⟩
      · exact ⟨rfl, by simp⟩
  have hr₁ : NoDigit (fraction ++ (exponent ++ rest')) := by
    rcases hfractionHead with rfl | ⟨tail, rfl⟩
    · exact hr₂.1
    · rfl
  have hsign : scanSign ((scanSign input).1 ++ (d :: ds ++ (fraction ++ (exponent ++ rest')))) =
      ((scanSign input).1, d :: ds ++ (fraction ++ (exponent ++ rest'))) := by
    have hd' : d ≠ 45 := by
      rintro rfl
      exact absurd hd (by decide)
    unfold scanSign
    cases input with
    | nil => simp [hd']
    | cons b tail => by_cases hb : b = 45 <;> simp [hb, hd']
  simp only [List.append_assoc, scanNumber, Option.bind_eq_bind, hsign, hint' _ hr₁, hfraction' _ hr₂.1 hr₂.2,
    hexponent' rest' hnoDigit hnoExponent, Option.bind_some, pure]

/-! ## Values -/

def scanLiteral (literal : String) (value : Raw) (input : Bytes) : Option (Raw × Bytes) :=
  if utf8 literal <+: input then some (value, input.drop (utf8 literal).length) else none

mutual

/-- One value, with at most `room` arrays and objects open at a time. -/
def scan : Nat → Nat → Bytes → Option (Raw × Bytes)
  | 0, _, _ => none
  | fuel + 1, room, input =>
    match skipBlanks input with
    | [] => none
    | b :: rest =>
      if b = 34 then (scanBody (rest.length + 1) rest).map fun read => (str read.1, read.2)
      else if b = 91 then
        if room = 0 then none
        else if (skipBlanks rest).head? = some 93 then some (arr [], (skipBlanks rest).tail)
        else (scanItems fuel (room - 1) rest).map fun read => (arr read.1, read.2)
      else if b = 123 then
        if room = 0 then none
        else if (skipBlanks rest).head? = some 125 then some (obj [], (skipBlanks rest).tail)
        else (scanMembers fuel (room - 1) rest).map fun read => (obj read.1, read.2)
      else if b = 110 then scanLiteral "null" null (b :: rest)
      else if b = 116 then scanLiteral "true" (bool true) (b :: rest)
      else if b = 102 then scanLiteral "false" (bool false) (b :: rest)
      else (scanNumber (b :: rest)).map fun read => (num read.1, read.2)

/-- The items of a non-empty array, and its closing bracket. -/
def scanItems : Nat → Nat → Bytes → Option (List Raw × Bytes)
  | 0, _, _ => none
  | fuel + 1, room, input =>
    (scan fuel room input).bind fun item =>
      match skipBlanks item.2 with
      | [] => none
      | b :: rest =>
        if b = 44 then (scanItems fuel room rest).map fun items => (item.1 :: items.1, items.2)
        else if b = 93 then some ([item.1], rest)
        else none

/-- The members of a non-empty object, and its closing brace. -/
def scanMembers : Nat → Nat → Bytes → Option (List (Bytes × Raw) × Bytes)
  | 0, _, _ => none
  | fuel + 1, room, input =>
    match skipBlanks input with
    | [] => none
    | quote :: input =>
      if quote ≠ 34 then none
      else (scanBody (input.length + 1) input).bind fun name =>
        match skipBlanks name.2 with
        | [] => none
        | colon :: rest =>
          if colon ≠ 58 then none
          else (scan fuel room rest).bind fun value =>
            match skipBlanks value.2 with
            | [] => none
            | b :: rest =>
              if b = 44 then (scanMembers fuel room rest).map fun members => ((name.1, value.1) :: members.1, members.2)
              else if b = 125 then some ([(name.1, value.1)], rest)
              else none

end

theorem scanLiteral_ok {literal value v input rest}
    (h : scanLiteral literal value input = some (v, rest)) : v = value := by
  unfold scanLiteral at h
  split at h
  · cases h
    rfl
  · cases h

/-! ## Numbers and strings that are scanned -/

theorem Number.head {digits} (h : Number digits) :
    ∃ b tail, digits = b :: tail ∧ (b = 45 ∨ isDigit b = true) := by
  cases digits with
  | nil => exact absurd rfl h.1
  | cons b tail =>
    refine ⟨b, tail, rfl, ?_⟩
    have hread := h.2 [] rfl
    rw [List.append_nil] at hread
    by_cases hb : b = 45
    · exact .inl hb
    · right
      simp only [scanNumber, scanSign, if_neg hb, Option.bind_eq_bind, Option.bind_eq_some_iff, Prod.exists] at hread
      obtain ⟨int, r₁, hint, -⟩ := hread
      unfold scanInt at hint
      split at hint
      · cases hint
      · rename_i d ds tail' hspan
        have hd := spanDigits_digits hspan d List.mem_cons_self
        have hfirst : (b :: tail).takeWhile isDigit = d :: ds := congrArg Prod.fst hspan
        rw [List.takeWhile_cons] at hfirst
        split at hfirst
        · assumption
        · cases hfirst

theorem Number.cons {digits} (h : Number digits) : ∃ b tail, digits = b :: tail ∧ isBlank b = false ∧ b ≠ 93 := by
  obtain ⟨b, tail, rfl, hb⟩ := Number.head h
  refine ⟨b, tail, rfl, ?_, ?_⟩
  · rcases hb with rfl | hb
    · decide
    · simp only [isDigit, decide_eq_true_eq] at hb
      simp only [isBlank, Bool.or_eq_false_iff, decide_eq_false_iff_not]
      omega
  · rcases hb with rfl | hb
    · decide
    · rintro rfl
      exact absurd hb (by decide)

theorem scanBody_quoted {body rest} (h : Body body) :
    scanBody ((body ++ 34 :: rest).length + 1) (body ++ 34 :: rest) = some (body, rest) :=
  h.scan (by simp only [List.length_append, List.length_cons]; omega)

theorem number_ne {b} (h : b = 45 ∨ isDigit b = true) :
    isBlank b = false ∧ b ≠ 34 ∧ b ≠ 91 ∧ b ≠ 123 ∧ b ≠ 110 ∧ b ≠ 116 ∧ b ≠ 102 := by
  rcases h with rfl | h
  · decide
  · simp only [isDigit, decide_eq_true_eq] at h
    refine ⟨?_, ?_, ?_, ?_, ?_, ?_, ?_⟩
    · simp only [isBlank, Bool.or_eq_false_iff, decide_eq_false_iff_not]
      omega
    all_goals
      rintro rfl
      exact absurd h (by decide)

theorem Number.scan {digits rest fuel room} (h : Number digits) (hs : Stops rest) :
    scan (fuel + 1) room (digits ++ rest) = some (.num digits, rest) := by
  obtain ⟨b, tail, rfl, hb⟩ := Number.head h
  obtain ⟨hblank, h₁, h₂, h₃, h₄, h₅, h₆⟩ := number_ne hb
  have hread := h.2 rest hs
  simp only [List.cons_append] at hread
  simp only [List.cons_append, Raw.scan, skipBlanks_cons hblank]
  rw [if_neg h₁, if_neg h₂, if_neg h₃, if_neg h₄, if_neg h₅, if_neg h₆, hread]
  rfl

theorem Body.scan_quoted {body rest fuel room} (h : Body body) :
    Raw.scan (fuel + 1) room (34 :: body ++ [34] ++ rest) = some (.str body, rest) := by
  simp only [List.cons_append, List.append_assoc, List.nil_append, Raw.scan,
    skipBlanks_cons (show isBlank 34 = false by decide)]
  rw [if_pos trivial, scanBody_quoted h]
  rfl

/-! ## Whole texts -/

/-- The value of a whole text, with at most `room` arrays and objects open at a time. -/
def parseWithin (room : Nat) (input : Bytes) : Option Raw :=
  (scan (2 * input.length + 2) room input).bind fun read => if skipBlanks read.2 = [] then some read.1 else none

/-- The nesting that Go's scanner allows. -/
def maxNestingDepth : Nat := 10000

def parse (input : Bytes) : Option Raw := parseWithin maxNestingDepth input

theorem parse_quoted {body} (h : Body body) : parse (34 :: body ++ [34]) = some (.str body) := by
  have hscan := @Body.scan_quoted body [] (2 * (34 :: body ++ [34]).length + 1) maxNestingDepth h
  rw [List.append_nil] at hscan
  rw [parse, parseWithin, hscan]
  rfl

end Raw

end Sessionless.Lib
