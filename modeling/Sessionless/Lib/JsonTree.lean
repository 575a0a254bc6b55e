import Sessionless.Lib.JsonGrammar

/-!
# Decoding JSON text into a tree

What Go's `encoding/json` makes of a text when it is asked for a value of any type, with numbers kept as they were
written: strings are unescaped, and of several members of one name the last stays. A half surrogate and a byte that is
no UTF-8 become U+FFFD.
-/

namespace Sessionless.Lib

open Json

/-! ## Strings -/

def isTail (b : UInt8) : Bool := decide (0x80 ≤ b.toNat ∧ b.toNat ≤ 0xbf)

/-- The length of the UTF-8 character at the start of a text, or zero. -/
def runeLength : Bytes → Nat
  | [] => 0
  | b :: rest =>
    let n := b.toNat
    if n < 0x80 then 1
    else if 0xc2 ≤ n ∧ n ≤ 0xdf then if rest.head?.any isTail then 2 else 0
    else if 0xe0 ≤ n ∧ n ≤ 0xef then
      match rest with
      | b₁ :: b₂ :: _ =>
        if isTail b₁ ∧ isTail b₂ ∧ (n = 0xe0 → 0xa0 ≤ b₁.toNat) ∧ (n = 0xed → b₁.toNat ≤ 0x9f) then 3 else 0
      | _ => 0
    else if 0xf0 ≤ n ∧ n ≤ 0xf4 then
      match rest with
      | b₁ :: b₂ :: b₃ :: _ =>
        if isTail b₁ ∧ isTail b₂ ∧ isTail b₃ ∧ (n = 0xf0 → 0x90 ≤ b₁.toNat) ∧ (n = 0xf4 → b₁.toNat ≤ 0x8f) then 4 else 0
      | _ => 0
    else 0

/-- U+FFFD. -/
def replacement : Bytes := [0xef, 0xbf, 0xbd]

def encodeAstral (n : Nat) : Bytes :=
  [UInt8.ofNat (0xf0 + n / 262144), UInt8.ofNat (0x80 + n / 4096 % 64), UInt8.ofNat (0x80 + n / 64 % 64),
    UInt8.ofNat (0x80 + n % 64)]

def nextQuad : Bytes → Option (Nat × Bytes)
  | 92 :: 117 :: h₁ :: h₂ :: h₃ :: h₄ :: rest => (hexQuad h₁ h₂ h₃ h₄).map fun n => (n, rest)
  | _ => none

/-- The character of a `\u` escape. A surrogate needs its other half, or is replaced. -/
def unquoteRune (n : Nat) (rest : Bytes) : Bytes × Bytes :=
  match encodeRune n with
  | some rune => (rune, rest)
  | none =>
    match nextQuad rest with
    | some (low, tail) =>
      if n < 0xdc00 ∧ 0xdc00 ≤ low ∧ low < 0xe000 then
        (encodeAstral ((n - 0xd800) * 1024 + (low - 0xdc00) + 0x10000), tail)
      else (replacement, rest)
    | none => (replacement, rest)

/-- The next character of a string, decoded. -/
def unquoteChar : Bytes → Option (Bytes × Bytes)
  | [] => none
  | b :: rest =>
    if b = 92 then
      match rest with
      | [] => none
      | c :: tail =>
        if c = 117 then (nextQuad (b :: rest)).map fun read => unquoteRune read.1 read.2
        else (unescape c).map fun char => ([char], tail)
    else
      match runeLength (b :: rest) with
      | 0 => some (replacement, rest)
      | n + 1 => some ((b :: rest).take (n + 1), (b :: rest).drop (n + 1))

def unquoteBytes : Nat → Bytes → Option Bytes
  | _, [] => some []
  | 0, _ :: _ => none
  | fuel + 1, b :: rest => (unquoteChar (b :: rest)).bind fun read => (unquoteBytes fuel read.2).map (read.1 ++ ·)

/-! ## Trees -/

/-- A value of type `any`: `json.Number` keeps its digits, a Go string is its bytes. -/
inductive Any
  | null
  | bool (value : Bool)
  | number (digits : Bytes)
  | string (value : Bytes)
  | array (items : List Any)
  | object (members : List (Bytes × Any))

/-- The bytes that the inside of a string literal stands for. -/
def unescaped (body : Bytes) : Option Bytes := unquoteBytes body.length body

/-- Sets a key of a map, in the order in which keys were last set. -/
def setKey (members : List (Bytes × Any)) (name : Bytes) (value : Any) : List (Bytes × Any) :=
  members.filter (fun member => member.1 ≠ name) ++ [(name, value)]

mutual

def decodeAny : Raw → Option Any
  | .null => some .null
  | .bool value => some (.bool value)
  | .num digits => some (.number digits)
  | .str body => (unescaped body).map .string
  | .arr items => (decodeItems items).map .array
  | .obj members => (decodeMembers members []).map .object

def decodeItems : List Raw → Option (List Any)
  | [] => some []
  | item :: items => (decodeAny item).bind fun value => (decodeItems items).map fun values => value :: values

def decodeMembers : List (Bytes × Raw) → List (Bytes × Any) → Option (List (Bytes × Any))
  | [], set => some set
  | (name, value) :: members, set =>
    (unescaped name).bind fun key => (decodeAny value).bind fun value => decodeMembers members (setKey set key value)

end

/-! ## Unescaping never fails inside a string -/

namespace Raw

theorem Body.tail {b rest} (h : Body (b :: rest)) (hb : b ≠ 92) : Body rest := by
  generalize hbody : b :: rest = body at h
  cases h with
  | nil => cases hbody
  | cons hchar h =>
    cases hchar with
    | byte => cases hbody; exact h
    | escape => cases hbody; exact absurd rfl hb
    | unicode => cases hbody; exact absurd rfl hb

theorem Body.drop {body n} (h : Body body) (hn : ∀ b ∈ body.take n, b ≠ 92) : Body (body.drop n) := by
  induction n generalizing body with
  | zero => exact h
  | succ n ih =>
    cases body with
    | nil => exact h
    | cons b rest =>
      have hb := hn b (by simp)
      exact ih (h.tail hb) (fun c hc => hn c (by simp [hc]))

theorem Body.escape {rest} (h : Body (92 :: rest)) :
    (∃ c tail, rest = c :: tail ∧ c ≠ 117 ∧ (unescape c).isSome = true ∧ Body tail) ∨
      ∃ h₁ h₂ h₃ h₄ tail, rest = 117 :: h₁ :: h₂ :: h₃ :: h₄ :: tail ∧ (hexQuad h₁ h₂ h₃ h₄).isSome = true ∧
        Body tail := by
  generalize hbody : 92 :: rest = body at h
  cases h with
  | nil => cases hbody
  | cons hchar h =>
    cases hchar with
    | byte hquote hslash =>
      cases hbody
      exact absurd rfl hslash
    | @escape c hc =>
      cases hbody
      refine .inl ⟨c, _, rfl, ?_, hc, h⟩
      rintro rfl
      exact absurd hc (by decide)
    | unicode hhex =>
      cases hbody
      exact .inr ⟨_, _, _, _, _, rfl, hhex, h⟩

end Raw

open Raw

theorem isTail_ne {b} (h : isTail b = true) : b ≠ 92 := by
  rintro rfl
  exact absurd h (by decide)

theorem runeLength_bytes {b rest} (hb : b ≠ 92) :
    ∀ c ∈ (b :: rest).take (runeLength (b :: rest)), c ≠ 92 := by
  intro c hc
  simp only [runeLength] at hc
  split_ifs at hc with hascii htwo htail hthree hfour
  · simp only [List.take_succ_cons, List.take_zero, List.mem_singleton] at hc
    exact hc ▸ hb
  · cases rest with
    | nil => cases htail
    | cons b₁ rest =>
      simp only [List.take_succ_cons, List.take_zero, List.mem_cons, List.not_mem_nil, or_false] at hc
      rcases hc with rfl | rfl
      · exact hb
      · exact isTail_ne htail
  · simp at hc
  · split at hc
    · rename_i b₁ b₂ rest
      split_ifs at hc with htails
      · simp only [List.take_succ_cons, List.take_zero, List.mem_cons, List.not_mem_nil, or_false] at hc
        rcases hc with rfl | rfl | rfl
        · exact hb
        · exact isTail_ne htails.1
        · exact isTail_ne htails.2.1
      · simp at hc
    · simp at hc
  · split at hc
    · rename_i b₁ b₂ b₃ rest
      split_ifs at hc with htails
      · simp only [List.take_succ_cons, List.take_zero, List.mem_cons, List.not_mem_nil, or_false] at hc
        rcases hc with rfl | rfl | rfl | rfl
        · exact hb
        · exact isTail_ne htails.1
        · exact isTail_ne htails.2.1
        · exact isTail_ne htails.2.2.1
      · simp at hc
    · simp at hc
  · simp at hc

theorem unquoteRune_body {n rest} (h : Body rest) :
    Body (unquoteRune n rest).2 ∧ (unquoteRune n rest).2.length ≤ rest.length := by
  unfold unquoteRune
  split
  · exact ⟨h, le_rfl⟩
  · split
    · rename_i low tail hnext
      split_ifs
      · unfold nextQuad at hnext
        split at hnext
        · rename_i h₁ h₂ h₃ h₄ tail'
          obtain ⟨quad, hquad, heq⟩ := Option.map_eq_some_iff.mp hnext
          cases heq
          rcases h.escape with ⟨c, tail, heq, hc, -⟩ | ⟨_, _, _, _, _, heq, -, htail⟩
          · cases heq
            exact absurd rfl hc
          · cases heq
            refine ⟨htail, ?_⟩
            simp only [List.length_cons]
            omega
        · cases hnext
      · exact ⟨h, le_rfl⟩
    · exact ⟨h, le_rfl⟩

theorem unquoteChar_body {b rest} (h : Body (b :: rest)) :
    ∃ char tail, unquoteChar (b :: rest) = some (char, tail) ∧ Body tail ∧ tail.length ≤ rest.length := by
  by_cases hb : b = 92
  · subst hb
    rcases h.escape with ⟨c, tail, rfl, hc, hunescape, htail⟩ | ⟨h₁, h₂, h₃, h₄, tail, rfl, hquad, htail⟩
    · obtain ⟨char, hchar⟩ := Option.isSome_iff_exists.mp hunescape
      refine ⟨[char], tail, ?_, htail, by simp⟩
      simp [unquoteChar, hc, hchar]
    · obtain ⟨n, hn⟩ := Option.isSome_iff_exists.mp hquad
      obtain ⟨hbody, hlen⟩ := unquoteRune_body (n := n) htail
      refine ⟨(unquoteRune n tail).1, (unquoteRune n tail).2, ?_, hbody, ?_⟩
      · simp [unquoteChar, nextQuad, hn]
      · simp only [List.length_cons]
        omega
  · unfold unquoteChar
    simp only [if_neg hb]
    cases hlength : runeLength (b :: rest) with
    | zero => exact ⟨_, _, rfl, h.tail hb, le_rfl⟩
    | succ n =>
      refine ⟨_, _, rfl, h.drop ?_, ?_⟩
      · rw [← hlength]
        exact runeLength_bytes hb
      · simp only [List.length_drop, List.length_cons]
        omega

theorem unquoteBytes_body {fuel body} (h : Body body) (hf : body.length ≤ fuel) :
    ∃ bytes, unquoteBytes fuel body = some bytes := by
  induction fuel generalizing body with
  | zero =>
    cases body with
    | nil => exact ⟨[], rfl⟩
    | cons b rest => simp at hf
  | succ fuel ih =>
    cases body with
    | nil => exact ⟨[], rfl⟩
    | cons b rest =>
      obtain ⟨char, tail, hchar, htail, hlen⟩ := unquoteChar_body h
      rw [List.length_cons] at hf
      obtain ⟨bytes, hbytes⟩ := ih htail (by omega)
      exact ⟨char ++ bytes, by simp [unquoteBytes, hchar, hbytes]⟩

theorem unescaped_body {body} (h : Body body) : ∃ bytes, unescaped body = some bytes :=
  unquoteBytes_body h le_rfl

/-! ## Every value of the grammar has a tree -/

mutual

theorem decodeAny_written (v : Raw) {text} (h : Written v text) : ∃ value, decodeAny v = some value := by
  cases v with
  | null | bool value | num digits => exact ⟨_, rfl⟩
  | str body =>
    obtain ⟨bytes, hbytes⟩ := unescaped_body h.1
    exact ⟨.string bytes, by simp [decodeAny, hbytes]⟩
  | arr items =>
    obtain ⟨inner, hinner, -⟩ := h
    obtain ⟨values, hvalues⟩ := decodeItems_written items hinner
    exact ⟨.array values, by simp [decodeAny, hvalues]⟩
  | obj members =>
    obtain ⟨inner, hinner, -⟩ := h
    obtain ⟨values, hvalues⟩ := decodeMembers_written members [] hinner
    exact ⟨.object values, by simp [decodeAny, hvalues]⟩

theorem decodeItems_written (items : List Raw) {text} (h : WrittenItems items text) :
    ∃ values, decodeItems items = some values := by
  cases items with
  | nil => exact ⟨[], rfl⟩
  | cons item items =>
    obtain ⟨inner, rest, hinner, hrest, -⟩ := h.cons
    obtain ⟨value, hvalue⟩ := decodeAny_written item hinner
    obtain ⟨values, hvalues⟩ := decodeItems_written items hrest
    exact ⟨value :: values, by simp [decodeItems, hvalue, hvalues]⟩

theorem decodeMembers_written (members : List (Bytes × Raw)) (set : List (Bytes × Any)) {text}
    (h : WrittenMembers members text) : ∃ values, decodeMembers members set = some values := by
  cases members with
  | nil => exact ⟨set, rfl⟩
  | cons member members =>
    obtain ⟨key, inner, rest, hkey, hinner, hrest, -⟩ := h.cons
    obtain ⟨bytes, hbytes⟩ := unescaped_body hkey.1
    obtain ⟨tree, htree⟩ := decodeAny_written member.2 hinner
    obtain ⟨values, hvalues⟩ := decodeMembers_written members (setKey set bytes tree) hrest
    exact ⟨values, by simp [decodeMembers, hbytes, htree, hvalues]⟩

end

end Sessionless.Lib
