import Sessionless.StrictJson.Language

/-!
# The bytes that strings decode to

`decodedStringBytes` counts the bytes that `encoding/json` makes of a token without decoding it, rune by rune where
decoding goes, in text that is UTF-8. So what a pass with string bounds charges is what its strings decode to.
-/

namespace Sessionless.StrictJson

open Lib Json Raw

/-! ## UTF-8 text -/

def Utf8 (b : Bytes) : Prop := ∃ chars : List Char, b = chars.flatMap String.utf8EncodeChar

theorem ValidUtf8.chars {b} (h : ValidUtf8 b) : Utf8 b := by
  obtain ⟨chars, hb⟩ := h
  refine ⟨chars, ?_⟩
  have hdata := congrArg (fun bytes => bytes.data.toList) hb
  simpa [List.utf8Encode] using hdata

theorem encodeChar_bytes (c : Char) :
    (∃ b, String.utf8EncodeChar c = [b]) ∨ ∀ b ∈ String.utf8EncodeChar c, 0x80 ≤ b.toNat := by
  simp only [String.utf8EncodeChar]
  split_ifs
  · exact .inl ⟨_, rfl⟩
  all_goals
    right
    simp only [List.mem_cons, List.not_mem_nil, or_false, forall_eq_or_imp, forall_eq, UInt8.toNat_ofNat']
    omega

/-- Text can be cut before and after an ASCII byte. -/
theorem Utf8.split (before : Bytes) {rest : Bytes} {b : UInt8} (h : Utf8 (before ++ b :: rest)) (hb : b.toNat < 0x80) :
    Utf8 before ∧ Utf8 rest := by
  obtain ⟨chars, h⟩ := h
  induction chars generalizing before with
  | nil => simp at h
  | cons c chars ih =>
    rw [List.flatMap_cons] at h
    rcases List.append_eq_append_iff.mp h with ⟨more, hmore, htail⟩ | ⟨more, rfl, htail⟩
    · cases more with
      | nil => exact ⟨⟨[c], by simpa using hmore.symm⟩, (ih [] htail).2⟩
      | cons x more =>
        cases htail
        rcases encodeChar_bytes c with ⟨y, hy⟩ | hlarge
        · rw [hy] at hmore
          cases before with
          | nil =>
            cases hmore
            exact ⟨⟨[], rfl⟩, chars, rfl⟩
          | cons z before => simp at hmore
        · have hlow := hlarge b (by simp [hmore])
          omega
    · obtain ⟨⟨others, rfl⟩, hrest⟩ := ih more htail.symm
      exact ⟨⟨c :: others, rfl⟩, hrest⟩

theorem runeLength_encodeChar (c : Char) (rest : Bytes) :
    runeLength (String.utf8EncodeChar c ++ rest) = (String.utf8EncodeChar c).length := by
  have hvalid : c.val.toNat < 0xd800 ∨ 0xdfff < c.val.toNat ∧ c.val.toNat < 0x110000 := c.valid
  simp only [String.utf8EncodeChar]
  generalize c.val.toNat = v at hvalid
  split_ifs with hone htwo hthree
  all_goals simp only [List.cons_append, List.nil_append, runeLength, isTail, UInt8.toNat_ofNat', List.head?_cons,
    Option.any_some, List.length_cons, List.length_nil, decide_eq_true_eq]
  · rw [if_pos (by omega)]
  · rw [if_neg (by omega), if_pos (by omega), if_pos (by omega)]
  · rw [if_neg (by omega), if_neg (by omega), if_pos (by omega), if_pos (by omega)]
  · rw [if_neg (by omega), if_neg (by omega), if_neg (by omega), if_pos (by omega), if_pos (by omega)]

/-! ## Counting -/

theorem Paired.drop {chunk rest : Bytes} (h : Paired (chunk ++ rest)) (hc : ∀ b ∈ chunk, b ≠ 92) : Paired rest := by
  induction chunk with
  | nil => exact h
  | cons b chunk ih =>
    refine ih ?_ (fun x hx => hc x (List.mem_cons_of_mem _ hx))
    generalize htext : b :: chunk ++ rest = text at h
    cases h with
    | nil => cases htext
    | cons hpiece h =>
      rcases hpiece.head with ⟨x, rfl, -⟩ | ⟨tail, rfl⟩
      · cases htext
        exact h
      · exact absurd (List.cons.inj htext).1 (hc b List.mem_cons_self)

theorem hexValue_bounds {b v} (h : hexValue b = some v) : b.toNat < 0x80 ∧ v < 16 := by
  simp only [hexValue] at h
  split_ifs at h
  all_goals
    cases h
    omega

theorem Utf8.escapes {n char rest} (h : Utf8 (char ++ rest)) (hchar : Escapes n char) : Utf8 rest ∧ n < 0x10000 := by
  obtain ⟨h₁, h₂, h₃, h₄, rfl, hquad⟩ := hchar
  simp only [hexQuad, Option.bind_eq_some_iff, Option.map_eq_some_iff] at hquad
  obtain ⟨v₁, hv₁, v₂, hv₂, v₃, hv₃, v₄, hv₄, rfl⟩ := hquad
  obtain ⟨hb₁, _⟩ := hexValue_bounds hv₁
  obtain ⟨hb₂, _⟩ := hexValue_bounds hv₂
  obtain ⟨hb₃, _⟩ := hexValue_bounds hv₃
  obtain ⟨hb₄, _⟩ := hexValue_bounds hv₄
  have hdrop {b : UInt8} {text : Bytes} (h : Utf8 (b :: text)) (hb : b.toNat < 0x80) : Utf8 text := (h.split [] hb).2
  refine ⟨?_, by omega⟩
  exact hdrop (hdrop (hdrop (hdrop (hdrop (hdrop h (by decide)) (by decide)) hb₁) hb₂) hb₃) hb₄

theorem decodedBytes_run {chunk after : Bytes} (h : ∀ b ∈ chunk, b ≠ 92) (hafter : after ≠ []) (fuel : Nat) :
    decodedBytes (fuel + chunk.length) (chunk ++ after) = chunk.length + decodedBytes fuel after := by
  induction chunk with
  | nil => simp
  | cons b chunk ih =>
    have hb := h b List.mem_cons_self
    have hrest := ih (fun x hx => h x (List.mem_cons_of_mem _ hx))
    obtain ⟨c, rest, htext⟩ := List.exists_cons_of_ne_nil (List.append_ne_nil_of_right_ne_nil chunk hafter)
    rw [List.cons_append, List.length_cons, ← Nat.add_assoc, htext]
    rw [htext] at hrest
    simp only [decodedBytes, if_pos hb, hrest]
    omega

/-- The count moves past one character as decoding does. -/
structure Steps (fuel : Nat) (body char tail : Bytes) (more : Nat) : Prop where
  decodes : unquoteChar body = some (char, tail)
  counts : decodedBytes fuel (body ++ [34]) = char.length + decodedBytes more (tail ++ [34])
  shorter : tail.length < body.length
  enough : tail.length < more

/-- A character without a backslash is the bytes of its rune. -/
theorem steps_rune {fuel b rest} (hb : b ≠ 92) (hu : Utf8 (b :: rest)) (hf : rest.length + 1 < fuel) :
    ∃ char tail more, Steps fuel (b :: rest) char tail more ∧ b :: rest = char ++ tail ∧ (∀ x ∈ char, x ≠ 92) ∧
      Utf8 tail := by
  obtain ⟨chars, hchars⟩ := hu
  cases chars with
  | nil => cases hchars
  | cons c chars =>
    rw [List.flatMap_cons] at hchars
    have hplain : ∀ x ∈ String.utf8EncodeChar c, x ≠ 92 := by
      rcases encodeChar_bytes c with ⟨y, hy⟩ | hlarge
      · rw [hy] at hchars ⊢
        cases hchars
        simpa using hb
      · rintro x hx rfl
        exact absurd (hlarge 92 hx) (by decide)
    have hlength := congrArg List.length hchars
    simp only [List.length_cons, List.length_append] at hlength
    obtain ⟨k, hk⟩ : ∃ k, (String.utf8EncodeChar c).length = k + 1 :=
      ⟨_, (Nat.sub_add_cancel (List.length_pos_iff.mpr String.utf8EncodeChar_ne_nil)).symm⟩
    refine ⟨String.utf8EncodeChar c, _, fuel - (k + 1), ⟨?_, ?_, ?_, by omega⟩, hchars, hplain, chars, rfl⟩
    · have hrune : runeLength (b :: rest) = k + 1 := by rw [hchars, runeLength_encodeChar, hk]
      simp only [unquoteChar, if_neg hb, hrune]
      rw [hchars, ← hk, List.take_left, List.drop_left]
    · rw [hchars, List.append_assoc, ← hk, ← decodedBytes_run hplain (by simp), Nat.sub_add_cancel (by omega)]
    · rw [List.length_cons]
      omega

theorem decodedBytes_step {fuel body} (hp : Paired body) (hu : Utf8 body) (hb : body ≠ []) (hf : body.length < fuel) :
    ∃ char tail more, Steps fuel body char tail more ∧ Paired tail ∧ Utf8 tail := by
  obtain ⟨fuel, rfl⟩ : ∃ k, fuel = k + 1 := ⟨fuel - 1, by omega⟩
  have hall := hp
  cases hp with
  | nil => exact absurd rfl hb
  | @cons piece tail hpiece htail =>
    have hshort : tail.length < (piece ++ tail).length := by
      rcases hpiece.head with ⟨b, rfl, -⟩ | ⟨rest, rfl⟩
      all_goals
        simp only [List.cons_append, List.length_cons, List.length_append]
        omega
    cases hpiece with
    | plain hchar hsurrogate =>
      cases hchar with
      | byte hquote hslash hprint =>
        obtain ⟨char, rest, more, hsteps, hsplit, hplain, hrest⟩ := steps_rune hslash hu hf
        exact ⟨char, rest, more, hsteps, Paired.drop (hsplit ▸ hall) hplain, hrest⟩
      | @escape c hc =>
        obtain ⟨x, hx⟩ := Option.isSome_iff_exists.mp hc
        have hascii : c.toNat < 0x80 ∧ c ≠ 117 := by
          rcases (unescape_isSome c).mp hc with rfl | rfl | rfl | rfl | rfl | rfl | rfl | rfl <;> decide
        refine ⟨[x], tail, fuel, ⟨?_, ?_, hshort, by omega⟩, htail, (hu.split [92] hascii.1).2⟩
        · simp [unquoteChar, hascii.2, hx]
        · simp [decodedBytes, hascii.2]
      | @unicode h₁ h₂ h₃ h₄ hhex =>
        obtain ⟨n, hn⟩ := Option.isSome_iff_exists.mp hhex
        have hescapes : Escapes n [92, 117, h₁, h₂, h₃, h₄] := ⟨h₁, h₂, h₃, h₄, rfl, hn⟩
        have hplain := hsurrogate n hescapes
        obtain ⟨hutf8, hsmall⟩ := hu.escapes hescapes
        obtain ⟨rune, hrune, hlength⟩ : ∃ rune, encodeRune n = some rune ∧ rune.length = runeLen n := by
          unfold encodeRune runeLen
          split_ifs <;> first | omega | exact ⟨_, rfl, rfl⟩
        have hhigh : ¬ (0xd800 ≤ n ∧ n ≤ 0xdbff) := by omega
        refine ⟨rune, tail, fuel, ⟨?_, ?_, hshort, by omega⟩, htail, hutf8⟩
        · simp [unquoteChar, nextQuad, hn, unquoteRune, hrune]
        · simp [decodedBytes, hex4, hn, hhigh, hlength]
    | @pair high low m n hhigh hm hlow hn =>
      have hutf8 := ((List.append_assoc high low tail ▸ hu).escapes hhigh).1.escapes hlow
      obtain ⟨h₁, h₂, h₃, h₄, rfl, hquad⟩ := hhigh
      obtain ⟨l₁, l₂, l₃, l₄, rfl, hquad'⟩ := hlow
      have hrune : encodeRune m = none := by
        unfold encodeRune
        split_ifs <;> first | rfl | omega
      have hcode : runeLen (decodeRune m n) = 4 := by
        unfold decodeRune runeLen
        split_ifs <;> omega
      have hrange : m < 0xdc00 ∧ 0xdc00 ≤ n ∧ n < 0xe000 := by omega
      refine ⟨encodeAstral ((m - 0xd800) * 1024 + (n - 0xdc00) + 0x10000), tail, fuel, ⟨?_, ?_, hshort, by omega⟩, htail,
        hutf8.1⟩
      · simp [unquoteChar, nextQuad, hquad, unquoteRune, hrune, hquad', hrange]
      · simp [decodedBytes, hex4, hquad, hm, hquad', hcode, encodeAstral]

theorem decodedBytes_body {fuel fuel' body} (hp : Paired body) (hu : Utf8 body) (hf : body.length ≤ fuel)
    (hf' : body.length < fuel') :
    ∃ s, unquoteBytes fuel body = some s ∧ decodedBytes fuel' (body ++ [34]) = s.length := by
  induction fuel generalizing body fuel' with
  | zero =>
    obtain rfl := List.length_eq_zero_iff.mp (Nat.le_zero.mp hf)
    exact ⟨[], rfl, by cases fuel' <;> rfl⟩
  | succ fuel ih =>
    cases body with
    | nil => exact ⟨[], rfl, by cases fuel' <;> rfl⟩
    | cons b rest =>
      obtain ⟨char, tail, more, hsteps, hp, hu⟩ := decodedBytes_step hp hu (by simp) hf'
      obtain ⟨s, hs, hlen⟩ := ih hp hu (Nat.le_of_lt_succ (hsteps.shorter.trans_le hf)) hsteps.enough
      exact ⟨char ++ s, by simp [unquoteBytes, hsteps.decodes, hs], by rw [hsteps.counts, hlen, List.length_append]⟩

/-! ## The strings of a document -/

mutual

theorem strings_written (v : Raw) {text} (h : Written v text) (hp : All StringsPaired v) :
    ∀ body ∈ strings v, Paired body ∧ 34 :: body ++ [34] <:+: text := by
  intro body hbody
  cases v with
  | null | bool value | num digits => simp [strings] at hbody
  | str inside =>
    cases List.mem_singleton.mp hbody
    exact ⟨hp, h.2 ▸ List.infix_rfl⟩
  | arr items =>
    obtain ⟨inner, hinner, rfl⟩ := h
    obtain ⟨hpaired, hin⟩ := stringsItems_written items hinner hp.2 body hbody
    exact ⟨hpaired, hin.trans ⟨[91], [93], rfl⟩⟩
  | obj members =>
    obtain ⟨inner, hinner, rfl⟩ := h
    obtain ⟨hpaired, hin⟩ := stringsMembers_written members hinner hp.1 hp.2 body hbody
    exact ⟨hpaired, hin.trans ⟨[123], [125], rfl⟩⟩

theorem stringsItems_written (items : List Raw) {text} (h : WrittenItems items text)
    (hp : AllItems StringsPaired items) : ∀ body ∈ stringsItems items, Paired body ∧ 34 :: body ++ [34] <:+: text := by
  intro body hbody
  cases items with
  | nil => simp [stringsItems] at hbody
  | cons item items =>
    obtain ⟨inner, rest, hinner, hrest, hin, hrin, -⟩ := h.cons
    rcases List.mem_append.mp hbody with hbody | hbody
    · exact (strings_written item hinner hp.1 body hbody).imp_right fun hinfix => hinfix.trans hin
    · exact (stringsItems_written items hrest hp.2 body hbody).imp_right fun hinfix => hinfix.trans hrin

theorem stringsMembers_written (members : List (Bytes × Raw)) {text} (h : WrittenMembers members text)
    (hn : ∀ member ∈ members, Paired member.1) (hp : AllMembers StringsPaired members) :
    ∀ body ∈ stringsMembers members, Paired body ∧ 34 :: body ++ [34] <:+: text := by
  intro body hbody
  cases members with
  | nil => simp [stringsMembers] at hbody
  | cons member members =>
    obtain ⟨key, inner, rest, hkey, hinner, hrest, hkin, hin, hrin, -⟩ := h.cons
    obtain ⟨hname, hnames⟩ := List.forall_mem_cons.mp hn
    rcases List.mem_cons.mp hbody with rfl | hbody
    · exact ⟨hname, hkey.2 ▸ hkin⟩
    rcases List.mem_append.mp hbody with hbody | hbody
    · exact (strings_written member.2 hinner hp.1 body hbody).imp_right fun hinfix => hinfix.trans hin
    · exact (stringsMembers_written members hrest hnames hp.2 body hbody).imp_right fun hinfix => hinfix.trans hrin

end

theorem Utf8.decoded {body text} (h : Utf8 text) (hp : Paired body) (hin : 34 :: body ++ [34] <:+: text) :
    ∃ s, unescaped body = some s ∧ decodedStringBytes (34 :: body ++ [34]) = s.length := by
  obtain ⟨before, after, rfl⟩ := hin
  have hopen : before ++ (34 :: body ++ [34]) ++ after = before ++ 34 :: (body ++ 34 :: after) := by simp
  have hrest := (Utf8.split before (hopen ▸ h) (by decide)).2
  refine decodedBytes_body hp (hrest.split body (by decide)).1 le_rfl ?_
  rw [List.length_append, List.length_cons]
  omega

/-! ## The running total -/

theorem spend_iff {s : JsonScanner} {bounds : StringBounds} (hs : s.stringBounds = some bounds) {bodies used used'}
    (hu : used ≤ bounds.totalBytes.toNat) :
    s.spend bodies used = some used' ↔
      (∀ body ∈ bodies, decodedStringBytes (34 :: body ++ [34]) ≤ bounds.tokenBytes.toNat) ∧
      used' = used + (bodies.map fun body => decodedStringBytes (34 :: body ++ [34])).sum ∧
      used' ≤ bounds.totalBytes.toNat := by
  have htotal := bounds.totalBytes.toNat_lt
  induction bodies generalizing used with
  | nil =>
    simp only [JsonScanner.spend, Option.some.injEq, List.not_mem_nil, false_imp_iff, implies_true, List.map_nil,
      List.sum_nil, true_and]
    omega
  | cons body bodies ih =>
    have hword : (bounds.totalBytes.toNat + 2 ^ 64 - used) % 2 ^ 64 = bounds.totalBytes.toNat - used := by omega
    simp only [JsonScanner.spend, JsonScanner.charge, hs, hword, List.forall_mem_cons, List.map_cons, List.sum_cons]
    generalize decodedStringBytes (34 :: body ++ [34]) = n
    split_ifs with hover
    · simp only [Option.bind_none, reduceCtorEq, false_iff]
      omega
    · have hsum : (used + n) % 2 ^ 64 = used + n := Nat.mod_eq_of_lt (by omega)
      have hn : n ≤ bounds.tokenBytes.toNat := by omega
      have hrest := ih (show used + n ≤ bounds.totalBytes.toNat by omega)
      simp only [Option.bind_some, hsum, hrest, Nat.add_assoc, hn, true_and]

/-- The bytes that a name or string of a document decodes to. -/
def decoded (body : Bytes) : Bytes := (unescaped body).getD []

theorem spend_accepted {b byteLimit depth members v bounds} {s : JsonScanner} (h : Accepted b byteLimit depth members v)
    (hs : s.stringBounds = some bounds) :
    (∃ used, s.spend (strings v) 0 = some used) ↔
      (∀ body ∈ strings v, (decoded body).length ≤ bounds.tokenBytes.toNat) ∧
        ((strings v).map fun body => (decoded body).length).sum ≤ bounds.totalBytes.toNat := by
  have hcounts : ∀ body ∈ strings v, decodedStringBytes (34 :: body ++ [34]) = (decoded body).length := by
    intro body hbody
    obtain ⟨inner, hinner, hin⟩ := Padded.infix h.text
    obtain ⟨hpaired, hquoted⟩ := strings_written v hinner h.strings body hbody
    obtain ⟨s, hs, hcount⟩ := h.unicode.chars.decoded hpaired (hquoted.trans hin)
    rw [hcount, decoded, hs, Option.getD_some]
  simp only [spend_iff hs (Nat.zero_le _), Nat.zero_add]
  rw [List.map_congr_left hcounts]
  constructor
  · rintro ⟨used, htoken, rfl, htotal⟩
    exact ⟨fun body hbody => hcounts body hbody ▸ htoken body hbody, htotal⟩
  · rintro ⟨htoken, htotal⟩
    exact ⟨_, fun body hbody => (hcounts body hbody).symm ▸ htoken body hbody, rfl, htotal⟩

theorem document_unique {v v' b} (h : Document v b) (h' : Document v' b) : v = v' := by
  obtain ⟨_, hscan, -⟩ := scan_document h (le_max_left (height v) (height v'))
  obtain ⟨_, hscan', -⟩ := scan_document h' (le_max_right (height v) (height v'))
  cases hscan.symm.trans hscan'
  rfl

/-- A token of a UTF-8 text is counted as it decodes. A pass with string bounds accepts the documents that one without
them accepts, in which every name and string decodes to at most `TokenBytes` bytes and all of them to at most
`TotalBytes`. Whatever was charged, the subtraction of words is that of numbers. -/
theorem string_accounting (b : Bytes) (byteLimit depth members : Nat) (bounds : StringBounds) :
    (ValidUtf8 b → ∀ before token rest, b = before ++ (token ++ rest) → string (token ++ rest) = some rest →
      ∃ s, unmarshalKey token = some s ∧ decodedStringBytes token = s.length) ∧
    (validateDocumentStringBounds b byteLimit depth members bounds = .ok () ↔
      validateDocument b byteLimit depth members = .ok () ∧ ∃ v, Document v b ∧
        (∀ body ∈ strings v, (decoded body).length ≤ bounds.tokenBytes.toNat) ∧
        ((strings v).map fun body => (decoded body).length).sum ≤ bounds.totalBytes.toNat) ∧
    ∀ s : JsonScanner, s.stringBounds = some bounds → ∀ bodies used, s.spend bodies 0 = some used →
      (bounds.totalBytes.toNat + 2 ^ 64 - used) % 2 ^ 64 = bounds.totalBytes.toNat - used ∧
        used ≤ bounds.totalBytes.toNat := by
  refine ⟨?_, ?_, ?_⟩
  · intro hutf8 before token rest hb hstring
    obtain ⟨tail, htail⟩ := string_quote hstring
    rw [htail] at hstring
    obtain ⟨body, hbody, hpaired⟩ := string_iff.mp hstring
    have hsplit : token ++ rest = (34 :: body ++ [34]) ++ rest := by
      rw [htail, scanBody_split hbody]
      simp
    cases List.append_cancel_right hsplit
    obtain ⟨s, hs, hcount⟩ := hutf8.chars.decoded hpaired ⟨before, rest, by rw [hb, List.append_assoc]⟩
    exact ⟨s, by rw [unmarshalKey_quoted hpaired.body, hs], hcount⟩
  · rw [validateDocumentStringBounds, validateDocument, lexical_iff, lexical_unbounded]
    constructor
    · rintro ⟨v, haccepted, hnumbers, hspent⟩
      exact ⟨⟨v, haccepted, hnumbers⟩, v, haccepted.text, (spend_accepted haccepted rfl).mp hspent⟩
    · rintro ⟨⟨v, haccepted, hnumbers⟩, v', htext, hbounds⟩
      cases document_unique haccepted.text htext
      exact ⟨v, haccepted, hnumbers, (spend_accepted haccepted rfl).mpr hbounds⟩
  · intro s hs bodies used hspend
    obtain ⟨-, -, hle⟩ := (spend_iff hs (Nat.zero_le _)).mp hspend
    have htotal := bounds.totalBytes.toNat_lt
    omega

/-- A letter, an escaped letter and an escaped surrogate pair. -/
theorem string_accounting_escaped :
    (∃ s, unmarshalKey (utf8 "\"a\\u00e9\\ud83d\\ude00\"") = some s ∧
      decodedStringBytes (utf8 "\"a\\u00e9\\ud83d\\ude00\"") = s.length) ∧ 3 ≤ (9 : UInt64).toNat := by
  have h := string_accounting (utf8 "\"a\\u00e9\\ud83d\\ude00\"") 0 0 0 ⟨4, 9⟩
  refine ⟨h.1 (by decide +kernel) [] _ [] (by simp) (by decide +kernel), ?_⟩
  exact (h.2.2 (scannerFor [] 0 0 true (some ⟨4, 9⟩)) rfl [utf8 "abc"] 3 (by decide +kernel)).2

end Sessionless.StrictJson
