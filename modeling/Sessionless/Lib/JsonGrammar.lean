import Sessionless.Lib.JsonNumber

/-!
# The grammar of JSON texts

RFC 8259 as a relation between a value and its texts, with blanks wherever the grammar has
them. The scanner reads the texts that the grammar gives a value, and nothing else,
as long as they do not nest deeper than it allows.
-/

namespace Sessionless.Lib.Raw

open Json hiding text

/-- `ws`: spaces, tabs, line feeds and carriage returns. -/
def Blank (text : Bytes) : Prop := ∀ b ∈ text, isBlank b = true

def Padded (inside : Bytes → Prop) (text : Bytes) : Prop :=
  ∃ before inner after, Blank before ∧ inside inner ∧ Blank after ∧ text = before ++ (inner ++ after)

/-- `string` -/
def Quoted (body text : Bytes) : Prop := Body body ∧ text = 34 :: body ++ [34]

mutual

/-- `value` -/
def Written : Raw → Bytes → Prop
  | null, text => text = utf8 "null"
  | bool true, text => text = utf8 "true"
  | bool false, text => text = utf8 "false"
  | num digits, text => text = digits ∧ ∃ n : Numeral, n.text = digits
  | str body, text => Quoted body text
  | arr items, text => ∃ inner, WrittenItems items inner ∧ text = 91 :: inner ++ [93]
  | obj members, text => ∃ inner, WrittenMembers members inner ∧ text = 123 :: inner ++ [125]

/-- `[ value *( value-separator value ) ]`, with the blanks around the structural characters. -/
def WrittenItems : List Raw → Bytes → Prop
  | [], text => Blank text
  | [item], text => Padded (Written item) text
  | item :: items, text =>
    ∃ first rest, Padded (Written item) first ∧ WrittenItems items rest ∧ text = first ++ 44 :: rest

/-- `[ member *( value-separator member ) ]`, where `member = string name-separator value`. -/
def WrittenMembers : List (Bytes × Raw) → Bytes → Prop
  | [], text => Blank text
  | [(name, value)], text =>
    ∃ key inner, Padded (Quoted name) key ∧ Padded (Written value) inner ∧ text = key ++ 58 :: inner
  | (name, value) :: members, text =>
    ∃ key inner rest, Padded (Quoted name) key ∧ Padded (Written value) inner ∧ WrittenMembers members rest ∧
      text = key ++ 58 :: (inner ++ 44 :: rest)

end

/-- `JSON-text = ws value ws` -/
def Document (value : Raw) (text : Bytes) : Prop := Padded (Written value) text

mutual

def height : Raw → Nat
  | null => 1
  | bool _ => 1
  | num _ => 1
  | str _ => 1
  | arr items => heightItems items + 1
  | obj members => heightMembers members + 1

def heightItems : List Raw → Nat
  | [] => 0
  | item :: items => max (height item) (heightItems items)

def heightMembers : List (Bytes × Raw) → Nat
  | [] => 0
  | (_, value) :: members => max (height value) (heightMembers members)

end

mutual

def All (p : Raw → Prop) : Raw → Prop
  | null => p null
  | bool b => p (bool b)
  | num digits => p (num digits)
  | str body => p (str body)
  | arr items => p (arr items) ∧ AllItems p items
  | obj members => p (obj members) ∧ AllMembers p members

def AllItems (p : Raw → Prop) : List Raw → Prop
  | [] => True
  | item :: items => All p item ∧ AllItems p items

def AllMembers (p : Raw → Prop) : List (Bytes × Raw) → Prop
  | [] => True
  | (_, value) :: members => All p value ∧ AllMembers p members

end

def width : Raw → Nat
  | arr items => items.length
  | obj members => members.length
  | _ => 0

/-! ## Properties of all the values inside -/

mutual

theorem All.imp {p q : Raw → Prop} (hpq : ∀ v, p v → q v) : (v : Raw) → All p v → All q v
  | null, h => hpq _ h
  | bool _, h => hpq _ h
  | num _, h => hpq _ h
  | str _, h => hpq _ h
  | arr items, h => ⟨hpq _ h.1, AllItems.imp hpq items h.2⟩
  | obj members, h => ⟨hpq _ h.1, AllMembers.imp hpq members h.2⟩

theorem AllItems.imp {p q : Raw → Prop} (hpq : ∀ v, p v → q v) : (items : List Raw) → AllItems p items → AllItems q items
  | [], _ => trivial
  | item :: items, h => ⟨All.imp hpq item h.1, AllItems.imp hpq items h.2⟩

theorem AllMembers.imp {p q : Raw → Prop} (hpq : ∀ v, p v → q v) :
    (members : List (Bytes × Raw)) → AllMembers p members → AllMembers q members
  | [], _ => trivial
  | (_, value) :: members, h => ⟨All.imp hpq value h.1, AllMembers.imp hpq members h.2⟩

end

mutual

theorem All.and {p q : Raw → Prop} : (v : Raw) → All p v → All q v → All (fun v => p v ∧ q v) v
  | null, hp, hq => ⟨hp, hq⟩
  | bool _, hp, hq => ⟨hp, hq⟩
  | num _, hp, hq => ⟨hp, hq⟩
  | str _, hp, hq => ⟨hp, hq⟩
  | arr items, hp, hq => ⟨⟨hp.1, hq.1⟩, AllItems.and items hp.2 hq.2⟩
  | obj members, hp, hq => ⟨⟨hp.1, hq.1⟩, AllMembers.and members hp.2 hq.2⟩

theorem AllItems.and {p q : Raw → Prop} :
    (items : List Raw) → AllItems p items → AllItems q items → AllItems (fun v => p v ∧ q v) items
  | [], _, _ => trivial
  | item :: items, hp, hq => ⟨All.and item hp.1 hq.1, AllItems.and items hp.2 hq.2⟩

theorem AllMembers.and {p q : Raw → Prop} :
    (members : List (Bytes × Raw)) → AllMembers p members → AllMembers q members → AllMembers (fun v => p v ∧ q v) members
  | [], _, _ => trivial
  | (_, value) :: members, hp, hq => ⟨All.and value hp.1 hq.1, AllMembers.and members hp.2 hq.2⟩

end

theorem written_cons {v text} (h : Written v text) :
    ∃ b tail, text = b :: tail ∧ isBlank b = false ∧ b ≠ 93 := by
  cases v with
  | null => exact ⟨_, _, h, by decide, by decide⟩
  | bool value =>
    cases value with
    | false => exact ⟨_, _, h, by decide, by decide⟩
    | true => exact ⟨_, _, h, by decide, by decide⟩
  | num digits =>
    obtain ⟨rfl, n, hn⟩ := h
    have hnumber : Number text := hn ▸ n.number
    exact hnumber.cons
  | str body => exact ⟨_, _, h.2, by decide, by decide⟩
  | arr items | obj members =>
    obtain ⟨inner, -, rfl⟩ := h
    exact ⟨_, _, rfl, by decide, by decide⟩

theorem Padded.infix {inside : Bytes → Prop} {text} (h : Padded inside text) :
    ∃ inner, inside inner ∧ inner <:+: text := by
  obtain ⟨before, inner, after, -, hinner, -, rfl⟩ := h
  exact ⟨inner, hinner, before, after, List.append_assoc ..⟩

theorem WrittenItems.cons {item items text} (h : WrittenItems (item :: items) text) :
    ∃ inner rest, Written item inner ∧ WrittenItems items rest ∧ inner <:+: text ∧ rest <:+: text ∧
      rest.length < text.length := by
  cases items with
  | nil =>
    obtain ⟨inner, hinner, hin⟩ := Padded.infix h
    obtain ⟨b, tail, rfl, -⟩ := written_cons hinner
    exact ⟨_, [], hinner, by simp [WrittenItems, Blank], hin, List.nil_infix, Nat.lt_of_lt_of_le (by simp) hin.length_le⟩
  | cons next items =>
    obtain ⟨first, rest, hfirst, hrest, rfl⟩ := h
    obtain ⟨inner, hinner, hin⟩ := Padded.infix hfirst
    refine ⟨inner, rest, hinner, hrest, hin.trans (List.prefix_append ..).isInfix, ?_, ?_⟩
    · exact ((List.suffix_cons ..).trans (List.suffix_append ..)).isInfix
    · simp only [List.length_append, List.length_cons]
      omega

theorem WrittenMembers.cons {name value members text} (h : WrittenMembers ((name, value) :: members) text) :
    ∃ key inner rest, Quoted name key ∧ Written value inner ∧ WrittenMembers members rest ∧ key <:+: text ∧
      inner <:+: text ∧ rest <:+: text ∧ rest.length < text.length := by
  cases members with
  | nil =>
    obtain ⟨left, right, hleft, hright, rfl⟩ := h
    obtain ⟨key, hkey, hkin⟩ := Padded.infix hleft
    obtain ⟨inner, hinner, hin⟩ := Padded.infix hright
    refine ⟨key, inner, [], hkey, hinner, by simp [WrittenMembers, Blank], ?_, ?_, List.nil_infix, by simp⟩
    · exact hkin.trans (List.prefix_append ..).isInfix
    · exact hin.trans ((List.suffix_cons ..).trans (List.suffix_append ..)).isInfix
  | cons next members =>
    obtain ⟨left, right, rest, hleft, hright, hrest, rfl⟩ := h
    obtain ⟨key, hkey, hkin⟩ := Padded.infix hleft
    obtain ⟨inner, hinner, hin⟩ := Padded.infix hright
    have hend : right ++ 44 :: rest <:+ left ++ 58 :: (right ++ 44 :: rest) :=
      (List.suffix_cons ..).trans (List.suffix_append ..)
    refine ⟨key, inner, rest, hkey, hinner, hrest, hkin.trans (List.prefix_append ..).isInfix, ?_, ?_, ?_⟩
    · exact (hin.trans (List.prefix_append ..).isInfix).trans hend.isInfix
    · exact (((List.suffix_cons ..).trans (List.suffix_append ..)).trans hend).isInfix
    · simp only [List.length_append, List.length_cons]
      omega

/-! ## Sizes

A value is no deeper, and nothing in it is wider, than its text is long. -/

mutual

theorem written_bounds (v : Raw) {text n} (h : Written v text) (hn : text.length ≤ n) :
    height v ≤ text.length ∧ All (fun inside => inside.width ≤ n) v := by
  cases v with
  | null =>
    cases h
    exact ⟨by decide, Nat.zero_le n⟩
  | bool value =>
    cases value with
    | false =>
      cases h
      exact ⟨by decide, Nat.zero_le n⟩
    | true =>
      cases h
      exact ⟨by decide, Nat.zero_le n⟩
  | num digits =>
    obtain ⟨rfl, numeral, hnumeral⟩ := h
    have hne : text ≠ [] := hnumeral ▸ numeral.number.1
    exact ⟨List.length_pos_iff.mpr hne, Nat.zero_le n⟩
  | str body =>
    obtain ⟨-, rfl⟩ := h
    exact ⟨by simp [height], Nat.zero_le n⟩
  | arr items =>
    obtain ⟨inner, hinner, rfl⟩ := h
    simp only [List.length_cons, List.length_append, List.length_nil] at hn
    obtain ⟨hheight, hwidth, hall⟩ := writtenItems_bounds items hinner (show inner.length ≤ n by omega)
    refine ⟨?_, show items.length ≤ n by omega, hall⟩
    simp only [height, List.length_cons, List.length_append, List.length_nil]
    omega
  | obj members =>
    obtain ⟨inner, hinner, rfl⟩ := h
    simp only [List.length_cons, List.length_append, List.length_nil] at hn
    obtain ⟨hheight, hwidth, hall⟩ := writtenMembers_bounds members hinner (show inner.length ≤ n by omega)
    refine ⟨?_, show members.length ≤ n by omega, hall⟩
    simp only [height, List.length_cons, List.length_append, List.length_nil]
    omega

theorem writtenItems_bounds (items : List Raw) {text n} (h : WrittenItems items text) (hn : text.length ≤ n) :
    heightItems items ≤ text.length ∧ items.length ≤ text.length ∧ AllItems (fun inside => inside.width ≤ n) items := by
  cases items with
  | nil => exact ⟨Nat.zero_le _, Nat.zero_le _, trivial⟩
  | cons item items =>
    obtain ⟨inner, rest, hinner, hrest, hin, -, hlt⟩ := h.cons
    have hlen := hin.length_le
    obtain ⟨hheight, hall⟩ := written_bounds item hinner (hlen.trans hn)
    obtain ⟨hheights, hlengths, halls⟩ := writtenItems_bounds items hrest (hlt.le.trans hn)
    simp only [heightItems, List.length_cons]
    exact ⟨by omega, by omega, hall, halls⟩

theorem writtenMembers_bounds (members : List (Bytes × Raw)) {text n} (h : WrittenMembers members text)
    (hn : text.length ≤ n) :
    heightMembers members ≤ text.length ∧ members.length ≤ text.length ∧
      AllMembers (fun inside => inside.width ≤ n) members := by
  cases members with
  | nil => exact ⟨Nat.zero_le _, Nat.zero_le _, trivial⟩
  | cons member members =>
    obtain ⟨key, inner, rest, -, hinner, hrest, -, hin, -, hlt⟩ := h.cons
    have hlen := hin.length_le
    obtain ⟨hheight, hall⟩ := written_bounds member.2 hinner (hlen.trans hn)
    obtain ⟨hheights, hlengths, halls⟩ := writtenMembers_bounds members hrest (hlt.le.trans hn)
    simp only [heightMembers, List.length_cons]
    exact ⟨by omega, by omega, hall, halls⟩

end

/-! ## Blanks -/

theorem skipBlanks_blank {before rest} (h : Blank before) : skipBlanks (before ++ rest) = skipBlanks rest :=
  List.dropWhile_append_of_pos h

theorem skipBlanks_split (input : Bytes) : ∃ before, Blank before ∧ input = before ++ skipBlanks input :=
  ⟨input.takeWhile isBlank, fun _ hb => List.mem_takeWhile_imp hb, List.takeWhile_append_dropWhile.symm⟩

/-- A text of the kind stands at the start of an input, after blanks. -/
def Leads (inside : Bytes → Prop) (input rest : Bytes) : Prop :=
  ∃ before inner, Blank before ∧ inside inner ∧ input = before ++ (inner ++ rest)

theorem Leads.padded {inside : Bytes → Prop} {input rest tail b} (h : Leads inside input rest)
    (hs : skipBlanks rest = b :: tail) : ∃ text, Padded inside text ∧ input = text ++ b :: tail := by
  obtain ⟨before, inner, hbefore, hinner, rfl⟩ := h
  obtain ⟨after, hafter, hrest⟩ := skipBlanks_split rest
  refine ⟨_, ⟨before, inner, after, hbefore, hinner, hafter, rfl⟩, ?_⟩
  rw [hrest, hs]
  simp only [List.append_assoc]

theorem skipBlanks_close {input b} (h : (skipBlanks input).head? = some b) :
    ∃ inner, Blank inner ∧ input = inner ++ b :: (skipBlanks input).tail := by
  obtain ⟨inner, hinner, hsplit⟩ := skipBlanks_split input
  refine ⟨inner, hinner, ?_⟩
  cases hskip : skipBlanks input with
  | nil => simp [hskip] at h
  | cons c rest =>
    rw [hskip] at h hsplit
    cases h
    exact hsplit

/-! ## What is scanned is in the grammar -/

theorem scanChar_quote {input rest} (h : scanChar input = some (none, rest)) : input = 34 :: rest := by
  unfold scanChar at h
  split at h
  · cases h
  · rename_i b tail
    split at h
    · rename_i hquote
      cases h
      rw [hquote]
    · split at h
      · split at h
        · cases h
        · split at h
          · split at h
            · split at h
              · cases h
              · cases h
            · cases h
          · split at h
            · cases h
            · cases h
      · split at h
        · cases h
        · cases h

theorem scanBody_split {fuel input body rest} (h : scanBody fuel input = some (body, rest)) :
    input = body ++ 34 :: rest := by
  induction fuel generalizing input body with
  | zero => cases h
  | succ fuel ih =>
    simp only [scanBody] at h
    split at h
    · cases h
    · rename_i hchar
      cases h
      exact scanChar_quote hchar
    · rename_i char tail hchar
      obtain ⟨⟨read, rest⟩, hread, heq⟩ := Option.map_eq_some_iff.mp h
      cases heq
      rw [(scanChar_ok hchar).2, ih hread, List.append_assoc]

theorem scanLiteral_split {literal value v input rest}
    (h : scanLiteral literal value input = some (v, rest)) : v = value ∧ input = utf8 literal ++ rest := by
  unfold scanLiteral at h
  split at h
  · rename_i hstart
    cases h
    exact ⟨rfl, (List.prefix_iff_eq_append.mp hstart).symm⟩
  · cases h

/-- What the three readers return with some fuel is in the grammar. -/
structure Reads (fuel : Nat) : Prop where
  value {room : Nat} {input rest : Bytes} {v : Raw} : scan fuel room input = some (v, rest) → Leads (Written v) input rest
  items {room : Nat} {input rest : Bytes} {items : List Raw} : scanItems fuel room input = some (items, rest) →
    items ≠ [] ∧ ∃ inner, WrittenItems items inner ∧ input = inner ++ 93 :: rest
  members {room : Nat} {input rest : Bytes} {members : List (Bytes × Raw)} :
    scanMembers fuel room input = some (members, rest) →
      members ≠ [] ∧ ∃ inner, WrittenMembers members inner ∧ input = inner ++ 125 :: rest

theorem Reads.value_step {fuel room input rest v} (ih : Reads fuel)
    (h : scan (fuel + 1) room input = some (v, rest)) : Leads (Written v) input rest := by
  obtain ⟨before, hbefore, hsplit⟩ := skipBlanks_split input
  suffices hinner : ∃ inner, Written v inner ∧ skipBlanks input = inner ++ rest by
    obtain ⟨inner, hinner, hskip⟩ := hinner
    exact ⟨before, inner, hbefore, hinner, hskip ▸ hsplit⟩
  simp only [scan] at h
  split at h
  · cases h
  · rename_i b tail hskip
    rw [hskip]
    split_ifs at h with hquote hbracket hroom hclose hbrace hroom hclose hn ht hf
    · subst hquote
      obtain ⟨⟨body, rest⟩, hbody, heq⟩ := Option.map_eq_some_iff.mp h
      cases heq
      refine ⟨34 :: body ++ [34], ⟨scanBody_ok hbody, rfl⟩, ?_⟩
      rw [scanBody_split hbody]
      simp
    · subst hbracket
      cases h
      obtain ⟨inner, hinner, htail⟩ := skipBlanks_close hclose
      exact ⟨91 :: inner ++ [93], ⟨inner, hinner, rfl⟩, by simpa using htail⟩
    · subst hbracket
      obtain ⟨⟨items, rest⟩, hitems, heq⟩ := Option.map_eq_some_iff.mp h
      cases heq
      obtain ⟨-, inner, hinner, rfl⟩ := ih.items hitems
      exact ⟨91 :: inner ++ [93], ⟨inner, hinner, rfl⟩, by simp⟩
    · subst hbrace
      cases h
      obtain ⟨inner, hinner, htail⟩ := skipBlanks_close hclose
      exact ⟨123 :: inner ++ [125], ⟨inner, hinner, rfl⟩, by simpa using htail⟩
    · subst hbrace
      obtain ⟨⟨members, rest⟩, hmembers, heq⟩ := Option.map_eq_some_iff.mp h
      cases heq
      obtain ⟨-, inner, hinner, rfl⟩ := ih.members hmembers
      exact ⟨123 :: inner ++ [125], ⟨inner, hinner, rfl⟩, by simp⟩
    · obtain ⟨rfl, hinput⟩ := scanLiteral_split h
      exact ⟨_, rfl, hinput⟩
    · obtain ⟨rfl, hinput⟩ := scanLiteral_split h
      exact ⟨_, rfl, hinput⟩
    · obtain ⟨rfl, hinput⟩ := scanLiteral_split h
      exact ⟨_, rfl, hinput⟩
    · obtain ⟨⟨digits, rest⟩, hdigits, heq⟩ := Option.map_eq_some_iff.mp h
      cases heq
      obtain ⟨hinput, hnumeral⟩ := scanNumber_split hdigits
      exact ⟨digits, ⟨rfl, hnumeral⟩, hinput⟩

theorem Reads.items_step {fuel room input rest items} (ih : Reads fuel)
    (h : scanItems (fuel + 1) room input = some (items, rest)) :
    items ≠ [] ∧ ∃ inner, WrittenItems items inner ∧ input = inner ++ 93 :: rest := by
  simp only [scanItems, Option.bind_eq_some_iff, Prod.exists] at h
  obtain ⟨item, after, hitem, h⟩ := h
  split at h
  · cases h
  · rename_i b tail hskip
    obtain ⟨first, hfirst, rfl⟩ := (ih.value hitem).padded hskip
    split_ifs at h with hcomma hclose
    · obtain ⟨⟨others, rest⟩, hothers, heq⟩ := Option.map_eq_some_iff.mp h
      cases heq
      obtain ⟨hne, inner, hinner, rfl⟩ := ih.items hothers
      refine ⟨by simp, first ++ 44 :: inner, ?_, by simp [hcomma]⟩
      cases others with
      | nil => exact absurd rfl hne
      | cons next others => exact ⟨first, inner, hfirst, hinner, rfl⟩
    · cases h
      exact ⟨by simp, first, hfirst, by rw [hclose]⟩

theorem Reads.members_step {fuel room input rest members} (ih : Reads fuel)
    (h : scanMembers (fuel + 1) room input = some (members, rest)) :
    members ≠ [] ∧ ∃ inner, WrittenMembers members inner ∧ input = inner ++ 125 :: rest := by
  simp only [scanMembers] at h
  split at h
  · cases h
  · rename_i quote tail hskip
    split_ifs at h with hquote
    obtain ⟨⟨name, after⟩, hname, hrest⟩ := Option.bind_eq_some_iff.mp h
    split at hrest
    · cases hrest
    · rename_i colon tail' hskip'
      have hkey : Leads (Quoted name) input after := by
        obtain ⟨before, hbefore, hsplit⟩ := skipBlanks_split input
        refine ⟨before, _, hbefore, ⟨scanBody_ok hname, rfl⟩, ?_⟩
        rw [hsplit, hskip, not_ne_iff.mp hquote, scanBody_split hname]
        simp
      obtain ⟨key, hkey, hinput⟩ := hkey.padded hskip'
      split_ifs at hrest with hcolon
      obtain ⟨⟨value, after'⟩, hvalue, hlast⟩ := Option.bind_eq_some_iff.mp hrest
      split at hlast
      · cases hlast
      · rename_i b tail'' hskip''
        obtain ⟨inner, hinner, htail⟩ := (ih.value hvalue).padded hskip''
        rw [hinput, htail, not_ne_iff.mp hcolon]
        split_ifs at hlast with hcomma hclose
        · obtain ⟨⟨others, rest⟩, hothers, heq⟩ := Option.map_eq_some_iff.mp hlast
          cases heq
          obtain ⟨hne, others', hothers', rfl⟩ := ih.members hothers
          refine ⟨by simp, key ++ 58 :: (inner ++ 44 :: others'), ?_, by simp [hcomma]⟩
          cases others with
          | nil => exact absurd rfl hne
          | cons next others => exact ⟨key, inner, others', hkey, hinner, hothers', rfl⟩
        · cases hlast
          exact ⟨by simp, _, ⟨key, inner, hkey, hinner, rfl⟩, by simp [hclose]⟩

theorem reads (fuel : Nat) : Reads fuel := by
  induction fuel with
  | zero =>
    constructor
    · intro room input rest v h
      cases h
    · intro room input rest items h
      cases h
    · intro room input rest members h
      cases h
  | succ fuel ih => exact ⟨ih.value_step, ih.items_step, ih.members_step⟩

/-! ## What is in the grammar is scanned -/

theorem scan_blank {fuel room before rest} (h : Blank before) :
    scan fuel room (before ++ rest) = scan fuel room rest := by
  cases fuel with
  | zero => rfl
  | succ fuel => simp only [scan, skipBlanks_blank h]

theorem skipBlanks_to {before rest b} (h : Blank before) (hb : isBlank b = false) :
    skipBlanks (before ++ b :: rest) = b :: rest := by
  rw [skipBlanks_blank h, skipBlanks_cons hb]

theorem stops_blank {after rest} (h : Blank after) (hs : Stops rest) : Stops (after ++ rest) := by
  cases after with
  | nil => exact hs
  | cons b after =>
    have hb := h b List.mem_cons_self
    simp only [isBlank, Bool.or_eq_true, decide_eq_true_eq] at hb
    simp only [Stops, List.cons_append, List.head?_cons, Option.any_some, continuesNumber, isDigit, Bool.or_eq_false_iff,
      decide_eq_false_iff_not]
    omega

theorem items_open {item items text rest} (h : WrittenItems (item :: items) text) :
    (skipBlanks (text ++ rest)).head? ≠ some 93 := by
  have hfirst : ∃ first tail, Padded (Written item) first ∧ text = first ++ tail := by
    cases items with
    | nil => exact ⟨text, [], h, (List.append_nil _).symm⟩
    | cons next items =>
      obtain ⟨first, others, hfirst, -, rfl⟩ := h
      exact ⟨first, _, hfirst, rfl⟩
  obtain ⟨first, tail, ⟨before, inner, after, hbefore, hinner, -, rfl⟩, rfl⟩ := hfirst
  obtain ⟨b, tail, rfl, hblank, hb⟩ := written_cons hinner
  simp only [List.append_assoc, List.cons_append]
  rw [skipBlanks_to hbefore hblank]
  simpa using hb

theorem members_open {members text rest} (h : WrittenMembers members text)
    (hm : members ≠ []) : (skipBlanks (text ++ rest)).head? ≠ some 125 := by
  have hkey : ∃ name key tail, Padded (Quoted name) key ∧ text = key ++ tail := by
    cases members with
    | nil => exact absurd rfl hm
    | cons member members =>
      cases members with
      | nil =>
        obtain ⟨key, inner, hkey, -, rfl⟩ := h
        exact ⟨_, key, _, hkey, rfl⟩
      | cons next members =>
        obtain ⟨key, inner, others, hkey, -, -, rfl⟩ := h
        exact ⟨_, key, _, hkey, rfl⟩
  obtain ⟨name, key, tail, ⟨before, inner, after, hbefore, ⟨-, rfl⟩, -, rfl⟩, rfl⟩ := hkey
  simp only [List.append_assoc, List.cons_append]
  rw [skipBlanks_to hbefore (by decide)]
  simp

mutual

theorem scan_written (v : Raw) {fuel room text rest} (h : Written v text) (hr : height v ≤ room)
    (hf : text.length ≤ fuel) (hs : Stops rest) : scan fuel room (text ++ rest) = some (v, rest) := by
  obtain ⟨fuel, rfl⟩ : ∃ k, fuel = k + 1 := by
    obtain ⟨b, tail, rfl, -⟩ := written_cons h
    rw [List.length_cons] at hf
    exact ⟨fuel - 1, by omega⟩
  cases v with
  | null =>
    cases h
    rfl
  | bool value =>
    cases value with
    | false =>
      cases h
      rfl
    | true =>
      cases h
      rfl
  | num digits =>
    obtain ⟨rfl, n, hn⟩ := h
    have hnumber : Number text := hn ▸ n.number
    exact hnumber.scan hs
  | str body =>
    obtain ⟨hbody, rfl⟩ := h
    exact hbody.scan_quoted
  | arr items =>
    obtain ⟨inner, hinner, rfl⟩ := h
    simp only [height] at hr
    simp only [List.length_cons, List.length_append, List.length_nil] at hf
    simp only [List.cons_append, List.append_assoc, List.nil_append, scan,
      skipBlanks_cons (show isBlank 91 = false by decide)]
    rw [if_neg (by decide), if_pos trivial, if_neg (by omega)]
    cases items with
    | nil =>
      rw [skipBlanks_to hinner (by decide)]
      rfl
    | cons item items =>
      rw [if_neg (items_open hinner), scanItems_written (item :: items) hinner (by simp) (by omega) (by omega)]
      rfl
  | obj members =>
    obtain ⟨inner, hinner, rfl⟩ := h
    simp only [height] at hr
    simp only [List.length_cons, List.length_append, List.length_nil] at hf
    simp only [List.cons_append, List.append_assoc, List.nil_append, scan,
      skipBlanks_cons (show isBlank 123 = false by decide)]
    rw [if_neg (by decide), if_neg (by decide), if_pos trivial, if_neg (by omega)]
    cases members with
    | nil =>
      rw [skipBlanks_to hinner (by decide)]
      rfl
    | cons member members =>
      rw [if_neg (members_open hinner (by simp)),
        scanMembers_written (member :: members) hinner (by simp) (by omega) (by omega)]
      rfl

theorem scanItems_written (items : List Raw) {fuel room inner rest} (h : WrittenItems items inner)
    (hi : items ≠ []) (hr : heightItems items ≤ room) (hf : inner.length < fuel) :
    scanItems fuel room (inner ++ 93 :: rest) = some (items, rest) := by
  obtain ⟨fuel, rfl⟩ : ∃ k, fuel = k + 1 := ⟨fuel - 1, by omega⟩
  cases items with
  | nil => exact absurd rfl hi
  | cons item items =>
    simp only [heightItems] at hr
    cases items with
    | nil =>
      obtain ⟨before, text, after, hbefore, htext, hafter, rfl⟩ := h
      simp only [List.length_append] at hf
      have hitem : scan fuel room (text ++ (after ++ 93 :: rest)) = some (item, after ++ 93 :: rest) :=
        scan_written item htext (by omega) (by omega) (stops_blank hafter (stops_cons (by decide)))
      simp only [List.append_assoc, scanItems, scan_blank hbefore, hitem, Option.bind_some,
        skipBlanks_to hafter (show isBlank 93 = false by decide)]
      rfl
    | cons next items =>
      obtain ⟨first, others, ⟨before, text, after, hbefore, htext, hafter, rfl⟩, hothers, rfl⟩ := h
      simp only [List.length_append, List.length_cons] at hf
      have hitem : scan fuel room (text ++ (after ++ 44 :: (others ++ 93 :: rest))) =
          some (item, after ++ 44 :: (others ++ 93 :: rest)) :=
        scan_written item htext (by omega) (by omega) (stops_blank hafter (stops_cons (by decide)))
      have hitems : scanItems fuel room (others ++ 93 :: rest) = some (next :: items, rest) :=
        scanItems_written (next :: items) hothers (by simp) (by omega) (by omega)
      simp only [List.append_assoc, List.cons_append, scanItems, scan_blank hbefore, hitem, Option.bind_some,
        skipBlanks_to hafter (show isBlank 44 = false by decide)]
      rw [if_pos trivial, hitems]
      rfl

theorem scanMembers_written (members : List (Bytes × Raw)) {fuel room inner rest}
    (h : WrittenMembers members inner) (hi : members ≠ []) (hr : heightMembers members ≤ room)
    (hf : inner.length < fuel) : scanMembers fuel room (inner ++ 125 :: rest) = some (members, rest) := by
  obtain ⟨fuel, rfl⟩ : ∃ k, fuel = k + 1 := ⟨fuel - 1, by omega⟩
  cases members with
  | nil => exact absurd rfl hi
  | cons member members =>
    obtain ⟨name, value⟩ := member
    simp only [heightMembers] at hr
    cases members with
    | nil =>
      obtain ⟨key, inner, ⟨before, quoted, colon, hbefore, ⟨hname, rfl⟩, hcolon, rfl⟩,
        ⟨gap, text, after, hgap, htext, hafter, rfl⟩, rfl⟩ := h
      simp only [List.length_append, List.length_cons] at hf
      have hread : scan fuel room (text ++ (after ++ 125 :: rest)) = some (value, after ++ 125 :: rest) :=
        scan_written value htext (by omega) (by omega) (stops_blank hafter (stops_cons (by decide)))
      simp only [List.append_assoc, List.cons_append, List.nil_append, scanMembers,
        skipBlanks_to hbefore (show isBlank 34 = false by decide)]
      rw [if_neg (by decide), scanBody_quoted hname]
      simp only [Option.bind_some, skipBlanks_to hcolon (show isBlank 58 = false by decide)]
      rw [if_neg (by decide), scan_blank hgap, hread]
      simp only [Option.bind_some, skipBlanks_to hafter (show isBlank 125 = false by decide)]
      rfl
    | cons next members =>
      obtain ⟨key, inner, others, ⟨before, quoted, colon, hbefore, ⟨hname, rfl⟩, hcolon, rfl⟩,
        ⟨gap, text, after, hgap, htext, hafter, rfl⟩, hothers, rfl⟩ := h
      simp only [List.length_append, List.length_cons] at hf
      have hread : scan fuel room (text ++ (after ++ 44 :: (others ++ 125 :: rest))) =
          some (value, after ++ 44 :: (others ++ 125 :: rest)) :=
        scan_written value htext (by omega) (by omega) (stops_blank hafter (stops_cons (by decide)))
      have hrest : scanMembers fuel room (others ++ 125 :: rest) = some (next :: members, rest) :=
        scanMembers_written (next :: members) hothers (by simp) (by omega) (by omega)
      simp only [List.append_assoc, List.cons_append, List.nil_append, scanMembers,
        skipBlanks_to hbefore (show isBlank 34 = false by decide)]
      rw [if_neg (by decide), scanBody_quoted hname]
      simp only [Option.bind_some, skipBlanks_to hcolon (show isBlank 58 = false by decide)]
      rw [if_neg (by decide), scan_blank hgap, hread]
      simp only [Option.bind_some, skipBlanks_to hafter (show isBlank 44 = false by decide)]
      rw [if_pos trivial, hrest]
      rfl

end

end Sessionless.Lib.Raw
