import Sessionless.StrictJson.Tokens

/-!
# The language of the strict scanner

The strict scanner agrees with the scanner of the grammar on every input: it accepts the values that the grammar has
there, as long as they nest within the limit, every value inside is admitted and their strings can be paid for.
-/

namespace Sessionless.StrictJson

open Lib Json Raw

/-! ## What is admitted -/

/-- No string or name of the value itself holds an unpaired surrogate escape. -/
def StringsPaired : Raw → Prop
  | .str body => Paired body
  | .obj members => ∀ member ∈ members, Paired member.1
  | _ => True

def DistinctNames : Raw → Prop
  | .obj members => (members.map fun member => unescaped member.1).Nodup
  | _ => True

def NumbersBounded : Raw → Prop
  | .num digits => ∃ n : Numeral, n.text = digits ∧ Bounded n
  | _ => True

structure Admitted (s : JsonScanner) (v : Raw) : Prop where
  strings : StringsPaired v
  width : v.width ≤ s.members
  names : DistinctNames v
  numbers : s.documentNumbers = true ∨ NumbersBounded v

mutual

/-- The insides of the names and strings of a value, in the order of the text. -/
def strings : Raw → List Bytes
  | .str body => [body]
  | .arr items => stringsItems items
  | .obj members => stringsMembers members
  | _ => []

def stringsItems : List Raw → List Bytes
  | [] => []
  | item :: items => strings item ++ stringsItems items

def stringsMembers : List (Bytes × Raw) → List Bytes
  | [] => []
  | (name, value) :: members => name :: (strings value ++ stringsMembers members)

end

def JsonScanner.spend (s : JsonScanner) : List Bytes → Nat → Option Nat
  | [], used => some used
  | body :: bodies, used => (s.charge (34 :: body ++ [34]) used).bind (s.spend bodies)

theorem JsonScanner.spend_append (s : JsonScanner) (bodies others : List Bytes) (used : Nat) :
    s.spend (bodies ++ others) used = (s.spend bodies used).bind (s.spend others) := by
  induction bodies generalizing used with
  | nil => rfl
  | cons body bodies ih => simp [spend, Option.bind_assoc, ih]

/-- What is asked of a value at some depth, and what its strings cost. -/
structure Fits (s : JsonScanner) (depth used used' : Nat) (v : Raw) : Prop where
  nesting : depth + height v ≤ s.depth + 1
  inside : All (Admitted s) v
  spent : s.spend (strings v) used = some used'

/-- What the loop over the members asks of those that are left, with `n` names seen. -/
structure AdmittedMembers (s : JsonScanner) (depth : Nat) (seen : List Bytes) (n used used' : Nat)
    (members : List (Bytes × Raw)) : Prop where
  nesting : depth + heightMembers members ≤ s.depth
  inside : AllMembers (Admitted s) members
  count : n + members.length ≤ s.members
  strings : ∀ member ∈ members, Paired member.1
  names : (members.map fun member => unescaped member.1).Nodup
  fresh : ∀ member ∈ members, ∀ key ∈ unescaped member.1, key ∉ seen
  spent : s.spend (stringsMembers members) used = some used'

structure AdmittedItems (s : JsonScanner) (depth n used used' : Nat) (items : List Raw) : Prop where
  nesting : depth + heightItems items ≤ s.depth
  inside : AllItems (Admitted s) items
  count : n + items.length ≤ s.members
  spent : s.spend (stringsItems items) used = some used'

/-- With some fuel the three loops accept what the grammar's scanner reads, if it is admitted. -/
structure Agrees (s : JsonScanner) (fuel : Nat) : Prop where
  value {room depth used used' : Nat} {input rest : Bytes} : s.depth < room + depth →
    (value s fuel depth input used = some (rest, used') ↔
      ∃ v, scan fuel room input = some (v, rest) ∧ Fits s depth used used' v)
  members {room depth n used used' : Nat} {seen : List Bytes} {input rest : Bytes} : s.depth ≤ room + depth →
    (members s fuel depth seen n input used = some (rest, used') ↔
      ∃ ms, scanMembers fuel room input = some (ms, rest) ∧ AdmittedMembers s depth seen n used used' ms)
  items {room depth n used used' : Nat} {input rest : Bytes} : s.depth ≤ room + depth →
    (items s fuel depth n input used = some (rest, used') ↔
      ∃ vs, scanItems fuel room input = some (vs, rest) ∧ AdmittedItems s depth n used used' vs)

theorem height_pos (v : Raw) : 1 ≤ height v := by
  cases v with
  | null | bool | num | str => exact le_rfl
  | arr | obj => exact Nat.le_add_left 1 _

theorem skipBlanks_skipBlanks (input : Bytes) : skipBlanks (skipBlanks input) = skipBlanks input := by
  obtain ⟨before, hbefore, hsplit⟩ := skipBlanks_split input
  conv_rhs => rw [hsplit]
  exact (skipBlanks_blank hbefore).symm

theorem scanItems_skip (fuel room : Nat) (input : Bytes) :
    scanItems fuel room (skipBlanks input) = scanItems fuel room input := by
  obtain ⟨before, hbefore, hsplit⟩ := skipBlanks_split input
  conv_rhs => rw [hsplit]
  cases fuel with
  | zero => rfl
  | succ fuel => simp only [scanItems, scan_blank hbefore]

theorem scanMembers_skip (fuel room : Nat) (input : Bytes) :
    scanMembers fuel room (skipBlanks input) = scanMembers fuel room input := by
  cases fuel with
  | zero => rfl
  | succ fuel => simp only [scanMembers, skipBlanks_skipBlanks]

theorem take_space_none {c input} (h : take c input = none) : input.head? ≠ some c := by
  cases input with
  | nil => simp
  | cons b rest =>
    simp only [take, ite_eq_right_iff, reduceCtorEq, imp_false] at h
    simpa using h

/-! ## One value -/

variable {s : JsonScanner} {fuel room depth n used used' : Nat} {input rest : Bytes}

theorem agrees_obj {tail} (ih : Agrees s fuel) (hr : s.depth < room + depth) (hd : depth ≤ s.depth) :
    value s (fuel + 1) depth (123 :: tail) used = some (rest, used') ↔
      ∃ v, scan (fuel + 1) room (123 :: tail) = some (v, rest) ∧ Fits s depth used used' v := by
  have hroom : room ≠ 0 := by omega
  have hskip : skipBlanks (123 :: tail) = 123 :: tail := skipBlanks_cons (by decide)
  simp only [value, scan, if_neg (not_lt.mpr hd), hskip, if_true, if_neg hroom]
  rw [if_neg (by decide), if_neg (by decide)]
  cases htake : take 125 (skipBlanks tail) with
  | some after =>
    have hclose := take_eq_some.mp htake
    simp only [hclose, List.head?_cons, if_true, List.tail_cons, Option.some.injEq, Prod.mk.injEq]
    constructor
    · rintro ⟨rfl, rfl⟩
      refine ⟨.obj [], ⟨rfl, rfl⟩, ?_, ⟨⟨?_, Nat.zero_le _, List.nodup_nil, .inr trivial⟩, trivial⟩, rfl⟩
      · simp only [height, heightMembers]
        omega
      · intro member hmember
        cases hmember
    · rintro ⟨v, ⟨rfl, rfl⟩, -, -, hspent⟩
      exact ⟨rfl, Option.some.inj hspent⟩
  | none =>
    have hopen := take_space_none htake
    simp only [if_neg hopen]
    rw [ih.members (show s.depth ≤ room - 1 + depth by omega), scanMembers_skip]
    constructor
    · rintro ⟨ms, hms, hadmitted⟩
      refine ⟨.obj ms, by rw [hms]; rfl, ?_, ⟨?_, hadmitted.inside⟩, hadmitted.spent⟩
      · have hnesting := hadmitted.nesting
        simp only [height]
        omega
      · exact ⟨hadmitted.strings, by simpa [Raw.width] using hadmitted.count, hadmitted.names, .inr trivial⟩
    · rintro ⟨v, hv, hheight, hall, hspent⟩
      obtain ⟨⟨ms, after⟩, hms, heq⟩ := Option.map_eq_some_iff.mp hv
      cases heq
      obtain ⟨⟨hstrings, hwidth, hnames, -⟩, hinside⟩ := hall
      simp only [height] at hheight
      refine ⟨ms, hms, by omega, hinside, by simpa [Raw.width] using hwidth, hstrings, hnames, ?_, hspent⟩
      intro member _ key _
      simp

theorem agrees_arr {tail} (ih : Agrees s fuel) (hr : s.depth < room + depth) (hd : depth ≤ s.depth) :
    value s (fuel + 1) depth (91 :: tail) used = some (rest, used') ↔
      ∃ v, scan (fuel + 1) room (91 :: tail) = some (v, rest) ∧ Fits s depth used used' v := by
  have hroom : room ≠ 0 := by omega
  have hskip : skipBlanks (91 :: tail) = 91 :: tail := skipBlanks_cons (by decide)
  simp only [value, scan, if_neg (not_lt.mpr hd), hskip, if_true, if_neg hroom]
  rw [if_neg (by decide), if_neg (by decide)]
  cases htake : take 93 (skipBlanks tail) with
  | some after =>
    have hclose := take_eq_some.mp htake
    simp only [hclose, List.head?_cons, if_true, List.tail_cons, Option.some.injEq, Prod.mk.injEq]
    constructor
    · rintro ⟨rfl, rfl⟩
      refine ⟨.arr [], ⟨rfl, rfl⟩, ?_, ⟨⟨trivial, Nat.zero_le _, trivial, .inr trivial⟩, trivial⟩, rfl⟩
      simp only [height, heightItems]
      omega
    · rintro ⟨v, ⟨rfl, rfl⟩, -, -, hspent⟩
      exact ⟨rfl, Option.some.inj hspent⟩
  | none =>
    have hopen := take_space_none htake
    simp only [if_neg hopen]
    rw [ih.items (show s.depth ≤ room - 1 + depth by omega), scanItems_skip]
    constructor
    · rintro ⟨vs, hvs, hadmitted⟩
      refine ⟨.arr vs, by rw [hvs]; rfl, ?_, ⟨?_, hadmitted.inside⟩, hadmitted.spent⟩
      · have hnesting := hadmitted.nesting
        simp only [height]
        omega
      · exact ⟨trivial, by simpa [Raw.width] using hadmitted.count, trivial, .inr trivial⟩
    · rintro ⟨v, hv, hheight, hall, hspent⟩
      obtain ⟨⟨vs, after⟩, hvs, heq⟩ := Option.map_eq_some_iff.mp hv
      cases heq
      obtain ⟨⟨-, hwidth, -, -⟩, hinside⟩ := hall
      simp only [height] at hheight
      exact ⟨vs, hvs, by omega, hinside, by simpa [Raw.width] using hwidth, hspent⟩

theorem sliced_string {tail body} (h : scanBody (tail.length + 1) tail = some (body, rest)) :
    sliced (34 :: tail) rest = 34 :: body ++ [34] := by
  have hsplit : 34 :: tail = (34 :: body ++ [34]) ++ rest := by
    rw [scanBody_split h]
    simp
  rw [hsplit, sliced_append]

theorem chargedString_iff {tail} :
    s.chargedString (34 :: tail) used = some (rest, used') ↔ ∃ body,
      scanBody (tail.length + 1) tail = some (body, rest) ∧ Paired body ∧ s.charge (34 :: body ++ [34]) used = some used' := by
  simp only [JsonScanner.chargedString, Option.bind_eq_some_iff, Option.map_eq_some_iff, Prod.mk.injEq]
  constructor
  · rintro ⟨_, hstring, _, hcharge, rfl, rfl⟩
    obtain ⟨body, hbody, hpaired⟩ := string_iff.mp hstring
    exact ⟨body, hbody, hpaired, sliced_string hbody ▸ hcharge⟩
  · rintro ⟨body, hbody, hpaired, hcharge⟩
    exact ⟨rest, string_iff.mpr ⟨body, hbody, hpaired⟩, used', (sliced_string hbody).symm ▸ hcharge, rfl, rfl⟩

theorem agrees_str {tail} (hd : depth ≤ s.depth) :
    s.chargedString (34 :: tail) used = some (rest, used') ↔
      ∃ v, (scanBody (tail.length + 1) tail).map (fun read => (Raw.str read.1, read.2)) = some (v, rest) ∧
        Fits s depth used used' v := by
  rw [chargedString_iff]
  constructor
  · rintro ⟨body, hbody, hpaired, hcharge⟩
    refine ⟨.str body, by rw [hbody]; rfl, by simp only [height]; omega, ?_, ?_⟩
    · exact ⟨hpaired, Nat.zero_le _, trivial, .inr trivial⟩
    · simpa [strings, JsonScanner.spend] using hcharge
  · rintro ⟨v, hv, -, hall, hspent⟩
    obtain ⟨⟨body, after⟩, hbody, heq⟩ := Option.map_eq_some_iff.mp hv
    cases heq
    exact ⟨body, hbody, hall.strings, by simpa [strings, JsonScanner.spend] using hspent⟩

theorem agrees_num (hd : depth ≤ s.depth) :
    (number s.documentNumbers input).map (fun rest => (rest, used)) = some (rest, used') ↔
      ∃ v, (scanNumber input).map (fun read => (Raw.num read.1, read.2)) = some (v, rest) ∧
        Fits s depth used used' v := by
  simp only [Option.map_eq_some_iff, Prod.mk.injEq]
  constructor
  · rintro ⟨_, hnumber, rfl, rfl⟩
    obtain ⟨token, htoken, hok⟩ := number_iff.mp hnumber
    refine ⟨.num token, ⟨_, htoken, rfl, rfl⟩, by simp only [height]; omega, ?_, rfl⟩
    exact ⟨trivial, Nat.zero_le _, trivial, hok⟩
  · rintro ⟨v, ⟨⟨token, after⟩, htoken, rfl, rfl⟩, -, hall, hspent⟩
    exact ⟨_, number_iff.mpr ⟨token, htoken, hall.numbers⟩, rfl, Option.some.inj hspent⟩

theorem agrees_literal (hd : depth ≤ s.depth) (name : String) {scalar} (hheight : height scalar = 1)
    (hall : All (Admitted s) scalar) (hstrings : strings scalar = []) :
    (literal name input).map (fun rest => (rest, used)) = some (rest, used') ↔
      ∃ v, scanLiteral name scalar input = some (v, rest) ∧ Fits s depth used used' v := by
  have hspend : s.spend (strings scalar) used = some used := by
    rw [hstrings]
    rfl
  simp only [Option.map_eq_some_iff, Prod.mk.injEq]
  constructor
  · rintro ⟨_, hliteral, rfl, rfl⟩
    exact ⟨scalar, literal_iff.mp hliteral, by omega, hall, hspend⟩
  · rintro ⟨v, hv, -, -, hspent⟩
    cases scanLiteral_ok hv
    exact ⟨_, literal_iff.mpr hv, rfl, Option.some.inj (hspend.symm.trans hspent)⟩

theorem agrees_value (ih : Agrees s fuel) (hr : s.depth < room + depth) :
    value s (fuel + 1) depth input used = some (rest, used') ↔
      ∃ v, scan (fuel + 1) room input = some (v, rest) ∧ Fits s depth used used' v := by
  by_cases hd : depth ≤ s.depth
  · have hvalue : value s (fuel + 1) depth input used = value s (fuel + 1) depth (skipBlanks input) used := by
      simp only [value, skipBlanks_skipBlanks]
    have hscan : scan (fuel + 1) room input = scan (fuel + 1) room (skipBlanks input) := by
      simp only [scan, skipBlanks_skipBlanks]
    rw [hvalue, hscan]
    have hskip := skipBlanks_skipBlanks input
    cases hinput : skipBlanks input with
    | nil => simp [value, scan, skipBlanks]
    | cons b tail =>
      rw [hinput] at hskip
      by_cases hbrace : b = 123
      · subst hbrace
        exact agrees_obj ih hr hd
      by_cases hbracket : b = 91
      · subst hbracket
        exact agrees_arr ih hr hd
      simp only [value, scan, if_neg (not_lt.mpr hd), hskip, if_neg hbrace, if_neg hbracket]
      by_cases hquote : b = 34
      · subst hquote
        exact agrees_str hd
      simp only [if_neg hquote]
      by_cases hn : b = 110
      · subst hn
        exact agrees_literal hd "null" rfl ⟨trivial, Nat.zero_le _, trivial, .inr trivial⟩ rfl
      by_cases ht : b = 116
      · subst ht
        exact agrees_literal hd "true" rfl ⟨trivial, Nat.zero_le _, trivial, .inr trivial⟩ rfl
      by_cases hf : b = 102
      · subst hf
        exact agrees_literal hd "false" rfl ⟨trivial, Nat.zero_le _, trivial, .inr trivial⟩ rfl
      simp only [if_neg hn, if_neg ht, if_neg hf]
      exact agrees_num hd
  · refine iff_of_false ?_ ?_
    · simp only [value, if_pos (not_le.mp hd)]
      simp
    · rintro ⟨v, -, hheight, -⟩
      have hpos := height_pos v
      omega

/-! ## The loops -/

theorem admittedItems_cons {v vs} : AdmittedItems s depth n used used' (v :: vs) ↔
    ∃ mid, Fits s (depth + 1) used mid v ∧ AdmittedItems s depth (n + 1) mid used' vs := by
  constructor
  · rintro ⟨hnesting, hinside, hcount, hspent⟩
    rw [stringsItems, JsonScanner.spend_append] at hspent
    obtain ⟨mid, hv, hvs⟩ := Option.bind_eq_some_iff.mp hspent
    simp only [heightItems] at hnesting
    simp only [List.length_cons] at hcount
    exact ⟨mid, ⟨by omega, hinside.1, hv⟩, by omega, hinside.2, by omega, hvs⟩
  · rintro ⟨mid, hfits, hnesting, hinside, hcount, hspent⟩
    have hv := hfits.nesting
    refine ⟨?_, ⟨hfits.inside, hinside⟩, ?_, ?_⟩
    · simp only [heightItems]
      omega
    · simp only [List.length_cons]
      omega
    · rw [stringsItems, JsonScanner.spend_append, hfits.spent]
      exact hspent

theorem agrees_items (ih : Agrees s fuel) (hr : s.depth ≤ room + depth) :
    items s (fuel + 1) depth n input used = some (rest, used') ↔
      ∃ vs, scanItems (fuel + 1) room input = some (vs, rest) ∧ AdmittedItems s depth n used used' vs := by
  have hroom : s.depth < room + (depth + 1) := by omega
  constructor
  · intro h
    simp only [items] at h
    split_ifs at h with hcount
    obtain ⟨⟨after, mid⟩, hvalue, hnext⟩ := Option.bind_eq_some_iff.mp h
    obtain ⟨v, hscan, hfits⟩ := (ih.value hroom).mp hvalue
    cases htake : take 93 (skipBlanks after) with
    | some last =>
      simp only [htake] at hnext
      cases hnext
      refine ⟨[v], ?_, admittedItems_cons.mpr ⟨used', hfits, ?_, trivial, ?_, rfl⟩⟩
      · simp only [scanItems, hscan, Option.bind_some, take_eq_some.mp htake]
        rfl
      · have hnesting := hfits.nesting
        simp only [heightItems]
        omega
      · simp only [List.length_nil]
        omega
    | none =>
      simp only [htake] at hnext
      obtain ⟨next, hcomma, hitems⟩ := Option.bind_eq_some_iff.mp hnext
      obtain ⟨vs, hvs, hadmitted⟩ := (ih.items hr).mp hitems
      refine ⟨v :: vs, ?_, admittedItems_cons.mpr ⟨mid, hfits, hadmitted⟩⟩
      simp [scanItems, hscan, take_eq_some.mp hcomma, hvs]
  · rintro ⟨vs, hscan, hadmitted⟩
    simp only [scanItems] at hscan
    obtain ⟨⟨v, after⟩, hv, hnext⟩ := Option.bind_eq_some_iff.mp hscan
    split at hnext
    · cases hnext
    · rename_i b tail hskip
      split_ifs at hnext with hcomma hclose
      · obtain ⟨⟨others, last⟩, hothers, heq⟩ := Option.map_eq_some_iff.mp hnext
        cases heq
        obtain ⟨mid, hfits, hadmitted⟩ := admittedItems_cons.mp hadmitted
        have hvalue := (ih.value hroom).mpr ⟨v, hv, hfits⟩
        have hcount := hadmitted.count
        subst hcomma
        have hcount' : ¬ s.members < n + 1 := by omega
        simp only [items, if_neg hcount', hvalue, Option.bind_some, hskip, take]
        exact (ih.items hr).mpr ⟨others, hothers, hadmitted⟩
      · cases hnext
        obtain ⟨mid, hfits, hadmitted⟩ := admittedItems_cons.mp hadmitted
        have hvalue := (ih.value hroom).mpr ⟨v, hv, hfits⟩
        have hcount := hadmitted.count
        cases hadmitted.spent
        subst hclose
        have hcount' : ¬ s.members < n + 1 := by omega
        simp only [items, if_neg hcount', hvalue, Option.bind_some, hskip, take]
        rfl

theorem admittedMembers_cons {seen name key v ms} (hkey : unescaped name = some key) :
    AdmittedMembers s depth seen n used used' ((name, v) :: ms) ↔ key ∉ seen ∧ Paired name ∧
      ∃ paid mid, s.charge (34 :: name ++ [34]) used = some paid ∧ Fits s (depth + 1) paid mid v ∧
        AdmittedMembers s depth (key :: seen) (n + 1) mid used' ms := by
  constructor
  · rintro ⟨hnesting, hinside, hcount, hstrings, hnames, hfresh, hspent⟩
    rw [stringsMembers, JsonScanner.spend] at hspent
    obtain ⟨paid, hcharge, hspent⟩ := Option.bind_eq_some_iff.mp hspent
    rw [JsonScanner.spend_append] at hspent
    obtain ⟨mid, hv, hms⟩ := Option.bind_eq_some_iff.mp hspent
    simp only [heightMembers] at hnesting
    simp only [List.length_cons] at hcount
    rw [List.map_cons, List.nodup_cons, List.mem_map] at hnames
    refine ⟨hfresh (name, v) List.mem_cons_self key hkey, hstrings (name, v) List.mem_cons_self, paid, mid, hcharge,
      ⟨by omega, hinside.1, hv⟩, by omega, hinside.2, by omega, ?_, hnames.2, ?_, hms⟩
    · exact fun member hmember => hstrings member (List.mem_cons_of_mem _ hmember)
    · intro member hmember other hother hin
      rcases List.mem_cons.mp hin with rfl | hin
      · exact hnames.1 ⟨member, hmember, hother.trans hkey.symm⟩
      · exact hfresh member (List.mem_cons_of_mem _ hmember) other hother hin
  · rintro ⟨hseen, hpaired, paid, mid, hcharge, hfits, h⟩
    have hnesting := h.nesting
    have hcount := h.count
    have hv := hfits.nesting
    refine ⟨?_, ⟨hfits.inside, h.inside⟩, ?_, ?_, ?_, ?_, ?_⟩
    · simp only [heightMembers]
      omega
    · simp only [List.length_cons]
      omega
    · intro member hmember
      rcases List.mem_cons.mp hmember with rfl | hmember
      · exact hpaired
      · exact h.strings member hmember
    · rw [List.map_cons, List.nodup_cons, List.mem_map]
      refine ⟨?_, h.names⟩
      rintro ⟨member, hmember, heq⟩
      exact h.fresh member hmember key (heq.trans hkey) List.mem_cons_self
    · intro member hmember other hother
      rcases List.mem_cons.mp hmember with rfl | hmember
      · cases hkey.symm.trans hother
        exact hseen
      · exact fun hin => h.fresh member hmember other hother (List.mem_cons_of_mem _ hin)
    · rw [stringsMembers, JsonScanner.spend, hcharge, Option.bind_some, JsonScanner.spend_append, hfits.spent]
      exact h.spent

theorem members_read {seen tail after start after' name key v others} (ih : Agrees s fuel) (hr : s.depth ≤ room + depth)
    (hquote : skipBlanks input = 34 :: tail) (hname : scanBody (tail.length + 1) tail = some (name, after))
    (hcolon : skipBlanks after = 58 :: start) (hv : scan fuel room start = some (v, after'))
    (hkey : unescaped name = some key) (h : AdmittedMembers s depth seen n used used' ((name, v) :: others)) :
    ∃ mid, AdmittedMembers s depth (key :: seen) (n + 1) mid used' others ∧
      (∀ last, skipBlanks after' = 125 :: last →
        members s (fuel + 1) depth seen n input used = some (last, mid)) ∧
      ∀ next, skipBlanks after' = 44 :: next →
        members s (fuel + 1) depth seen n input used = members s fuel depth (key :: seen) (n + 1) next mid := by
  obtain ⟨hseen, hpaired, paid, mid, hcharge, hfits, hothers⟩ := (admittedMembers_cons hkey).mp h
  have hcount := hothers.count
  have hcount' : ¬ s.members < n + 1 := by omega
  have hstring : s.chargedString (34 :: tail) used = some (after, paid) :=
    chargedString_iff.mpr ⟨name, hname, hpaired, hcharge⟩
  have hunmarshal : unmarshalKey (sliced (34 :: tail) after) = some key := by
    rw [sliced_string hname, unmarshalKey_quoted hpaired.body, hkey]
  have hvalue := (ih.value (show s.depth < room + (depth + 1) by omega)).mpr ⟨v, hv, hfits⟩
  refine ⟨mid, hothers, ?_, ?_⟩
  · intro last hlast
    simp only [members, hquote, hstring, Option.bind_some, hunmarshal, if_neg hseen, if_neg hcount', hcolon, take, if_true,
      hvalue, hlast]
  · intro next hnext
    simp only [members, hquote, hstring, Option.bind_some, hunmarshal, if_neg hseen, if_neg hcount', hcolon, take, if_true,
      hvalue, hnext]
    rfl

theorem agrees_members {seen} (ih : Agrees s fuel) (hr : s.depth ≤ room + depth) :
    members s (fuel + 1) depth seen n input used = some (rest, used') ↔
      ∃ ms, scanMembers (fuel + 1) room input = some (ms, rest) ∧ AdmittedMembers s depth seen n used used' ms := by
  constructor
  · intro h
    simp only [members] at h
    obtain ⟨⟨after, paid⟩, hstring, h⟩ := Option.bind_eq_some_iff.mp h
    obtain ⟨tail, hquote⟩ : ∃ tail, skipBlanks input = 34 :: tail := by
      obtain ⟨_, hlexed, -⟩ := Option.bind_eq_some_iff.mp hstring
      exact string_quote hlexed
    rw [space, hquote] at hstring h
    obtain ⟨name, hname, hpaired, hcharge⟩ := chargedString_iff.mp hstring
    obtain ⟨key, hunmarshal, h⟩ := Option.bind_eq_some_iff.mp h
    rw [sliced_string hname, unmarshalKey_quoted hpaired.body] at hunmarshal
    split_ifs at h with hseen hcount
    obtain ⟨start, hcolon, h⟩ := Option.bind_eq_some_iff.mp h
    obtain ⟨⟨after', mid⟩, hvalue, h⟩ := Option.bind_eq_some_iff.mp h
    obtain ⟨v, hscan, hfits⟩ := (ih.value (show s.depth < room + (depth + 1) by omega)).mp hvalue
    cases htake : take 125 (skipBlanks after') with
    | some last =>
      simp only [htake] at h
      cases h
      have hlast : AdmittedMembers s depth (key :: seen) (n + 1) used' used' [] := by
        have hnesting := hfits.nesting
        have hpos := height_pos v
        refine ⟨?_, trivial, ?_, by simp, List.nodup_nil, by simp, rfl⟩
        · simp only [heightMembers]
          omega
        · simp only [List.length_nil]
          omega
      refine ⟨[(name, v)], ?_, (admittedMembers_cons hunmarshal).mpr ⟨hseen, hpaired, paid, _, hcharge, hfits, hlast⟩⟩
      simp only [scanMembers, hquote, hname, Option.bind_some, take_eq_some.mp hcolon, hscan, take_eq_some.mp htake]
      rfl
    | none =>
      simp only [htake] at h
      obtain ⟨next, hcomma, hmembers⟩ := Option.bind_eq_some_iff.mp h
      obtain ⟨ms, hms, hadmitted⟩ := (ih.members hr).mp hmembers
      refine ⟨(name, v) :: ms, ?_,
        (admittedMembers_cons hunmarshal).mpr ⟨hseen, hpaired, paid, mid, hcharge, hfits, hadmitted⟩⟩
      simp only [scanMembers, hquote, hname, Option.bind_some, take_eq_some.mp hcolon, hscan, take_eq_some.mp hcomma,
        if_true, hms, Option.map_some]
      rfl
  · rintro ⟨ms, hscan, hadmitted⟩
    simp only [scanMembers] at hscan
    split at hscan
    · cases hscan
    · rename_i quote tail hquote
      split_ifs at hscan with hq
      obtain ⟨⟨name, after⟩, hname, hrest⟩ := Option.bind_eq_some_iff.mp hscan
      split at hrest
      · cases hrest
      · rename_i colon start hcolon
        split_ifs at hrest with hc
        obtain ⟨⟨v, after'⟩, hv, hlast⟩ := Option.bind_eq_some_iff.mp hrest
        rw [not_ne_iff.mp hq] at hquote
        rw [not_ne_iff.mp hc] at hcolon
        obtain ⟨key, hkey⟩ := unescaped_body (scanBody_ok hname)
        split at hlast
        · cases hlast
        · rename_i b tail' hb
          split_ifs at hlast with hcomma hclose
          · obtain ⟨⟨others, last⟩, hothers, heq⟩ := Option.map_eq_some_iff.mp hlast
            cases heq
            obtain ⟨mid, hadmitted, -, hnext⟩ := members_read ih hr hquote hname hcolon hv hkey hadmitted
            rw [hnext tail' (hcomma ▸ hb)]
            exact (ih.members hr).mpr ⟨others, hothers, hadmitted⟩
          · cases hlast
            obtain ⟨mid, hadmitted, hend, -⟩ := members_read ih hr hquote hname hcolon hv hkey hadmitted
            cases hadmitted.spent
            exact hend rest (hclose ▸ hb)

theorem agrees (s : JsonScanner) (fuel : Nat) : Agrees s fuel := by
  induction fuel with
  | zero =>
    refine ⟨?_, ?_, ?_⟩
    · intro room depth input rest _
      simp [value, scan]
    · intro room depth n seen input rest _
      simp [members, scanMembers]
    · intro room depth n input rest _
      simp [items, scanItems]
  | succ fuel ih => exact ⟨agrees_value ih, agrees_members ih, agrees_items ih⟩

/-! ## Whole documents -/

/-- The documents that are let through: one JSON text with its value, and the limits on it. -/
structure Accepted (b : Bytes) (byteLimit depth members : Nat) (v : Raw) : Prop where
  nonempty : b ≠ []
  bytes : b.length ≤ byteLimit
  unicode : ValidUtf8 b
  text : Document v b
  strings : All StringsPaired v
  nesting : height v ≤ min depth 64
  widths : All (fun inside => inside.width ≤ members) v
  names : All DistinctNames v

theorem Accepted.bounds {b byteLimit depth members v} (h : Accepted b byteLimit depth members v) :
    height v ≤ b.length ∧ All (fun inside => inside.width ≤ b.length) v := by
  obtain ⟨inner, hinner, hin⟩ := Padded.infix h.text
  obtain ⟨hheight, hwidths⟩ := written_bounds v hinner hin.length_le
  exact ⟨hheight.trans hin.length_le, hwidths⟩

theorem Accepted.admitted {b byteLimit depth members v documentNumbers} (h : Accepted b byteLimit depth members v)
    (hn : documentNumbers = true ∨ All NumbersBounded v) (stringBounds : Option StringBounds) :
    1 + height v ≤ (scannerFor b depth members documentNumbers stringBounds).depth + 1 ∧
      All (Admitted (scannerFor b depth members documentNumbers stringBounds)) v := by
  obtain ⟨hheight, hwidths⟩ := h.bounds
  have hnesting := h.nesting
  refine ⟨?_, ?_⟩
  · simp only [scannerFor]
    omega
  · have hnumbers : All (fun v => documentNumbers = true ∨ NumbersBounded v) v := by
      rcases hn with hdocument | hbounded
      · exact All.imp (fun v _ => .inl hdocument) v h.strings
      · exact All.imp (fun v hv => .inr hv) v hbounded
    have hall := All.and v (All.and v h.strings hnumbers) (All.and v h.names (All.and v h.widths hwidths))
    refine All.imp ?_ v hall
    rintro inside ⟨⟨hstrings, hnumber⟩, hnames, hwidth, hlength⟩
    exact ⟨hstrings, le_min hwidth hlength, hnames, hnumber⟩

theorem scan_document {b v} (h : Document v b) (hheight : height v ≤ room) :
    ∃ after, scan (2 * b.length + 2) room b = some (v, after) ∧ skipBlanks after = [] := by
  obtain ⟨before, inner, after, hbefore, hinner, hafter, rfl⟩ := h
  have hstops : Stops (after ++ []) := stops_blank hafter rfl
  rw [List.append_nil] at hstops
  refine ⟨after, ?_, ?_⟩
  · rw [scan_blank hbefore]
    refine scan_written v hinner hheight ?_ hstops
    simp only [List.length_append]
    omega
  · have hskip : skipBlanks (after ++ []) = skipBlanks [] := skipBlanks_blank hafter
    rwa [List.append_nil] at hskip

theorem lexical_iff {b byteLimit depth members documentNumbers stringBounds} :
    lexical b byteLimit depth members documentNumbers stringBounds = .ok () ↔
      ∃ v, Accepted b byteLimit depth members v ∧ (documentNumbers = true ∨ All NumbersBounded v) ∧
        ∃ used, (scannerFor b depth members documentNumbers stringBounds).spend (strings v) 0 = some used := by
  generalize hs : scannerFor b depth members documentNumbers stringBounds = s
  have hroom : s.depth < maxNestingDepth + 1 := by
    simp only [← hs, scannerFor, maxNestingDepth]
    omega
  have hagrees {rest used} : value s (2 * b.length + 2) 1 b 0 = some (rest, used) ↔ _ :=
    (agrees s (2 * b.length + 2)).value hroom
  unfold lexical
  rw [hs]
  constructor
  · intro h
    split_ifs at h with hguard
    obtain ⟨hlength, hbytes, hunicode⟩ : b.length ≠ 0 ∧ ¬ byteLimit < b.length ∧ ValidUtf8 b := by
      simpa only [not_or, not_not] using hguard
    split at h
    · cases h
    · rename_i read hvalue
      obtain ⟨rest, used⟩ := read
      split_ifs at h with hend
      obtain ⟨v, hscan, hheight, hall, hspent⟩ := hagrees.mp hvalue
      obtain ⟨before, inner, hbefore, hinner, hsplit⟩ := (reads _).value hscan
      obtain ⟨after, hafter, hrest⟩ := skipBlanks_split rest
      have hblank : skipBlanks rest = [] := hend
      rw [hblank, List.append_nil] at hrest
      subst hrest hs
      simp only [scannerFor] at hheight
      refine ⟨v, ⟨?_, not_lt.mp hbytes, hunicode, ⟨before, inner, rest, hbefore, hinner, hafter, hsplit⟩, ?_, ?_, ?_, ?_⟩,
        ?_, used, hspent⟩
      · exact fun hnil => hlength (by rw [hnil]; rfl)
      · exact All.imp (fun v hv => hv.strings) v hall
      · omega
      · exact All.imp (fun v hv => hv.width.trans (Nat.min_le_left _ _)) v hall
      · exact All.imp (fun v hv => hv.names) v hall
      · cases documentNumbers with
        | true => exact .inl rfl
        | false => exact .inr (All.imp (fun v hv => hv.numbers.resolve_left (by simp [scannerFor])) v hall)
  · rintro ⟨v, haccepted, hnumbers, used, hspent⟩
    have hguard : ¬ (b.length = 0 ∨ byteLimit < b.length ∨ ¬ ValidUtf8 b) := by
      rw [not_or, not_or, not_not, List.length_eq_zero_iff, not_lt]
      exact ⟨haccepted.nonempty, haccepted.bytes, haccepted.unicode⟩
    have hdepth : height v ≤ maxNestingDepth := by
      have hnesting := haccepted.nesting
      simp only [maxNestingDepth]
      omega
    obtain ⟨after, hscan, hend⟩ := scan_document haccepted.text hdepth
    obtain ⟨hheight, hall⟩ := hs ▸ haccepted.admitted hnumbers stringBounds
    rw [if_neg hguard, hagrees.mpr ⟨v, hscan, hheight, hall, hspent⟩]
    simp only [space, hend, if_true]

theorem spend_unbounded (s : JsonScanner) (h : s.stringBounds = none) (bodies : List Bytes) (used : Nat) :
    s.spend bodies used = some used := by
  induction bodies generalizing used with
  | nil => rfl
  | cons body bodies ih => simp [JsonScanner.spend, JsonScanner.charge, h, ih]

theorem lexical_unbounded {b byteLimit depth members documentNumbers} :
    lexical b byteLimit depth members documentNumbers none = .ok () ↔
      ∃ v, Accepted b byteLimit depth members v ∧ (documentNumbers = true ∨ All NumbersBounded v) := by
  rw [lexical_iff]
  refine exists_congr fun v => and_congr_right fun _ => and_iff_left ⟨0, spend_unbounded _ rfl _ _⟩

/-- The scanner accepts exactly the intended language: `ValidateDocument` the UTF-8 texts of one JSON value within the
limits whose strings have no unpaired surrogate escape and whose objects have no name twice, `Parse` those of them
in which every number can be computed with, and it returns the tree that `encoding/json` decodes. -/
theorem strict_language (b : Bytes) (byteLimit depth members : Nat) :
    (validateDocument b byteLimit depth members = .ok () ↔ ∃ v, Accepted b byteLimit depth members v) ∧
      ((∃ tree, parse b byteLimit depth members = .ok tree) ↔
        ∃ v, Accepted b byteLimit depth members v ∧ All NumbersBounded v) ∧
      ∀ tree, parse b byteLimit depth members = .ok tree →
        decode b = some tree ∧ ∃ v, Document v b ∧ decodeAny v = some tree := by
  have hdecode : ∀ v, Accepted b byteLimit depth members v → decode b = decodeAny v := by
    intro v haccepted
    have hnesting := haccepted.nesting
    have hheight : height v ≤ maxNestingDepth := by
      simp only [maxNestingDepth]
      omega
    obtain ⟨after, hscan, -⟩ := scan_document haccepted.text hheight
    simp only [decode, hscan, Option.bind_some]
  have hparse : ∀ tree, parse b byteLimit depth members = .ok tree ↔
      lexical b byteLimit depth members false none = .ok () ∧ decode b = some tree := by
    intro tree
    unfold parse
    cases hlexical : lexical b byteLimit depth members false none with
    | error e => simp [bind, Except.bind]
    | ok _ =>
      cases hdecoded : decode b with
      | none => simp [bind, Except.bind]
      | some v => simp [bind, Except.bind]
  refine ⟨?_, ?_, ?_⟩
  · rw [validateDocument, lexical_unbounded]
    simp
  · constructor
    · rintro ⟨tree, htree⟩
      obtain ⟨v, haccepted, hnumbers⟩ := lexical_unbounded.mp ((hparse tree).mp htree).1
      exact ⟨v, haccepted, hnumbers.resolve_left (by simp)⟩
    · rintro ⟨v, haccepted, hnumbers⟩
      obtain ⟨inner, hinner, -⟩ := Padded.infix haccepted.text
      obtain ⟨tree, htree⟩ := decodeAny_written v hinner
      refine ⟨tree, (hparse tree).mpr ⟨lexical_unbounded.mpr ⟨v, haccepted, .inr hnumbers⟩, ?_⟩⟩
      rw [hdecode v haccepted, htree]
  · intro tree htree
    obtain ⟨hlexical, hdecoded⟩ := (hparse tree).mp htree
    obtain ⟨v, haccepted, -⟩ := lexical_unbounded.mp hlexical
    refine ⟨hdecoded, v, haccepted.text, ?_⟩
    rw [← hdecode v haccepted, hdecoded]

example : validateDocument (utf8 " [1, \"\\ud83d\\ude00\"]") 64 2 2 = .ok () := by decide +kernel

example : validateDocument (utf8 "\x7b\"a\":1,\"\\u0061\":2\x7d") 64 8 8 = .error .invalid := by decide +kernel

end Sessionless.StrictJson
