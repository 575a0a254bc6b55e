import Sessionless.Lib.Encoding

/-!
# Delimited encodings

An encoding is delimited when the bytes determine both the value and what follows it. Concatenations of delimited
encodings are peeled off field by field, which is how canonical encodings are shown to be injective.
-/

namespace Sessionless.Lib

variable {α β : Type}

/-- On the values in `P`, the bytes determine the value and what follows it. -/
structure Delimited (P : α → Prop) (encode : α → Bytes) : Prop where
  peel : ∀ {a b : α} {rest rest' : Bytes}, P a → P b → encode a ++ rest = encode b ++ rest' → a = b ∧ rest = rest'

theorem Delimited.inj {P : α → Prop} {encode : α → Bytes} (h : Delimited P encode) {a b} (ha : P a) (hb : P b)
    (heq : encode a = encode b) : a = b :=
  (h.peel ha hb (congrArg (· ++ []) heq)).1

theorem Delimited.of_width {P : α → Prop} {encode : α → Bytes} {width} (hw : ∀ a, (encode a).length = width)
    (hinj : ∀ {a b : α}, P a → P b → encode a = encode b → a = b) : Delimited P encode := by
  refine ⟨fun {a b rest rest'} ha hb heq => ?_⟩
  obtain ⟨hval, hrest⟩ := List.append_inj heq ((hw a).trans (hw b).symm)
  exact ⟨hinj ha hb hval, hrest⟩

theorem Delimited.comp {P : α → Prop} {Q : β → Prop} {encode : β → Bytes} (h : Delimited Q encode) {f : α → β}
    (hf : ∀ {a : α}, P a → Q (f a)) (hinj : ∀ {a b : α}, P a → P b → f a = f b → a = b) :
    Delimited P (fun a => encode (f a)) := by
  refine ⟨fun {a b rest rest'} ha hb heq => ?_⟩
  obtain ⟨hval, hrest⟩ := h.peel (hf ha) (hf hb) heq
  exact ⟨hinj ha hb hval, hrest⟩

/-! ## Integers -/

/-- How many numbers have a big-endian form of `width` bytes. -/
def radix : Nat → Nat
  | 0 => 1
  | width + 1 => radix width * 256

theorem bigEndian_inj {width n m} (hn : n < radix width) (hm : m < radix width)
    (h : bigEndian width n = bigEndian width m) : n = m := by
  induction width generalizing n m with
  | zero =>
    simp only [radix] at hn hm
    omega
  | succ width ih =>
    simp only [bigEndian] at h
    simp only [radix] at hn hm
    obtain ⟨hhigh, hlow⟩ := List.append_inj h (by simp)
    have hdiv : n / 256 = m / 256 := ih (by omega) (by omega) hhigh
    have hmod : n % 256 = m % 256 := by
      have hbyte := congrArg UInt8.toNat (List.cons.inj hlow).1
      simp only [UInt8.toNat_ofNat'] at hbyte
      omega
    omega

theorem delimited_uint32 : Delimited (· < 0x100000000) uint32 :=
  .of_width (fun n => length_bigEndian 4 n) fun hn hm h => @bigEndian_inj 4 _ _ hn hm h

theorem delimited_uint64 : Delimited (· < 0x10000000000000000) uint64 :=
  .of_width (fun n => length_bigEndian 8 n) fun hn hm h => @bigEndian_inj 8 _ _ hn hm h

theorem delimited_int64 : Delimited (fun n => -0x8000000000000000 ≤ n ∧ n < 0x8000000000000000) int64 := by
  refine .of_width (fun n => length_bigEndian 8 _) fun {n m} hn hm h => ?_
  have hmod := @bigEndian_inj 8 (n % 0x10000000000000000).toNat (m % 0x10000000000000000).toNat
    (by simp only [radix]; omega) (by simp only [radix]; omega) h
  omega

/-! ## Fields -/

theorem delimited_field : Delimited (fun value => value.length < 0x100000000) field := by
  refine ⟨fun {a b rest rest'} ha hb heq => ?_⟩
  simp only [field, List.append_assoc] at heq
  obtain ⟨hlength, heq⟩ := delimited_uint32.peel ha hb heq
  exact List.append_inj heq hlength

theorem utf8_inj {a b} (h : utf8 a = utf8 b) : a = b := by
  apply String.toByteArray_inj.1
  apply ByteArray.ext
  exact Array.toList_inj.1 h

theorem delimited_text : Delimited (fun text => (utf8 text).length < 0x100000000) (fun text => field (utf8 text)) :=
  delimited_field.comp id fun _ _ h => utf8_inj h

/-! ## Lists -/

theorem length_flatMap_le {encode : α → Bytes} {bound} {items : List α}
    (h : ∀ item ∈ items, (encode item).length ≤ bound) : (items.flatMap encode).length ≤ items.length * bound := by
  induction items with
  | nil => simp
  | cons item items ih =>
    have hitem := h item List.mem_cons_self
    have hitems := ih fun x hx => h x (List.mem_cons_of_mem _ hx)
    simp only [List.flatMap_cons, List.length_append, List.length_cons, Nat.succ_mul]
    omega

theorem delimited_items {P : α → Prop} {encode : α → Bytes} (h : Delimited P encode) {as bs : List α}
    {rest rest'} (hlength : as.length = bs.length) (has : ∀ a ∈ as, P a) (hbs : ∀ b ∈ bs, P b)
    (heq : as.flatMap encode ++ rest = bs.flatMap encode ++ rest') : as = bs ∧ rest = rest' := by
  induction as generalizing bs with
  | nil =>
    cases bs with
    | nil => exact ⟨rfl, heq⟩
    | cons b bs => simp at hlength
  | cons a as ih =>
    cases bs with
    | nil => simp at hlength
    | cons b bs =>
      simp only [List.flatMap_cons, List.append_assoc] at heq
      obtain ⟨rfl, htail⟩ := h.peel (has a List.mem_cons_self) (hbs b List.mem_cons_self) heq
      obtain ⟨rfl, hrest⟩ := ih (by simpa using hlength) (fun x hx => has x (List.mem_cons_of_mem _ hx))
        (fun x hx => hbs x (List.mem_cons_of_mem _ hx)) htail
      exact ⟨rfl, hrest⟩

theorem Delimited.peel_counted {P : α → Prop} {encode : α → Bytes} (h : Delimited P encode) {as bs : List α}
    {rest rest'} (ha : as.length < 0x100000000 ∧ ∀ a ∈ as, P a) (hb : bs.length < 0x100000000 ∧ ∀ b ∈ bs, P b)
    (heq : uint32 as.length ++ (as.flatMap encode ++ rest) = uint32 bs.length ++ (bs.flatMap encode ++ rest')) :
    as = bs ∧ rest = rest' := by
  obtain ⟨hlength, heq⟩ := delimited_uint32.peel ha.1 hb.1 heq
  exact delimited_items h hlength ha.2 hb.2 heq

theorem Delimited.counted {P : α → Prop} {encode : α → Bytes} (h : Delimited P encode) :
    Delimited (fun items : List α => items.length < 0x100000000 ∧ ∀ item ∈ items, P item)
      (fun items => uint32 items.length ++ items.flatMap encode) := by
  refine ⟨fun {as bs rest rest'} ha hb heq => ?_⟩
  simp only [List.append_assoc] at heq
  exact h.peel_counted ha hb heq

end Sessionless.Lib
