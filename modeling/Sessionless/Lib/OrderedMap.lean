import Mathlib.Data.List.Pairwise
import Mathlib.Order.Lattice

/-!
# Finite maps kept in key order

A map is the list of its entries, strictly increasing by key, so that two maps with the
same bindings are equal and the entries come out in one canonical order.
-/

namespace Sessionless.Lib

variable {K V : Type} [LinearOrder K]

structure OrderedMap (K V : Type) [LinearOrder K] where
  entries : List (K × V)
  sorted : entries.Pairwise (fun a b => a.1 < b.1)

namespace OrderedMap

instance : EmptyCollection (OrderedMap K V) := ⟨⟨[], List.Pairwise.nil⟩⟩

instance : Inhabited (OrderedMap K V) := ⟨∅⟩

@[simp] theorem entries_empty : (∅ : OrderedMap K V).entries = [] := rfl

@[ext] theorem ext {a b : OrderedMap K V} (h : a.entries = b.entries) : a = b := by
  cases a; cases b; cases h; rfl

instance [DecidableEq V] : DecidableEq (OrderedMap K V) := fun a b =>
  decidable_of_iff (a.entries = b.entries) ⟨ext, fun h => h ▸ rfl⟩

/-! ## Lookup -/

def lookup (key : K) : List (K × V) → Option V
  | [] => none
  | (k, v) :: rest => if key = k then some v else lookup key rest

def get? (m : OrderedMap K V) (key : K) : Option V := lookup key m.entries

/-! ## Insertion -/

def insertEntry (key : K) (value : V) : List (K × V) → List (K × V)
  | [] => [(key, value)]
  | (k, v) :: rest =>
    if key < k then (key, value) :: (k, v) :: rest
    else if key = k then (key, value) :: rest
    else (k, v) :: insertEntry key value rest

theorem mem_insertEntry {key : K} {value : V} {e : K × V} {l : List (K × V)}
    (h : e ∈ insertEntry key value l) : e = (key, value) ∨ e ∈ l := by
  induction l with
  | nil => simpa [insertEntry] using h
  | cons hd rest ih =>
    obtain ⟨k, v⟩ := hd
    simp only [insertEntry] at h
    split at h
    · simpa using h
    · split at h
      · rcases List.mem_cons.1 h with h | h
        · exact .inl h
        · exact .inr (List.mem_cons_of_mem _ h)
      · rcases List.mem_cons.1 h with h | h
        · exact .inr (h ▸ List.mem_cons_self)
        · exact (ih h).imp_right (List.mem_cons_of_mem _)

theorem sorted_insertEntry {key : K} {value : V} {l : List (K × V)}
    (h : l.Pairwise (fun a b => a.1 < b.1)) :
    (insertEntry key value l).Pairwise (fun a b => a.1 < b.1) := by
  induction l with
  | nil => simp [insertEntry]
  | cons hd rest ih =>
    obtain ⟨k, v⟩ := hd
    obtain ⟨hhd, hrest⟩ := List.pairwise_cons.1 h
    simp only [insertEntry]
    split
    · rename_i hlt
      refine List.pairwise_cons.2 ⟨fun e he => ?_, h⟩
      rcases List.mem_cons.1 he with rfl | he
      · exact hlt
      · exact hlt.trans (hhd e he)
    · split
      · rename_i heq
        exact List.pairwise_cons.2 ⟨fun e he => heq ▸ hhd e he, hrest⟩
      · rename_i hlt hne
        refine List.pairwise_cons.2 ⟨fun e he => ?_, ih hrest⟩
        rcases mem_insertEntry he with rfl | he
        · exact lt_of_le_of_ne (not_lt.1 hlt) (Ne.symm hne)
        · exact hhd e he

def insert (m : OrderedMap K V) (key : K) (value : V) : OrderedMap K V :=
  ⟨insertEntry key value m.entries, sorted_insertEntry m.sorted⟩

theorem mem_insert {m : OrderedMap K V} {key : K} {value : V} {e : K × V}
    (h : e ∈ (m.insert key value).entries) : e = (key, value) ∨ e ∈ m.entries := mem_insertEntry h

theorem lookup_insertEntry (key : K) (value : V) (other : K) (l : List (K × V)) :
    lookup other (insertEntry key value l) = if other = key then some value else lookup other l := by
  induction l with
  | nil => simp [insertEntry, lookup]
  | cons hd rest ih =>
    obtain ⟨k, v⟩ := hd
    simp only [insertEntry]
    split
    · simp [lookup]
    · split
      · rename_i heq
        subst heq
        by_cases ho : other = key <;> simp [lookup, ho]
      · rename_i hne
        by_cases ho : other = k
        · subst ho; simp [lookup, Ne.symm hne]
        · simp [lookup, ho, ih]

theorem get?_insert (m : OrderedMap K V) (key : K) (value : V) (other : K) :
    (m.insert key value).get? other = if other = key then some value else m.get? other :=
  lookup_insertEntry key value other m.entries

theorem insertEntry_last {key : K} {value : V} {l : List (K × V)} (h : ∀ e ∈ l, e.1 < key) :
    insertEntry key value l = l ++ [(key, value)] := by
  induction l with
  | nil => rfl
  | cons hd rest ih =>
    obtain ⟨k, v⟩ := hd
    have hk : k < key := h _ List.mem_cons_self
    simp [insertEntry, if_neg hk.not_gt, if_neg hk.ne', ih fun e he => h e (List.mem_cons_of_mem _ he)]

/-! ## Restriction -/

def filterKeys (m : OrderedMap K V) (p : K → Bool) : OrderedMap K V :=
  ⟨m.entries.filter (fun e => p e.1), m.sorted.filter _⟩

theorem mem_filterKeys {m : OrderedMap K V} {p : K → Bool} {e : K × V} :
    e ∈ (m.filterKeys p).entries ↔ e ∈ m.entries ∧ p e.1 = true := by
  simp [filterKeys]

theorem lookup_filter (p : K → Bool) (key : K) (l : List (K × V)) :
    lookup key (l.filter (fun e => p e.1)) = if p key then lookup key l else none := by
  induction l with
  | nil => simp [lookup]
  | cons hd rest ih =>
    obtain ⟨k, v⟩ := hd
    by_cases hk : key = k
    · subst hk
      cases hp : p key <;> simp_all [lookup]
    · cases hp : p k <;> simp_all [lookup]

theorem get?_filterKeys (m : OrderedMap K V) (p : K → Bool) (key : K) :
    (m.filterKeys p).get? key = if p key then m.get? key else none := lookup_filter p key m.entries

/-! ## Size -/

theorem length_le_of_increasing {l : List Nat} (low high : Nat) (h : l.Pairwise (· < ·))
    (hb : ∀ x ∈ l, low < x ∧ x ≤ high) : l.length ≤ high - low := by
  induction l generalizing low with
  | nil => simp
  | cons x rest ih =>
    obtain ⟨hx, hrest⟩ := List.pairwise_cons.1 h
    have hlen := ih x hrest fun y hy => ⟨hx y hy, (hb y (List.mem_cons_of_mem _ hy)).2⟩
    have hhead := hb x List.mem_cons_self
    simp only [List.length_cons]
    omega

theorem length_entries_le {V : Type} (m : OrderedMap Nat V) {n} (h : ∀ e ∈ m.entries, e.1 ≠ 0 ∧ e.1 ≤ n) :
    m.entries.length ≤ n := by
  have hkeys : (m.entries.map Prod.fst).Pairwise (· < ·) := List.pairwise_map.2 m.sorted
  have hlen := length_le_of_increasing 0 n hkeys fun x hx => by
    obtain ⟨e, he, rfl⟩ := List.mem_map.1 hx
    have := h e he
    omega
  simpa using hlen

/-! ## Building a map from a list -/

def ofList (l : List (K × V)) : OrderedMap K V := l.foldl (fun m e => m.insert e.1 e.2) ∅

theorem foldl_insert_entries {l : List (K × V)} {m : OrderedMap K V}
    (h : (m.entries ++ l).Pairwise (fun a b => a.1 < b.1)) :
    (l.foldl (fun m e => m.insert e.1 e.2) m).entries = m.entries ++ l := by
  induction l generalizing m with
  | nil => simp
  | cons e rest ih =>
    have hlast : (m.insert e.1 e.2).entries = m.entries ++ [e] :=
      insertEntry_last fun a ha => (List.pairwise_append.1 h).2.2 a ha e List.mem_cons_self
    rw [List.foldl_cons, ih (by rw [hlast]; simpa using h), hlast]
    simp

theorem ofList_entries (m : OrderedMap K V) : ofList m.entries = m := by
  apply ext
  exact foldl_insert_entries (by simpa using m.sorted)

theorem entries_ofList {l : List (K × V)} (h : l.Pairwise (fun a b => a.1 < b.1)) :
    (ofList l).entries = l := foldl_insert_entries (by simpa using h)

end OrderedMap

end Sessionless.Lib
