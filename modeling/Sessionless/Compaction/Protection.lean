import Sessionless.Compaction.Units

/-!
# Unresolved calls in a retained cut

A retained summary lists its sources, cut in two: before the cut a source is protected or covered, after it the source
is kept. `ValidateUnresolvedToolProtection` compares the cut with the records, so that no unresolved call is covered
or torn apart.
-/

namespace Sessionless.Compaction

open Lib Store

/-- Of a source, the canonical event it is, unless it is an operation. -/
structure RetainedSourceV1 where
  canonical : Option SessionEvent

structure RetainedCutV1 where
  sources : List RetainedSourceV1
  cut : Nat
  protectedIndices : List Nat
  covered : List Nat
  suffix : List Nat

namespace RetainedCutV1

variable (c : RetainedCutV1)

/-- The indices of one of the three lists, entered among the parts: in order, each for the first time, on its side of the cut. -/
def mark (kind : Nat) : Nat → Option Nat → List Nat → List Nat → Option (List Nat)
  | _, _, [], parts => some parts
  | j, last, i :: indices, parts =>
    if parts[i]? ≠ some 0 ∨ last.any (i ≤ ·) ∨ kind < 2 ∧ c.cut ≤ i ∨ kind = 2 ∧ i ≠ c.cut + j then none
    else mark kind (j + 1) (some i) indices (parts.set i (kind + 1))

/-- The partition that `validateRetainedCutVersion` checks first. -/
def partition : Option (List Nat) := do
  if c.sources.length < 2 ∨ 4096 < c.sources.length ∨ c.cut = 0 ∨ c.sources.length ≤ c.cut ∨ c.covered = [] ∨
      c.suffix.length ≠ c.sources.length - c.cut then none
  else do
    let parts ← c.mark 0 0 none c.protectedIndices (List.replicate c.sources.length 0)
    let parts ← c.mark 1 0 none c.covered parts
    let parts ← c.mark 2 0 none c.suffix parts
    if 0 ∈ parts then none else return parts

/-- The events of the sources: a decoded cut names none of them twice. -/
def events : List SessionEventID := c.sources.filterMap fun row => row.canonical.map SessionEvent.id

/-- The event that stands at a source. -/
def event (k : Nat) : Option SessionEvent := c.sources[k]?.bind RetainedSourceV1.canonical

/-- The source at which an event stands, the only one in a decoded cut. -/
def index (id : SessionEventID) : Option Nat := c.sources.findIdx? fun row => row.canonical.any fun event => event.id = id

end RetainedCutV1

/-- A retained object, as `decodeRetainedV1` lets it through: with a partition, and no event twice. -/
structure RetainedV1 where
  codecVersion : Nat
  cut : RetainedCutV1
  partitioned : cut.partition.isSome = true
  distinct : cut.events.Nodup

namespace RetainedV1

variable (v : RetainedV1)

/-- The records of a span that is among the sources stand there together. -/
def spanKept (records : List EventPayload) : Bool :=
  let present := records.filterMap fun record => v.cut.index record.event.id
  if present = [] then true
  else if present.length ≠ records.length then false
  else
    let first := present.headD 0
    present.zipIdx.all fun (index, j) =>
      index = first + j && (v.cut.cut ≤ index || index ∈ v.cut.protectedIndices) &&
        decide (first < v.cut.cut) == decide (index < v.cut.cut)

def validateUnresolvedToolProtection (codecs : Codecs) (records : List EventPayload) : Option Unit := do
  if v.codecVersion = 0 ∨ maxEventsV1 < records.length ∨ maxBytesV1 < (records.map fun r => r.payload.length).sum ∨
      ¬ (records.map fun r => r.event.id).Nodup then none
  else do
    let spans ← codecs.unresolvedToolSpans records
    let known := v.cut.sources.all fun row => row.canonical.all fun event =>
      (records.find? fun record => record.event.id = event.id).any fun record => record.event = event
    if known ∧ spans.all fun span => v.spanKept ((records.drop span.start).take (span.stop - span.start)) then some ()
    else none

end RetainedV1

/-! ## The partition -/

namespace RetainedCutV1

variable {c : RetainedCutV1}

theorem mark_ok {kind j last indices parts parts'} (h : c.mark kind j last indices parts = some parts') :
    (∀ i ∈ indices, parts[i]? = some 0 ∧ (kind < 2 → i < c.cut)) ∧
    ∀ i, (i ∈ indices ∨ parts[i]? = some (kind + 1)) → parts'[i]? = some (kind + 1) := by
  induction indices generalizing j last parts with
  | nil =>
    cases h
    simp
  | cons i indices ih =>
    simp only [mark] at h
    split at h
    · cases h
    rename_i hcond
    simp only [not_or, not_and, not_not] at hcond
    obtain ⟨hzero, -, hcut, -⟩ := hcond
    obtain ⟨hall, hmarked⟩ := ih h
    have hlt : i < parts.length := (List.getElem?_eq_some_iff.1 hzero).1
    have hset : ∀ k, k ≠ i → (parts.set i (kind + 1))[k]? = parts[k]? := fun k hk => List.getElem?_set_ne hk.symm
    constructor
    · intro k hk
      rcases List.mem_cons.1 hk with rfl | hk
      · exact ⟨hzero, fun hkind => not_le.1 (hcut hkind)⟩
      · obtain ⟨hk0, hside⟩ := hall k hk
        by_cases hki : k = i
        · subst hki
          simp [List.getElem?_set_self hlt] at hk0
        · exact ⟨hset k hki ▸ hk0, hside⟩
    · intro k hk
      refine hmarked k ?_
      by_cases hki : k = i
      · subst hki
        exact .inr (List.getElem?_set_self hlt)
      · rw [hset k hki]
        exact hk.imp_left fun hk => (List.mem_cons.1 hk).resolve_left hki

/-- A covered source lies before the cut and is not protected. -/
theorem covered_apart (h : c.partition.isSome = true) {i} (hi : i ∈ c.covered) :
    i < c.cut ∧ i ∉ c.protectedIndices := by
  obtain ⟨parts, h⟩ := Option.isSome_iff_exists.1 h
  simp only [partition, Option.bind_eq_bind] at h
  split at h
  · cases h
  simp only [Option.bind_eq_some_iff] at h
  obtain ⟨first, hfirst, second, hsecond, -⟩ := h
  obtain ⟨hzero, hcut⟩ := (mark_ok hsecond).1 i hi
  refine ⟨hcut (by decide), fun hp => ?_⟩
  have hone := (mark_ok hfirst).2 i (.inl hp)
  simp [hzero] at hone

/-! ## Where the events stand -/

theorem index_some {id k} (h : c.index id = some k) :
    ∃ event, c.event k = some event ∧ event.id = id := by
  obtain ⟨hlt, hat, -⟩ := List.findIdx?_eq_some_iff_getElem.1 h
  cases hrow : c.sources[k].canonical with
  | none => simp [hrow] at hat
  | some event =>
    rw [hrow] at hat
    exact ⟨event, by simp [RetainedCutV1.event, List.getElem?_eq_getElem hlt, hrow], by simpa using hat⟩

theorem index_at (hd : c.events.Nodup) {event k} (h : c.event k = some event) :
    c.index event.id = some k := by
  obtain ⟨row, hrow, hevent⟩ := Option.bind_eq_some_iff.1 h
  have hmem := List.mem_of_getElem? hrow
  cases hi : c.index event.id with
  | none =>
    have := List.findIdx?_eq_none_iff.1 hi row hmem
    simp [hevent] at this
  | some l =>
    obtain ⟨other, hother, hid⟩ := index_some hi
    obtain ⟨row', hrow', hevent'⟩ := Option.bind_eq_some_iff.1 hother
    have hpair := List.pairwise_filterMap.1 hd
    rw [List.pairwise_iff_getElem] at hpair
    obtain ⟨hk, rfl⟩ := List.getElem?_eq_some_iff.1 hrow
    obtain ⟨hl, rfl⟩ := List.getElem?_eq_some_iff.1 hrow'
    rcases lt_trichotomy k l with hlt | rfl | hlt
    · exact absurd hid.symm (hpair k l hk hl hlt _ (by simp [hevent]) _ (by simp [hevent']))
    · rfl
    · exact absurd hid (hpair l k hl hk hlt _ (by simp [hevent']) _ (by simp [hevent]))

end RetainedCutV1

/-! ## Unresolved calls -/

theorem Unresolved.slice {records i call result notice} (h : Unresolved records i call result notice) :
    (records.drop (i - 1)).take (i + 2 - (i - 1)) = [call, result, notice] := by
  obtain ⟨k, rfl⟩ : ∃ k, i = k + 1 := ⟨i - 1, by have := h.pos; omega⟩
  have hcall := h.call_at
  have hresult := h.result_at
  have hnotice := h.notice_at
  apply List.ext_getElem?
  intro j
  rcases j with _ | _ | _ | j <;> simp_all [List.getElem?_drop, Nat.add_assoc]

theorem spanKept_three {v : RetainedV1} {a b c} (h : v.spanKept [a, b, c] = true) :
    (∀ record ∈ [a, b, c], v.cut.index record.event.id = none) ∨
    ∃ first, (∀ j record, [a, b, c][j]? = some record → v.cut.index record.event.id = some (first + j)) ∧
      (v.cut.cut ≤ first ∨ first + 2 < v.cut.cut ∧ ∀ j < 3, first + j ∈ v.cut.protectedIndices) := by
  unfold RetainedV1.spanKept at h
  cases ha : v.cut.index a.event.id <;> cases hb : v.cut.index b.event.id <;> cases hc : v.cut.index c.event.id <;>
    simp [ha, hb, hc] at h ⊢
  rename_i first second third
  obtain ⟨hp, ⟨⟨rfl, hp'⟩, hside⟩, ⟨rfl, hp''⟩, hside'⟩ := h
  refine ⟨first, fun j record hj => ?_, ?_⟩
  · rcases j with _ | _ | _ | j <;> simp_all
  · by_cases hcut : v.cut.cut ≤ first
    · exact .inl hcut
    · refine .inr ⟨by omega, fun j hj => ?_⟩
      rcases j with _ | _ | _ | j
      · exact hp.resolve_left hcut
      · exact hp'.resolve_left (by omega)
      · exact hp''.resolve_left (by omega)
      · omega

/-- A source that names the event of a record is that record's event. -/
theorem event_known {v : RetainedV1} {records : List EventPayload} (hids : (records.map fun r => r.event.id).Nodup)
    (hknown : v.cut.sources.all (fun row => row.canonical.all fun event =>
      (records.find? fun record => record.event.id = event.id).any fun record => record.event = event) = true)
    {record k event} (hrecord : record ∈ records) (hk : v.cut.event k = some event) (hid : event.id = record.event.id) :
    event = record.event := by
  obtain ⟨row, hrow, hevent⟩ := Option.bind_eq_some_iff.1 hk
  have hfound := List.all_eq_true.1 hknown row (List.mem_of_getElem? hrow)
  simp only [hevent, Option.all_some] at hfound
  cases hr : records.find? fun record => record.event.id = event.id with
  | none => simp [hr] at hfound
  | some found =>
    rw [hr] at hfound
    have hsame : found.event.id = event.id := by simpa using List.find?_some hr
    rw [List.inj_on_of_nodup_map hids (List.mem_of_find?_eq_some hr) hrecord (hsame.trans hid)] at hfound
    exact (by simpa using hfound : record.event = event).symm

/-- Every unresolved call of the records is kept: none of its events is among the sources, or all three stand there together, outside what the summary covers. -/
theorem unresolved_calls_kept {v : RetainedV1} {codecs records}
    (h : v.validateUnresolvedToolProtection codecs records = some ()) {i result} (hat : records[i]? = some result)
    (hs : codecs.Selects result) : ∃ call notice, Unresolved records i call result notice ∧
      ((∀ record ∈ [call, result, notice], ∀ k, v.cut.event k ≠ some record.event) ∨
      ∃ first, (∀ j record, [call, result, notice][j]? = some record → ∀ k,
          v.cut.event k = some record.event ↔ k = first + j) ∧
        (v.cut.cut ≤ first ∨ first + 2 < v.cut.cut ∧ ∀ j < 3, first + j ∈ v.cut.protectedIndices) ∧
        ∀ j < 3, first + j ∉ v.cut.covered) := by
  unfold RetainedV1.validateUnresolvedToolProtection at h
  simp only [Option.bind_eq_bind] at h
  split at h
  · cases h
  rename_i hfirst
  have hids : (records.map fun r => r.event.id).Nodup := by
    by_contra hn
    exact hfirst (.inr (.inr (.inr hn)))
  obtain ⟨spans, hspans, h⟩ := Option.bind_eq_some_iff.1 h
  split at h
  · rename_i hchecks
    obtain ⟨hknown, hkept⟩ := hchecks
    obtain ⟨hall, hspan⟩ := Codecs.unresolvedToolSpans_ok hspans
    have hmem := hall i result hat hs
    obtain ⟨i', call, result', notice, -, hu, heq⟩ := hspan _ hmem
    obtain rfl : i = i' := by
      have := congrArg Interval.stop heq
      simpa using this
    obtain rfl : result = result' := Option.some.inj (hat.symm.trans hu.result_at)
    have hslice := List.all_eq_true.1 hkept _ hmem
    simp only [hu.slice] at hslice
    have hrecords : ∀ record ∈ [call, result, notice], record ∈ records := by
      simp [List.mem_of_getElem? hu.call_at, List.mem_of_getElem? hat, List.mem_of_getElem? hu.notice_at]
    refine ⟨call, notice, hu, (spanKept_three hslice).imp ?_ ?_⟩
    · intro hnone record hr k hk
      have hindex := hnone record hr
      rw [RetainedCutV1.index_at v.distinct hk] at hindex
      cases hindex
    · rintro ⟨first, hpositions, hside⟩
      refine ⟨first, fun j record hj k => ⟨fun hk => ?_, ?_⟩, hside, fun j hj hcovered => ?_⟩
      · have hindex := RetainedCutV1.index_at v.distinct hk
        rw [hpositions j record hj] at hindex
        exact (Option.some.inj hindex).symm
      · rintro rfl
        obtain ⟨event, hevent, hid⟩ := RetainedCutV1.index_some (hpositions j record hj)
        rw [hevent, event_known hids hknown (hrecords record (List.mem_of_getElem? hj)) hevent hid]
      · obtain ⟨hbefore, hfree⟩ := RetainedCutV1.covered_apart v.partitioned hcovered
        rcases hside with hside | ⟨-, hside⟩
        · omega
        · exact hfree (hside j hj)
  · cases h

namespace Sample

def digest : String := String.ofList (List.replicate 64 'a')

def content : String :=
  "\x7b\"schema\":\"sessionless.tool-outcome.v1\",\"outcome\":\"accepted_outcome_unknown\",\"operation_digest\":\"" ++
    digest ++ "\",\"reservation_digest\":\"" ++ digest ++ "\",\"observation_digest\":\"" ++ digest ++ "\"\x7d"

/-- A message of one run, and a call of another whose outcome stayed unknown. -/
def unanswered : List EventPayload := [
  record 1 .assistantMessage "p" "e1" "5ae1a8d4e651a3fc176f878615035c7b33545115704868194680efd04d4b17be"
    "\x7b\"schema\":\"sessionless.assistant-message.v1\",\"summary\":\"s\",\"artifact_manifest_id\":\"m\"\x7d",
  call 2 .toolCall "e2",
  record 3 .toolResult "r" "e3" "aeb7dd62d2072100e460bc412f1898c40acdb685c55dc0ef4917e673d24ef7e1" (toolEvent content),
  record 4 .systemNotice "r" noticeID "32613884197bd8d07139e71e17aebe1a2091e4f1970e0e96336d9b5f926bcdc3" notice]

def unknown : Codecs := codecs content ("sessionless.tool-outcome.v1", "accepted_outcome_unknown") [459, 446, 786, 565]

/-- The message is summarised, the call is kept. -/
def retained : RetainedV1 where
  codecVersion := 1
  cut := ⟨unanswered.map fun record => ⟨some record.event⟩, 1, [], [0], [1, 2, 3]⟩
  partitioned := by decide
  distinct := by decide +kernel

end Sample

open Sample in
/-- The call stands after the cut. -/
theorem unresolved_calls_kept_unknown : ∃ result call notice, unanswered[2]? = some result ∧
    Unresolved unanswered 2 call result notice := by
  obtain ⟨call, notice, hu, -⟩ := @unresolved_calls_kept retained unknown unanswered (by decide +kernel) 2 _ rfl
    (.inl (by decide +kernel))
  exact ⟨_, call, notice, rfl, hu⟩

end Sessionless.Compaction
