import Mathlib.Data.List.Induction
import Mathlib.Data.List.Sort
import Sessionless.Compaction.Canonical

/-!
# The units are the finest safe partition

The pass keeps, for every run, the span of its records so far and, for every call, whether its result has come. The
sweep makes them a tiling that keeps runs and unresolved calls whole, and no tiling that does so is finer.
-/

namespace Sessionless.Compaction

open Lib Store Interval

/-! ## Unresolved spans -/

/-- The call, the result at `i` and the notice of a tool call whose outcome is unknown. -/
structure Unresolved (records : List EventPayload) (i : Nat) (call result notice : EventPayload) : Prop where
  pos : 0 < i
  call_at : records[i - 1]? = some call
  result_at : records[i]? = some result
  notice_at : records[i + 1]? = some notice
  kinds : call.event.kind = .toolCall ∧ result.event.kind = .toolResult ∧ notice.event.kind = .systemNotice
  identity : toolIdentity call.payload = toolIdentity result.payload
  run : ∃ run, ∀ record ∈ [call, result, notice], record.event.runID = some run

namespace Codecs

variable {codecs : Codecs} {records : List EventPayload}

/-- A result that one of the two detectors takes for unresolved. -/
def Selects (codecs : Codecs) (record : EventPayload) : Prop :=
  (codecs.mcpClosing record).isSome = true ∨ (codecs.searchClosing record).isSome = true

theorem Selects.kind {record} (h : codecs.Selects record) : record.event.kind = .toolResult := by
  by_contra hk
  simp [Selects, mcpClosing, searchClosing, hk] at h

theorem closes_ok {seen closing result i run} (h : codecs.closes records seen closing result i = some run)
    (hat : records[i]? = some result) (hk : result.event.kind = .toolResult) :
    ∃ call notice, Unresolved records i call result notice := by
  unfold closes at h
  simp only [Option.bind_eq_bind, Option.bind_eq_some_iff] at h
  obtain ⟨run', hrun, call, hcall, notice, hnotice, ⟨id, name⟩, hid, ⟨callID, callName⟩, hcallID, h⟩ := h
  split at h
  · rename_i hall
    obtain ⟨-, hi, rfl, rfl, -, -, ⟨hck, hcr⟩, ⟨hnk, hnr⟩, -⟩ := hall
    refine ⟨call, notice, Nat.pos_of_ne_zero hi, hcall, hat, hnotice, ⟨hck, hk, hnk⟩, hcallID.trans hid.symm, run', ?_⟩
    simp [hcr, hrun, hnr]
  · cases h

theorem spansFrom_ok {select seen entries spans} (h : codecs.spansFrom records select seen entries = some spans) :
    (∀ entry ∈ entries, (select entry.1).isSome = true → ⟨entry.2 - 1, entry.2 + 2, true⟩ ∈ spans) ∧
    ∀ span ∈ spans, ∃ entry ∈ entries, (select entry.1).isSome = true ∧ span = ⟨entry.2 - 1, entry.2 + 2, true⟩ ∧
      ∃ seen closing run, codecs.closes records seen closing entry.1 entry.2 = some run := by
  induction entries generalizing seen spans with
  | nil =>
    cases h
    simp
  | cons entry entries ih =>
    obtain ⟨record, i⟩ := entry
    simp only [spansFrom] at h
    split at h
    · rename_i hnone
      obtain ⟨hall, hspans⟩ := ih h
      refine ⟨fun e he hsome => ?_, fun span hspan => ?_⟩
      · rcases List.mem_cons.1 he with rfl | he
        · simp [hnone] at hsome
        · exact hall e he hsome
      · obtain ⟨e, he, h⟩ := hspans span hspan
        exact ⟨e, List.mem_cons_of_mem _ he, h⟩
    · rename_i closing hsome
      simp only [Option.bind_eq_bind, Option.bind_eq_some_iff, Option.pure_def, Option.some.injEq] at h
      obtain ⟨run, hrun, rest, hrest, rfl⟩ := h
      obtain ⟨hall, hspans⟩ := ih hrest
      refine ⟨fun e he hsome => ?_, fun span hspan => ?_⟩
      · rcases List.mem_cons.1 he with rfl | he
        · exact List.mem_cons_self
        · exact List.mem_cons_of_mem _ (hall e he hsome)
      · rcases List.mem_cons.1 hspan with rfl | hspan
        · exact ⟨_, List.mem_cons_self, by simp [hsome], rfl, seen, closing, run, hrun⟩
        · obtain ⟨e, he, h⟩ := hspans span hspan
          exact ⟨e, List.mem_cons_of_mem _ he, h⟩

/-- The spans are those around the results that the detectors take for unresolved. -/
theorem unresolvedToolSpans_ok {spans} (h : codecs.unresolvedToolSpans records = some spans) :
    (∀ i result, records[i]? = some result → codecs.Selects result → ⟨i - 1, i + 2, true⟩ ∈ spans) ∧
    ∀ span ∈ spans, ∃ i call result notice, codecs.Selects result ∧ Unresolved records i call result notice ∧
      span = ⟨i - 1, i + 2, true⟩ := by
  simp only [unresolvedToolSpans, unresolvedSearchSpansV4, Option.bind_eq_bind, Option.bind_eq_some_iff, Option.pure_def,
    Option.some.injEq] at h
  obtain ⟨mcp, hmcp, search, hsearch, rfl⟩ := h
  have hm := spansFrom_ok hmcp
  have hs := spansFrom_ok hsearch
  constructor
  · intro i result hat hsel
    have hmem : (result, i) ∈ records.zipIdx := List.mem_zipIdx_iff_getElem?.2 hat
    cases hsel with
    | inl hsel => exact List.mem_append_left _ (hm.1 _ hmem hsel)
    | inr hsel => exact List.mem_append_right _ (hs.1 _ hmem hsel)
  · intro span hspan
    have hfound : ∃ entry ∈ records.zipIdx, codecs.Selects entry.1 ∧ span = ⟨entry.2 - 1, entry.2 + 2, true⟩ ∧
        ∃ seen closing run, codecs.closes records seen closing entry.1 entry.2 = some run := by
      rcases List.mem_append.1 hspan with hspan | hspan
      · obtain ⟨entry, hentry, hsel, h⟩ := hm.2 span hspan
        exact ⟨entry, hentry, .inl hsel, h⟩
      · obtain ⟨entry, hentry, hsel, h⟩ := hs.2 span hspan
        exact ⟨entry, hentry, .inr hsel, h⟩
    obtain ⟨⟨result, i⟩, hentry, hsel, rfl, seen, closing, run, hrun⟩ := hfound
    obtain ⟨call, notice, h⟩ := closes_ok hrun (List.mem_zipIdx_iff_getElem?.1 hentry) hsel.kind
    exact ⟨i, call, result, notice, hsel, h, rfl⟩

end Codecs

/-! ## The pass over the records -/

/-- A record that a run produced. -/
def InRun (records : List EventPayload) (run : RunID) (i : Nat) : Prop :=
  ∃ record, records[i]? = some record ∧ produced record.event.kind = true ∧ record.event.runID = some run

/-- A call or a result with its run, call and tool. -/
def Uses (records : List EventPayload) (kind : SessionEventKind) (key : CallKey) (name : Bytes) (i : Nat) : Prop :=
  ∃ record, records[i]? = some record ∧ record.event.kind = kind ∧ record.event.runID = some key.1 ∧
    toolIdentity record.payload = some (key.2, name)

/-- The span of a run, from its first record to its last. -/
def RunSpan (records : List EventPayload) (run : RunID) : Option UnitV1 → Prop
  | none => ∀ i, ¬ InRun records run i
  | some span => span.label = false ∧ InRun records run span.start ∧ InRun records run (span.stop - 1) ∧
    ∀ i, InRun records run i → span.start ≤ i ∧ i < span.stop

/-- The one result of the call at `i`. -/
def Resolved (records : List EventPayload) (key : CallKey) (name : Bytes) (i : Nat) : Prop :=
  ∃ j, i < j ∧ Uses records .toolResult key name j ∧ ∀ other k, Uses records .toolResult key other k → k = j

/-- What is known of a call from its state. -/
def CallHistory (records : List EventPayload) (key : CallKey) : Option CallState → Prop
  | none => ∀ kind name i, kind = .toolCall ∨ kind = .toolResult → ¬ Uses records kind key name i
  | some call => ∃ i, Uses records .toolCall key call.name i ∧
    (∀ name k, Uses records .toolCall key name k → k = i ∧ name = call.name) ∧
    if call.done then Resolved records key call.name i else ∀ name k, ¬ Uses records .toolResult key name k

/-- What the pass has gathered of the records so far. -/
structure Gathered (records : List EventPayload) (pass : Pass) : Prop where
  intervals : pass.intervals = (List.range records.length).map fun i => ⟨i, i + 1, false⟩
  runs : ∀ run, RunSpan records run (pass.runs.lookup run)
  calls : ∀ key, CallHistory records key (pass.calls.lookup key)
  identified : ∀ i record, records[i]? = some record → record.event.kind = .toolCall →
    ∃ key name, Uses records .toolCall key name i

section

variable {records : List EventPayload} {record : EventPayload} {run : RunID} {key : CallKey}

theorem getElem?_concat_iff {i x} : (records ++ [record])[i]? = some x ↔
    records[i]? = some x ∨ i = records.length ∧ record = x := by
  rcases lt_trichotomy i records.length with hi | rfl | hi
  · simp [List.getElem?_append_left hi, hi.ne]
  · simp
  · simp [List.getElem?_eq_none (show (records ++ [record]).length ≤ i by simp; omega), List.getElem?_eq_none hi.le, hi.ne']

theorem inRun_concat {i} : InRun (records ++ [record]) run i ↔ InRun records run i ∨
    i = records.length ∧ produced record.event.kind = true ∧ record.event.runID = some run := by
  simp only [InRun, getElem?_concat_iff]
  grind

theorem uses_concat {kind name i} : Uses (records ++ [record]) kind key name i ↔ Uses records kind key name i ∨
    i = records.length ∧ record.event.kind = kind ∧ record.event.runID = some key.1 ∧
      toolIdentity record.payload = some (key.2, name) := by
  simp only [Uses, getElem?_concat_iff]
  grind

theorem InRun.lt {i} (h : InRun records run i) : i < records.length := by
  obtain ⟨x, hx, -⟩ := h
  exact (List.getElem?_eq_some_iff.1 hx).1

theorem Uses.lt {kind name i} (h : Uses records kind key name i) : i < records.length := by
  obtain ⟨x, hx, -⟩ := h
  exact (List.getElem?_eq_some_iff.1 hx).1

theorem RunSpan.other {span} (h : RunSpan records run span)
    (hr : ¬ (produced record.event.kind = true ∧ record.event.runID = some run)) :
    RunSpan (records ++ [record]) run span := by
  have hiff : ∀ i, InRun (records ++ [record]) run i ↔ InRun records run i := fun i => by simp [inRun_concat, hr]
  cases span with
  | none | some span => simpa only [RunSpan, hiff] using h

theorem RunSpan.widen {span} (h : RunSpan records run span) (hk : produced record.event.kind = true)
    (hr : record.event.runID = some run) :
    RunSpan (records ++ [record]) run (some ⟨(span.map Interval.start).getD records.length, records.length + 1, false⟩) := by
  have hlast : InRun (records ++ [record]) run records.length := inRun_concat.2 (.inr ⟨rfl, hk, hr⟩)
  cases span with
  | none =>
    refine ⟨rfl, hlast, hlast, fun i hi => ?_⟩
    rcases inRun_concat.1 hi with hi | ⟨rfl, -⟩
    · exact absurd hi (h i)
    · simp
  | some span =>
    obtain ⟨-, hstart, -, hall⟩ := h
    refine ⟨rfl, inRun_concat.2 (.inl hstart), hlast, fun i hi => ?_⟩
    have hlt := hstart.lt
    rcases inRun_concat.1 hi with hi | ⟨rfl, -⟩
    · exact ⟨(hall i hi).1, hi.lt.trans (Nat.lt_succ_self _)⟩
    · exact ⟨hlt.le, Nat.lt_succ_self _⟩

theorem CallHistory.other {state} (h : CallHistory records key state)
    (hr : ∀ kind name, kind = .toolCall ∨ kind = .toolResult →
      ¬ (record.event.kind = kind ∧ record.event.runID = some key.1 ∧ toolIdentity record.payload = some (key.2, name))) :
    CallHistory (records ++ [record]) key state := by
  have hcall : ∀ name i, Uses (records ++ [record]) .toolCall key name i ↔ Uses records .toolCall key name i :=
    fun name i => by simp [uses_concat, hr .toolCall name (.inl rfl)]
  have hresult : ∀ name i, Uses (records ++ [record]) .toolResult key name i ↔ Uses records .toolResult key name i :=
    fun name i => by simp [uses_concat, hr .toolResult name (.inr rfl)]
  cases state with
  | none =>
    rintro kind name i (rfl | rfl)
    · exact (hcall name i).not.2 (h _ name i (.inl rfl))
    · exact (hresult name i).not.2 (h _ name i (.inr rfl))
  | some call => simpa only [CallHistory, Resolved, hcall, hresult] using h

theorem CallHistory.unused {state} (h : CallHistory records key state) (hc : record.event.kind ≠ .toolCall)
    (hr : record.event.kind ≠ .toolResult) : CallHistory (records ++ [record]) key state := by
  refine h.other ?_
  rintro kind name (rfl | rfl)
  · simp [hc]
  · simp [hr]

theorem CallHistory.called {name} (h : CallHistory records key none) (hk : record.event.kind = .toolCall)
    (hr : record.event.runID = some key.1) (hid : toolIdentity record.payload = some (key.2, name)) :
    CallHistory (records ++ [record]) key (some ⟨name, false⟩) := by
  refine ⟨records.length, uses_concat.2 (.inr ⟨rfl, hk, hr, hid⟩), fun other k hu => ?_, ?_⟩
  · rcases uses_concat.1 hu with hu | ⟨rfl, -, -, hother⟩
    · exact absurd hu (h _ other k (.inl rfl))
    · simp_all
  · simp only [Bool.false_eq_true, if_false]
    intro other k hu
    rcases uses_concat.1 hu with hu | ⟨-, hresult, -⟩
    · exact h _ other k (.inr rfl) hu
    · simp [hk] at hresult

theorem CallHistory.answered {name} (h : CallHistory records key (some ⟨name, false⟩)) (hk : record.event.kind = .toolResult)
    (hr : record.event.runID = some key.1) (hid : toolIdentity record.payload = some (key.2, name)) :
    CallHistory (records ++ [record]) key (some ⟨name, true⟩) := by
  obtain ⟨i, hcall, honly, hnone⟩ := h
  simp only [Bool.false_eq_true, if_false] at hnone
  refine ⟨i, uses_concat.2 (.inl hcall), fun other k hu => ?_, ?_⟩
  · rcases uses_concat.1 hu with hu | ⟨-, hcalled, -⟩
    · exact honly other k hu
    · simp [hk] at hcalled
  · refine ⟨records.length, hcall.lt, uses_concat.2 (.inr ⟨rfl, hk, hr, hid⟩), fun other k hu => ?_⟩
    rcases uses_concat.1 hu with hu | ⟨rfl, -⟩
    · exact absurd hu (hnone other k)
    · rfl

end

/-- What a record adds to the pass: a span of its run, and a state of its call. -/
theorem Pass.correlate_ok {pass pass' : Pass} {record run} (h : pass.correlate record run = some pass') :
    ∃ id name done, toolIdentity record.payload = some (id, name) ∧
      pass' = { pass with calls := pass.calls.insert (run, id) ⟨name, done⟩ } ∧
      (record.event.kind = .toolCall ∧ pass.calls.lookup (run, id) = none ∧ done = false ∨
        record.event.kind ≠ .toolCall ∧ pass.calls.lookup (run, id) = some ⟨name, false⟩ ∧ done = true) := by
  simp only [Pass.correlate, Option.bind_eq_bind, Option.bind_eq_some_iff] at h
  obtain ⟨⟨id, name⟩, hid, h⟩ := h
  split at h
  · rename_i hk hnone
    cases h
    exact ⟨id, name, false, hid, rfl, .inl ⟨hk, hnone, rfl⟩⟩
  · cases h
  · cases h
  · rename_i call hcall hk
    split at h
    · cases h
    · rename_i hcond
      obtain ⟨hdone, rfl⟩ : call.done = false ∧ call.name = name := by simpa using hcond
      cases h
      refine ⟨id, call.name, true, hid, rfl, .inr ⟨fun hc => ?_, ?_, rfl⟩⟩
      · exact hk hc
      · rw [hcall, ← hdone]

theorem Gathered.step {codecs first records pass record pass'} (hg : Gathered records pass)
    (h : Pass.step codecs first pass (record, records.length) = some pass') : Gathered (records ++ [record]) pass' := by
  have hids : ∀ i x, (records ++ [record])[i]? = some x → x.event.kind = .toolCall →
      (record.event.kind = .toolCall → ∃ key name, Uses (records ++ [record]) .toolCall key name records.length) →
      ∃ key name, Uses (records ++ [record]) .toolCall key name i := by
    intro i x hx hk hlast
    rcases getElem?_concat_iff.1 hx with hx | ⟨rfl, rfl⟩
    · obtain ⟨key, name, hu⟩ := hg.identified i x hx hk
      exact ⟨key, name, uses_concat.2 (.inl hu)⟩
    · exact hlast hk
  simp only [Pass.step, Option.bind_eq_bind] at h
  split at h
  · cases h
  simp only [Option.bind_eq_some_iff] at h
  obtain ⟨length, -, remaining, -, h⟩ := h
  have hintervals : pass.intervals ++ [⟨records.length, records.length + 1, false⟩] =
      (List.range (records ++ [record]).length).map fun i => (⟨i, i + 1, false⟩ : UnitV1) := by
    simp [hg.intervals, List.range_succ]
  unfold Pass.join at h
  split at h
  · rename_i hproduced
    obtain ⟨run, hrun, h⟩ := Option.bind_eq_some_iff.1 h
    have hruns : ∀ other, RunSpan (records ++ [record]) other
        ((pass.runs.insert run ⟨((pass.runs.lookup run).map Interval.start).getD records.length, records.length + 1,
          false⟩).lookup other) := by
      intro other
      by_cases ho : other = run
      · subst ho
        rw [AList.lookup_insert]
        exact (hg.runs other).widen hproduced hrun
      · rw [AList.lookup_insert_ne ho]
        exact (hg.runs other).other (by simp [hrun, Ne.symm ho])
    split at h
    · rename_i hk
      cases h
      exact ⟨hintervals, hruns, fun key => (hg.calls key).unused (by simp [hk]) (by simp [hk]), fun i x hx hx' =>
        hids i x hx hx' (by simp [hk])⟩
    · rename_i hk
      obtain ⟨id, name, done, hid, rfl, hcase⟩ := Pass.correlate_ok h
      refine ⟨hintervals, hruns, fun key => ?_, fun i x hx hx' => hids i x hx hx' fun hc =>
        ⟨(run, id), name, uses_concat.2 (.inr ⟨rfl, hc, hrun, hid⟩)⟩⟩
      by_cases hkey : key = (run, id)
      · subst hkey
        rw [AList.lookup_insert]
        rcases hcase with ⟨hc, hnone, rfl⟩ | ⟨hc, hsome, rfl⟩
        · exact (hnone ▸ hg.calls (run, id) : CallHistory records (run, id) none).called hc hrun hid
        · have hresult : record.event.kind = .toolResult := by
            cases hkind : record.event.kind <;> simp_all [produced]
          exact (hsome ▸ hg.calls (run, id) : CallHistory records (run, id) (some ⟨name, false⟩)).answered hresult hrun hid
      · rw [AList.lookup_insert_ne hkey]
        refine (hg.calls key).other fun kind other _ hu => hkey ?_
        simp_all [Prod.ext_iff]
  · rename_i hproduced
    cases h
    have hkind : record.event.kind ≠ .toolCall ∧ record.event.kind ≠ .toolResult := by
      cases hkind : record.event.kind <;> simp_all [produced]
    exact ⟨hintervals, fun run => (hg.runs run).other (by simp [hproduced]), fun key =>
      (hg.calls key).unused hkind.1 hkind.2, fun i x hx hx' => hids i x hx hx' (by simp [hkind.1])⟩

theorem gathered_pass {codecs first records} {pass start : Pass}
    (hs : start.calls = ∅ ∧ start.runs = ∅ ∧ start.intervals = [])
    (h : records.zipIdx.foldlM (Pass.step codecs first) start = some pass) : Gathered records pass := by
  induction records using List.reverseRecOn generalizing pass with
  | nil =>
    cases h
    obtain ⟨hcalls, hruns, hintervals⟩ := hs
    exact ⟨by simp [hintervals], fun run => by simp [hruns, RunSpan, InRun], fun key => by
      simp [hcalls, CallHistory, Uses], by simp⟩
  | append_singleton records record ih =>
    simp only [List.zipIdx_append, List.foldlM_append, Option.bind_eq_bind, Option.bind_eq_some_iff] at h
    obtain ⟨mid, hmid, h⟩ := h
    have hstep : Pass.step codecs first mid (record, records.length) = some pass := by simpa using h
    exact (ih hmid).step hstep

/-! ## The units -/

/-- Every run lies in one of the intervals, with everything from its first record to its last. -/
def KeepsRuns (records : List EventPayload) (units : List UnitV1) : Prop :=
  ∀ run i j, InRun records run i → InRun records run j →
    ∃ u ∈ units, (u.start ≤ i ∧ i < u.stop) ∧ u.start ≤ j ∧ j < u.stop

def KeepsSpans (spans units : List UnitV1) : Prop := ∀ span ∈ spans, ∃ u ∈ units, span.Within u

/-- What the units of accepted records are. -/
structure FinestUnits (records : List EventPayload) (spans units : List UnitV1) : Prop where
  tiles : Tiles 0 units records.length
  keepsRuns : KeepsRuns records units
  keepsSpans : KeepsSpans spans units
  /-- A tiling that keeps both has no interval that ends inside a unit. -/
  finest : ∀ parts, Tiles 0 parts records.length → KeepsRuns records parts → KeepsSpans spans parts →
    ∀ u ∈ units, ∃ part ∈ parts, u.Within part
  protected_iff : ∀ u ∈ units, u.label = true ↔
    ∃ i record, u.start ≤ i ∧ i < u.stop ∧ records[i]? = some record ∧ original record = true
  answered : ∀ i call, records[i]? = some call → call.event.kind = .toolCall →
    ∃ key name, Uses records .toolCall key name i ∧ Resolved records key name i

theorem tiles_map {f : UnitV1 → UnitV1} (hf : ∀ u, (f u).start = u.start ∧ (f u).stop = u.stop) {us first stop} :
    Tiles first (us.map f) stop ↔ Tiles first us stop := by
  induction us generalizing first with
  | nil => rfl
  | cons u us ih => simp only [List.map_cons, Tiles, ih, (hf u).1, (hf u).2]

theorem any_original_iff {records : List EventPayload} {u : UnitV1} (hu : u.start < u.stop) :
    ((records.drop u.start).take (u.stop - u.start)).any original = true ↔
      ∃ i record, u.start ≤ i ∧ i < u.stop ∧ records[i]? = some record ∧ original record = true := by
  simp only [List.any_eq_true, List.mem_iff_getElem?, List.getElem?_take, List.getElem?_drop]
  constructor
  · rintro ⟨record, ⟨k, hk⟩, ho⟩
    split at hk
    · exact ⟨u.start + k, record, by omega, by omega, hk, ho⟩
    · cases hk
  · rintro ⟨i, record, h1, h2, hi, ho⟩
    refine ⟨record, ⟨i - u.start, ?_⟩, ho⟩
    rw [if_pos (by omega), show u.start + (i - u.start) = i by omega]
    exact hi

section

variable {records : List EventPayload} {pass : Pass} {spans : List UnitV1} {codecs : Codecs}

/-- The intervals that the sweep joins. -/
def allSpans (pass : Pass) (spans : List UnitV1) : List UnitV1 :=
  pass.intervals ++ pass.runs.entries.map Sigma.snd ++ spans

theorem mem_allSpans {span} : span ∈ allSpans pass spans ↔
    span ∈ pass.intervals ∨ (∃ run, pass.runs.lookup run = some span) ∨ span ∈ spans := by
  simp only [allSpans, List.mem_append, List.mem_map, or_assoc, Sigma.exists, ← AList.mem_lookup_iff, Option.mem_def]
  simp

theorem Gathered.single_mem (hg : Gathered records pass) {i} (hi : i < records.length) :
    (⟨i, i + 1, false⟩ : UnitV1) ∈ allSpans pass spans := by
  rw [mem_allSpans, hg.intervals]
  exact .inl (List.mem_map_of_mem (List.mem_range.2 hi))

/-- A joined span is a single record, the span of a run or an unresolved one. -/
theorem Gathered.span_cases (hg : Gathered records pass) {span} (h : span ∈ allSpans pass spans) :
    (∃ i < records.length, span = ⟨i, i + 1, false⟩) ∨ (∃ run, RunSpan records run (some span)) ∨ span ∈ spans := by
  rw [mem_allSpans, hg.intervals] at h
  rcases h with h | ⟨run, h⟩ | h
  · obtain ⟨i, hi, rfl⟩ := List.mem_map.1 h
    exact .inl ⟨i, List.mem_range.1 hi, rfl⟩
  · exact .inr (.inl ⟨run, h ▸ hg.runs run⟩)
  · exact .inr (.inr h)

end

theorem Gathered.span_bounds {codecs : Codecs} {records pass spans} (hg : Gathered records pass)
    (hs : codecs.unresolvedToolSpans records = some spans) {span} (h : span ∈ allSpans pass spans) :
    span.start < span.stop ∧ span.stop ≤ records.length := by
  rcases hg.span_cases h with ⟨i, hi, rfl⟩ | ⟨run, -, hstart, hstop, hall⟩ | h
  · exact ⟨Nat.lt_succ_self i, hi⟩
  · have := (hall _ hstart).2
    have := hstop.lt
    omega
  · obtain ⟨i, call, result, notice, -, hu, rfl⟩ := (Codecs.unresolvedToolSpans_ok hs).2 span h
    have := (List.getElem?_eq_some_iff.1 hu.notice_at).1
    simp only
    omega

/-- A tiling that keeps runs and unresolved calls keeps everything that the sweep joins. -/
theorem Gathered.keeps {records pass spans parts} (hg : Gathered records pass) (ht : Tiles 0 parts records.length)
    (hr : KeepsRuns records parts) (hs : KeepsSpans spans parts) {span} (h : span ∈ allSpans pass spans) :
    ∃ part ∈ parts, span.Within part := by
  rcases hg.span_cases h with ⟨i, hi, rfl⟩ | ⟨run, -, hstart, hstop, -⟩ | h
  · obtain ⟨u, hu, hin⟩ := ht.at (Nat.zero_le i) hi
    exact ⟨u, hu, hin⟩
  · obtain ⟨u, hu, ⟨hin, -⟩, -, hlast⟩ := hr run _ _ hstart hstop
    exact ⟨u, hu, hin, by omega⟩
  · exact hs span h

/-- A unit that a protected span opened holds the notice of that span. -/
theorem Gathered.label_original {codecs : Codecs} {records pass spans} (hg : Gathered records pass)
    (hs : codecs.unresolvedToolSpans records = some spans) {span} (h : span ∈ allSpans pass spans) (hl : span.label = true) :
    ∃ i record, span.start ≤ i ∧ i < span.stop ∧ records[i]? = some record ∧ original record = true := by
  rcases hg.span_cases h with ⟨i, -, rfl⟩ | ⟨run, hfalse, -⟩ | h
  · cases hl
  · rw [hl] at hfalse
    cases hfalse
  · obtain ⟨i, call, result, notice, -, hu, rfl⟩ := (Codecs.unresolvedToolSpans_ok hs).2 span h
    exact ⟨i + 1, notice, by simp only; omega, by simp, hu.notice_at, by simp [original, hu.kinds.2.2]⟩

/-- The units of every accepted list of records are the finest tiling that keeps runs and unresolved calls whole. -/
theorem canonical_units_finest {codecs sorter records maxBytes maxEvents view}
    (h : buildCanonicalV1 codecs sorter records maxBytes maxEvents = some view) :
    view.records = records ∧ ∃ spans, codecs.unresolvedToolSpans records = some spans ∧
      FinestUnits records spans view.units := by
  unfold buildCanonicalV1 at h
  simp only [Option.bind_eq_bind] at h
  split at h
  · cases h
  simp only [Option.bind_eq_some_iff] at h
  obtain ⟨first, -, -, -, pass, hpass, h⟩ := h
  split at h
  · cases h
  rename_i hdone
  obtain ⟨spans, hspans, h⟩ := Option.bind_eq_some_iff.1 h
  cases h
  refine ⟨rfl, spans, hspans, ?_⟩
  have hg : Gathered records pass := gathered_pass ⟨rfl, rfl, rfl⟩ hpass
  have hmem : ∀ span, span ∈ sorter.sort (allSpans pass spans) ↔ span ∈ allSpans pass spans :=
    fun span => (sorter.perm _).mem_iff
  have hsorted : (sorter.sort (allSpans pass spans)).Pairwise fun a b => a.start ≤ b.start :=
    (sorter.ordered _).imp fun h => h.elim Nat.le_of_lt fun h => h.1.le
  have hswept := swept_sweep hsorted
  have htiles := tiles_sweep hsorted (fun span h => hg.span_bounds hspans ((hmem span).1 h))
    fun i hi => ⟨_, (hmem _).2 (hg.single_mem hi), rfl⟩
  have hkept : ∀ span ∈ allSpans pass spans, ∃ u ∈ (sweep (sorter.sort (allSpans pass spans))).map (protect records),
      span.Within u := fun span hspan => by
    obtain ⟨u, hu, hin⟩ := hswept.kept span ((hmem span).2 hspan)
    exact ⟨protect records u, List.mem_map_of_mem hu, hin⟩
  constructor
  · exact (@tiles_map (protect records) (fun u => ⟨rfl, rfl⟩) _ _ _).2 htiles
  · intro run i j hi hj
    have hrun := hg.runs run
    cases hlookup : pass.runs.lookup run with
    | none =>
      rw [hlookup] at hrun
      exact absurd hi (hrun i)
    | some span =>
      rw [hlookup] at hrun
      obtain ⟨u, hu, h1, h2⟩ := hkept span (mem_allSpans.2 (.inr (.inl ⟨run, hlookup⟩)))
      obtain ⟨-, -, -, hall⟩ := hrun
      have := hall i hi
      have := hall j hj
      exact ⟨u, hu, by omega, by omega⟩
  · exact fun span hspan => hkept span (mem_allSpans.2 (.inr (.inr hspan)))
  · intro parts ht hr hs u hu
    obtain ⟨v, hv, rfl⟩ := List.mem_map.1 hu
    have hin := hswept.refines htiles ht (fun span h => hg.keeps ht hr hs ((hmem span).1 h)) hv
    exact hin
  · intro u hu
    obtain ⟨v, hv, rfl⟩ := List.mem_map.1 hu
    simp only [protect, Bool.or_eq_true, any_original_iff (htiles.bounds hv).2.1]
    refine or_iff_right_of_imp fun hlabel => ?_
    obtain ⟨span, hspan, hin, heq⟩ := hswept.opened v hv
    obtain ⟨i, record, h1, h2, hrecord⟩ := hg.label_original hspans ((hmem span).1 hspan) (heq ▸ hlabel)
    exact ⟨i, record, hin.1.trans h1, h2.trans_le hin.2, hrecord⟩
  · intro i call hi hk
    obtain ⟨key, name, huse⟩ := hg.identified i call hi hk
    refine ⟨key, name, huse, ?_⟩
    have hcall := hg.calls key
    cases hlookup : pass.calls.lookup key with
    | none =>
      rw [hlookup] at hcall
      exact absurd huse (hcall _ name i (.inl rfl))
    | some state =>
      rw [hlookup] at hcall
      obtain ⟨k, -, honly, hresolved⟩ := hcall
      obtain ⟨rfl, rfl⟩ := honly name i huse
      -- no call is left open at the end of the pass
      have hd : state.done = true := by
        by_contra hd
        exact hdone (List.any_eq_true.2 ⟨⟨key, state⟩, AList.mem_lookup_iff.1 hlookup, by simpa using hd⟩)
      rwa [if_pos hd] at hresolved

/-! ## A call and its result -/

namespace Sample

def toolEvent (content : String) : String :=
  "\x7b\"schema\":\"sessionless.tool-event.v1\",\"call_id\":\"c\",\"tool_name\":\"t\",\"content\":" ++ content ++ "\x7d"

def record (sequence : Nat) (kind : SessionEventKind) (run : RunID) (id : SessionEventID) (sha256 payload : String) :
    EventPayload where
  event := {
    id, tenantID := "t", sessionID := "s", sequence, kind, authorUserID := none, runID := some run, idempotencyKey := id
    payload := ⟨"t", sessionEventObjectPrefix "t" "s" id ++ "p", (utf8 payload).length, sha256⟩
    createdAt := 1000000000, createdAtOffset := 0 }
  payload := utf8 payload

def call (sequence : Nat) (kind : SessionEventKind) (id : SessionEventID) : EventPayload :=
  record sequence kind "r" id "53e77662960d2630814cc9fdfce67e33762f978f7566e408dd9f2659e3167a63" (toolEvent "\x7b\x7d")

def records : List EventPayload := [call 1 .toolCall "e1", call 2 .toolResult "e2"]

def noticeID : SessionEventID := "evt_b8ee2fd03a52deece1c8157555bbe0c7"

def notice : String :=
  "\x7b\"schema\":\"sessionless.run-terminal-notice.v1\",\"code\":\"mcp_outcome_unknown\",\"cancelled\":false\x7d"

/-- What the codecs answer about records of the run `r` whose results have one content. -/
def codecs (content : String) (tag : String × String) (lengths : List Nat) : Codecs where
  validEnvelope _ := true
  encodeRecord event _ := lengths[event.sequence - 1]?
  content _ := some (utf8 content)
  outcomeTag _ := some tag
  schemaTag _ := some tag.1
  decodeMCPUnknownToolOutcomeV1 _ := true
  decodeSearchOperationStatusV4 _ := none
  decodeSearchFailureNoticeV4 _ := none
  encodeFailureV1 _ _ := some (noticeID, utf8 notice)

def answered : Codecs := codecs "\x7b\x7d" ("", "") [446, 448]

def sorter : Sorter where
  sort spans := spans.insertionSort before
  perm spans := spans.perm_insertionSort before
  ordered spans := by
    have : Std.Total before := ⟨fun a b => by
      unfold before
      omega⟩
    have : IsTrans UnitV1 before := ⟨fun a b c h h' => by
      unfold before at *
      omega⟩
    exact spans.pairwise_insertionSort before

end Sample

open Sample in
/-- The call and its result are one unit. -/
theorem canonical_units_finest_call : ∃ view, buildCanonicalV1 answered sorter records 4096 16 = some view ∧
    view.units = [⟨0, 2, false⟩] ∧
    ∃ spans, answered.unresolvedToolSpans records = some spans ∧ FinestUnits records spans view.units := by
  have hsome : (buildCanonicalV1 answered sorter records 4096 16).any (fun view => view.units = [⟨0, 2, false⟩]) = true := by
    decide +kernel
  obtain ⟨view, hview, hunits⟩ := (Option.any_eq_true ..).1 hsome
  exact ⟨view, hview, by simpa using hunits, (canonical_units_finest hview).2⟩

end Sessionless.Compaction
