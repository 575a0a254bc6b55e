import Mathlib.Data.List.AList
import Sessionless.Lib.Intervals
import Sessionless.Store.Session
import Sessionless.StrictJson.Scanner

/-!
# Canonical units

`compactioncontext` groups the records of a session into units that no summary may split: the records of one producing
run, and the call, result and notice of a tool call whose outcome stayed unknown. `BuildCanonicalV1` collects their
spans in one pass and joins them in one sweep. Its one error, `ErrCanonical`, is `none`.
-/

namespace Sessionless.Compaction

open Lib Store

structure EventPayload where
  event : SessionEvent
  payload : Bytes
deriving DecidableEq

/-- A half-open interval of the records. The label says whether the unit is `Protected`. -/
abbrev UnitV1 : Type := Lib.Interval Bool

structure SearchOperationStatusV4 where
  outcome : String
  reason : String
  operation : String
  reservation : String
  observation : String
deriving DecidableEq

structure SearchFailureNoticeV4 where
  code : String
  outcome : String
  reason : String
  operation : String
  reservation : String
  observation : String
deriving DecidableEq

/-- The codecs of other packages, as functions of the bytes they are given. -/
structure Codecs where
  validEnvelope : EventPayload → Bool
  /-- The length of the line that `EncodeRecord` writes. -/
  encodeRecord : SessionEvent → Bytes → Option Nat
  /-- The `content` member of a payload. -/
  content : Bytes → Option Bytes
  /-- The `schema` and the `outcome` member of a content. -/
  outcomeTag : Bytes → Option (String × String)
  schemaTag : Bytes → Option String
  decodeMCPUnknownToolOutcomeV1 : Bytes → Bool
  decodeSearchOperationStatusV4 : Bytes → Option SearchOperationStatusV4
  decodeSearchFailureNoticeV4 : Bytes → Option SearchFailureNoticeV4
  /-- The event and the payload of the notice for a run, not cancelled, with a code. -/
  encodeFailureV1 : RunID → String → Option (SessionEventID × Bytes)

/-! ## The identity of a tool call -/

/-- `validCorrelationString`, inside the quotes: no escaped surrogate is without its other half. -/
def pairedEscapes : Nat → Bytes → Bool
  | 0, _ => true
  | _, [] => true
  | fuel + 1, b :: rest =>
    if b ≠ 92 then pairedEscapes fuel rest
    else if rest.head? ≠ some 117 then rest ≠ [] && pairedEscapes fuel rest.tail
    else
      match nextQuad (b :: rest) with
      | none => false
      | some (value, after) =>
        if 0xdc00 ≤ value ∧ value ≤ 0xdfff then false
        else if 0xd800 ≤ value ∧ value ≤ 0xdbff then
          (nextQuad after).any fun low => 0xdc00 ≤ low.1 && low.1 ≤ 0xdfff && pairedEscapes fuel low.2
        else pairedEscapes fuel after

def correlation : Raw → Option Bytes
  | .str body => if pairedEscapes body.length body then unescaped body else none
  | _ => none

def identityKeys : List Bytes := ["schema", "call_id", "tool_name", "content"].map utf8

/-- The call and the tool that a payload names: an object with each of the four members once. -/
def toolIdentity (body : Bytes) : Option (Bytes × Bytes) := do
  match ← Raw.parseWithin (Raw.maxNestingDepth + 1) body with
  | .obj members => do
    let keyed ← members.mapM fun member => (unescaped member.1).map fun key => (key, member.2)
    let keys := keyed.map Prod.fst
    if ¬ keys.Nodup ∨ keys.length ≠ 4 ∨ ¬ keys ⊆ identityKeys then none
    else do
      let call ← correlation (← keyed.lookup (utf8 "call_id"))
      let name ← correlation (← keyed.lookup (utf8 "tool_name"))
      return (call, name)
  | _ => none

/-! ## Calls with an unknown outcome -/

/-- What a result with an unknown outcome asks of its own content, its tool and the notice after it. -/
structure Closing where
  decodes : Bool
  named : Bytes → Bool
  notice : RunID → EventPayload → Bool

def searchStatusSchema : String := "sessionless.search-operation-status.v4"

namespace Codecs

variable (codecs : Codecs)

def mcpClosing (record : EventPayload) : Option Closing :=
  if record.event.kind ≠ .toolResult then none
  else
    (codecs.content record.payload).bind fun content =>
      (codecs.outcomeTag content).bind fun tag =>
        if tag.2 ≠ "accepted_outcome_unknown" ∨ tag.1 = searchStatusSchema then none
        else some {
          decodes := codecs.decodeMCPUnknownToolOutcomeV1 content
          named := fun _ => true
          notice := fun run notice =>
            codecs.encodeFailureV1 run "mcp_outcome_unknown" = some (notice.event.id, notice.payload) }

def searchNotice (status : SearchOperationStatusV4) (notice : EventPayload) : Bool :=
  codecs.decodeSearchFailureNoticeV4 notice.payload = some
    { code := if status.outcome = "rejected_before_send" then "search_rejected_before_send" else "search_outcome_unknown"
      outcome := status.outcome
      reason := status.reason
      operation := status.operation
      reservation := status.reservation
      observation := status.observation }

def searchClosing (record : EventPayload) : Option Closing :=
  if record.event.kind ≠ .toolResult then none
  else
    (codecs.content record.payload).bind fun content =>
      if codecs.schemaTag content ≠ some searchStatusSchema then none
      else
        let status := codecs.decodeSearchOperationStatusV4 content
        some {
          decodes := status.isSome
          named := fun name => name = utf8 "web_search"
          notice := fun _ notice => status.any fun status => codecs.searchNotice status notice }

def nextSequence (sequence : Nat) : Nat := (sequence + 1) % 18446744073709551616

/-- The run of a result that follows its call and is followed by its notice. -/
def closes (records : List EventPayload) (seen : List RunID) (closing : Closing) (record : EventPayload) (i : Nat) :
    Option RunID := do
  let run ← record.event.runID
  let call ← records[i - 1]?
  let notice ← records[i + 1]?
  let (id, name) ← toolIdentity record.payload
  let (callID, callName) ← toolIdentity call.payload
  if closing.decodes ∧ i ≠ 0 ∧ id = callID ∧ name = callName ∧ closing.named name ∧ run ∉ seen ∧
      (call.event.kind = .toolCall ∧ call.event.runID = some run) ∧
      (notice.event.kind = .systemNotice ∧ notice.event.runID = some run) ∧
      nextSequence call.event.sequence = record.event.sequence ∧
      nextSequence record.event.sequence = notice.event.sequence ∧
      codecs.validEnvelope call ∧ codecs.validEnvelope record ∧ codecs.validEnvelope notice ∧
      closing.notice run notice then
    some run
  else none

def spansFrom (records : List EventPayload) (select : EventPayload → Option Closing) :
    List RunID → List (EventPayload × Nat) → Option (List UnitV1)
  | _, [] => some []
  | seen, (record, i) :: entries =>
    match select record with
    | none => spansFrom records select seen entries
    | some closing => do
      let run ← codecs.closes records seen closing record i
      let spans ← spansFrom records select (run :: seen) entries
      return ⟨i - 1, i + 2, true⟩ :: spans

def unresolvedSearchSpansV4 (records : List EventPayload) : Option (List UnitV1) :=
  codecs.spansFrom records codecs.searchClosing [] records.zipIdx

def unresolvedToolSpans (records : List EventPayload) : Option (List UnitV1) := do
  let spans ← codecs.spansFrom records codecs.mcpClosing [] records.zipIdx
  let search ← codecs.unresolvedSearchSpansV4 records
  return spans ++ search

end Codecs

/-! ## The units of a range -/

def maxBytesV1 : Nat := 1048576

def maxEventsV1 : Nat := 4096

def take (remaining amount : Nat) : Option Nat := if remaining < amount then none else some (remaining - amount)

/-- The strings that `takeIdentity` charges. -/
def identityValues (event : SessionEvent) : List String :=
  [event.id, event.tenantID, event.sessionID, event.kind.text, event.idempotencyKey, event.payload.tenantID,
    event.payload.key, event.payload.sha256] ++ event.authorUserID.toList ++ event.runID.toList

def takeIdentity (remaining : Nat) (event : SessionEvent) : Option Nat :=
  (identityValues event).foldlM (fun remaining value => take remaining (utf8 value).length) remaining

structure CallState where
  name : Bytes
  done : Bool
deriving DecidableEq

/-- The call of a run. -/
abbrev CallKey : Type := RunID × Bytes

/-- What the pass over the records has gathered. -/
structure Pass where
  seen : List SessionEventID := []
  calls : AList (fun _ : CallKey => CallState) := ∅
  runs : AList (fun _ : RunID => UnitV1) := ∅
  intervals : List UnitV1 := []
  encodedRemaining : Nat

/-- The kinds of records that a run produces. -/
def produced (kind : SessionEventKind) : Bool := kind = .assistantMessage || kind = .toolCall || kind = .toolResult

namespace Pass

/-- The span of a run, up to and with the record at `i`. -/
def widen (pass : Pass) (run : RunID) (i : Nat) : Pass :=
  { pass with runs := pass.runs.insert run ⟨((pass.runs.lookup run).map Interval.start).getD i, i + 1, false⟩ }

/-- A call is new, and a result is the first one of its call. -/
def correlate (pass : Pass) (record : EventPayload) (run : RunID) : Option Pass := do
  let (callID, name) ← toolIdentity record.payload
  let key := (run, callID)
  match record.event.kind, pass.calls.lookup key with
  | .toolCall, none => some { pass with calls := pass.calls.insert key ⟨name, false⟩ }
  | .toolCall, some _ => none
  | _, none => none
  | _, some call =>
    if call.done ∨ call.name ≠ name then none else some { pass with calls := pass.calls.insert key ⟨name, true⟩ }

def join (pass : Pass) (record : EventPayload) (i : Nat) : Option Pass :=
  if produced record.event.kind then
    -- validEnvelope has refused a produced record without a run
    record.event.runID.bind fun run =>
      if record.event.kind = .assistantMessage then some (pass.widen run i) else (pass.widen run i).correlate record run
  else some pass

def step (codecs : Codecs) (first : SessionEvent) (pass : Pass) (entry : EventPayload × Nat) : Option Pass := do
  let (record, i) := entry
  let event := record.event
  if event.sequence ≠ i + 1 ∨ event.tenantID ≠ first.tenantID ∨ event.sessionID ≠ first.sessionID ∨
      event.id ∈ pass.seen ∨ ¬ StrictJson.ValidUtf8 record.payload ∨ ¬ codecs.validEnvelope record then none
  else do
    let remaining ← take pass.encodedRemaining (← codecs.encodeRecord event record.payload)
    join { pass with
      seen := event.id :: pass.seen, encodedRemaining := remaining, intervals := pass.intervals ++ [⟨i, i + 1, false⟩] }
      record i

end Pass

abbrev before (a b : UnitV1) : Prop := a.start < b.start ∨ a.start = b.start ∧ b.stop ≤ a.stop

/-- `sort.Slice`, whatever order the maps were read in. -/
structure Sorter where
  sort : List UnitV1 → List UnitV1
  perm : ∀ spans, (sort spans).Perm spans
  ordered : ∀ spans, (sort spans).Pairwise before

structure ViewV1 where
  records : List EventPayload
  units : List UnitV1
  bytes : Nat

/-- A record that is never summarised. -/
def original (record : EventPayload) : Bool :=
  record.event.kind = .userMessage || record.event.kind = .systemNotice

def protect (records : List EventPayload) (u : UnitV1) : UnitV1 :=
  { u with label := u.label || ((records.drop u.start).take (u.stop - u.start)).any original }

def buildCanonicalV1 (codecs : Codecs) (sorter : Sorter) (records : List EventPayload) (maxBytes maxEvents : Nat) :
    Option ViewV1 := do
  if maxBytes = 0 ∨ maxBytesV1 < maxBytes ∨ maxEvents = 0 ∨ maxEventsV1 < maxEvents ∨ maxEvents < records.length then none
  else do
    let first ← records.head?
    let _ ← records.foldlM (fun remaining record => do
      takeIdentity (← take remaining record.payload.length) record.event) maxBytes
    let pass ← records.zipIdx.foldlM (Pass.step codecs first.event) { encodedRemaining := maxBytes }
    if pass.calls.entries.any fun call => !call.2.done then none
    else do
      let unresolved ← codecs.unresolvedToolSpans records
      let intervals := pass.intervals ++ pass.runs.entries.map Sigma.snd ++ unresolved
      return {
        records
        units := (Interval.sweep (sorter.sort intervals)).map (protect records)
        bytes := maxBytes - pass.encodedRemaining }

end Sessionless.Compaction
