import Sessionless.Store.Append
import Sessionless.Store.Runs

/-!
# Finalization of a run

`CompleteWorkerJob` and `FailWorkerJob`: one transaction ends the run, its attempt and its reservation, appends the
worker's events and gives the slot, the counter and the lease back. The digest of the result makes a retry a no-op.
Usage, evidence, projections and explanations are left out.
-/

namespace Sessionless.Store

open Lib Protocol

/-! ## Drafts -/

structure SessionEventDraft where
  id : SessionEventID
  kind : SessionEventKind
  idempotencyKey : IdempotencyKey
  payload : BlobRef
  displayText : String
  createdAt : Int
  createdAtOffset : Int
deriving DecidableEq, Repr

def SessionEventDraft.validateForRun (draft : SessionEventDraft) (run : Run) : Except StoreError Unit := do
  run.validate
  validateOpaqueID "session_event_id" draft.id
  if draft.kind = .userMessage then .error (.validation "session_event_draft.kind" "is not a terminal worker event")
  else do
    validateOpaqueID "idempotency_key" draft.idempotencyKey
    validateSessionEventBlob run.tenantID run.sessionID draft.id draft.payload
    if draft.displayText.toList.length > 32000 then
      .error (.validation "session_event_draft.display_text" "must not exceed 32000 Unicode characters")
    else if draft.createdAt = 0 ∨ draft.createdAt < run.createdAt then
      .error (.validation "session_event_draft.created_at" "must not precede the owning run")
    else .ok ()

/-- Which events a run may end with, by the status it ends in. -/
def validateCanonicalFinalizationEvents (status : RunStatus) (events : List SessionEventDraft) : Except StoreError Unit :=
  match status with
  | .succeeded =>
    if ¬ events.all (fun event => event.kind = .assistantMessage || event.kind.isTool) then
      .error (.validation "worker_completion.events" "may contain only tool and assistant events")
    else if events.countP (·.kind = .assistantMessage) ≠ 1 then
      .error (.validation "worker_completion.events" "must contain exactly one assistant event")
    else .ok ()
  | .failed | .cancelled =>
    if events.map (·.kind) ≠ [.systemNotice] then
      .error (.validation "worker_failure.events" "must contain exactly one system notice")
    else .ok ()
  | _ => .error (.validation "worker_finalization.status" "must be a terminal worker status")

/-- Drafts are valid and have distinct identifiers and keys. -/
def validateDrafts (run : Run) (seenEvents : List SessionEventID) (seenKeys : List IdempotencyKey) :
    List SessionEventDraft → Except StoreError Unit
  | [] => .ok ()
  | draft :: rest => do
    draft.validateForRun run
    if draft.id ∈ seenEvents then .error (.validation "worker_finalization.events" "event IDs must be unique")
    else if draft.idempotencyKey ∈ seenKeys then
      .error (.validation "worker_finalization.events" "idempotency keys must be unique")
    else validateDrafts run (draft.id :: seenEvents) (draft.idempotencyKey :: seenKeys) rest

/-! ## The digest of a finalization -/

def RunStatus.text : RunStatus → String
  | .created => "created"
  | .admitted => "admitted"
  | .queued => "queued"
  | .running => "running"
  | .succeeded => "succeeded"
  | .failed => "failed"
  | .cancelled => "cancelled"
  | .quotaBlocked => "quota_blocked"

def BlobRef.toJson (ref : BlobRef) : Json :=
  .obj [("tenant_id", .str ref.tenantID), ("key", .str ref.key), ("size", .num ref.size), ("sha256", .str ref.sha256)]

def ArtifactManifest.toJson (manifest : ArtifactManifest) : Json :=
  .obj [("id", .str manifest.id), ("tenant_id", .str manifest.tenantID), ("run_id", .str manifest.runID),
    ("artifacts", .arr (manifest.artifacts.map fun artifact =>
      .obj [("name", .str artifact.name), ("media_type", .str artifact.mediaType), ("blob", artifact.blob.toJson)])),
    ("created_at", .str (Calendar.rfc3339Nano manifest.createdAt 0))]

/-- `finalizationEventIdentity`: the time of a draft is not part of it. -/
def SessionEventDraft.identityJson (draft : SessionEventDraft) : Json :=
  .obj ([("id", .str draft.id), ("kind", .str draft.kind.text), ("idempotency_key", .str draft.idempotencyKey),
    ("payload", draft.payload.toJson)] ++ if draft.displayText = "" then [] else [("display_text", .str draft.displayText)])

section

variable [Crypto]

def runFinalizationDigest (status : RunStatus) (manifest : Option ArtifactManifest) (events : List SessionEventDraft)
    (evidence : List (String × Json)) : String :=
  hex (Crypto.sha256 (Json.marshal (.obj ([("status", .str status.text)] ++
    manifest.toList.map (fun manifest => ("manifest", manifest.toJson)) ++
    [("events", .arr (events.map SessionEventDraft.identityJson))] ++ evidence)))).val

/-- Whether this very finalization is recorded. Another one is a conflict. -/
def matchingRunFinalization (s : State) (runID : RunID) (status : RunStatus) (digest : String) : Except StoreError Bool :=
  match s.runFinalizations runID with
  | none => .ok false
  | some recorded =>
    if recorded.terminalStatus ≠ status ∨ recorded.contentDigest ≠ digest then .error .runFinalizationConflict else .ok true

/-! ## Appending the worker's events -/

/-- The event of a draft: it takes the next sequence, at a time that does not precede the session's. -/
def SessionEventDraft.event (draft : SessionEventDraft) (run : Run) (session : Session) : SessionEvent :=
  { id := draft.id, tenantID := run.tenantID, sessionID := run.sessionID, sequence := session.lastEventSequence + 1
    kind := draft.kind, authorUserID := none, runID := some run.id, idempotencyKey := draft.idempotencyKey
    payload := draft.payload
    createdAt := if draft.createdAt < session.updatedAt then session.updatedAt else draft.createdAt
    createdAtOffset := if draft.createdAt < session.updatedAt then 0 else draft.createdAtOffset }

def appendDraft (run : Run) (prepared : Preparation) (acc : Session × State) (draft : SessionEventDraft) :
    Except StoreError (Session × State) := do
  let event := draft.event run acc.1
  let (_, session) ← appendSessionEvent acc.1 event none
  let s ← insertSessionEvent acc.2 event prepared
  return (session, s)

def appendDrafts (run : Run) (prepared : Preparation) (acc : Session × State) : List SessionEventDraft →
    Except StoreError (Session × State)
  | [] => .ok acc
  | draft :: rest => do
    let next ← appendDraft run prepared acc draft
    appendDrafts run prepared next rest

def appendCanonicalFinalization (s : State) (run : Run) (status : RunStatus) (digest : String)
    (drafts : List SessionEventDraft) (prepared : Preparation) : Except StoreError State :=
  if drafts = [] then .error (.validation "worker_finalization.events" "must not be empty for a canonical run")
  else do
    ensureSessionWritable s run.sessionID
    let session ← requireRow (s.sessions run.sessionID) (.missing "session" run.sessionID)
    validateDrafts run [] [] drafts
    let (session, s) ← appendDrafts run prepared (session, s) drafts
    let s ← updateSession s session
    let finalizations ← insertRow "run_finalizations" s.runFinalizations run.id ⟨status, digest⟩
    return { s with runFinalizations := finalizations }

/-! ## The transactions -/

structure WorkerFinalization where
  runID : RunID
  attemptID : AttemptID
  reservationID : QuotaReservationID
  leaseID : LeaseID
  fence : Nat
  instant : Int
  events : List SessionEventDraft
deriving DecidableEq, Repr

def loadWorkerTerminalState (s : State) (job : WorkerFinalization) : Except StoreError (Run × Attempt × QuotaReservation) := do
  let run ← requireRow (s.runs job.runID) (.missing "run" job.runID)
  if run.tenantID ≠ s.tenantID ∨ run.id ≠ job.runID then .error .membershipDenied
  else do
    let attempt ← requireRow (s.attempts job.attemptID) (.missing "attempt" job.attemptID)
    let reservation ← requireRow (s.quotaReservations job.reservationID) (.missing "reservation" job.reservationID)
    return (run, attempt, reservation)

/-- The statuses that a run, its attempt and its reservation end in. -/
structure Outcome where
  run : RunStatus
  attempt : AttemptStatus
  reservation : ReservationStatus
deriving DecidableEq, Repr

/-- The rows of the run, its attempt and its reservation in their last status. -/
def endRun (s : State) (run : Run) (attempt : Attempt) (reservation : QuotaReservation) (outcome : Outcome) (instant : Int) :
    Except StoreError (Run × QuotaReservation × State) := do
  let run ← run.transition outcome.run instant
  let attempt ← attempt.transition outcome.attempt instant
  let reservation ← reservation.transition outcome.reservation instant
  let s ← putRun s run
  let s ← putAttempt s attempt
  let s ← putQuotaReservation s reservation
  return (run, reservation, s)

def putOutputManifest (s : State) : Option ArtifactManifest → Except StoreError State
  | some manifest => putArtifactManifest s manifest
  | none => .ok s

/-- `completeWorkerSuccessWithAuthorityTx` and `failWorkerWithAuthorityTx` for a managed run: a success also writes the
manifest of its artifacts. -/
def finalizeWorkerTx (s : State) (job : WorkerFinalization) (run : Run) (attempt : Attempt) (reservation : QuotaReservation)
    (outcome : Outcome) (manifest : Option ArtifactManifest) (digest : String) (prepared : Preparation) :
    Except StoreError State := do
  requireLeaseOwnership s run.id job.leaseID job.fence job.instant
  let (run, reservation, s) ← endRun s run attempt reservation outcome job.instant
  let s ← putOutputManifest s manifest
  let s ← appendCanonicalFinalization s run outcome.run digest job.events prepared
  finishWorkerScheduling s run reservation job.leaseID job.fence job.instant

/-- A finalization that is recorded is not made again, and another one is refused. -/
def finalizeWorkerJob (s : State) (job : WorkerFinalization) (outcome : Outcome) (manifest : Option ArtifactManifest)
    (evidence : List (String × Json)) (prepared : Preparation) : Except StoreError State := do
  let (run, attempt, reservation) ← loadWorkerTerminalState s job
  validateCanonicalFinalizationEvents outcome.run job.events
  manifest.forM (·.validateForRun run)
  let digest := runFinalizationDigest outcome.run manifest job.events evidence
  let matched ← matchingRunFinalization s run.id outcome.run digest
  if matched then .ok s
  else if run.status.terminal then .error .runFinalizationConflict
  else finalizeWorkerTx s job run attempt reservation outcome manifest digest prepared

def succeeded : Outcome := ⟨.succeeded, .succeeded, .committed⟩

def failed (cancelled : Bool) : Outcome :=
  if cancelled then ⟨.cancelled, .cancelled, .released⟩ else ⟨.failed, .failed, .released⟩

/-- `substrateEvidence` is the digest of the evidence that a managed execution has to carry. -/
def completeWorkerJob (s : State) (job : WorkerFinalization) (manifest : ArtifactManifest) (substrateEvidence : String)
    (prepared : Preparation) : Except StoreError State :=
  if job.events = [] then
    .error (.validation "worker_completion.events" "must not be empty for canonical finalization")
  else finalizeWorkerJob s job succeeded (some manifest) [("substrate_evidence_digest", .str substrateEvidence)] prepared

def failWorkerJob (s : State) (job : WorkerFinalization) (cancelled : Bool) (reconciliationEvidence : Option String)
    (prepared : Preparation) : Except StoreError State :=
  if job.events = [] then .error (.validation "worker_failure.events" "must not be empty for canonical finalization")
  else finalizeWorkerJob s job (failed cancelled) none
    (reconciliationEvidence.toList.map fun digest => ("reconciliation_evidence_digest", .str digest)) prepared

end

end Sessionless.Store
