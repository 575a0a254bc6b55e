import Sessionless.Store.Sessions

/-!
# Run transactions

The writers of `StateTx` for the rows of a run, the check of its lease, and what the end of a
run gives back: its slot, its place among the active runs and its lease.
-/

namespace Sessionless.Store

/-! ## Writers -/

/-- The fields of a stored run that no later write may change. -/
def Run.sameIdentity (stored run : Run) : Bool :=
  stored.sessionID = run.sessionID && stored.triggerEventID = run.triggerEventID &&
    stored.subscriptionConnectionID = run.subscriptionConnectionID && stored.idempotencyKey = run.idempotencyKey &&
    stored.createdAt = run.createdAt

/-- A list of identifiers with one more at its end, unless it is there already. -/
def addID (ids : List RunID) (id : RunID) : List RunID := if id ∈ ids then ids else ids ++ [id]

def putRun (s : State) (run : Run) : Except StoreError State := do
  ensureSameTenant s.tenantID run.tenantID
  run.validate
  ensureSessionWritable s run.sessionID
  if (s.runIdempotency run.idempotencyKey).any (· ≠ run.id) then .error .idempotencyConflict
  else if (s.runs run.id).any (fun stored => ¬ stored.sameIdentity run) then
    .error (.validation "run" "immutable identity fields cannot change")
  else return { s with
    runs := s.runs.upsert run.id run
    runsBySession := Function.update s.runsBySession run.sessionID (addID (s.runsBySession run.sessionID) run.id)
    runIdempotency := s.runIdempotency.upsert run.idempotencyKey run.id }

def owningRun (s : State) (runID : RunID) : Except StoreError Run := do
  let run ← requireRow (s.runs runID) (.missing "run" runID)
  ensureSessionWritable s run.sessionID
  return run

def putAttempt (s : State) (attempt : Attempt) : Except StoreError State := do
  let run ← owningRun s attempt.runID
  attempt.validateForRun run
  return { s with attempts := s.attempts.upsert attempt.id attempt }

/-- `validateQuotaReservationUpdateV1` for a reservation of a subscription. -/
def QuotaReservation.sameHold (previous next : QuotaReservation) : Bool :=
  previous.id = next.id && previous.tenantID = next.tenantID && previous.runID = next.runID &&
    previous.subscriptionConnectionID = next.subscriptionConnectionID && previous.capacityUnits = next.capacityUnits &&
    previous.heldAt = next.heldAt

def putQuotaReservation (s : State) (reservation : QuotaReservation) : Except StoreError State := do
  let run ← owningRun s reservation.runID
  reservation.validateForRun run
  if (s.quotaReservations reservation.id).any (fun previous => ¬ previous.sameHold reservation) then .error .membershipDenied
  else return { s with quotaReservations := s.quotaReservations.upsert reservation.id reservation }

def putArtifactManifest (s : State) (manifest : ArtifactManifest) : Except StoreError State := do
  let run ← owningRun s manifest.runID
  manifest.validateForRun run
  return { s with artifactManifests := s.artifactManifests.upsert manifest.id manifest }

def putDispatchOutbox (s : State) (outbox : DispatchOutbox) : Except StoreError State := do
  let run ← owningRun s outbox.runID
  let attempt ← requireRow (s.attempts outbox.attemptID) (.missing "attempt" outbox.attemptID)
  outbox.validateForAttempt run attempt
  return { s with dispatchOutbox := s.dispatchOutbox.upsert outbox.id outbox }

/-! ## Leases -/

def requireLeaseOwnership (s : State) (runID : RunID) (leaseID : LeaseID) (fence : Nat) (instant : Int) :
    Except StoreError Unit := do
  validateOpaqueID "lease_id" leaseID
  if fence = 0 ∨ instant = 0 then
    .error (.validation "lease ownership" "requires a positive fence and non-zero time")
  else do
    let head ← requireRow (s.leaseHeads runID) .leaseLost
    if head.leaseID ≠ leaseID ∨ head.fenceToken ≠ fence ∨ head.expiresAt ≤ instant then .error .leaseLost else .ok ()

/-! ## Slots and counters -/

def SubscriptionSchedulerSlot.validate (slot : SubscriptionSchedulerSlot) : Except StoreError Unit :=
  if (slot.activeRunID = "") ≠ (slot.activeReservationID = "") then
    .error (.validation "scheduler_slot.active" "run and reservation identifiers must be present together")
  else do
    if slot.activeRunID ≠ "" then do
      validateOpaqueID "run_id" slot.activeRunID
      validateOpaqueID "quota_reservation_id" slot.activeReservationID
    if slot.state ≠ .blockedUntilReset ∧ slot.blockedUntil ≠ none then
      .error (.validation "scheduler_slot.blocked_until" "is allowed only while blocked until reset")
    else if slot.updatedAt = 0 then .error (.validation "scheduler_slot.updated_at" "must not be zero")
    else .ok ()

/-- `time.Unix(0, 0)`. -/
def unixEpoch : Int := 62135596800000000000

/-- A slot as its row has it. The column of the block is never null, and only a blocked slot is read with it. -/
def SubscriptionSchedulerSlot.stored (slot : SubscriptionSchedulerSlot) : SubscriptionSchedulerSlot :=
  { slot with blockedUntil := if slot.state = .blockedUntilReset then some (slot.blockedUntil.getD unixEpoch) else none }

def writeSchedulerSlot (s : State) (connectionID : SubscriptionConnectionID) (slot : SubscriptionSchedulerSlot) :
    Except StoreError State := do
  slot.validate
  return { s with schedulerSlots := s.schedulerSlots.upsert connectionID slot.stored }

/-- The slot of a connection. The first look at it writes it. -/
def ensureSchedulerSlot (s : State) (connectionID : SubscriptionConnectionID) (entitlement : EntitlementState) (instant : Int) :
    Except StoreError (SubscriptionSchedulerSlot × State) :=
  match s.schedulerSlots connectionID with
  | some row => do
    row.stored.validate
    return (row.stored, s)
  | none => do
    let slot : SubscriptionSchedulerSlot :=
      { state := if entitlement = .active then .ready else .reauthRequired, activeRunID := "", activeReservationID := ""
        blockedUntil := none, updatedAt := instant }
    let s ← writeSchedulerSlot s connectionID slot
    return (slot, s)

def freeSchedulerSlot (s : State) (run : Run) (reservation : QuotaReservation) (instant : Int) : Except StoreError State := do
  let entitlement ← requireRow (s.subscriptionEntitlements run.subscriptionConnectionID)
    (.missing "subscription connection" run.subscriptionConnectionID)
  let (slot, s) ← ensureSchedulerSlot s run.subscriptionConnectionID entitlement instant
  if slot.activeRunID = run.id ∧ slot.activeReservationID = reservation.id then
    writeSchedulerSlot s run.subscriptionConnectionID
      { slot with activeRunID := "", activeReservationID := "", state := .ready, blockedUntil := none, updatedAt := instant }
  else return s

/-- The counters of the tenant; the first look at them writes zeros. -/
def readSchedulerCounters (s : State) : SchedulerCounters := s.schedulerCounters.getD ⟨0, 0⟩

def finishWorkerScheduling (s : State) (run : Run) (reservation : QuotaReservation) (leaseID : LeaseID) (fence : Nat)
    (instant : Int) : Except StoreError State := do
  let s ← freeSchedulerSlot s run reservation instant
  let counters := readSchedulerCounters s
  let s := { s with schedulerCounters := some { counters with activeRuns := counters.activeRuns - 1 } }
  let head ← requireRow (s.leaseHeads run.id) (.missing "lease head" run.id)
  if head.leaseID ≠ leaseID ∨ head.fenceToken ≠ fence then .error .leaseLost
  else return { s with leaseHeads := s.leaseHeads.delete run.id }

end Sessionless.Store
