import Sessionless.Context.Material
import Sessionless.Store.Lifecycle
import Sessionless.Store.Run

/-!
# The tables of a tenant

Every transaction runs in the tables of one tenant, serializably, and is rolled back when it returns an error: it is a
function from a state to an error or to an answer and the next state. Tables that repeat others in another key order,
audit rows and displays are left out.
-/

namespace Sessionless.Store

open Lib Context

/-! ## Scheduling rows -/

inductive SchedulerState where
  | ready | pressured | draining | blockedUntilReset | reauthRequired
deriving DecidableEq, Repr

structure SubscriptionSchedulerSlot where
  state : SchedulerState
  activeRunID : RunID
  activeReservationID : QuotaReservationID
  blockedUntil : Option Int
  updatedAt : Int
deriving DecidableEq, Repr

inductive EntitlementState where
  | disconnected | unknown | active | inactive | reauthRequired
deriving DecidableEq, Repr

structure LeaseHead where
  leaseID : LeaseID
  attemptID : AttemptID
  workerID : String
  fenceToken : Nat
  expiresAt : Int
deriving DecidableEq, Repr

/-- The counters of `tenant_scheduler_counters`. -/
structure SchedulerCounters where
  queueDepth : Nat
  activeRuns : Nat
deriving DecidableEq, Repr

/-! ## Ingress and finalization rows -/

/-- A row of `frontend_ingress_idempotency`. -/
structure IngressRow where
  sessionID : SessionID
  sequence : Nat
  eventID : SessionEventID
  runID : RunID
  mutationDigest : String
  expireAt : Int
deriving DecidableEq, Repr

/-- A row of `run_finalizations`. -/
structure RunFinalization where
  terminalStatus : RunStatus
  contentDigest : String
deriving DecidableEq, Repr

structure State where
  tenantID : TenantID
  memberships : Table UserID TenantMembership
  sessions : Table SessionID Session
  sessionParticipants : Table (SessionID × UserID) SessionParticipant
  frontendBindings : Table FrontendBindingID FrontendBinding
  frontendBindingKeys : Table (Frontend × String) FrontendBindingID
  sessionEvents : Table (SessionID × Nat) SessionEvent
  sessionEventIdempotency : Table (SessionID × IdempotencyKey) (Nat × SessionEventID)
  materialCurrent : Table SessionID SessionMaterialPrefixV1
  materialBoundaries : Table (SessionID × Nat) SessionMaterialPrefixV1
  sessionDeletions : Table SessionID SessionDeletion
  sessionLegalHolds : Table SessionID SessionLegalHold
  sessionAPIMutations : Table (UserID × IdempotencyKey) (SessionID × Bool)
  ingressIdempotency : Table (FrontendBindingID × IdempotencyKey) IngressRow
  runs : Table RunID Run
  /-- The runs of a session, oldest first. -/
  runsBySession : SessionID → List RunID
  runIdempotency : Table IdempotencyKey RunID
  attempts : Table AttemptID Attempt
  artifactManifests : Table ArtifactManifestID ArtifactManifest
  dispatchOutbox : Table DispatchOutboxID DispatchOutbox
  quotaReservations : Table QuotaReservationID QuotaReservation
  schedulerSlots : Table SubscriptionConnectionID SubscriptionSchedulerSlot
  subscriptionEntitlements : Table SubscriptionConnectionID EntitlementState
  schedulerCounters : Option SchedulerCounters
  leaseHeads : Table RunID LeaseHead
  runFinalizations : Table RunID RunFinalization

def State.empty (tenantID : TenantID) : State :=
  { tenantID, memberships := fun _ => none, sessions := fun _ => none, sessionParticipants := fun _ => none
    frontendBindings := fun _ => none, frontendBindingKeys := fun _ => none, sessionEvents := fun _ => none
    sessionEventIdempotency := fun _ => none, materialCurrent := fun _ => none, materialBoundaries := fun _ => none
    sessionDeletions := fun _ => none, sessionLegalHolds := fun _ => none, sessionAPIMutations := fun _ => none
    ingressIdempotency := fun _ => none, runs := fun _ => none, runsBySession := fun _ => []
    runIdempotency := fun _ => none, attempts := fun _ => none, artifactManifests := fun _ => none, dispatchOutbox := fun _ => none, quotaReservations := fun _ => none
    schedulerSlots := fun _ => none, subscriptionEntitlements := fun _ => none, schedulerCounters := none
    leaseHeads := fun _ => none, runFinalizations := fun _ => none }

/-! ## Statements -/

/-- `INSERT INTO`: the key must be free. -/
def insertRow {K V : Type} [DecidableEq K] (name : String) (table : Table K V) (key : K) (row : V) :
    Except StoreError (Table K V) :=
  if (table key).isSome then .error (.duplicateKey name) else .ok (table.upsert key row)

theorem insertRow_ok {K V : Type} [DecidableEq K] {name} {table table' : Table K V} {key row} :
    insertRow name table key row = .ok table' ↔ table key = none ∧ table.upsert key row = table' := by
  simp [insertRow]

def requireRow {V : Type} (row : Option V) (missing : StoreError) : Except StoreError V :=
  match row with
  | some value => .ok value
  | none => .error missing

@[simp] theorem requireRow_ok {V : Type} {row : Option V} {missing : StoreError} {value : V} :
    requireRow row missing = .ok value ↔ row = some value := by
  cases row <;> simp [requireRow]

end Sessionless.Store
