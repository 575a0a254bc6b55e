import Mathlib.Data.List.Sort
import Sessionless.Delivery.ReadyIndex

/-!
# The delivery loop of a pass

The second half of `RunOnce` goes through the sixteen buckets, lists the ready deliveries of each and claims and sends
them one by one. It returns at the first claim or outcome that fails, unlike the loop over projections before it.
-/

namespace Sessionless.Delivery

open Store Protocol

/-- `ORDER BY available_at, tenant_id, telegram_delivery_id`. -/
def ReadyRow.notAfter (row other : ReadyRow) : Prop :=
  row.availableAt < other.availableAt ∨ row.availableAt = other.availableAt ∧
    (row.tenantID < other.tenantID ∨ row.tenantID = other.tenantID ∧ row.deliveryID ≤ other.deliveryID)

instance : DecidableRel ReadyRow.notAfter := fun _ _ => inferInstanceAs (Decidable (_ ∨ _ ∧ (_ ∨ _ ∧ _)))

/-- The rows of a bucket that are due, in the order of the index. -/
def Database.dueRows (db : Database) (bucket : Nat) (before : Int) : List ReadyRow :=
  (db.ready.filter fun row => row.bucket = bucket ∧ row.availableAt ≤ timestamp before).insertionSort ReadyRow.notAfter

def Database.listReadyTelegramDeliveries (db : Database) (bucket : Nat) (before : Int) (limit : Nat) :
    Except StoreError (List ReadyRow) :=
  if bucketCountV1 ≤ bucket then
    .error (.validation "Telegram delivery bucket" "must be within the v1 bucket range")
  else if before = 0 ∨ limit = 0 then
    .error (.validation "Telegram delivery listing" "requires a non-zero time and positive limit")
  else .ok ((db.dueRows bucket before).take limit)

/-- How far a pass has come: the claims it has called, in order, and the error it returned with. -/
structure Progress where
  db : Database
  called : List (TenantID × TelegramDeliveryID)
  processed : Nat
  failure : Option StoreError

section

variable [Crypto]

/-- `send` and `fail` over the tables, after the client answered. -/
def Database.recordOutcome (config : SenderConfig) (db : Database) (record : DeliveryRecord) (now : Int) (sent : Bool) :
    Except StoreError Database :=
  if sent then db.transitionTelegramDelivery record.tenantID record.id .sent now none
  else if config.maxAttempts ≤ record.attemptCount then
    db.transitionTelegramDelivery record.tenantID record.id .failed now none
  else
    db.transitionTelegramDelivery record.tenantID record.id .retryWait now (some (now + config.backoff record.attemptCount))

/-- One turn of the inner loop. `sends` says whether the client sends a delivery. -/
def deliverOne (config : SenderConfig) (now : Int) (sends : DeliveryRecord → Bool) (p : Progress) (row : ReadyRow) : Progress :=
  if p.failure.isSome then p
  else
    let called := p.called ++ [(row.tenantID, row.deliveryID)]
    match p.db.claimTelegramDelivery row.tenantID row.deliveryID now with
    | .error failure => { p with called, failure := some failure }
    | .ok (some record, true, db) =>
      match db.recordOutcome config record now (sends record) with
      | .error failure => { db, called, processed := p.processed + 1, failure := some failure }
      | .ok db => { db, called, processed := p.processed + 1, failure := none }
    | .ok (_, _, db) => { p with db, called }

def deliverBucket (config : SenderConfig) (now : Int) (sends : DeliveryRecord → Bool) (limit : Nat) (p : Progress)
    (bucket : Nat) : Progress :=
  if p.failure.isSome then p
  else match p.db.listReadyTelegramDeliveries bucket now limit with
  | .error failure => { p with failure := some failure }
  | .ok rows => rows.foldl (deliverOne config now sends) p

/-- The delivery loop of `RunOnce`, from the database that the loop over projections left. -/
def deliverReady (config : SenderConfig) (now : Int) (sends : DeliveryRecord → Bool) (limit : Nat) (db : Database) : Progress :=
  (List.range bucketCountV1).foldl (deliverBucket config now sends limit) ⟨db, [], 0, none⟩

end

end Sessionless.Delivery
