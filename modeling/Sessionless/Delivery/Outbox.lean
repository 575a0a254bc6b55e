import Sessionless.Store.Base

/-!
# The Telegram delivery outbox

One row of `telegram_delivery_outbox` and the two transactions that move it, `ClaimTelegramDelivery` and
`TransitionTelegramDelivery`. What the delivery says never changes after the row is written, so of `ValidateForRun`
only the checks on status and times are kept.
-/

namespace Sessionless.Delivery

open Lib Store

abbrev TelegramDeliveryID := String

inductive DeliveryStatus where
  | pending | sending | retryWait | sent | failed | cancelled
deriving DecidableEq, Repr

def DeliveryStatus.terminal : DeliveryStatus → Bool
  | .sent | .failed | .cancelled => true
  | _ => false

def canTransitionDelivery : DeliveryStatus → DeliveryStatus → Bool
  | .pending, target => target = .sending ∨ target = .cancelled
  | .sending, target => target = .sent ∨ target = .retryWait ∨ target = .failed ∨ target = .cancelled
  | .retryWait, target => target = .sending ∨ target = .failed ∨ target = .cancelled
  | _, _ => false

structure TelegramDeliveryOutbox where
  id : TelegramDeliveryID
  /-- The frontend projection the delivery was made from, by its identifier. -/
  projection : Option String
  status : DeliveryStatus
  attemptCount : UInt32
  nextAttemptAt : Option Int
  createdAt : Int
  updatedAt : Int
deriving DecidableEq, Repr

namespace TelegramDeliveryOutbox

def validateForRun (delivery : TelegramDeliveryOutbox) : Except StoreError Unit :=
  if delivery.status = .retryWait ∧ delivery.nextAttemptAt = none then
    .error (.validation "telegram_delivery.next_attempt_at" "is required while waiting to retry")
  else if delivery.status ≠ .retryWait ∧ delivery.nextAttemptAt ≠ none then
    .error (.validation "telegram_delivery.next_attempt_at" "is allowed only while waiting to retry")
  else if delivery.createdAt = 0 ∨ delivery.updatedAt < delivery.createdAt then
    .error (.validation "telegram_delivery.updated_at" "must not be before a non-zero created_at")
  else .ok ()

def transition (delivery : TelegramDeliveryOutbox) (target : DeliveryStatus) (instant : Int) (retryAt : Option Int) :
    Except StoreError TelegramDeliveryOutbox :=
  if ¬ canTransitionDelivery delivery.status target then
    .error (.validation "telegram_delivery.status" "transition is not allowed")
  else if instant < delivery.updatedAt then
    .error (.validation "telegram_delivery.updated_at" "transition time must not move backwards")
  else if target = .retryWait ∧ ¬ ∃ retry ∈ retryAt, instant < retry then
    .error (.validation "telegram_delivery.next_attempt_at" "must be after the transition time")
  else .ok { delivery with
    status := target
    nextAttemptAt := if target = .retryWait then retryAt else none
    attemptCount := if target = .sending then delivery.attemptCount + 1 else delivery.attemptCount
    updatedAt := instant }

end TelegramDeliveryOutbox

def telegramDeliveryClaimTimeout : Int := 2 * minute

abbrev Deliveries := Table TelegramDeliveryID TelegramDeliveryOutbox

def putTelegramDeliveryOutbox (deliveries : Deliveries) (delivery : TelegramDeliveryOutbox) :
    Except StoreError Deliveries := do
  delivery.validateForRun
  return deliveries.upsert delivery.id delivery

/-- What a claim answers: the row as it is now, if the answer carries one, and whether the caller holds it. -/
structure ClaimAnswer where
  delivery : Option TelegramDeliveryOutbox
  claimed : Bool
deriving DecidableEq, Repr

def claimWaiting (deliveries : Deliveries) (delivery : TelegramDeliveryOutbox) (instant : Int) :
    Except StoreError (ClaimAnswer × Deliveries) :=
  if ∃ next ∈ delivery.nextAttemptAt, instant < next then .ok (⟨none, false⟩, deliveries)
  else do
    let delivery ← delivery.transition .sending instant none
    let deliveries ← putTelegramDeliveryOutbox deliveries delivery
    return (⟨some delivery, true⟩, deliveries)

def claimSending (deliveries : Deliveries) (delivery : TelegramDeliveryOutbox) (instant : Int) :
    Except StoreError (ClaimAnswer × Deliveries) :=
  if instant < delivery.updatedAt + telegramDeliveryClaimTimeout then .ok (⟨none, false⟩, deliveries)
  else do
    let delivery := { delivery with attemptCount := delivery.attemptCount + 1, updatedAt := instant }
    let deliveries ← putTelegramDeliveryOutbox deliveries delivery
    return (⟨some delivery, true⟩, deliveries)

/-- A projected delivery that may no longer be sent is cancelled instead of claimed. -/
def cancelUnauthorized (deliveries : Deliveries) (delivery : TelegramDeliveryOutbox) (instant : Int) :
    Except StoreError (ClaimAnswer × Deliveries) :=
  if delivery.status.terminal then .ok (⟨some delivery, false⟩, deliveries)
  else do
    let delivery ← delivery.transition .cancelled instant none
    let deliveries ← putTelegramDeliveryOutbox deliveries delivery
    return (⟨some delivery, false⟩, deliveries)

/-- `ClaimTelegramDelivery`. `terminalCode` is what `authorizeTelegramProjectionDeliveryTx` reads off the frontend
binding of a projected delivery: present when the delivery may no longer be sent. -/
def claimTelegramDelivery (deliveries : Deliveries) (deliveryId : TelegramDeliveryID) (instant : Int)
    (terminalCode : Option String) : Except StoreError (ClaimAnswer × Deliveries) :=
  if instant = 0 then .error (.validation "Telegram delivery claim time" "must not be zero")
  else match deliveries deliveryId with
  | none => .ok (⟨none, false⟩, deliveries)
  | some delivery =>
    if delivery.projection.isSome ∧ terminalCode.isSome then cancelUnauthorized deliveries delivery instant
    else match delivery.status with
    | .pending | .retryWait => claimWaiting deliveries delivery instant
    | .sending => claimSending deliveries delivery instant
    | .sent | .failed | .cancelled => .ok (⟨none, false⟩, deliveries)

def transitionTelegramDelivery (deliveries : Deliveries) (deliveryId : TelegramDeliveryID) (target : DeliveryStatus)
    (instant : Int) (retryAt : Option Int) : Except StoreError Deliveries :=
  match deliveries deliveryId with
  | none => .error (.missing "Telegram delivery" deliveryId)
  | some delivery =>
    if delivery.status = target then .ok deliveries
    else do
      let delivery ← delivery.transition target instant retryAt
      putTelegramDeliveryOutbox deliveries delivery

end Sessionless.Delivery
