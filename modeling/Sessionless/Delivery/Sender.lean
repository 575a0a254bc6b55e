import Sessionless.Delivery.Outbox
import Sessionless.Lib.Trace

/-!
# Senders

Any number of senders work on one outbox. A pass (`RunOnce` or `RunWake`) reads the clock once and uses that instant
for every claim and outcome. Between two transactions other senders run and time passes; a pass may stop anywhere.
-/

namespace Sessionless.Delivery

open Lib Store

abbrev SenderID := Nat

structure SenderConfig where
  maxAttempts : UInt32
  baseBackoff : Int
  maxBackoff : Int
deriving DecidableEq, Repr

/-- The loop of `backoff`: the delay doubles once per earlier attempt until it reaches the maximum. -/
def SenderConfig.doubled (config : SenderConfig) : Nat → Int → Int
  | 0, delay => delay
  | attempts + 1, delay => if delay < config.maxBackoff then config.doubled attempts (delay * 2) else delay

def SenderConfig.backoff (config : SenderConfig) (attempt : UInt32) : Int :=
  let delay := config.doubled (attempt.toNat - 1) config.baseBackoff
  if config.maxBackoff < delay then config.maxBackoff else delay

/-- `fail`: the retry time it answers, if there is one, and the outbox. -/
def fail (config : SenderConfig) (deliveries : Deliveries) (delivery : TelegramDeliveryOutbox) (now : Int) :
    Except StoreError (Option Int × Deliveries) :=
  if config.maxAttempts ≤ delivery.attemptCount then do
    let deliveries ← transitionTelegramDelivery deliveries delivery.id .failed now none
    return (none, deliveries)
  else do
    let retryAt := now + config.backoff delivery.attemptCount
    let deliveries ← transitionTelegramDelivery deliveries delivery.id .retryWait now (some retryAt)
    return (some retryAt, deliveries)

/-- `send`, after the client answered: `sent` says whether `client.Send` succeeded. -/
def send (config : SenderConfig) (deliveries : Deliveries) (delivery : TelegramDeliveryOutbox) (now : Int)
    (sent : Bool) : Except StoreError (Option Int × Deliveries) :=
  if sent then do
    let deliveries ← transitionTelegramDelivery deliveries delivery.id .sent now none
    return (none, deliveries)
  else fail config deliveries delivery now

/-- A running pass: the instant it read, and the delivery it has claimed and not yet recorded an outcome for. -/
structure Pass where
  now : Int
  sending : Option TelegramDeliveryOutbox
deriving DecidableEq, Repr

structure System where
  clock : Int
  deliveries : Deliveries
  passes : Table SenderID Pass

inductive Event where
  | quiet
  | claimed (sender : SenderID) (delivery : TelegramDeliveryID)
  | recorded (sender : SenderID) (delivery : TelegramDeliveryID)
deriving DecidableEq, Repr

inductive Step (config : SenderConfig) : System → Event → System → Prop where
  | tick {s : System} {clock : Int} (h : s.clock ≤ clock) : Step config s .quiet { s with clock := clock }
  /-- A delivery is written once: a projection is deleted when its delivery is made, and a run finishes once. -/
  | created {s : System} {delivery : TelegramDeliveryOutbox} {deliveries : Deliveries}
      (habsent : s.deliveries delivery.id = none) (hpending : delivery.status = .pending)
      (h : putTelegramDeliveryOutbox s.deliveries delivery = .ok deliveries) :
      Step config s .quiet { s with deliveries := deliveries }
  | started {s : System} (sender : SenderID) :
      Step config s .quiet { s with passes := s.passes.upsert sender ⟨s.clock, none⟩ }
  | stopped {s : System} (sender : SenderID) : Step config s .quiet { s with passes := s.passes.delete sender }
  | claimed {s : System} {sender : SenderID} {pass : Pass} {id : TelegramDeliveryID} {terminalCode : Option String}
      {delivery : TelegramDeliveryOutbox} {deliveries : Deliveries} (hpass : s.passes sender = some pass)
      (hidle : pass.sending = none)
      (h : claimTelegramDelivery s.deliveries id pass.now terminalCode = .ok (⟨some delivery, true⟩, deliveries)) :
      Step config s (.claimed sender id)
        { s with deliveries := deliveries, passes := s.passes.upsert sender { pass with sending := some delivery } }
  | passedOver {s : System} {sender : SenderID} {pass : Pass} {id : TelegramDeliveryID} {terminalCode : Option String}
      {row : Option TelegramDeliveryOutbox} {deliveries : Deliveries} (hpass : s.passes sender = some pass)
      (hidle : pass.sending = none)
      (h : claimTelegramDelivery s.deliveries id pass.now terminalCode = .ok (⟨row, false⟩, deliveries)) :
      Step config s .quiet { s with deliveries := deliveries }
  | recorded {s : System} {sender : SenderID} {pass : Pass} {delivery : TelegramDeliveryOutbox} {sent : Bool}
      {retryAt : Option Int} {deliveries : Deliveries} (hpass : s.passes sender = some pass)
      (hsending : pass.sending = some delivery)
      (h : send config s.deliveries delivery pass.now sent = .ok (retryAt, deliveries)) :
      Step config s (.recorded sender delivery.id)
        { s with deliveries := deliveries, passes := s.passes.upsert sender { pass with sending := none } }
  /-- The outcome could not be written; the pass goes on without it. -/
  | unrecorded {s : System} {sender : SenderID} {pass : Pass} (hpass : s.passes sender = some pass) :
      Step config s .quiet { s with passes := s.passes.upsert sender { pass with sending := none } }

/-- No pass is running, and the outbox holds rows as `PutTelegramDeliveryOutbox` writes them. -/
structure System.Initial (s : System) : Prop where
  clock : 0 < s.clock
  passes : ∀ sender, s.passes sender = none
  key : ∀ id row, s.deliveries id = some row → row.id = id
  valid : ∀ id row, s.deliveries id = some row → row.validateForRun = .ok ()
  retry : ∀ id row, s.deliveries id = some row → ∀ next ∈ row.nextAttemptAt, row.updatedAt < next

end Sessionless.Delivery
