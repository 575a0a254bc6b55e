import Sessionless.Spending.Accounting

/-!
# Consent states and what they reserve

At most two requests per attempt are kept beside the accounting. A new request reserves room for
itself, for its decision and for its arguments in the same aggregate that operations draw on;
a request that is kept already reserves nothing.
-/

namespace Sessionless.Spending

open Store

structure OwnedConsentStates where
  version : Nat
  parentDigest : String
  states : List WebSearchConsentStateV1
deriving DecidableEq, Repr

def ownedAuthorityHeadBytes : Nat := 32768

def ownedConsentMetadataReservationBytes : UInt64 := 65536

/-- What the arguments of a request reserve on top, and the record of the request and of its decision. -/
def consentReservation (request : WebSearchConsentRequestV1) : UInt64 :=
  ownedConsentMetadataReservationBytes + UInt64.ofNat request.arguments.size.toNat

section

variable [Protocol.Crypto]

/-- The later request of two kept ones has nothing of the earlier one but the user. -/
def consentConflicts (previous request : WebSearchConsentRequestV1) : Bool :=
  previous.id = request.id ∨ previous.callID = request.callID ∨ previous.argumentsDigest = request.argumentsDigest ∨
    previous.queryDigest = request.queryDigest ∨ previous.initiatingUserID ≠ request.initiatingUserID

/-- The loop of `validate` over the states: those walked before, and the number of pending ones. -/
def validateConsentStates (parent : OwnedAttemptEffectParentV1) (now : Int) :
    List WebSearchConsentStateV1 → Nat → List WebSearchConsentStateV1 → Except StoreError Unit
  | _, pending, [] => if pending > 1 then .error .membershipDenied else .ok ()
  | earlier, pending, state :: rest =>
    if ¬ state.validate.isOk ∨ state.request.scope ≠ parent.consentScope ∨ ¬ ownedEffectTime state.request.createdAt ∨
        ¬ ownedEffectTime state.request.expiresAt ∨ ¬ ownedEffectTime state.updatedAt ∨ now < state.updatedAt ∨
        state.request.createdAt < parent.reservedAt ∨ parent.invocationDeadline < state.request.expiresAt ∨
        earlier.any (fun previous => consentConflicts previous.request state.request) then .error .membershipDenied
    else validateConsentStates parent now (earlier ++ [state]) (if state.status = .pending then pending + 1 else pending) rest

def OwnedConsentStates.validate (v : OwnedConsentStates) (parent : OwnedAttemptEffectParentV1) (now : Int) :
    Except StoreError Unit := do
  let digest ← parent.digest.mapError fun _ => .membershipDenied
  if parent.policy.isNone ∨ v.version ≠ 1 ∨ v.parentDigest ≠ digest ∨ v.states = [] ∨ v.states.length > 2 ∨
      ¬ ownedEffectTime now then .error .membershipDenied else
  validateConsentStates parent now [] 0 v.states

/-- `ownedConsentBytes`, for the length of the JSON text of the record. -/
def checkConsentBytes (encodedLength : OwnedConsentStates → Nat) (v : OwnedConsentStates) (parent : OwnedAttemptEffectParentV1)
    (now : Int) : Except StoreError Unit := do
  v.validate parent now
  if encodedLength v > ownedAuthorityHeadBytes then .error .membershipDenied else .ok ()

def digestOrEmpty (request : WebSearchConsentRequestV1) : String := request.digest.toOption.getD ""

/-- A request that is not kept yet: its state is appended and its room is reserved. -/
def appendFreshConsent (encodedLength : OwnedConsentStates → Nat) (value : OwnedConsentStates)
    (accounting : OwnedAttemptAccounting) (parent : OwnedAttemptEffectParentV1) (policy : AgentLoopPolicyV1)
    (request : WebSearchConsentRequestV1) (now : Int) :
    Except StoreError (OwnedConsentStates × OwnedAttemptAccounting × Bool) := do
  let limit := policy.limits.maxAggregateBodyBytes
  if accounting.aggregate.counter .bodyBytes > limit then .error .membershipDenied else
  let remaining := limit - accounting.aggregate.counter .bodyBytes
  if ¬ (validateWebSearchConsentAppend value.states request (4 - 2 * value.states.length) remaining).isOk ∨
      remaining < ownedConsentMetadataReservationBytes ∨
      UInt64.ofNat request.arguments.size.toNat > remaining - ownedConsentMetadataReservationBytes then
    .error .membershipDenied else
  let aggregate ← (accounting.aggregate.add (.ofBodyBytes (consentReservation request))).mapError fun _ => .membershipDenied
  (aggregate.validateForPolicy policy).mapError fun _ => .membershipDenied
  let next := { value with states := value.states ++ [⟨request, 1, .pending, none, request.createdAt⟩] }
  checkConsentBytes encodedLength next parent now
  .ok (next, { accounting with aggregate := aggregate, updatedAt := now }, true)

/-- The states and the accounting after a request, and whether anything was appended. -/
def appendOwnedConsentState (encodedLength : OwnedConsentStates → Nat) (old : Option OwnedConsentStates)
    (accounting : OwnedAttemptAccounting) (parent : OwnedAttemptEffectParentV1) (request : WebSearchConsentRequestV1)
    (now : Int) : Except StoreError (OwnedConsentStates × OwnedAttemptAccounting × Bool) := do
  let digest ← parent.digest.mapError fun _ => .membershipDenied
  match parent.policy with
  | none => .error .membershipDenied
  | some policy => do
    if accounting.parentDigest ≠ digest ∨ ¬ (accounting.aggregate.validateForPolicy policy).isOk ∨ ¬ request.validate.isOk ∨
        request.scope ≠ parent.consentScope ∨ now < request.createdAt ∨ request.expiresAt ≤ now then
      .error .membershipDenied else
    match old with
    | none => appendFreshConsent encodedLength ⟨1, digest, []⟩ accounting parent policy request now
    | some old => do
      old.validate parent now
      let value : OwnedConsentStates := ⟨1, digest, old.states⟩
      match old.states.find? (·.request.id = request.id) with
      | some state =>
        if digestOrEmpty request ≠ digestOrEmpty state.request then .error .membershipDenied
        else .ok (value, accounting, false)
      | none => appendFreshConsent encodedLength value accounting parent policy request now

/-- `replaceOwnedConsentState`: a decision or a stop of a kept request, in place. -/
def replaceState (previous next : WebSearchConsentStateV1) : Except StoreError WebSearchConsentStateV1 :=
  if previous.request.id ≠ next.request.id ∨ previous = next then .ok previous
  else if digestOrEmpty previous.request ≠ digestOrEmpty next.request ∨ next.revision ≠ previous.revision + 1 ∨
      next.updatedAt < previous.updatedAt ∨ previous.status ≠ .pending ∧ previous.status ≠ .approved ∨
      next.status = .pending then .error .membershipDenied
  else if previous.decision.any (fun decision => ¬ next.decision.any (fun later =>
      (decision.digest.toOption.getD "") = later.digest.toOption.getD "")) then .error .membershipDenied
  else .ok next

def replaceOwnedConsentState (old : OwnedConsentStates) (next : WebSearchConsentStateV1) (parent : OwnedAttemptEffectParentV1)
    (now : Int) : Except StoreError OwnedConsentStates := do
  old.validate parent now
  if ¬ next.validate.isOk then .error .membershipDenied else
  let states ← old.states.mapM (replaceState · next)
  if ¬ old.states.any (·.request.id = next.request.id) then .error .membershipDenied else
  let value : OwnedConsentStates := ⟨old.version, old.parentDigest, states⟩
  value.validate parent now
  .ok value

end

end Sessionless.Spending
