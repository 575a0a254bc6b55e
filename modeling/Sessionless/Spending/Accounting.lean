import Sessionless.Spending.Request

/-!
# The accounting of an owned attempt

One record per attempt adds up what its operations and its consent requests reserve. Setup reserves
the whole amount of the substrate; every later step is checked against the amounts admitted for each
component and against the limits of the policy.
-/

namespace Sessionless.Spending

open Lib Store

/-! ## What was admitted -/

/-- The components of an admission, in the order of its spending list. -/
inductive Component where
  | provider
  | substrate
  | mcpTool
  | webSearch
deriving DecidableEq, Repr

namespace Component

def all : List Component := [provider, substrate, mcpTool, webSearch]

def index : Component → Nat
  | provider => 0
  | substrate => 1
  | mcpTool => 2
  | webSearch => 3

theorem mem_all (component : Component) : component ∈ all := by
  cases component <;> simp [all]

end Component

inductive AgentLoopProfileV1 where
  | ownedPublic
  | ownedLocalText
  | other (text : String)
deriving DecidableEq, Repr

def ownedSpendingComponents : AgentLoopProfileV1 → List Component
  | .ownedPublic => [.provider, .substrate, .mcpTool, .webSearch]
  | .ownedLocalText => [.provider, .substrate]
  | .other _ => []

structure SpendingAuthorization where
  componentKind : Component
  maxAmountMicrounits : Option UInt64
deriving DecidableEq, Repr

/-- The admitted source. `identified` is the outcome of the checks on its scope, its profile, its window and the
locators of its allocations, which the accounting does not touch. -/
structure AttemptExecutionSourceV1 where
  identified : Bool
  profile : AgentLoopProfileV1
  spending : List SpendingAuthorization
  maxTotalAmountMicrounits : UInt64
deriving DecidableEq, Repr

def admissionError (field reason : String) : StoreError := .validation ("attempt_execution_admission." ++ field) reason

/-- The loop of `AttemptExecutionSourceV1.Validate` over its allocations. -/
def sumSpending : List (SpendingAuthorization × Component) → UInt64 → Except StoreError UInt64
  | [], total => .ok total
  | (allocation, kind) :: rest, total =>
    match allocation.maxAmountMicrounits with
    | none => .error (admissionError "spending"
        "requires exactly four ordered original same-scope/profile/payer known allocations")
    | some amount =>
      if allocation.componentKind ≠ kind then .error (admissionError "spending"
        "requires exactly four ordered original same-scope/profile/payer known allocations")
      else if amount > maxUint64 - total then
        .error (admissionError "total" "component authorization sum must not overflow")
      else sumSpending rest (total + amount)

def AttemptExecutionSourceV1.validate (source : AttemptExecutionSourceV1) : Except StoreError Unit := do
  if ¬ source.identified then
    .error (admissionError "identity" "requires exact scope, original profile and finite microsecond window") else
  if ownedSpendingComponents source.profile = [] ∨
      source.spending.length ≠ (ownedSpendingComponents source.profile).length then
    .error (admissionError "spending" "requires exactly the actual ordered allocations selected by the sealed profile") else
  let total ← sumSpending (source.spending.zip (ownedSpendingComponents source.profile)) 0
  if total ≠ source.maxTotalAmountMicrounits then
    .error (admissionError "total" "must equal the checked sum of original component allocations") else .ok ()

/-- The ceiling of a component: `none` when the list has no such component, `some none` when its amount is unknown. -/
def AttemptExecutionSourceV1.ceiling (source : AttemptExecutionSourceV1) (component : Component) : Option (Option UInt64) :=
  source.spending[component.index]?.map (·.maxAmountMicrounits)

/-- The parent the accounting belongs to. `digest` is what `parent.Digest()` returns, `consentScope` the scope every
consent request of the attempt names. -/
structure OwnedAttemptEffectParentV1 where
  digest : Except StoreError String
  reservedAt : Int
  preparationExpiresAt : Int
  invocationDeadline : Int
  policy : Option AgentLoopPolicyV1
  mcpToolCost : Bool
  webSearchCost : Bool
  consentScope : WebSearchConsentScopeV1

/-- `ownedEffectTime`: a time of the years 1 to 9999, in whole microseconds. -/
def ownedEffectTime (time : Int) : Bool := time ≠ 0 ∧ 1 ≤ yearOf time ∧ yearOf time ≤ 9999 ∧ time % 1000 = 0

/-! ## The record -/

structure OwnedAttemptAccounting where
  version : Nat
  parentDigest : String
  setupReservedAt : Int
  aggregate : AttemptOperationDebitV1
  amounts : Component → UInt64
  updatedAt : Int

/-- The loop of `validate` over the amounts: the total, and the total of what operations reserved. -/
def sumAmounts (source : AttemptExecutionSourceV1) (amounts : Component → UInt64) :
    List Component → UInt64 → UInt64 → Except StoreError (UInt64 × UInt64)
  | [], total, operations => .ok (total, operations)
  | component :: rest, total, operations =>
    match source.ceiling component with
    | none => if amounts component ≠ 0 then .error .membershipDenied else sumAmounts source amounts rest total operations
    | some none => .error .membershipDenied
    | some (some ceiling) =>
      if amounts component > ceiling ∨ amounts component > maxUint64 - total then .error .membershipDenied
      else if component = .substrate then sumAmounts source amounts rest (total + amounts component) operations
      else if amounts component > maxUint64 - operations then .error .membershipDenied
      else sumAmounts source amounts rest (total + amounts component) (operations + amounts component)

namespace OwnedAttemptAccounting

def validate (v : OwnedAttemptAccounting) (parent : OwnedAttemptEffectParentV1) (source : AttemptExecutionSourceV1)
    (now : Int) : Except StoreError Unit := do
  let digest ← parent.digest.mapError fun _ => .membershipDenied
  if v.version ≠ 1 ∨ v.parentDigest ≠ digest ∨ ¬ ownedEffectTime v.setupReservedAt ∨ v.setupReservedAt < parent.reservedAt ∨
      parent.preparationExpiresAt ≤ v.setupReservedAt ∨ ¬ ownedEffectTime v.updatedAt ∨ v.updatedAt < v.setupReservedAt ∨
      now < v.updatedAt ∨ ¬ source.validate.isOk then .error .membershipDenied else
  match parent.policy with
  | none => .error .membershipDenied
  | some policy => do
    (v.aggregate.validateForPolicy policy).mapError fun _ => .membershipDenied
    let (total, operations) ← sumAmounts source v.amounts Component.all 0 0
    if some (some (v.amounts .substrate)) ≠ source.ceiling .substrate ∨ total > source.maxTotalAmountMicrounits ∨
        operations ≠ v.aggregate.counter .amountMicrounits then .error .membershipDenied else .ok ()

end OwnedAttemptAccounting

/-- Room for the canonical bytes of the grants of the two external services. -/
def ownedSetupBodyBytes (parent : OwnedAttemptEffectParentV1) : UInt64 :=
  (if parent.mcpToolCost then 4096 else 0) + if parent.webSearchCost then 4096 else 0

/-- The record that `reserveOwnedSetupAccounting` writes. -/
def setupAccounting (parent : OwnedAttemptEffectParentV1) (source : AttemptExecutionSourceV1) (now : Int) :
    Except StoreError OwnedAttemptAccounting := do
  let digest ← parent.digest.mapError fun _ => .membershipDenied
  match source.ceiling .substrate with
  | some (some substrate) =>
    .ok { version := 1, parentDigest := digest, setupReservedAt := now, updatedAt := now
          aggregate := .ofBodyBytes (ownedSetupBodyBytes parent)
          amounts := Function.update (fun _ => 0) .substrate substrate }
  | _ => .error .membershipDenied

def AttemptOperationKindV1.component : AttemptOperationKindV1 → Option Component
  | .model => some .provider
  | .compaction => some .provider
  | .mcpTool => some .mcpTool
  | .webSearch => some .webSearch
  | .other _ => none

def debitOwnedOperation (value : OwnedAttemptAccounting) (operation : AttemptOperationV1) (parent : OwnedAttemptEffectParentV1)
    (source : AttemptExecutionSourceV1) (now : Int) : Except StoreError OwnedAttemptAccounting :=
  match operation.kind.component with
  | none => .error .membershipDenied
  | some component =>
    match source.ceiling component with
    | some (some ceiling) => do
      if operation.debit.counter .amountMicrounits > ceiling ∨
          component ≠ .provider ∧ operation.debit.counter .amountMicrounits ≠ ceiling ∨
          operation.sequence ≠ value.aggregate.counter .operations + 1 ∨
          value.amounts component > maxUint64 - operation.debit.counter .amountMicrounits then .error .membershipDenied else
      let aggregate ← (value.aggregate.add operation.debit).mapError fun _ => .membershipDenied
      let next :=
        { value with
          aggregate := aggregate
          amounts := Function.update value.amounts component
            (value.amounts component + operation.debit.counter .amountMicrounits)
          updatedAt := now }
      next.validate parent source now
      .ok next
    | _ => .error .membershipDenied

/-! ## What the checks say -/

theorem mapError_eq_ok {α : Type} {ε ε' : Type} {r : Except ε α} {f : ε → ε'} {a} :
    r.mapError f = .ok a ↔ r = .ok a := by
  cases r <;> simp [Except.mapError]

structure OwnedAttemptAccounting.Bounded (v : OwnedAttemptAccounting) (policy : AgentLoopPolicyV1)
    (source : AttemptExecutionSourceV1) : Prop where
  within : v.aggregate.Within policy
  substrate : source.ceiling .substrate = some (some (v.amounts .substrate))
  ceilings : ∀ component, (∃ ceiling, source.ceiling component = some (some ceiling) ∧ v.amounts component ≤ ceiling) ∨
    source.ceiling component = none ∧ v.amounts component = 0
  total : (Component.all.map fun component => (v.amounts component).toNat).sum ≤ source.maxTotalAmountMicrounits.toNat

theorem sumAmounts_ok {source} {amounts : Component → UInt64} {components total operations total' operations'}
    (h : sumAmounts source amounts components total operations = .ok (total', operations')) :
    total'.toNat = total.toNat + (components.map fun component => (amounts component).toNat).sum ∧
      ∀ component ∈ components, (∃ ceiling, source.ceiling component = some (some ceiling) ∧ amounts component ≤ ceiling) ∨
        source.ceiling component = none ∧ amounts component = 0 := by
  induction components generalizing total operations with
  | nil =>
    simp only [sumAmounts, Except.ok.injEq, Prod.mk.injEq] at h
    simp [h.1]
  | cons component rest ih =>
    simp only [sumAmounts] at h
    cases hceiling : source.ceiling component with
    | none =>
      simp only [hceiling, ite_error_eq_ok, Decidable.not_not] at h
      obtain ⟨hzero, hrest⟩ := h
      obtain ⟨hsum, hbounds⟩ := ih hrest
      refine ⟨by simp [hsum, hzero], ?_⟩
      intro other hmem
      cases List.mem_cons.mp hmem with
      | inl hself => exact .inr (hself ▸ ⟨hceiling, hzero⟩)
      | inr hother => exact hbounds other hother
    | some known =>
      cases known with
      | none => simp [hceiling] at h
      | some ceiling =>
        simp only [hceiling, ite_error_eq_ok, not_or] at h
        obtain ⟨⟨hle, hfits⟩, hrest⟩ := h
        have hadd := toNat_add_of_not_gt_right hfits
        have hnext : ∃ operations, sumAmounts source amounts rest (total + amounts component) operations =
            .ok (total', operations') := by
          split at hrest
          · exact ⟨_, hrest⟩
          · exact ⟨_, (ite_error_eq_ok.mp hrest).2⟩
        obtain ⟨operations'', hnext⟩ := hnext
        obtain ⟨hsum, hbounds⟩ := ih hnext
        refine ⟨by rw [hsum, hadd, List.map_cons, List.sum_cons, Nat.add_assoc], ?_⟩
        intro other hmem
        cases List.mem_cons.mp hmem with
        | inl hself => exact .inl (hself ▸ ⟨ceiling, hceiling, UInt64.not_lt.mp hle⟩)
        | inr hother => exact hbounds other hother

theorem OwnedAttemptAccounting.validate_ok {v : OwnedAttemptAccounting} {parent : OwnedAttemptEffectParentV1}
    {source now} (h : v.validate parent source now = .ok ()) :
    ∃ policy, parent.policy = some policy ∧ v.Bounded policy source := by
  simp only [OwnedAttemptAccounting.validate, bind_eq_ok, ite_error_eq_ok] at h
  obtain ⟨digest, _, _, h⟩ := h
  cases hpolicy : parent.policy with
  | none => simp [hpolicy] at h
  | some policy =>
    simp only [hpolicy, bind_eq_ok, exists_unit, mapError_eq_ok, Prod.exists, ite_error_eq_ok, not_or,
      Decidable.not_not] at h
    obtain ⟨hpolicyOk, total, operations, hsum, ⟨hsubstrate, htotal, _⟩, _⟩ := h
    obtain ⟨hexact, hbounds⟩ := sumAmounts_ok hsum
    have hle : total.toNat ≤ source.maxTotalAmountMicrounits.toNat := UInt64.le_iff_toNat_le.mp (UInt64.not_lt.mp htotal)
    refine ⟨policy, rfl, AttemptOperationDebitV1.validateForPolicy_ok hpolicyOk, hsubstrate.symm,
      fun component => hbounds component component.mem_all, ?_⟩
    rw [UInt64.toNat_zero, Nat.zero_add] at hexact
    omega

structure Debited (value next : OwnedAttemptAccounting) (operation : AttemptOperationV1) (component : Component) : Prop where
  paid : operation.kind.component = some component
  sequence : operation.sequence = value.aggregate.counter .operations + 1
  counters : ∀ counter, (next.aggregate.counter counter).toNat =
    (value.aggregate.counter counter).toNat + (operation.debit.counter counter).toNat
  duration : next.aggregate.activeDuration = value.aggregate.activeDuration + operation.debit.activeDuration
  amount : (next.amounts component).toNat = (value.amounts component).toNat + (operation.debit.counter .amountMicrounits).toNat
  others : ∀ other, other ≠ component → next.amounts other = value.amounts other

theorem debitOwnedOperation_ok {value next : OwnedAttemptAccounting} {operation parent source now}
    (h : debitOwnedOperation value operation parent source now = .ok next) :
    (∃ component, Debited value next operation component) ∧ next.validate parent source now = .ok () := by
  unfold debitOwnedOperation at h
  cases hpaid : operation.kind.component with
  | none => simp [hpaid] at h
  | some component =>
    rw [hpaid] at h
    dsimp only at h
    split at h
    case h_2 => cases h
    case h_1 ceiling _ =>
        simp only [ite_error_eq_ok, bind_eq_ok, exists_unit, mapError_eq_ok, Except.ok.injEq, not_or,
          Decidable.not_not] at h
        obtain ⟨⟨_, _, hsequence, hfits⟩, aggregate, hadd, hvalid, rfl⟩ := h
        obtain ⟨hcounters, hduration⟩ := AttemptOperationDebitV1.add_ok hadd
        refine ⟨⟨component, hpaid, hsequence, hcounters, hduration, ?_, ?_⟩, hvalid⟩
        · simp only [Function.update_self]
          exact toNat_add_of_not_gt hfits
        · intro other hother
          exact Function.update_of_ne hother ..

end Sessionless.Spending
