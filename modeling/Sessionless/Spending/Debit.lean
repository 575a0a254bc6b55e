import Sessionless.Lib.Calendar
import Sessionless.Store.Blob

/-!
# Debits of an attempt

A debit reserves fourteen counters and a duration at their worst case. Adding one checks each
counter against overflow first; the limits of the policy are checked on the sum.
-/

namespace Sessionless.Spending

open Lib Store

def operationError (field reason : String) : StoreError := .validation ("attempt_operation." ++ field) reason

def maxUint64 : UInt64 := 0xFFFFFFFFFFFFFFFF

def maxInt64 : Int := 0x7FFFFFFFFFFFFFFF

/-! ## Counters -/

inductive Counter where
  | operations
  | modelCalls
  | compactionCalls
  | toolDispatches
  | webSearches
  | inputTokens
  | outputTokens
  | bodyBytes
  | mcpOutboundMessages
  | mcpCatalogPages
  | mcpInboundFrames
  | mcpInboundBytes
  | responseBytes
  | amountMicrounits
deriving DecidableEq, Repr

namespace Counter

/-- The order in which the source walks them. -/
def all : List Counter :=
  [operations, modelCalls, compactionCalls, toolDispatches, webSearches, inputTokens, outputTokens, bodyBytes,
    mcpOutboundMessages, mcpCatalogPages, mcpInboundFrames, mcpInboundBytes, responseBytes, amountMicrounits]

theorem mem_all (counter : Counter) : counter ∈ all := by
  cases counter <;> simp [all]

def name : Counter → String
  | operations => "operations"
  | modelCalls => "model_calls"
  | compactionCalls => "compaction_calls"
  | toolDispatches => "tool_dispatches"
  | webSearches => "web_searches"
  | inputTokens => "input_tokens"
  | outputTokens => "output_tokens"
  | bodyBytes => "body_bytes"
  | mcpOutboundMessages => "mcp_outbound_messages"
  | mcpCatalogPages => "mcp_catalog_pages"
  | mcpInboundFrames => "mcp_inbound_frames"
  | mcpInboundBytes => "mcp_inbound_bytes"
  | responseBytes => "response_bytes"
  | amountMicrounits => "amount_microunits"

end Counter

structure AttemptOperationDebitV1 where
  counter : Counter → UInt64
  activeDuration : Int

/-! ## The policy a debit is held to -/

inductive ProviderPriceStateV1 where
  | known
  | knownFree
  | unknown
deriving DecidableEq, Repr

inductive CostEvidenceStateV1 where
  | known
  | unknown
deriving DecidableEq, Repr

structure AdmissionCostCeilingV2 where
  maxIngressBytes : UInt64
  substratePriceState : CostEvidenceStateV1
  providerPriceState : ProviderPriceStateV1
  maxSubstrateAmountMicrounits : Option UInt64
  maxTotalAmountMicrounits : Option UInt64
deriving DecidableEq, Repr

structure AgentLoopLimitsV1 where
  maxModelCalls : UInt64
  maxCompactionCalls : UInt64
  maxToolDispatches : UInt64
  maxWebSearches : UInt64
  maxAggregateInputTokens : UInt64
  maxAggregateOutputTokens : UInt64
  maxActiveDuration : Int
  maxMCPOutboundMessages : UInt64
  maxMCPCatalogPages : UInt64
  maxMCPInboundFrames : UInt64
  maxMCPInboundBytes : UInt64
  maxOperations : UInt64
  maxAggregateBodyBytes : UInt64
deriving DecidableEq, Repr

/-- The policy sealed with the attempt. `sealed` is the outcome of `AgentLoopPolicyV1.Validate`, which reads the sealed
record only. -/
structure AgentLoopPolicyV1 where
  sealed : Except StoreError Unit
  limits : AgentLoopLimitsV1
  admissionCostCeiling : AdmissionCostCeilingV2

/-- The ceiling of each counter, for what the total leaves over the substrate. -/
def AgentLoopPolicyV1.limit (policy : AgentLoopPolicyV1) (total substrate : UInt64) : Counter → UInt64
  | .operations => policy.limits.maxOperations
  | .modelCalls => policy.limits.maxModelCalls
  | .compactionCalls => policy.limits.maxCompactionCalls
  | .toolDispatches => policy.limits.maxToolDispatches
  | .webSearches => policy.limits.maxWebSearches
  | .inputTokens => policy.limits.maxAggregateInputTokens
  | .outputTokens => policy.limits.maxAggregateOutputTokens
  | .bodyBytes => policy.limits.maxAggregateBodyBytes
  | .mcpOutboundMessages => policy.limits.maxMCPOutboundMessages
  | .mcpCatalogPages => policy.limits.maxMCPCatalogPages
  | .mcpInboundFrames => policy.limits.maxMCPInboundFrames
  | .mcpInboundBytes => policy.limits.maxMCPInboundBytes
  | .responseBytes => policy.admissionCostCeiling.maxIngressBytes
  | .amountMicrounits => total - substrate

namespace AttemptOperationDebitV1

def zero : AttemptOperationDebitV1 := ⟨fun _ => 0, 0⟩

/-- `AttemptOperationDebitV1{BodyBytes: n}`. -/
def ofBodyBytes (n : UInt64) : AttemptOperationDebitV1 := ⟨Function.update (fun _ => 0) .bodyBytes n, 0⟩

def add (v other : AttemptOperationDebitV1) : Except StoreError AttemptOperationDebitV1 :=
  if ∃ counter ∈ Counter.all, v.counter counter > maxUint64 - other.counter counter then
    .error (operationError "debit" "unsigned reservation overflow")
  else if v.activeDuration < 0 ∨ other.activeDuration < 0 ∨ v.activeDuration > maxInt64 - other.activeDuration then
    .error (operationError "debit.active_duration" "invalid or overflowing reservation")
  else .ok ⟨fun counter => v.counter counter + other.counter counter, v.activeDuration + other.activeDuration⟩

def validateForPolicy (v : AttemptOperationDebitV1) (policy : AgentLoopPolicyV1) : Except StoreError Unit := do
  policy.sealed
  match policy.admissionCostCeiling.maxTotalAmountMicrounits, policy.admissionCostCeiling.maxSubstrateAmountMicrounits with
  | some total, some substrate => do
    if policy.admissionCostCeiling.providerPriceState = .unknown ∨ policy.admissionCostCeiling.substratePriceState ≠ .known then
      .error (operationError "debit.price" "unknown cost cannot authorize a reservation") else
    if substrate > total then .error (operationError "debit.price" "substrate reservation exceeds total admission") else
    match Counter.all.find? fun counter => v.counter counter > policy.limit total substrate counter with
    | some counter => .error (operationError ("debit." ++ counter.name) "exceeds the admitted aggregate ceiling")
    | none =>
      if v.activeDuration < 0 ∨ v.activeDuration > policy.limits.maxActiveDuration then
        .error (operationError "debit.active_duration" "exceeds the admitted active-time ceiling") else
      if v.counter .compactionCalls > v.counter .modelCalls ∨ v.counter .webSearches > v.counter .toolDispatches ∨
          v.counter .modelCalls > v.counter .operations ∨
          v.counter .toolDispatches ≠ v.counter .operations - v.counter .modelCalls then
        .error (operationError "debit.calls" "sub-budgets must fit the exact operation count") else .ok ()
  | _, _ => .error (operationError "debit.price" "unknown cost cannot authorize a reservation")

end AttemptOperationDebitV1

/-! ## Exact sums -/

theorem toNat_add_of_not_gt {a b} (h : ¬ a > maxUint64 - b) : (a + b).toNat = a.toNat + b.toNat := by
  have hb : b.toNat ≤ maxUint64.toNat := Nat.le_of_lt_succ b.toNat_lt
  have hsub : (maxUint64 - b).toNat = maxUint64.toNat - b.toNat := UInt64.toNat_sub_of_le _ _ (UInt64.le_iff_toNat_le.mpr hb)
  have hle : a.toNat ≤ maxUint64.toNat - b.toNat := hsub ▸ Nat.not_lt.mp fun hlt => h (UInt64.lt_iff_toNat_lt.mpr hlt)
  have hmax : maxUint64.toNat = 18446744073709551615 := rfl
  rw [UInt64.toNat_add, Nat.mod_eq_of_lt (by omega)]

theorem toNat_add_of_not_gt_right {a b} (h : ¬ b > maxUint64 - a) : (a + b).toNat = a.toNat + b.toNat := by
  rw [UInt64.add_comm, toNat_add_of_not_gt h, Nat.add_comm]

namespace AttemptOperationDebitV1

theorem add_ok {v other sum : AttemptOperationDebitV1} (h : v.add other = .ok sum) :
    (∀ counter, (sum.counter counter).toNat = (v.counter counter).toNat + (other.counter counter).toNat) ∧
      sum.activeDuration = v.activeDuration + other.activeDuration := by
  simp only [add, ite_error_eq_ok, Except.ok.injEq] at h
  obtain ⟨hfits, _, rfl⟩ := h
  refine ⟨fun counter => toNat_add_of_not_gt fun hover => hfits ⟨counter, counter.mem_all, hover⟩, rfl⟩

/-- Each counter and the duration are within the limits of the policy. -/
structure Within (v : AttemptOperationDebitV1) (policy : AgentLoopPolicyV1) : Prop where
  counters : ∃ total substrate, policy.admissionCostCeiling.maxTotalAmountMicrounits = some total ∧
    policy.admissionCostCeiling.maxSubstrateAmountMicrounits = some substrate ∧ substrate ≤ total ∧
    ∀ counter, v.counter counter ≤ policy.limit total substrate counter
  duration : 0 ≤ v.activeDuration ∧ v.activeDuration ≤ policy.limits.maxActiveDuration

theorem validateForPolicy_ok {v : AttemptOperationDebitV1} {policy}
    (h : v.validateForPolicy policy = .ok ()) : v.Within policy := by
  simp only [validateForPolicy, bind_eq_ok, exists_unit] at h
  obtain ⟨_, h⟩ := h
  cases htotal : policy.admissionCostCeiling.maxTotalAmountMicrounits with
  | none => simp [htotal] at h
  | some total =>
    cases hsubstrate : policy.admissionCostCeiling.maxSubstrateAmountMicrounits with
    | none => simp [htotal, hsubstrate] at h
    | some substrate =>
      simp only [htotal, hsubstrate, ite_error_eq_ok] at h
      obtain ⟨_, hsub, h⟩ := h
      cases hfind : Counter.all.find? fun counter => v.counter counter > policy.limit total substrate counter with
      | some counter => simp [hfind] at h
      | none =>
        simp only [hfind, ite_error_eq_ok, not_or, Int.not_lt] at h
        obtain ⟨⟨hnonneg, hmax⟩, _⟩ := h
        refine ⟨⟨total, substrate, htotal, hsubstrate, UInt64.not_lt.mp hsub, fun counter => ?_⟩, hnonneg, by omega⟩
        have hnone := List.find?_eq_none.mp hfind counter counter.mem_all
        simpa using hnone

end AttemptOperationDebitV1

end Sessionless.Spending
