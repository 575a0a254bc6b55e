import Sessionless.Protocol.Reference
import Sessionless.Spending.Consent

/-!
# Spending is conserved

The steps that write the accounting of an attempt: setup, the reservation of an operation, a consent request and the
decision on one. Each is a transaction. The checks on the lease, the allocation, the proxy and the evidence can only
refuse a step and are left out.
-/

namespace Sessionless.Spending

open Lib Store

/-- An attempt: its parent, what was admitted for it and the length of the JSON text of its consent record. -/
structure Attempt where
  parent : OwnedAttemptEffectParentV1
  source : AttemptExecutionSourceV1
  encodedLength : OwnedConsentStates → Nat

structure Ledger where
  accounting : Option OwnedAttemptAccounting
  consent : Option OwnedConsentStates
  /-- The rows of `attempt_operations_v1`, in the order of their insertion. -/
  operations : List AttemptOperationV1
  /-- The consent requests that were appended. -/
  charged : List WebSearchConsentRequestV1

def Ledger.empty : Ledger := ⟨none, none, [], []⟩

inductive Step where
  | setup (now : Int)
  | operation (operation : AttemptOperationV1) (now : Int)
  | consent (request : WebSearchConsentRequestV1) (now : Int)
  | decision (next : WebSearchConsentStateV1) (now : Int)

namespace Attempt

section

variable [Protocol.Crypto] (attempt : Attempt) (ledger : Ledger)

def readAccounting (now : Int) : Except StoreError (Option OwnedAttemptAccounting) :=
  match ledger.accounting with
  | none => .ok none
  | some value => do
    value.validate attempt.parent attempt.source now
    .ok (some value)

def requireAccounting (now : Int) : Except StoreError OwnedAttemptAccounting := do
  match ← attempt.readAccounting ledger now with
  | none => .error .membershipDenied
  | some value => .ok value

def readConsent (now : Int) : Except StoreError (Option OwnedConsentStates) :=
  match ledger.consent with
  | none => .ok none
  | some value => do
    checkConsentBytes attempt.encodedLength value attempt.parent now
    .ok (some value)

def reserveOwnedSetupAccounting (now : Int) : Except StoreError Ledger := do
  let old ← attempt.readAccounting ledger now
  if old.isSome then .error .membershipDenied else
  let value ← setupAccounting attempt.parent attempt.source now
  value.validate attempt.parent attempt.source now
  .ok { ledger with accounting := some value }

def reserveOwnedOperation (operation : AttemptOperationV1) (now : Int) : Except StoreError Ledger := do
  operation.validate
  let accounting ← attempt.requireAccounting ledger now
  let next ← debitOwnedOperation accounting operation attempt.parent attempt.source now
  next.validate attempt.parent attempt.source now
  .ok { ledger with accounting := some next, operations := ledger.operations ++ [operation] }

/-- Nothing is written for a request that is kept already. -/
def appendConsent (request : WebSearchConsentRequestV1) (now : Int) : Except StoreError Ledger := do
  let accounting ← attempt.requireAccounting ledger now
  let old ← attempt.readConsent ledger now
  let (next, debit, fresh) ← appendOwnedConsentState attempt.encodedLength old accounting attempt.parent request now
  if fresh then do
    debit.validate attempt.parent attempt.source now
    checkConsentBytes attempt.encodedLength next attempt.parent now
    .ok { ledger with accounting := some debit, consent := some next, charged := ledger.charged ++ [request] }
  else .ok ledger

def replaceConsent (next : WebSearchConsentStateV1) (now : Int) : Except StoreError Ledger := do
  match ← attempt.readConsent ledger now with
  | none => .error .membershipDenied
  | some old => do
    let value ← replaceOwnedConsentState old next attempt.parent now
    checkConsentBytes attempt.encodedLength value attempt.parent now
    .ok { ledger with consent := some value }

def apply : Step → Except StoreError Ledger
  | .setup now => attempt.reserveOwnedSetupAccounting ledger now
  | .operation operation now => attempt.reserveOwnedOperation ledger operation now
  | .consent request now => attempt.appendConsent ledger request now
  | .decision next now => attempt.replaceConsent ledger next now

/-- A step that fails is rolled back. -/
def after (step : Step) : Ledger := (attempt.apply ledger step).toOption.getD ledger

def run (steps : List Step) : Ledger := steps.foldl attempt.after .empty

end

end Attempt

/-! ## Sums over the rows -/

def consentBytes (request : WebSearchConsentRequestV1) : Nat := 65536 + request.arguments.size.toNat

def Ledger.storage (ledger : Ledger) (parent : OwnedAttemptEffectParentV1) (counter : Counter) : Nat :=
  if counter = .bodyBytes then (ownedSetupBodyBytes parent).toNat + (ledger.charged.map consentBytes).sum else 0

def Ledger.debited (ledger : Ledger) (counter : Counter) : Nat :=
  (ledger.operations.map fun operation => (operation.debit.counter counter).toNat).sum

/-- The money of the operations that are paid from a component. -/
def Ledger.paid (ledger : Ledger) (component : Component) : Nat :=
  ((ledger.operations.filter fun operation => operation.kind.component = some component).map fun operation =>
    (operation.debit.counter .amountMicrounits).toNat).sum

structure Conserved (attempt : Attempt) (ledger : Ledger) (v : OwnedAttemptAccounting) : Prop where
  counters : ∀ counter, (v.aggregate.counter counter).toNat = ledger.storage attempt.parent counter + ledger.debited counter
  duration : v.aggregate.activeDuration = (ledger.operations.map (·.debit.activeDuration)).sum
  count : (v.aggregate.counter .operations).toNat = ledger.operations.length
  sequences : ledger.operations.map (·.sequence.toNat) = List.range' 1 ledger.operations.length
  amounts : ∀ component, component ≠ .substrate → (v.amounts component).toNat = ledger.paid component
  bounded : ∃ policy, attempt.parent.policy = some policy ∧ v.Bounded policy attempt.source

def Ledger.kept (ledger : Ledger) : List String := ((ledger.consent.map (·.states)).getD []).map (·.request.id)

structure Sound (attempt : Attempt) (ledger : Ledger) : Prop where
  unreserved : ledger.accounting = none → ledger.operations = [] ∧ ledger.charged = []
  conserved : ∀ v, ledger.accounting = some v → Conserved attempt ledger v
  charged : ledger.charged.map (·.id) = ledger.kept

/-! ## What a transaction did -/

section

variable {attempt : Attempt} {ledger ledger' : Ledger} {accounting : OwnedAttemptAccounting} {now : Int}

theorem consentReservation_toNat {request} (h : request.validate = .ok ()) :
    (consentReservation request).toNat = consentBytes request := by
  obtain ⟨hpos, hmax⟩ := WebSearchConsentRequestV1.validate_ok h
  have hsize : (UInt64.ofNat request.arguments.size.toNat).toNat = request.arguments.size.toNat := by
    rw [UInt64.toNat_ofNat']
    exact Nat.mod_eq_of_lt (by omega)
  have hmeta : ownedConsentMetadataReservationBytes.toNat = 65536 := rfl
  rw [consentReservation, consentBytes, UInt64.toNat_add, hsize, hmeta]
  exact Nat.mod_eq_of_lt (by omega)

theorem ofBodyBytes_counter (n : UInt64) (counter : Counter) :
    ((AttemptOperationDebitV1.ofBodyBytes n).counter counter).toNat = if counter = .bodyBytes then n.toNat else 0 := by
  cases counter <;> rfl

theorem requireAccounting_ok (h : attempt.requireAccounting ledger now = .ok accounting) :
    ledger.accounting = some accounting := by
  simp only [Attempt.requireAccounting, Attempt.readAccounting, bind_eq_ok] at h
  obtain ⟨found, hread, h⟩ := h
  cases hstored : ledger.accounting with
  | none =>
    simp only [hstored, Except.ok.injEq] at hread
    simp [← hread] at h
  | some value =>
    simp only [hstored, bind_eq_ok, exists_unit, Except.ok.injEq] at hread
    simp only [← hread.2, Except.ok.injEq] at h
    rw [h]

theorem reserveOwnedSetupAccounting_ok (h : attempt.reserveOwnedSetupAccounting ledger now = .ok ledger') :
    ledger.accounting = none ∧ ∃ value substrate, ledger' = { ledger with accounting := some value } ∧
      value.aggregate = .ofBodyBytes (ownedSetupBodyBytes attempt.parent) ∧
      value.amounts = Function.update (fun _ => 0) .substrate substrate ∧
      value.validate attempt.parent attempt.source now = .ok () := by
  simp only [Attempt.reserveOwnedSetupAccounting, bind_eq_ok, exists_unit, ite_error_eq_ok, Except.ok.injEq] at h
  obtain ⟨old, hread, hnone, value, hsetup, hvalid, rfl⟩ := h
  constructor
  · unfold Attempt.readAccounting at hread
    cases hstored : ledger.accounting with
    | none => rfl
    | some stored =>
      simp only [hstored, bind_eq_ok, exists_unit, Except.ok.injEq] at hread
      simp [← hread.2] at hnone
  · simp only [setupAccounting, bind_eq_ok] at hsetup
    obtain ⟨digest, _, hsetup⟩ := hsetup
    split at hsetup
    case h_2 => cases hsetup
    case h_1 substrate _ =>
        simp only [Except.ok.injEq] at hsetup
        exact ⟨value, substrate, rfl, by rw [← hsetup], by rw [← hsetup], hvalid⟩

theorem reserveOwnedOperation_ok {operation} (h : attempt.reserveOwnedOperation ledger operation now = .ok ledger') :
    ∃ value next component, ledger.accounting = some value ∧ operation.validate = .ok () ∧
      Debited value next operation component ∧ next.validate attempt.parent attempt.source now = .ok () ∧
      ledger' = { ledger with accounting := some next, operations := ledger.operations ++ [operation] } := by
  simp only [Attempt.reserveOwnedOperation, bind_eq_ok, exists_unit, Except.ok.injEq] at h
  obtain ⟨hoperation, value, hstored, next, hdebit, hvalid, hledger⟩ := h
  obtain ⟨⟨component, hdebited⟩, _⟩ := debitOwnedOperation_ok hdebit
  exact ⟨value, next, component, requireAccounting_ok hstored, hoperation, hdebited, hvalid, hledger.symm⟩

variable [Protocol.Crypto]

theorem readConsent_ok {found} (h : attempt.readConsent ledger now = .ok found) :
    found = ledger.consent := by
  unfold Attempt.readConsent at h
  cases hstored : ledger.consent with
  | none =>
    rw [hstored] at h
    simpa using h.symm
  | some value =>
    rw [hstored] at h
    simp only [bind_eq_ok, exists_unit, Except.ok.injEq] at h
    exact h.2.symm

/-- A request that is appended: its state is the last one and its bytes are reserved, and nothing else changes. -/
structure Appended (states : List WebSearchConsentStateV1) (value : OwnedAttemptAccounting) (request : WebSearchConsentRequestV1)
    (next : OwnedConsentStates) (debit : OwnedAttemptAccounting) : Prop where
  states : next.states.map (·.request.id) = states.map (·.request.id) ++ [request.id]
  counters : ∀ counter, (debit.aggregate.counter counter).toNat =
    (value.aggregate.counter counter).toNat + if counter = .bodyBytes then consentBytes request else 0
  duration : debit.aggregate.activeDuration = value.aggregate.activeDuration
  amounts : debit.amounts = value.amounts

theorem appendFreshConsent_ok {encodedLength : OwnedConsentStates → Nat} {value next debit parent policy request fresh}
    (h : appendFreshConsent encodedLength value accounting parent policy request now = .ok (next, debit, fresh))
    (hrequest : request.validate = .ok ()) : fresh = true ∧ Appended value.states accounting request next debit := by
  simp only [appendFreshConsent, bind_eq_ok, exists_unit, ite_error_eq_ok, mapError_eq_ok, Except.ok.injEq, Prod.mk.injEq] at h
  obtain ⟨_, _, aggregate, hadd, _, _, rfl, rfl, rfl⟩ := h
  obtain ⟨hcounters, hduration⟩ := AttemptOperationDebitV1.add_ok hadd
  refine ⟨rfl, by simp, fun counter => ?_, ?_, rfl⟩
  · rw [hcounters, ofBodyBytes_counter, consentReservation_toNat hrequest]
  · rw [hduration]
    exact Int.add_zero _

theorem appendOwnedConsentState_ok {encodedLength : OwnedConsentStates → Nat} {old next debit parent request fresh}
    (h : appendOwnedConsentState encodedLength old accounting parent request now = .ok (next, debit, fresh)) :
    fresh = false ∨ (∀ kept ∈ old, ∀ state ∈ kept.states, state.request.id ≠ request.id) ∧ fresh = true ∧
      Appended ((old.map (·.states)).getD []) accounting request next debit := by
  simp only [appendOwnedConsentState, bind_eq_ok] at h
  obtain ⟨digest, _, h⟩ := h
  cases hpolicy : parent.policy with
  | none => simp [hpolicy] at h
  | some policy =>
    simp only [hpolicy, ite_error_eq_ok, not_or, Bool.not_eq_true, Bool.not_eq_false, Decidable.not_not] at h
    obtain ⟨⟨_, _, hrequest, _⟩, h⟩ := h
    have hvalid : request.validate = .ok () := exists_unit.mp (exists_of_isOk hrequest)
    cases old with
    | none => exact .inr ⟨by simp, appendFreshConsent_ok h hvalid⟩
    | some old =>
      simp only [bind_eq_ok, exists_unit] at h
      obtain ⟨_, h⟩ := h
      cases hfind : old.states.find? (·.request.id = request.id) with
      | some state =>
        simp only [hfind, ite_error_eq_ok, Except.ok.injEq, Prod.mk.injEq] at h
        exact .inl h.2.2.2.symm
      | none =>
        simp only [hfind] at h
        obtain ⟨hfresh, happended⟩ := appendFreshConsent_ok h hvalid
        refine .inr ⟨?_, hfresh, happended⟩
        intro kept hkept state hmem
        cases hkept
        simpa using List.find?_eq_none.mp hfind state hmem

theorem replaceState_id {previous next state} (h : replaceState previous next = .ok state) :
    state.request.id = previous.request.id := by
  unfold replaceState at h
  split at h
  · cases h
    rfl
  · rename_i hsame
    simp only [ite_error_eq_ok, Except.ok.injEq] at h
    obtain ⟨_, _, rfl⟩ := h
    exact (Decidable.not_not.mp (not_or.mp hsame).1).symm

theorem mapM_replaceState_id {states replaced : List WebSearchConsentStateV1} {next}
    (h : states.mapM (replaceState · next) = .ok replaced) :
    replaced.map (·.request.id) = states.map (·.request.id) := by
  induction states generalizing replaced with
  | nil =>
    cases h
    rfl
  | cons state rest ih =>
    simp only [List.mapM_cons, bind_eq_ok, pure_eq_ok] at h
    obtain ⟨first, hfirst, others, hothers, rfl⟩ := h
    rw [List.map_cons, List.map_cons, replaceState_id hfirst, ih hothers]

theorem replaceConsent_ok {next} (h : attempt.replaceConsent ledger next now = .ok ledger') :
    ∃ value, ledger' = { ledger with consent := some value } ∧ ledger'.kept = ledger.kept := by
  simp only [Attempt.replaceConsent, bind_eq_ok] at h
  obtain ⟨found, hread, h⟩ := h
  have hstored := readConsent_ok hread
  cases found with
  | none => cases h
  | some old =>
    simp only [bind_eq_ok, exists_unit, Except.ok.injEq] at h
    obtain ⟨value, hreplace, _, rfl⟩ := h
    simp only [replaceOwnedConsentState, bind_eq_ok, exists_unit, ite_error_eq_ok, Except.ok.injEq] at hreplace
    obtain ⟨_, _, states, hstates, _, _, rfl⟩ := hreplace
    refine ⟨_, rfl, ?_⟩
    rw [Ledger.kept, Ledger.kept, ← hstored]
    exact mapM_replaceState_id hstates

theorem appendConsent_ok {request} (h : attempt.appendConsent ledger request now = .ok ledger') :
    ledger' = ledger ∨ request.id ∉ ledger.kept ∧ ∃ value debit next, ledger.accounting = some value ∧
      Appended ((ledger.consent.map (·.states)).getD []) value request next debit ∧
      debit.validate attempt.parent attempt.source now = .ok () ∧
      ledger' = { ledger with accounting := some debit, consent := some next, charged := ledger.charged ++ [request] } := by
  simp only [Attempt.appendConsent, bind_eq_ok, Prod.exists] at h
  obtain ⟨value, hvalue, old, hold, next, debit, fresh, happend, h⟩ := h
  have hstored := readConsent_ok hold
  obtain hreplay | ⟨hnew, hfresh, happended⟩ := appendOwnedConsentState_ok happend
  · simp only [hreplay, Bool.false_eq_true, ↓reduceIte, Except.ok.injEq] at h
    exact .inl h.symm
  · simp only [hfresh, ↓reduceIte, bind_eq_ok, exists_unit, Except.ok.injEq] at h
    obtain ⟨hvalid, _, hledger⟩ := h
    refine .inr ⟨?_, value, debit, next, requireAccounting_ok hvalue, hstored ▸ happended, hvalid, hledger.symm⟩
    intro hmem
    rw [Ledger.kept, ← hstored] at hmem
    obtain ⟨state, hstate, hid⟩ := List.mem_map.mp hmem
    cases old with
    | none => cases hstate
    | some kept => exact hnew kept rfl state hstate hid

end

/-! ## One step -/

section

variable {attempt : Attempt} {ledger ledger' : Ledger}

theorem Sound.setup {now} (hs : Sound attempt ledger)
    (h : attempt.reserveOwnedSetupAccounting ledger now = .ok ledger') : Sound attempt ledger' := by
  obtain ⟨hnone, value, substrate, rfl, haggregate, hamounts, hvalid⟩ := reserveOwnedSetupAccounting_ok h
  obtain ⟨hoperations, hcharged⟩ := hs.unreserved hnone
  refine ⟨fun hnone => absurd hnone (Option.some_ne_none _), ?_, hs.charged⟩
  intro v hv
  cases hv
  constructor
  · intro counter
    rw [haggregate, ofBodyBytes_counter]
    simp [Ledger.storage, Ledger.debited, hoperations, hcharged]
  · rw [haggregate]
    simp [hoperations, AttemptOperationDebitV1.ofBodyBytes]
  · rw [haggregate, ofBodyBytes_counter]
    simp [hoperations]
  · simp [hoperations]
  · intro component hcomponent
    rw [hamounts, Function.update_of_ne hcomponent]
    simp [Ledger.paid, hoperations]
  · exact OwnedAttemptAccounting.validate_ok hvalid

theorem Sound.operation {operation now} (hs : Sound attempt ledger)
    (h : attempt.reserveOwnedOperation ledger operation now = .ok ledger') : Sound attempt ledger' := by
  obtain ⟨value, next, component, hstored, hoperation, hdebited, hvalid, rfl⟩ := reserveOwnedOperation_ok h
  have hconserved := hs.conserved value hstored
  have hone : (operation.debit.counter .operations).toNat = 1 := by
    rw [AttemptOperationV1.validate_ok hoperation]
    rfl
  have hcount : (next.aggregate.counter .operations).toNat = ledger.operations.length + 1 := by
    rw [hdebited.counters, hone, hconserved.count]
  refine ⟨fun hnone => absurd hnone (Option.some_ne_none _), ?_, hs.charged⟩
  intro v hv
  cases hv
  constructor
  · intro counter
    have hbefore := hconserved.counters counter
    simp only [Ledger.storage, Ledger.debited] at hbefore
    rw [hdebited.counters, hbefore]
    simp [Ledger.storage, Ledger.debited, Nat.add_assoc]
  · rw [hdebited.duration, hconserved.duration]
    simp
  · rw [hcount]
    simp
  · -- the next sequence number does not wrap: the counter itself reaches it
    have hsequence : operation.sequence.toNat = ledger.operations.length + 1 := by
      rw [hdebited.sequence, UInt64.toNat_add, hconserved.count]
      have hlt := (next.aggregate.counter .operations).toNat_lt
      rw [hcount] at hlt
      exact Nat.mod_eq_of_lt hlt
    simp [hconserved.sequences, hsequence, List.range'_concat, Nat.add_comm]
  · intro other hother
    by_cases hself : other = component
    · subst hself
      rw [hdebited.amount, hconserved.amounts other hother]
      simp [Ledger.paid, List.filter_append, hdebited.paid]
    · have hunpaid : operation.kind.component ≠ some other := by
        rw [hdebited.paid, Ne, Option.some.injEq]
        exact fun h => hself h.symm
      rw [hdebited.others other hself, hconserved.amounts other hother]
      simp [Ledger.paid, List.filter_append, hunpaid]
  · exact OwnedAttemptAccounting.validate_ok hvalid

variable [Protocol.Crypto]

theorem Sound.consent {request now} (hs : Sound attempt ledger)
    (h : attempt.appendConsent ledger request now = .ok ledger') : Sound attempt ledger' := by
  obtain rfl | ⟨_, value, debit, next, hstored, happended, hvalid, rfl⟩ := appendConsent_ok h
  · exact hs
  have hconserved := hs.conserved value hstored
  refine ⟨fun hnone => absurd hnone (Option.some_ne_none _), ?_, ?_⟩
  · intro v hv
    cases hv
    constructor
    · intro counter
      rw [happended.counters, hconserved.counters]
      by_cases hbody : counter = .bodyBytes
      · simp [Ledger.storage, Ledger.debited, hbody]
        omega
      · simp [Ledger.storage, Ledger.debited, hbody]
    · rw [happended.duration]
      exact hconserved.duration
    · rw [happended.counters]
      simpa using hconserved.count
    · exact hconserved.sequences
    · rw [happended.amounts]
      exact hconserved.amounts
    · exact OwnedAttemptAccounting.validate_ok hvalid
  · have hbefore := hs.charged
    rw [Ledger.kept] at hbefore
    simp [Ledger.kept, happended.states, hbefore]

theorem Sound.decision {next now} (hs : Sound attempt ledger)
    (h : attempt.replaceConsent ledger next now = .ok ledger') : Sound attempt ledger' := by
  obtain ⟨value, rfl, hkept⟩ := replaceConsent_ok h
  refine ⟨hs.unreserved, fun v hv => ?_, hs.charged.trans hkept.symm⟩
  exact { hs.conserved v hv with }

theorem Sound.apply {step} (hs : Sound attempt ledger) (h : attempt.apply ledger step = .ok ledger') :
    Sound attempt ledger' := by
  cases step with
  | setup now => exact hs.setup h
  | operation operation now => exact hs.operation h
  | consent request now => exact hs.consent h
  | decision next now => exact hs.decision h

end

/-! ## Runs -/

theorem Sound.empty {attempt} : Sound attempt .empty := by
  refine ⟨fun _ => ⟨rfl, rfl⟩, ?_, rfl⟩
  intro v hv
  cases hv

section

variable [Protocol.Crypto] {attempt : Attempt}

theorem Sound.after {ledger} (hs : Sound attempt ledger) (step : Step) : Sound attempt (attempt.after ledger step) := by
  unfold Attempt.after
  cases happly : attempt.apply ledger step with
  | error e => exact hs
  | ok ledger' => exact hs.apply happly

theorem Sound.foldl {ledger} (hs : Sound attempt ledger) (steps : List Step) :
    Sound attempt (steps.foldl attempt.after ledger) := by
  induction steps generalizing ledger with
  | nil => exact hs
  | cons step rest ih => exact ih (hs.after step)

theorem after_consent_of_kept {ledger request now}
    (h : request.id ∈ ledger.kept) : attempt.after ledger (.consent request now) = ledger := by
  unfold Attempt.after
  cases happly : attempt.apply ledger (.consent request now) with
  | error e => rfl
  | ok ledger' =>
    obtain rfl | ⟨hnew, _⟩ := appendConsent_ok happly
    · rfl
    · exact absurd h hnew

end

/-! ## One attempt -/

namespace Sample

open scoped Protocol.Reference

def policy : AgentLoopPolicyV1 where
  sealed := .ok ()
  limits := ⟨8, 2, 4, 2, 131072, 16384, 120 * second, 12, 1, 128, 262144, 12, 1048576⟩
  admissionCostCeiling := ⟨1048576, .known, .known, some 5, some 40⟩

def scope : WebSearchConsentScopeV1 :=
  ⟨"tenant", "session", "owner", "run", "attempt", "lease", 1, "claim", "", "", "", ""⟩

def attempt : Attempt where
  parent := ⟨.ok "parent", 1000, 10 * second, 10 * second, some policy, true, true, scope⟩
  source := ⟨true, .ownedPublic, [⟨.provider, some 20⟩, ⟨.substrate, some 5⟩, ⟨.mcpTool, some 7⟩, ⟨.webSearch, some 8⟩], 40⟩
  encodedLength := fun _ => 1024

def digest : String := hex (List.replicate 32 7)

/-- A model call of the sequence number that reserves the amount. -/
def call (sequence amount : UInt64) : AttemptOperationV1 where
  version := 1
  scope := ⟨"tenant", "session", "owner", "run", "attempt", "lease", 1, "claim", digest, digest, digest, digest⟩
  sequence := sequence
  kind := .model
  callID := "call"
  requestRef := "request"
  requestDigest := digest
  predecessorObservationDigest := if sequence = 1 then "" else digest
  modelResponseDigest := ""
  argumentsDigest := ""
  queryDigest := ""
  toolGrantDigest := ""
  consentRequestDigest := ""
  consentDecisionDigest := ""
  consentDecisionRef := ""
  deadline := 5 * second
  cleanupDuration := second
  debit :=
    { counter := fun
        | .operations => 1
        | .modelCalls => 1
        | .inputTokens => 100
        | .outputTokens => 10
        | .bodyBytes => 2000
        | .responseBytes => 1000
        | .amountMicrounits => amount
        | _ => 0
      activeDuration := second }
  requestBytes := 1000
  resultBytes := 1000
  contextBytes := 1000
  summaryBytes := 0
  currency := "EUR"
  priceRevision := "revision"
  admissionCostCeilingDigest := digest
  externalChargeEvidenceDigest := ""
  searchWire := none

/-- Two calls are accepted; a third one would exceed what the provider may be paid. -/
example : ((attempt.run [.setup 1000, .operation (call 1 12) 2000, .operation (call 2 8) 3000,
    .operation (call 3 1) 4000]).accounting.map fun v => (v.amounts .provider, v.aggregate.counter .bodyBytes)) =
    some (20, 12192) := by
  decide +kernel

end Sample

end Sessionless.Spending
