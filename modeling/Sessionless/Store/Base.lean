import Sessionless.Lib.Encoding
import Sessionless.Lib.Guards
import Sessionless.Lib.Table

/-!
# Times, identifiers and errors of the store

A time is an `Int`: nanoseconds since the zero time of the source, so that `IsZero` is `= 0`. An error
of the source that carries a field and a reason keeps both.
-/

namespace Sessionless.Store

open Lib

def second : Int := 1000000000

def minute : Int := 60 * second

inductive StoreError where
  | validation (field reason : String)
  | membershipDenied
  | tenantMismatch (expected actual : String)
  /-- A row that had to be there is not: its kind and its key. -/
  | missing (kind key : String)
  /-- An `INSERT` met a row with its primary key. -/
  | duplicateKey (table : String)
  | sessionConflict
  | bindingConflict
  | snapshotConflict
  | sessionMutationConflict
  | eventIdempotencyConflict
  | idempotencyConflict
  | runFinalizationConflict
  | sessionLifecycleConflict
  | staleBinding (expected actual : Nat)
  | sessionMaterialSource
  | sessionMaterialPrefix
  | leaseHeld
  | leaseLost
  /-- A stored index points at a row that does not fit it. -/
  | inconsistent (index : String)
deriving DecidableEq, Repr

/-- `%q` of a text of identifiers, which has nothing to escape. -/
def quoted (value : String) : String := "\"" ++ value ++ "\""

/-! ## Identifiers -/

def maxOpaqueIDLength : Nat := 160

def isAlphanumeric (b : UInt8) : Bool :=
  (65 ≤ b.toNat && b.toNat ≤ 90) || (97 ≤ b.toNat && b.toNat ≤ 122) || (48 ≤ b.toNat && b.toNat ≤ 57)

/-- A byte an identifier may have after its first: a dot, an underscore, a colon or a dash as well. -/
def isOpaqueByte (b : UInt8) : Bool :=
  isAlphanumeric b || b.toNat = 46 || b.toNat = 95 || b.toNat = 58 || b.toNat = 45

def validateOpaqueID (field value : String) : Except StoreError Unit :=
  if value = "" then .error (.validation field "must not be empty")
  else if (utf8 value).length > maxOpaqueIDLength then .error (.validation field "must not exceed 160 bytes")
  else if ¬ ((utf8 value).head?.all isAlphanumeric ∧ (utf8 value).tail.all isOpaqueByte) then
    .error (.validation field "must use only ASCII letters, digits, dot, underscore, colon, or dash")
  else .ok ()

abbrev TenantID := String
abbrev UserID := String
abbrev SessionID := String
abbrev SessionEventID := String
abbrev SessionSnapshotID := String
abbrev FrontendBindingID := String
abbrev RunID := String
abbrev AttemptID := String
abbrev IdempotencyKey := String

def ensureSameTenant (expected actual : TenantID) : Except StoreError Unit := do
  validateOpaqueID "tenant_id" expected
  validateOpaqueID "tenant_id" actual
  if expected ≠ actual then .error (.tenantMismatch expected actual) else .ok ()

end Sessionless.Store
