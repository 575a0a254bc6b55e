import Sessionless.Store.Base

/-!
# Object references

A payload lives in the object store; a row keeps its key, size and digest. Which prefix a key
must lie under is what ties an object to its tenant, session and event.
-/

namespace Sessionless.Store

open Lib

structure BlobRef where
  tenantID : TenantID
  key : String
  size : Int
  sha256 : String
deriving DecidableEq, Repr

/-- The bytes of `/` and of `.`. -/
def slash : UInt8 := 47

def dot : UInt8 := 46

def pathElements : Bytes → List Bytes
  | [] => [[]]
  | b :: rest =>
    if b = slash then [] :: pathElements rest
    else match pathElements rest with
    | [] => [[b]]
    | first :: others => (b :: first) :: others

/-- The elements that `path.Clean` keeps of a relative path, last one first. -/
def cleanElements (kept : List Bytes) : List Bytes → List Bytes
  | [] => kept
  | element :: rest =>
    if element = [] ∨ element = [dot] then cleanElements kept rest
    else if element = [dot, dot] ∧ kept.head?.any (· ≠ [dot, dot]) then cleanElements kept.tail rest
    else cleanElements (element :: kept) rest

/-- `path.Clean(key) == key` for a key that does not start with a slash. -/
def isClean (key : String) : Bool :=
  let kept := cleanElements [] (pathElements (utf8 key))
  utf8 key = if kept = [] then [dot] else (kept.reverse.intersperse [slash]).flatten

def tenantObjectPrefix (tenantID : TenantID) : String := "tenants/" ++ tenantID ++ "/"

def sessionObjectPrefix (tenantID : TenantID) (sessionID : SessionID) : String :=
  tenantObjectPrefix tenantID ++ "sessions/" ++ sessionID ++ "/"

def runObjectPrefix (tenantID : TenantID) (runID : RunID) : String := tenantObjectPrefix tenantID ++ "runs/" ++ runID ++ "/"

def sessionEventObjectPrefix (tenantID : TenantID) (sessionID : SessionID) (eventID : SessionEventID) : String :=
  sessionObjectPrefix tenantID sessionID ++ "events/" ++ eventID ++ "/"

def sessionSnapshotObjectKey (tenantID : TenantID) (sessionID : SessionID) (version : Nat) : String :=
  sessionObjectPrefix tenantID sessionID ++ "snapshots/" ++ toString version ++ ".jsonl.zst"

/-- `strings.HasPrefix`. -/
def hasPrefix (value start : String) : Bool := (utf8 start).isPrefixOf (utf8 value)

/-- A digit, or a letter up to `f` in either case. -/
def isHexDigit (b : UInt8) : Bool :=
  (48 ≤ b.toNat && b.toNat ≤ 57) || (97 ≤ b.toNat && b.toNat ≤ 102) || (65 ≤ b.toNat && b.toNat ≤ 70)

namespace BlobRef

def validate (ref : BlobRef) : Except StoreError Unit := do
  validateOpaqueID "tenant_id" ref.tenantID
  if ref.key = "" ∨ hasPrefix ref.key "/" ∨ ¬ isClean ref.key then
    .error (.validation "blob.key" "must be a normalized relative object key")
  else if ¬ hasPrefix ref.key (tenantObjectPrefix ref.tenantID) then
    .error (.validation "blob.key" ("must be under " ++ quoted (tenantObjectPrefix ref.tenantID)))
  else if ref.size < 0 then .error (.validation "blob.size" "must not be negative")
  else if ¬ ((utf8 ref.sha256).length = 64 ∧ (utf8 ref.sha256).all isHexDigit) then
    .error (.validation "blob.sha256" "must be a 64-character hexadecimal SHA-256 digest")
  else .ok ()

end BlobRef

def validateSessionEventBlob (tenantID : TenantID) (sessionID : SessionID) (eventID : SessionEventID) (ref : BlobRef) :
    Except StoreError Unit := do
  ref.validate
  ensureSameTenant tenantID ref.tenantID
  validateOpaqueID "session_id" sessionID
  validateOpaqueID "session_event_id" eventID
  if ¬ hasPrefix ref.key (sessionEventObjectPrefix tenantID sessionID eventID) then
    .error (.validation "session_event.payload.key" ("must be under " ++ quoted (sessionEventObjectPrefix tenantID sessionID eventID)))
  else .ok ()

def validateSessionSnapshotBlob (tenantID : TenantID) (sessionID : SessionID) (version : Nat) (ref : BlobRef) :
    Except StoreError Unit := do
  ref.validate
  ensureSameTenant tenantID ref.tenantID
  validateOpaqueID "session_id" sessionID
  if version = 0 then .error (.validation "session_snapshot.version" "must be positive")
  else if ref.key ≠ sessionSnapshotObjectKey tenantID sessionID version then
    .error (.validation "session_snapshot.payload.key" ("must equal " ++
      quoted (sessionSnapshotObjectKey tenantID sessionID version)))
  else .ok ()

structure Artifact where
  name : String
  mediaType : String
  blob : BlobRef
deriving DecidableEq, Repr

end Sessionless.Store
