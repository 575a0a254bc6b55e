import Sessionless.Protocol.Crypto
import Sessionless.Store.Base

/-!
# Records of the owner-local credential store

The metadata snapshot of `ownerlocalcredential` and the envelope of a credential body. `Value.SecretRef` and
`Reference` are one string in every snapshot the store writes. The fields that tie a record to its root are left out.
Sealing and authentication are ideal: a file opens to what it was made from, and nothing else opens.
-/

namespace Sessionless.Credential

open Lib Store

inductive CredentialError
  | denied
  | busy
  | unavailable
  | unknown
deriving DecidableEq, Repr

def maxAuthBytes : Nat := 1048576

def maxHeaderBytes : Nat := 4096

def maxMetadataBytes : Nat := 65536

def maxDiskBytes : Nat := 12582912

def maxCandidates : Nat := 4

def maxCleanups : Nat := 4

def maxKeyUses : Nat := 4294967296

def maxEnvelopeBytes : Nat := maxAuthBytes + maxHeaderBytes + 40

/-- `math.MaxUint64`. -/
def maxUint64 : Nat := 18446744073709551615

def isLowerHex (b : UInt8) : Bool := (48 ≤ b.toNat && b.toNat ≤ 57) || (97 ≤ b.toNat && b.toNat ≤ 102)

def validReference (v : String) : Bool := (utf8 v).length = 64 && (utf8 v).all isLowerHex

structure Scope where
  tenantID : TenantID
  ownerUserID : UserID
  subscriptionConnectionID : String
deriving DecidableEq, Repr

def Scope.valid (v : Scope) : Bool :=
  (validateOpaqueID "tenant_id" v.tenantID).isOk && (validateOpaqueID "user_id" v.ownerUserID).isOk &&
  (validateOpaqueID "subscription_connection_id" v.subscriptionConnectionID).isOk

inductive EntitlementState
  | disconnected
  | unknown
  | active
  | inactive
  | reauthRequired
  | other (text : String)
deriving DecidableEq, Repr

def EntitlementState.valid : EntitlementState → Bool
  | .other _ => false
  | _ => true

structure CredentialBinding where
  version : Nat
  tenantID : TenantID
  subscriptionConnectionID : String
  ownerUserID : UserID
  provider : String
  authMode : String
  secretRef : String
  secretFingerprint : String
  entitlement : EntitlementState
  generation : Nat
  revoked : Bool
  updatedAt : Int
deriving DecidableEq, Repr

/-- `CredentialSecretRef.Validate`. -/
def validSecretRef (raw : String) : Bool :=
  raw ≠ "" && (utf8 raw).length ≤ 512 && (utf8 raw).all fun b => 0x20 ≤ b.toNat && b.toNat ≠ 0x7f

/-- `CredentialFingerprint.Validate`. -/
def validFingerprint (fingerprint : String) : Bool := (utf8 fingerprint).length = 64 && (utf8 fingerprint).all isLowerHex

def CredentialBinding.valid (binding : CredentialBinding) : Bool :=
  binding.version = 1 && (validateOpaqueID "tenant_id" binding.tenantID).isOk &&
  (validateOpaqueID "subscription_connection_id" binding.subscriptionConnectionID).isOk &&
  (validateOpaqueID "user_id" binding.ownerUserID).isOk &&
  (validateOpaqueID "credential_binding.provider" binding.provider).isOk &&
  (validateOpaqueID "credential_binding.auth_mode" binding.authMode).isOk &&
  (if binding.revoked then
    binding.secretRef = "" && binding.secretFingerprint = "" && binding.entitlement = .disconnected
  else validSecretRef binding.secretRef && validFingerprint binding.secretFingerprint) &&
  binding.entitlement.valid && binding.generation ≠ 0 && binding.updatedAt ≠ 0

def fingerprintCredential [Protocol.Crypto] (value : Bytes) : String := hex (Protocol.Crypto.sha256 value).val

structure CandidateRecord where
  reference : String
  expected : Nat
  fingerprint : String
  size : Nat
  ready : Bool
deriving DecidableEq, Repr

structure CleanupRecord where
  reference : String
  generation : Nat
  released : Bool
deriving DecidableEq, Repr

structure Snapshot where
  revision : Nat
  keyUses : Nat
  binding : Option CredentialBinding
  candidates : List CandidateRecord
  cleanups : List CleanupRecord
deriving DecidableEq, Repr

def Snapshot.initial : Snapshot := ⟨1, 0, none, [], []⟩

def Snapshot.active (v : Snapshot) : Option CredentialBinding := v.binding.filter fun binding => !binding.revoked

/-- `Binding.Reference`, empty once the binding is revoked. -/
def Snapshot.refersTo (v : Snapshot) (reference : String) : Bool :=
  v.binding.any fun binding => binding.secretRef = reference

/-- The numbers of a snapshot are of type `uint64`. -/
def Snapshot.isUint64 (v : Snapshot) : Bool :=
  v.revision ≤ maxUint64 && v.binding.all (fun b => b.generation ≤ maxUint64) &&
  v.cleanups.all fun c => c.generation ≤ maxUint64

structure EnvelopeHeader where
  reference : String
  expected : Nat
  fingerprint : String
  size : Nat
deriving DecidableEq, Repr

def CandidateRecord.header (c : CandidateRecord) : EnvelopeHeader := ⟨c.reference, c.expected, c.fingerprint, c.size⟩

/-- The scope of a store, and how many bytes its records take in JSON (more than the limits allow for a
record that has no JSON text). -/
structure Config where
  scope : Scope
  snapshotBytes : Snapshot → Nat
  headerBytes : EnvelopeHeader → Nat

namespace Config

variable (config : Config)

def bindingMatches (v : CredentialBinding) : Bool :=
  v.valid && v.tenantID = config.scope.tenantID && v.ownerUserID = config.scope.ownerUserID &&
  v.subscriptionConnectionID = config.scope.subscriptionConnectionID && (v.revoked || v.generation < maxUint64)

def validCandidate (c : CandidateRecord) : Bool :=
  validReference c.reference && c.expected < maxUint64 - 1 && validFingerprint c.fingerprint && c.size ≠ 0 &&
  c.size ≤ maxAuthBytes

def validCleanup (v : Snapshot) (c : CleanupRecord) : Bool :=
  validReference c.reference && c.generation ≠ 0 && c.generation ≠ maxUint64 && !v.refersTo c.reference

def validBinding (v : Snapshot) (b : CredentialBinding) : Bool :=
  (v.revision ≠ maxUint64 || b.revoked) && (b.revoked || validReference b.secretRef) && config.bindingMatches b &&
  b.provider = "openai" && b.authMode = "chatgpt"

def validateSnapshot (v : Snapshot) : Bool :=
  v.isUint64 && v.revision ≠ 0 && v.keyUses < maxKeyUses && v.candidates.length ≤ maxCandidates && v.cleanups.length ≤ maxCleanups &&
  v.binding.all (config.validBinding v) && v.candidates.all validCandidate && v.cleanups.all (validCleanup v) &&
  (v.candidates.map (·.reference) ++ v.cleanups.map (·.reference)).Nodup &&
  !(v.active.isSome && maxCleanups ≤ v.cleanups.length)

/-- The snapshot once its active binding would be revoked: room for it is kept free. -/
def reserved (v : Snapshot) (b : CredentialBinding) : Snapshot :=
  { v with
    cleanups := v.cleanups ++ [⟨b.secretRef, b.generation, false⟩]
    binding := some { b with generation := b.generation + 1, revoked := true, entitlement := .disconnected, secretRef := "",
                             secretFingerprint := "" } }

/-- Whether `encodeSnapshot` makes an image of a snapshot. -/
def encodable (v : Snapshot) : Bool :=
  config.validateSnapshot v && config.snapshotBytes v + 40 ≤ maxMetadataBytes &&
  v.active.all fun b => config.snapshotBytes (reserved v b) + 40 ≤ maxMetadataBytes

end Config

inductive Content
  /-- An authenticated image of a snapshot. -/
  | image (v : Snapshot)
  /-- A sealed credential. -/
  | envelope (header : EnvelopeHeader) (plaintext : Bytes)
  /-- Bytes that are neither. -/
  | other (size : Nat)
deriving DecidableEq, Repr

namespace Config

variable (config : Config)

def size : Content → Nat
  | .image v => config.snapshotBytes v + 40
  | .envelope header plaintext => 12 + config.headerBytes header + 12 + plaintext.length + 16
  | .other size => size

def decodeSnapshot : Content → Option Snapshot
  | .image v => if config.snapshotBytes v + 40 ≤ maxMetadataBytes ∧ config.validateSnapshot v then some v else none
  | _ => none

/-- `seal`: the header is authenticated with the plaintext it was made for. -/
def sealBody [Protocol.Crypto] (c : CandidateRecord) (plaintext : Bytes) : Option Content :=
  if config.headerBytes c.header ≤ maxHeaderBytes ∧ plaintext.length = c.size ∧ fingerprintCredential plaintext = c.fingerprint ∧
      config.size (.envelope c.header plaintext) ≤ maxEnvelopeBytes then
    some (.envelope c.header plaintext)
  else none

def openEnvelope [Protocol.Crypto] (content : Content) (header : EnvelopeHeader) : Option Bytes :=
  match content with
  | .envelope h plaintext =>
    if h = header ∧ plaintext.length = h.size ∧ fingerprintCredential plaintext = h.fingerprint then some plaintext else none
  | _ => none

def envelopeRecord (content : Content) : Option EnvelopeHeader :=
  match content with
  | .envelope h _ =>
    if validReference h.reference ∧ h.expected < maxUint64 - 1 ∧ validFingerprint h.fingerprint ∧ h.size ≠ 0 ∧
        h.size ≤ maxAuthBytes then some h
    else none
  | _ => none

/-- The plaintext of a binding in a body: what `readCurrentLocked` makes of the file. -/
def openCurrent [Protocol.Crypto] (content : Content) (binding : CredentialBinding) (limit : Nat) : Option Bytes :=
  match envelopeRecord content with
  | some header =>
    if header.expected = binding.generation - 1 ∧ header.reference = binding.secretRef ∧
        header.fingerprint = binding.secretFingerprint ∧ header.size ≤ limit then openEnvelope content header
    else none
  | none => none

end Config

end Sessionless.Credential
