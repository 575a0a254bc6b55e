import Sessionless.Credential.Filesystem

/-!
# The owner-local credential store

The operations of `store.go` and `credentials.go`. Metadata is written through a temporary file and a rename; bodies
are made before the metadata that lets them be used and removed before the metadata forgets them. A write whose
durability is not known leaves the store closed for everything but `reconcile`.
-/

namespace Sessionless.Credential

open Lib

/-- `CredentialCandidateScope`. -/
structure CandidateScope where
  scope : Scope
  expectedGeneration : Nat
deriving DecidableEq, Repr

/-- `CredentialSecretCandidate`. -/
structure SecretCandidate where
  scope : CandidateScope
  reference : String
  fingerprint : String
deriving DecidableEq, Repr

structure RevocationResult where
  binding : CredentialBinding
  supersededSecretRef : String
  supersededGeneration : Nat
deriving DecidableEq, Repr

structure Registration where
  provider : String
  authMode : String
  entitlement : EntitlementState
  registeredAt : Int
deriving DecidableEq, Repr

/-- What `released` reads of a credential handle. -/
structure Handle where
  wellFormed : Bool
  scope : Scope
  bindingGeneration : Nat
deriving DecidableEq, Repr

def Snapshot.names (v : Snapshot) (reference : String) : Bool :=
  v.active.any (fun b => b.secretRef = reference) || v.candidates.any (fun c => c.reference = reference) ||
  v.cleanups.any fun c => c.reference = reference

def Snapshot.expects (v : Snapshot) : Name → Bool
  | .lock => true
  | .metadata => true
  | .temporary => false
  | .body reference => v.names reference

def readyLast (candidates : List CandidateRecord) : List CandidateRecord :=
  candidates.dropLast ++ (candidates.getLast?.map fun c => { c with ready := true }).toList

namespace Config

variable (config : Config)

def scopeFor (expected : Nat) : CandidateScope := ⟨config.scope, expected⟩

def scopeMatches (v : CandidateScope) : Bool := config.scopeFor v.expectedGeneration = v

def candidatePort (c : CandidateRecord) : SecretCandidate := ⟨config.scopeFor c.expected, c.reference, c.fingerprint⟩

def inventoryFor (state : Snapshot) : Op Unit := do
  Prog.look .denied
  let entries ← config.entries
  Prog.require (state.active.all fun b => entries.any fun e => e.1 = .body b.secretRef && e.2 ≠ 0) .denied
  Prog.require (entries.all fun e => state.expects e.1) .denied

def readyLocked : Op Unit := do
  Prog.look .denied
  let w ← Prog.get
  Prog.require (w.unknown = false) .unknown
  check
  let raw ← config.read .metadata maxMetadataBytes
  Prog.require (raw.isSome) .unavailable
  Prog.require (raw = some (.image w.state)) .denied
  config.inventoryFor w.state

def markUnknown (pending : Snapshot) (e : CredentialError) : Op Unit := do
  Prog.modify fun w => if e = .unknown then { w with unknown := true, pending := some pending } else w
  Prog.fail e

def saveLocked (next : Snapshot) : Op Unit := do
  let w ← Prog.get
  Prog.require (w.state.revision ≠ maxUint64) .denied
  let next := { next with revision := w.state.revision + 1 }
  Prog.require (config.encodable next) .denied
  Prog.handle (config.writeAtomic (.image next)) (markUnknown next)
  Prog.modify fun w => { w with state := next }

def removeLocked (name : Name) : Op Unit := do
  let w ← Prog.get
  Prog.handle (config.remove name) (markUnknown w.state)

def drainLocked : Nat → Op Unit
  | 0 => pure ()
  | count + 1 => do
    let w ← Prog.get
    match w.state.cleanups.find? (·.released) with
    | none => pure ()
    | some c => do
      Prog.require (w.state.refersTo c.reference = false) .denied
      config.removeLocked (.body c.reference)
      config.saveLocked { w.state with cleanups := w.state.cleanups.eraseP (·.released) }
      drainLocked count

/-- What `Reconcile` does with a temporary file: it must be the pending image. -/
def discardPending (pending : Option Snapshot) (temporary : Option Content) : Op Unit :=
  match temporary with
  | none => pure ()
  | some content => do
    Prog.require (some content = pending.map .image) .unknown
    Prog.orFail (config.remove .temporary) .unknown

/-- `Reconcile` of a store whose durability is unknown, up to the drain. -/
def establish : Op Unit := do
  let w ← Prog.get
  check
  let raw ← Prog.orFail (config.read .metadata maxMetadataBytes) .unknown
  Prog.require (raw.isSome ∧ (raw = w.pending.map .image ∨ raw = some (.image w.state))) .unknown
  match raw.bind config.decodeSnapshot with
  | none => Prog.fail .unknown
  | some state => do
    let temporary ← Prog.orFail (config.read .temporary maxMetadataBytes) .unknown
    config.discardPending w.pending temporary
    syncDirectory
    Prog.orFail (config.inventoryFor state) .unknown
    Prog.modify fun w => { w with state := state, pending := none, unknown := false }

def reconcile : Op Unit := do
  Prog.look .denied
  let w ← Prog.get
  if w.unknown then config.establish else config.readyLocked
  config.drainLocked maxCleanups

def loadCredentialBinding (tenant : Store.TenantID) (connection : String) : Op (Option CredentialBinding) := do
  config.readyLocked
  Prog.require (tenant = config.scope.tenantID ∧ connection = config.scope.subscriptionConnectionID) .denied
  let w ← Prog.get
  pure w.state.binding

variable [Protocol.Crypto]

def expectsGeneration (v : Snapshot) (expected : Nat) : Bool :=
  match v.binding with
  | none => expected = 0
  | some b => !b.revoked && expected = b.generation

/-- The body of a candidate whose record is saved, and the record made ready. -/
def putBody (c : CandidateRecord) (plaintext : Bytes) : Op Unit := do
  Prog.look .unavailable
  match config.sealBody c plaintext with
  | none => Prog.fail .denied
  | some envelope => do
    Prog.modify fun w => { w with sealedBodies := w.sealedBodies + 1 }
    let w ← Prog.get
    Prog.handle (config.create (.body c.reference) envelope) (markUnknown w.state)
    config.saveLocked { w.state with candidates := readyLast w.state.candidates }

def putLocked (scope : CandidateScope) (plaintext : Bytes) (random : Protocol.Sum256) : Op SecretCandidate := do
  let w ← Prog.get
  Prog.require (config.scopeMatches scope ∧ plaintext ≠ [] ∧ plaintext.length ≤ maxAuthBytes ∧
    w.state.candidates.length < maxCandidates ∧ w.state.cleanups.length < maxCleanups - 1 ∧
    w.state.keyUses < maxKeyUses - 1 ∧ scope.expectedGeneration < maxUint64 - 1) .denied
  Prog.require (expectsGeneration w.state scope.expectedGeneration) .denied
  Prog.look .unavailable
  let c : CandidateRecord := ⟨hex random.val, scope.expectedGeneration, fingerprintCredential plaintext, plaintext.length, false⟩
  Prog.require (config.headerBytes c.header ≤ maxHeaderBytes) .denied
  config.space (config.size (.envelope c.header plaintext) + 2 * maxMetadataBytes)
  Prog.require (∀ old ∈ w.state.candidates, old.reference ≠ c.reference) .denied
  let found ← Prog.orFail (config.read (.body c.reference) maxEnvelopeBytes) .denied
  Prog.require (found.isNone) .denied
  config.saveLocked { w.state with keyUses := w.state.keyUses + 1, candidates := w.state.candidates ++ [c] }
  config.putBody c plaintext
  pure (config.candidatePort c)

def putCredentialCandidate (scope : CandidateScope) (plaintext : Bytes) (random : Protocol.Sum256) :
    Op SecretCandidate := do
  config.readyLocked
  config.putLocked scope plaintext random

def swapAllowed (v : Snapshot) (current : CredentialBinding) (expected : Nat) (next : CredentialBinding) : Bool :=
  expected < maxUint64 - 1 && config.bindingMatches next && !next.revoked && next.generation = expected + 1 &&
  next.provider = current.provider && next.authMode = current.authMode && next.entitlement = current.entitlement &&
  current.updatedAt ≤ next.updatedAt && next.secretRef ≠ current.secretRef && v.cleanups.length < maxCleanups - 1

def swapCandidate (expected : Nat) (next : CredentialBinding) (c : CandidateRecord) : Bool :=
  c.ready && c.expected = expected && c.reference = next.secretRef && c.fingerprint = next.secretFingerprint

def compareAndSwapCredentialBinding (expected : Nat) (next : CredentialBinding) : Op Bool := do
  config.readyLocked
  let w ← Prog.get
  match w.state.active.filter fun current => current.generation = expected with
  | none => pure false
  | some current => do
    Prog.require (config.swapAllowed w.state current expected next) .denied
    Prog.require (w.state.candidates.any (swapCandidate expected next)) .denied
    config.saveLocked
      { w.state with
        cleanups := w.state.cleanups ++ [⟨current.secretRef, current.generation, false⟩]
        binding := some next }
    pure true

def revokedResult (v : Snapshot) (current : CredentialBinding) : RevocationResult :=
  match v.cleanups.find? fun c => c.generation = current.generation - 1 with
  | some c => ⟨current, c.reference, c.generation⟩
  | none => ⟨current, "", 0⟩

def revokedBinding (current : CredentialBinding) (time : Int) : CredentialBinding :=
  { current with
    generation := current.generation + 1, revoked := true, entitlement := .disconnected, secretRef := "",
    secretFingerprint := "", updatedAt := time }

def revokeCredentialBinding (request : Scope) (time : Int) : Op RevocationResult := do
  config.readyLocked
  let w ← Prog.get
  Prog.require (request = config.scope ∧ time ≠ 0) .denied
  match w.state.binding with
  | none => Prog.fail .denied
  | some current =>
    if current.revoked then pure (revokedResult w.state current)
    else do
      Prog.require (current.generation ≠ maxUint64 ∧ w.state.cleanups.length < maxCleanups ∧ current.updatedAt ≤ time)
        .denied
      config.saveLocked
        { w.state with
          candidates := w.state.candidates.filter fun c => c.reference ≠ current.secretRef
          cleanups := w.state.cleanups ++ [⟨current.secretRef, current.generation, false⟩]
          binding := some (revokedBinding current time) }
      pure ⟨revokedBinding current time, current.secretRef, current.generation⟩

def readCurrentLocked (binding : CredentialBinding) (limit : Nat) : Op Bytes := do
  let raw ← Prog.orFail (config.read (.body binding.secretRef) maxEnvelopeBytes) .denied
  match raw.bind fun content => openCurrent content binding limit with
  | none => Prog.fail .denied
  | some plaintext => pure plaintext

def readCredentialSecret (binding : CredentialBinding) (limit : Int) : Op Bytes := do
  config.readyLocked
  let w ← Prog.get
  Prog.require (1 ≤ limit ∧ limit ≤ maxAuthBytes ∧ w.state.binding = some binding ∧ config.bindingMatches binding ∧
    binding.revoked = false) .denied
  config.readCurrentLocked binding limit.toNat

/-- A candidate is the one the active binding was made from. -/
def commits (binding : CredentialBinding) (candidate : SecretCandidate) : Bool :=
  binding.secretRef = candidate.reference && binding.secretFingerprint = candidate.fingerprint &&
  candidate.scope.expectedGeneration ≠ maxUint64 && binding.generation = candidate.scope.expectedGeneration + 1

def commitLocked (candidate : SecretCandidate) : Op Unit := do
  let w ← Prog.get
  Prog.require (config.scopeMatches candidate.scope) .denied
  match w.state.active.filter fun b => commits b candidate with
  | none => Prog.fail .denied
  | some b => do
    let _ ← config.readCurrentLocked b maxAuthBytes
    match w.state.candidates.find? fun c => config.candidatePort c = candidate with
    | none => pure ()
    | some c => do
      Prog.require c.ready .denied
      config.saveLocked
        { w.state with candidates := w.state.candidates.eraseP fun c => config.candidatePort c = candidate }

def commitCredentialCandidate (candidate : SecretCandidate) : Op Unit := do
  config.readyLocked
  config.commitLocked candidate

def recoverCredentialCandidate (binding : CredentialBinding) : Op Bool := do
  config.readyLocked
  let w ← Prog.get
  Prog.require (w.state.binding = some binding ∧ binding.revoked = false) .denied
  match w.state.candidates.find? fun c => c.reference = binding.secretRef with
  | some c => do
    config.commitLocked (config.candidatePort c)
    pure true
  | none => do
    let _ ← config.readCurrentLocked binding maxAuthBytes
    pure false

def initialBinding (registration : Registration) (candidate : SecretCandidate) : CredentialBinding :=
  { version := 1, tenantID := config.scope.tenantID, subscriptionConnectionID := config.scope.subscriptionConnectionID,
    ownerUserID := config.scope.ownerUserID, provider := registration.provider, authMode := registration.authMode,
    secretRef := candidate.reference, secretFingerprint := candidate.fingerprint, entitlement := registration.entitlement,
    generation := 1, revoked := false, updatedAt := registration.registeredAt }

/-- `Initialize`. -/
def initializeBinding (registration : Registration) (plaintext : Bytes) (random : Protocol.Sum256) : Op Unit := do
  config.readyLocked
  let w ← Prog.get
  Prog.require (w.state.binding = none ∧ registration.provider = "openai" ∧ registration.authMode = "chatgpt" ∧
    registration.entitlement = .active ∧ registration.registeredAt ≠ 0) .denied
  let candidate ← config.putLocked (config.scopeFor 0) plaintext random
  let w ← Prog.get
  config.saveLocked { w.state with binding := some (config.initialBinding registration candidate) }
  config.commitLocked candidate

omit [Protocol.Crypto]

def listUncommittedCredentialCandidates (scope : CandidateScope) (limit : Nat) : Op (List SecretCandidate) := do
  config.readyLocked
  Prog.require (config.scopeMatches scope ∧ limit ≠ 0 ∧ limit ≤ maxCandidates) .denied
  let w ← Prog.get
  pure (((w.state.candidates.filter fun c => c.expected = scope.expectedGeneration).take limit).map config.candidatePort)

def deleteCredentialCandidate (candidate : SecretCandidate) : Op Unit := do
  config.readyLocked
  let w ← Prog.get
  Prog.require (config.scopeMatches candidate.scope ∧ validReference candidate.reference ∧
    w.state.refersTo candidate.reference = false) .denied
  Prog.require (w.state.candidates.any fun c => config.candidatePort c = candidate) .denied
  config.removeLocked (.body candidate.reference)
  config.saveLocked
    { w.state with candidates := w.state.candidates.eraseP fun c => config.candidatePort c = candidate }

def cleans (reference : String) (generation : Nat) (c : CleanupRecord) : Bool :=
  c.reference = reference && c.generation = generation

def deleteCredentialSecret (scope : CandidateScope) (reference : String) : Op Unit := do
  config.readyLocked
  let w ← Prog.get
  Prog.require (config.scopeMatches scope ∧ validReference reference ∧ w.state.refersTo reference = false) .denied
  Prog.require (w.state.cleanups.any (cleans reference scope.expectedGeneration)) .denied
  config.removeLocked (.body reference)
  config.saveLocked { w.state with cleanups := w.state.cleanups.eraseP (cleans reference scope.expectedGeneration) }

/-- Whether the release of a handle is the one a cleanup intent waits for. -/
def awaits (generation : Nat) (c : CleanupRecord) : Bool :=
  (c.generation = generation || c.generation = generation + 1) && !c.released

def released (handle : Handle) (guarded : Bool) : Op Unit := do
  config.readyLocked
  let w ← Prog.get
  Prog.require (handle.wellFormed ∧ handle.scope = config.scope ∧ handle.bindingGeneration ≠ maxUint64 ∧ guarded) .denied
  if w.state.cleanups.any (awaits handle.bindingGeneration) then
    config.saveLocked
      { w.state with
        cleanups := w.state.cleanups.map fun c =>
          if awaits handle.bindingGeneration c then { c with released := true } else c }
  else pure ()

/-! ## Opening -/

def openFilesystem : Op Unit := do
  Prog.look .unavailable
  Prog.step .denied fun w => if (w.visible.lookup .lock).isSome then w else w.put .lock ⟨.other 0, true⟩
  Prog.look .busy
  Prog.orFail check .denied

/-- A temporary file next to the metadata has to be its authenticated next image, and is discarded. -/
def discardNext (state : Snapshot) (temporary : Option Content) : Op Unit :=
  match temporary with
  | none => pure ()
  | some content => do
    Prog.require ((config.decodeSnapshot content).any fun pending =>
      state.revision ≠ maxUint64 && pending.revision = state.revision + 1) .unknown
    Prog.orFail (config.remove .temporary) .unknown

/-- A temporary file without metadata has to be a first image in an otherwise empty root. -/
def discardInitial (temporary : Option Content) : Op Unit :=
  match temporary with
  | none => pure ()
  | some content => do
    let entries ← Prog.orFail config.entries .unknown
    Prog.require (entries.length = 2 ∧ (config.decodeSnapshot content).any fun initial =>
      initial.revision = 1 && initial.keyUses = 0 && initial.binding.isNone && initial.candidates.isEmpty &&
      initial.cleanups.isEmpty) .unknown
    Prog.orFail (config.remove .temporary) .unknown

/-- The state of a root, from its metadata or as that of a root never used. -/
def loadState (raw : Option Content) : Op Unit :=
  match raw with
  | some content =>
    match config.decodeSnapshot content with
    | none => Prog.fail .denied
    | some state => do
      Prog.modify fun w => { w with state := state }
      let temporary ← config.read .temporary maxMetadataBytes
      config.discardNext state temporary
  | none => do
    let temporary ← config.read .temporary maxMetadataBytes
    config.discardInitial temporary
    config.onlyLock
    Prog.require (config.encodable .initial) .denied
    config.writeAtomic (.image .initial)

def maximumHeader : EnvelopeHeader :=
  ⟨String.ofList (List.replicate 64 'f'), maxUint64 - 2, String.ofList (List.replicate 64 'f'), maxAuthBytes⟩

def restarted (w : World) : World :=
  { w with temporary := false, state := .initial, pending := none, unknown := false }

/-- `New`, up to the checks on the root path and on the key. -/
def newStore : Op Unit := do
  Prog.modify restarted
  Prog.look .denied
  Prog.require (config.scope.valid) .denied
  openFilesystem
  Prog.require (config.headerBytes maximumHeader ≤ maxHeaderBytes) .denied
  let raw ← config.read .metadata maxMetadataBytes
  config.loadState raw
  let w ← Prog.get
  config.inventoryFor w.state
  syncDirectory

end Config

end Sessionless.Credential
