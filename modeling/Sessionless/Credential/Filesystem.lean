import Mathlib.Algebra.GroupWithZero.Nat
import Mathlib.Data.List.AList
import Sessionless.Credential.Record
import Sessionless.Lib.Crash

/-!
# The private root directory

The directory operations of `filesystem_unix.go` as programs whose steps may fail or be followed by a crash. A
directory is kept twice: as the running system shows it, and as the last directory sync left it on disk. There is no
other writer, so inode checks can only fail.
-/

namespace Sessionless.Credential

open Lib

inductive Name
  | lock
  | metadata
  | temporary
  | body (reference : String)
deriving DecidableEq, Repr

structure File where
  content : Content
  synced : Bool
deriving DecidableEq, Repr

abbrev Directory := AList fun _ : Name => File

/-- The root directory and the memory of the store that owns it. -/
structure World where
  visible : Directory
  durable : Directory
  /-- `tempInode` is set: the temporary file is known to be the owner's. -/
  temporary : Bool
  state : Snapshot
  pending : Option Snapshot
  unknown : Bool
  /-- How many bodies were ever sealed. The store does not keep this number. -/
  sealedBodies : Nat

abbrev Op := Prog World CredentialError

/-- The root and the lock are still the ones that were opened. -/
def check : Op Unit := do
  let w ← Prog.get
  Prog.require ((w.visible.lookup .lock).isSome) .denied
  Prog.look .denied

/-- What reading or making a file says about the temporary one. -/
def identify (name : Name) (w : World) : World := if name = .temporary then { w with temporary := true } else w

namespace Config

variable (config : Config)

/-- A read of a file that is there, once it passed the checks on its size. -/
def readFile (name : Name) (limit : Nat) (file : File) : Op (Option Content) := do
  Prog.require (config.size file.content ≤ limit ∧ config.size file.content ≠ 0) .denied
  Prog.look .unavailable
  Prog.modify (identify name)
  pure (some file.content)

def read (name : Name) (limit : Nat) : Op (Option Content) := do
  check
  Prog.look .denied
  let w ← Prog.get
  match w.visible.lookup name with
  | none => pure none
  | some file => config.readFile name limit file

end Config

def syncDirectory : Op Unit := Prog.step .unknown fun w => { w with durable := w.visible }

def World.put (w : World) (name : Name) (file : File) : World := { w with visible := w.visible.insert name file }

def World.unlink (w : World) (name : Name) : World := { w with visible := w.visible.erase name }

namespace Config

variable (config : Config)

def sizes (w : World) : List (Name × Nat) := w.visible.entries.map fun entry => (entry.1, config.size entry.2.content)

def entries : Op (List (Name × Nat)) := do
  check
  Prog.look .denied
  let w ← Prog.get
  let result := config.sizes w
  Prog.require
    (result.length ≤ 14 ∧ (∀ entry ∈ result, entry.2 ≤ maxEnvelopeBytes) ∧ (result.map Prod.snd).sum ≤ maxDiskBytes) .denied
  pure result

def onlyLock : Op Unit := do
  let entries ← Prog.orFail config.entries .denied
  Prog.require (entries.length = 1 ∧ (entries.lookup .lock).getD 0 = 0) .denied

def space (extra : Nat) : Op Unit := do
  let entries ← config.entries
  Prog.require (extra ≤ maxDiskBytes ∧ (entries.map Prod.snd).sum ≤ maxDiskBytes - extra) .denied
  Prog.look .unavailable

/-- Makes a new file. A write that fails leaves a part of the bytes. -/
def create (name : Name) (content : Content) : Op Unit := do
  check
  Prog.require (config.size content ≠ 0 ∧ config.size content ≤ maxEnvelopeBytes) .denied
  Prog.orFail (config.space (config.size content)) .unavailable
  let w ← Prog.get
  Prog.require ((w.visible.lookup name).isNone) .denied
  Prog.step .denied fun w => w.put name ⟨.other 0, false⟩
  Prog.look .denied
  Prog.modify (identify name)
  Prog.stepOr .unavailable (fun w => w.put name ⟨content, false⟩) (fun w => w.put name ⟨.other 0, false⟩)
  Prog.step .unknown fun w => w.put name ⟨content, true⟩
  syncDirectory

def removeFile (name : Name) (file : File) : Op Unit := do
  let w ← Prog.get
  Prog.require (config.size file.content ≤ maxEnvelopeBytes) .denied
  Prog.require (name ≠ .temporary ∨ w.temporary) .denied
  Prog.step .unavailable fun w => w.unlink name
  syncDirectory

def remove (name : Name) : Op Unit := do
  check
  Prog.look .denied
  let w ← Prog.get
  match w.visible.lookup name with
  | none => syncDirectory
  | some file => config.removeFile name file

def discardTemporary : Op Unit := do
  Prog.orFail (config.remove .temporary) .unknown
  Prog.fail .unavailable

/-- `Renameat` of the temporary file onto the metadata. -/
def rename (content : Content) (w : World) : World := (w.unlink .temporary).put .metadata ⟨content, true⟩

def writeAtomic (content : Content) : Op Unit := do
  Prog.require (config.size content ≤ maxMetadataBytes) .denied
  check
  Prog.modify fun w => { w with temporary := false }
  Prog.handle (config.create .temporary content) fun e => do
    let w ← Prog.get
    if w.temporary then config.discardTemporary else Prog.fail e
  Prog.look .unknown
  Prog.handle (Prog.step .unavailable (rename content)) fun _ => config.discardTemporary
  Prog.modify fun w => { w with temporary := false }
  syncDirectory

end Config

end Sessionless.Credential
