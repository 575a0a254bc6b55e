import Sessionless.Credential.Recovery

/-!
# The credential over whole runs

A store is opened on a root, called, stopped or crashed, and opened again, in any order. A crash leaves, for each
name, the visible entry or the durable one. As long as a swap finds the body it makes active, the active credential is
never lost.
-/

namespace Sessionless.Credential

open Lib Prog

section

variable [Protocol.Crypto] {config : Config}

inductive Call
  | initialization (registration : Registration) (plaintext : Bytes) (random : Protocol.Sum256)
  | put (scope : CandidateScope) (plaintext : Bytes) (random : Protocol.Sum256)
  | compareAndSwap (expected : Nat) (next : CredentialBinding)
  | commit (candidate : SecretCandidate)
  | recover (binding : CredentialBinding)
  | deleteCandidate (candidate : SecretCandidate)
  | deleteSecret (scope : CandidateScope) (reference : String)
  | revoke (request : Scope) (time : Int)
  | released (handle : Handle) (guarded : Bool)
  | reconcile
  | load (tenant : Store.TenantID) (connection : String)
  | readSecret (binding : CredentialBinding) (limit : Int)
  | listUncommitted (scope : CandidateScope) (limit : Nat)
deriving DecidableEq, Repr

def Call.run (config : Config) : Call → Op Unit
  | .initialization registration plaintext random => config.initializeBinding registration plaintext random
  | .put scope plaintext random => do let _ ← config.putCredentialCandidate scope plaintext random
  | .compareAndSwap expected next => do let _ ← config.compareAndSwapCredentialBinding expected next
  | .commit candidate => config.commitCredentialCandidate candidate
  | .recover binding => do let _ ← config.recoverCredentialCandidate binding
  | .deleteCandidate candidate => config.deleteCredentialCandidate candidate
  | .deleteSecret scope reference => config.deleteCredentialSecret scope reference
  | .revoke request time => do let _ ← config.revokeCredentialBinding request time
  | .released handle guarded => config.released handle guarded
  | .reconcile => config.reconcile
  | .load tenant connection => do let _ ← config.loadCredentialBinding tenant connection
  | .readSecret binding limit => do let _ ← config.readCredentialSecret binding limit
  | .listUncommitted scope limit => do let _ ← config.listUncommittedCredentialCandidates scope limit

structure System where
  world : World
  isOpen : Bool

def System.fresh : System := ⟨⟨∅, ∅, false, .initial, none, false, 0⟩, false⟩

def crashed {α : Type} : Except (Stop CredentialError) α → Bool
  | .error .crashed => true
  | _ => false

/-- A call on an open store. A crash in it ends the process. -/
def System.call (config : Config) (s : System) (c : Call) (faults : List Fault) : System :=
  let result := c.run config faults s.world
  ⟨result.2.2, !crashed result.1⟩

omit [Protocol.Crypto] in
/-- `New` on a root without a store. -/
def System.reopen (config : Config) (s : System) (faults : List Fault) : System :=
  let result := config.newStore faults s.world
  ⟨result.2.2, result.1.isOk⟩

/-- What a crash makes of an entry: unsynced bytes may be anything. -/
def Survives (f g : Option File) : Prop := g = f ∨ ∃ file other, f = some file ∧ file.synced = false ∧ g = some other

structure Recovered (w t : World) : Prop where
  sealedBodies : t.sealedBodies = w.sealedBodies
  visible : ∀ name, Survives (w.visible.lookup name) (t.visible.lookup name) ∨
    Survives (w.durable.lookup name) (t.visible.lookup name)
  durable : ∀ name, t.durable.lookup name = t.visible.lookup name ∨
    Survives (w.durable.lookup name) (t.durable.lookup name)

/-- A swap finds the body of every ready candidate it may make active. -/
def Call.FindsBody (w : World) : Call → Prop
  | .compareAndSwap _ next => Finds w next
  | _ => True

/-- One step whose call, if it is one, is among those considered. -/
inductive Step (config : Config) (considered : World → Call → Prop) : System → System → Prop
  | call {s : System} (c : Call) (faults : List Fault) (hopen : s.isOpen = true) (hcall : considered s.world c) :
      Step config considered s (s.call config c faults)
  | stop {s : System} : Step config considered s ⟨s.world, false⟩
  | lose {s : System} {w : World} (hclosed : s.isOpen = false) (h : Recovered s.world w) :
      Step config considered s ⟨w, false⟩
  | reopen {s : System} (faults : List Fault) (hclosed : s.isOpen = false) :
      Step config considered s (s.reopen config faults)

def Run (config : Config) (considered : World → Call → Prop) : System → System → Prop :=
  Relation.ReflTransGen (Step config considered)

/-! ## Properties of a state -/

omit [Protocol.Crypto] in
def held (d : Directory) : Snapshot :=
  match d.lookup .metadata with
  | some ⟨.image v, _⟩ => v
  | _ => .initial

/-- A snapshot that stands for the store: in the memory of an open one, or in one of the directories. -/
def System.Stands (s : System) (S : Snapshot) : Prop :=
  S = held s.world.visible ∨ S = held s.world.durable ∨ s.isOpen = true ∧ S = s.world.state

structure Custody (s : System) : Prop where
  /-- The body of an active binding exists and opens to a plaintext with its fingerprint. -/
  active : ∀ S b, s.Stands S → S.active = some b → ∀ d, d = s.world.visible ∨ d = s.world.durable →
    ∃ file, d.lookup (.body b.secretRef) = some file ∧ Opens file.content b
  /-- Every body file is named by the binding, a candidate or a cleanup intent. -/
  named : ∀ S reference, s.Stands S → ∀ d, d = s.world.visible ∨ d = s.world.durable →
    (d.lookup (.body reference)).isSome = true → S.names reference = true
  /-- The durable counter covers the bodies sealed so far. -/
  counted : s.world.sealedBodies ≤ (held s.world.durable).keyUses

structure Onward (s t : System) : Prop where
  durable : Later (held s.world.durable) (held t.world.durable)
  state : s.isOpen = true → t.isOpen = true → Later s.world.state t.world.state

/-! ## Steps -/

omit [Protocol.Crypto] in
theorem Shows.held {d S} (h : Shows d S) : held d = S := by
  cases h with
  | inl h => simp [Credential.held, h]
  | inr h => simp [Credential.held, h.1, h.2]

theorem FitsAt.survives {S reference f g} (h : FitsAt S reference f) (hg : Survives f g) : FitsAt S reference g := by
  rcases hg with rfl | ⟨file, other, rfl, hunsynced, rfl⟩
  · exact h
  · refine ⟨?_, ?_, fun _ => h.named rfl⟩
    · intro b hb href
      obtain ⟨found, hfound, hsynced, _⟩ := h.active b hb href
      obtain rfl := Option.some.inj hfound
      simp [hunsynced] at hsynced
    · intro c hc hready href
      have hsynced := (h.ready c hc hready href file rfl).1
      simp [hunsynced] at hsynced

theorem Recovered.backed {w t S} (h : Recovered w t) (hS : Backed S w) : Backed S t where
  visible := by
    intro reference
    cases h.visible (.body reference) with
    | inl hvisible => exact (hS.visible reference).survives hvisible
    | inr hdurable => exact (hS.durable reference).survives hdurable
  durable := by
    intro reference
    cases h.durable (.body reference) with
    | inl hsame =>
      rw [hsame]
      cases h.visible (.body reference) with
      | inl hvisible => exact (hS.visible reference).survives hvisible
      | inr hdurable => exact (hS.durable reference).survives hdurable
    | inr hdurable => exact (hS.durable reference).survives hdurable
  counted := h.sealedBodies ▸ hS.counted

omit [Protocol.Crypto] in
theorem Shows.survives {d e S} (h : Shows d S) (he : Survives (d.lookup .metadata) (e.lookup .metadata)) : Shows e S := by
  rcases he with he | ⟨file, other, hfile, hunsynced, _⟩
  · exact h.congr he
  · cases h with
    | inl h =>
      rw [h] at hfile
      obtain rfl := Option.some.inj hfile
      simp at hunsynced
    | inr h =>
      rw [h.1] at hfile
      simp at hfile

theorem Recovered.falls {w t} (h : Recovered w t) : Falls w t := by
  rintro Q ⟨R, S, hstored, hlater⟩
  have hR := h.backed hstored.before
  have hS := h.backed hstored.after
  cases h.visible .metadata with
  | inl hvisible =>
    have hshown : Shows t.visible S := hstored.visible.survives hvisible
    cases h.durable .metadata with
    | inl hsame => exact ⟨S, S, ⟨hshown.congr hsame, hshown, hS, hS, .refl S⟩, hlater.trans hstored.later⟩
    | inr hdurable => exact ⟨R, S, ⟨hstored.durable.survives hdurable, hshown, hR, hS, hstored.later⟩, hlater⟩
  | inr hdurable =>
    have hshown : Shows t.visible R := hstored.durable.survives hdurable
    cases h.durable .metadata with
    | inl hsame => exact ⟨R, R, ⟨hshown.congr hsame, hshown, hR, hR, .refl R⟩, hlater⟩
    | inr hdurable' => exact ⟨R, R, ⟨hstored.durable.survives hdurable', hshown, hR, hR, .refl R⟩, hlater⟩

omit [Protocol.Crypto] in
theorem Meets.discard {α : Type} {c : Op α} {P : World → Prop} {Q C : World → Prop} {E : CredentialError → World → Prop}
    (h : Meets P c (fun _ => Q) E C) : Meets P (do let _ ← c) (fun _ => Q) E C :=
  h.bind fun _ => Meets.pure fun _ hs => hs

theorem Call.run_meets {w} (c : Call) (hw : Open w) (hfinds : c.FindsBody w) :
    Orderly w (c.run config) := by
  cases c with
  | initialization registration plaintext random => exact initializeBinding_meets hw registration plaintext random
  | put scope plaintext random => exact Meets.discard (putCredentialCandidate_meets hw scope plaintext random)
  | compareAndSwap expected next => exact Meets.discard (compareAndSwapCredentialBinding_meets hw hfinds)
  | commit candidate => exact commitCredentialCandidate_meets hw candidate
  | recover binding => exact Meets.discard (recoverCredentialCandidate_meets hw binding)
  | deleteCandidate candidate => exact deleteCredentialCandidate_meets hw candidate
  | deleteSecret scope reference => exact deleteCredentialSecret_meets hw scope reference
  | revoke request time => exact Meets.discard (revokeCredentialBinding_meets hw request time)
  | released handle guarded => exact released_meets hw handle guarded
  | reconcile => exact reconcile_meets hw
  | load tenant connection => exact Meets.discard (loadCredentialBinding_meets hw tenant connection)
  | readSecret binding limit => exact Meets.discard (readCredentialSecret_meets hw binding limit)
  | listUncommitted scope limit => exact Meets.discard (listUncommittedCredentialCandidates_meets hw scope limit)

/-- What every reachable state keeps: the root is in order since `Q`, and an open store's state is not before `B`. -/
structure Kept (Q B : Snapshot) (s : System) : Prop where
  since : Since Q s.world
  state : Since B s.world
  opened : s.isOpen = true → Open s.world ∧ Later B s.world.state

theorem Kept.falls {Q B s w} (h : Kept Q B s) (hw : Falls s.world w) : Kept Q B ⟨w, false⟩ :=
  ⟨hw Q h.since, hw B h.state, by simp⟩

theorem Step.keeps {Q B s t} (h : Step config Call.FindsBody s t) (hs : Kept Q B s) : Kept Q B t := by
  cases h with
  | call c faults hopen hfinds =>
    obtain ⟨hw, hB⟩ := hs.opened hopen
    have hend := @Call.run_meets _ config s.world c hw hfinds faults s.world rfl
    unfold System.call
    generalize c.run config faults s.world = result at hend
    obtain ⟨r, rest, w⟩ := result
    have hmoves : Moves s.world w → Kept Q B ⟨w, true⟩ := fun h =>
      ⟨h.since Q hs.since, h.since B hs.state, fun _ => ⟨h.isOpen, hB.trans h.state⟩⟩
    cases r with
    | ok a => exact hmoves hend
    | error stop =>
      cases stop with
      | failed e => exact hmoves hend
      | crashed => exact hs.falls hend
  | stop => exact hs.falls fun _ h => h
  | lose hclosed h => exact hs.falls h.falls
  | reopen faults hclosed =>
    have hend := @newStore_meets config s.world _ Q hs.since faults s.world rfl
    unfold System.reopen
    generalize config.newStore faults s.world = result at hend
    obtain ⟨r, rest, w⟩ := result
    cases r with
    | ok a =>
      obtain ⟨hrunning, hfalls⟩ := hend
      exact ⟨hfalls Q hs.since, hfalls B hs.state,
        fun _ => ⟨.inl hrunning, (hrunning.since_iff B).mp (hfalls B hs.state)⟩⟩
    | error stop =>
      cases stop with
      | failed e => exact hs.falls hend
      | crashed => exact hs.falls hend

theorem Run.keeps {Q B s t} (h : Run config Call.FindsBody s t) (hs : Kept Q B s) : Kept Q B t := by
  induction h with
  | refl => exact hs
  | tail _ hstep ih => exact hstep.keeps ih

theorem Kept.fresh : Kept .initial .initial System.fresh := by
  have hfits : Fits .initial (∅ : Directory) := by
    intro reference
    have hnone : (∅ : Directory).lookup (.body reference) = none := AList.lookup_empty _
    rw [hnone]
    exact fitsAt_none rfl
  have hbacked : Backed .initial System.fresh.world := ⟨hfits, hfits, Nat.zero_le _⟩
  have hshows : Shows (∅ : Directory) .initial := .inr ⟨AList.lookup_empty _, rfl⟩
  have hsince : Since .initial System.fresh.world := ⟨_, _, ⟨hshows, hshows, hbacked, hbacked, .refl _⟩, .refl _⟩
  exact ⟨hsince, hsince, by simp [System.fresh]⟩

theorem Kept.backed {Q B s S} (h : Kept Q B s) (hS : s.Stands S) : Backed S s.world := by
  obtain ⟨R, T, hstored, _⟩ := h.since
  rcases hS with rfl | rfl | ⟨hopen, rfl⟩
  · exact hstored.visible.held ▸ hstored.after
  · exact hstored.durable.held ▸ hstored.before
  · cases (h.opened hopen).1 with
    | inl hrunning => exact hrunning.stored.after
    | inr hunsure => exact hunsure.backed

theorem Kept.custody {Q B s} (h : Kept Q B s) : Custody s where
  active := by
    intro S b hS hb d hd
    have hfits : Fits S d := by
      rcases hd with rfl | rfl
      · exact (h.backed hS).visible
      · exact (h.backed hS).durable
    obtain ⟨file, hfile, _, hopens⟩ := (hfits b.secretRef).active b hb rfl
    exact ⟨file, hfile, hopens⟩
  named := by
    intro S reference hS d hd hsome
    rcases hd with rfl | rfl
    · exact ((h.backed hS).visible reference).named hsome
    · exact ((h.backed hS).durable reference).named hsome
  counted := (h.backed (.inr (.inl rfl))).counted

/-- In every run in which each swap finds its body, the active credential is kept in every state, and generations
and revocations only go on. -/
theorem active_credential_kept {s t} (hreach : Run config Call.FindsBody System.fresh s) (hrun : Run config Call.FindsBody s t) :
    Custody t ∧ Onward s t := by
  have hs : Kept .initial .initial s := hreach.keeps Kept.fresh
  obtain ⟨R, S, hstored, _⟩ := hs.since
  have hdurable : Since (held s.world.durable) s.world := by
    rw [hstored.durable.held]
    exact ⟨R, S, hstored, .refl R⟩
  have hkept : Kept (held s.world.durable) .initial t :=
    hrun.keeps ⟨hdurable, hs.state, fun hopen => hs.opened hopen⟩
  refine ⟨hkept.custody, ?_, ?_⟩
  · obtain ⟨R', S', hstored', hlater⟩ := hkept.since
    rwa [hstored'.durable.held]
  · intro hopen hopen'
    have hstate : Since s.world.state s.world := (hs.opened hopen).1.since (.refl _)
    have hkept' : Kept .initial s.world.state t :=
      hrun.keeps ⟨hs.since, hstate, fun _ => ⟨(hs.opened hopen).1, .refl _⟩⟩
    exact (hkept'.opened hopen').2

end

namespace Sample

/-- The digests that SHA-256 gives the two plaintexts below. -/
scoped instance crypto : Protocol.Crypto where
  sha256 value :=
    if value = [97] then
      .ofBytes [0xca, 0x97, 0x81, 0x12, 0xca, 0x1b, 0xbd, 0xca, 0xfa, 0xc2, 0x31, 0xb3, 0x9a, 0x23, 0xdc, 0x4d, 0xa7, 0x86,
        0xef, 0xf8, 0x14, 0x7c, 0x4e, 0x72, 0xb9, 0x80, 0x77, 0x85, 0xaf, 0xee, 0x48, 0xbb]
    else if value = [98] then
      .ofBytes [0x3e, 0x23, 0xe8, 0x16, 0x00, 0x39, 0x59, 0x4a, 0x33, 0x89, 0x4f, 0x65, 0x64, 0xe1, 0xb1, 0x34, 0x8b, 0xbd,
        0x7a, 0x00, 0x88, 0xd4, 0x2c, 0x4a, 0xcb, 0x73, 0xee, 0xae, 0xd5, 0x9c, 0x00, 0x9d]
    else .zero
  ed25519Verify _ _ _ := false

def scope : Scope := ⟨"tenant", "user", "connection"⟩

def config : Config := ⟨scope, fun _ => 1000, fun _ => 400⟩

def random (b : UInt8) : Protocol.Sum256 := ⟨List.replicate 32 b, by simp⟩

/-- The second generation, made from the candidate of the plaintext `b`. -/
def next : CredentialBinding :=
  { version := 1, tenantID := "tenant", subscriptionConnectionID := "connection", ownerUserID := "user",
    provider := "openai", authMode := "chatgpt", secretRef := hex (random 2).val,
    secretFingerprint := fingerprintCredential [98], entitlement := .active, generation := 2, revoked := false,
    updatedAt := 1 }

def candidate : SecretCandidate := ⟨⟨scope, 1⟩, next.secretRef, next.secretFingerprint⟩

def opened : System := System.fresh.reopen config []

def initialized : System := opened.call config (.initialization ⟨"openai", "chatgpt", .active, 1⟩ [97] (random 1)) []

def prepared : System := initialized.call config (.put ⟨scope, 1⟩ [98] (random 2)) []

/-- The candidate is deleted, but the rename that ends the save of the metadata fails. -/
def undeleted : System := prepared.call config (.deleteCandidate candidate) (List.replicate 23 .ok ++ [.fail])

end Sample

open Sample in
/-- After a failed delete the swap makes a binding active whose body is gone, and even a revocation is refused. -/
theorem swap_without_body :
    let lost := undeleted.call Sample.config (.compareAndSwap 1 next) []
    lost.isOpen = true ∧ lost.world.state.active = some next ∧
      lost.world.visible.lookup (.body next.secretRef) = none ∧
      (lost.call Sample.config (.revoke scope 1) []).world.state.active = some next := by
  decide +kernel

open Sample in
/-- The same swap without the delete finds the body. -/
theorem active_credential_kept_swap :
    (prepared.call Sample.config (.compareAndSwap 1 next) []).world.state.active = some next ∧
      Custody (prepared.call Sample.config (.compareAndSwap 1 next) []) ∧
      Onward initialized (prepared.call Sample.config (.compareAndSwap 1 next) []) := by
  have hfirst : Run Sample.config Call.FindsBody System.fresh initialized :=
    .tail (.single (.reopen [] rfl)) (.call _ [] (by decide +kernel) trivial)
  have hfinds : Finds prepared.world next := by
    unfold Finds
    decide +kernel
  have hput : Step Sample.config Call.FindsBody initialized prepared := .call _ [] (by decide +kernel) trivial
  have hrest : Run Sample.config Call.FindsBody initialized (prepared.call Sample.config (.compareAndSwap 1 next) []) :=
    .tail (.single hput) (.call _ [] (by decide +kernel) hfinds)
  exact ⟨by decide +kernel, active_credential_kept hfirst hrest⟩

end Sessionless.Credential
