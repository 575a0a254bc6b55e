import Sessionless.Credential.Codec
import Sessionless.Credential.Custody

/-!
# Room for a revocation

The state of an open store passed its validation, whatever calls and crashes came before, and the validation leaves
room for the revoked snapshot: a cleanup slot, a generation, a revision, and its size at any time that has a JSON
text.
-/

namespace Sessionless.Credential

open Lib Prog

section

variable [Protocol.Crypto] {config : Config}

def Valid (config : Config) (w : World) : Prop := config.validateSnapshot w.state = true

/-- A program that ends with a valid state, unless it crashes. -/
def Settles (config : Config) {α : Type} (c : Op α) : Prop :=
  Meets (Valid config) c (fun _ => Valid config) (fun _ => Valid config) fun _ => True

namespace Settles

omit [Protocol.Crypto]

theorem bind {α β : Type} {c : Op α} {f : α → Op β} (h : Settles config c) (hf : ∀ a, Settles config (f a)) :
    Settles config (c >>= f) := Meets.bind h hf

theorem get {β : Type} {f : World → Op β} (h : ∀ w, Settles config (f w)) : Settles config (Prog.get >>= f) :=
  Meets.get_bind fun w hw => (h w).of fun _ hs => hs ▸ hw

theorem require {β : Type} {p : Prop} [Decidable p] {e : CredentialError} {f : Unit → Op β} (h : p → Settles config (f ())) :
    Settles config (Prog.require p e >>= f) := Meets.require_bind h fun _ _ hw => hw

theorem pure {α : Type} (a : α) : Settles config (Pure.pure a) := Meets.pure fun _ hw => hw

theorem fail {α : Type} (e : CredentialError) : Settles config (Prog.fail e : Op α) := Meets.fail fun _ hw => hw

theorem orFail {α : Type} {c : Op α} {e : CredentialError} (h : Settles config c) : Settles config (Prog.orFail c e) :=
  Meets.orFail h

theorem handle {α : Type} {c : Op α} {g : CredentialError → Op α} (h : Settles config c) (hg : ∀ e, Settles config (g e)) :
    Settles config (Prog.handle c g) := Meets.handle h hg

theorem look (e : CredentialError) : Settles config (Prog.look e) := Meets.look (fun _ hw => hw) fun _ _ => trivial

theorem of_frame {α : Type} {c : Op α} (h : ∀ w, Meets (fun s => s = w) c (fun _ t => t.state = w.state)
    (fun _ t => t.state = w.state) fun _ => True) : Settles config c := by
  refine Meets.named fun w hw => (h w).imp ?_ ?_ fun _ _ => trivial
  · intro _ t ht
    rw [Valid, ht]
    exact hw
  · intro _ t ht
    rw [Valid, ht]
    exact hw

theorem modify {f : World → World} (h : ∀ w, (f w).state = w.state) : Settles config (Prog.modify f) :=
  of_frame fun _ => Meets.modify fun s hs => hs ▸ h s

theorem check : Settles config check := check_keeps.imp (fun _ _ h => h) (fun _ _ h => h) fun _ _ => trivial

theorem read (name : Name) (limit : Nat) : Settles config (config.read name limit) :=
  (read_keeps (fun _ _ hw => hw) name limit).imp (fun _ _ h => h.1) (fun _ _ h => h) fun _ _ => trivial

theorem space (extra : Nat) : Settles config (config.space extra) :=
  (space_keeps extra).imp (fun _ _ h => h) (fun _ _ h => h) fun _ _ => trivial

theorem inventoryFor (state : Snapshot) : Settles config (config.inventoryFor state) :=
  (inventoryFor_keeps state).imp (fun _ _ h => h) (fun _ _ h => h) fun _ _ => trivial

theorem syncDirectory : Settles config syncDirectory :=
  of_frame fun _ => Meets.step (fun _ hs => hs ▸ rfl) (fun _ hs => hs ▸ rfl) fun _ _ => trivial

theorem create (name : Name) (content : Content) : Settles config (config.create name content) :=
  of_frame fun w => (create_meets name content w).imp (fun _ _ h => h.2.1.state)
    (fun _ _ h => h.elim Only.state fun h => h.2.state) fun _ _ => trivial

theorem remove (name : Name) : Settles config (config.remove name) :=
  of_frame fun w => (remove_meets name w).imp (fun _ _ h => h.1.state) (fun _ _ h => Only.state h) fun _ _ => trivial

theorem writeAtomic (content : Content) : Settles config (config.writeAtomic content) :=
  of_frame fun w => (writeAtomic_meets content w).imp (fun _ _ h => h.1.state)
    (fun _ _ h => h.elim Only.state fun h => h.2.state) fun _ _ => trivial

theorem readyLocked : Settles config config.readyLocked :=
  of_frame fun w => (readyLocked_meets w).imp (fun _ _ h => h.1.calm.state) (fun _ _ h => h.calm.state) fun _ _ => trivial

theorem markUnknown (pending : Snapshot) (e : CredentialError) : Settles config (Config.markUnknown pending e) :=
  bind (modify fun w => by split <;> rfl) fun _ => fail e

theorem encodable_valid {v : Snapshot} (h : config.encodable v = true) : config.validateSnapshot v = true := by
  simp only [Config.encodable, Bool.and_eq_true] at h
  exact h.1.1

theorem saveLocked (next : Snapshot) : Settles config (config.saveLocked next) :=
  get fun _ => require fun _ => require fun hnext =>
    bind (handle (writeAtomic _) (markUnknown _)) fun _ => Meets.modify fun _ _ => encodable_valid hnext

theorem removeLocked (name : Name) : Settles config (config.removeLocked name) :=
  get fun _ => handle (remove name) (markUnknown _)

theorem drainLocked (count : Nat) : Settles config (config.drainLocked count) := by
  induction count with
  | zero => exact pure ()
  | succ count ih =>
    refine get fun w => ?_
    split
    · exact pure ()
    · exact require fun _ => bind (removeLocked _) fun _ => bind (saveLocked _) fun _ => ih

theorem decodeSnapshot_valid {content : Content} {v : Snapshot} (h : config.decodeSnapshot content = some v) :
    config.validateSnapshot v = true := by
  unfold Config.decodeSnapshot at h
  split at h
  · split at h
    · rename_i hvalid
      obtain rfl := Option.some.inj h
      exact hvalid.2
    · simp at h
  · simp at h

theorem discardPending (pending : Option Snapshot) (temporary : Option Content) :
    Settles config (config.discardPending pending temporary) := by
  unfold Config.discardPending
  split
  · exact pure ()
  · exact require fun _ => orFail (remove _)

theorem establish : Settles config config.establish := by
  refine get fun w => bind check fun _ => bind (orFail (read _ _)) fun raw => require fun _ => ?_
  split
  · exact fail _
  · rename_i state hstate
    obtain ⟨content, _, hdecode⟩ := Option.bind_eq_some_iff.mp hstate
    exact bind (orFail (read _ _)) fun _ => bind (discardPending _ _) fun _ => bind syncDirectory fun _ =>
      bind (orFail (inventoryFor _)) fun _ => Meets.modify fun _ _ => decodeSnapshot_valid hdecode

theorem reconcile : Settles config config.reconcile := by
  refine bind (look _) fun _ => get fun w => ?_
  split
  · exact bind establish fun _ => drainLocked _
  · exact bind readyLocked fun _ => drainLocked _

end Settles

theorem readCurrentLocked_settles (binding : CredentialBinding) (limit : Nat) :
    Settles config (config.readCurrentLocked binding limit) :=
  .of_frame fun w => (readCurrentLocked_meets w binding limit).imp (fun _ _ h => h.calm.state) (fun _ _ h => h.calm.state)
    fun _ _ => trivial

theorem commitLocked_settles (candidate : SecretCandidate) : Settles config (config.commitLocked candidate) := by
  refine .get fun w => .require fun _ => ?_
  split
  · exact .fail _
  · refine .bind (readCurrentLocked_settles _ _) fun _ => ?_
    split
    · exact .pure ()
    · exact .require fun _ => .saveLocked _

theorem putBody_settles (c : CandidateRecord) (plaintext : Bytes) : Settles config (config.putBody c plaintext) := by
  refine .bind (.look _) fun _ => ?_
  split
  · exact .fail _
  · exact .bind (.modify fun _ => rfl) fun _ => .get fun _ =>
      .bind (.handle (.create _ _) (.markUnknown _)) fun _ => .saveLocked _

theorem putLocked_settles (scope : CandidateScope) (plaintext : Bytes) (random : Protocol.Sum256) :
    Settles config (config.putLocked scope plaintext random) :=
  .get fun _ => .require fun _ => .require fun _ => .bind (.look _) fun _ => .require fun _ => .bind (.space _) fun _ =>
    .require fun _ => .bind (.orFail (.read _ _)) fun _ => .require fun _ => .bind (.saveLocked _) fun _ =>
      .bind (putBody_settles _ _) fun _ => .pure _

theorem Call.run_settles (c : Call) : Settles config (c.run config) := by
  cases c with
  | initialization registration plaintext random =>
    exact .bind .readyLocked fun _ => .get fun _ => .require fun _ => .bind (putLocked_settles _ _ _) fun _ => .get fun _ =>
      .bind (.saveLocked _) fun _ => commitLocked_settles _
  | put scope plaintext random =>
    exact .bind (.bind .readyLocked fun _ => putLocked_settles _ _ _) fun _ => .pure _
  | compareAndSwap expected next =>
    refine .bind (.bind .readyLocked fun _ => .get fun w => ?_) fun _ => .pure _
    split
    · exact .pure _
    · exact .require fun _ => .require fun _ => .bind (.saveLocked _) fun _ => .pure _
  | commit candidate => exact .bind .readyLocked fun _ => commitLocked_settles _
  | recover binding =>
    refine .bind (.bind .readyLocked fun _ => .get fun w => .require fun _ => ?_) fun _ => .pure _
    split
    · exact .bind (commitLocked_settles _) fun _ => .pure _
    · exact .bind (readCurrentLocked_settles _ _) fun _ => .pure _
  | deleteCandidate candidate | deleteSecret scope reference =>
    exact .bind .readyLocked fun _ => .get fun _ => .require fun _ => .require fun _ => .bind (.removeLocked _) fun _ =>
      .saveLocked _
  | revoke request time =>
    refine .bind (.bind .readyLocked fun _ => .get fun w => .require fun _ => ?_) fun _ => .pure _
    split
    · exact .fail _
    · split
      · exact .pure _
      · exact .require fun _ => .bind (.saveLocked _) fun _ => .pure _
  | released handle guarded =>
    refine .bind .readyLocked fun _ => .get fun w => .require fun _ => ?_
    split
    · exact .saveLocked _
    · exact .pure _
  | reconcile => exact .reconcile
  | load tenant connection =>
    exact .bind (.bind .readyLocked fun _ => .require fun _ => .get fun _ => .pure _) fun _ => .pure _
  | readSecret binding limit =>
    exact .bind (.bind .readyLocked fun _ => .get fun _ => .require fun _ => readCurrentLocked_settles _ _) fun _ => .pure _
  | listUncommitted scope limit =>
    exact .bind (.bind .readyLocked fun _ => .require fun _ => .get fun _ => .pure _) fun _ => .pure _

omit [Protocol.Crypto] in
theorem newStore_settles : Meets (fun _ => True) config.newStore (fun _ => Valid config) (fun _ _ => True) fun _ => True := by
  have hrest : Settles config (do
      Prog.look .denied
      Prog.require config.scope.valid .denied
      Config.openFilesystem
      Prog.require (config.headerBytes Config.maximumHeader ≤ maxHeaderBytes) .denied
      let raw ← config.read .metadata maxMetadataBytes
      config.loadState raw
      let w ← Prog.get
      config.inventoryFor w.state
      syncDirectory) := by
    have hopen : Settles config Config.openFilesystem :=
      .bind (.look _) fun _ => .bind (.of_frame fun _ => Meets.step (fun _ hs => hs ▸ by split <;> rfl) (fun _ hs => hs ▸ rfl)
        fun _ _ => trivial) fun _ => .bind (.look _) fun _ => .orFail .check
    have hload : ∀ raw, Settles config (config.loadState raw) := by
      intro raw
      unfold Config.loadState
      split
      · split
        · exact .fail _
        · rename_i state hdecode
          refine .bind (Meets.modify fun _ _ => Settles.decodeSnapshot_valid hdecode) fun _ => .bind (.read _ _) fun _ => ?_
          unfold Config.discardNext
          split
          · exact .pure ()
          · exact .require fun _ => .orFail (.remove _)
      · refine .bind (.read _ _) fun _ => .bind ?_ fun _ => .bind ?_ fun _ => .require fun _ => .writeAtomic _
        · unfold Config.discardInitial
          split
          · exact .pure ()
          · exact .bind (.orFail (entries_keeps.imp (fun _ _ h => h.1) (fun _ _ h => h) fun _ _ => trivial)) fun _ =>
              .require fun _ => .orFail (.remove _)
        · exact onlyLock_keeps.imp (fun _ _ h => h) (fun _ _ h => h) fun _ _ => trivial
    exact .bind (.look _) fun _ => .require fun _ => .bind hopen fun _ => .require fun _ => .bind (.read _ _) fun _ =>
      .bind (hload _) fun _ => .get fun _ => .bind (.inventoryFor _) fun _ => .syncDirectory
  refine Meets.bind (Q := fun _ => Valid config) (Meets.modify fun _ _ => rfl) fun _ => ?_
  exact Meets.imp hrest (fun _ _ h => h) (fun _ _ _ => trivial) fun _ h => h

theorem Run.valid {considered s} (h : Run config considered System.fresh s) (hopen : s.isOpen = true) :
    Valid config s.world := by
  induction h with
  | refl => simp [System.fresh] at hopen
  | tail _ hstep ih =>
    cases hstep with
    | call c faults hbefore _ =>
      have hend := @Call.run_settles _ config c faults _ (ih hbefore)
      unfold System.call at hopen ⊢
      generalize c.run config faults _ = result at hend hopen
      obtain ⟨r, rest, w⟩ := result
      cases r with
      | ok a => exact hend
      | error stop =>
        cases stop with
        | failed e => exact hend
        | crashed => simp [crashed] at hopen
    | stop => simp at hopen
    | lose _ _ => simp at hopen
    | reopen faults _ =>
      rename_i s _ _
      have hend := @newStore_settles config faults s.world trivial
      unfold System.reopen at hopen ⊢
      generalize config.newStore faults s.world = result at hend hopen
      obtain ⟨r, rest, w⟩ := result
      cases r with
      | ok a => exact hend
      | error stop => simp [Except.isOk, Except.toBool] at hopen

end

/-! ## The revoked snapshot -/

section

def revokedSnapshot (v : Snapshot) (current : CredentialBinding) (time : Int) : Snapshot :=
  { revision := v.revision + 1
    keyUses := v.keyUses
    binding := some (Config.revokedBinding current time)
    candidates := v.candidates.filter fun c => c.reference ≠ current.secretRef
    cleanups := v.cleanups ++ [⟨current.secretRef, current.generation, false⟩] }

theorem reference_ne_empty {v : String} (h : validReference v = true) : v ≠ "" := by
  rintro rfl
  simp [validReference] at h
  exact absurd h (by decide +kernel)

theorem revokedBinding_valid {b : CredentialBinding} {time : Int} (h : b.valid = true) (htime : time ≠ 0) :
    (Config.revokedBinding b time).valid = true := by
  simp only [CredentialBinding.valid, Bool.and_eq_true] at h ⊢
  obtain ⟨⟨⟨⟨hids, _⟩, _⟩, _⟩, _⟩ := h
  refine ⟨⟨⟨⟨hids, ?_⟩, rfl⟩, by simp [Config.revokedBinding]⟩, decide_eq_true htime⟩
  simp [Config.revokedBinding]

variable {identity : RootIdentity} {scope : Scope} {v : Snapshot} {b : CredentialBinding} {time : Int}

theorem revocation_room {config : Config} (hvalid : config.validateSnapshot v = true) (hactive : v.active = some b) :
    v.revision ≠ maxUint64 ∧ b.generation < maxUint64 ∧ v.cleanups.length < maxCleanups := by
  obtain ⟨hbinding, hrevoked⟩ := active_iff.mp hactive
  simp only [Config.validateSnapshot, hbinding, hactive, Option.all_some, Option.isSome_some, Bool.and_eq_true,
    decide_eq_true_eq, Bool.not_eq_true', decide_eq_false_iff_not, not_le, Bool.true_and, Config.validBinding,
    Config.bindingMatches, hrevoked, Bool.or_false, Bool.false_or] at hvalid
  obtain ⟨⟨⟨⟨⟨_, hb⟩, _⟩, _⟩, _⟩, hslot⟩ := hvalid
  obtain ⟨⟨⟨⟨hlast, _⟩, _, hroom⟩, _⟩, _⟩ := hb
  exact ⟨hlast, hroom, hslot⟩

/-- A valid snapshot with an active binding leaves a cleanup slot, a generation and a revision for its revocation. -/
theorem revokedSnapshot_valid {config : Config} (hvalid : config.validateSnapshot v = true) (hactive : v.active = some b)
    (htime : time ≠ 0) : config.validateSnapshot (revokedSnapshot v b time) = true := by
  obtain ⟨hbinding, hrevoked⟩ := active_iff.mp hactive
  simp only [Config.validateSnapshot, Snapshot.isUint64, hbinding, hactive, Option.all_some, Option.isSome_some,
    Bool.and_eq_true, decide_eq_true_eq, List.all_eq_true, Bool.not_eq_true', Bool.true_and, decide_eq_false_iff_not,
    not_le, Config.validBinding, Config.bindingMatches, hrevoked, Bool.or_false, Bool.false_or] at hvalid
  obtain ⟨⟨⟨⟨⟨⟨⟨⟨⟨⟨⟨hrevision, hgeneration⟩, hgenerations⟩, _⟩, huses⟩, hcandidates⟩, _⟩, hb⟩, hcandidate⟩, hcleanup⟩,
    hnodup⟩, hslot⟩ := hvalid
  obtain ⟨⟨⟨⟨hlast, href⟩, ⟨⟨⟨⟨hb, htenant⟩, howner⟩, hconnection⟩, hroom⟩⟩, hprovider⟩, hmode⟩ := hb
  have hnew : b.secretRef ∉ v.cleanups.map (·.reference) := by
    intro hmem
    obtain ⟨c, hc, heq⟩ := List.mem_map.mp hmem
    have hother := hcleanup c hc
    simp [Config.validCleanup, Snapshot.refersTo, hbinding, heq] at hother
  have hpositive : b.generation ≠ 0 := by
    simp only [CredentialBinding.valid, Bool.and_eq_true, decide_eq_true_eq] at hb
    exact hb.1.2
  simp only [Config.validateSnapshot, Snapshot.isUint64, Bool.and_eq_true, decide_eq_true_eq, List.all_eq_true]
  refine ⟨⟨⟨⟨⟨⟨⟨⟨⟨⟨⟨?_, ?_⟩, ?_⟩, Nat.succ_ne_zero _⟩, huses⟩, ?_⟩, ?_⟩, ?_⟩, ?_⟩, ?_⟩, ?_⟩, ?_⟩
  · exact Nat.lt_of_le_of_ne hrevision hlast
  · simp only [revokedSnapshot, Config.revokedBinding, Option.all_some, decide_eq_true_eq]
    omega
  · intro c hc
    rcases List.mem_append.mp hc with hc | hc
    · exact hgenerations c hc
    · rw [List.mem_singleton.mp hc]
      exact hroom.le
  · exact (List.length_filter_le _ _).trans hcandidates
  · simp only [revokedSnapshot, List.length_append, List.length_cons, List.length_nil]
    omega
  · simp only [revokedSnapshot, Option.all_some, Config.validBinding, Config.bindingMatches,
      revokedBinding_valid hb htime, Bool.true_and]
    simp [Config.revokedBinding, htenant, howner, hconnection, hprovider, hmode]
  · exact fun c hc => hcandidate c (List.mem_of_mem_filter hc)
  · intro c hc
    rcases List.mem_append.mp hc with hc | hc
    · have hold := hcleanup c hc
      simp only [Config.validCleanup, Bool.and_eq_true] at hold ⊢
      refine ⟨hold.1, ?_⟩
      simpa [Snapshot.refersTo, revokedSnapshot, Config.revokedBinding] using
        (reference_ne_empty hold.1.1.1).symm
    · rw [List.mem_singleton.mp hc]
      simpa [Config.validCleanup, Snapshot.refersTo, revokedSnapshot, Config.revokedBinding, href, hpositive,
        hroom.ne] using (reference_ne_empty href).symm
  · rw [List.nodup_append] at hnodup
    simp only [revokedSnapshot, List.map_append, List.map_cons, List.map_nil]
    rw [List.nodup_append, List.nodup_append]
    refine ⟨(hnodup.1.sublist (List.Sublist.map _ (List.filter_sublist))), ⟨hnodup.2.1, by simp, ?_⟩, ?_⟩
    · intro x hx y hy
      rw [List.mem_singleton.mp hy]
      exact fun heq => hnew (heq ▸ hx)
    · intro x hx y hy
      obtain ⟨c, hc, rfl⟩ := List.mem_map.mp hx
      rcases List.mem_append.mp hy with hy | hy
      · exact hnodup.2.2 _ (List.mem_map.mpr ⟨c, List.mem_of_mem_filter hc, rfl⟩) y hy
      · rw [List.mem_singleton.mp hy]
        simpa using (List.mem_filter.mp hc).2
  · simp [Snapshot.active, revokedSnapshot, Config.revokedBinding]

theorem revokedSnapshot_encodable (hvalid : (Config.json identity scope).validateSnapshot v = true)
    (hactive : v.active = some b) (htime : time ≠ 0) (hyear : representable time = true) :
    (Config.json identity scope).encodable (revokedSnapshot v b time) = true := by
  have hnext := revokedSnapshot_valid hvalid hactive htime
  have hsize := snapshotBytes_le hnext rfl hyear
  simp only [Config.encodable, hnext, hsize, Bool.true_and, decide_true]
  simp [Snapshot.active, revokedSnapshot, Config.revokedBinding]

end

/-! ## Revocation -/

section

variable {config : Config}

/-- The disk write of a save and what follows it, past the checks of a save. -/
def Config.writeSnapshot (config : Config) (next : Snapshot) : Op Unit := do
  Prog.handle (config.writeAtomic (.image next)) (markUnknown next)
  Prog.modify fun w => { w with state := next }

theorem saveLocked_writes {next saved : Snapshot} {faults w}
    (hsaved : { next with revision := w.state.revision + 1 } = saved) (hrevision : w.state.revision ≠ maxUint64)
    (h : config.encodable saved = true) : config.saveLocked next faults w = config.writeSnapshot saved faults w := by
  subst hsaved
  unfold Config.saveLocked
  rw [bind_ok (a := w) rfl, require_bind_pos hrevision, require_bind_pos h]
  rfl

theorem revokeCredentialBinding_writes {s w : World} {b : CredentialBinding} {time : Int} {faults rest}
    (hready : config.readyLocked faults s = (.ok (), rest, w)) (hvalid : config.validateSnapshot s.state = true)
    (hactive : s.state.active = some b) (hlater : b.updatedAt ≤ time) (hzero : time ≠ 0)
    (hencodable : config.encodable (revokedSnapshot s.state b time) = true) :
    config.revokeCredentialBinding config.scope time faults s =
      (do
        config.writeSnapshot (revokedSnapshot s.state b time)
        pure ⟨Config.revokedBinding b time, b.secretRef, b.generation⟩ : Op RevocationResult) rest w := by
  have hend := @readyLocked_meets config s faults s rfl
  rw [hready] at hend
  have hstate : w.state = s.state := hend.1.calm.state
  obtain ⟨hbinding, hrevoked⟩ := active_iff.mp hactive
  obtain ⟨hrevision, hgeneration, hslot⟩ := revocation_room hvalid hactive
  rw [← hstate] at hrevision hencodable hbinding hslot ⊢
  unfold Config.revokeCredentialBinding
  rw [bind_ok hready, bind_ok (a := w) rfl, require_bind_pos ⟨rfl, hzero⟩]
  simp only [hbinding, hrevoked]
  rw [if_neg (by simp), require_bind_pos ⟨hgeneration.ne, hslot, hlater⟩]
  exact bind_eq_bind (saveLocked_writes rfl hrevision hencodable)

end

/-- In every reachable state of a ready store with an active binding, a revocation at a later time with a JSON text goes
on to write the revoked snapshot. -/
theorem revocation_reaches_write [Protocol.Crypto] {identity : RootIdentity} {scope : Scope}
    {considered : World → Call → Prop} {s : System} {b : CredentialBinding} {time : Int} {faults rest : List Fault}
    {w : World} (hreach : Run (Config.json identity scope) considered System.fresh s) (hopen : s.isOpen = true)
    (hready : (Config.json identity scope).readyLocked faults s.world = (.ok (), rest, w))
    (hactive : s.world.state.active = some b) (hlater : b.updatedAt ≤ time) (hzero : time ≠ 0)
    (hyear : representable time = true) :
    (Config.json identity scope).encodable (revokedSnapshot s.world.state b time) = true ∧
      (Config.json identity scope).revokeCredentialBinding scope time faults s.world =
        (do
          (Config.json identity scope).writeSnapshot (revokedSnapshot s.world.state b time)
          pure ⟨Config.revokedBinding b time, b.secretRef, b.generation⟩ : Op RevocationResult) rest w := by
  have hvalid := hreach.valid hopen
  have hencodable := revokedSnapshot_encodable hvalid hactive hzero hyear
  exact ⟨hencodable, revokeCredentialBinding_writes hready hvalid hactive hlater hzero hencodable⟩

namespace Sample

def identity : RootIdentity := ⟨"/var/lib/credential", 1, 2, "epoch", by decide +kernel, by decide, by decide, by decide +kernel⟩

def stored : System :=
  (System.fresh.reopen (Config.json identity scope) []).call (Config.json identity scope)
    (.initialization ⟨"openai", "chatgpt", .active, 1⟩ [97] (random 1)) []

/-- The first day of the year 10000. -/
def tooLate : Int := 3652059 * Calendar.nanosecondsPerDay

end Sample

open Sample in
/-- A revocation at a time without a JSON text is refused, in a store that is ready. -/
theorem late_revocation_refused :
    stored.isOpen = true ∧ ((Config.json identity scope).readyLocked [] stored.world).1.isOk = true ∧
      (stored.world.state.active.any fun b => b.updatedAt ≤ tooLate) = true ∧
      ((Config.json identity scope).revokeCredentialBinding scope tooLate [] stored.world).1.isOk = false := by
  decide +kernel

open Sample in
theorem revocation_reaches_write_stored :
    ∃ b rest w, stored.world.state.active = some b ∧
      (Config.json identity scope).revokeCredentialBinding scope 2 [] stored.world =
        (do
          (Config.json identity scope).writeSnapshot (revokedSnapshot stored.world.state b 2)
          pure ⟨Config.revokedBinding b 2, b.secretRef, b.generation⟩ : Op RevocationResult) rest w := by
  have hreach : Run (Config.json identity scope) (fun _ _ => True) System.fresh stored :=
    .tail (.single (.reopen [] rfl)) (.call _ [] (by decide +kernel) trivial)
  have hready : ((Config.json identity scope).readyLocked [] stored.world).1 = .ok () := by decide +kernel
  have hactive : (stored.world.state.active.any fun b => b.updatedAt ≤ 2) = true := by decide +kernel
  obtain ⟨b, hb, hlater⟩ := (Option.any_eq_true _ _).mp hactive
  rcases hr : (Config.json identity scope).readyLocked [] stored.world with ⟨result, rest, w⟩
  rw [hr] at hready
  obtain rfl : result = .ok () := hready
  exact ⟨b, rest, w, hb, (revocation_reaches_write hreach (by decide +kernel) hr hb (of_decide_eq_true hlater)
    (by decide) (by decide +kernel)).2⟩

end Sessionless.Credential
