import Sessionless.Credential.Writes

/-!
# The calls of the store

Each call keeps the root in order: the snapshot it saves fits the bodies that are there when it is saved. The swap
needs more than the store checks: it must find the body of the candidate it makes active.
-/

namespace Sessionless.Credential

open Lib Prog

variable {config : Config} {w : World}

/-! ## Snapshots that fit -/

theorem any_eraseP {α : Type} {p q : α → Bool} {l : List α} (h : ∀ a, l.find? p = some a → q a = false) :
    (l.eraseP p).any q = l.any q := by
  induction l with
  | nil => rfl
  | cons a l ih =>
    by_cases ha : p a = true
    · have hq : q a = false := h a (by simp [ha])
      simp [ha, hq]
    · have htail : ∀ b, l.find? p = some b → q b = false := fun b hb => h b (by simpa [List.find?_cons, ha] using hb)
      simp [ha, ih htail]

theorem names_iff {S : Snapshot} {reference} :
    S.names reference = true ↔ (∃ b, S.active = some b ∧ b.secretRef = reference) ∨
      (∃ c ∈ S.candidates, c.reference = reference) ∨ ∃ c ∈ S.cleanups, c.reference = reference := by
  simp [Snapshot.names, Option.any_eq_true, or_assoc]

theorem active_iff {S : Snapshot} {b : CredentialBinding} :
    S.active = some b ↔ S.binding = some b ∧ b.revoked = false := by
  simp [Snapshot.active, Option.filter_eq_some_iff]

theorem names_erase_candidate {S : Snapshot} {candidate : SecretCandidate} {other}
    (hother : other ≠ candidate.reference) (h : S.names other = true) :
    Snapshot.names { S with candidates := S.candidates.eraseP fun c => config.candidatePort c = candidate } other =
      true := by
  simp only [Snapshot.names] at h ⊢
  rw [any_eraseP]
  · exact h
  · intro c hc
    have hport : config.candidatePort c = candidate := by simpa using List.find?_some hc
    have href : c.reference = candidate.reference := congrArg SecretCandidate.reference hport
    simpa [href] using fun h => hother h.symm

theorem names_erase_cleanup {S : Snapshot} {p reference other}
    (hp : ∀ c, S.cleanups.find? p = some c → c.reference = reference) (hother : other ≠ reference)
    (h : S.names other = true) : Snapshot.names { S with cleanups := S.cleanups.eraseP p } other = true := by
  simp only [Snapshot.names] at h ⊢
  rw [any_eraseP]
  · exact h
  · intro c hc
    simpa [hp c hc] using fun h => hother h.symm

theorem readyLast_concat (older : List CandidateRecord) (c : CandidateRecord) :
    readyLast (older ++ [c]) = older ++ [{ c with ready := true }] := by
  simp [readyLast]

variable [Protocol.Crypto]

theorem Fits.change {S next d} (h : Fits S d) (hactive : ∀ b, next.active = some b → S.active = some b ∨
      ∃ file, d.lookup (.body b.secretRef) = some file ∧ file.synced = true ∧ Opens file.content b)
    (hready : ∀ c ∈ next.candidates, c.ready = true → c ∈ S.candidates ∨
      ∀ file, d.lookup (.body c.reference) = some file → file.synced = true ∧ Sealed c file.content)
    (hnames : ∀ reference, (d.lookup (.body reference)).isSome = true → S.names reference = true →
      next.names reference = true) : Fits next d := by
  intro reference
  refine ⟨?_, ?_, ?_⟩
  · intro b hb href
    cases hactive b hb with
    | inl hold => exact (h reference).active b hold href
    | inr hnew => exact href ▸ hnew
  · intro c hc hready' href
    cases hready c hc hready' with
    | inl hold => exact (h reference).ready c hold hready' href
    | inr hnew => exact href ▸ hnew
  · intro hsome
    exact hnames reference hsome ((h reference).named hsome)

/-! ## Calls that only read -/

theorem Running.still (hw : Running w) : ∀ s, s = w → Moves w s := fun _ hs => hs ▸ (Calm.refl w).moves (.inl hw)

theorem Running.require {α : Type} {Q : α → World → Prop} {C : World → Prop} {p : Prop} [Decidable p] {e}
    {f : Unit → Op α} (hw : Running w) (h : p → Meets (fun s => s = w) (f ()) Q (fun _ => Moves w) C) :
    Meets (fun s => s = w) (Prog.require p e >>= f) Q (fun _ => Moves w) C :=
  Meets.require_bind h fun _ => hw.still

theorem loadCredentialBinding_meets (hw : Open w) (tenant : Store.TenantID) (connection : String) :
    Orderly w (config.loadCredentialBinding tenant connection) := by
  refine ready_meets hw fun s _ hs => ?_
  refine hs.require fun _ => ?_
  apply Meets.get_bind
  rintro t rfl
  exact Meets.pure hs.still

theorem listUncommittedCredentialCandidates_meets (hw : Open w) (scope : CandidateScope) (limit : Nat) :
    Orderly w (config.listUncommittedCredentialCandidates scope limit) := by
  refine ready_meets hw fun s _ hs => ?_
  refine hs.require fun _ => ?_
  apply Meets.get_bind
  rintro t rfl
  exact Meets.pure hs.still

theorem readCurrentLocked_meets (w : World) (binding : CredentialBinding) (limit : Nat) :
    Meets (fun s => s = w) (config.readCurrentLocked binding limit) (fun _ => Untouched w) (fun _ => Untouched w)
      (Untouched w) := by
  refine Meets.bind (Meets.orFail ((read_keeps Untouched.flag _ _).of Untouched.of_eq)) fun raw => ?_
  split
  · exact Meets.fail fun t ht => ht.1
  · exact Meets.pure fun t ht => ht.1

theorem readCredentialSecret_meets (hw : Open w) (binding : CredentialBinding) (limit : Int) :
    Orderly w (config.readCredentialSecret binding limit) := by
  refine ready_get_meets hw fun t _ hs => ?_
  refine hs.require fun _ => ?_
  exact (Open.stops (.inl hs) (fun _ => Untouched.calm) (readCurrentLocked_meets t binding limit.toNat)).imp
    (fun _ u hu => hu.calm.moves (.inl hs)) (fun _ _ h => h) fun _ h => h

/-! ## Calls that forget a body -/

theorem Removed.admits {reference t} {next : Snapshot} (ht : Removed reference w t) (hw : Running w)
    (hbinding : next.binding = w.state.binding) (huses : next.keyUses = w.state.keyUses)
    (hcandidates : ∀ c ∈ next.candidates, c ∈ w.state.candidates)
    (hnames : ∀ other, other ≠ reference → w.state.names other = true → next.names other = true) : Admits t next where
  fits := by
    have hfits : Fits w.state t.visible := ht.state ▸ ht.running.stored.after.visible
    refine hfits.change ?_ (fun c hc _ => .inl (hcandidates c hc)) ?_
    · intro b hb
      rw [active_iff, hbinding, ← active_iff] at hb
      exact .inl hb
    · intro other hsome hnamed
      refine hnames other ?_ hnamed
      rintro rfl
      rw [ht.gone] at hsome
      simp at hsome
  counted := by
    rw [ht.sealedBodies, huses]
    exact hw.stored.after.counted
  later := ht.state ▸ .of_binding hbinding

theorem save_after_remove {reference next} (hadmits : ∀ t, Removed reference w t → Admits t next) :
    Meets (Removed reference w) (config.saveLocked next) (fun _ t => Running t ∧ Moves w t) (fun _ => Moves w)
      (Falls w) := by
  refine Meets.named fun t ht => ?_
  exact (ht.moves.stops (saveLocked_meets ht.running (hadmits t ht))).imp
    (fun _ u hu => ⟨hu.running, ht.moves.trans hu.moves⟩) (fun _ _ h => h) fun _ h => h

theorem deleteCredentialCandidate_meets (hw : Open w) (candidate : SecretCandidate) :
    Orderly w (config.deleteCredentialCandidate candidate) := by
  refine ready_get_meets hw fun t _ hs => ?_
  refine hs.require fun hallowed => ?_
  refine hs.require fun _ => ?_
  refine Meets.bind (removeLocked_meets hs hallowed.2.2) fun _ => ?_
  refine (save_after_remove fun u hu => ?_).imp (fun _ _ h => h.2) (fun _ _ h => h) fun _ h => h
  refine hu.admits hs rfl rfl (fun c hc => List.mem_of_mem_eraseP hc) ?_
  -- The dropped record has the reference of the candidate, so the other references keep theirs.
  exact fun _ => names_erase_candidate

theorem deleteCredentialSecret_meets (hw : Open w) (scope : CandidateScope) (reference : String) :
    Orderly w (config.deleteCredentialSecret scope reference) := by
  refine ready_get_meets hw fun t _ hs => ?_
  refine hs.require fun hallowed => ?_
  refine hs.require fun _ => ?_
  refine Meets.bind (removeLocked_meets hs hallowed.2.2) fun _ => ?_
  refine (save_after_remove fun u hu => ?_).imp (fun _ _ h => h.2) (fun _ _ h => h) fun _ h => h
  refine hu.admits hs rfl rfl (fun c hc => hc) ?_
  refine fun _ => names_erase_cleanup fun c hc => ?_
  have hcleans := List.find?_some hc
  simp only [Config.cleans, Bool.and_eq_true, decide_eq_true_eq] at hcleans
  exact hcleans.1

theorem drainLocked_meets (count : Nat) (hw : Running w) :
    Orderly w (config.drainLocked count) := by
  induction count generalizing w with
  | zero => exact Meets.pure hw.still
  | succ count ih =>
    unfold Config.drainLocked
    apply Meets.get_bind
    rintro t rfl
    split
    case h_1 => exact Meets.pure hw.still
    case h_2 c hc =>
      refine hw.require fun href => ?_
      refine Meets.bind (removeLocked_meets hw href) fun _ => ?_
      refine Meets.bind (save_after_remove fun u hu => ?_) fun _ => ?_
      · refine hu.admits hw rfl rfl (fun c hc => hc) ?_
        refine fun _ => names_erase_cleanup fun d hd => ?_
        rw [hc] at hd
        rw [Option.some.inj hd]
      · refine Meets.named fun u hu => ?_
        exact hu.2.orderly (ih hu.1)

/-! ## Calls that only save -/

theorem save_meets {next} (hw : Running w) (hnext : Admits w next) :
    Orderly w (config.saveLocked next) :=
  (saveLocked_meets hw hnext).imp (fun _ _ h => h.moves) (fun _ _ h => h) fun _ h => h

theorem Running.admits {next : Snapshot} (hw : Running w) (hbinding : next.binding = w.state.binding)
    (huses : next.keyUses = w.state.keyUses) (hcandidates : ∀ c ∈ next.candidates, c ∈ w.state.candidates)
    (hnames : ∀ reference, w.state.names reference = true → next.names reference = true) : Admits w next where
  fits := by
    refine hw.stored.after.visible.change ?_ (fun c hc _ => .inl (hcandidates c hc)) fun reference _ => hnames reference
    intro b hb
    rw [active_iff, hbinding, ← active_iff] at hb
    exact .inl hb
  counted := huses ▸ hw.stored.after.counted
  later := .of_binding hbinding

theorem released_meets (hw : Open w) (handle : Handle) (guarded : Bool) :
    Orderly w (config.released handle guarded) := by
  refine ready_get_meets hw fun t _ hs => ?_
  refine hs.require fun _ => ?_
  split
  · refine save_meets hs (hs.admits rfl rfl (fun c hc => hc) ?_)
    intro reference hnamed
    rw [names_iff] at hnamed ⊢
    refine hnamed.imp_right (Or.imp_right ?_)
    rintro ⟨c, hc, href⟩
    refine ⟨_, List.mem_map.mpr ⟨c, hc, rfl⟩, ?_⟩
    split
    · exact href
    · exact href
  · exact Meets.pure hs.still

theorem commit_admits {b candidate} (hw : Running w)
    (hb : w.state.active = some b) (hcommits : Config.commits b candidate = true) :
    Admits w { w.state with candidates := w.state.candidates.eraseP fun c => config.candidatePort c = candidate } := by
  refine hw.admits rfl rfl (fun c hc => List.mem_of_mem_eraseP hc) ?_
  intro reference hnamed
  simp only [Config.commits, Bool.and_eq_true, decide_eq_true_eq] at hcommits
  by_cases href : b.secretRef = reference
  · exact names_iff.mpr (.inl ⟨b, hb, href⟩)
  · exact names_erase_candidate (fun h => href (hcommits.1.1.1.trans h.symm)) hnamed

theorem commitLocked_meets (hw : Running w) (candidate : SecretCandidate) :
    Orderly w (config.commitLocked candidate) := by
  apply Meets.get_bind
  rintro s rfl
  refine hw.require fun _ => ?_
  split
  case h_1 => exact Meets.fail hw.still
  case h_2 b hb =>
    obtain ⟨hactive, hcommits⟩ := Option.filter_eq_some_iff.mp hb
    refine Meets.bind (Open.stops (.inl hw) (fun _ => Untouched.calm) (readCurrentLocked_meets s b _)) fun _ => ?_
    refine Meets.named fun t ht => ?_
    have hmoves : Moves s t := ht.calm.moves (.inl hw)
    have hrunning : Running t := ht.calm.running hw
    rw [← ht.calm.state]
    split
    case h_1 => exact Meets.pure fun u hu => hu ▸ hmoves
    case h_2 c hc =>
      refine Meets.require_bind (fun _ => ?_) fun _ u hu => hu ▸ hmoves
      have hadmits := @commit_admits config t _ b candidate hrunning (ht.calm.state ▸ hactive) hcommits
      exact hmoves.orderly (save_meets hrunning hadmits)

theorem commitCredentialCandidate_meets (hw : Open w) (candidate : SecretCandidate) :
    Orderly w (config.commitCredentialCandidate candidate) :=
  ready_meets hw fun _ _ hs => commitLocked_meets hs candidate

theorem recoverCredentialCandidate_meets (hw : Open w) (binding : CredentialBinding) :
    Orderly w (config.recoverCredentialCandidate binding) := by
  refine ready_get_meets hw fun t _ hs => ?_
  refine hs.require fun _ => ?_
  split
  · refine Meets.bind (commitLocked_meets hs _) fun _ => ?_
    exact Meets.pure fun _ hu => hu
  · refine Meets.bind (Open.stops (.inl hs) (fun _ => Untouched.calm) (readCurrentLocked_meets t binding _)) fun _ => ?_
    exact Meets.pure fun u hu => hu.calm.moves (.inl hs)

/-! ## Calls that change the binding -/

theorem revoked_admits {current time} (hw : Running w) (hbinding : w.state.binding = some current) :
    Admits w
      { w.state with
        candidates := w.state.candidates.filter fun c => c.reference ≠ current.secretRef
        cleanups := w.state.cleanups ++ [⟨current.secretRef, current.generation, false⟩]
        binding := some (Config.revokedBinding current time) } where
  fits := by
    refine hw.stored.after.visible.change ?_ ?_ ?_
    · intro b hb
      obtain ⟨hb, hrevoked⟩ := active_iff.mp hb
      obtain rfl := Option.some.inj hb
      simp [Config.revokedBinding] at hrevoked
    · exact fun c hc _ => .inl (List.mem_of_mem_filter hc)
    · intro reference _ hnamed
      rw [names_iff] at hnamed ⊢
      by_cases href : current.secretRef = reference
      · exact .inr (.inr ⟨⟨current.secretRef, current.generation, false⟩, by simp, href⟩)
      · rcases hnamed with ⟨b, hb, hreference⟩ | ⟨c, hc, hreference⟩ | ⟨c, hc, hreference⟩
        · rw [active_iff, hbinding] at hb
          obtain rfl := Option.some.inj hb.1
          exact absurd hreference href
        · refine .inr (.inl ⟨c, ?_, hreference⟩)
          simp only [List.mem_filter]
          refine ⟨hc, ?_⟩
          simpa [hreference] using fun h => href h.symm
        · exact .inr (.inr ⟨c, by simp [hc], hreference⟩)
  counted := hw.stored.after.counted
  later := by
    intro b hb
    rw [hbinding] at hb
    obtain rfl := Option.some.inj hb
    exact ⟨_, rfl, Nat.le_succ _, fun _ => rfl⟩

theorem revokeCredentialBinding_meets (hw : Open w) (request : Scope) (time : Int) :
    Orderly w (config.revokeCredentialBinding request time) := by
  refine ready_get_meets hw fun t _ hs => ?_
  refine hs.require fun _ => ?_
  split
  case h_1 => exact Meets.fail hs.still
  case h_2 current hcurrent =>
    split
    · exact Meets.pure hs.still
    · refine hs.require fun _ => ?_
      refine Meets.bind (save_meets hs (revoked_admits hs hcurrent)) fun _ => ?_
      exact Meets.pure fun _ hu => hu

/-- The binding of a swap finds the body of each ready candidate it may be made from. -/
def Finds (w : World) (next : CredentialBinding) : Prop :=
  ∀ c ∈ w.state.candidates, c.ready = true → c.reference = next.secretRef →
    (w.visible.lookup (.body c.reference)).isSome = true

theorem Running.backs {c b} (hw : Running w) (hc : c ∈ w.state.candidates)
    (hready : c.ready = true) (hfound : (w.visible.lookup (.body c.reference)).isSome = true)
    (hgeneration : b.generation = c.expected + 1) (hreference : c.reference = b.secretRef)
    (hfingerprint : c.fingerprint = b.secretFingerprint) :
    ∃ file, w.visible.lookup (.body b.secretRef) = some file ∧ file.synced = true ∧ Opens file.content b := by
  obtain ⟨file, hfile⟩ := Option.isSome_iff_exists.mp hfound
  obtain ⟨hsynced, hsealed⟩ := (hw.stored.after.visible c.reference).ready c hc hready rfl file hfile
  exact ⟨file, hreference ▸ hfile, hsynced, hsealed.opens hgeneration hreference hfingerprint⟩

theorem swap_admits {current next : CredentialBinding} {expected} (hw : Running w)
    (hcurrent : w.state.active = some current) (hexpected : current.generation = expected)
    (hallowed : config.swapAllowed w.state current expected next = true)
    (hcandidate : w.state.candidates.any (Config.swapCandidate expected next) = true) (hfinds : Finds w next) :
    Admits w
      { w.state with
        cleanups := w.state.cleanups ++ [⟨current.secretRef, current.generation, false⟩]
        binding := some next } := by
  obtain ⟨hbinding, hrevoked⟩ := active_iff.mp hcurrent
  obtain ⟨c, hc, hswap⟩ := List.any_eq_true.mp hcandidate
  simp only [Config.swapCandidate, Bool.and_eq_true, decide_eq_true_eq] at hswap
  obtain ⟨⟨⟨hready, hgeneration⟩, href⟩, hfingerprint⟩ := hswap
  simp only [Config.swapAllowed, Bool.and_eq_true, decide_eq_true_eq] at hallowed
  have hnext : next.generation = expected + 1 := hallowed.1.1.1.1.1.1.2
  refine ⟨hw.stored.after.visible.change ?_ (fun c hc _ => .inl hc) ?_, hw.stored.after.counted, ?_⟩
  · intro b hb
    obtain rfl := Option.some.inj (active_iff.mp hb).1
    exact .inr (hw.backs hc hready (hfinds c hc hready href) (by rw [hnext, hgeneration]) href hfingerprint)
  · intro reference _ hnamed
    rw [names_iff] at hnamed ⊢
    rcases hnamed with ⟨b, hb, hreference⟩ | hnamed | ⟨d, hd, hreference⟩
    · rw [hcurrent] at hb
      obtain rfl := Option.some.inj hb
      exact .inr (.inr ⟨⟨current.secretRef, current.generation, false⟩, by simp, hreference⟩)
    · exact .inr (.inl hnamed)
    · exact .inr (.inr ⟨d, by simp [hd], hreference⟩)
  · intro b hb
    rw [hbinding] at hb
    obtain rfl := Option.some.inj hb
    exact ⟨next, rfl, by omega, by simp [hrevoked]⟩

theorem compareAndSwapCredentialBinding_meets (hw : Open w) {expected next} (hfinds : Finds w next) :
    Orderly w (config.compareAndSwapCredentialBinding expected next) := by
  refine ready_get_meets hw fun t huntouched hs => ?_
  split
  case h_1 => exact Meets.pure hs.still
  case h_2 current hcurrent =>
    obtain ⟨hactive, hexpected⟩ := Option.filter_eq_some_iff.mp hcurrent
    refine hs.require fun hallowed => ?_
    refine hs.require fun hcandidate => ?_
    have hfinds' : Finds t next := by
      obtain ⟨known, rfl⟩ := huntouched
      exact hfinds
    refine Meets.bind (save_meets hs (swap_admits hs hactive (by simpa using hexpected) hallowed hcandidate hfinds'))
      fun _ => ?_
    exact Meets.pure fun _ hu => hu

/-! ## New candidates -/

theorem sealBody_sealed {c plaintext content}
    (h : config.sealBody c plaintext = some content) (hvalid : Config.validCandidate c = true) :
    Sealed { c with ready := true } content := by
  unfold Config.sealBody at h
  split at h
  case isTrue hmatch =>
    obtain rfl := Option.some.inj h
    simp only [Config.validCandidate, Bool.and_eq_true, decide_eq_true_eq] at hvalid
    obtain ⟨⟨⟨⟨hreference, hexpected⟩, hfingerprint⟩, hempty⟩, hsize⟩ := hvalid
    constructor
    · simp only [Config.envelopeRecord]
      rw [if_pos ⟨hreference, hexpected, hfingerprint, hempty, hsize⟩]
      rfl
    · have hopen : c.header = CandidateRecord.header { c with ready := true } ∧ plaintext.length = c.header.size ∧
          fingerprintCredential plaintext = c.header.fingerprint := ⟨rfl, hmatch.2.1, hmatch.2.2.1⟩
      simp only [Config.openEnvelope]
      rw [if_pos hopen]
      rfl
  case isFalse => simp at h

/-- A candidate's record is saved and its body is still to be made. -/
structure Reserved (c : CandidateRecord) (w : World) : Prop where
  running : Running w
  candidates : ∃ older, w.state.candidates = older ++ [c] ∧ ∀ d ∈ older, d.reference ≠ c.reference
  unready : c.ready = false
  valid : Config.validCandidate c = true
  absent : w.visible.lookup (.body c.reference) = none
  spare : w.sealedBodies + 1 ≤ w.state.keyUses

theorem Reserved.free {c : CandidateRecord} (h : Reserved c w) (f : Option File) : FitsAt w.state c.reference f := by
  obtain ⟨older, hcandidates, hother⟩ := h.candidates
  refine ⟨?_, ?_, ?_⟩
  · intro b hb href
    obtain ⟨file, hfile, _⟩ := (h.running.stored.after.visible c.reference).active b hb href
    rw [h.absent] at hfile
    simp at hfile
  · intro d hd hready href
    rw [hcandidates, List.mem_append, List.mem_singleton] at hd
    cases hd with
    | inl hd => exact absurd href (hother d hd)
    | inr hd =>
      rw [hd, h.unready] at hready
      simp at hready
  · intro _
    refine names_iff.mpr (.inr (.inl ⟨c, ?_, rfl⟩))
    simp [hcandidates]

theorem Reserved.seal {c} (h : Reserved c w) : Running { w with sealedBodies := w.sealedBodies + 1 } := by
  have hbacked : Backed w.state { w with sealedBodies := w.sealedBodies + 1 } :=
    ⟨h.running.stored.after.visible, h.running.stored.after.durable, h.spare⟩
  exact ⟨h.running.known, h.running.stored.durable, h.running.stored.visible, hbacked, hbacked, .refl _⟩

structure Placed (expected : Nat) (reference fingerprint : String) (w t : World) : Prop where
  running : Running t
  moves : Moves w t
  binding : t.state.binding = w.state.binding
  candidate : ∃ d ∈ t.state.candidates, d.ready = true ∧ d.expected = expected ∧ d.reference = reference ∧
    d.fingerprint = fingerprint
  body : (t.visible.lookup (.body reference)).isSome = true

theorem ready_admits {c : CandidateRecord} {older} {file : File} (hw : Running w)
    (hcandidates : w.state.candidates = older ++ [c]) (hfile : w.visible.lookup (.body c.reference) = some file)
    (hsynced : file.synced = true) (hsealed : Sealed { c with ready := true } file.content) :
    Admits w { w.state with candidates := readyLast w.state.candidates } := by
  rw [hcandidates, readyLast_concat]
  refine ⟨hw.stored.after.visible.change (fun b hb => .inl hb) ?_ ?_, hw.stored.after.counted, .of_binding rfl⟩
  · intro d hd _
    rw [List.mem_append, List.mem_singleton] at hd
    cases hd with
    | inl hd => exact .inl (by simp [hcandidates, hd])
    | inr hd =>
      subst hd
      refine .inr fun other hother => ?_
      rw [hfile] at hother
      obtain rfl := Option.some.inj hother
      exact ⟨hsynced, hsealed⟩
  · intro reference _ hnamed
    rw [names_iff] at hnamed ⊢
    refine hnamed.imp_right (Or.imp_left ?_)
    rintro ⟨d, hd, href⟩
    rw [hcandidates, List.mem_append, List.mem_singleton] at hd
    cases hd with
    | inl hd => exact ⟨d, by simp [hd], href⟩
    | inr hd => exact ⟨{ c with ready := true }, by simp, hd ▸ href⟩

theorem putBody_meets {c} (hw : Reserved c w) (plaintext : Bytes) :
    Meets (fun s => s = w) (config.putBody c plaintext) (fun _ => Placed c.expected c.reference c.fingerprint w)
      (fun _ => Moves w) (Falls w) := by
  have hstill := hw.running.still
  refine Meets.bind (Open.stops (.inl hw.running) Calm.of_eq (look_keeps .unavailable)) fun _ => ?_
  split
  case h_1 => exact Meets.fail hstill
  case h_2 envelope henvelope =>
    refine Meets.bind (Q := fun _ s => s = { w with sealedBodies := w.sealedBodies + 1 })
      (Meets.modify fun s hs => hs ▸ rfl) fun _ => ?_
    apply Meets.get_bind
    intro s hs
    have hrunning : Running s := hs ▸ hw.seal
    have hmoves : Moves w s := hw.running.moves (.inl hrunning) (hs ▸ .refl _)
    have hfree : ∀ f, FitsAt s.state c.reference f := hs ▸ hw.free
    have htrace : ∀ t, CreateTrace (.body c.reference) envelope s t → Running t ∧ t.state = s.state := by
      intro t ht
      cases ht with
      | inl ht => exact ⟨ht.running hrunning fun f _ => hfree f, ht.state⟩
      | inr ht => exact ⟨ht.2.running hrunning fun f _ => hfree f, ht.2.state⟩
    have hkeep : ∀ t, CreateTrace (.body c.reference) envelope s t → Moves s t :=
      fun t ht => hrunning.moves (.inl (htrace t ht).1) ((htrace t ht).2 ▸ .refl _)
    refine Meets.bind (Meets.handle ((create_meets (.body c.reference) envelope s).imp (fun _ _ h => h) (fun _ _ h => h)
      fun t ht => hmoves.falls (hkeep t ht).since) fun e => ?_) fun _ => ?_
    · refine markUnknown_meets _ e fun t ht => ?_
      split
      · exact hmoves.trans (hrunning.doubt (htrace t ht).1 (htrace t ht).2)
      · exact hmoves.trans (hkeep t ht)
    · refine Meets.named fun t ht => ?_
      obtain ⟨hnone, honly, hfile, _⟩ := ht
      have htrace' : CreateTrace (.body c.reference) envelope s t := .inr ⟨hnone, honly⟩
      have ht : Moves w t := hmoves.trans (hkeep t htrace')
      obtain ⟨older, hcandidates, _⟩ := hw.candidates
      have hlast : t.state.candidates = older ++ [c] := by
        rw [honly.state, hs]
        exact hcandidates
      have hadmits := ready_admits (htrace t htrace').1 hlast hfile rfl (sealBody_sealed henvelope hw.valid)
      rw [← honly.state]
      refine (ht.stops (saveLocked_meets (htrace t htrace').1 hadmits)).imp ?_ (fun _ _ h => h) fun _ h => h
      intro _ u hu
      obtain ⟨revision, hstate⟩ := hu.state
      refine ⟨hu.running, ht.trans hu.moves, ?_, ⟨{ c with ready := true }, ?_, rfl, rfl, rfl, rfl⟩, ?_⟩
      · rw [hstate, honly.state, hs]
      · rw [hstate, hlast, readyLast_concat]
        simp
      · rw [hu.bodies, hfile]
        rfl

theorem reserve_admits {c : CandidateRecord} (hw : Running w) (hunready : c.ready = false) :
    Admits w { w.state with keyUses := w.state.keyUses + 1, candidates := w.state.candidates ++ [c] } := by
  refine ⟨hw.stored.after.visible.change (fun b hb => .inl hb) ?_ ?_, ?_, .of_binding rfl⟩
  · intro d hd hready
    rw [List.mem_append, List.mem_singleton] at hd
    cases hd with
    | inl hd => exact .inl hd
    | inr hd =>
      rw [hd, hunready] at hready
      simp at hready
  · intro reference _ hnamed
    rw [names_iff] at hnamed ⊢
    refine hnamed.imp_right (Or.imp_left ?_)
    rintro ⟨d, hd, href⟩
    exact ⟨d, by simp [hd], href⟩
  · exact Nat.le_succ_of_le hw.stored.after.counted

theorem Saved.reserved {c t} (hw : Running w) (hunready : c.ready = false)
    (hother : ∀ d ∈ w.state.candidates, d.reference ≠ c.reference)
    (habsent : w.visible.lookup (.body c.reference) = none)
    (h : Saved config { w.state with keyUses := w.state.keyUses + 1, candidates := w.state.candidates ++ [c] } w t) :
    Reserved c t := by
  obtain ⟨revision, hstate⟩ := h.state
  refine ⟨h.running, ⟨w.state.candidates, by rw [hstate], hother⟩, hunready, ?_, by rw [h.bodies, habsent], ?_⟩
  · have hvalid := h.valid
    simp only [Config.validateSnapshot, Bool.and_eq_true, List.all_eq_true] at hvalid
    refine hvalid.1.1.1.2 c ?_
    simp [hstate]
  · rw [h.sealedBodies, hstate]
    exact Nat.succ_le_succ hw.stored.after.counted

theorem putLocked_meets (hw : Running w) (scope : CandidateScope) (plaintext : Bytes) (random : Protocol.Sum256) :
    Meets (fun s => s = w) (config.putLocked scope plaintext random)
      (fun candidate => Placed scope.expectedGeneration candidate.reference candidate.fingerprint w)
      (fun _ => Moves w) (Falls w) := by
  have hstill := hw.still
  apply Meets.get_bind
  rintro s rfl
  refine hw.require fun _ => ?_
  refine hw.require fun _ => ?_
  refine Meets.bind (Open.stops (.inl hw) Calm.of_eq (look_keeps .unavailable)) fun _ => ?_
  refine hw.require fun _ => ?_
  refine Meets.bind (Open.stops (.inl hw) Calm.of_eq (space_keeps _)) fun _ => ?_
  refine hw.require fun hother => ?_
  have hread := (@read_keeps config _ (@Untouched.flag s) (.body (hex random.val)) maxEnvelopeBytes).of Untouched.of_eq
  refine Meets.bind (Meets.orFail (Open.stops (.inl hw) (fun _ => Untouched.calm) hread)) fun found => ?_
  refine Meets.require_bind (fun hfound => ?_) fun _ t ht => ht.1.calm.moves (.inl hw)
  refine Meets.named fun t ht => ?_
  obtain ⟨huntouched, hlookup⟩ := ht
  have hmoves : Moves s t := huntouched.calm.moves (.inl hw)
  have hrunning : Running t := huntouched.calm.running hw
  have habsent : t.visible.lookup (.body (hex random.val)) = none := by
    rw [hlookup] at hfound
    simpa using hfound
  rw [← huntouched.calm.state] at hother ⊢
  refine Meets.bind (hmoves.stops (saveLocked_meets hrunning (reserve_admits hrunning rfl))) fun _ => ?_
  refine Meets.named fun u hu => ?_
  have hbefore : Moves s u := hmoves.trans hu.moves
  have hreserved := hu.reserved hrunning rfl hother habsent
  refine Meets.bind (hbefore.stops (putBody_meets hreserved plaintext)) fun _ => ?_
  refine Meets.pure fun v hv => ?_
  obtain ⟨revision, hstate⟩ := hu.state
  refine ⟨hv.running, hbefore.trans hv.moves, ?_, hv.candidate, hv.body⟩
  rw [hv.binding, hstate, huntouched.calm.state]

theorem putCredentialCandidate_meets (hw : Open w) (scope : CandidateScope) (plaintext : Bytes)
    (random : Protocol.Sum256) :
    Orderly w (config.putCredentialCandidate scope plaintext random) :=
  ready_meets hw fun _ _ hs =>
    (putLocked_meets hs scope plaintext random).imp (fun _ _ h => h.moves) (fun _ _ h => h) fun _ h => h

theorem initial_admits {registration} {candidate : SecretCandidate} {t : World}
    (h : Placed 0 candidate.reference candidate.fingerprint w t) (hbinding : w.state.binding = none) :
    Admits t { t.state with binding := some (config.initialBinding registration candidate) } := by
  have hnone : t.state.binding = none := h.binding.trans hbinding
  obtain ⟨d, hd, hready, hexpected, hreference, hfingerprint⟩ := h.candidate
  refine ⟨h.running.stored.after.visible.change ?_ (fun c hc _ => .inl hc) ?_, h.running.stored.after.counted, ?_⟩
  · intro b hb
    obtain rfl := Option.some.inj (active_iff.mp hb).1
    refine .inr (h.running.backs hd hready (hreference ▸ h.body) ?_ hreference hfingerprint)
    rw [hexpected]
    rfl
  · intro reference _ hnamed
    rw [names_iff] at hnamed ⊢
    rcases hnamed with ⟨b, hb, _⟩ | hnamed
    · rw [active_iff, hnone] at hb
      simp at hb
    · exact .inr hnamed
  · intro b hb
    rw [hnone] at hb
    simp at hb

theorem initializeBinding_meets (hw : Open w) (registration : Registration) (plaintext : Bytes)
    (random : Protocol.Sum256) :
    Orderly w (config.initializeBinding registration plaintext random) := by
  refine ready_get_meets hw fun t _ hs => ?_
  refine hs.require fun hallowed => ?_
  refine Meets.bind (putLocked_meets hs _ plaintext random) fun candidate => ?_
  apply Meets.get_bind
  intro u hu
  have hadmits := @initial_admits config t _ registration candidate u hu hallowed.1
  refine Meets.bind (hu.moves.stops (saveLocked_meets hu.running hadmits)) fun _ => ?_
  refine Meets.named fun v hv => ?_
  have hmoves : Moves t v := hu.moves.trans hv.moves
  exact hmoves.orderly (commitLocked_meets hv.running candidate)

end Sessionless.Credential
