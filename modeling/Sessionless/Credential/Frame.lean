import Sessionless.Credential.Store

/-!
# What the directory operations change

Making or removing a file changes that name alone, and may make other names durable as they are. Replacing the
metadata either leaves everything but the temporary file as it was, or puts the new image in place after the rest of
the directory became durable.
-/

namespace Sessionless.Credential

open Lib Prog

/-- Only one name changed, to files with a property; the others may have become durable. -/
structure Only (name : Name) (F : Option File → Prop) (w w' : World) : Prop where
  state : w'.state = w.state
  pending : w'.pending = w.pending
  unknown : w'.unknown = w.unknown
  sealedBodies : w'.sealedBodies = w.sealedBodies
  visible : ∀ m, m ≠ name → w'.visible.lookup m = w.visible.lookup m
  durable : ∀ m, m ≠ name → w'.durable.lookup m = w.durable.lookup m ∨ w'.durable.lookup m = w.visible.lookup m
  shown : F (w'.visible.lookup name)
  kept : w'.durable.lookup name = w.durable.lookup name ∨ F (w'.durable.lookup name)

namespace Only

variable {name : Name} {F : Option File → Prop} {w w' : World}

theorem refl (h : F (w.visible.lookup name)) : Only name F w w where
  state := rfl
  pending := rfl
  unknown := rfl
  sealedBodies := rfl
  visible := fun _ _ => rfl
  durable := fun _ _ => .inl rfl
  shown := h
  kept := .inl rfl

variable (h : Only name F w w')
include h

theorem flag (known : Bool) : Only name F w { w' with temporary := known } := { h with }

theorem identify (m : Name) : Only name F w (identify m w') := by
  unfold Credential.identify
  split
  · exact h.flag true
  · exact h

theorem sync : Only name F w { w' with durable := w'.visible } :=
  { h with
    durable := fun m hm => .inr (h.visible m hm)
    kept := .inr h.shown }

theorem put {file} (hfile : F (some file)) : Only name F w (w'.put name file) :=
  { h with
    visible := by
      intro m hm
      rw [World.put, AList.lookup_insert_ne hm]
      exact h.visible m hm
    shown := by rwa [World.put, AList.lookup_insert] }

theorem unlink (hnone : F none) : Only name F w (w'.unlink name) :=
  { h with
    visible := by
      intro m hm
      rw [World.unlink, AList.lookup_erase_ne hm]
      exact h.visible m hm
    shown := by rwa [World.unlink, AList.lookup_erase] }

theorem weaken {G : Option File → Prop} (hG : ∀ f, F f → G f) : Only name G w w' :=
  { h with shown := hG _ h.shown, kept := h.kept.imp_right (hG _) }

end Only

/-! ## Reads -/

section

variable {config : Config} {I : World → Prop}

theorem look_keeps (e : CredentialError) : Meets I (Prog.look e) (fun _ => I) (fun _ => I) I :=
  Meets.look (fun _ hw => hw) fun _ hw => hw

theorem check_keeps : Meets I check (fun _ => I) (fun _ => I) I := by
  apply Meets.get_bind
  intro w hw
  apply Meets.require_bind
  · intro _
    exact (look_keeps .denied).of fun s hs => hs ▸ hw
  · intro _ s hs
    exact hs ▸ hw

theorem entries_keeps : Meets I config.entries (fun r w => I w ∧ r = config.sizes w) (fun _ => I) I := by
  refine check_keeps.bind fun _ => (look_keeps .denied).bind fun _ => ?_
  apply Meets.get_bind
  intro w hw
  apply Meets.require_bind
  · intro _
    exact Meets.pure fun s hs => ⟨hs ▸ hw, hs ▸ rfl⟩
  · intro _ s hs
    exact hs ▸ hw

theorem space_keeps (extra : Nat) : Meets I (config.space extra) (fun _ => I) (fun _ => I) I := by
  refine entries_keeps.bind fun r => ?_
  apply Meets.require_bind
  · intro _
    exact (look_keeps .unavailable).of fun _ hw => hw.1
  · intro _ w hw
    exact hw.1

theorem onlyLock_keeps : Meets I config.onlyLock (fun _ => I) (fun _ => I) I := by
  refine Meets.bind (Meets.orFail entries_keeps) fun r => ?_
  exact Meets.require (fun _ _ hw => hw.1) fun _ _ hw => hw.1

theorem inventoryFor_keeps (state : Snapshot) :
    Meets I (config.inventoryFor state) (fun _ => I) (fun _ => I) I := by
  refine (look_keeps .denied).bind fun _ => entries_keeps.bind fun r => ?_
  apply Meets.require_bind
  · intro _
    exact Meets.require (fun _ _ hw => hw.1) fun _ _ hw => hw.1
  · intro _ w hw
    exact hw.1

theorem read_keeps (hI : ∀ w known, I w → I { w with temporary := known }) (name : Name) (limit : Nat) :
    Meets I (config.read name limit) (fun r w => I w ∧ r = (w.visible.lookup name).map File.content) (fun _ => I) I := by
  refine check_keeps.bind fun _ => (look_keeps .denied).bind fun _ => ?_
  apply Meets.get_bind
  intro w hw
  split
  case h_1 hnone =>
    refine Meets.pure fun s hs => ?_
    subst hs
    exact ⟨hw, by rw [hnone]; rfl⟩
  case h_2 file hsome =>
    apply Meets.require_bind
    · intro _
      refine Meets.bind (Q := fun _ s => s = w) (Meets.look ?_ ?_) fun _ => ?_
      · intro s hs
        exact hs ▸ hw
      · intro s hs
        exact hs ▸ hw
      refine Meets.bind (Q := fun _ s => I s ∧ s.visible = w.visible) (Meets.modify ?_) fun _ => ?_
      · intro s hs
        subst hs
        unfold identify
        split
        · exact ⟨hI _ _ hw, rfl⟩
        · exact ⟨hw, rfl⟩
      · refine Meets.pure fun s hs => ⟨hs.1, ?_⟩
        rw [hs.2, hsome]
        rfl
    · intro _ s hs
      exact hs ▸ hw

end

/-! ## Files -/

/-- A name while a new file is made: still without it, or with its bytes or unsynced ones. -/
def Wrote (content : Content) (f : Option File) : Prop :=
  f = none ∨ ∃ file, f = some file ∧ (file.synced = true → file.content = content)

theorem wrote_unsynced (content written : Content) : Wrote content (some ⟨written, false⟩) :=
  .inr ⟨_, rfl, by simp⟩

theorem wrote_synced (content : Content) : Wrote content (some ⟨content, true⟩) := .inr ⟨_, rfl, by simp⟩

def Synced (w : World) : Prop := w.durable = w.visible

section

variable {config : Config}

theorem syncDirectory_meets {I : World → Prop} (hI : ∀ w, I w → I { w with durable := w.visible }) :
    Meets I syncDirectory (fun _ w => I w ∧ Synced w) (fun _ => I) I :=
  Meets.step (fun w hw => ⟨hI w hw, rfl⟩) (fun _ hw => hw) hI

/-- What a failed or cut off `create` leaves. -/
def CreateTrace (name : Name) (content : Content) (w w' : World) : Prop :=
  Only name (fun f => f = w.visible.lookup name) w w' ∨ w.visible.lookup name = none ∧ Only name (Wrote content) w w'

theorem create_meets (name : Name) (content : Content) (w : World) :
    Meets (fun s => s = w) (config.create name content)
      (fun _ w' => w.visible.lookup name = none ∧ Only name (Wrote content) w w' ∧
        w'.visible.lookup name = some ⟨content, true⟩ ∧ Synced w')
      (fun _ => CreateTrace name content w) (CreateTrace name content w) := by
  have hsame : ∀ s, s = w → CreateTrace name content w s := by
    intro s hs
    subst hs
    exact .inl (.refl rfl)
  refine Meets.bind (check_keeps.keeps hsame) fun _ => ?_
  refine Meets.require_bind (fun _ => ?_) fun _ => hsame
  refine Meets.bind (Meets.orFail ((space_keeps _).keeps hsame)) fun _ => ?_
  apply Meets.get_bind
  rintro s rfl
  refine Meets.require_bind (fun habsent => ?_) fun _ => hsame
  have hnone : s.visible.lookup name = none := by simpa using habsent
  -- From the `open` on, the name has a file of this call and nothing else changes.
  have hkeep : ∀ t, Only name (Wrote content) s t → CreateTrace name content s t := fun t ht => .inr ⟨hnone, ht⟩
  have hopen : Only name (Wrote content) s (s.put name ⟨.other 0, false⟩) :=
    (Only.refl (.inl hnone)).put (wrote_unsynced _ _)
  refine Meets.bind (Q := fun _ => Only name (Wrote content) s) (Meets.step ?_ ?_ ?_) fun _ => ?_
  · rintro t rfl
    exact hopen
  · rintro t rfl
    exact hsame _ rfl
  · rintro t rfl
    exact hkeep _ hopen
  refine Meets.bind ((look_keeps .denied).keeps hkeep) fun _ => ?_
  refine Meets.bind (Q := fun _ => Only name (Wrote content) s) (Meets.modify fun t ht => ht.identify name) fun _ => ?_
  refine Meets.bind (Q := fun _ => Only name (Wrote content) s) (Meets.stepOr ?_ ?_ ?_) fun _ => ?_
  · exact fun t ht => ht.put (wrote_unsynced _ _)
  · exact fun t ht => hkeep _ (ht.put (wrote_unsynced _ _))
  · exact fun t ht => hkeep _ (ht.put (wrote_unsynced _ _))
  refine Meets.bind
    (Q := fun _ t => Only name (Wrote content) s t ∧ t.visible.lookup name = some ⟨content, true⟩)
    (Meets.step ?_ (fun t => hkeep t) fun t ht => hkeep _ (ht.put (wrote_synced _))) fun _ => ?_
  · exact fun t ht => ⟨ht.put (wrote_synced _), AList.lookup_insert _⟩
  refine (syncDirectory_meets fun t ht => ⟨ht.1.sync, ht.2⟩).imp ?_ (fun _ t ht => hkeep t ht.1) fun t ht => hkeep t ht.1
  exact fun _ t ht => ⟨hnone, ht.1.1, ht.1.2, ht.2⟩

/-- What a failed or cut off `remove` leaves. -/
def RemoveTrace (name : Name) (w w' : World) : Prop := Only name (fun f => f = w.visible.lookup name ∨ f = none) w w'

theorem remove_meets (name : Name) (w : World) :
    Meets (fun s => s = w) (config.remove name)
      (fun _ w' => RemoveTrace name w w' ∧ w'.visible.lookup name = none ∧ Synced w')
      (fun _ => RemoveTrace name w) (RemoveTrace name w) := by
  have hsame : ∀ s, s = w → RemoveTrace name w s := by
    intro s hs
    subst hs
    exact .refl (.inl rfl)
  refine Meets.bind (check_keeps.keeps hsame) fun _ => ?_
  refine Meets.bind ((look_keeps .denied).keeps hsame) fun _ => ?_
  apply Meets.get_bind
  rintro s rfl
  have hsync : ∀ t, RemoveTrace name s t ∧ t.visible.lookup name = none →
      RemoveTrace name s { t with durable := t.visible } ∧ t.visible.lookup name = none :=
    fun t ht => ⟨ht.1.sync, ht.2⟩
  have hfinish : Meets (fun t => RemoveTrace name s t ∧ t.visible.lookup name = none) syncDirectory
      (fun _ w' => RemoveTrace name s w' ∧ w'.visible.lookup name = none ∧ Synced w')
      (fun _ => RemoveTrace name s) (RemoveTrace name s) :=
    (syncDirectory_meets hsync).imp (fun _ t ht => ⟨ht.1.1, ht.1.2, ht.2⟩) (fun _ t ht => ht.1) fun t ht => ht.1
  split
  case h_1 hnone =>
    refine hfinish.of fun t ht => ?_
    subst ht
    exact ⟨hsame _ rfl, hnone⟩
  case h_2 file hsome =>
    apply Meets.get_bind
    rintro t rfl
    refine Meets.require_bind (fun _ => ?_) fun _ => hsame
    refine Meets.require_bind (fun _ => ?_) fun _ => hsame
    refine Meets.bind (Meets.step ?_ hsame ?_) fun _ => hfinish
    · rintro u rfl
      exact ⟨(hsame _ rfl).unlink (.inr rfl), AList.lookup_erase _ _⟩
    · rintro u rfl
      exact (hsame _ rfl).unlink (.inr rfl)

/-! ## The metadata -/

def Calm : World → World → Prop := Only .temporary fun _ => True

theorem Calm.refl (w : World) : Calm w w := Only.refl trivial

theorem Calm.of_eq {w} : ∀ t, t = w → Calm w t := fun _ h => h ▸ Calm.refl w

theorem Calm.trans {w s t} (h : Calm w s) (h' : Calm s t) : Calm w t where
  state := h'.state.trans h.state
  pending := h'.pending.trans h.pending
  unknown := h'.unknown.trans h.unknown
  sealedBodies := h'.sealedBodies.trans h.sealedBodies
  visible := fun m hm => (h'.visible m hm).trans (h.visible m hm)
  durable := by
    intro m hm
    cases h'.durable m hm with
    | inl hdurable =>
      rw [hdurable]
      exact h.durable m hm
    | inr hvisible =>
      rw [hvisible]
      exact .inr (h.visible m hm)
  shown := trivial
  kept := .inr trivial

theorem CreateTrace.calm {content w w'} (h : CreateTrace .temporary content w w') : Calm w w' := by
  cases h with
  | inl h => exact h.weaken fun _ _ => trivial
  | inr h => exact h.2.weaken fun _ _ => trivial

/-- The metadata has new bytes in the visible directory, and all the rest is durable. -/
structure Replaced (content : Content) (w w' : World) : Prop where
  state : w'.state = w.state
  pending : w'.pending = w.pending
  unknown : w'.unknown = w.unknown
  sealedBodies : w'.sealedBodies = w.sealedBodies
  visible : ∀ m, m ≠ .temporary → m ≠ .metadata → w'.visible.lookup m = w.visible.lookup m
  durable : ∀ m, m ≠ .temporary → m ≠ .metadata → w'.durable.lookup m = w.visible.lookup m
  shown : w'.visible.lookup .metadata = some ⟨content, true⟩
  kept : w'.durable.lookup .metadata = w.visible.lookup .metadata ∨ w'.durable.lookup .metadata = some ⟨content, true⟩

theorem Replaced.rename {content w w'} (h : Calm w w') (hsync : Synced w') :
    Replaced content w (Config.rename content w') :=
  { h with
    visible := by
      intro m htemporary hmetadata
      rw [Config.rename, World.put, AList.lookup_insert_ne hmetadata, World.unlink, AList.lookup_erase_ne htemporary]
      exact h.visible m htemporary
    durable := by
      intro m htemporary _
      rw [Config.rename, World.put, World.unlink, hsync]
      exact h.visible m htemporary
    shown := AList.lookup_insert _
    kept := by
      rw [Config.rename, World.put, World.unlink, hsync]
      exact .inl (h.visible .metadata (by simp)) }

theorem Replaced.flag {content w w'} (h : Replaced content w w') (known : Bool) :
    Replaced content w { w' with temporary := known } := { h with }

theorem Replaced.sync {content w w'} (h : Replaced content w w') :
    Replaced content w { w' with durable := w'.visible } :=
  { h with durable := h.visible, kept := .inr h.shown }

theorem remove_temporary_calm (w : World) :
    Meets (Calm w) (config.remove .temporary) (fun _ => Calm w) (fun _ => Calm w) (Calm w) := by
  refine Meets.named fun s hs => ?_
  have htrace : ∀ t, RemoveTrace .temporary s t → Calm w t := fun t ht => hs.trans (ht.weaken fun _ _ => trivial)
  exact (remove_meets .temporary s).imp (fun _ t ht => htrace t ht.1) (fun _ => htrace) htrace

theorem discardTemporary_meets {Q : Unit → World → Prop} (w : World) :
    Meets (Calm w) config.discardTemporary Q (fun _ => Calm w) (Calm w) := by
  refine Meets.bind (Meets.orFail (remove_temporary_calm w)) fun _ => ?_
  exact Meets.fail fun _ ht => ht

theorem writeTemporary_meets (content : Content) (w : World) :
    Meets (fun s => s = { w with temporary := false })
      (Prog.handle (config.create .temporary content) fun e => do
        let w ← Prog.get
        if w.temporary then config.discardTemporary else Prog.fail e)
      (fun _ t => Calm w t ∧ Synced t) (fun _ => Calm w) (Calm w) := by
  have hstart : Calm w { w with temporary := false } := (Calm.refl w).flag false
  have htrace : ∀ t, CreateTrace .temporary content { w with temporary := false } t → Calm w t :=
    fun t ht => hstart.trans ht.calm
  refine Meets.handle ((create_meets .temporary content _).imp ?_ (fun _ => htrace) htrace) fun e => ?_
  · intro _ t ht
    exact ⟨hstart.trans (ht.2.1.weaken fun _ _ => trivial), ht.2.2.2⟩
  · apply Meets.get_bind
    intro s hs
    split
    · exact (discardTemporary_meets w).of fun t ht => ht ▸ hs
    · exact Meets.fail fun t ht => ht ▸ hs

theorem writeAtomic_meets (content : Content) (w : World) :
    Meets (fun s => s = w) (config.writeAtomic content)
      (fun _ t => Replaced content w t ∧ t.durable.lookup .metadata = some ⟨content, true⟩)
      (fun e t => Calm w t ∨ e = .unknown ∧ Replaced content w t) (fun t => Calm w t ∨ Replaced content w t) := by
  refine Meets.require_bind (fun _ => ?_) fun _ s hs => .inl (Calm.of_eq s hs)
  refine Meets.bind (check_keeps.imp (fun _ _ h => h) (fun _ s hs => .inl (Calm.of_eq s hs)) fun s hs =>
    .inl (Calm.of_eq s hs)) fun _ => ?_
  refine Meets.bind (Q := fun _ s => s = { w with temporary := false }) (Meets.modify fun s hs => hs ▸ rfl) fun _ => ?_
  refine Meets.bind ((writeTemporary_meets content w).imp (fun _ _ h => h) (fun _ _ => .inl) fun _ => .inl) fun _ => ?_
  refine Meets.bind ((look_keeps .unknown).imp (fun _ _ h => h) (fun _ t ht => .inl ht.1) fun t ht => .inl ht.1)
    fun _ => ?_
  have hrename : Meets (fun t => Calm w t ∧ Synced t) (Prog.step CredentialError.unavailable (Config.rename content))
      (fun _ => Replaced content w) (fun _ => Calm w) fun t => Calm w t ∨ Replaced content w t :=
    Meets.step (fun t ht => .rename ht.1 ht.2) (fun t ht => ht.1) fun t ht => .inr (.rename ht.1 ht.2)
  refine Meets.bind (hrename.handle fun _ => ?_) fun _ => ?_
  · exact (discardTemporary_meets w).imp (fun _ _ h => h) (fun _ _ => .inl) fun _ => .inl
  refine Meets.bind (Q := fun _ => Replaced content w) (Meets.modify fun t ht => ht.flag false) fun _ => ?_
  refine Meets.step ?_ (fun t ht => .inr ⟨rfl, ht⟩) fun t ht => .inr ht.sync
  exact fun t ht => ⟨ht.sync, ht.shown⟩

theorem markUnknown_meets {Q : Unit → World → Prop} {C : World → Prop} {E : CredentialError → World → Prop}
    {P : World → Prop} (pending : Snapshot) (e : CredentialError)
    (h : ∀ s, P s → E e (if e = .unknown then { s with unknown := true, pending := some pending } else s)) :
    Meets P (Config.markUnknown pending e) Q E C := by
  refine Meets.bind (Q := fun _ s => E e s) (Meets.modify h) fun _ => ?_
  exact Meets.fail fun _ hs => hs

/-- Nothing changed but what is known of the temporary file. -/
def Untouched (w t : World) : Prop := ∃ known, t = { w with temporary := known }

theorem Untouched.calm {w t} (h : Untouched w t) : Calm w t := by
  obtain ⟨known, rfl⟩ := h
  exact (Calm.refl w).flag known

theorem Untouched.of_eq {w} : ∀ t, t = w → Untouched w t := by
  rintro t rfl
  exact ⟨_, rfl⟩

theorem Untouched.flag {w} : ∀ t known, Untouched w t → Untouched w { t with temporary := known } := by
  rintro t known ⟨_, rfl⟩
  exact ⟨known, rfl⟩

theorem readyLocked_meets (w : World) :
    Meets (fun s => s = w) config.readyLocked (fun _ t => Untouched w t ∧ w.unknown = false) (fun _ => Untouched w)
      (Untouched w) := by
  refine Meets.bind ((look_keeps .denied).keeps Untouched.of_eq) fun _ => ?_
  apply Meets.get_bind
  rintro s rfl
  refine Meets.require_bind (fun hknown => ?_) fun _ => Untouched.of_eq
  refine Meets.bind (check_keeps.of Untouched.of_eq) fun _ => ?_
  refine Meets.bind (read_keeps Untouched.flag _ _) fun raw => ?_
  refine Meets.require_bind (fun _ => ?_) fun _ t ht => ht.1
  refine Meets.require_bind (fun _ => ?_) fun _ t ht => ht.1
  exact ((inventoryFor_keeps s.state).of fun t ht => ht.1).imp (fun _ t ht => ⟨ht, hknown⟩) (fun _ _ h => h) fun _ h => h

end

end Sessionless.Credential
