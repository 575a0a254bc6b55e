import Sessionless.Credential.Invariant

/-!
# The writes of the store

Saving a snapshot and removing a body, from a store that knows what is durable. A save needs the new
snapshot to fit the visible directory only: writing the temporary file makes that directory durable
before the rename.
-/

namespace Sessionless.Credential

open Lib Prog

variable [Protocol.Crypto] {config : Config} {w t : World}

/-! ## Frames keep what is stored -/

theorem Backed.files {S} (h : Backed S w) (hsealed : t.sealedBodies = w.sealedBodies)
    (hvisible : ∀ reference, t.visible.lookup (.body reference) = w.visible.lookup (.body reference))
    (hdurable : ∀ reference, t.durable.lookup (.body reference) = w.durable.lookup (.body reference) ∨
      t.durable.lookup (.body reference) = w.visible.lookup (.body reference)) : Backed S t where
  visible := h.visible.mix h.visible fun reference => .inl (hvisible reference)
  durable := h.durable.mix h.visible hdurable
  counted := hsealed ▸ h.counted

theorem Calm.backed {S} (h : Calm w t) (hS : Backed S w) : Backed S t :=
  hS.files h.sealedBodies (fun _ => h.visible _ (by simp)) fun _ => h.durable _ (by simp)

theorem Calm.stored {R S} (h : Calm w t) (hstored : Stored R S w) : Stored R S t ∨ Stored S S t := by
  have hvisible : Shows t.visible S := hstored.visible.congr (h.visible .metadata (by simp))
  cases h.durable .metadata (by simp) with
  | inl hsame =>
    exact .inl ⟨hstored.durable.congr hsame, hvisible, h.backed hstored.before, h.backed hstored.after, hstored.later⟩
  | inr hnew =>
    exact .inr ⟨hstored.visible.congr hnew, hvisible, h.backed hstored.after, h.backed hstored.after, .refl S⟩

theorem Calm.running (h : Calm w t) (hw : Running w) : Running t := by
  refine ⟨h.unknown.trans hw.known, ?_⟩
  rw [h.state]
  cases h.stored hw.stored with
  | inl hstored | inr hstored => exact hstored

theorem Calm.since {Q} (h : Calm w t) (hw : Since Q w) : Since Q t := by
  obtain ⟨R, S, hstored, hlater⟩ := hw
  cases h.stored hstored with
  | inl hsame => exact ⟨R, S, hsame, hlater⟩
  | inr hnew => exact ⟨S, S, hnew, hlater.trans hstored.later⟩

theorem Calm.unsure (h : Calm w t) (hw : Unsure w) : Unsure t where
  unknown := h.unknown.trans hw.unknown
  backed := h.state ▸ h.backed hw.backed
  pending := by
    obtain ⟨N, hN, hlater, R, S, hstored, hR, hS⟩ := hw.pending
    rw [h.state, h.pending]
    cases h.stored hstored with
    | inl hsame => exact ⟨N, hN, hlater, R, S, hsame, hR, hS⟩
    | inr hnew => exact ⟨N, hN, hlater, S, S, hnew, hS, hS⟩

theorem Calm.moves (h : Calm w t) (hw : Open w) : Moves w t where
  isOpen := hw.imp h.running h.unsure
  state := h.state ▸ .refl _
  since := fun _ => h.since

theorem Calm.falls (h : Calm w t) : Falls w t := fun _ => h.since

theorem Replaced.backed {content S} (h : Replaced content w t) (hvisible : Fits S w.visible)
    (hcounted : w.sealedBodies ≤ S.keyUses) : Backed S t where
  visible := hvisible.mix hvisible fun _ => .inl (h.visible _ (by simp) (by simp))
  durable := hvisible.mix hvisible fun _ => .inl (h.durable _ (by simp) (by simp))
  counted := h.sealedBodies ▸ hcounted

structure Admits (w : World) (next : Snapshot) : Prop where
  fits : Fits next w.visible
  counted : w.sealedBodies ≤ next.keyUses
  later : Later w.state next

theorem Admits.revised {next} (h : Admits w next) (revision : Nat) :
    Admits w { next with revision := revision } :=
  ⟨fun reference => ⟨(h.fits reference).active, (h.fits reference).ready, (h.fits reference).named⟩, h.counted, h.later⟩

theorem Replaced.stored {R next} (h : Replaced (.image next) w t) (hw : Stored R w.state w)
    (hnext : Admits w next) : Stored w.state next t ∨ Stored next next t := by
  have hafter : Backed next t := h.backed hnext.fits hnext.counted
  have hbefore : Backed w.state t := h.backed hw.after.visible hw.after.counted
  cases h.kept with
  | inl hold => exact .inl ⟨hw.visible.congr hold, .inl h.shown, hbefore, hafter, hnext.later⟩
  | inr hnew => exact .inr ⟨.inl hnew, .inl h.shown, hafter, hafter, .refl _⟩

theorem Replaced.since {R next} (h : Replaced (.image next) w t) (hw : Stored R w.state w)
    (hnext : Admits w next) : Since R t := by
  cases h.stored hw hnext with
  | inl hstored => exact ⟨_, _, hstored, hw.later⟩
  | inr hstored => exact ⟨_, _, hstored, hw.later.trans hnext.later⟩

/-! ## Saving -/

/-- What a finished save leaves: the new snapshot, with every body as it was. -/
structure Saved (config : Config) (next : Snapshot) (w t : World) : Prop where
  state : ∃ revision, t.state = { next with revision := revision }
  running : Running t
  moves : Moves w t
  bodies : ∀ reference, t.visible.lookup (.body reference) = w.visible.lookup (.body reference)
  sealedBodies : t.sealedBodies = w.sealedBodies
  valid : config.validateSnapshot t.state = true

theorem Replaced.saved {next revision}
    (h : Replaced (.image { next with revision := revision }) w t) (hw : Running w) (hnext : Admits w next)
    (hdurable : t.durable.lookup .metadata = some ⟨.image { next with revision := revision }, true⟩)
    (hencodable : config.encodable { next with revision := revision } = true) :
    Saved config next w { t with state := { next with revision := revision } } := by
  have hrevised := hnext.revised revision
  have hafter : Backed { next with revision := revision } t := h.backed hrevised.fits hrevised.counted
  have hrunning : Running { t with state := { next with revision := revision } } := by
    refine ⟨h.unknown.trans hw.known, ?_⟩
    exact ⟨.inl hdurable, .inl h.shown, ⟨hafter.visible, hafter.durable, hafter.counted⟩,
      ⟨hafter.visible, hafter.durable, hafter.counted⟩, .refl _⟩
  exact
    { state := ⟨revision, rfl⟩
      running := hrunning
      moves := hw.moves (.inl hrunning) hrevised.later
      bodies := fun _ => h.visible _ (by simp) (by simp)
      sealedBodies := h.sealedBodies
      valid := by
        simp only [Config.encodable, Bool.and_eq_true] at hencodable
        exact hencodable.1.1 }

theorem Running.mark {next} (hw : Running w) (hnext : Admits w next)
    (h : Calm w t ∨ Replaced (.image next) w t) : Moves w { t with unknown := true, pending := some next } := by
  have hstate : t.state = w.state := by
    cases h with
    | inl h | inr h => exact h.state
  have hback : ∀ S, Fits S w.visible → w.sealedBodies ≤ S.keyUses → Backed S w → Backed S t := by
    intro S hfits hcounted hS
    cases h with
    | inl h => exact h.backed hS
    | inr h => exact h.backed hfits hcounted
  have hbacked : Backed w.state t := hback _ hw.stored.after.visible hw.stored.after.counted hw.stored.after
  have hstored : ∃ R S, Stored R S t ∧ (R = w.state ∨ R = next) ∧ (S = w.state ∨ S = next) := by
    cases h with
    | inl h => exact ⟨_, _, (h.stored hw.stored).elim id id, .inl rfl, .inl rfl⟩
    | inr h =>
      cases h.stored hw.stored hnext with
      | inl hstored => exact ⟨_, _, hstored, .inl rfl, .inr rfl⟩
      | inr hstored => exact ⟨_, _, hstored, .inr rfl, .inr rfl⟩
  obtain ⟨R, S, hstored, hR, hS⟩ := hstored
  refine hw.moves (.inr ?_) (hstate ▸ .refl _)
  refine ⟨rfl, ?_, next, rfl, ?_, R, S, ?_, ?_, ?_⟩
  · exact hstate ▸ ⟨hbacked.visible, hbacked.durable, hbacked.counted⟩
  · exact hstate ▸ hnext.later
  · exact ⟨hstored.durable, hstored.visible, ⟨hstored.before.visible, hstored.before.durable, hstored.before.counted⟩,
      ⟨hstored.after.visible, hstored.after.durable, hstored.after.counted⟩, hstored.later⟩
  · exact hstate ▸ hR
  · exact hstate ▸ hS

theorem saveLocked_meets {next} (hw : Running w) (hnext : Admits w next) :
    Meets (fun s => s = w) (config.saveLocked next) (fun _ => Saved config next w) (fun _ => Moves w) (Falls w) := by
  have hsame : ∀ s, s = w → Moves w s := fun s hs => hs ▸ (Calm.refl w).moves (.inl hw)
  apply Meets.get_bind
  rintro s rfl
  refine Meets.require_bind (fun _ => ?_) fun _ => hsame
  have hrevised := hnext.revised (s.state.revision + 1)
  refine Meets.require_bind (fun hencodable => ?_) fun _ => hsame
  have hwrite := @writeAtomic_meets config (.image { next with revision := s.state.revision + 1 }) s
  refine Meets.bind (Meets.handle (hwrite.imp (fun _ _ h => h) (fun _ _ h => h) ?_) fun e => ?_) fun _ => ?_
  · intro t ht
    cases ht with
    | inl hcalm => exact hcalm.falls
    | inr hreplaced => exact hw.falls (hreplaced.since hw.stored hrevised)
  · refine markUnknown_meets _ e fun t ht => ?_
    split
    · exact hw.mark hrevised (ht.imp_right And.right)
    · rename_i hknown
      cases ht with
      | inl hcalm => exact hcalm.moves (.inl hw)
      | inr hreplaced => exact absurd hreplaced.1 hknown
  · exact Meets.modify fun t ht => ht.1.saved hw hnext ht.2 hencodable

/-! ## Bodies -/

theorem Only.backed {reference} {F : Option File → Prop} {S} (h : Only (.body reference) F w t)
    (hS : Backed S w) (hF : ∀ f, F f → FitsAt S reference f) : Backed S t where
  visible := by
    intro other
    by_cases hother : other = reference
    · exact hother ▸ hF _ h.shown
    · rw [h.visible _ (by simpa using hother)]
      exact hS.visible other
  durable := by
    intro other
    by_cases hother : other = reference
    · subst hother
      cases h.kept with
      | inl hold => exact hold ▸ hS.durable other
      | inr hnew => exact hF _ hnew
    · cases h.durable (.body other) (by simpa using hother) with
      | inl hold => exact hold ▸ hS.durable other
      | inr hnew => exact hnew ▸ hS.visible other
  counted := h.sealedBodies ▸ hS.counted

theorem Only.running {reference} {F : Option File → Prop} (h : Only (.body reference) F w t) (hw : Running w)
    (hF : ∀ f, F f → FitsAt w.state reference f) : Running t := by
  refine ⟨h.unknown.trans hw.known, ?_⟩
  rw [h.state]
  have hbacked : Backed w.state t := h.backed hw.stored.after hF
  have hvisible : Shows t.visible w.state := hw.stored.visible.congr (h.visible .metadata (by simp))
  refine ⟨?_, hvisible, hbacked, hbacked, .refl _⟩
  cases h.durable .metadata (by simp) with
  | inl hold => exact hw.stored.durable.congr hold
  | inr hnew => exact hw.stored.visible.congr hnew

theorem Only.moves {reference} {F : Option File → Prop} (h : Only (.body reference) F w t) (hw : Running w)
    (hF : ∀ f, F f → FitsAt w.state reference f) : Moves w t :=
  hw.moves (.inl (h.running hw hF)) (h.state ▸ .refl _)

/-- A body write that ended with an unknown durability: the pending image is the current one. -/
theorem Running.doubt (hw : Running w) (ht : Running t) (hstate : t.state = w.state) :
    Moves w { t with unknown := true, pending := some w.state } := by
  have hself : Admits t t.state := ⟨ht.stored.after.visible, ht.stored.after.counted, .refl _⟩
  rw [← hstate]
  exact (hw.moves (.inl ht) (hstate ▸ .refl _)).trans (ht.mark hself (.inl (.refl t)))

theorem fitsAt_none {S reference} (h : S.refersTo reference = false) : FitsAt S reference none where
  active := by
    intro b hb href
    simp only [Snapshot.active, Option.filter_eq_some_iff] at hb
    simp [Snapshot.refersTo, hb.1, href] at h
  ready := by simp
  named := by simp

structure Removed (reference : String) (w t : World) : Prop where
  state : t.state = w.state
  running : Running t
  moves : Moves w t
  gone : t.visible.lookup (.body reference) = none
  others : ∀ other, other ≠ reference → t.visible.lookup (.body other) = w.visible.lookup (.body other)
  sealedBodies : t.sealedBodies = w.sealedBodies

theorem removeLocked_meets {reference} (hw : Running w) (href : w.state.refersTo reference = false) :
    Meets (fun s => s = w) (config.removeLocked (.body reference)) (fun _ => Removed reference w) (fun _ => Moves w)
      (Falls w) := by
  apply Meets.get_bind
  rintro s rfl
  have hallowed : ∀ f, f = s.visible.lookup (.body reference) ∨ f = none → FitsAt s.state reference f := by
    rintro f (rfl | rfl)
    · exact hw.stored.after.visible reference
    · exact fitsAt_none href
  have htrace : ∀ t, RemoveTrace (.body reference) s t → Moves s t := fun t ht => Only.moves ht hw hallowed
  refine Meets.handle ((remove_meets (.body reference) s).imp ?_ (fun _ _ h => h) ?_) fun e => ?_
  · rintro _ t ⟨ht, hgone, _⟩
    exact
      { state := ht.state
        running := Only.running ht hw hallowed
        moves := htrace t ht
        gone := hgone
        others := fun other hother => ht.visible _ (by simpa using hother)
        sealedBodies := ht.sealedBodies }
  · exact fun t ht => (htrace t ht).since
  · refine markUnknown_meets _ e fun t ht => ?_
    split
    · exact hw.doubt (Only.running ht hw hallowed) ht.state
    · exact htrace t ht

/-! ## The check before every call -/

/-- However the program ends, it has moved the world it starts in. -/
def Orderly {α : Type} (w : World) (c : Op α) : Prop :=
  Meets (fun s => s = w) c (fun _ => Moves w) (fun _ => Moves w) (Falls w)

section

variable {α : Type} {P : World → Prop} {c : Op α} {Q : α → World → Prop}

theorem Moves.stops (h : Moves w t) (hc : Meets P c Q (fun _ => Moves t) (Falls t)) :
    Meets P c Q (fun _ => Moves w) (Falls w) :=
  hc.imp (fun _ _ h => h) (fun _ _ => h.trans) fun _ => h.falls

theorem Moves.orderly (h : Moves w t) (hc : Orderly t c) :
    Meets (fun s => s = t) c (fun _ => Moves w) (fun _ => Moves w) (Falls w) :=
  (h.stops hc).imp (fun _ _ => h.trans) (fun _ _ h => h) fun _ h => h

theorem Open.stops {I : World → Prop} (hw : Open w) (hI : ∀ s, I s → Calm w s) (hc : Meets P c Q (fun _ => I) I) :
    Meets P c Q (fun _ => Moves w) (Falls w) :=
  hc.imp (fun _ _ h => h) (fun _ s hs => (hI s hs).moves hw) fun s hs => (hI s hs).falls

end

theorem ready_meets {α : Type} {f : Unit → Op α} (hw : Open w)
    (h : ∀ s, Untouched w s → Running s → Orderly s (f ())) : Orderly w (config.readyLocked >>= f) := by
  refine Meets.bind (hw.stops (fun _ => Untouched.calm) (readyLocked_meets w)) fun _ => ?_
  refine Meets.named fun s hs => ?_
  have hmoves : Moves w s := hs.1.calm.moves hw
  have hrunning : Running s := by
    cases hmoves.isOpen with
    | inl hrunning => exact hrunning
    | inr hunsure =>
      have hunknown := hunsure.unknown
      rw [hs.1.calm.unknown, hs.2] at hunknown
      simp at hunknown
  exact hmoves.orderly (h s hs.1 hrunning)

theorem ready_get_meets {α : Type} {f : World → Op α} (hw : Open w)
    (h : ∀ s, Untouched w s → Running s → Orderly s (f s)) :
    Orderly w (config.readyLocked >>= fun _ => Prog.get >>= f) := by
  refine ready_meets hw fun s hsame hs => ?_
  apply Meets.get_bind
  rintro t rfl
  exact h t hsame hs

end Sessionless.Credential
