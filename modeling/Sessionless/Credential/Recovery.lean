import Sessionless.Credential.Operations

/-!
# Finding out what is durable

`Reconcile` and `New` read the image the root shows, discard an unrenamed next one, and sync the
directory before they take the image for the state of the store.
-/

namespace Sessionless.Credential

open Lib Prog

variable {config : Config} {w t : World}

/-! ## Temporary files and images -/

theorem discardPending_meets (pending : Option Snapshot) (temporary : Option Content) :
    Meets (Calm w) (config.discardPending pending temporary) (fun _ => Calm w) (fun _ => Calm w) (Calm w) := by
  unfold Config.discardPending
  split
  · exact Meets.pure fun _ ht => ht
  · refine Meets.require_bind (fun _ => ?_) fun _ _ ht => ht
    exact Meets.orFail (remove_temporary_calm w)

theorem discardNext_meets (state : Snapshot) (temporary : Option Content) :
    Meets (Calm w) (config.discardNext state temporary) (fun _ => Calm w) (fun _ => Calm w) (Calm w) := by
  unfold Config.discardNext
  split
  · exact Meets.pure fun _ ht => ht
  · refine Meets.require_bind (fun _ => ?_) fun _ _ ht => ht
    exact Meets.orFail (remove_temporary_calm w)

theorem discardInitial_meets (temporary : Option Content) :
    Meets (Calm w) (config.discardInitial temporary) (fun _ => Calm w) (fun _ => Calm w) (Calm w) := by
  unfold Config.discardInitial
  split
  · exact Meets.pure fun _ ht => ht
  · refine Meets.bind (Meets.orFail entries_keeps) fun entries => ?_
    refine Meets.require_bind (fun _ => ?_) fun _ _ ht => ht.1
    exact Meets.orFail ((remove_temporary_calm w).of fun _ ht => ht.1)

theorem decodeSnapshot_some {content S} (h : config.decodeSnapshot content = some S) :
    content = .image S := by
  unfold Config.decodeSnapshot at h
  split at h
  · split at h
    · rw [Option.some.inj h]
    · simp at h
  · simp at h

theorem Shows.decoded {d S state} (h : Shows d S)
    (hdecode : ((d.lookup .metadata).map File.content).bind config.decodeSnapshot = some state) : state = S := by
  cases h with
  | inl h =>
    rw [h] at hdecode
    have himage := @decodeSnapshot_some config (.image S) state (by simpa using hdecode)
    injection himage with heq
    exact heq.symm
  | inr h =>
    rw [h.1] at hdecode
    simp at hdecode

/-! ## Roots that show a state -/

variable [Protocol.Crypto]

theorem Stored.files {R S} (h : Stored R S w) (hsealed : t.sealedBodies = w.sealedBodies)
    (hmetadata : t.visible.lookup .metadata = w.visible.lookup .metadata)
    (hbodies : ∀ reference, t.visible.lookup (.body reference) = w.visible.lookup (.body reference))
    (hdurable : t.durable = w.durable) : Stored R S t := by
  have hback : ∀ Q, Backed Q w → Backed Q t :=
    fun Q hQ => hQ.files hsealed hbodies fun reference => .inl (by rw [hdurable])
  exact ⟨hdurable ▸ h.durable, h.visible.congr hmetadata, hback R h.before, hback S h.after, h.later⟩

theorem Stored.falls_files (hsealed : t.sealedBodies = w.sealedBodies)
    (hmetadata : t.visible.lookup .metadata = w.visible.lookup .metadata)
    (hbodies : ∀ reference, t.visible.lookup (.body reference) = w.visible.lookup (.body reference))
    (hdurable : t.durable = w.durable) : Falls w t := by
  rintro Q ⟨R, S, hstored, hlater⟩
  exact ⟨R, S, hstored.files hsealed hmetadata hbodies hdurable, hlater⟩

structure Loaded (w : World) : Prop where
  known : w.unknown = false
  stored : ∃ R, Stored R w.state w

theorem Loaded.sync (h : Loaded w) :
    Running { w with durable := w.visible } ∧ Falls w { w with durable := w.visible } := by
  obtain ⟨R, hstored⟩ := h.stored
  have hbacked : Backed w.state { w with durable := w.visible } :=
    ⟨hstored.after.visible, hstored.after.visible, hstored.after.counted⟩
  have hrunning : Running { w with durable := w.visible } :=
    ⟨h.known, hstored.visible, hstored.visible, hbacked, hbacked, .refl _⟩
  refine ⟨hrunning, ?_⟩
  rintro Q ⟨R', S', hstored', hlater⟩
  obtain rfl := hstored'.durable.unique hstored.durable
  exact (hrunning.since_iff Q).mpr (hlater.trans hstored.later)

theorem Calm.loaded (h : Calm w t) (hw : Loaded w) : Loaded t := by
  obtain ⟨R, hstored⟩ := hw.stored
  refine ⟨h.unknown.trans hw.known, ?_⟩
  rw [h.state]
  cases h.stored hstored with
  | inl hsame => exact ⟨R, hsame⟩
  | inr hnew => exact ⟨_, hnew⟩

/-! ## Reconciling -/

theorem Unsure.established {R S} (hw : Unsure w) (hstored : Stored R S w) (hcalm : Calm w t) (hsync : Synced t) :
    Running { t with state := S, pending := none, unknown := false } ∧
      Moves w { t with state := S, pending := none, unknown := false } := by
  have hvisible : Shows t.visible S := hstored.visible.congr (hcalm.visible .metadata (by simp))
  have hbacked : Backed S t := hcalm.backed hstored.after
  have hrunning : Running { t with state := S, pending := none, unknown := false } := by
    refine ⟨rfl, ?_, hvisible, ?_, ?_, .refl _⟩
    · exact hsync ▸ hvisible
    · exact ⟨hbacked.visible, hbacked.durable, hbacked.counted⟩
    · exact ⟨hbacked.visible, hbacked.durable, hbacked.counted⟩
  refine ⟨hrunning, .inl hrunning, ?_, ?_⟩
  · obtain ⟨N, _, hN, R', S', hstored', _, hS'⟩ := hw.pending
    obtain rfl := hstored'.visible.unique hstored.visible
    cases hS' with
    | inl hold => exact hold ▸ .refl _
    | inr hnew => exact hnew ▸ hN
  · rintro Q ⟨R', S', hstored', hlater⟩
    obtain rfl := hstored'.durable.unique hstored.durable
    exact (hrunning.since_iff Q).mpr (hlater.trans hstored.later)

theorem establish_meets (hw : Unsure w) :
    Meets (fun s => s = w) config.establish (fun _ t => Running t ∧ Moves w t) (fun _ => Moves w) (Falls w) := by
  have hcalm : ∀ t, Calm w t → Moves w t := fun t ht => ht.moves (.inr hw)
  have hread := fun name => Open.stops (.inr hw) (fun _ => Untouched.calm)
    (@read_keeps config _ Untouched.flag name maxMetadataBytes)
  apply Meets.get_bind
  rintro s rfl
  refine Meets.bind (Open.stops (.inr hw) (fun _ => Untouched.calm) (check_keeps.of Untouched.of_eq)) fun _ => ?_
  refine Meets.bind (Meets.orFail (hread .metadata)) fun raw => ?_
  refine Meets.require_bind (fun _ => ?_) fun _ t ht => hcalm t ht.1.calm
  split
  case h_1 => exact Meets.fail fun t ht => hcalm t ht.1.calm
  case h_2 state hstate =>
    obtain ⟨N, _, _, R, S, hstored, _⟩ := hw.pending
    refine Meets.named fun u hu => ?_
    obtain ⟨huntouched, hraw⟩ := hu
    have hshown : state = S := by
      rw [hraw] at hstate
      exact (hstored.visible.congr (huntouched.calm.visible .metadata (by simp))).decoded hstate
    subst hshown
    refine Meets.bind (Meets.orFail ((hread .temporary).of fun v hv => hv ▸ huntouched)) fun temporary => ?_
    refine Meets.bind (Open.stops (.inr hw) (fun _ h => h)
      ((discardPending_meets s.pending temporary).of fun v hv => hv.1.calm)) fun _ => ?_
    refine Meets.bind (Open.stops (.inr hw) (fun _ h => h) (syncDirectory_meets fun v hv => Only.sync hv)) fun _ => ?_
    refine Meets.bind (Meets.orFail (Open.stops (.inr hw) (fun _ h => h.1) (inventoryFor_keeps state))) fun _ => ?_
    exact Meets.modify fun v hv => hw.established hstored hv.1 hv.2

theorem reconcile_meets (hw : Open w) : Orderly w config.reconcile := by
  have hdrain : Meets (fun s => Running s ∧ Moves w s) (config.drainLocked maxCleanups) (fun _ => Moves w)
      (fun _ => Moves w) (Falls w) := by
    exact Meets.named fun s hs => hs.2.orderly (drainLocked_meets _ hs.1)
  refine Meets.bind (hw.stops Calm.of_eq (look_keeps .denied)) fun _ => ?_
  apply Meets.get_bind
  rintro s rfl
  split
  case isTrue hunknown =>
    cases hw with
    | inl hrunning =>
      rw [hrunning.known] at hunknown
      simp at hunknown
    | inr hunsure => exact Meets.bind (establish_meets hunsure) fun _ => hdrain
  case isFalse hknown =>
    cases hw with
    | inl hrunning =>
      refine ready_meets (.inl hrunning) fun u _ hu => ?_
      exact drainLocked_meets _ hu
    | inr hunsure => exact absurd hunsure.unknown hknown

/-! ## Opening -/

/-- A process that has just started: it knows of no doubt, and its state is that of an unused root. -/
structure Started (w : World) : Prop where
  known : w.unknown = false
  state : w.state = .initial
  stored : ∃ R S, Stored R S w

theorem Calm.started (h : Calm w t) (hw : Started w) : Started t := by
  obtain ⟨R, S, hstored⟩ := hw.stored
  refine ⟨h.unknown.trans hw.known, h.state.trans hw.state, ?_⟩
  cases h.stored hstored with
  | inl hsame => exact ⟨_, _, hsame⟩
  | inr hnew => exact ⟨_, _, hnew⟩

theorem writeInitial_meets (hw : Started w) (hnone : w.visible.lookup .metadata = none) :
    Meets (fun s => s = w) (config.writeAtomic (.image .initial)) (fun _ t => Loaded t ∧ Falls w t) (fun _ => Falls w)
      (Falls w) := by
  obtain ⟨R, S, hstored⟩ := hw.stored
  have hshown : S = .initial := hstored.visible.unique (.inr ⟨hnone, rfl⟩)
  have hstate : Stored R w.state w := by rw [hw.state, ← hshown]; exact hstored
  have hadmits : Admits w .initial := by
    rw [← hw.state]
    exact ⟨hstate.after.visible, hstate.after.counted, .refl _⟩
  have hreplaced : ∀ t, Replaced (.image .initial) w t → Falls w t := by
    rintro t ht Q ⟨R', S', hstored', hlater⟩
    obtain rfl := hstored'.durable.unique hstored.durable
    obtain ⟨R', S', hstored'', hlater'⟩ := ht.since hstate hadmits
    exact ⟨R', S', hstored'', hlater.trans hlater'⟩
  refine (writeAtomic_meets (.image .initial) w).imp ?_ ?_ ?_
  · rintro _ t ⟨ht, _⟩
    have hinitial : t.state = .initial := ht.state.trans hw.state
    refine ⟨⟨ht.unknown.trans hw.known, ?_⟩, hreplaced t ht⟩
    rw [hinitial]
    cases ht.stored hstate hadmits with
    | inl hbefore => exact ⟨_, hbefore⟩
    | inr hafter => exact ⟨_, hafter⟩
  · intro _ t ht
    exact ht.elim Calm.falls fun h => hreplaced t h.2
  · intro t ht
    exact ht.elim Calm.falls (hreplaced t)

theorem loadState_meets (hw : Started w) :
    Meets (fun s => s = w) (config.loadState ((w.visible.lookup .metadata).map File.content))
      (fun _ t => Loaded t ∧ Falls w t) (fun _ => Falls w) (Falls w) := by
  have hsame : ∀ s, s = w → Falls w s := fun s hs => hs ▸ fun _ => id
  have hcalmFlag : ∀ base s known, Calm base s → Calm base { s with temporary := known } := fun _ _ known h => h.flag known
  unfold Config.loadState
  split
  case h_1 content hcontent =>
    split
    case h_1 => exact Meets.fail hsame
    case h_2 state hdecode =>
      obtain ⟨R, S, hstored⟩ := hw.stored
      have hshown : state = S := by
        refine @Shows.decoded config _ _ _ hstored.visible ?_
        rw [hcontent]
        exact hdecode
      subst hshown
      have hfiles : Stored R state { w with state := state } := hstored.files rfl rfl (fun _ => rfl) rfl
      have hloaded : Loaded { w with state := state } := ⟨hw.known, R, hfiles⟩
      have hfalls : Falls w { w with state := state } := Stored.falls_files rfl rfl (fun _ => rfl) rfl
      have hcalm : ∀ t, Calm { w with state := state } t → Falls w t := fun t ht Q hQ => ht.falls Q (hfalls Q hQ)
      refine Meets.bind (Q := fun _ => Calm { w with state := state }) (Meets.modify ?_) fun _ => ?_
      · rintro s rfl
        exact .refl _
      refine Meets.bind ((read_keeps (hcalmFlag _) _ _).keeps hcalm) fun temporary => ?_
      exact ((discardNext_meets state temporary).of fun t ht => ht.1).imp
        (fun _ t ht => ⟨ht.loaded hloaded, hcalm t ht⟩) (fun _ => hcalm) hcalm
  case h_2 hcontent =>
    have hnone : w.visible.lookup .metadata = none := by simpa using hcontent
    have hcalm : ∀ t, Calm w t → Falls w t := fun t ht => ht.falls
    refine Meets.bind (((read_keeps (hcalmFlag w) _ _).of Calm.of_eq).keeps hcalm) fun temporary => ?_
    refine Meets.bind (((discardInitial_meets temporary).of fun t ht => ht.1).keeps hcalm) fun _ => ?_
    refine Meets.bind (onlyLock_keeps.keeps hcalm) fun _ => ?_
    refine Meets.require_bind (fun _ => ?_) fun _ => hcalm
    refine Meets.named fun t ht => ?_
    have hfall : ∀ u, Falls t u → Falls w u := fun u hu Q hQ => hu Q (ht.falls Q hQ)
    exact (writeInitial_meets (ht.started hw) ((ht.visible .metadata (by simp)).trans hnone)).imp
      (fun _ u hu => ⟨hu.1, hfall u hu.2⟩) (fun _ => hfall) hfall

theorem openFilesystem_meets (hw : Started w) :
    Meets (fun s => s = w) Config.openFilesystem (fun _ t => Started t ∧ Falls w t) (fun _ => Falls w) (Falls w) := by
  have hsame : ∀ s, s = w → Falls w s := fun s hs => hs ▸ fun _ => id
  refine Meets.bind ((look_keeps .unavailable).keeps hsame) fun _ => ?_
  have hlock : ∀ s, s = w →
      Started (if (s.visible.lookup .lock).isSome then s else s.put .lock ⟨.other 0, true⟩) ∧
        Falls w (if (s.visible.lookup .lock).isSome then s else s.put .lock ⟨.other 0, true⟩) := by
    rintro s rfl
    split
    · exact ⟨hw, fun _ => id⟩
    · have hmetadata : (s.put .lock ⟨.other 0, true⟩).visible.lookup .metadata = s.visible.lookup .metadata :=
        AList.lookup_insert_ne (by simp)
      have hbodies : ∀ reference, (s.put .lock ⟨.other 0, true⟩).visible.lookup (.body reference) =
          s.visible.lookup (.body reference) := fun _ => AList.lookup_insert_ne (by simp)
      obtain ⟨R, S, hstored⟩ := hw.stored
      exact ⟨⟨hw.known, hw.state, R, S, hstored.files rfl hmetadata hbodies rfl⟩,
        Stored.falls_files rfl hmetadata hbodies rfl⟩
  refine Meets.bind (Q := fun _ t => Started t ∧ Falls w t)
    (Meets.step hlock hsame fun s hs => (hlock s hs).2) fun _ => ?_
  refine Meets.bind ((look_keeps .busy).keeps fun t ht => ht.2) fun _ => ?_
  exact Meets.orFail (check_keeps.keeps fun t ht => ht.2)

theorem newStore_meets {Q} (hw : Since Q w) :
    Meets (fun s => s = w) config.newStore (fun _ t => Running t ∧ Falls w t) (fun _ => Falls w) (Falls w) := by
  obtain ⟨R, S, hstored, _⟩ := hw
  have hstarted : Started (Config.restarted w) := ⟨rfl, rfl, R, S, hstored.files rfl rfl (fun _ => rfl) rfl⟩
  have hfalls : Falls w (Config.restarted w) := Stored.falls_files rfl rfl (fun _ => rfl) rfl
  have hfrom : ∀ s t, Falls w s → Falls s t → Falls w t := fun s t h h' Q hQ => h' Q (h Q hQ)
  have hrestarted : ∀ s, s = Config.restarted w → Falls w s := fun s hs => hs ▸ hfalls
  refine Meets.bind (Q := fun _ s => s = Config.restarted w) (Meets.modify fun s hs => hs ▸ rfl) fun _ => ?_
  refine Meets.bind ((look_keeps .denied).keeps hrestarted) fun _ => ?_
  refine Meets.require_bind (fun _ => ?_) fun _ => hrestarted
  refine Meets.bind (Q := fun _ t => Started t ∧ Falls w t) ((openFilesystem_meets hstarted).imp (fun _ s hs => ⟨hs.1, hfrom _ s hfalls hs.2⟩)
    (fun _ s => hfrom _ s hfalls) fun s => hfrom _ s hfalls) fun _ => ?_
  refine Meets.require_bind (fun _ => ?_) fun _ s hs => hs.2
  have hkept : ∀ s known, Started s ∧ Falls w s →
      Started { s with temporary := known } ∧ Falls w { s with temporary := known } := by
    intro s known hs
    have hcalm : Calm s { s with temporary := known } := (Calm.refl s).flag known
    exact ⟨hcalm.started hs.1, hfrom s _ hs.2 hcalm.falls⟩
  refine Meets.bind ((read_keeps hkept .metadata maxMetadataBytes).keeps fun s hs => hs.2) fun raw => ?_
  refine Meets.bind (Q := fun _ t => Loaded t ∧ Falls w t) (Meets.named fun s hs => ?_) fun _ => ?_
  · obtain ⟨⟨hstarted', hfalls'⟩, rfl⟩ := hs
    exact (loadState_meets hstarted').imp (fun _ t ht => ⟨ht.1, hfrom s t hfalls' ht.2⟩) (fun _ t => hfrom s t hfalls')
      fun t => hfrom s t hfalls'
  apply Meets.get_bind
  intro t ht
  refine Meets.bind ((inventoryFor_keeps t.state).keeps fun u hu => hu ▸ ht.2) fun _ => ?_
  refine Meets.step ?_ (fun u hu => hu ▸ ht.2) ?_
  · rintro u rfl
    exact ⟨ht.1.sync.1, hfrom _ _ ht.2 ht.1.sync.2⟩
  · rintro u rfl
    exact hfrom _ _ ht.2 ht.1.sync.2

end Sessionless.Credential
