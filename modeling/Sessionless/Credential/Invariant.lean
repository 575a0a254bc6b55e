import Sessionless.Credential.Frame

/-!
# What the root keeps true

A snapshot fits a directory when its active binding has a body that opens, its ready candidates have the body they
were sealed for or none, and no body is there that it does not name. Both images the root may come back with after a
crash have to fit both directories.
-/

namespace Sessionless.Credential

open Lib

section

variable [Protocol.Crypto]

def Sealed (c : CandidateRecord) (content : Content) : Prop :=
  Config.envelopeRecord content = some c.header ∧ (Config.openEnvelope content c.header).isSome

/-- A body opens to a plaintext with the fingerprint of the binding. -/
def Opens (content : Content) (b : CredentialBinding) : Prop :=
  ∃ plaintext, Config.openCurrent content b maxAuthBytes = some plaintext ∧
    fingerprintCredential plaintext = b.secretFingerprint

theorem Sealed.opens {c content b} (h : Sealed c content)
    (hgeneration : b.generation = c.expected + 1) (hreference : c.reference = b.secretRef)
    (hfingerprint : c.fingerprint = b.secretFingerprint) : Opens content b := by
  obtain ⟨hrecord, hopen⟩ := h
  obtain ⟨plaintext, hplaintext⟩ := Option.isSome_iff_exists.mp hopen
  have hexpected : c.header.expected = b.generation - 1 := by simp [CandidateRecord.header, hgeneration]
  have hsize : c.header.size ≤ maxAuthBytes := by
    unfold Config.envelopeRecord at hrecord
    split at hrecord
    · split at hrecord
      · rename_i hvalid
        obtain rfl := Option.some.inj hrecord
        exact hvalid.2.2.2.2
      · simp at hrecord
    · simp at hrecord
  refine ⟨plaintext, ?_, ?_⟩
  · simp only [Config.openCurrent, hrecord]
    rw [if_pos ⟨hexpected, hreference, hfingerprint, hsize⟩]
    exact hplaintext
  · unfold Config.openEnvelope at hplaintext
    split at hplaintext
    · split at hplaintext
      · rename_i hopened
        obtain rfl := Option.some.inj hplaintext
        rw [hopened.2.2, hopened.1]
        exact hfingerprint
      · simp at hplaintext
    · simp at hplaintext

/-- What a snapshot says about the body file of one reference. -/
structure FitsAt (S : Snapshot) (reference : String) (f : Option File) : Prop where
  active : ∀ b, S.active = some b → b.secretRef = reference →
    ∃ file, f = some file ∧ file.synced = true ∧ Opens file.content b
  ready : ∀ c ∈ S.candidates, c.ready = true → c.reference = reference →
    ∀ file, f = some file → file.synced = true ∧ Sealed c file.content
  named : f.isSome = true → S.names reference = true

def Fits (S : Snapshot) (d : Directory) : Prop := ∀ reference, FitsAt S reference (d.lookup (.body reference))

theorem Fits.mix {S d e f} (hd : Fits S d) (he : Fits S e)
    (h : ∀ reference, f.lookup (.body reference) = d.lookup (.body reference) ∨
      f.lookup (.body reference) = e.lookup (.body reference)) : Fits S f := by
  intro reference
  cases h reference with
  | inl hleft => exact hleft ▸ hd reference
  | inr hright => exact hright ▸ he reference

/-- A snapshot fits both directories and has counted the bodies sealed so far. -/
structure Backed (S : Snapshot) (w : World) : Prop where
  visible : Fits S w.visible
  durable : Fits S w.durable
  counted : w.sealedBodies ≤ S.keyUses

end

/-- Generations do not decrease and a revoked binding stays revoked. -/
def Later (R S : Snapshot) : Prop :=
  ∀ b, R.binding = some b → ∃ c, S.binding = some c ∧ b.generation ≤ c.generation ∧ (b.revoked = true → c.revoked = true)

theorem Later.refl (S : Snapshot) : Later S S := fun b hb => ⟨b, hb, le_rfl, id⟩

theorem Later.trans {Q R S} (h : Later Q R) (h' : Later R S) : Later Q S := by
  intro b hb
  obtain ⟨c, hc, hgeneration, hrevoked⟩ := h b hb
  obtain ⟨d, hd, hgeneration', hrevoked'⟩ := h' c hc
  exact ⟨d, hd, hgeneration.trans hgeneration', hrevoked' ∘ hrevoked⟩

theorem Later.of_binding {R S} (h : S.binding = R.binding) : Later R S :=
  fun b hb => ⟨b, h.trans hb, le_rfl, id⟩

/-- The snapshot a directory stands for: that of its metadata, or the initial one without it. -/
def Shows (d : Directory) (S : Snapshot) : Prop :=
  d.lookup .metadata = some ⟨.image S, true⟩ ∨ d.lookup .metadata = none ∧ S = .initial

theorem Shows.unique {d R S} (h : Shows d R) (h' : Shows d S) : R = S := by
  cases h with
  | inl hR =>
    cases h' with
    | inl hS =>
      rw [hR] at hS
      simpa using hS
    | inr hS =>
      rw [hR] at hS
      simp at hS
  | inr hR =>
    cases h' with
    | inl hS =>
      rw [hR.1] at hS
      simp at hS
    | inr hS => rw [hR.2, hS.2]

theorem Shows.congr {d e S} (h : Shows d S) (heq : e.lookup .metadata = d.lookup .metadata) :
    Shows e S := by
  unfold Shows
  rwa [heq]

section

variable [Protocol.Crypto]

/-- The durable image, the visible one after it, and what holds of both. -/
structure Stored (R S : Snapshot) (w : World) : Prop where
  durable : Shows w.durable R
  visible : Shows w.visible S
  before : Backed R w
  after : Backed S w
  later : Later R S

/-- The root is in order, and nothing it may come back with is before a snapshot. -/
def Since (Q : Snapshot) (w : World) : Prop := ∃ R S, Stored R S w ∧ Later Q R

structure Running (w : World) : Prop where
  known : w.unknown = false
  stored : Stored w.state w.state w

/-- The store does not know whether its pending image is durable. -/
structure Unsure (w : World) : Prop where
  unknown : w.unknown = true
  backed : Backed w.state w
  pending : ∃ N, w.pending = some N ∧ Later w.state N ∧
    ∃ R S, Stored R S w ∧ (R = w.state ∨ R = N) ∧ (S = w.state ∨ S = N)

def Open (w : World) : Prop := Running w ∨ Unsure w

structure Moves (w t : World) : Prop where
  isOpen : Open t
  state : Later w.state t.state
  since : ∀ Q, Since Q w → Since Q t

def Falls (w t : World) : Prop := ∀ Q, Since Q w → Since Q t

theorem Moves.trans {w s t} (h : Moves w s) (h' : Moves s t) : Moves w t :=
  ⟨h'.isOpen, h.state.trans h'.state, fun Q hQ => h'.since Q (h.since Q hQ)⟩

theorem Moves.falls {w s t} (h : Moves w s) (h' : Falls s t) : Falls w t :=
  fun Q hQ => h' Q (h.since Q hQ)

theorem Running.since_iff {w} (h : Running w) (Q : Snapshot) : Since Q w ↔ Later Q w.state := by
  constructor
  · rintro ⟨R, S, hstored, hlater⟩
    rwa [← hstored.durable.unique h.stored.durable]
  · intro hlater
    exact ⟨_, _, h.stored, hlater⟩

theorem Open.since {w} (h : Open w) {Q} (hQ : Later Q w.state) : Since Q w := by
  cases h with
  | inl h => exact (h.since_iff Q).mpr hQ
  | inr h =>
    obtain ⟨N, _, hN, R, S, hstored, hR, _⟩ := h.pending
    refine ⟨R, S, hstored, ?_⟩
    cases hR with
    | inl hR => exact hR ▸ hQ
    | inr hR => exact hR ▸ hQ.trans hN

theorem Running.moves {w t} (h : Running w) (ht : Open t) (hlater : Later w.state t.state) : Moves w t :=
  ⟨ht, hlater, fun Q hQ => ht.since (((h.since_iff Q).mp hQ).trans hlater)⟩

theorem Running.falls {w t} (h : Running w) (ht : Since w.state t) : Falls w t := by
  intro Q hQ
  obtain ⟨R, S, hstored, hlater⟩ := ht
  exact ⟨R, S, hstored, ((h.since_iff Q).mp hQ).trans hlater⟩

end

end Sessionless.Credential
