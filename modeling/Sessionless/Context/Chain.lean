import Sessionless.Context.Material
import Sessionless.Protocol.Lemmas.Canonical

/-!
# What a prefix digest commits to

Every prefix digest is the hash of framed fields. A frame gives its own length, so the fields can be read back, and
the first one tells seeds from folds: equal digests come from equal histories, as long as SHA-256 tells apart what was
hashed.
-/

namespace Sessionless.Context

open Lib Store Protocol

/-! ## Frames -/

theorem delimited_frame : Delimited (fun value => value.length < 0x10000000000000000) materialFrame := by
  refine ⟨fun {a b rest rest'} ha hb heq => ?_⟩
  simp only [materialFrame, List.append_assoc] at heq
  obtain ⟨hlength, heq⟩ := delimited_uint64.peel ha hb heq
  exact List.append_inj heq hlength

/-- A text whose length is a `uint64`, as that of every Go string is. -/
def Framed (text : String) : Prop := (utf8 text).length < 0x10000000000000000
deriving Decidable

theorem delimited_text64 : Delimited Framed (fun text => materialFrame (utf8 text)) :=
  delimited_frame.comp id fun _ _ h => utf8_inj h

theorem delimited_materialUint : Delimited (· < 0x10000000000000000) materialUint :=
  delimited_frame.comp (fun _ => by simp [uint64]) delimited_uint64.inj

theorem delimited_materialOption : Delimited (fun value => ∀ text ∈ value, Framed text) materialOption := by
  refine ⟨fun {a b rest rest'} ha hb heq => ?_⟩
  cases a with
  | none =>
    cases b with
    | none => exact ⟨rfl, List.append_cancel_left heq⟩
    | some text =>
      simp only [materialOption, List.append_assoc] at heq
      exact absurd (delimited_text64.peel (by decide) (by decide) heq).1 (by decide)
  | some text =>
    cases b with
    | none =>
      simp only [materialOption, List.append_assoc] at heq
      exact absurd (delimited_text64.peel (by decide) (by decide) heq).1 (by decide)
    | some text' =>
      simp only [materialOption, List.append_assoc] at heq
      obtain ⟨htext, hrest⟩ := delimited_text64.peel (ha _ rfl) (hb _ rfl) (delimited_text64.peel (by decide) (by decide) heq).2
      exact ⟨congrArg some htext, hrest⟩

theorem framed_of_materialDigest {value} (h : materialDigest value) : Framed value := by
  unfold Framed
  rw [h.1]
  decide

/-! ## Seeds and steps -/

/-- The two kinds of seeds, and the sequence up to which nothing is known. -/
inductive SeedKind where
  | genesis
  | unknown (priorSequence : UInt64)

structure MaterialSeedV1 where
  kind : SeedKind
  tenantID : TenantID
  sessionID : SessionID

/-- One fold of a chain, with the bounds of the Go types of its event. -/
structure MaterialStep where
  event : SessionEvent
  measure : Option FinalMaterialMeasureV1
  texts : ∀ text ∈ [event.id, event.tenantID, event.sessionID, event.idempotencyKey, event.payload.tenantID,
    event.payload.key, event.payload.sha256, Calendar.rfc3339Nano event.createdAt 0], Framed text
  author : ∀ text ∈ event.authorUserID, Framed text
  run : ∀ text ∈ event.runID, Framed text
  sequence : event.sequence < 0x10000000000000000
  size : event.payload.size < 0x8000000000000000

namespace SeedKind

def domainName : SeedKind → String
  | .genesis => "sessionless.session-material.genesis.v1"
  | .unknown _ => "sessionless.session-material.unknown-legacy.v1"

def prior : SeedKind → Nat
  | .genesis => 0
  | .unknown priorSequence => priorSequence.toNat

theorem framed_domainName (kind : SeedKind) : Framed kind.domainName := by cases kind <;> exact of_decide_eq_true rfl

theorem prior_lt (kind : SeedKind) : kind.prior < 0x10000000000000000 := by
  cases kind with
  | genesis => decide
  | unknown priorSequence => exact priorSequence.toNat_lt

end SeedKind

namespace MaterialSeedV1

def input (seed : MaterialSeedV1) : Bytes := seedInput seed.kind.domainName seed.tenantID seed.sessionID seed.kind.prior

def start [Crypto] (seed : MaterialSeedV1) : Except StoreError SessionMaterialPrefixV1 :=
  match seed.kind with
  | .genesis => newSessionMaterialGenesisV1 seed.tenantID seed.sessionID
  | .unknown priorSequence => newUnknownSessionMaterialPrefixV1 seed.tenantID seed.sessionID priorSequence.toNat

theorem input_inj {seed seed' : MaterialSeedV1} (ht : Framed seed.tenantID) (ht' : Framed seed'.tenantID)
    (hs : Framed seed.sessionID) (hs' : Framed seed'.sessionID) (h : seed.input = seed'.input) : seed = seed' := by
  obtain ⟨kind, tenant, session⟩ := seed
  obtain ⟨kind', tenant', session'⟩ := seed'
  simp only [input, seedInput, List.append_assoc] at h
  obtain ⟨hdomain, h⟩ := delimited_text64.peel kind.framed_domainName kind'.framed_domainName h
  obtain ⟨htenant, h⟩ := delimited_text64.peel ht ht' h
  obtain ⟨hsession, h⟩ := delimited_text64.peel hs hs' h
  have hprior := delimited_materialUint.inj kind.prior_lt kind'.prior_lt h
  cases htenant
  cases hsession
  cases kind with
  | genesis =>
    cases kind' with
    | genesis => rfl
    | unknown => simp [SeedKind.domainName] at hdomain
  | unknown n =>
    cases kind' with
    | genesis => simp [SeedKind.domainName] at hdomain
    | unknown n' => rw [UInt64.toNat_inj.1 hprior]

/-- A seed is never hashed as a fold is: their first frames differ. -/
theorem input_ne_fold (seed : MaterialSeedV1) {p encoded c} : seed.input ≠ foldInput p encoded c := by
  intro h
  simp only [input, seedInput, foldInput, List.append_assoc] at h
  have hdomain := (delimited_text64.peel seed.kind.framed_domainName (by decide) h).1
  cases hkind : seed.kind <;> simp [hkind, SeedKind.domainName] at hdomain

end MaterialSeedV1

namespace MaterialStep

variable [Crypto] (step : MaterialStep)

def contribution : SessionMaterialContributionV1 := Context.contribution step.event step.measure

/-- What a digest commits to of a step. The zone of `created_at` is not part of the instant. -/
def history : SessionEvent × SessionMaterialContributionV1 := ({ step.event with createdAtOffset := 0 }, step.contribution)

end MaterialStep

section

variable [Crypto]

/-- A seed, the steps folded into it, newest first, the prefix they end in, and every string hashed on the way. -/
inductive Chain (seed : MaterialSeedV1) : List MaterialStep → SessionMaterialPrefixV1 → List Bytes → Prop
  | seed {p} : seed.start = .ok p → Chain seed [] p [seed.input]
  | fold {steps p hashed q} (step : MaterialStep) : Chain seed steps p hashed →
      foldSessionMaterialV1 p step.event step.measure = .ok q →
      Chain seed (step :: steps) q
        (foldInput p (Json.marshal p.toJson) step.contribution :: identityInput step.event :: hashed)

/-! ## What the hashed strings determine -/

omit [Crypto] in
theorem hexDigits_inj {a b : UInt8} (h : hexDigits a = hexDigits b) : a = b := by
  have hdigit : ∀ m < 16, ∀ n < 16, Nat.digitChar m = Nat.digitChar n → m = n := by decide
  simp only [hexDigits, List.cons.injEq, and_true] at h
  have ha := a.toNat_lt
  have hb := b.toNat_lt
  have hhigh := hdigit _ (by omega) _ (by omega) h.1
  have hlow := hdigit _ (by omega) _ (by omega) h.2
  exact UInt8.toNat_inj.1 (by omega)

omit [Crypto] in
theorem hex_inj {a b : Bytes} (h : hex a = hex b) : a = b := by
  have hchars := String.ofList_injective h
  clear h
  induction a generalizing b with
  | nil =>
    cases b with
    | nil => rfl
    | cons y b => simp [hexDigits] at hchars
  | cons x a ih =>
    cases b with
    | nil => simp [hexDigits] at hchars
    | cons y b =>
      have hpairs : hexDigits x ++ a.flatMap hexDigits = hexDigits y ++ b.flatMap hexDigits := hchars
      obtain ⟨hhead, htail⟩ := List.append_inj hpairs rfl
      rw [hexDigits_inj hhead, ih htail]

theorem hashed_eq {x y xs ys} (hinj : TellsApart xs ys) (hx : x ∈ xs) (hy : y ∈ ys)
    (h : hex (Crypto.sha256 x).val = hex (Crypto.sha256 y).val) : x = y :=
  hinj x hx y hy (Subtype.ext (hex_inj h))

omit [Crypto] in
theorem text_inj {kind kind' : SessionEventKind} (h : kind.text = kind'.text) : kind = kind' := by
  cases kind <;> cases kind' <;> first | rfl | exact absurd h (by decide)

omit [Crypto] in
theorem size_of_validate {event : SessionEvent} (h : event.validate = .ok ()) : 0 ≤ event.payload.size := by
  simp only [SessionEvent.validate, SessionEvent.validateMaterialBody, validateSessionEventBlob, BlobRef.validate,
    bind_eq_ok, exists_unit, ite_error_eq_ok] at h
  obtain ⟨-, -, ⟨-, -, -, -, -, ⟨-, -, -, hsize, -⟩, -⟩, -⟩ := h
  omega

omit [Crypto] in
theorem identityInput_inj {left right : MaterialStep} (hl : left.event.validate = .ok ())
    (hr : right.event.validate = .ok ()) (h : identityInput left.event = identityInput right.event) :
    { left.event with createdAtOffset := 0 } = { right.event with createdAtOffset := 0 } := by
  have htext : ∀ {a b : String} {rest rest' : Bytes}, a ∈ _ → b ∈ _ →
      materialFrame (utf8 a) ++ rest = materialFrame (utf8 b) ++ rest' → a = b ∧ rest = rest' :=
    fun ha hb => delimited_text64.peel (left.texts _ ha) (right.texts _ hb)
  have hsize := size_of_validate hl
  have hsize' := size_of_validate hr
  have hbound := left.size
  have hbound' := right.size
  simp only [identityInput, List.append_assoc] at h
  have h := List.append_cancel_left h
  obtain ⟨hid, h⟩ := htext (by simp) (by simp) h
  obtain ⟨htenant, h⟩ := htext (by simp) (by simp) h
  obtain ⟨hsession, h⟩ := htext (by simp) (by simp) h
  obtain ⟨hsequence, h⟩ := delimited_materialUint.peel left.sequence right.sequence h
  obtain ⟨hkind, h⟩ := delimited_text64.peel (by cases left.event.kind <;> decide) (by cases right.event.kind <;> decide) h
  obtain ⟨hauthor, h⟩ := delimited_materialOption.peel left.author right.author h
  obtain ⟨hrun, h⟩ := delimited_materialOption.peel left.run right.run h
  obtain ⟨hkey, h⟩ := htext (by simp) (by simp) h
  obtain ⟨hpayload, h⟩ := htext (by simp) (by simp) h
  obtain ⟨hobject, h⟩ := htext (by simp) (by simp) h
  obtain ⟨hlength, h⟩ := delimited_materialUint.peel (by omega) (by omega) h
  obtain ⟨hsum, h⟩ := htext (by simp) (by simp) h
  obtain ⟨htime, -⟩ := htext (by simp) (by simp) h
  have hsizes : left.event.payload.size = right.event.payload.size := by omega
  have hblob : left.event.payload = right.event.payload := calc
    left.event.payload = ⟨_, _, _, _⟩ := rfl
    _ = right.event.payload := by rw [hpayload, hobject, hsizes, hsum]
  simp only [SessionEvent.mk.injEq, and_true]
  exact ⟨hid, htenant, hsession, hsequence, text_inj hkind, hauthor, hrun, hkey, hblob, Calendar.rfc3339Nano_inj htime⟩

omit [Crypto] in
theorem contribution_inj {c c' : SessionMaterialContributionV1} (h : Json.marshal c.toJson = Json.marshal c'.toJson) : c = c' := by
  have hjson := Json.marshal_inj h
  simp only [SessionMaterialContributionV1.toJson, Json.obj.injEq, List.cons.injEq, Prod.mk.injEq, true_and, and_true,
    Json.str_eq, Json.nat_eq, Json.bool.injEq] at hjson
  obtain ⟨hversion, hid, hsequence, hkind, hrest⟩ := hjson
  exact SessionMaterialContributionV1.mk.injEq .. ▸ ⟨hversion, hid, hsequence, text_inj hkind, hrest⟩

/-- What a fold found and did. -/
structure Folded (p : SessionMaterialPrefixV1) (step : MaterialStep) (q : SessionMaterialPrefixV1) : Prop where
  previous : Framed p.prefixDigest
  event : step.event.validate = .ok ()
  length : (Json.marshal p.toJson).length < 0x10000000000000000
  identity : step.contribution.identityDigest = hex (Crypto.sha256 (identityInput step.event)).val
  framed : Framed step.contribution.identityDigest ∧ Framed step.contribution.recordDigest
  digest : q.prefixDigest = hex (Crypto.sha256 (foldInput p (Json.marshal p.toJson) step.contribution)).val

theorem contribution_identity (event : SessionEvent) (measure : Option FinalMaterialMeasureV1) :
    (contribution event measure).identityDigest = materialIdentityDigest event := by
  cases measure with
  | none => rfl
  | some m =>
    simp only [contribution]
    split <;> rfl

theorem Folded.of_fold {p step q} (h : foldSessionMaterialV1 p step.event step.measure = .ok q) : Folded p step q := by
  simp only [foldSessionMaterialV1, ite_error_eq_ok, bind_eq_ok, not_or, Decidable.not_not, Except.ok.injEq] at h
  obtain ⟨⟨hvalid, hevent, -⟩, hcontribution, _, hencode, -, rfl⟩ := h
  simp only [encodeSessionMaterialPrefixV1, ite_error_eq_ok, Except.ok.injEq] at hencode
  obtain ⟨-, hlength, rfl⟩ := hencode
  unfold maxSessionMaterialPrefixBytesV1 at hlength
  change step.contribution.Valid at hcontribution
  have hrecord : Framed step.contribution.recordDigest := by
    cases hverified : step.contribution.verified with
    | false =>
      rw [(hcontribution.2.1 (by simp [hverified])).1]
      decide
    | true => exact framed_of_materialDigest (hcontribution.2.2 hverified).1.1
  exact ⟨framed_of_materialDigest hvalid.1.2.2.2.2.2.1, hevent, by omega, contribution_identity _ _,
    ⟨framed_of_materialDigest hcontribution.1.2.2.2, hrecord⟩, rfl⟩

theorem foldInput_inj {p p' left right q q'} (hl : Folded p left q) (hr : Folded p' right q')
    (h : foldInput p (Json.marshal p.toJson) left.contribution = foldInput p' (Json.marshal p'.toJson) right.contribution) :
    p.prefixDigest = p'.prefixDigest ∧ left.contribution = right.contribution := by
  simp only [foldInput, List.append_assoc] at h
  have h := List.append_cancel_left h
  obtain ⟨hprevious, h⟩ := delimited_text64.peel hl.previous hr.previous h
  obtain ⟨-, h⟩ := delimited_frame.peel hl.length hr.length h
  obtain ⟨-, h⟩ := delimited_text64.peel hl.framed.1 hr.framed.1 h
  obtain ⟨-, h⟩ := delimited_text64.peel hl.framed.2 hr.framed.2 h
  obtain ⟨-, h⟩ := delimited_text64.peel (by split <;> decide) (by split <;> decide) h
  obtain ⟨-, h⟩ := List.append_inj h (by simp [uint64])
  exact ⟨hprevious, contribution_inj h⟩

theorem seed_ok {seed : MaterialSeedV1} {p} (h : seed.start = .ok p) : Framed seed.tenantID ∧ Framed seed.sessionID ∧
    p.prefixDigest = hex (Crypto.sha256 seed.input).val := by
  have hframed : ∀ {value : String}, validID value → Framed value := by
    intro value hvalue
    simp only [validID, validateOpaqueID, ite_error_eq_ok] at hvalue
    have hlength := hvalue.2.1
    unfold maxOpaqueIDLength at hlength
    unfold Framed
    omega
  obtain ⟨kind, tenant, session⟩ := seed
  cases kind <;>
  · simp only [MaterialSeedV1.start, newSessionMaterialGenesisV1, newUnknownSessionMaterialPrefixV1] at h
    split at h
    next hvalid =>
      cases h
      exact ⟨hframed hvalid.1, hframed hvalid.2, rfl⟩
    next => cases h

/-- Equal prefix digests come from equal histories: the same seed, and step by step the same events and contributions,
as long as SHA-256 tells apart the strings that were hashed. -/
theorem prefix_digest_commits {seed seed' steps steps' p p' hashed hashed'} (hl : Chain seed steps p hashed)
    (hr : Chain seed' steps' p' hashed') (hinj : TellsApart hashed hashed') (h : p.prefixDigest = p'.prefixDigest) :
    seed = seed' ∧ steps.map MaterialStep.history = steps'.map MaterialStep.history := by
  induction hl generalizing steps' p' hashed' with
  | seed hstart =>
    obtain ⟨ht, hs, hdigest⟩ := seed_ok hstart
    cases hr with
    | seed hstart' =>
      obtain ⟨ht', hs', hdigest'⟩ := seed_ok hstart'
      rw [hdigest, hdigest'] at h
      exact ⟨MaterialSeedV1.input_inj ht ht' hs hs' (hashed_eq hinj List.mem_cons_self List.mem_cons_self h), rfl⟩
    | fold step _ hfold =>
      rw [hdigest, (Folded.of_fold hfold).digest] at h
      exact absurd (hashed_eq hinj List.mem_cons_self List.mem_cons_self h) (MaterialSeedV1.input_ne_fold _)
  | fold step _ hfold ih =>
    have hfolded := Folded.of_fold hfold
    cases hr with
    | seed hstart' =>
      obtain ⟨-, -, hdigest'⟩ := seed_ok hstart'
      rw [hfolded.digest, hdigest'] at h
      exact absurd (hashed_eq hinj List.mem_cons_self List.mem_cons_self h).symm (MaterialSeedV1.input_ne_fold _)
    | fold step' hchain' hfold' =>
      have hfolded' := Folded.of_fold hfold'
      rw [hfolded.digest, hfolded'.digest] at h
      obtain ⟨hprevious, hcontribution⟩ := foldInput_inj hfolded hfolded'
        (hashed_eq hinj List.mem_cons_self List.mem_cons_self h)
      have hidentity := congrArg SessionMaterialContributionV1.identityDigest hcontribution
      rw [hfolded.identity, hfolded'.identity] at hidentity
      have hevent := identityInput_inj hfolded.event hfolded'.event (hashed_eq hinj (by simp) (by simp) hidentity)
      obtain ⟨hseed, hsteps⟩ := ih hchain'
        (hinj.mono (fun x hx => by simp [hx]) fun y hy => by simp [hy]) hprevious
      refine ⟨hseed, ?_⟩
      simp only [List.map_cons, List.cons.injEq]
      exact ⟨Prod.ext hevent hcontribution, hsteps⟩

end

/-! ## A session with one message -/

namespace Sample

/-- SHA-256 on the three strings of the chain below, which it tells apart by their lengths. -/
scoped instance crypto : Crypto where
  sha256 value := ⟨bigEndian 32
    (if value.length = 92 then 0xd639768fe9ec095a14da1045c37e1ac22fe03048cd33c8e9df39a55a1090f463
    else if value.length = 402 then 0x97678a6c179784666f11c9518a0ed330d0eff55524f4e1757369738530f2635d
    else 0x68c58fdcdb85e5e9bef42eeb0b428377374976e75d5b61146cf7764c315cb16d), by simp⟩
  ed25519Verify _ _ _ := false

def seed : MaterialSeedV1 := ⟨.genesis, "tenant", "session"⟩

def message : MaterialStep where
  event :=
    { id := "event", tenantID := "tenant", sessionID := "session", sequence := 1, kind := .userMessage
      authorUserID := some "user", runID := none, idempotencyKey := "key"
      payload := ⟨"tenant", "tenants/tenant/sessions/session/events/event/payload", 2, hex (List.replicate 32 0)⟩
      createdAt := 63713433600000000000, createdAtOffset := 0 }
  measure := none
  texts := by decide
  author := by decide
  run := by simp
  sequence := by decide
  size := by decide

def start : SessionMaterialPrefixV1 :=
  genesis "tenant" "session"

def hashed : List Bytes :=
  [foldInput start (Json.marshal start.toJson) message.contribution, identityInput message.event, seed.input]

end Sample

open scoped Sample in
/-- The chain of one message, and the digest it shares with itself. -/
theorem prefix_digest_commits_message : ∃ p, Chain Sample.seed [Sample.message] p Sample.hashed ∧
    TellsApart Sample.hashed Sample.hashed ∧
    [Sample.message].map MaterialStep.history = [Sample.message].map MaterialStep.history := by
  have hfold : okAnd (foldSessionMaterialV1 Sample.start Sample.message.event none) (fun _ => true) = true := by
    decide +kernel
  obtain ⟨p, hp, -⟩ := exists_of_okAnd hfold
  have hchain : Chain Sample.seed [Sample.message] p Sample.hashed := .fold Sample.message (.seed rfl) hp
  have hapart : TellsApart Sample.hashed Sample.hashed := by
    unfold TellsApart
    decide +kernel
  exact ⟨p, hchain, hapart, (prefix_digest_commits hchain hchain hapart rfl).2⟩

end Sessionless.Context
