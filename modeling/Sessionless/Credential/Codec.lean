import Mathlib.Data.Nat.Digits.Defs
import Sessionless.Credential.Record
import Sessionless.Lib.Calendar

/-!
# The JSON of a snapshot and its size

The documents that `encodeSnapshot` and `seal` marshal. A valid snapshot takes far less than the metadata limit: its
lists are short, its identifiers bounded, and the escaped root path is the largest part of it.
-/

namespace Sessionless.Lib.Json

theorem length_escapeByte_le (b : UInt8) : (escapeByte b).length ≤ 6 := by
  unfold escapeByte
  dsimp only
  split_ifs <;> simp

theorem length_escape_le (value : Bytes) : (escape value).length ≤ 6 * value.length := by
  fun_induction escape value with
  | case1 rest ih | case2 rest ih => simp only [List.length_append, List.length_cons, List.length_nil]; omega
  | case3 b rest _ _ ih =>
    have hb := length_escapeByte_le b
    simp only [List.length_append, List.length_cons]
    omega
  | case4 => simp

theorem length_quote_le (value : Bytes) : (quote value).length ≤ 6 * value.length + 2 := by
  have h := length_escape_le value
  simp only [quote, List.length_append, List.length_cons, List.length_nil]
  omega

theorem length_decimal_le {n : Nat} (h : n ≤ 18446744073709551615) : (decimal n).length ≤ 20 := by
  have hdigits := Nat.toDigits_length 10 n 20 (by omega) (by omega)
  simpa [decimal] using hdigits

theorem length_marshalFields_le (fields : List (String × Json)) :
    (marshalFields fields).length ≤ ((fields.map Prod.fst).map fun name => 6 * (utf8 name).length + 4).sum +
      ((fields.map Prod.snd).map fun value => (marshal value).length).sum := by
  induction fields with
  | nil => simp [marshalFields]
  | cons head rest ih =>
    obtain ⟨name, value⟩ := head
    have hname := length_quote_le (utf8 name)
    cases rest with
    | nil =>
      simp only [marshalFields, List.length_append, List.length_cons, List.map_cons, List.map_nil, List.sum_cons,
        List.sum_nil]
      omega
    | cons next rest =>
      simp only [marshalFields, List.length_append, List.length_cons, List.map_cons, List.sum_cons] at ih ⊢
      omega

theorem length_marshalItems_le (items : List Json) {size} (h : ∀ item ∈ items, (marshal item).length ≤ size) :
    (marshalItems items).length ≤ items.length * (size + 1) := by
  induction items with
  | nil => simp [marshalItems]
  | cons item rest ih =>
    have hitem := h item List.mem_cons_self
    have hrest := ih fun other hother => h other (List.mem_cons_of_mem _ hother)
    cases rest with
    | nil =>
      simp only [marshalItems, List.length_cons, List.length_nil]
      omega
    | cons next rest =>
      rw [List.length_cons, Nat.succ_mul]
      simp only [marshalItems, List.length_append, List.length_cons] at hrest ⊢
      omega

end Sessionless.Lib.Json

namespace Sessionless.Credential

open Lib Store

/-- What ties a store to one root: the path, the file it was opened as, and the key. -/
structure RootIdentity where
  root : String
  device : Nat
  inode : Nat
  keyEpoch : String
  root_le : (utf8 root).length ≤ 4096
  device_le : device ≤ maxUint64
  inode_le : inode ≤ maxUint64
  epoch_valid : (validateOpaqueID "key_epoch" keyEpoch).isOk = true

def EntitlementState.text : EntitlementState → String
  | .disconnected => "disconnected"
  | .unknown => "unknown"
  | .active => "active"
  | .inactive => "inactive"
  | .reauthRequired => "reauthentication_required"
  | .other text => text

def Scope.toJson (v : Scope) : Json :=
  .obj [("tenant_id", .str v.tenantID), ("owner_user_id", .str v.ownerUserID),
    ("subscription_connection_id", .str v.subscriptionConnectionID)]

def CredentialBinding.toJson (b : CredentialBinding) : Json :=
  .obj [("version", .nat b.version), ("tenant_id", .str b.tenantID),
    ("subscription_connection_id", .str b.subscriptionConnectionID), ("owner_user_id", .str b.ownerUserID),
    ("provider", .str b.provider), ("auth_mode", .str b.authMode), ("secret_fingerprint", .str b.secretFingerprint),
    ("entitlement", .str b.entitlement.text), ("generation", .nat b.generation), ("revoked", .bool b.revoked),
    ("updated_at", .str (Calendar.rfc3339Nano b.updatedAt 0))]

def CandidateRecord.toJson (c : CandidateRecord) : Json :=
  .obj [("reference", .str c.reference), ("expected_generation", .nat c.expected), ("fingerprint", .str c.fingerprint),
    ("plaintext_bytes", .nat c.size), ("ready", .bool c.ready)]

def CleanupRecord.toJson (c : CleanupRecord) : Json :=
  .obj [("reference", .str c.reference), ("generation", .nat c.generation), ("materialization_released", .bool c.released)]

def bindingJson : Option CredentialBinding → Json
  | none => .null
  | some b => .obj [("binding", b.toJson), ("secret_ref", .str b.secretRef)]

def Snapshot.toJson (identity : RootIdentity) (scope : Scope) (v : Snapshot) : Json :=
  .obj [("version", .nat 1), ("scope", scope.toJson), ("root", .str identity.root), ("root_device", .nat identity.device),
    ("root_inode", .nat identity.inode), ("key_epoch", .str identity.keyEpoch), ("revision", .nat v.revision),
    ("key_uses", .nat v.keyUses), ("binding", bindingJson v.binding),
    ("candidates", .arr (v.candidates.map CandidateRecord.toJson)), ("cleanups", .arr (v.cleanups.map CleanupRecord.toJson))]

def EnvelopeHeader.toJson (identity : RootIdentity) (scope : Scope) (h : EnvelopeHeader) : Json :=
  .obj [("version", .nat 1), ("scope", scope.toJson), ("root", .str identity.root), ("root_device", .nat identity.device),
    ("root_inode", .nat identity.inode), ("key_epoch", .str identity.keyEpoch), ("reference", .str h.reference),
    ("expected_generation", .nat h.expected), ("fingerprint", .str h.fingerprint), ("plaintext_bytes", .nat h.size)]

/-- `Time.MarshalJSON` refuses a year that has not four digits. -/
def representable (time : Int) : Bool :=
  let year := (Calendar.dateOfDays (time / Calendar.nanosecondsPerDay)).year
  0 ≤ year && year ≤ 9999

/-- The sizes of the documents of one root. Without a JSON text the size is over the limit. -/
def Config.json (identity : RootIdentity) (scope : Scope) : Config where
  scope := scope
  snapshotBytes v :=
    if v.binding.all fun b => representable b.updatedAt then (v.toJson identity scope).marshal.length else maxMetadataBytes
  headerBytes h := (h.toJson identity scope).marshal.length

/-! ## Sizes -/

theorem length_opaque_le {field value} (h : (validateOpaqueID field value).isOk = true) :
    (utf8 value).length ≤ 160 := by
  unfold validateOpaqueID maxOpaqueIDLength at h
  split_ifs at h <;> first | omega | cases h

theorem length_str_le {value n} (h : (utf8 value).length ≤ n) : (Json.str value).marshal.length ≤ 6 * n + 2 := by
  have hquote := Json.length_quote_le (utf8 value)
  simp only [Json.str, Json.marshal]
  omega

theorem length_nat_le {n : Nat} (h : n ≤ maxUint64) : (Json.nat n).marshal.length ≤ 20 := by
  simp only [Json.nat, Json.marshal]
  exact Json.length_decimal_le h

theorem length_bool_le (value : Bool) : (Json.bool value).marshal.length ≤ 5 := by
  cases value with
  | false | true => decide

theorem length_padded_le {width n k} (hk : 0 < k) (hwidth : width ≤ k) (hn : n < 10 ^ k) :
    (Calendar.padded width n).length ≤ k := by
  unfold Calendar.padded
  split
  · rw [length_paddedDecimal]
    exact hwidth
  · exact Nat.toDigits_length 10 n k hk hn

theorem length_fraction_le (n : Nat) : (Calendar.fractionText n).length ≤ 10 := by
  unfold Calendar.fractionText
  split
  · simp
  · have hdrop := ((paddedDecimal 9 n).reverse.dropWhile_sublist (· = '0')).length_le
    simp only [List.length_reverse, length_paddedDecimal] at hdrop
    simp only [List.length_cons, List.length_reverse]
    omega

/-- A crude bound of the text of a time: the month and the day are given six digits. -/
theorem length_time_le {time} (h : representable time = true) :
    (utf8 (Calendar.rfc3339Nano time 0)).length ≤ 200 := by
  simp only [representable, Bool.and_eq_true, decide_eq_true_eq] at h
  have hmonth : (Calendar.dateOfDays (time / Calendar.nanosecondsPerDay)).month.toNat < 10 ^ 6 := by
    simp only [Calendar.dateOfDays]
    split_ifs <;> omega
  have hday : (Calendar.dateOfDays (time / Calendar.nanosecondsPerDay)).day.toNat < 10 ^ 6 := by
    simp only [Calendar.dateOfDays]
    omega
  have hyear : (Calendar.yearText (Calendar.dateOfDays (time / Calendar.nanosecondsPerDay)).year).length ≤ 4 := by
    rw [Calendar.yearText, if_neg (by omega)]
    exact length_padded_le (by omega) le_rfl (by omega)
  have hmonth := length_padded_le (by omega) (show 2 ≤ 6 by omega) hmonth
  have hday := length_padded_le (by omega) (show 2 ≤ 6 by omega) hday
  have hseconds : (time % Calendar.nanosecondsPerDay).toNat / 1000000000 < 86400 := by
    unfold Calendar.nanosecondsPerDay
    omega
  have hclock : ∀ n, n < 86400 → (Calendar.padded 2 n).length ≤ 5 :=
    fun n hn => length_padded_le (by omega) (by omega) (by omega)
  have hchars : (Calendar.dateTimeText time ++ Calendar.offsetText 0).length ≤ 50 := by
    have hhour := hclock _ (show (time % Calendar.nanosecondsPerDay).toNat / 1000000000 / 3600 < 86400 by omega)
    have hminute := hclock _ (show (time % Calendar.nanosecondsPerDay).toNat / 1000000000 / 60 % 60 < 86400 by omega)
    have hsecond := hclock _ (show (time % Calendar.nanosecondsPerDay).toNat / 1000000000 % 60 < 86400 by omega)
    have hfraction := length_fraction_le ((time % Calendar.nanosecondsPerDay).toNat % 1000000000)
    have hoffset : (Calendar.offsetText 0).length = 1 := rfl
    simp only [Calendar.dateTimeText, List.length_append, List.length_cons, hoffset]
    omega
  have hbytes : ∀ chars : List Char, (utf8 (String.ofList chars)).length ≤ 4 * chars.length := by
    intro chars
    rw [utf8_ofList]
    induction chars with
    | nil => simp
    | cons c chars ih =>
      have hc : (String.utf8EncodeChar c).length ≤ 4 := by
        rw [String.length_utf8EncodeChar]
        exact c.utf8Size_le_four
      simp only [List.flatMap_cons, List.length_append, List.length_cons]
      omega
  have htext := hbytes (Calendar.dateTimeText (time + 0 * 1000000000) ++ Calendar.offsetText 0)
  rw [zero_mul, add_zero] at htext
  rw [Calendar.rfc3339Nano, zero_mul, add_zero]
  omega

theorem length_obj_le {fields names values}
    (hnames : ((fields.map Prod.fst).map fun name => 6 * (utf8 name).length + 4).sum ≤ names)
    (hvalues : ((fields.map Prod.snd).map fun value => value.marshal.length).sum ≤ values) :
    (Json.obj fields).marshal.length ≤ names + values + 2 := by
  have h := Json.length_marshalFields_le fields
  simp only [Json.marshal, List.length_append, List.length_cons, List.length_nil]
  omega

theorem length_arr_le {items count size} (hcount : items.length ≤ count)
    (h : ∀ item ∈ items, item.marshal.length ≤ size) : (Json.arr items).marshal.length ≤ count * (size + 1) + 2 := by
  have hitems := Json.length_marshalItems_le items h
  have hmul := Nat.mul_le_mul_right (size + 1) hcount
  simp only [Json.marshal, List.length_append, List.length_cons, List.length_nil]
  omega

theorem length_reference {v} (h : validReference v = true) : (utf8 v).length = 64 := by
  simp only [validReference, Bool.and_eq_true, decide_eq_true_eq] at h
  exact h.1

theorem length_scope_le {v : Scope} (ht : (utf8 v.tenantID).length ≤ 160) (ho : (utf8 v.ownerUserID).length ≤ 160)
    (hc : (utf8 v.subscriptionConnectionID).length ≤ 160) : v.toJson.marshal.length ≤ 3500 := by
  refine le_trans (length_obj_le (?_ : _ ≤ 400) (?_ : _ ≤ 3000)) (by omega)
  · simp only [List.map_cons, List.map_nil]
    decide +kernel
  · have h₁ := length_str_le ht
    have h₂ := length_str_le ho
    have h₃ := length_str_le hc
    simp only [List.map_cons, List.map_nil, List.sum_cons, List.sum_nil]
    omega

theorem length_candidate_le {c} (h : Config.validCandidate c = true) :
    c.toJson.marshal.length ≤ 1300 := by
  simp only [Config.validCandidate, validFingerprint, Bool.and_eq_true, decide_eq_true_eq] at h
  have hsize := h.2
  unfold maxAuthBytes at hsize
  refine le_trans (length_obj_le (?_ : _ ≤ 400) (?_ : _ ≤ 830)) (by omega)
  · simp only [List.map_cons, List.map_nil]
    decide +kernel
  · have h₁ := length_str_le (length_reference h.1.1.1.1).le
    have h₂ := length_nat_le (h.1.1.1.2.le.trans (Nat.sub_le _ _))
    have h₃ := length_str_le h.1.1.2.1.le
    have h₄ := length_nat_le (show c.size ≤ maxUint64 by unfold maxUint64; omega)
    have h₅ := length_bool_le c.ready
    simp only [List.map_cons, List.map_nil, List.sum_cons, List.sum_nil]
    omega

theorem length_cleanup_le {v c} (h : Config.validCleanup v c = true)
    (hgeneration : c.generation ≤ maxUint64) : c.toJson.marshal.length ≤ 800 := by
  simp only [Config.validCleanup, Bool.and_eq_true] at h
  refine le_trans (length_obj_le (?_ : _ ≤ 300) (?_ : _ ≤ 450)) (by omega)
  · simp only [List.map_cons, List.map_nil]
    decide +kernel
  · have h₁ := length_str_le (length_reference h.1.1.1).le
    have h₂ := length_nat_le hgeneration
    have h₃ := length_bool_le c.released
    simp only [List.map_cons, List.map_nil, List.sum_cons, List.sum_nil]
    omega

theorem length_entitlement_le {state : EntitlementState} (h : state.valid = true) : (utf8 state.text).length ≤ 30 := by
  cases state with
  | other text => simp [EntitlementState.valid] at h
  | _ => decide +kernel

theorem length_binding_le {b : CredentialBinding} (h : b.valid = true) (hgeneration : b.generation ≤ maxUint64)
    (htime : representable b.updatedAt = true) : (bindingJson (some b)).marshal.length ≤ 13000 := by
  simp only [CredentialBinding.valid, Bool.and_eq_true, decide_eq_true_eq] at h
  obtain ⟨⟨⟨⟨⟨⟨⟨⟨⟨hversion, htenant⟩, hconnection⟩, howner⟩, hprovider⟩, hmode⟩, hsecret⟩, hentitlement⟩, _⟩, _⟩ := h
  have hsecrets : (utf8 b.secretRef).length ≤ 512 ∧ (utf8 b.secretFingerprint).length ≤ 64 := by
    split at hsecret
    · simp only [Bool.and_eq_true, decide_eq_true_eq] at hsecret
      rw [hsecret.1.1, hsecret.1.2]
      decide +kernel
    · simp only [validSecretRef, validFingerprint, Bool.and_eq_true, decide_eq_true_eq] at hsecret
      exact ⟨hsecret.1.1.2, hsecret.2.1.le⟩
  have hbinding : b.toJson.marshal.length ≤ 9000 := by
    refine le_trans (length_obj_le (?_ : _ ≤ 1000) (?_ : _ ≤ 7000)) (by omega)
    · simp only [List.map_cons, List.map_nil]
      decide +kernel
    · have h₁ := length_nat_le (show b.version ≤ maxUint64 by unfold maxUint64; omega)
      have h₂ := length_str_le (length_opaque_le htenant)
      have h₃ := length_str_le (length_opaque_le hconnection)
      have h₄ := length_str_le (length_opaque_le howner)
      have h₅ := length_str_le (length_opaque_le hprovider)
      have h₆ := length_str_le (length_opaque_le hmode)
      have h₇ := length_str_le hsecrets.2
      have h₈ := length_str_le (length_entitlement_le hentitlement)
      have h₉ := length_nat_le hgeneration
      have h₁₀ := length_bool_le b.revoked
      have h₁₁ := length_str_le (length_time_le htime)
      simp only [List.map_cons, List.map_nil, List.sum_cons, List.sum_nil]
      omega
  refine le_trans (length_obj_le (?_ : _ ≤ 150) (?_ : _ ≤ 12100)) (by omega)
  · simp only [List.map_cons, List.map_nil]
    decide +kernel
  · have hreference := length_str_le hsecrets.1
    simp only [List.map_cons, List.map_nil, List.sum_cons, List.sum_nil]
    omega

theorem snapshotBytes_le {identity scope} {v : Snapshot} {b : CredentialBinding}
    (hvalid : (Config.json identity scope).validateSnapshot v = true) (hbinding : v.binding = some b)
    (htime : representable b.updatedAt = true) :
    (Config.json identity scope).snapshotBytes v + 40 ≤ maxMetadataBytes := by
  simp only [Config.validateSnapshot, Snapshot.isUint64, hbinding, Option.all_some, Bool.and_eq_true, decide_eq_true_eq,
    List.all_eq_true, Config.validBinding, Config.bindingMatches] at hvalid
  obtain ⟨⟨⟨⟨⟨⟨⟨⟨⟨⟨⟨hrevision, hgeneration⟩, hgenerations⟩, _⟩, huses⟩, hcandidates⟩, hcleanups⟩, hb⟩, hcandidate⟩,
    hcleanup⟩, _⟩, _⟩ := hvalid
  obtain ⟨⟨⟨_, ⟨⟨⟨⟨hb, htenant⟩, howner⟩, hconnection⟩, _⟩⟩, _⟩, _⟩ := hb
  unfold maxKeyUses at huses
  have hids := hb
  simp only [CredentialBinding.valid, Bool.and_eq_true] at hids
  have hscope : scope.toJson.marshal.length ≤ 3500 := by
    refine length_scope_le ?_ ?_ ?_
    · exact htenant ▸ length_opaque_le hids.1.1.1.1.1.1.1.1.2
    · exact howner ▸ length_opaque_le hids.1.1.1.1.1.1.2
    · exact hconnection ▸ length_opaque_le hids.1.1.1.1.1.1.1.2
  simp only [Config.json, hbinding, Option.all_some, htime, if_true]
  have hsize : (v.toJson identity scope).marshal.length ≤ 60000 := by
    refine le_trans (length_obj_le (?_ : _ ≤ 1000) (?_ : _ ≤ 55000)) (by omega)
    · simp only [List.map_cons, List.map_nil]
      decide +kernel
    · have h₁ := length_nat_le (show 1 ≤ maxUint64 by unfold maxUint64; omega)
      have h₂ := length_str_le identity.root_le
      have h₃ := length_nat_le identity.device_le
      have h₄ := length_nat_le identity.inode_le
      have h₅ := length_str_le (length_opaque_le identity.epoch_valid)
      have h₆ := length_nat_le hrevision
      have h₇ := length_nat_le (show v.keyUses ≤ maxUint64 by unfold maxUint64; omega)
      have h₈ := length_binding_le hb hgeneration htime
      have h₉ : (Json.arr (v.candidates.map CandidateRecord.toJson)).marshal.length ≤ 4 * (1300 + 1) + 2 := by
        refine length_arr_le (by simpa [maxCandidates] using hcandidates) fun item hitem => ?_
        obtain ⟨c, hc, rfl⟩ := List.mem_map.mp hitem
        exact length_candidate_le (hcandidate c hc)
      have h₁₀ : (Json.arr (v.cleanups.map CleanupRecord.toJson)).marshal.length ≤ 4 * (800 + 1) + 2 := by
        refine length_arr_le (by simpa [maxCleanups] using hcleanups) fun item hitem => ?_
        obtain ⟨c, hc, rfl⟩ := List.mem_map.mp hitem
        exact length_cleanup_le (hcleanup c hc) (hgenerations c hc)
      simp only [hbinding, List.map_cons, List.map_nil, List.sum_cons, List.sum_nil]
      omega
  unfold maxMetadataBytes
  omega

end Sessionless.Credential
