import Mathlib.Data.List.Nodup
import Sessionless.Delivery.Exclusive
import Sessionless.Delivery.Projection

/-!
# The ready index is exact

The ready index holds one row for each delivery that has not ended, at the instant from which it may be claimed and in
the bucket of its identifier; and the copy by run is the record. Every writer ends in `PutTelegramDeliveryOutbox`, so
the invariant is proved for it once.
-/

namespace Sessionless.Delivery

open Lib Store Protocol

variable {db db' : Database} {tenantID : TenantID} {record : DeliveryRecord}

/-! ## What the writers commit -/

theorem owningRun_tenant {s runID run} (h : owningRun s tenantID runID = .ok run) :
    s.tenantID = tenantID := by
  simp only [owningRun, bind_eq_ok, ensureSameTenant, ite_error_eq_ok, Decidable.not_not] at h
  obtain ⟨_, ⟨_, _, _, _, htenant, _⟩, _⟩ := h
  exact htenant

section

variable [Crypto]

/-- Everything `PutTelegramDeliveryOutbox` can do. -/
structure Put (db : Database) (tenantID : TenantID) (record : DeliveryRecord) (run : Run) (bucket : Nat)
    (others : List ReadyRow) (db' : Database) : Prop where
  owning : owningRun (db.tenants tenantID) record.tenantID record.runID = .ok run
  hashed : bucketV1 record.id = .ok bucket
  valid : record.validateForRun run = .ok ()
  cleared : withoutPrevious db.ready record (db.outbox (record.tenantID, record.id)) = .ok others
  written : db' = { db with
    outbox := db.outbox.upsert (record.tenantID, record.id) record
    byRun := db.byRun.upsert (record.tenantID, record.runID, record.id) record
    ready := if record.status.terminal then others else upsertReady others (readyRow bucket record) }

theorem put_ok : db.putTelegramDeliveryOutbox tenantID record = .ok db' ↔
    ∃ run bucket others, Put db tenantID record run bucket others db' := by
  simp only [Database.putTelegramDeliveryOutbox, bind_eq_ok, pure_eq_ok]
  constructor
  · rintro ⟨run, howning, bucket, hbucket, _, hvalid, ready, hready, rfl⟩
    exact ⟨run, bucket, ready, howning, hbucket, hvalid, hready, rfl⟩
  · rintro ⟨run, bucket, ready, howning, hbucket, hvalid, hready, rfl⟩
    exact ⟨run, howning, bucket, hbucket, (), hvalid, ready, hready, rfl⟩

/-- Everything a claim of a stored record can do. -/
theorem claim_eq {deliveryID instant answer claimed} (hstored : db.outbox (tenantID, deliveryID) = some record)
    (hinstant : instant ≠ 0) : db.claimTelegramDelivery tenantID deliveryID instant = .ok (answer, claimed, db') ↔
      ∃ decision, decideClaim (db.tenants tenantID) record instant = .ok decision ∧
        (decision = .nothing ∧ answer = none ∧ claimed = false ∧ db' = db ∨
          decision = .already ∧ answer = some record ∧ claimed = false ∧ db' = db ∨
          ∃ next, decision = .write next claimed ∧ answer = some next ∧
            db.putTelegramDeliveryOutbox tenantID next = .ok db') := by
  simp only [Database.claimTelegramDelivery, hinstant, if_false, hstored, bind_eq_ok]
  refine exists_congr fun decision => and_congr_right fun _ => ?_
  cases decision with
  | nothing =>
    simp only [pure_eq_ok, Prod.mk.injEq, reduceCtorEq, false_and, exists_false, or_false, true_and]
    exact and_congr eq_comm (and_congr eq_comm eq_comm)
  | already =>
    simp only [pure_eq_ok, Prod.mk.injEq, reduceCtorEq, false_and, exists_false, or_false, true_and, false_or]
    exact and_congr eq_comm (and_congr eq_comm eq_comm)
  | write next taken =>
    simp only [bind_eq_ok, pure_eq_ok, Prod.mk.injEq, reduceCtorEq, false_and, false_or, Decision.write.injEq]
    constructor
    · rintro ⟨_, hput, rfl, rfl, rfl⟩
      exact ⟨next, ⟨rfl, rfl⟩, rfl, hput⟩
    · rintro ⟨_, ⟨rfl, rfl⟩, rfl, hput⟩
      exact ⟨_, hput, rfl, rfl, rfl⟩

theorem claim_guard {deliveryID instant answer claimed}
    (h : db.claimTelegramDelivery tenantID deliveryID instant = .ok (answer, claimed, db')) : instant ≠ 0 ∧
      (db.outbox (tenantID, deliveryID) = none → answer = none ∧ claimed = false ∧ db' = db) := by
  simp only [Database.claimTelegramDelivery, ite_error_eq_ok] at h
  refine ⟨h.1, fun hrow => ?_⟩
  have hnone := h.2
  simp only [hrow] at hnone
  cases hnone
  exact ⟨rfl, rfl, rfl⟩

theorem claim_put {deliveryID instant answer claimed}
    (h : db.claimTelegramDelivery tenantID deliveryID instant = .ok (answer, claimed, db')) :
    db' = db ∨ ∃ record, db.putTelegramDeliveryOutbox tenantID record = .ok db' := by
  obtain ⟨hinstant, hnone⟩ := claim_guard h
  cases hrow : db.outbox (tenantID, deliveryID) with
  | none => exact .inl (hnone hrow).2.2
  | some record =>
    obtain ⟨_, -, ⟨-, -, -, heq⟩ | ⟨-, -, -, heq⟩ | ⟨next, -, -, hput⟩⟩ := (claim_eq hrow hinstant).1 h
    · exact .inl heq
    · exact .inl heq
    · exact .inr ⟨next, hput⟩

theorem transition_put {deliveryID target instant retryAt}
    (h : db.transitionTelegramDelivery tenantID deliveryID target instant retryAt = .ok db') :
    db' = db ∨ ∃ record, db.putTelegramDeliveryOutbox tenantID record = .ok db' := by
  unfold Database.transitionTelegramDelivery at h
  cases hrow : db.outbox (tenantID, deliveryID) with
  | none => simp [hrow] at h
  | some record =>
    simp only [hrow] at h
    split at h
    · simp only [Except.ok.injEq] at h
      exact .inl h.symm
    · simp only [bind_eq_ok] at h
      obtain ⟨next, -, hput⟩ := h
      exact .inr ⟨next, hput⟩

def SameOutbox (db db' : Database) : Prop := db'.outbox = db.outbox ∧ db'.byRun = db.byRun ∧ db'.ready = db.ready

theorem materialize_put {projectionID content instant answer}
    (h : db.materializeTelegramProjection tenantID projectionID content instant = .ok (answer, db')) :
    SameOutbox db db' ∨
      ∃ record middle, db.putTelegramDeliveryOutbox tenantID record = .ok middle ∧ SameOutbox middle db' := by
  simp only [Database.materializeTelegramProjection, bind_eq_ok, exists_unit, ite_error_eq_ok] at h
  obtain ⟨-, -, h⟩ := h
  cases hrow : db.projections (tenantID, projectionID) with
  | none =>
    simp only [hrow] at h
    cases h
    exact .inl ⟨rfl, rfl, rfl⟩
  | some projection =>
    simp only [hrow, bind_eq_ok] at h
    obtain ⟨⟨resolved, code⟩, -, h⟩ := h
    split at h
    · cases h
      exact .inl ⟨rfl, rfl, rfl⟩
    · cases code with
      | some code =>
        cases h
        exact .inl ⟨rfl, rfl, rfl⟩
      | none =>
        cases content with
        | none =>
          cases h
          exact .inl ⟨rfl, rfl, rfl⟩
        | some content =>
          simp only [bind_eq_ok, exists_unit, pure_eq_ok, Prod.mk.injEq] at h
          obtain ⟨-, middle, hput, -, rfl⟩ := h
          exact .inr ⟨_, middle, hput, rfl, rfl, rfl⟩

/-! ## The invariant -/

/-- A ready row stands for a delivery that has not ended, and is the one computed from its record. -/
def Listed (db : Database) (row : ReadyRow) : Prop :=
  ∃ record bucket, db.outbox (row.tenantID, row.deliveryID) = some record ∧ record.status.terminal = false ∧
    bucketV1 record.id = .ok bucket ∧ row = readyRow bucket record

structure Exact (db : Database) : Prop where
  key : ∀ tenantID id record, db.outbox (tenantID, id) = some record → record.tenantID = tenantID ∧ record.id = id
  named : ∀ tenantID id record, db.outbox (tenantID, id) = some record → ∃ bucket, bucketV1 record.id = .ok bucket
  shaped : ∀ tenantID id record, db.outbox (tenantID, id) = some record → record.outbox.validateForRun = .ok ()
  ready : ∀ row, row ∈ db.ready ↔ Listed db row
  once : db.ready.Nodup
  copy : ∀ tenantID runID id record, db.byRun (tenantID, runID, id) = some record ↔
    db.outbox (tenantID, id) = some record ∧ record.runID = runID

theorem SameOutbox.exact (h : SameOutbox db db') (hexact : Exact db) : Exact db' := by
  obtain ⟨houtbox, hbyRun, hready⟩ := h
  constructor
  case key => rw [houtbox]; exact hexact.key
  case named => rw [houtbox]; exact hexact.named
  case shaped => rw [houtbox]; exact hexact.shaped
  case ready => simpa only [Listed, houtbox, hready] using hexact.ready
  case once => rw [hready]; exact hexact.once
  case copy => rw [houtbox, hbyRun]; exact hexact.copy

theorem mem_withoutPrevious {others row} (hexact : Exact db)
    (h : withoutPrevious db.ready record (db.outbox (record.tenantID, record.id)) = .ok others) :
    row ∈ others ↔ row ∈ db.ready ∧ (row.tenantID, row.deliveryID) ≠ (record.tenantID, record.id) := by
  cases hprevious : db.outbox (record.tenantID, record.id) with
  | none =>
    simp only [withoutPrevious, hprevious] at h
    cases h
    refine ⟨fun hmem => ⟨hmem, ?_⟩, fun hmem => hmem.1⟩
    intro hkey
    obtain ⟨stored, bucket, hstored, -⟩ := (hexact.ready row).1 hmem
    rw [hkey, hprevious] at hstored
    cases hstored
  | some previous =>
    simp only [withoutPrevious, hprevious, ite_error_eq_ok, bind_eq_ok, pure_eq_ok] at h
    obtain ⟨-, bucket, hbucket, rfl⟩ := h
    obtain ⟨htenant, hid⟩ := hexact.key _ _ _ hprevious
    simp only [List.mem_filter, Bool.not_eq_true', ← Bool.not_eq_true, sameKey_iff, and_congr_right_iff]
    intro hmem
    constructor
    · intro hother hkey
      obtain ⟨stored, bucket', hstored, -, hbucket', hrow⟩ := (hexact.ready row).1 hmem
      rw [hkey, hprevious] at hstored
      obtain rfl := Option.some.inj hstored
      obtain rfl := Except.ok.inj (hbucket.symm.trans hbucket')
      exact hother (by simp [hrow])
    · rintro hkey ⟨-, -, htenant', hid'⟩
      exact hkey (by simp [htenant', hid', readyRow, htenant, hid])

theorem nodup_withoutPrevious {others} (hexact : Exact db)
    (h : withoutPrevious db.ready record (db.outbox (record.tenantID, record.id)) = .ok others) : others.Nodup := by
  cases hprevious : db.outbox (record.tenantID, record.id) with
  | none =>
    simp only [withoutPrevious, hprevious, Except.ok.injEq] at h
    exact h ▸ hexact.once
  | some previous =>
    simp only [withoutPrevious, hprevious, ite_error_eq_ok, bind_eq_ok, pure_eq_ok] at h
    obtain ⟨-, bucket, -, rfl⟩ := h
    exact hexact.once.filter _

/-- The ready index after a record was put: the rows of the other deliveries, and the record's own while it has not ended. -/
theorem Put.mem_ready {run bucket others row} (h : Put db tenantID record run bucket others db') (hexact : Exact db) :
    row ∈ db'.ready ↔ (row ∈ db.ready ∧ (row.tenantID, row.deliveryID) ≠ (record.tenantID, record.id)) ∨
      (record.status.terminal = false ∧ row = readyRow bucket record) := by
  obtain ⟨-, -, -, hcleared, rfl⟩ := h
  have hothers : row ∈ others ↔ _ := mem_withoutPrevious hexact hcleared
  by_cases hterminal : record.status.terminal = true
  · simp [hterminal, hothers]
  · simp only [Bool.not_eq_true] at hterminal
    simp only [hterminal, Bool.false_eq_true, if_false, upsertReady, List.mem_cons, List.mem_filter, hothers,
      Bool.not_eq_true', true_and]
    constructor
    · rintro (rfl | ⟨hmem, -⟩)
      · exact .inr rfl
      · exact .inl hmem
    · rintro (hmem | rfl)
      · refine .inr ⟨hmem, ?_⟩
        rw [← Bool.not_eq_true, sameKey_iff]
        rintro ⟨-, -, htenant, hid⟩
        exact hmem.2 (by simp [htenant, hid, readyRow])
      · exact .inl rfl

theorem Put.exact {run bucket others} (h : Put db tenantID record run bucket others db')
    (hexact : Exact db) : Exact db' := by
  have hmem : ∀ row, row ∈ db'.ready ↔ _ := fun row => h.mem_ready hexact
  obtain ⟨-, hhashed, hvalid, hcleared, rfl⟩ := h
  constructor
  case key =>
    intro tenant id
    refine Table.forall_upsert (P := fun key (stored : DeliveryRecord) => stored.tenantID = key.1 ∧ stored.id = key.2)
      (fun key => hexact.key key.1 key.2) ?_ (tenant, id)
    exact ⟨rfl, rfl⟩
  case named =>
    intro tenant id
    exact Table.forall_upsert (fun key => hexact.named key.1 key.2) ⟨bucket, hhashed⟩ (tenant, id)
  case shaped =>
    intro tenant id
    exact Table.forall_upsert (fun key => hexact.shaped key.1 key.2) (DeliveryRecord.validateForRun_ok.1 hvalid).2 (tenant, id)
  case ready =>
    intro row
    rw [hmem row]
    by_cases hkey : (row.tenantID, row.deliveryID) = (record.tenantID, record.id)
    · simp only [Listed, hkey, Table.upsert_self, ne_eq, not_true, and_false, false_or, Option.some.injEq]
      constructor
      · rintro ⟨hopen, hrow⟩
        exact ⟨record, bucket, rfl, hopen, hhashed, hrow⟩
      · rintro ⟨stored, bucket', rfl, hopen, hhashed', hrow⟩
        obtain rfl := Except.ok.inj (hhashed.symm.trans hhashed')
        exact ⟨hopen, hrow⟩
    · have hnew : row ≠ readyRow bucket record := by
        rintro rfl
        exact hkey rfl
      simp only [Listed, Table.upsert_of_ne hkey, ne_eq, hkey, not_false_eq_true, and_true, hnew, and_false, or_false]
      exact hexact.ready row
  case once =>
    have hothers := nodup_withoutPrevious hexact hcleared
    by_cases hterminal : record.status.terminal = true
    · simpa only [hterminal, if_true] using hothers
    · simp only [hterminal, upsertReady]
      refine List.nodup_cons.2 ⟨?_, hothers.filter _⟩
      simp [List.mem_filter, sameKey_iff]
  case copy =>
    intro tenant runID id stored
    by_cases hkey : (tenant, id) = (record.tenantID, record.id)
    · obtain ⟨rfl, rfl⟩ := Prod.mk.inj hkey
      by_cases hrun : runID = record.runID
      · subst hrun
        simp only [Table.upsert_self, Option.some.injEq]
        exact ⟨fun heq => ⟨heq, heq ▸ rfl⟩, fun heq => heq.1⟩
      · -- the previous record had the same run, so no copy stands under another one
        simp only [Table.upsert_self, Option.some.injEq]
        rw [Table.upsert_of_ne (by simp [hrun]), hexact.copy]
        constructor
        · rintro ⟨hstored, rfl⟩
          simp only [withoutPrevious, hstored, ite_error_eq_ok, Decidable.not_not, ne_eq] at hcleared
          exact absurd hcleared.1 hrun
        · rintro ⟨rfl, rfl⟩
          exact absurd rfl hrun
    · have hcopy : (tenant, runID, id) ≠ (record.tenantID, record.runID, record.id) := by
        intro heq
        simp only [Prod.mk.injEq] at heq
        exact hkey (by rw [heq.1, heq.2.2])
      simp only [Table.upsert_of_ne hcopy, Table.upsert_of_ne hkey]
      exact hexact.copy tenant runID id stored

/-! ## Runs -/

/-- A committed transaction: of the outbox, or of the other tables. -/
inductive Commits : Database → Database → Prop where
  | put {db db' : Database} (tenantID : TenantID) (record : DeliveryRecord)
      (h : db.putTelegramDeliveryOutbox tenantID record = .ok db') : Commits db db'
  | claim {db db' : Database} (tenantID : TenantID) (deliveryID : TelegramDeliveryID) (instant : Int)
      {answer : Option DeliveryRecord} {claimed : Bool}
      (h : db.claimTelegramDelivery tenantID deliveryID instant = .ok (answer, claimed, db')) : Commits db db'
  | transition {db db' : Database} (tenantID : TenantID) (deliveryID : TelegramDeliveryID) (target : DeliveryStatus)
      (instant : Int) (retryAt : Option Int)
      (h : db.transitionTelegramDelivery tenantID deliveryID target instant retryAt = .ok db') : Commits db db'
  | materialize {db db' : Database} (tenantID : TenantID) (projectionID : FrontendProjectionID)
      (content : Option TelegramProjectionContent) (instant : Int) {answer : TelegramProjectionResult}
      (h : db.materializeTelegramProjection tenantID projectionID content instant = .ok (answer, db')) : Commits db db'
  | elsewhere {db db' : Database} (h : SameOutbox db db') : Commits db db'

def Database.empty (tenants : TenantID → State) (tenants_id : ∀ tenantID, (tenants tenantID).tenantID = tenantID) : Database :=
  { tenants, tenants_id, projections := fun _ => none, outbox := fun _ => none, byRun := fun _ => none, ready := [] }

theorem empty_exact {tenants : TenantID → State} {hid} :
    Exact (Database.empty tenants hid) := by
  constructor <;> simp [Database.empty, Listed]

theorem Commits.exact (h : Commits db db') (hexact : Exact db) : Exact db' := by
  have hput : ∀ {tenantID : TenantID} {record : DeliveryRecord} {next : Database},
      db.putTelegramDeliveryOutbox tenantID record = .ok next → Exact next := by
    intro tenantID record next hnext
    obtain ⟨run, bucket, others, hcommitted⟩ := put_ok.1 hnext
    exact hcommitted.exact hexact
  cases h with
  | put tenantID record h => exact hput h
  | claim tenantID deliveryID instant h =>
    obtain rfl | ⟨record, hrecord⟩ := claim_put h
    · exact hexact
    · exact hput hrecord
  | transition tenantID deliveryID target instant retryAt h =>
    obtain rfl | ⟨record, hrecord⟩ := transition_put h
    · exact hexact
    · exact hput hrecord
  | materialize tenantID projectionID content instant h =>
    obtain hsame | ⟨record, middle, hrecord, hsame⟩ := materialize_put h
    · exact hsame.exact hexact
    · exact hsame.exact (hput hrecord)
  | elsewhere h => exact h.exact hexact

theorem exact_of_run {start} (hrun : Relation.ReflTransGen Commits start db) (hstart : Exact start) : Exact db := by
  induction hrun with
  | refl => exact hstart
  | tail _ hstep ih => exact hstep.exact ih

def Database.readyRows (db : Database) (tenantID : TenantID) (id : TelegramDeliveryID) : List ReadyRow :=
  db.ready.filter fun row => row.tenantID = tenantID ∧ row.deliveryID = id

theorem Exact.readyRows_open {id bucket} (hexact : Exact db)
    (hrecord : db.outbox (tenantID, id) = some record) (hopen : record.status.terminal = false)
    (hbucket : bucketV1 id = .ok bucket) : db.readyRows tenantID id = [readyRow bucket record] := by
  obtain ⟨htenant, hid⟩ := hexact.key tenantID id record hrecord
  rw [Database.readyRows, ← List.perm_singleton]
  refine (List.perm_ext_iff_of_nodup (hexact.once.filter _) (List.nodup_singleton _)).2 fun row => ?_
  rw [List.mem_singleton]
  simp only [List.mem_filter, hexact.ready row, decide_eq_true_eq]
  constructor
  · rintro ⟨⟨stored, bucket', hstored, -, hbucket', hrow⟩, hrowTenant, hrowID⟩
    rw [hrowTenant, hrowID, hrecord] at hstored
    obtain rfl := Option.some.inj hstored
    rw [hid] at hbucket'
    obtain rfl := Except.ok.inj (hbucket.symm.trans hbucket')
    exact hrow
  · rintro rfl
    refine ⟨⟨record, bucket, ?_, hopen, by rw [hid]; exact hbucket, rfl⟩, htenant, hid⟩
    simpa only [readyRow, htenant, hid] using hrecord

theorem Exact.readyRows_ended {id} (hexact : Exact db)
    (hrecord : ∀ record, db.outbox (tenantID, id) = some record → record.status.terminal = true) :
    db.readyRows tenantID id = [] := by
  rw [Database.readyRows, List.filter_eq_nil_iff]
  intro row hmem
  obtain ⟨stored, bucket, hstored, hopen, -⟩ := (hexact.ready row).1 hmem
  simp only [decide_eq_true_eq]
  rintro ⟨rfl, rfl⟩
  simp [hrecord stored hstored] at hopen

/-- After any committed transactions: a delivery that has not ended has one ready row, at the instant from which it may
be claimed and in the bucket of its identifier; one that has ended, or was never made, has none; and the copies by run
are the records. -/
theorem ready_index_exact {tenants : TenantID → State} {hid : ∀ tenantID, (tenants tenantID).tenantID = tenantID}
    (hrun : Relation.ReflTransGen Commits (.empty tenants hid) db) :
    (∀ tenantID id record, db.outbox (tenantID, id) = some record → record.status.terminal = false →
      ∃ bucket, bucketV1 id = .ok bucket ∧ db.readyRows tenantID id =
        [{ bucket, availableAt := timestamp (telegramDeliveryAvailableAt record), tenantID, deliveryID := id,
           runID := record.runID }]) ∧
      (∀ tenantID id, (∀ record, db.outbox (tenantID, id) = some record → record.status.terminal = true) →
        db.readyRows tenantID id = []) ∧
      ∀ tenantID runID id record, db.byRun (tenantID, runID, id) = some record ↔
        db.outbox (tenantID, id) = some record ∧ record.runID = runID := by
  have hexact := exact_of_run hrun empty_exact
  refine ⟨?_, fun _ _ => hexact.readyRows_ended, hexact.copy⟩
  intro tenantID id record hrecord hopen
  obtain ⟨htenant, hid⟩ := hexact.key tenantID id record hrecord
  obtain ⟨bucket, hbucket⟩ := hexact.named tenantID id record hrecord
  rw [hid] at hbucket
  refine ⟨bucket, hbucket, ?_⟩
  rw [hexact.readyRows_open hrecord hopen hbucket, readyRow, htenant, hid]

end

/-! ## One delivery -/

namespace Sample

/-- The digests of the identifiers below start with the bytes that SHA-256 gives them. -/
scoped instance crypto : Crypto where
  sha256 value :=
    if value = utf8 "tenant" then .ofBytes [233, 218, 134, 211]
    else if value = utf8 "delivery" then .ofBytes [180, 175, 57, 213]
    else if value = utf8 "second" then .ofBytes [22, 54, 122, 172]
    else .zero
  ed25519Verify _ _ _ := false

def run : Run :=
  { id := "run", tenantID := "tenant", sessionID := "session", triggerEventID := "event"
    subscriptionConnectionID := "subscription", status := .succeeded, idempotencyKey := "key"
    cancellationRequestedAt := none, startedAt := none, finishedAt := some minute, createdAt := minute, updatedAt := minute }

def delivery : DeliveryRecord :=
  { id := "delivery", tenantID := "tenant", runID := "run", chat := ⟨"tenant", 1⟩, replyToMessageID := 1
    payload := ⟨"", "", 0, ""⟩, text := "done", artifactManifestID := none, projection := none, status := .pending
    idempotencyKey := "key", attemptCount := 0, nextAttemptAt := none, createdAt := minute, updatedAt := minute }

def start : Database :=
  .empty (fun tenantID => { State.empty tenantID with runs := Table.upsert (fun _ => none) "run" run }) fun _ => rfl

theorem delivery_put : ∃ db, start.putTelegramDeliveryOutbox "tenant" delivery = .ok db ∧
    db.outbox ("tenant", "delivery") = some delivery ∧ db.ready = [⟨5, 60000000, "tenant", "delivery", "run"⟩] := by
  have hrun : okAnd (start.putTelegramDeliveryOutbox "tenant" delivery) (fun db =>
      decide (db.outbox ("tenant", "delivery") = some delivery ∧ db.ready = [⟨5, 60000000, "tenant", "delivery", "run"⟩])) =
      true := by decide +kernel
  obtain ⟨db, hput, hfacts⟩ := exists_of_okAnd hrun
  exact ⟨db, hput, of_decide_eq_true hfacts⟩

/-- The ready row of the delivery is the one of its record. -/
theorem ready_index_exact_delivery : ∃ db, start.putTelegramDeliveryOutbox "tenant" delivery = .ok db ∧
    ∃ bucket, bucketV1 "delivery" = .ok bucket ∧ db.readyRows "tenant" "delivery" =
      [⟨bucket, timestamp (telegramDeliveryAvailableAt delivery), "tenant", "delivery", "run"⟩] := by
  obtain ⟨db, hput, hrecord, -⟩ := delivery_put
  obtain ⟨hopen, -, -⟩ := ready_index_exact (.single (.put _ _ hput))
  exact ⟨db, hput, hopen "tenant" "delivery" delivery hrecord rfl⟩

/-- The row lies in bucket 5; the identifier of the tenant falls into bucket 3. -/
theorem ready_row_outside_tenant_bucket : ∃ db, Relation.ReflTransGen Commits start db ∧
    (∃ record, db.outbox ("tenant", "delivery") = some record ∧ record.status = .pending) ∧
    bucketV1 "tenant" = .ok 3 ∧ ∀ row ∈ db.readyRows "tenant" "delivery", row.bucket = 5 := by
  obtain ⟨db, hput, hrecord, hready⟩ := delivery_put
  have hbucket : bucketV1 "tenant" = .ok 3 := by decide +kernel
  refine ⟨db, .single (.put _ _ hput), ⟨delivery, hrecord, rfl⟩, hbucket, ?_⟩
  simp [Database.readyRows, hready]

end Sample

end Sessionless.Delivery
