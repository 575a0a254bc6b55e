import Sessionless.Delivery.RunOnce

/-!
# Which claims are refused

A claim of a delivery that has not ended is refused by the session's write fence, by references that are no longer
what they were, or by a stamp that lies ahead of the pass. It leaves the other deliveries and buckets alone.
-/

namespace Sessionless.Delivery

open Lib Store Protocol

variable {s : State} {record next : DeliveryRecord} {run : Run} {now : Int}

/-! ## What a claim decides -/

namespace DeliveryRecord

theorem ValidContent.withOutbox {row} (h : record.ValidContent run) :
    (record.withOutbox row).ValidContent run := { h with }

theorem ValidContent.of_withOutbox {row} (h : (record.withOutbox row).ValidContent run) :
    record.ValidContent run := { h with }

/-- The moving part of a record whose delivery is cancelled. -/
def cancelledRow (record : DeliveryRecord) (now : Int) : TelegramDeliveryOutbox :=
  { record.outbox with status := .cancelled, nextAttemptAt := none, updatedAt := now }

def claimedRow (record : DeliveryRecord) (now : Int) : TelegramDeliveryOutbox :=
  { record.outbox with
    status := .sending, nextAttemptAt := none, attemptCount := record.attemptCount + 1, updatedAt := now }

theorem transition_cancelled_ok {row} (hopen : record.status.terminal = false) :
    record.outbox.transition .cancelled now none = .ok row ↔ record.updatedAt ≤ now ∧ record.cancelledRow now = row := by
  have hcan : canTransitionDelivery record.status .cancelled = true := by
    cases hstatus : record.status <;> simp [hstatus, DeliveryStatus.terminal] at hopen <;> rfl
  simp only [TelegramDeliveryOutbox.transition, ite_error_eq_ok, Except.ok.injEq]
  simp [outbox, cancelledRow, hcan]

theorem transition_sending_ok {row} (hwaiting : record.status = .pending ∨ record.status = .retryWait) :
    record.outbox.transition .sending now none = .ok row ↔ record.updatedAt ≤ now ∧ record.claimedRow now = row := by
  have hcan : canTransitionDelivery record.status .sending = true := by
    obtain hstatus | hstatus := hwaiting <;> rw [hstatus] <;> rfl
  simp only [TelegramDeliveryOutbox.transition, ite_error_eq_ok, Except.ok.injEq]
  simp [outbox, claimedRow, hcan]

/-- A record that has no next attempt and was not stamped in the future is well formed in any other status. -/
theorem shape_of_stamp {row} (hshape : record.outbox.validateForRun = .ok ())
    (hstatus : row.status ≠ .retryWait) (hnext : row.nextAttemptAt = none) (hstamp : record.updatedAt ≤ row.updatedAt) :
    (record.withOutbox row).outbox.validateForRun = .ok () := by
  simp only [TelegramDeliveryOutbox.validateForRun, ite_error_eq_ok] at hshape ⊢
  obtain ⟨-, -, hcreated, -⟩ := hshape
  simp only [outbox, withOutbox] at hcreated ⊢
  refine ⟨by simp [hstatus], by simp [hnext], ?_, trivial⟩
  omega

end DeliveryRecord

theorem availableAt_pending (hshape : record.outbox.validateForRun = .ok ()) (hstatus : record.status = .pending) :
    record.nextAttemptAt = none ∧ telegramDeliveryAvailableAt record = record.updatedAt := by
  have hnext : record.nextAttemptAt = none :=
    TelegramDeliveryOutbox.validateForRun_next hshape (by simp [DeliveryRecord.outbox, hstatus])
  simp [telegramDeliveryAvailableAt, hnext, hstatus]

theorem availableAt_sending (hshape : record.outbox.validateForRun = .ok ()) (hstatus : record.status = .sending) :
    record.nextAttemptAt = none ∧ telegramDeliveryAvailableAt record = record.updatedAt + telegramDeliveryClaimTimeout := by
  have hnext : record.nextAttemptAt = none :=
    TelegramDeliveryOutbox.validateForRun_next hshape (by simp [DeliveryRecord.outbox, hstatus])
  simp [telegramDeliveryAvailableAt, hnext, hstatus]

theorem availableAt_retryWait (hshape : record.outbox.validateForRun = .ok ()) (hstatus : record.status = .retryWait) :
    ∃ next, record.nextAttemptAt = some next ∧ telegramDeliveryAvailableAt record = next := by
  simp only [TelegramDeliveryOutbox.validateForRun, ite_error_eq_ok] at hshape
  cases hnext : record.nextAttemptAt with
  | none => exact absurd ⟨hstatus, hnext⟩ hshape.1
  | some next => exact ⟨next, rfl, by simp [telegramDeliveryAvailableAt, hnext]⟩

/-- What a claim writes, once its transition is read as the stamp and the moved part. -/
theorem exists_moved {row claimed decision} :
    (∃ next, (∃ moved, (record.updatedAt ≤ now ∧ row = moved) ∧ record.withOutbox moved = next) ∧
      Decision.write next claimed = decision) ↔
      record.updatedAt ≤ now ∧ decision = .write (record.withOutbox row) claimed := by
  constructor
  · rintro ⟨_, ⟨_, ⟨hstamp, rfl⟩, rfl⟩, rfl⟩
    exact ⟨hstamp, rfl⟩
  · rintro ⟨hstamp, rfl⟩
    exact ⟨_, ⟨_, ⟨hstamp, rfl⟩, rfl⟩, rfl⟩

theorem decideClaim_ok {decision} (hshape : record.outbox.validateForRun = .ok ())
    (hopen : record.status.terminal = false) :
    decideClaim s record now = .ok decision ↔
      (∃ code, authorizeTelegramProjectionDelivery s record = .ok (some code) ∧ record.updatedAt ≤ now ∧
        decision = .write (record.withOutbox (record.cancelledRow now)) false) ∨
      authorizeTelegramProjectionDelivery s record = .ok none ∧
        (record.status ≠ .pending ∧ now < telegramDeliveryAvailableAt record ∧ decision = .nothing ∨
          telegramDeliveryAvailableAt record ≤ now ∧ record.updatedAt ≤ now ∧
            decision = .write (record.withOutbox (record.claimedRow now)) true) := by
  cases hcode : authorizeTelegramProjectionDelivery s record with
  | error e => simp [decideClaim, hcode, bind, Except.bind]
  | ok code =>
    cases code with
    | some code =>
      simp only [decideClaim, hcode, bind_eq_ok, Except.ok.injEq, exists_eq_left', Option.isSome_some, if_true, hopen,
        Bool.false_eq_true, if_false, DeliveryRecord.transition_eq_ok, DeliveryRecord.transition_cancelled_ok hopen,
        pure_eq_ok, exists_moved, Option.some.injEq, reduceCtorEq, false_and, or_false]
    | none =>
      simp only [decideClaim, hcode, bind_eq_ok, Except.ok.injEq, exists_eq_left', Option.isSome_none, Bool.false_eq_true,
        if_false, reduceCtorEq, false_and, exists_false, false_or, true_and]
      cases hstatus : record.status with
      | pending =>
        obtain ⟨hnext, havailable⟩ := availableAt_pending hshape hstatus
        simp only [hnext, havailable, Option.mem_def, reduceCtorEq, false_and, exists_false, if_false, bind_eq_ok,
          DeliveryRecord.transition_eq_ok, DeliveryRecord.transition_sending_ok (.inl hstatus), pure_eq_ok, exists_moved,
          ne_eq, not_true, false_or]
        exact ⟨fun h => ⟨h.1, h⟩, And.right⟩
      | retryWait =>
        obtain ⟨next, hnext, havailable⟩ := availableAt_retryWait hshape hstatus
        simp only [hnext, havailable, Option.mem_def, Option.some.injEq, exists_eq_left', ne_eq, reduceCtorEq,
          not_false_eq_true, true_and]
        by_cases hdue : now < next
        · simp only [hdue, if_true, pure_eq_ok, true_and, Int.not_le.2 hdue, false_and, or_false]
          exact eq_comm
        · simp only [hdue, if_false, bind_eq_ok, DeliveryRecord.transition_eq_ok,
            DeliveryRecord.transition_sending_ok (.inr hstatus), pure_eq_ok, exists_moved, false_and, false_or,
            Int.not_lt.1 hdue, true_and]
      | sending =>
        obtain ⟨hnext, havailable⟩ := availableAt_sending hshape hstatus
        simp only [havailable, ne_eq, reduceCtorEq, not_false_eq_true, true_and]
        by_cases hdue : now < record.updatedAt + telegramDeliveryClaimTimeout
        · simp only [hdue, if_true, pure_eq_ok, true_and, Int.not_le.2 hdue, false_and, or_false]
          exact eq_comm
        · have hstamp : record.updatedAt ≤ now := by
            simp only [telegramDeliveryClaimTimeout, minute, second] at hdue
            omega
          have hsame : { record with status := .sending, attemptCount := record.attemptCount + 1, updatedAt := now } =
              record.withOutbox (record.claimedRow now) := by
            simp [DeliveryRecord.withOutbox, DeliveryRecord.claimedRow, hnext]
          simp only [hdue, if_false, pure_eq_ok, false_and, false_or, Int.not_lt.1 hdue, true_and,
            hstamp, hsame]
          exact eq_comm
      | sent => simp [hstatus, DeliveryStatus.terminal] at hopen
      | failed => simp [hstatus, DeliveryStatus.terminal] at hopen
      | cancelled => simp [hstatus, DeliveryStatus.terminal] at hopen

/-! ## Which claims are refused -/

/-- The session of the delivery accepts writes, what the record refers to is there as it was when the delivery was made,
and the record was not stamped after `now`. -/
structure Accepts (s : State) (record : DeliveryRecord) (now : Int) : Prop where
  run : ∃ run, s.runs record.runID = some run ∧ s.sessionDeletions run.sessionID = none ∧ record.ValidContent run
  references : ∃ code, authorizeTelegramProjectionDelivery s record = .ok code
  stamp : record.updatedAt ≤ now

/-- A claim goes through when the delivery accepts it, or when it leaves the delivery alone: the index keeps microseconds,
so it may list a delivery that becomes due within the current one. -/
def Passes (s : State) (record : DeliveryRecord) (now : Int) : Prop :=
  Accepts s record now ∨ authorizeTelegramProjectionDelivery s record = .ok none ∧ record.status ≠ .pending ∧
    now < telegramDeliveryAvailableAt record

theorem owningRun_ok {tenantID} (hcontent : record.ValidContent run) (htenant : s.tenantID = tenantID)
    (hrecord : record.tenantID = tenantID) (hrun : s.runs record.runID = some run)
    (hwritable : s.sessionDeletions run.sessionID = none) : owningRun s record.tenantID record.runID = .ok run := by
  have hvalid := hcontent.valid
  have hsame := hcontent.tenant
  simp only [Run.validate, bind_eq_ok, exists_unit] at hvalid
  simp only [ensureSameTenant, bind_eq_ok, exists_unit, ite_error_eq_ok, Decidable.not_not, ne_eq] at hsame
  simp only [owningRun, bind_eq_ok, exists_unit, ensureSameTenant, ite_error_eq_ok, requireRow_ok, ensureSessionWritable_ok,
    pure_eq_ok]
  refine ⟨⟨?_, hsame.2.1, by simp [htenant, hrecord], trivial⟩, ?_, run, hrun, hwritable, rfl⟩
  · rw [htenant, ← hrecord]
    exact hsame.2.1
  · rw [hcontent.owning]
    exact hvalid.1

theorem owningRun_run {tenantID runID} (h : owningRun s tenantID runID = .ok run) :
    s.runs runID = some run ∧ s.sessionDeletions run.sessionID = none := by
  simp only [owningRun, bind_eq_ok, exists_unit, requireRow_ok, ensureSessionWritable_ok, pure_eq_ok] at h
  obtain ⟨-, -, _, hrun, hwritable, rfl⟩ := h
  exact ⟨hrun, hwritable⟩

theorem shape_cancelled (hshape : record.outbox.validateForRun = .ok ()) (hstamp : record.updatedAt ≤ now) :
    (record.withOutbox (record.cancelledRow now)).outbox.validateForRun = .ok () :=
  DeliveryRecord.shape_of_stamp hshape (by simp [DeliveryRecord.cancelledRow]) rfl hstamp

theorem shape_claimed (hshape : record.outbox.validateForRun = .ok ()) (hstamp : record.updatedAt ≤ now) :
    (record.withOutbox (record.claimedRow now)).outbox.validateForRun = .ok () :=
  DeliveryRecord.shape_of_stamp hshape (by simp [DeliveryRecord.claimedRow]) rfl hstamp

section

variable [Crypto] {db db' : Database} {tenantID : TenantID} {id : TelegramDeliveryID} {row : TelegramDeliveryOutbox}

/-- A stored record whose moving part became `row` can be put exactly when its session accepts writes and its run is there. -/
theorem put_moved_iff (hexact : Exact db) (hstored : db.outbox (tenantID, id) = some record)
    (hshape : (record.withOutbox row).outbox.validateForRun = .ok ()) :
    (∃ db', db.putTelegramDeliveryOutbox tenantID (record.withOutbox row) = .ok db') ↔
      ∃ run, (db.tenants tenantID).runs record.runID = some run ∧
        (db.tenants tenantID).sessionDeletions run.sessionID = none ∧ record.ValidContent run := by
  obtain ⟨htenant, hid⟩ := hexact.key tenantID id record hstored
  obtain ⟨bucket, hbucket⟩ := hexact.named tenantID id record hstored
  constructor
  · rintro ⟨db', hput⟩
    obtain ⟨run, _, _, howning, -, hvalid, -⟩ := put_ok.1 hput
    obtain ⟨hrun, hwritable⟩ := owningRun_run howning
    exact ⟨run, hrun, hwritable, (DeliveryRecord.validateForRun_ok.1 hvalid).1.of_withOutbox⟩
  · rintro ⟨run, hrun, hwritable, hcontent⟩
    have howning := owningRun_ok hcontent (db.tenants_id tenantID) htenant hrun hwritable
    have hkey : db.outbox (record.tenantID, record.id) = some record := by rw [htenant, hid]; exact hstored
    have hcleared : withoutPrevious db.ready (record.withOutbox row) (db.outbox (record.tenantID, record.id)) =
        .ok (db.ready.filter fun other => !other.sameKey (readyRow bucket record)) := by
      simp only [hkey, withoutPrevious, hbucket, DeliveryRecord.withOutbox, ne_eq, not_true, if_false]
      rfl
    exact ⟨_, put_ok.2 ⟨run, bucket, _, howning, hbucket,
      DeliveryRecord.validateForRun_ok.2 ⟨hcontent.withOutbox, hshape⟩, hcleared, rfl⟩⟩

/-- A claim goes through when it decides, and when what it writes can be put. -/
theorem claim_decided (hstored : db.outbox (tenantID, id) = some record) (hnow : now ≠ 0) :
    (∃ result, db.claimTelegramDelivery tenantID id now = .ok result) ↔
      ∃ decision, decideClaim (db.tenants tenantID) record now = .ok decision ∧
        ∀ next claimed, decision = .write next claimed → ∃ db', db.putTelegramDeliveryOutbox tenantID next = .ok db' := by
  constructor
  · rintro ⟨⟨answer, claimed, db'⟩, hclaim⟩
    obtain ⟨decision, hdecision, hresult⟩ := (claim_eq hstored hnow).1 hclaim
    refine ⟨decision, hdecision, ?_⟩
    rintro next taken rfl
    obtain ⟨hno, -⟩ | ⟨hno, -⟩ | ⟨_, hnext, -, hput⟩ := hresult
    · cases hno
    · cases hno
    · cases hnext
      exact ⟨db', hput⟩
  · rintro ⟨decision, hdecision, hput⟩
    cases decision with
    | nothing => exact ⟨_, (claim_eq hstored hnow).2 ⟨_, hdecision, .inl ⟨rfl, rfl, rfl, rfl⟩⟩⟩
    | already => exact ⟨_, (claim_eq hstored hnow).2 ⟨_, hdecision, .inr (.inl ⟨rfl, rfl, rfl, rfl⟩)⟩⟩
    | write next taken =>
      obtain ⟨db', hput⟩ := hput next taken rfl
      exact ⟨_, (claim_eq hstored hnow).2 ⟨_, hdecision, .inr (.inr ⟨next, rfl, rfl, hput⟩)⟩⟩

theorem claim_passes_iff (hexact : Exact db) (hstored : db.outbox (tenantID, id) = some record)
    (hopen : record.status.terminal = false) (hnow : now ≠ 0) :
    (∃ result, db.claimTelegramDelivery tenantID id now = .ok result) ↔ Passes (db.tenants tenantID) record now := by
  have hshape := hexact.shaped tenantID id record hstored
  simp only [claim_decided hstored hnow, decideClaim_ok hshape hopen]
  constructor
  · rintro ⟨_, ⟨code, hcode, hstamp, rfl⟩ | ⟨hcode, ⟨hstatus, hlater, rfl⟩ | ⟨-, hstamp, rfl⟩⟩, hput⟩
    · exact .inl ⟨(put_moved_iff hexact hstored (shape_cancelled hshape hstamp)).1 (hput _ _ rfl), ⟨_, hcode⟩, hstamp⟩
    · exact .inr ⟨hcode, hstatus, hlater⟩
    · exact .inl ⟨(put_moved_iff hexact hstored (shape_claimed hshape hstamp)).1 (hput _ _ rfl), ⟨_, hcode⟩, hstamp⟩
  · rintro (⟨hrun, ⟨code, hcode⟩, hstamp⟩ | ⟨hcode, hstatus, hlater⟩)
    · have hcancelled := (put_moved_iff hexact hstored (shape_cancelled hshape hstamp)).2 hrun
      have hclaimed := (put_moved_iff hexact hstored (shape_claimed hshape hstamp)).2 hrun
      cases code with
      | some code => exact ⟨_, .inl ⟨code, hcode, hstamp, rfl⟩, by rintro _ _ ⟨⟩; exact hcancelled⟩
      | none =>
        by_cases hdue : telegramDeliveryAvailableAt record ≤ now
        · exact ⟨_, .inr ⟨hcode, .inr ⟨hdue, hstamp, rfl⟩⟩, by rintro _ _ ⟨⟩; exact hclaimed⟩
        · refine ⟨_, .inr ⟨hcode, .inl ⟨?_, Int.not_le.1 hdue, rfl⟩⟩, by simp⟩
          intro hpending
          rw [(availableAt_pending hshape hpending).2] at hdue
          exact hdue hstamp
    · exact ⟨_, .inr ⟨hcode, .inl ⟨hstatus, hlater, rfl⟩⟩, by simp⟩

/-! ## What a turn of the loop leaves alone -/

/-- The database after work on one delivery: the other deliveries, the tables of the tenants and the other buckets of
the index are as before. -/
structure Touches (db : Database) (tenantID : TenantID) (id : TelegramDeliveryID) (db' : Database) : Prop where
  exact : Exact db'
  tenants : db'.tenants = db.tenants
  outbox : ∀ key, key ≠ (tenantID, id) → db'.outbox key = db.outbox key
  ready : ∀ bucket, bucketV1 id ≠ .ok bucket → (db'.ready.filter (·.bucket = bucket)) = db.ready.filter (·.bucket = bucket)

theorem Touches.refl (hexact : Exact db) : Touches db tenantID id db := ⟨hexact, rfl, fun _ _ => rfl, fun _ _ => rfl⟩

theorem Touches.trans {db''} (h : Touches db tenantID id db') (h' : Touches db' tenantID id db'') :
    Touches db tenantID id db'' where
  exact := h'.exact
  tenants := h'.tenants.trans h.tenants
  outbox := fun key hne => (h'.outbox key hne).trans (h.outbox key hne)
  ready := fun bucket hne => (h'.ready bucket hne).trans (h.ready bucket hne)

omit [Crypto] in
theorem filter_other_bucket {ready : List ReadyRow} {gone : ReadyRow} {bucket} (hne : gone.bucket ≠ bucket) :
    ((ready.filter fun other => !other.sameKey gone).filter (·.bucket = bucket)) = ready.filter (·.bucket = bucket) := by
  rw [List.filter_filter]
  refine List.filter_congr fun other _ => ?_
  by_cases hbucket : other.bucket = bucket
  · have hkey : other.sameKey gone = false := by
      rw [← Bool.not_eq_true, sameKey_iff]
      rintro ⟨hsame, -⟩
      exact hne (hsame.symm.trans hbucket)
    simp [hbucket, hkey]
  · simp [hbucket]

theorem put_touches (hexact : Exact db) (hput : db.putTelegramDeliveryOutbox tenantID next = .ok db') :
    Touches db next.tenantID next.id db' := by
  obtain ⟨run, bucket, others, hcommitted⟩ := put_ok.1 hput
  have hafter := hcommitted.exact hexact
  obtain ⟨-, hhashed, -, hcleared, rfl⟩ := hcommitted
  refine ⟨hafter, rfl, fun key hne => Table.upsert_of_ne hne, ?_⟩
  intro other hother
  have hbucket : bucket ≠ other := fun heq => hother (heq ▸ hhashed)
  have hothers : (others.filter (·.bucket = other)) = db.ready.filter (·.bucket = other) := by
    cases hprevious : db.outbox (next.tenantID, next.id) with
    | none =>
      simp only [withoutPrevious, hprevious, Except.ok.injEq] at hcleared
      rw [hcleared]
    | some previous =>
      simp only [withoutPrevious, hprevious, ite_error_eq_ok, bind_eq_ok, pure_eq_ok] at hcleared
      obtain ⟨-, bucket', hbucket', rfl⟩ := hcleared
      rw [(hexact.key _ _ _ hprevious).2] at hbucket'
      obtain rfl := Except.ok.inj (hhashed.symm.trans hbucket')
      exact filter_other_bucket hbucket
  by_cases hterminal : next.status.terminal = true
  · simpa only [hterminal, if_true] using hothers
  · have hnew : (readyRow bucket next).bucket ≠ other := hbucket
    simp only [hterminal, Bool.false_eq_true, if_false, upsertReady]
    rw [List.filter_cons_of_neg (by simpa using hnew), filter_other_bucket hnew]
    exact hothers

theorem claim_touches {answer claimed} (hexact : Exact db)
    (hstored : db.outbox (tenantID, id) = some record) (hopen : record.status.terminal = false) (hnow : now ≠ 0)
    (h : db.claimTelegramDelivery tenantID id now = .ok (answer, claimed, db')) :
    Touches db tenantID id db' ∧ (claimed = true → answer = some (record.withOutbox (record.claimedRow now)) ∧
      db'.outbox (tenantID, id) = answer ∧ record.updatedAt ≤ now ∧ ∃ run, (db.tenants tenantID).runs record.runID = some run ∧
        (db.tenants tenantID).sessionDeletions run.sessionID = none ∧ record.ValidContent run) := by
  have hshape := hexact.shaped tenantID id record hstored
  obtain ⟨htenant, hid⟩ := hexact.key tenantID id record hstored
  obtain ⟨decision, hdecision, ⟨-, -, rfl, rfl⟩ | ⟨-, -, rfl, rfl⟩ | ⟨next, rfl, rfl, hput⟩⟩ := (claim_eq hstored hnow).1 h
  · exact ⟨.refl hexact, by simp⟩
  · exact ⟨.refl hexact, by simp⟩
  · have htouches := put_touches hexact hput
    obtain ⟨code, -, -, hnext⟩ | ⟨-, ⟨-, -, hnext⟩ | ⟨-, hstamp, hnext⟩⟩ := (decideClaim_ok hshape hopen).1 hdecision
    · obtain ⟨rfl, rfl⟩ := Decision.write.inj hnext
      refine ⟨?_, by simp⟩
      simpa only [DeliveryRecord.withOutbox, htenant, hid] using htouches
    · cases hnext
    · obtain ⟨rfl, rfl⟩ := Decision.write.inj hnext
      refine ⟨by simpa only [DeliveryRecord.withOutbox, htenant, hid] using htouches, fun _ => ⟨rfl, ?_, hstamp, ?_⟩⟩
      · obtain ⟨run, bucket, others, hcommitted⟩ := put_ok.1 hput
        simp [hcommitted.written, DeliveryRecord.withOutbox, htenant, hid]
      · exact (put_moved_iff hexact hstored (shape_claimed hshape hstamp)).1 ⟨db', hput⟩

end

theorem doubled_pos {config : SenderConfig} (attempts : Nat) {delay} (h : 0 < delay) : 0 < config.doubled attempts delay := by
  induction attempts generalizing delay with
  | zero => exact h
  | succ attempts ih =>
    simp only [SenderConfig.doubled]
    split
    · exact ih (by omega)
    · exact h

theorem backoff_pos {config : SenderConfig} (hbase : 0 < config.baseBackoff) (hmax : 0 < config.maxBackoff)
    (attempt : UInt32) : 0 < config.backoff attempt := by
  simp only [SenderConfig.backoff]
  split
  · exact hmax
  · exact doubled_pos _ hbase

theorem outcome_of_claimed {target retryAt} (hsending : record.status = .sending)
    (hstamp : record.updatedAt = now) (hshape : record.outbox.validateForRun = .ok ())
    (htarget : target = .sent ∧ retryAt = none ∨ target = .failed ∧ retryAt = none ∨
      target = .retryWait ∧ ∃ next, retryAt = some next ∧ now < next) :
    ∃ row, record.outbox.transition target now retryAt = .ok row ∧
      (record.withOutbox row).outbox.validateForRun = .ok () := by
  have hcan : canTransitionDelivery record.status target = true := by
    obtain ⟨rfl, -⟩ | ⟨rfl, -⟩ | ⟨rfl, -⟩ := htarget <;> simp [hsending, canTransitionDelivery]
  have hcreated : ¬ (record.createdAt = 0 ∨ record.updatedAt < record.createdAt) := by
    simp only [TelegramDeliveryOutbox.validateForRun, ite_error_eq_ok] at hshape
    exact hshape.2.2.1
  rw [hstamp] at hcreated
  simp only [TelegramDeliveryOutbox.transition, ite_error_eq_ok, Except.ok.injEq, TelegramDeliveryOutbox.validateForRun]
  refine ⟨_, ⟨by simpa [DeliveryRecord.outbox] using hcan, by simp [DeliveryRecord.outbox, hstamp], ?_, rfl⟩, ?_⟩
  · rintro ⟨hretry, hnone⟩
    obtain ⟨rfl, -⟩ | ⟨rfl, -⟩ | ⟨-, next, rfl, hlt⟩ := htarget
    · cases hretry
    · cases hretry
    · exact hnone ⟨next, rfl, hlt⟩
  · obtain ⟨rfl, rfl⟩ | ⟨rfl, rfl⟩ | ⟨rfl, next, rfl, -⟩ := htarget <;>
      simpa [DeliveryRecord.outbox, DeliveryRecord.withOutbox] using hcreated

end Sessionless.Delivery
