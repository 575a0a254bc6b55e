import Sessionless.Delivery.Refusal
import Sessionless.Store.Reference

/-!
# When a pass reaches every ready delivery

A claim that is refused ends the pass. Whether a claim is refused depends on its own delivery
and session alone, so the deliveries a pass reaches are the listed ones up to the first whose claim is
refused.
-/

namespace Sessionless.Delivery

open Lib Store Protocol

variable {record : DeliveryRecord} {now : Int}

/-! ## The deliveries a pass reaches -/

/-- The elements up to the first that fails a test, and that one. -/
def stopAfter {α : Type} (test : α → Bool) : List α → List α
  | [] => []
  | a :: rest => if test a then a :: stopAfter test rest else [a]

theorem stopAfter_append {α : Type} {test : α → Bool} {front back} :
    stopAfter test (front ++ back) =
      if front.all test then front ++ stopAfter test back else stopAfter test front := by
  induction front with
  | nil => simp
  | cons a rest ih =>
    simp only [List.cons_append, stopAfter, List.all_cons, ih]
    by_cases ha : test a = true
    · by_cases hrest : rest.all test = true <;> simp [ha, hrest]
    · simp [ha]

theorem stopAfter_eq_self {α : Type} {test : α → Bool} {l} (h : l.all test = true) : stopAfter test l = l := by
  have happend := @stopAfter_append α test l []
  rwa [List.append_nil, if_pos h, stopAfter, List.append_nil] at happend

theorem stopAfter_congr {α : Type} {test other : α → Bool} {l} (h : ∀ a ∈ l, test a = other a) :
    stopAfter test l = stopAfter other l := by
  induction l with
  | nil => rfl
  | cons a rest ih =>
    simp only [stopAfter, h a List.mem_cons_self, ih fun b hb => h b (List.mem_cons_of_mem _ hb)]

theorem forall_mem_stopAfter_iff {α β : Type} {test : α → Bool} {f : α → β} {l} (hnodup : (l.map f).Nodup) :
    (∀ a ∈ l, f a ∈ (stopAfter test l).map f) ↔ ∀ front a back, l = front ++ a :: back → back ≠ [] → test a = true := by
  induction l with
  | nil => simp [stopAfter]
  | cons a rest ih =>
    obtain ⟨hfresh, hrest⟩ := List.nodup_cons.1 hnodup
    by_cases ha : test a = true
    · simp only [stopAfter, ha, if_true, List.map_cons, List.mem_cons, forall_eq_or_imp, true_or, true_and]
      have hskip : (∀ b ∈ rest, f b = f a ∨ f b ∈ (stopAfter test rest).map f) ↔
          ∀ b ∈ rest, f b ∈ (stopAfter test rest).map f := by
        refine forall₂_congr fun b hb => or_iff_right ?_
        intro heq
        exact hfresh (List.mem_map.2 ⟨b, hb, heq⟩)
      rw [hskip, ih hrest]
      constructor
      · intro h front b back hsplit hback
        cases front with
        | nil =>
          obtain ⟨rfl, -⟩ := List.cons.inj hsplit
          exact ha
        | cons c front => exact h front b back (List.cons.inj hsplit).2 hback
      · intro h front b back hsplit hback
        exact h (a :: front) b back (by rw [hsplit]; rfl) hback
    · simp only [stopAfter, ha, Bool.false_eq_true, if_false, List.map_cons, List.map_nil, List.mem_singleton]
      constructor
      · intro h front b back hsplit hback
        exfalso
        cases rest with
        | nil =>
          cases front with
          | nil => exact hback (List.cons.inj hsplit).2.symm
          | cons c front => simp at hsplit
        | cons c rest =>
          have hc : f c = f a := h c (by simp)
          exact hfresh (by simp [hc])
      · intro h b hb
        cases rest with
        | nil => rw [List.mem_singleton.1 hb]
        | cons c rest => exact absurd (h [] a (c :: rest) rfl (by simp)) ha

section

variable [Crypto] {db db' : Database} {tenantID : TenantID} {id : TelegramDeliveryID} {config : SenderConfig}
  {sends : DeliveryRecord → Bool}

section

variable (hexact : Exact db) (hstored : db.outbox (tenantID, id) = some record) (hsending : record.status = .sending)
  (hstamp : record.updatedAt = now) (hrun : ∃ run, (db.tenants tenantID).runs record.runID = some run ∧
    (db.tenants tenantID).sessionDeletions run.sessionID = none ∧ record.ValidContent run)

include hexact hstored hsending hstamp hrun

theorem transition_touches {target retryAt} (htarget : target = .sent ∧ retryAt = none ∨ target = .failed ∧ retryAt = none ∨
      target = .retryWait ∧ ∃ next, retryAt = some next ∧ now < next) :
    ∃ db', db.transitionTelegramDelivery tenantID id target now retryAt = .ok db' ∧ Touches db tenantID id db' := by
  obtain ⟨htenant, hid⟩ := hexact.key tenantID id record hstored
  obtain ⟨row, hrow, hshape⟩ := outcome_of_claimed hsending hstamp (hexact.shaped tenantID id record hstored) htarget
  obtain ⟨db', hput⟩ := (put_moved_iff hexact hstored hshape).2 hrun
  have hne : record.status ≠ target := by
    obtain ⟨rfl, -⟩ | ⟨rfl, -⟩ | ⟨rfl, -⟩ := htarget <;> simp [hsending]
  refine ⟨db', ?_, ?_⟩
  · simp only [Database.transitionTelegramDelivery, hstored, hne, if_false]
    exact bind_eq_ok.2 ⟨_, DeliveryRecord.transition_eq_ok.2 ⟨row, hrow, rfl⟩, hput⟩
  · have htouches := put_touches hexact hput
    simpa only [DeliveryRecord.withOutbox, htenant, hid] using htouches

theorem recordOutcome_touches (hbase : 0 < config.baseBackoff) (hmax : 0 < config.maxBackoff) (sent : Bool) :
    ∃ db', db.recordOutcome config record now sent = .ok db' ∧ Touches db tenantID id db' := by
  obtain ⟨htenant, hid⟩ := hexact.key tenantID id record hstored
  unfold Database.recordOutcome
  rw [htenant, hid]
  split
  · exact transition_touches hexact hstored hsending hstamp hrun (.inl ⟨rfl, rfl⟩)
  · split
    · exact transition_touches hexact hstored hsending hstamp hrun (.inr (.inl ⟨rfl, rfl⟩))
    · have hlater : now < now + config.backoff record.attemptCount := by
        have := backoff_pos hbase hmax record.attemptCount
        omega
      exact transition_touches hexact hstored hsending hstamp hrun (.inr (.inr ⟨rfl, _, rfl, hlater⟩))

end

def ReadyRow.delivery (row : ReadyRow) : TenantID × TelegramDeliveryID := (row.tenantID, row.deliveryID)

def goesThrough (db : Database) (now : Int) (row : ReadyRow) : Bool :=
  (db.claimTelegramDelivery row.tenantID row.deliveryID now).isOk

/-- The delivery of a ready row has not ended, and the row lies in its bucket. -/
def Waits (db : Database) (row : ReadyRow) : Prop :=
  bucketV1 row.deliveryID = .ok row.bucket ∧ ∃ record, db.outbox row.delivery = some record ∧ record.status.terminal = false

theorem Exact.waits {row} (hexact : Exact db) (hmem : row ∈ db.ready) : Waits db row := by
  obtain ⟨record, bucket, hrecord, hopen, hbucket, hrow⟩ := (hexact.ready row).1 hmem
  refine ⟨?_, record, hrecord, hopen⟩
  rw [hrow]
  exact hbucket

theorem goesThrough_iff {row} (hexact : Exact db) (hnow : now ≠ 0) (hstored : db.outbox row.delivery = some record)
    (hopen : record.status.terminal = false) :
    goesThrough db now row = true ↔ Passes (db.tenants row.tenantID) record now := by
  rw [← claim_passes_iff hexact hstored hopen hnow, goesThrough]
  cases db.claimTelegramDelivery row.tenantID row.deliveryID now <;> simp [Except.isOk, Except.toBool]

structure Beyond (db : Database) (rows : List ReadyRow) (db' : Database) : Prop where
  exact : Exact db'
  tenants : db'.tenants = db.tenants
  outbox : ∀ key, key ∉ rows.map ReadyRow.delivery → db'.outbox key = db.outbox key
  ready : ∀ bucket, (∀ row ∈ rows, row.bucket ≠ bucket) →
    (db'.ready.filter (·.bucket = bucket)) = db.ready.filter (·.bucket = bucket)

theorem Beyond.refl (hexact : Exact db) : Beyond db [] db := ⟨hexact, rfl, fun _ _ => rfl, fun _ _ => rfl⟩

theorem Touches.beyond {row} (hwaits : Waits db row) (h : Touches db row.tenantID row.deliveryID db') :
    Beyond db [row] db' where
  exact := h.exact
  tenants := h.tenants
  outbox key hkey := h.outbox key (by simpa [ReadyRow.delivery] using hkey)
  ready bucket hbucket := by
    refine h.ready bucket ?_
    rw [hwaits.1]
    exact fun heq => hbucket row List.mem_cons_self (Except.ok.inj heq)

theorem Beyond.trans {rows rows' db''} (h : Beyond db rows db') (h' : Beyond db' rows' db'') :
    Beyond db (rows ++ rows') db'' where
  exact := h'.exact
  tenants := h'.tenants.trans h.tenants
  outbox := by
    intro key hkey
    rw [List.map_append, List.mem_append, not_or] at hkey
    exact (h'.outbox key hkey.2).trans (h.outbox key hkey.1)
  ready := by
    intro bucket hbucket
    simp only [List.mem_append] at hbucket
    exact (h'.ready bucket fun row hrow => hbucket row (.inr hrow)).trans
      (h.ready bucket fun row hrow => hbucket row (.inl hrow))

theorem Beyond.goesThrough_eq {rows row} (h : Beyond db rows db') (hexact : Exact db)
    (hnow : now ≠ 0) (hwaits : Waits db row) (hfresh : row.delivery ∉ rows.map ReadyRow.delivery) :
    Waits db' row ∧ goesThrough db' now row = goesThrough db now row := by
  obtain ⟨hbucket, record, hstored, hopen⟩ := hwaits
  have hkept : db'.outbox row.delivery = some record := (h.outbox _ hfresh).trans hstored
  refine ⟨⟨hbucket, record, hkept, hopen⟩, ?_⟩
  rw [Bool.eq_iff_iff, goesThrough_iff h.exact hnow hkept hopen, goesThrough_iff hexact hnow hstored hopen, h.tenants]

/-! ## One turn of the inner loop -/

theorem deliverOne_passes {p row} (hbase : 0 < config.baseBackoff) (hmax : 0 < config.maxBackoff)
    (hnow : now ≠ 0) (hfailure : p.failure = none) (hexact : Exact p.db) (hwaits : Waits p.db row)
    (hpasses : goesThrough p.db now row = true) :
    (deliverOne config now sends p row).failure = none ∧
      (deliverOne config now sends p row).called = p.called ++ [row.delivery] ∧
      Touches p.db row.tenantID row.deliveryID (deliverOne config now sends p row).db := by
  obtain ⟨-, record, hstored, hopen⟩ := hwaits
  cases hclaim : p.db.claimTelegramDelivery row.tenantID row.deliveryID now with
  | error e => simp [goesThrough, hclaim, Except.isOk, Except.toBool] at hpasses
  | ok result =>
    obtain ⟨answer, claimed, next⟩ := result
    obtain ⟨htouches, hheld⟩ := claim_touches hexact hstored hopen hnow hclaim
    cases claimed with
    | false =>
      simp only [deliverOne, hfailure, Option.isSome_none, Bool.false_eq_true, if_false, hclaim]
      exact ⟨trivial, rfl, htouches⟩
    | true =>
      obtain ⟨rfl, hnext, -, hrun⟩ := hheld rfl
      rw [← htouches.tenants] at hrun
      obtain ⟨run, hrow, hwritable, hcontent⟩ := hrun
      have hstamp : (record.withOutbox (record.claimedRow now)).updatedAt = now := rfl
      obtain ⟨last, hlast, htouches'⟩ := recordOutcome_touches htouches.exact hnext rfl hstamp
        ⟨run, hrow, hwritable, hcontent.withOutbox⟩ hbase hmax (sends (record.withOutbox (record.claimedRow now)))
      simp only [deliverOne, hfailure, Option.isSome_none, Bool.false_eq_true, if_false, hclaim, hlast]
      exact ⟨trivial, rfl, htouches.trans htouches'⟩

theorem deliverOne_refused {p row} (hfailure : p.failure = none) (hrefused : goesThrough p.db now row = false) :
    (deliverOne config now sends p row).failure.isSome = true ∧
      (deliverOne config now sends p row).called = p.called ++ [row.delivery] := by
  cases hclaim : p.db.claimTelegramDelivery row.tenantID row.deliveryID now with
  | error e =>
    simp only [deliverOne, hfailure, Option.isSome_none, Bool.false_eq_true, if_false, hclaim]
    exact ⟨rfl, rfl⟩
  | ok result => simp [goesThrough, hclaim, Except.isOk, Except.toBool] at hrefused

theorem foldl_deliverOne_failed {p : Progress} {rows : List ReadyRow} (hfailure : p.failure.isSome = true) :
    rows.foldl (deliverOne config now sends) p = p :=
  List.foldl_fixed' (fun row => by simp [deliverOne, hfailure]) rows

theorem foldl_deliverOne {rows : List ReadyRow} (hbase : 0 < config.baseBackoff) (hmax : 0 < config.maxBackoff)
    (hnow : now ≠ 0) {p : Progress} (hfailure : p.failure = none) (hexact : Exact p.db)
    (hwaits : ∀ row ∈ rows, Waits p.db row) (hnodup : (rows.map ReadyRow.delivery).Nodup) :
    (rows.foldl (deliverOne config now sends) p).called =
        p.called ++ (stopAfter (goesThrough p.db now) rows).map ReadyRow.delivery ∧
      if rows.all (goesThrough p.db now) then
        (rows.foldl (deliverOne config now sends) p).failure = none ∧
          Beyond p.db rows (rows.foldl (deliverOne config now sends) p).db
      else (rows.foldl (deliverOne config now sends) p).failure.isSome = true := by
  induction rows generalizing p with
  | nil => simpa [stopAfter, hfailure] using Beyond.refl hexact
  | cons row rows ih =>
    rw [List.map_cons, List.nodup_cons] at hnodup
    have hfirst := hwaits row List.mem_cons_self
    rw [List.foldl_cons]
    by_cases hpasses : goesThrough p.db now row = true
    · obtain ⟨hgood, hcalled, htouches⟩ : (deliverOne config now sends p row).failure = none ∧ _ ∧ _ :=
        deliverOne_passes hbase hmax hnow hfailure hexact hfirst hpasses
      have hframe : Beyond p.db [row] (deliverOne config now sends p row).db := htouches.beyond hfirst
      have hothers : ∀ other ∈ rows, Waits (deliverOne config now sends p row).db other ∧
          goesThrough (deliverOne config now sends p row).db now other = goesThrough p.db now other := by
        intro other hother
        refine hframe.goesThrough_eq hexact hnow (hwaits other (List.mem_cons_of_mem _ hother)) ?_
        simp only [List.map_cons, List.map_nil, List.mem_singleton]
        exact fun heq => hnodup.1 (List.mem_map.2 ⟨other, hother, heq⟩)
      obtain ⟨hreached, hend⟩ := ih hgood htouches.exact (fun other hother => (hothers other hother).1) hnodup.2
      have hall : rows.all (goesThrough (deliverOne config now sends p row).db now) = rows.all (goesThrough p.db now) := by
        rw [Bool.eq_iff_iff, List.all_eq_true, List.all_eq_true]
        exact forall₂_congr fun other hother => by rw [(hothers other hother).2]
      rw [hall] at hend
      refine ⟨?_, ?_⟩
      · rw [hreached, hcalled, stopAfter_congr fun other hother => (hothers other hother).2]
        simp [stopAfter, hpasses]
      · simp only [List.all_cons, hpasses, Bool.true_and]
        split
        · rename_i hrows
          rw [if_pos hrows] at hend
          exact ⟨hend.1, hframe.trans hend.2⟩
        · rename_i hrows
          rwa [if_neg hrows] at hend
    · have hrefused : goesThrough p.db now row = false := by simpa using hpasses
      obtain ⟨hfailed, hcalled⟩ : (deliverOne config now sends p row).failure.isSome = true ∧ _ :=
        deliverOne_refused hfailure hrefused
      rw [foldl_deliverOne_failed hfailed]
      simp [stopAfter, hrefused, hcalled, hfailed]

/-! ## The buckets -/

/-- The deliveries that the listings of some buckets return. -/
def Database.listed (db : Database) (now : Int) (limit : Nat) (buckets : List Nat) : List ReadyRow :=
  buckets.flatMap fun bucket => (db.dueRows bucket now).take limit

omit [Crypto] in
theorem dueRows_eq {bucket} : db.dueRows bucket now =
    ((db.ready.filter (·.bucket = bucket)).filter (·.availableAt ≤ timestamp now)).insertionSort ReadyRow.notAfter := by
  rw [Database.dueRows, List.filter_filter]
  congr 1
  refine List.filter_congr fun row _ => ?_
  simp only [Bool.decide_and, Bool.and_comm]

omit [Crypto] in
theorem mem_dueRows {bucket limit row} (h : row ∈ (db.dueRows bucket now).take limit) :
    row ∈ db.ready ∧ row.bucket = bucket := by
  have hsorted := List.mem_of_mem_take h
  rw [Database.dueRows, List.mem_insertionSort, List.mem_filter, decide_eq_true_eq] at hsorted
  exact ⟨hsorted.1, hsorted.2.1⟩

theorem Exact.delivery_inj {row other} (hexact : Exact db) (hrow : row ∈ db.ready) (hother : other ∈ db.ready)
    (heq : row.delivery = other.delivery) : row = other := by
  obtain ⟨record, bucket, hrecord, -, hbucket, hrow⟩ := (hexact.ready row).1 hrow
  obtain ⟨record', bucket', hrecord', -, hbucket', hother⟩ := (hexact.ready other).1 hother
  obtain rfl := Option.some.inj (hrecord.symm.trans ((congrArg db.outbox heq).trans hrecord'))
  obtain rfl := Except.ok.inj (hbucket.symm.trans hbucket')
  rw [hrow, hother]

theorem Exact.nodup_listed {limit buckets} (hexact : Exact db) (hnodup : buckets.Nodup) :
    ((db.listed now limit buckets).map ReadyRow.delivery).Nodup := by
  have hready : ∀ row ∈ db.listed now limit buckets, row ∈ db.ready := by
    intro row hrow
    obtain ⟨bucket, -, hmem⟩ := List.mem_flatMap.1 hrow
    exact (mem_dueRows hmem).1
  refine List.Nodup.map_on (fun row hrow other hother => hexact.delivery_inj (hready row hrow) (hready other hother)) ?_
  refine List.nodup_flatMap.2 ⟨?_, ?_⟩
  · intro bucket _
    refine List.Nodup.sublist (List.take_sublist _ _) ?_
    rw [Database.dueRows, (List.perm_insertionSort _ _).nodup_iff]
    exact hexact.once.filter _
  · refine hnodup.imp ?_
    intro bucket bucket' hne row hrow hrow'
    exact hne ((mem_dueRows hrow).2.symm.trans (mem_dueRows hrow').2)

theorem foldl_deliverBucket_failed {limit} {p : Progress} {buckets : List Nat} (hfailure : p.failure.isSome = true) :
    buckets.foldl (deliverBucket config now sends limit) p = p :=
  List.foldl_fixed' (fun bucket => by simp [deliverBucket, hfailure]) buckets

/-- The loop over the buckets calls the claims of everything listed, up to the first that is refused. `done` are the
deliveries it has worked on so far. -/
theorem foldl_deliverBucket {limit} {buckets : List Nat} (hbase : 0 < config.baseBackoff)
    (hmax : 0 < config.maxBackoff) (hnow : now ≠ 0) (hlimit : limit ≠ 0) (hexact : Exact db) (hnodup : buckets.Nodup)
    (hrange : ∀ bucket ∈ buckets, bucket < bucketCountV1) {p : Progress} (hfailure : p.failure = none)
    {done} (hdone : Beyond db done p.db) (hworked : ∀ row ∈ done, row ∈ db.ready ∧ row.bucket ∉ buckets) :
    (buckets.foldl (deliverBucket config now sends limit) p).called =
      p.called ++ (stopAfter (goesThrough db now) (db.listed now limit buckets)).map ReadyRow.delivery := by
  induction buckets generalizing p done with
  | nil => simp [Database.listed, stopAfter]
  | cons bucket buckets ih =>
    rw [List.nodup_cons] at hnodup
    let rows := (db.dueRows bucket now).take limit
    have hlist : p.db.listReadyTelegramDeliveries bucket now limit = .ok rows := by
      have hsame := hdone.ready bucket fun row hrow heq => (hworked row hrow).2 (heq ▸ List.mem_cons_self)
      have hbucket := hrange bucket List.mem_cons_self
      simp [Database.listReadyTelegramDeliveries, Nat.not_le.2 hbucket, hnow, hlimit, rows, dueRows_eq, hsame]
    have hstep : deliverBucket config now sends limit p bucket = rows.foldl (deliverOne config now sends) p := by
      simp [deliverBucket, hfailure, hlist]
    have hfresh : ∀ row ∈ rows, Waits p.db row ∧ goesThrough p.db now row = goesThrough db now row := by
      intro row hrow
      obtain ⟨hready, hbucket⟩ := mem_dueRows hrow
      refine hdone.goesThrough_eq hexact hnow (hexact.waits hready) ?_
      intro hmem
      obtain ⟨other, hother, heq⟩ := List.mem_map.1 hmem
      obtain ⟨hready', hbucket'⟩ := hworked other hother
      rw [hexact.delivery_inj hready' hready heq, hbucket] at hbucket'
      exact hbucket' List.mem_cons_self
    have hkeys : (rows.map ReadyRow.delivery).Nodup := by
      have h : ((db.listed now limit [bucket]).map ReadyRow.delivery).Nodup :=
        hexact.nodup_listed (List.nodup_singleton bucket)
      simpa only [Database.listed, List.flatMap_cons, List.flatMap_nil, List.append_nil] using h
    obtain ⟨hcalled, hend⟩ : (rows.foldl (deliverOne config now sends) p).called = _ ∧ _ :=
      foldl_deliverOne hbase hmax hnow hfailure hdone.exact (fun row hrow => (hfresh row hrow).1) hkeys
    rw [stopAfter_congr fun row hrow => (hfresh row hrow).2] at hcalled
    have hall : rows.all (goesThrough p.db now) = rows.all (goesThrough db now) := by
      rw [Bool.eq_iff_iff, List.all_eq_true, List.all_eq_true]
      exact forall₂_congr fun row hrow => by rw [(hfresh row hrow).2]
    have hsplit : db.listed now limit (bucket :: buckets) = rows ++ db.listed now limit buckets := rfl
    rw [hall] at hend
    rw [List.foldl_cons, hstep, hsplit, stopAfter_append]
    by_cases hpass : rows.all (goesThrough db now) = true
    · rw [if_pos hpass] at hend ⊢
      have hworked' : ∀ row ∈ done ++ rows, row ∈ db.ready ∧ row.bucket ∉ buckets := by
        intro row hrow
        rcases List.mem_append.1 hrow with hrow | hrow
        · obtain ⟨hready, hbucket⟩ := hworked row hrow
          exact ⟨hready, fun hmem => hbucket (List.mem_cons_of_mem _ hmem)⟩
        · obtain ⟨hready, hbucket⟩ := mem_dueRows hrow
          exact ⟨hready, hbucket ▸ hnodup.1⟩
      have hrest := ih hnodup.2 (fun other hother => hrange other (List.mem_cons_of_mem _ hother)) hend.1
        (hdone.trans hend.2) hworked'
      rw [hrest, hcalled, stopAfter_eq_self hpass, List.map_append, List.append_assoc]
    · rw [if_neg hpass] at hend ⊢
      rw [foldl_deliverBucket_failed hend, hcalled]

end

/-! ## Two sessions -/

namespace Sample

/-- A user with two sessions, each with a run that has ended. -/
def account : State :=
  { State.empty "tenant" with
    memberships := Table.upsert (fun _ => none) "user" Store.Reference.member
    sessions := Table.upsert (Table.upsert (fun _ => none) "first" (Store.Reference.session "first" 1))
      "second" (Store.Reference.session "second" 1)
    sessionParticipants := Table.upsert (Table.upsert (fun _ => none) ("first", "user") (Store.Reference.owner "first" 1))
      ("second", "user") (Store.Reference.owner "second" 1)
    runs := Table.upsert (Table.upsert (fun _ => none) "run" { Sample.run with sessionID := "first" })
      "later" { Sample.run with id := "later", sessionID := "second" }
    runsBySession := fun sessionID => if sessionID = "first" then ["run"] else if sessionID = "second" then ["later"] else [] }

/-- The user asks for the deletion of the first session. -/
def deletion : SessionDeletion :=
  { tenantID := "tenant", sessionID := "first", requestedBy := "user", reason := "request", state := .requested
    requestedAt := minute, startedAt := none, completedAt := none, deletedObjects := 0, deletedBytes := 0 }

def closing : State := { account with sessionDeletions := Table.upsert (fun _ => none) "first" deletion }

def second : DeliveryRecord := { delivery with id := "second", runID := "later" }

def tenantsLike (s : State) : TenantID → State := fun tenantID => { s with tenantID := tenantID }

/-- Both replies have been put. -/
def replies : Except StoreError Database := do
  let db ← (Database.empty (tenantsLike account) fun _ => rfl).putTelegramDeliveryOutbox "tenant" delivery
  db.putTelegramDeliveryOutbox "tenant" second

/-- The same database after the tables of the tenants changed. -/
def withTenants (db : Database) (s : State) : Database := { db with tenants := tenantsLike s, tenants_id := fun _ => rfl }

theorem deletion_requested : requestSessionDeletion account deletion = .ok (deletion, closing) := rfl

theorem reached {db} (s : State) (h : replies = .ok db) :
    Relation.ReflTransGen Commits (.empty (tenantsLike account) fun _ => rfl) (withTenants db s) := by
  simp only [replies, bind_eq_ok] at h
  obtain ⟨middle, hfirst, hsecond⟩ := h
  have helsewhere : Commits db (withTenants db s) := .elsewhere ⟨rfl, rfl, rfl⟩
  exact ((Relation.ReflTransGen.single (.put _ _ hfirst)).tail (.put _ _ hsecond)).tail helsewhere

end Sample

end Sessionless.Delivery
