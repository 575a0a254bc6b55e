import Mathlib.Logic.Relation
import Sessionless.Delivery.Exclusive

/-!
# Whose outcome decides a delivery

A pass starts with any instant. The callback of a claim is run again when its commit is aborted (`retry.DoTx`), and
keeps what an aborted run assigned to `result` and `claimed`. A row carries no claim token: its `UpdatedAt`, which
grows strictly from claim to claim, holds the outcomes of older claimants back.
-/

namespace Sessionless.Delivery

open Lib Store

/-! ## Claims that run more than once -/

/-- `result` and `claimed` after one more run of the callback. -/
def ClaimAnswer.over (answer left : ClaimAnswer) : ClaimAnswer :=
  ⟨answer.delivery <|> left.delivery, answer.claimed || left.claimed⟩

/-- A claim in progress: whose commit was aborted, and what its runs have assigned so far. -/
structure ClaimCall where
  delivery : TelegramDeliveryID
  answer : ClaimAnswer
deriving DecidableEq, Repr

structure Fleet where
  deliveries : Deliveries
  passes : Table SenderID Pass
  calls : Table SenderID ClaimCall
  /-- The senders that were told that they hold a delivery, the latest first. -/
  claims : TelegramDeliveryID → List SenderID

def Fleet.left (s : Fleet) (sender : SenderID) : ClaimAnswer := ((s.calls sender).map (·.answer)).getD ⟨none, false⟩

inductive Turn (config : SenderConfig) : Fleet → Event → Fleet → Prop where
  | created {s : Fleet} {delivery : TelegramDeliveryOutbox} {deliveries : Deliveries}
      (habsent : s.deliveries delivery.id = none) (hpending : delivery.status = .pending)
      (hcount : delivery.attemptCount = 0) (h : putTelegramDeliveryOutbox s.deliveries delivery = .ok deliveries) :
      Turn config s .quiet { s with deliveries := deliveries }
  | started {s : Fleet} (sender : SenderID) (now : Int) :
      Turn config s .quiet { s with passes := s.passes.upsert sender ⟨now, none⟩, calls := s.calls.delete sender }
  | stopped {s : Fleet} (sender : SenderID) :
      Turn config s .quiet { s with passes := s.passes.delete sender, calls := s.calls.delete sender }
  /-- The callback of a claim runs to its end and the commit is aborted. -/
  | aborted {s : Fleet} {sender : SenderID} {pass : Pass} {id : TelegramDeliveryID} {terminalCode : Option String}
      {answer : ClaimAnswer} {deliveries : Deliveries} (hpass : s.passes sender = some pass)
      (hidle : pass.sending = none) (hcall : ∀ call ∈ s.calls sender, call.delivery = id)
      (h : claimTelegramDelivery s.deliveries id pass.now terminalCode = .ok (answer, deliveries)) :
      Turn config s .quiet { s with calls := s.calls.upsert sender ⟨id, answer.over (s.left sender)⟩ }
  | claimed {s : Fleet} {sender : SenderID} {pass : Pass} {id : TelegramDeliveryID} {terminalCode : Option String}
      {answer : ClaimAnswer} {delivery : TelegramDeliveryOutbox} {deliveries : Deliveries}
      (hpass : s.passes sender = some pass) (hidle : pass.sending = none)
      (hcall : ∀ call ∈ s.calls sender, call.delivery = id)
      (h : claimTelegramDelivery s.deliveries id pass.now terminalCode = .ok (answer, deliveries))
      (hclaimed : answer.over (s.left sender) = ⟨some delivery, true⟩) :
      Turn config s (.claimed sender id)
        { deliveries := deliveries
          passes := s.passes.upsert sender { pass with sending := some delivery }
          calls := s.calls.delete sender
          claims := Function.update s.claims id (sender :: s.claims id) }
  | passedOver {s : Fleet} {sender : SenderID} {pass : Pass} {id : TelegramDeliveryID} {terminalCode : Option String}
      {answer : ClaimAnswer} {deliveries : Deliveries} (hpass : s.passes sender = some pass)
      (hidle : pass.sending = none) (hcall : ∀ call ∈ s.calls sender, call.delivery = id)
      (h : claimTelegramDelivery s.deliveries id pass.now terminalCode = .ok (answer, deliveries))
      (hclaimed : (answer.over (s.left sender)).claimed = false) :
      Turn config s .quiet { s with deliveries := deliveries, calls := s.calls.delete sender }
  /-- A claim returns an error, of the callback or of the database. -/
  | refused {s : Fleet} (sender : SenderID) : Turn config s .quiet { s with calls := s.calls.delete sender }
  | recorded {s : Fleet} {sender : SenderID} {pass : Pass} {delivery : TelegramDeliveryOutbox} {sent : Bool}
      {retryAt : Option Int} {deliveries : Deliveries} (hpass : s.passes sender = some pass)
      (hsending : pass.sending = some delivery)
      (h : send config s.deliveries delivery pass.now sent = .ok (retryAt, deliveries)) :
      Turn config s (.recorded sender delivery.id)
        { s with deliveries := deliveries, passes := s.passes.upsert sender { pass with sending := none } }
  | unrecorded {s : Fleet} {sender : SenderID} {pass : Pass} (hpass : s.passes sender = some pass) :
      Turn config s .quiet { s with passes := s.passes.upsert sender { pass with sending := none } }

def Fleet.idle : Fleet :=
  { deliveries := fun _ => none, passes := fun _ => none, calls := fun _ => none, claims := fun _ => [] }

/-- A claim that succeeds had not succeeded in an earlier, aborted run, and the attempt counter has room for it. -/
def Fleet.Unraced (s : Fleet) : Event → Prop
  | .claimed sender id => (s.left sender).claimed = false ∧ ∀ row ∈ s.deliveries id, row.attemptCount.toNat + 1 < 4294967296
  | _ => True

def Move (config : SenderConfig) (s s' : Fleet) : Prop := ∃ event, Turn config s event s' ∧ s.Unraced event

variable {config : SenderConfig} {s s' : Fleet} {event : Event} {deliveries deliveries' : Deliveries}
  {id : TelegramDeliveryID} {instant : Int} {code : Option String} {sender : SenderID}

/-! ## What holds of every fleet reached -/

namespace Fleet

/-- Who a pass with a delivery in hand is: the latest claimant of a row that is still being sent, a sender whose
delivery was cancelled, or one whose claim lies before the row's stamp. -/
def Holds (s : Fleet) (sender : SenderID) (pass : Pass) (row : TelegramDeliveryOutbox) : Prop :=
  row.status = .sending ∧ row.updatedAt = pass.now ∧ (s.claims row.id).head? = some sender ∨ row.status = .cancelled ∨
    row.status ≠ .pending ∧ pass.now < row.updatedAt

structure Inv (s : Fleet) : Prop where
  key : ∀ id row, s.deliveries id = some row → row.id = id
  valid : ∀ id row, s.deliveries id = some row → row.validateForRun = .ok ()
  retry : ∀ id row, s.deliveries id = some row → ∀ next ∈ row.nextAttemptAt, row.updatedAt < next
  unknown : ∀ id, s.deliveries id = none → s.claims id = []
  count : ∀ id row, s.deliveries id = some row → row.attemptCount.toNat = (s.claims id).length
  held : ∀ sender pass delivery, s.passes sender = some pass → pass.sending = some delivery →
    ∃ row, s.deliveries delivery.id = some row ∧ s.Holds sender pass row

theorem idle_inv : idle.Inv := by
  constructor <;> simp [idle]

theorem Inv.passes {pass} (h : s.Inv) (hidle : pass.sending = none) (calls : Table SenderID ClaimCall) :
    { s with passes := s.passes.upsert sender pass, calls := calls }.Inv :=
  { h with
    held := by
      intro other stored delivery hstored hsending
      obtain ⟨-, rfl⟩ | ⟨-, hold⟩ := Table.of_upsert hstored
      · simp [hidle] at hsending
      · exact h.held other stored delivery hold hsending }

/-- One row is written, and the passes that hold another delivery were there before. -/
theorem Inv.write {delivery passes calls claims} (h : s.Inv) (hvalid : delivery.validateForRun = .ok ())
    (hretry : ∀ next ∈ delivery.nextAttemptAt, delivery.updatedAt < next)
    (hclaims : ∀ other, other ≠ delivery.id → claims other = s.claims other)
    (hcount : delivery.attemptCount.toNat = (claims delivery.id).length)
    (hheld : ∀ sender pass sending, passes sender = some pass → pass.sending = some sending →
      (sending.id = delivery.id → Holds { s with claims := claims } sender pass delivery) ∧
        (sending.id ≠ delivery.id → s.passes sender = some pass)) :
    Inv ⟨s.deliveries.upsert delivery.id delivery, passes, calls, claims⟩ where
  key := Table.forall_upsert h.key rfl
  valid := Table.forall_upsert h.valid hvalid
  retry := Table.forall_upsert h.retry hretry
  unknown := by
    intro other hnone
    by_cases heq : other = delivery.id
    · simp [heq] at hnone
    · simp only [hclaims other heq]
      exact h.unknown other (by simpa [Table.upsert_of_ne heq] using hnone)
  count := by
    intro other stored hstored
    obtain ⟨rfl, rfl⟩ | ⟨hne, hold⟩ := Table.of_upsert hstored
    · exact hcount
    · simp only [hclaims other hne]
      exact h.count other stored hold
  held := by
    intro sender pass sending hpass hsending
    obtain ⟨hsame, hother⟩ := hheld sender pass sending hpass hsending
    by_cases heq : sending.id = delivery.id
    · exact ⟨delivery, by simp [heq], hsame heq⟩
    · obtain ⟨stored, hstored, hholds⟩ := h.held sender pass sending (hother heq) hsending
      refine ⟨stored, by simpa [Table.upsert_of_ne heq] using hstored, ?_⟩
      rw [← h.key _ _ hstored] at heq
      simpa only [Holds, hclaims _ heq] using hholds

theorem Inv.moved {row moved} (h : s.Inv) (hrow : s.deliveries id = some row)
    (hmoved : Moved s.deliveries row moved deliveries') (hattempt : moved.attemptCount = row.attemptCount)
    (hheld : ∀ sender pass delivery, s.passes sender = some pass → pass.sending = some delivery → delivery.id = id →
      s.Holds sender pass moved) : { s with deliveries := deliveries' }.Inv := by
  obtain rfl := h.key id row hrow
  obtain ⟨hid, -, -, hretry, hvalid, rfl⟩ := hmoved
  rw [← hid] at hrow hheld ⊢
  refine h.write hvalid hretry (fun _ _ => rfl) (by rw [hattempt]; exact h.count _ row hrow) ?_
  intro sender pass sending hpass hsending
  exact ⟨hheld sender pass sending hpass hsending, fun _ => hpass⟩

theorem Inv.cancelled {row} (h : s.Inv) (hrow : s.deliveries id = some row)
    (hcancelled : Cancelled s.deliveries row deliveries') : { s with deliveries := deliveries' }.Inv := by
  obtain ⟨-, moved, hid, hstatus, hupdated, hattempt, hvalid, hdeliveries⟩ := hcancelled
  have hnext := TelegramDeliveryOutbox.validateForRun_next hvalid (by simp [hstatus])
  have hmoved : Moved s.deliveries row moved deliveries' :=
    ⟨hid, by simp [hstatus], hupdated, by simp [hnext], hvalid, hdeliveries⟩
  exact h.moved hrow hmoved hattempt fun _ _ _ _ _ _ => .inr (.inl hstatus)

theorem Inv.claim_after {row delivery other pass} (h : s.Inv)
    (hrow : s.deliveries id = some row) (hclaimable : Claimable row instant) (hpass : s.passes other = some pass)
    (hsending : pass.sending = some delivery) (hid : delivery.id = id) : pass.now < instant := by
  obtain ⟨stored, hstored, hholds⟩ := h.held other pass delivery hpass hsending
  rw [hid] at hstored
  obtain rfl := Option.some.inj (hstored.symm.trans hrow)
  have hstamp : pass.now ≤ stored.updatedAt ∧ stored.status ≠ .pending := by
    obtain ⟨hstatus, hnow, -⟩ | hstatus | ⟨hstatus, hnow⟩ := hholds
    · exact ⟨Int.le_of_eq hnow.symm, by simp [hstatus]⟩
    · obtain ⟨hwaiting | hwaiting, -⟩ | ⟨hwaiting, -⟩ := hclaimable <;> simp [hstatus] at hwaiting
    · exact ⟨Int.le_of_lt hnow, hstatus⟩
  have hlater := hclaimable.after (h.valid id stored hstored) (h.retry id stored hstored) hstamp.2
  omega

theorem Inv.claimed {row delivery : TelegramDeliveryOutbox} {pass : Pass} {calls} (h : s.Inv)
    (hrow : s.deliveries id = some row) (htaken : Taken s.deliveries row pass.now delivery deliveries')
    (hcount : row.attemptCount.toNat + 1 < 4294967296) :
    Inv { deliveries := deliveries'
          passes := s.passes.upsert sender { pass with sending := some delivery }
          calls := calls
          claims := Function.update s.claims id (sender :: s.claims id) } := by
  obtain rfl := h.key id row hrow
  have hnext := TelegramDeliveryOutbox.validateForRun_next htaken.valid (by simp [htaken.status])
  obtain rfl := htaken.deliveries
  rw [← htaken.id]
  refine h.write htaken.valid (by simp [hnext]) (fun _ hne => Function.update_of_ne hne ..) ?_ ?_
  · rw [Function.update_self, List.length_cons, htaken.attempt, htaken.id, ← h.count row.id row hrow, UInt32.toNat_add]
    exact Nat.mod_eq_of_lt hcount
  · intro other stored sending hstored hsending
    obtain ⟨rfl, rfl⟩ | ⟨hne, hold⟩ := Table.of_upsert hstored
    · cases hsending
      exact ⟨fun _ => .inl ⟨htaken.status, htaken.updated, by simp⟩, fun hne => absurd rfl hne⟩
    · refine ⟨fun heq => .inr (.inr ⟨by simp [htaken.status], ?_⟩), fun _ => hold⟩
      rw [htaken.updated]
      exact h.claim_after hrow htaken.claimable hold hsending (heq.trans htaken.id)

theorem Inv.settled_latest {pass row moved delivery} (h : s.Inv)
    (hpass : s.passes sender = some pass) (hsending : pass.sending = some delivery)
    (hrow : s.deliveries delivery.id = some row) (hsettled : Settled row moved pass.now) :
    row.status = .sending ∧ row.updatedAt = pass.now ∧ (s.claims delivery.id).head? = some sender := by
  obtain ⟨stored, hstored, hholds⟩ := h.held sender pass delivery hpass hsending
  obtain rfl := Option.some.inj (hstored.symm.trans hrow)
  obtain ⟨hstatus, hnow, hlatest⟩ | hstatus | ⟨-, hlate⟩ := hholds
  · rw [h.key _ _ hstored] at hlatest
    exact ⟨hstatus, hnow, hlatest⟩
  · have hopen := hsettled.unsettled
    simp [hstatus, DeliveryStatus.terminal] at hopen
  · have hreached := hsettled.reached
    omega

theorem Inv.recorded {pass delivery sent retryAt} (h : s.Inv)
    (hpass : s.passes sender = some pass) (hsending : pass.sending = some delivery)
    (hsend : send config s.deliveries delivery pass.now sent = .ok (retryAt, deliveries')) :
    { s with deliveries := deliveries', passes := s.passes.upsert sender { pass with sending := none } }.Inv := by
  have hreleased : Inv { s with passes := s.passes.upsert sender { pass with sending := none } } := h.passes rfl s.calls
  obtain ⟨row, hrow, rfl | ⟨moved, hsettled, rfl⟩⟩ := send_settled hsend
  · exact hreleased
  obtain ⟨-, hstamp, hlatest⟩ := h.settled_latest hpass hsending hrow hsettled
  refine hreleased.moved hrow hsettled.moved hsettled.attempt ?_
  intro other stored sending hstored hother hid
  obtain ⟨-, rfl⟩ | ⟨hne, hold⟩ := Table.of_upsert hstored
  · simp at hother
  · -- the others claimed before, so the stamp stays ahead of them
    obtain ⟨kept, hkept, hholds⟩ := h.held other stored sending hold hother
    rw [hid] at hkept
    obtain rfl := Option.some.inj (hkept.symm.trans hrow)
    obtain ⟨-, -, hhead⟩ | hcancelled | ⟨-, hlate⟩ := hholds
    · rw [h.key _ _ hrow, hlatest] at hhead
      exact absurd (Option.some.inj hhead).symm hne
    · have hopen := hsettled.unsettled
      simp [hcancelled, DeliveryStatus.terminal] at hopen
    · refine .inr (.inr ⟨?_, ?_⟩)
      · obtain hstatus | hstatus | hstatus := hsettled.status <;> simp [hstatus]
      · rw [hsettled.updated, ← hstamp]
        exact hlate

theorem taken_of_unraced {answer delivery} (hleft : (s.left sender).claimed = false)
    (hclaim : claimTelegramDelivery s.deliveries id instant code = .ok (answer, deliveries'))
    (hclaimed : answer.over (s.left sender) = ⟨some delivery, true⟩) :
    ∃ row, s.deliveries id = some row ∧ Taken s.deliveries row instant delivery deliveries' := by
  simp only [ClaimAnswer.over, hleft, Bool.or_false, ClaimAnswer.mk.injEq] at hclaimed
  obtain ⟨hdelivery, hyes⟩ := hclaimed
  obtain ⟨hno, -⟩ | ⟨row, hrow, ⟨hno, -⟩ | ⟨taken, rfl, htaken⟩⟩ := claim_ok hclaim
  · simp [hyes] at hno
  · simp [hyes] at hno
  · simp only [Option.orElse_eq_orElse, Option.orElse_some] at hdelivery
    cases hdelivery
    exact ⟨row, hrow, htaken⟩

theorem Inv.created {delivery} (h : s.Inv) (habsent : s.deliveries delivery.id = none)
    (hpending : delivery.status = .pending) (hcount : delivery.attemptCount = 0)
    (hput : putTelegramDeliveryOutbox s.deliveries delivery = .ok deliveries') : { s with deliveries := deliveries' }.Inv := by
  obtain ⟨hvalid, rfl⟩ := putTelegramDeliveryOutbox_ok.1 hput
  have hnext := TelegramDeliveryOutbox.validateForRun_next hvalid (by simp [hpending])
  refine h.write hvalid (by simp [hnext]) (fun _ _ => rfl) (by simp [hcount, h.unknown _ habsent]) ?_
  intro sender pass sending hpass hsending
  refine ⟨fun heq => ?_, fun _ => hpass⟩
  obtain ⟨row, hrow, -⟩ := h.held sender pass sending hpass hsending
  simp [heq, habsent] at hrow

theorem Inv.turn (h : s.Inv) (hturn : Turn config s event s') (hunraced : s.Unraced event) : s'.Inv := by
  cases hturn with
  | created habsent hpending hcount hput => exact h.created habsent hpending hcount hput
  | started sender now => exact h.passes rfl _
  | stopped sender =>
    exact { h with held := fun other pass delivery hpass => h.held other pass delivery (Table.of_delete hpass).2 }
  | aborted => exact { h with }
  | @claimed sender pass id code answer delivery deliveries hpass hidle hcall hclaim hclaimed =>
    obtain ⟨hleft, hcount⟩ := hunraced
    obtain ⟨row, hrow, htaken⟩ := taken_of_unraced hleft hclaim hclaimed
    exact h.claimed hrow htaken (hcount row hrow)
  | passedOver hpass hidle hcall hclaim hclaimed =>
    obtain ⟨-, rfl⟩ | ⟨row, hrow, ⟨-, hcancelled⟩ | ⟨taken, rfl, -⟩⟩ := claim_ok hclaim
    · exact { h with }
    · exact { h.cancelled hrow hcancelled with }
    · simp [ClaimAnswer.over] at hclaimed
  | refused sender => exact { h with }
  | recorded hpass hsending hsend => exact h.recorded hpass hsending hsend
  | unrecorded hpass => exact h.passes rfl _

theorem inv_of_run (hrun : Relation.ReflTransGen (Move config) idle s) : s.Inv := by
  induction hrun with
  | refl => exact idle_inv
  | tail _ hmove ih =>
    obtain ⟨event, hturn, hunraced⟩ := hmove
    exact ih.turn hturn hunraced

/-! ## The latest claimant -/

/-- What one turn may do to the rows: a delivery leaves `Sending` with an outcome only by the outcome of its latest
claimant, any other claimant's outcome changes nothing, and terminal rows stay as they are. -/
structure Decided (s : Fleet) (event : Event) (s' : Fleet) : Prop where
  latest : ∀ id row moved, s.deliveries id = some row → row.status = .sending → s'.deliveries id = some moved →
    (moved.status = .sent ∨ moved.status = .retryWait ∨ moved.status = .failed) →
    ∃ sender, event = .recorded sender id ∧ (s.claims id).head? = some sender
  older : ∀ sender id, event = .recorded sender id → (s.claims id).head? ≠ some sender → s'.deliveries = s.deliveries
  terminal : ∀ id row, s.deliveries id = some row → row.status.terminal = true → s'.deliveries id = some row

/-- A turn that writes one row which is not terminal: only the latest claimant may report an outcome. -/
theorem Decided.of_write {moved} (hdeliveries : s'.deliveries = s.deliveries.upsert id moved)
    (hopen : ∀ row, s.deliveries id = some row → row.status.terminal = false)
    (houtcome : moved.status = .sent ∨ moved.status = .retryWait ∨ moved.status = .failed →
      ∃ sender, event = .recorded sender id ∧ (s.claims id).head? = some sender)
    (hevent : ∀ sender other, event = .recorded sender other → (s.claims other).head? = some sender) :
    s.Decided event s' where
  latest := by
    intro other old stored hold hsending hstored hmoved
    rw [hdeliveries] at hstored
    obtain ⟨rfl, rfl⟩ | ⟨-, hkept⟩ := Table.of_upsert hstored
    · exact houtcome hmoved
    · obtain rfl := Option.some.inj (hkept.symm.trans hold)
      simp [hsending] at hmoved
  older := fun sender other heq hother => absurd (hevent sender other heq) hother
  terminal := by
    intro other old hold hterminal
    rw [hdeliveries, Table.upsert_of_ne]
    · exact hold
    · rintro rfl
      simp [hopen old hold] at hterminal

theorem Decided.of_same (hdeliveries : s'.deliveries = s.deliveries) : s.Decided event s' where
  latest := by
    intro id row moved hrow hsending hmoved houtcome
    rw [hdeliveries] at hmoved
    obtain rfl := Option.some.inj (hmoved.symm.trans hrow)
    simp [hsending] at houtcome
  older := fun _ _ _ _ => hdeliveries
  terminal := fun _ _ hrow _ => by rw [hdeliveries]; exact hrow

theorem Inv.decided (h : s.Inv) (hturn : Turn config s event s') (hunraced : s.Unraced event) : s.Decided event s' := by
  cases hturn with
  | @created delivery deliveries habsent hpending hcount hput =>
    obtain ⟨-, rfl⟩ := putTelegramDeliveryOutbox_ok.1 hput
    exact .of_write rfl (by simp [habsent]) (by simp [hpending]) (by simp)
  | started sender now | stopped sender | aborted => exact .of_same rfl
  | @claimed sender pass id code answer delivery deliveries hpass hidle hcall hclaim hclaimed =>
    obtain ⟨row, hrow, htaken⟩ := taken_of_unraced hunraced.1 hclaim hclaimed
    have hopen : row.status.terminal = false := by
      obtain ⟨hstatus | hstatus, -⟩ | ⟨hstatus, -⟩ := htaken.claimable <;> simp [hstatus, DeliveryStatus.terminal]
    have hkey := h.key id row hrow
    exact .of_write (hkey ▸ htaken.deliveries) (by simpa [hrow] using hopen) (by simp [htaken.status]) (by simp)
  | @passedOver sender pass id code answer deliveries hpass hidle hcall hclaim hclaimed =>
    obtain ⟨-, rfl⟩ | ⟨row, hrow, ⟨-, hcancelled⟩ | ⟨taken, rfl, -⟩⟩ := claim_ok hclaim
    · exact .of_same rfl
    · obtain ⟨hopen, moved, -, hstatus, -, -, -, hdeliveries⟩ := hcancelled
      have hkey := h.key id row hrow
      exact .of_write (hkey ▸ hdeliveries) (by simpa [hrow] using hopen) (by simp [hstatus]) (by simp)
    · simp [ClaimAnswer.over] at hclaimed
  | refused sender => exact .of_same rfl
  | @recorded sender pass delivery sent retryAt deliveries hpass hsending hsend =>
    obtain ⟨row, hrow, rfl | ⟨moved, hsettled, rfl⟩⟩ := send_settled hsend
    · exact .of_same rfl
    obtain ⟨-, -, hlatest⟩ := h.settled_latest hpass hsending hrow hsettled
    rw [h.key _ _ hrow]
    refine .of_write rfl (by simpa [hrow] using hsettled.unsettled) (fun _ => ⟨sender, rfl, hlatest⟩) ?_
    rintro other id heq
    simp only [Event.recorded.injEq] at heq
    obtain ⟨rfl, rfl⟩ := heq
    exact hlatest
  | unrecorded hpass => exact .of_same rfl

end Fleet

/-- In a run without raced claims, a row counts the claims that succeeded, and whatever happens next is decided by the
latest claimant. -/
theorem latest_claimant_decides (hrun : Relation.ReflTransGen (Move config) .idle s) :
    (∀ id row, s.deliveries id = some row → row.attemptCount.toNat = (s.claims id).length) ∧
      ∀ event s', Turn config s event s' → s.Unraced event → s.Decided event s' := by
  have hinv := Fleet.inv_of_run hrun
  exact ⟨hinv.count, fun event s' hturn hunraced => hinv.decided hturn hunraced⟩

/-! ## One delivery and two passes at the same instant -/

def taken : TelegramDeliveryOutbox := { waiting with status := .sending, attemptCount := 1 }

def twoPasses : Fleet :=
  { deliveries := Fleet.idle.deliveries.upsert waiting.id waiting
    passes := (Fleet.idle.passes.upsert 0 ⟨minute, none⟩).upsert 1 ⟨minute, none⟩
    calls := (Fleet.idle.calls.delete 0).delete 1
    claims := fun _ => [] }

theorem twoPasses_reached (config : SenderConfig) : Relation.ReflTransGen (Move config) .idle twoPasses := by
  have hput : putTelegramDeliveryOutbox Fleet.idle.deliveries waiting = .ok (Fleet.idle.deliveries.upsert waiting.id waiting) := rfl
  have hcreated : Move config .idle _ := ⟨.quiet, .created rfl rfl rfl hput, trivial⟩
  have hzero : Move config { Fleet.idle with deliveries := Fleet.idle.deliveries.upsert waiting.id waiting } _ :=
    ⟨.quiet, .started 0 minute, trivial⟩
  exact ((Relation.ReflTransGen.single hcreated).tail hzero).tail ⟨.quiet, .started 1 minute, trivial⟩

def claimedByOne : Fleet :=
  { deliveries := twoPasses.deliveries.upsert waiting.id taken
    passes := twoPasses.passes.upsert 1 ⟨minute, some taken⟩
    calls := twoPasses.calls.delete 1
    claims := Function.update twoPasses.claims waiting.id [1] }

theorem no_call {sender} : ∀ call ∈ twoPasses.calls sender, call.delivery = waiting.id := by
  simp [twoPasses, Fleet.idle, Table.delete]

theorem claims_waiting : claimTelegramDelivery twoPasses.deliveries waiting.id minute none =
    .ok (⟨some taken, true⟩, twoPasses.deliveries.upsert waiting.id taken) := rfl

/-- Of the two passes the claimant's outcome counts. -/
theorem latest_claimant_decides_sent : ∃ s, Relation.ReflTransGen (Move smallConfig) .idle s ∧
    s.claims waiting.id = [1] ∧ (∀ row ∈ s.deliveries waiting.id, row.attemptCount.toNat = 1) ∧
    ∃ s', Turn smallConfig s (.recorded 1 waiting.id) s' ∧ s.Decided (.recorded 1 waiting.id) s' := by
  have hclaim : Turn smallConfig twoPasses (.claimed 1 waiting.id) claimedByOne :=
    .claimed Table.upsert_self rfl no_call claims_waiting rfl
  have hrun := (twoPasses_reached smallConfig).tail ⟨_, hclaim, rfl, by decide⟩
  have hsend : send smallConfig claimedByOne.deliveries taken minute true =
      .ok (none, claimedByOne.deliveries.upsert waiting.id { taken with status := .sent }) := rfl
  have hpass : claimedByOne.passes 1 = some ⟨minute, some taken⟩ := rfl
  have hrecord : Turn smallConfig claimedByOne (.recorded 1 taken.id) _ := .recorded hpass rfl hsend
  obtain ⟨hcount, hdecided⟩ := latest_claimant_decides hrun
  exact ⟨claimedByOne, hrun, rfl, fun row hrow => hcount waiting.id row hrow, _, hrecord, hdecided _ _ hrecord trivial⟩

/-- The commit of the first pass's claim was aborted. -/
def raced : Fleet := { twoPasses with calls := twoPasses.calls.upsert 0 ⟨waiting.id, ⟨some taken, true⟩⟩ }

/-- The second pass holds the delivery while the first one's claim is about to run again. -/
def overtaken : Fleet :=
  { deliveries := raced.deliveries.upsert waiting.id taken
    passes := raced.passes.upsert 1 ⟨minute, some taken⟩
    calls := raced.calls.delete 1
    claims := Function.update raced.claims waiting.id [1] }

/-- Both passes were told that they hold the delivery. -/
def bothHold : Fleet :=
  { deliveries := overtaken.deliveries
    passes := overtaken.passes.upsert 0 ⟨minute, some taken⟩
    calls := overtaken.calls.delete 0
    claims := Function.update overtaken.claims waiting.id [0, 1] }

/-- The claim of the first pass is aborted by the second pass's and finds, when it runs again, a delivery it cannot
take; it still reports the claim of its aborted run. The row counts one attempt of two, and either pass may decide it. -/
theorem aborted_claim_reported : ∃ s, Relation.ReflTransGen (fun a b => ∃ event, Turn smallConfig a event b) .idle s ∧
    s.claims waiting.id = [0, 1] ∧ (∀ row ∈ s.deliveries waiting.id, row.status = .sending ∧ row.attemptCount = 1) ∧
    ∀ sender ∈ [0, 1], ∃ s', Turn smallConfig s (.recorded sender waiting.id) s' ∧
      ∀ row ∈ s'.deliveries waiting.id, row.status = .sent := by
  have hstart : Relation.ReflTransGen (fun a b => ∃ event, Turn smallConfig a event b) .idle twoPasses :=
    (twoPasses_reached smallConfig).lift id fun _ _ hmove => hmove.imp fun _ hturn => hturn.1
  have habort : Turn smallConfig twoPasses .quiet raced := by
    have hpass : twoPasses.passes 0 = some ⟨minute, none⟩ := rfl
    exact .aborted hpass rfl no_call claims_waiting
  have hone : Turn smallConfig raced (.claimed 1 waiting.id) overtaken := by
    have hpass : raced.passes 1 = some ⟨minute, none⟩ := rfl
    have hcall : ∀ call ∈ raced.calls 1, call.delivery = waiting.id := by
      simp [raced, twoPasses, Table.upsert, Table.delete, Fleet.idle]
    exact .claimed hpass rfl hcall claims_waiting rfl
  have hzero : Turn smallConfig overtaken (.claimed 0 waiting.id) bothHold := by
    have hpass : overtaken.passes 0 = some ⟨minute, none⟩ := rfl
    have hcall : ∀ call ∈ overtaken.calls 0, call.delivery = waiting.id := by
      simp [overtaken, raced, Table.delete]
    have hrerun : claimTelegramDelivery overtaken.deliveries waiting.id minute none =
        .ok (⟨none, false⟩, overtaken.deliveries) := rfl
    exact .claimed hpass rfl hcall hrerun rfl
  refine ⟨bothHold, ((hstart.tail ⟨_, habort⟩).tail ⟨_, hone⟩).tail ⟨_, hzero⟩, rfl, by decide, ?_⟩
  have hsend : send smallConfig bothHold.deliveries taken minute true =
      .ok (none, bothHold.deliveries.upsert waiting.id { taken with status := .sent }) := rfl
  intro sender hsender
  have hpass : bothHold.passes sender = some ⟨minute, some taken⟩ := by
    simp only [List.mem_cons, List.not_mem_nil, or_false] at hsender
    obtain rfl | rfl := hsender
    · rfl
    · rfl
  have hrecord : Turn smallConfig bothHold (.recorded sender taken.id) _ := .recorded hpass rfl hsend
  exact ⟨_, hrecord, by simp⟩

end Sessionless.Delivery
