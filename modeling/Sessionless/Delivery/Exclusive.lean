import Sessionless.Delivery.Sender

/-!
# How long a claim excludes other senders

A claim stamps the row with the instant its pass read, and another sender may take the row over once that instant is
`telegramDeliveryClaimTimeout` old: a claim excludes the others for the whole timeout exactly when the pass read the
clock at the moment the claim commits.
-/

namespace Sessionless.Delivery

open Lib Store

variable {config : SenderConfig} {s s' : System} {event : Event} {deliveries deliveries' : Deliveries}
  {id : TelegramDeliveryID} {instant : Int} {code : Option String}

/-! ## The transactions -/

namespace TelegramDeliveryOutbox

variable {delivery delivery' : TelegramDeliveryOutbox} {target : DeliveryStatus} {retryAt : Option Int}

theorem transition_ok (h : delivery.transition target instant retryAt = .ok delivery') :
    canTransitionDelivery delivery.status target = true ∧ delivery.updatedAt ≤ instant ∧ delivery'.id = delivery.id ∧
      delivery'.status = target ∧ delivery'.updatedAt = instant ∧ ∀ next ∈ delivery'.nextAttemptAt, instant < next := by
  simp only [transition, ite_error_eq_ok, Decidable.not_not, Except.ok.injEq] at h
  obtain ⟨hcan, htime, hretry, rfl⟩ := h
  refine ⟨hcan, by omega, rfl, rfl, rfl, ?_⟩
  intro next hnext
  simp only [Option.mem_def, Option.ite_none_right_eq_some] at hnext
  rcases not_and_not_right.1 hretry hnext.1 with ⟨retry, hmem, hlt⟩
  obtain rfl : retry = next := Option.some.inj (hmem.symm.trans hnext.2)
  exact hlt

theorem transition_attemptCount (h : delivery.transition target instant retryAt = .ok delivery') :
    delivery'.attemptCount = if target = .sending then delivery.attemptCount + 1 else delivery.attemptCount := by
  simp only [transition, ite_error_eq_ok, Except.ok.injEq] at h
  obtain ⟨-, -, -, rfl⟩ := h
  rfl

theorem validateForRun_next (h : delivery.validateForRun = .ok ()) (hstatus : delivery.status ≠ .retryWait) :
    delivery.nextAttemptAt = none := by
  simp only [validateForRun, ite_error_eq_ok] at h
  by_contra hnext
  exact h.2.1 ⟨hstatus, hnext⟩

end TelegramDeliveryOutbox

theorem putTelegramDeliveryOutbox_ok {delivery} :
    putTelegramDeliveryOutbox deliveries delivery = .ok deliveries' ↔
      delivery.validateForRun = .ok () ∧ deliveries' = deliveries.upsert delivery.id delivery := by
  simp only [putTelegramDeliveryOutbox, bind_eq_ok, pure_eq_ok]
  constructor
  · rintro ⟨_, hvalid, rfl⟩
    exact ⟨hvalid, rfl⟩
  · rintro ⟨hvalid, rfl⟩
    exact ⟨(), hvalid, rfl⟩

def Claimable (row : TelegramDeliveryOutbox) (instant : Int) : Prop :=
  (row.status = .pending ∨ row.status = .retryWait) ∧ row.updatedAt ≤ instant ∧ (∀ next ∈ row.nextAttemptAt, next ≤ instant) ∨
    row.status = .sending ∧ row.updatedAt + telegramDeliveryClaimTimeout ≤ instant

theorem Claimable.after {row} (h : Claimable row instant) (hvalid : row.validateForRun = .ok ())
    (hretry : ∀ next ∈ row.nextAttemptAt, row.updatedAt < next) (hpending : row.status ≠ .pending) :
    row.updatedAt < instant := by
  obtain ⟨hstatus, -, hdue⟩ | ⟨-, hexpired⟩ := h
  · cases hnext : row.nextAttemptAt with
    | none =>
      simp only [TelegramDeliveryOutbox.validateForRun, ite_error_eq_ok] at hvalid
      exact absurd ⟨hstatus.resolve_left hpending, hnext⟩ hvalid.1
    | some next =>
      have hlater := hretry next (by simp [hnext])
      have hreached := hdue next (by simp [hnext])
      omega
  · simp only [telegramDeliveryClaimTimeout, minute, second] at hexpired
    omega

structure Taken (deliveries : Deliveries) (row : TelegramDeliveryOutbox) (instant : Int)
    (delivery : TelegramDeliveryOutbox) (deliveries' : Deliveries) : Prop where
  claimable : Claimable row instant
  id : delivery.id = row.id
  status : delivery.status = .sending
  updated : delivery.updatedAt = instant
  attempt : delivery.attemptCount = row.attemptCount + 1
  valid : delivery.validateForRun = .ok ()
  deliveries : deliveries' = deliveries.upsert row.id delivery

section

variable {row : TelegramDeliveryOutbox} {answer : ClaimAnswer}

theorem claimWaiting_ok (h : claimWaiting deliveries row instant = .ok (answer, deliveries'))
    (hstatus : row.status = .pending ∨ row.status = .retryWait) :
    answer.claimed = false ∧ deliveries' = deliveries ∨
      ∃ delivery, answer = ⟨some delivery, true⟩ ∧ Taken deliveries row instant delivery deliveries' := by
  unfold claimWaiting at h
  split at h
  · cases h
    exact .inl ⟨rfl, rfl⟩
  · rename_i hdue
    simp only [bind_eq_ok, pure_eq_ok, Prod.mk.injEq] at h
    obtain ⟨delivery, hmoved, _, hput, rfl, rfl⟩ := h
    obtain ⟨-, htime, hid, hsending, hupdated, -⟩ := TelegramDeliveryOutbox.transition_ok hmoved
    obtain ⟨hvalid, rfl⟩ := putTelegramDeliveryOutbox_ok.1 hput
    have hnext : ∀ next ∈ row.nextAttemptAt, next ≤ instant := by
      intro next hmem
      by_contra hlt
      exact hdue ⟨next, hmem, by omega⟩
    have hattempt := TelegramDeliveryOutbox.transition_attemptCount hmoved
    exact .inr ⟨delivery, rfl, .inl ⟨hstatus, htime, hnext⟩, hid, hsending, hupdated, hattempt, hvalid, by rw [hid]⟩

theorem claimSending_ok (h : claimSending deliveries row instant = .ok (answer, deliveries'))
    (hstatus : row.status = .sending) :
    answer.claimed = false ∧ deliveries' = deliveries ∨
      ∃ delivery, answer = ⟨some delivery, true⟩ ∧ Taken deliveries row instant delivery deliveries' := by
  unfold claimSending at h
  split at h
  · cases h
    exact .inl ⟨rfl, rfl⟩
  · rename_i hexpired
    simp only [bind_eq_ok, pure_eq_ok, Prod.mk.injEq] at h
    obtain ⟨_, hput, rfl, rfl⟩ := h
    obtain ⟨hvalid, rfl⟩ := putTelegramDeliveryOutbox_ok.1 hput
    exact .inr ⟨_, rfl, .inr ⟨hstatus, by omega⟩, rfl, hstatus, rfl, rfl, hvalid, rfl⟩

/-- A claim that takes nothing leaves the outbox alone, or cancels the delivery. -/
def Cancelled (deliveries : Deliveries) (row : TelegramDeliveryOutbox) (deliveries' : Deliveries) : Prop :=
  row.status.terminal = false ∧ ∃ delivery : TelegramDeliveryOutbox, delivery.id = row.id ∧ delivery.status = .cancelled ∧
    row.updatedAt ≤ delivery.updatedAt ∧ delivery.attemptCount = row.attemptCount ∧ delivery.validateForRun = .ok () ∧
    deliveries' = deliveries.upsert row.id delivery

theorem cancelUnauthorized_ok (h : cancelUnauthorized deliveries row instant = .ok (answer, deliveries')) :
    answer.claimed = false ∧ (deliveries' = deliveries ∨ Cancelled deliveries row deliveries') := by
  unfold cancelUnauthorized at h
  split at h
  · cases h
    exact ⟨rfl, .inl rfl⟩
  · rename_i hopen
    simp only [bind_eq_ok, pure_eq_ok, Prod.mk.injEq] at h
    obtain ⟨delivery, hmoved, _, hput, rfl, rfl⟩ := h
    obtain ⟨-, htime, hid, hcancelled, hupdated, -⟩ := TelegramDeliveryOutbox.transition_ok hmoved
    obtain ⟨hvalid, rfl⟩ := putTelegramDeliveryOutbox_ok.1 hput
    have hattempt := TelegramDeliveryOutbox.transition_attemptCount hmoved
    exact ⟨rfl, .inr ⟨by simpa using hopen, delivery, hid, hcancelled, by omega, hattempt, hvalid, by rw [hid]⟩⟩

theorem claim_ok (h : claimTelegramDelivery deliveries id instant code = .ok (answer, deliveries')) :
    (answer.claimed = false ∧ deliveries' = deliveries) ∨
      ∃ row, deliveries id = some row ∧ ((answer.claimed = false ∧ Cancelled deliveries row deliveries') ∨
        ∃ delivery, answer = ⟨some delivery, true⟩ ∧ Taken deliveries row instant delivery deliveries') := by
  simp only [claimTelegramDelivery, ite_error_eq_ok] at h
  obtain ⟨-, h⟩ := h
  have hnothing : Except.ok (ε := StoreError) ((⟨none, false⟩ : ClaimAnswer), deliveries) = .ok (answer, deliveries') →
      answer.claimed = false ∧ deliveries' = deliveries := by
    intro heq
    cases heq
    exact ⟨rfl, rfl⟩
  cases hrow : deliveries id with
  | none => simp only [hrow] at h; exact .inl (hnothing h)
  | some row =>
    simp only [hrow] at h
    split at h
    · obtain ⟨hclaimed, rfl | hcancelled⟩ := cancelUnauthorized_ok h
      · exact .inl ⟨hclaimed, rfl⟩
      · exact .inr ⟨row, rfl, .inl ⟨hclaimed, hcancelled⟩⟩
    · cases hstatus : row.status with
      | pending =>
        simp only [hstatus] at h
        exact (claimWaiting_ok h (.inl hstatus)).imp_right fun htaken => ⟨row, rfl, .inr htaken⟩
      | retryWait =>
        simp only [hstatus] at h
        exact (claimWaiting_ok h (.inr hstatus)).imp_right fun htaken => ⟨row, rfl, .inr htaken⟩
      | sending =>
        simp only [hstatus] at h
        exact (claimSending_ok h hstatus).imp_right fun htaken => ⟨row, rfl, .inr htaken⟩
      | sent => simp only [hstatus] at h; exact .inl (hnothing h)
      | failed => simp only [hstatus] at h; exact .inl (hnothing h)
      | cancelled => simp only [hstatus] at h; exact .inl (hnothing h)

theorem claim_taken {delivery}
    (h : claimTelegramDelivery deliveries id instant code = .ok (⟨some delivery, true⟩, deliveries')) :
    ∃ row, deliveries id = some row ∧ Taken deliveries row instant delivery deliveries' := by
  obtain ⟨hfalse, -⟩ | ⟨row, hrow, ⟨hfalse, -⟩ | ⟨_, heq, htaken⟩⟩ := claim_ok h
  · cases hfalse
  · cases hfalse
  · cases heq
    exact ⟨row, hrow, htaken⟩

theorem claim_passed (h : claimTelegramDelivery deliveries id instant code = .ok (answer, deliveries'))
    (hclaimed : answer.claimed = false) :
    deliveries' = deliveries ∨ ∃ row, deliveries id = some row ∧ Cancelled deliveries row deliveries' := by
  obtain ⟨-, hsame⟩ | ⟨row, hrow, ⟨-, hcancelled⟩ | ⟨_, rfl, -⟩⟩ := claim_ok h
  · exact .inl hsame
  · exact .inr ⟨row, hrow, hcancelled⟩
  · cases hclaimed

end

/-- A row replaced by a later one that is still well formed and no longer waits to be sent for the first time. -/
structure Moved (deliveries : Deliveries) (row delivery : TelegramDeliveryOutbox) (deliveries' : Deliveries) : Prop where
  id : delivery.id = row.id
  status : delivery.status ≠ .pending
  updated : row.updatedAt ≤ delivery.updatedAt
  retry : ∀ next ∈ delivery.nextAttemptAt, delivery.updatedAt < next
  valid : delivery.validateForRun = .ok ()
  deliveries : deliveries' = deliveries.upsert row.id delivery

/-- An outcome that changes the outbox moves a row that is being sent, or waits, to a status a sender reports. -/
structure Settled (row moved : TelegramDeliveryOutbox) (instant : Int) : Prop where
  unsettled : row.status.terminal = false
  reached : row.updatedAt ≤ instant
  id : moved.id = row.id
  status : moved.status = .sent ∨ moved.status = .retryWait ∨ moved.status = .failed
  updated : moved.updatedAt = instant
  attempt : moved.attemptCount = row.attemptCount
  retry : ∀ next ∈ moved.nextAttemptAt, instant < next
  valid : moved.validateForRun = .ok ()

theorem transitionTelegramDelivery_settled {target retryAt}
    (h : transitionTelegramDelivery deliveries id target instant retryAt = .ok deliveries')
    (htarget : target = .sent ∨ target = .retryWait ∨ target = .failed) :
    ∃ row, deliveries id = some row ∧
      (deliveries' = deliveries ∨ ∃ moved, Settled row moved instant ∧ deliveries' = deliveries.upsert row.id moved) := by
  unfold transitionTelegramDelivery at h
  cases hrow : deliveries id with
  | none => simp [hrow] at h
  | some row =>
    simp only [hrow] at h
    refine ⟨row, rfl, ?_⟩
    split at h
    · simp only [Except.ok.injEq] at h
      exact .inl h.symm
    · simp only [bind_eq_ok] at h
      obtain ⟨moved, hmoved, hput⟩ := h
      obtain ⟨hcan, htime, hid, hstatus, hupdated, hretry⟩ := TelegramDeliveryOutbox.transition_ok hmoved
      obtain ⟨hvalid, rfl⟩ := putTelegramDeliveryOutbox_ok.1 hput
      have hattempt := TelegramDeliveryOutbox.transition_attemptCount hmoved
      have hopen : row.status.terminal = false := by
        cases hold : row.status <;> simp [hold, canTransitionDelivery] at hcan <;> rfl
      have hsending : target ≠ .sending := by
        rintro rfl
        simp at htarget
      rw [if_neg hsending] at hattempt
      exact .inr ⟨moved, ⟨hopen, htime, hid, hstatus ▸ htarget, hupdated, hattempt, hretry, hvalid⟩, by rw [hid]⟩

theorem send_settled {delivery sent retryAt}
    (h : send config deliveries delivery instant sent = .ok (retryAt, deliveries')) :
    ∃ row, deliveries delivery.id = some row ∧
      (deliveries' = deliveries ∨ ∃ moved, Settled row moved instant ∧ deliveries' = deliveries.upsert row.id moved) := by
  unfold send fail at h
  split at h
  · simp only [bind_eq_ok, pure_eq_ok, Prod.mk.injEq] at h
    obtain ⟨_, hmoved, -, rfl⟩ := h
    exact transitionTelegramDelivery_settled hmoved (.inl rfl)
  · split at h
    · simp only [bind_eq_ok, pure_eq_ok, Prod.mk.injEq] at h
      obtain ⟨_, hmoved, -, rfl⟩ := h
      exact transitionTelegramDelivery_settled hmoved (.inr (.inr rfl))
    · simp only [bind_eq_ok, pure_eq_ok, Prod.mk.injEq] at h
      obtain ⟨_, hmoved, -, rfl⟩ := h
      exact transitionTelegramDelivery_settled hmoved (.inr (.inl rfl))

theorem Taken.moved {row delivery} (htaken : Taken deliveries row instant delivery deliveries') :
    Moved deliveries row delivery deliveries' where
  id := htaken.id
  status := by simp [htaken.status]
  updated := by
    rw [htaken.updated]
    obtain ⟨-, htime, -⟩ | ⟨-, hexpired⟩ := htaken.claimable
    · exact htime
    · simp only [telegramDeliveryClaimTimeout, minute, second] at hexpired
      omega
  retry := by
    rw [TelegramDeliveryOutbox.validateForRun_next htaken.valid (by simp [htaken.status])]
    simp
  valid := htaken.valid
  deliveries := htaken.deliveries

theorem Settled.moved {row moved} (h : Settled row moved instant) :
    Moved deliveries row moved (deliveries.upsert row.id moved) where
  id := h.id
  status := by obtain hstatus | hstatus | hstatus := h.status <;> simp [hstatus]
  updated := by rw [h.updated]; exact h.reached
  retry := by rw [h.updated]; exact h.retry
  valid := h.valid
  deliveries := rfl

theorem Cancelled.moved {row} (h : Cancelled deliveries row deliveries') :
    ∃ delivery, delivery.status = .cancelled ∧ Moved deliveries row delivery deliveries' := by
  obtain ⟨-, delivery, hid, hstatus, hupdated, -, hvalid, hdeliveries⟩ := h
  have hnext := TelegramDeliveryOutbox.validateForRun_next hvalid (by simp [hstatus])
  exact ⟨delivery, hstatus, hid, by simp [hstatus], hupdated, by simp [hnext], hvalid, hdeliveries⟩

/-! ## What holds of every reachable system -/

namespace System

/-- Rows are well formed, a pass lies in the past, and a delivery being sent has been stamped since the pass began. -/
structure Inv (s : System) : Prop where
  clock : 0 < s.clock
  key : ∀ id row, s.deliveries id = some row → row.id = id
  valid : ∀ id row, s.deliveries id = some row → row.validateForRun = .ok ()
  retry : ∀ id row, s.deliveries id = some row → ∀ next ∈ row.nextAttemptAt, row.updatedAt < next
  past : ∀ sender pass, s.passes sender = some pass → pass.now ≤ s.clock
  held : ∀ sender pass delivery, s.passes sender = some pass → pass.sending = some delivery →
    ∃ row, s.deliveries delivery.id = some row ∧ row.status ≠ .pending ∧ pass.now ≤ row.updatedAt

theorem Initial.inv (h : s.Initial) : s.Inv :=
  { h with
    past := fun sender pass hpass => by simp [h.passes sender] at hpass
    held := fun sender pass delivery hpass => by simp [h.passes sender] at hpass }

theorem Inv.moved {row delivery} (h : s.Inv) (hrow : s.deliveries id = some row)
    (hmoved : Moved s.deliveries row delivery deliveries') : { s with deliveries := deliveries' }.Inv := by
  obtain rfl := h.key id row hrow
  obtain ⟨hid, hstatus, hupdated, hretry, hvalid, rfl⟩ := hmoved
  constructor
  case clock => exact h.clock
  case key => exact Table.forall_upsert h.key hid
  case valid => exact Table.forall_upsert h.valid hvalid
  case retry => exact Table.forall_upsert h.retry hretry
  case past => exact h.past
  case held =>
    intro sender pass sending hpass hsending
    obtain ⟨stored, hstored, hpending, hnow⟩ := h.held sender pass sending hpass hsending
    by_cases heq : sending.id = row.id
    · rw [heq] at hstored
      obtain rfl := Option.some.inj (hstored.symm.trans hrow)
      exact ⟨delivery, by simp [heq], hstatus, Int.le_trans hnow hupdated⟩
    · exact ⟨stored, by simpa [Table.upsert_of_ne heq] using hstored, hpending, hnow⟩

theorem Inv.passes {pass sender} (h : s.Inv) (hpast : pass.now ≤ s.clock)
    (hheld : ∀ delivery, pass.sending = some delivery →
      ∃ row, s.deliveries delivery.id = some row ∧ row.status ≠ .pending ∧ pass.now ≤ row.updatedAt) :
    { s with passes := s.passes.upsert sender pass }.Inv :=
  { h with
    past := Table.forall_upsert h.past hpast
    held := by
      intro other stored delivery hstored
      obtain ⟨rfl, rfl⟩ | ⟨-, hold⟩ := Table.of_upsert hstored
      · exact hheld delivery
      · exact h.held other stored delivery hold }

theorem Inv.step (h : s.Inv) (hstep : Step config s event s') : s'.Inv := by
  cases hstep with
  | tick hclock =>
    exact { h with
      clock := Int.lt_of_lt_of_le h.clock hclock
      past := fun sender pass hpass => Int.le_trans (h.past sender pass hpass) hclock }
  | @created delivery deliveries habsent hpending hput =>
    obtain ⟨hvalid, rfl⟩ := putTelegramDeliveryOutbox_ok.1 hput
    have hnext := TelegramDeliveryOutbox.validateForRun_next hvalid (by simp [hpending])
    constructor
    case clock => exact h.clock
    case key => exact Table.forall_upsert h.key rfl
    case valid => exact Table.forall_upsert h.valid hvalid
    case retry => exact Table.forall_upsert h.retry (by simp [hnext])
    case past => exact h.past
    case held =>
      intro sender pass sending hpass hsending
      obtain ⟨row, hrow, hrest⟩ := h.held sender pass sending hpass hsending
      exact ⟨row, Table.upsert_of_fresh habsent hrow, hrest⟩
  | started sender => exact h.passes (Int.le_refl _) (by simp)
  | stopped sender =>
    exact { h with
      past := fun other pass hpass => h.past other pass (Table.of_delete hpass).2
      held := fun other pass delivery hpass => h.held other pass delivery (Table.of_delete hpass).2 }
  | @claimed sender pass id code delivery deliveries hpass hidle hclaim =>
    obtain ⟨row, hrow, htaken⟩ := claim_taken hclaim
    have hmoved := htaken.moved
    refine (h.moved hrow hmoved).passes (h.past sender pass hpass) ?_
    intro sending hsending
    cases hsending
    refine ⟨delivery, ?_, hmoved.status, ?_⟩
    · simp [htaken.deliveries, htaken.id]
    · exact Int.le_of_eq htaken.updated.symm
  | @passedOver sender pass id code row deliveries hpass hidle hclaim =>
    obtain rfl | ⟨stored, hstored, hcancelled⟩ := claim_passed hclaim rfl
    · exact h
    · obtain ⟨delivery, -, hmoved⟩ := hcancelled.moved
      exact h.moved hstored hmoved
  | @recorded sender pass delivery sent retryAt deliveries hpass hsending hsend =>
    obtain ⟨row, hrow, rfl | ⟨moved, hsettled, rfl⟩⟩ := send_settled hsend
    · exact h.passes (h.past sender pass hpass) (by simp)
    · exact (h.moved hrow hsettled.moved).passes (h.past sender pass hpass) (by simp)
  | @unrecorded sender pass hpass => exact h.passes (h.past sender pass hpass) (by simp)

theorem Inv.trace {events} (h : s.Inv) (htrace : Trace (Step config) s events s') : s'.Inv :=
  htrace.invariant (p := fun _ => True) (fun _ _ _ _ hi hstep => hi.step hstep) (fun _ _ => trivial) h

/-! ## While a claim stands -/

/-- The delivery a sender claimed at `instant` carries that stamp or is cancelled, and every other sender that still
sends it claimed it earlier. -/
structure Standing (s : System) (sender : SenderID) (id : TelegramDeliveryID) (instant : Int) : Prop where
  row : ∃ row, s.deliveries id = some row ∧ (row.status = .sending ∧ row.updatedAt = instant ∨ row.status = .cancelled)
  others : ∀ other pass delivery, other ≠ sender → s.passes other = some pass → pass.sending = some delivery →
    delivery.id = id → pass.now < instant

def Excluded (s : System) (sender : SenderID) (id : TelegramDeliveryID) (instant : Int) : Prop :=
  instant + telegramDeliveryClaimTimeout ≤ s.clock ∨ s.Standing sender id instant

/-- A sender that still sends a delivery claimed it before the instant at which it can be claimed again. -/
theorem Inv.held_lt {other pass row delivery} (h : s.Inv)
    (hrow : s.deliveries delivery.id = some row) (hpass : s.passes other = some pass)
    (hsending : pass.sending = some delivery) (hclaimable : Claimable row instant) : pass.now < instant := by
  obtain ⟨stored, hstored, hpending, hnow⟩ := h.held other pass delivery hpass hsending
  obtain rfl := Option.some.inj (hstored.symm.trans hrow)
  have hlater := hclaimable.after (h.valid _ _ hstored) (h.retry _ _ hstored) hpending
  omega

theorem Standing.of_claim {sender} (h : s.Inv) (hstep : Step config s (.claimed sender id) s') :
    ∃ pass row, s.passes sender = some pass ∧ s'.clock = s.clock ∧ s'.deliveries id = some row ∧
      row.status = .sending ∧ row.updatedAt = pass.now ∧ s'.Standing sender id pass.now := by
  cases hstep with
  | @claimed _ pass _ code delivery deliveries hpass hidle hclaim =>
    obtain ⟨row, hrow, htaken⟩ := claim_taken hclaim
    obtain rfl := h.key id row hrow
    have hstored : deliveries row.id = some delivery := by simp [htaken.deliveries]
    refine ⟨pass, delivery, hpass, rfl, hstored, htaken.status, htaken.updated,
      ⟨delivery, hstored, .inl ⟨htaken.status, htaken.updated⟩⟩, ?_⟩
    intro other stored sending hne hstored hsending hid
    rw [← hid] at hrow
    obtain ⟨rfl, -⟩ | ⟨-, hold⟩ := Table.of_upsert hstored
    · exact absurd rfl hne
    · exact h.held_lt hrow hold hsending htaken.claimable

theorem Standing.claim_expired {sender other} (h : s.Inv) (hs : s.Standing sender id instant)
    (hstep : Step config s (.claimed other id) s') : instant + telegramDeliveryClaimTimeout ≤ s.clock := by
  cases hstep with
  | @claimed _ pass _ code delivery deliveries hpass hidle hclaim =>
    obtain ⟨row, hrow, htaken⟩ := claim_taken hclaim
    obtain ⟨stored, hstored, hstanding⟩ := hs.row
    obtain rfl := Option.some.inj (hstored.symm.trans hrow)
    have hpast := h.past other pass hpass
    obtain ⟨hwaiting, -⟩ | ⟨hsending, hexpired⟩ := htaken.claimable
    · obtain ⟨hstatus, -⟩ | hstatus := hstanding <;> simp [hstatus] at hwaiting
    · obtain ⟨-, hupdated⟩ | hstatus := hstanding
      · omega
      · simp [hstatus] at hsending

theorem Standing.frame {sender} (hs : s.Standing sender id instant) (hrow : s'.deliveries id = s.deliveries id)
    (hothers : ∀ other pass delivery, s'.passes other = some pass → pass.sending = some delivery → delivery.id = id →
      s.passes other = some pass) : s'.Standing sender id instant where
  row := by rw [hrow]; exact hs.row
  others := fun other pass delivery hne hpass hsending hid =>
    hs.others other pass delivery hne (hothers other pass delivery hpass hsending hid) hsending hid

theorem of_upsert_pass {sender pass} (hpass : ∀ delivery, pass.sending = some delivery → delivery.id ≠ id) :
    ∀ other stored delivery, s.passes.upsert sender pass other = some stored → stored.sending = some delivery →
      delivery.id = id → s.passes other = some stored := by
  intro other stored delivery hstored hsending hid
  obtain ⟨rfl, rfl⟩ | ⟨-, hold⟩ := Table.of_upsert hstored
  · exact absurd hid (hpass delivery hsending)
  · exact hold

theorem Excluded.step {sender} (h : s.Inv) (he : s.Excluded sender id instant)
    (hstep : Step config s event s') (hevent : event ≠ .recorded sender id) : s'.Excluded sender id instant := by
  obtain hold | hs := he
  · left
    cases hstep with
    | tick hclock => exact Int.le_trans hold hclock
    | _ => exact hold
  · obtain ⟨row, hrow, hstanding⟩ := hs.row
    obtain rfl := h.key id row hrow
    have hother : ∀ {stored delivery : TelegramDeliveryOutbox} {deliveries' : Deliveries} {other : TelegramDeliveryID},
        s.deliveries other = some stored → other ≠ row.id → Moved s.deliveries stored delivery deliveries' →
        deliveries' row.id = s.deliveries row.id := by
      intro stored delivery deliveries' other hstored hne hmoved
      rw [hmoved.deliveries, Table.upsert_of_ne]
      rw [h.key other stored hstored]
      exact hne.symm
    cases hstep with
    | tick hclock => exact .inr (hs.frame rfl fun _ _ _ hpass _ _ => hpass)
    | @created delivery deliveries habsent hpending hput =>
      obtain ⟨-, rfl⟩ := putTelegramDeliveryOutbox_ok.1 hput
      exact .inr (hs.frame ((Table.upsert_of_fresh habsent hrow).trans hrow.symm) fun _ _ _ hpass _ _ => hpass)
    | started other => exact .inr (hs.frame rfl (of_upsert_pass (by simp)))
    | stopped other => exact .inr (hs.frame rfl fun _ _ _ hpass _ _ => (Table.of_delete hpass).2)
    | @claimed other pass claimed code delivery deliveries hpass hidle hclaim =>
      by_cases heq : claimed = row.id
      · subst heq
        have hstep : Step config s (.claimed other row.id) _ := .claimed hpass hidle hclaim
        have hexpired := hs.claim_expired h hstep
        exact .inl hexpired
      · obtain ⟨stored, hstored, htaken⟩ := claim_taken hclaim
        refine .inr (hs.frame (hother hstored heq htaken.moved) (of_upsert_pass ?_))
        intro sending hsending hid
        cases hsending
        rw [htaken.id, h.key claimed stored hstored] at hid
        exact heq hid
    | @passedOver other pass claimed code answer deliveries hpass hidle hclaim =>
      obtain rfl | ⟨stored, hstored, hcancelled⟩ := claim_passed hclaim rfl
      · exact .inr hs
      · obtain ⟨delivery, hstatus, hmoved⟩ := hcancelled.moved
        by_cases heq : claimed = row.id
        · subst heq
          obtain rfl := Option.some.inj (hstored.symm.trans hrow)
          exact .inr ⟨⟨delivery, by simp [hmoved.deliveries], .inr hstatus⟩, hs.others⟩
        · exact .inr (hs.frame (hother hstored heq hmoved) fun _ _ _ hpass _ _ => hpass)
    | @recorded other pass delivery sent retryAt deliveries hpass hsending hsend =>
      obtain ⟨stored, hstored, rfl | ⟨moved, hsettled, rfl⟩⟩ := send_settled hsend
      · exact .inr (hs.frame rfl (of_upsert_pass (by simp)))
      · by_cases heq : delivery.id = row.id
        · -- the outcome of a sender whose claim was taken over lies before the row's stamp
          have hne : other ≠ sender := fun hother => hevent (by rw [hother, heq])
          have hearlier := hs.others other pass delivery hne hpass hsending heq
          rw [heq] at hstored
          obtain rfl := Option.some.inj (hstored.symm.trans hrow)
          have htime := hsettled.reached
          obtain ⟨-, hupdated⟩ | hstatus := hstanding
          · omega
          · have hopen := hsettled.unsettled
            simp [hstatus, DeliveryStatus.terminal] at hopen
        · exact .inr (hs.frame (hother hstored heq hsettled.moved) (of_upsert_pass (by simp)))
    | @unrecorded other pass hpass => exact .inr (hs.frame rfl (of_upsert_pass (by simp)))

theorem Excluded.trace {sender events} (h : s.Inv) (he : s.Excluded sender id instant)
    (htrace : Trace (Step config) s events s') (hevents : .recorded sender id ∉ events) :
    s'.Excluded sender id instant := by
  have hrun : s'.Inv ∧ s'.Excluded sender id instant :=
    htrace.invariant (p := fun event => event ≠ .recorded sender id)
      (I := fun state => state.Inv ∧ state.Excluded sender id instant)
      (fun _ _ _ hne hi hstep => ⟨hi.1.step hstep, hi.2.step hi.1 hstep hne⟩)
      (fun _ hmem heq => hevents (heq ▸ hmem)) ⟨h, he⟩
  exact hrun.2

theorem Inv.taken_over (config : SenderConfig) {row} (h : s.Inv) (hrow : s.deliveries id = some row)
    (hstatus : row.status = .sending) {clock} (hclock : s.clock ≤ clock)
    (hexpired : row.updatedAt + telegramDeliveryClaimTimeout ≤ clock) (other : SenderID) :
    ∃ s₂ s₃, Trace (Step config) s [.quiet, .quiet] s₂ ∧ Step config s₂ (.claimed other id) s₃ ∧ s₃.clock = clock := by
  have hvalid := h.valid id row hrow
  have hzero : clock ≠ 0 := by
    have := h.clock
    omega
  let delivery : TelegramDeliveryOutbox := { row with status := .sending, attemptCount := row.attemptCount + 1, updatedAt := clock }
  have hdelivery : delivery.validateForRun = .ok () := by
    simp only [TelegramDeliveryOutbox.validateForRun, ite_error_eq_ok, and_true, hstatus] at hvalid ⊢
    refine ⟨hvalid.1, hvalid.2.1, ?_⟩
    simp only [telegramDeliveryClaimTimeout, minute, second] at hexpired
    simp only [delivery]
    omega
  have hclaim : claimTelegramDelivery s.deliveries id clock none =
      .ok (⟨some delivery, true⟩, s.deliveries.upsert row.id delivery) := by
    have hput : putTelegramDeliveryOutbox s.deliveries delivery = .ok _ := putTelegramDeliveryOutbox_ok.2 ⟨hdelivery, rfl⟩
    have hdue : ¬ clock < row.updatedAt + telegramDeliveryClaimTimeout := by omega
    simp only [claimTelegramDelivery, hzero, if_false, hrow, Option.isSome_none, Bool.false_eq_true, and_false, hstatus,
      claimSending, hdue]
    exact bind_eq_ok.2 ⟨_, hput, rfl⟩
  let ready : System := { s with clock := clock, passes := s.passes.upsert other ⟨clock, none⟩ }
  have htick : Step config s .quiet { s with clock := clock } := .tick hclock
  have hstart : Step config { s with clock := clock } .quiet ready := .started other
  exact ⟨ready, _, .cons htick (.single hstart), .claimed Table.upsert_self rfl hclaim, rfl⟩

end System

def waiting : TelegramDeliveryOutbox :=
  { id := "delivery"
    projection := none
    status := .pending
    attemptCount := 0
    nextAttemptAt := none
    createdAt := minute
    updatedAt := minute }

def smallConfig : SenderConfig := { maxAttempts := 3, baseBackoff := second, maxBackoff := minute }

/-- A system in which nobody has looked at the delivery yet. -/
def untouched : System :=
  { clock := minute, deliveries := fun id => if id = waiting.id then some waiting else none, passes := fun _ => none }

theorem untouched_initial : untouched.Initial := by
  have hrow : ∀ id row, untouched.deliveries id = some row → id = waiting.id ∧ row = waiting := by
    intro id row h
    simp only [untouched, Option.ite_none_right_eq_some, Option.some.injEq] at h
    exact ⟨h.1, h.2.symm⟩
  constructor
  case clock => decide
  case passes => intro sender; rfl
  case key => intro id row h; obtain ⟨rfl, rfl⟩ := hrow id row h; rfl
  case valid => intro id row h; obtain ⟨rfl, rfl⟩ := hrow id row h; decide
  case retry => intro id row h; obtain ⟨rfl, rfl⟩ := hrow id row h; simp [waiting]

theorem claimed_at (config : SenderConfig) {clock} (hclock : minute ≤ clock) :
    ∃ s s₁, Trace (Step config) untouched [.quiet, .quiet] s ∧ Step config s (.claimed 0 waiting.id) s₁ ∧
      s.passes 0 = some ⟨minute, none⟩ ∧ s.clock = clock := by
  let passes := untouched.passes.upsert 0 ⟨minute, none⟩
  have hstart : Step config untouched .quiet ⟨minute, untouched.deliveries, passes⟩ := .started 0
  have htick : Step config ⟨minute, untouched.deliveries, passes⟩ .quiet ⟨clock, untouched.deliveries, passes⟩ := .tick hclock
  have hpass : passes 0 = some ⟨minute, none⟩ := Table.upsert_self
  have hclaim : claimTelegramDelivery untouched.deliveries waiting.id minute none =
      .ok (⟨some { waiting with status := .sending, attemptCount := 1 }, true⟩,
        untouched.deliveries.upsert waiting.id { waiting with status := .sending, attemptCount := 1 }) := rfl
  exact ⟨_, _, .cons hstart (.single htick), .claimed hpass rfl hclaim, hpass, rfl⟩

end Sessionless.Delivery
