import Sessionless.Delivery.ReadyIndex

/-!
# The tables refine the outbox

The transactions over the tables of all tenants move the rows of one tenant's outbox as the
transactions of `Delivery.Outbox` do, so what holds of every run of those holds of the tables.
-/

namespace Sessionless.Delivery

open Lib Store Protocol

def Database.deliveries (db : Database) (tenantID : TenantID) : Deliveries :=
  fun id => (db.outbox (tenantID, id)).map DeliveryRecord.outbox

variable [Crypto] {db db' : Database} {tenantID : TenantID} {record : DeliveryRecord} {id : TelegramDeliveryID} {instant : Int}

theorem put_refines (h : db.putTelegramDeliveryOutbox tenantID record = .ok db') :
    putTelegramDeliveryOutbox (db.deliveries tenantID) record.outbox = .ok (db'.deliveries tenantID) := by
  obtain ⟨run, bucket, others, howning, -, hvalid, -, rfl⟩ := put_ok.1 h
  have htenant := owningRun_tenant howning
  rw [db.tenants_id] at htenant
  subst htenant
  refine putTelegramDeliveryOutbox_ok.2 ⟨(DeliveryRecord.validateForRun_ok.1 hvalid).2, ?_⟩
  funext other
  by_cases heq : other = record.id
  · simp [Database.deliveries, heq, DeliveryRecord.outbox]
  · have hkey : (record.tenantID, other) ≠ (record.tenantID, record.id) := by simp [heq]
    rw [Table.upsert_of_ne (by simpa [DeliveryRecord.outbox] using heq)]
    simp [Database.deliveries, Table.upsert_of_ne hkey]

/-- What a claim decides, carried out on the rows of the tenant. -/
def carryOut (deliveries : Deliveries) (record : DeliveryRecord) : Decision → Except StoreError (ClaimAnswer × Deliveries)
  | .nothing => .ok (⟨none, false⟩, deliveries)
  | .already => .ok (⟨some record.outbox, false⟩, deliveries)
  | .write next claimed => do
    let deliveries ← putTelegramDeliveryOutbox deliveries next.outbox
    return (⟨some next.outbox, claimed⟩, deliveries)

omit [Crypto] in
/-- The decision over the record is the one over its moving part, for the code that the authorization answers. -/
theorem decideClaim_refines {s decision deliveries} (hinstant : instant ≠ 0)
    (hstored : deliveries id = some record.outbox) (h : decideClaim s record instant = .ok decision) :
    ∃ code, claimTelegramDelivery deliveries id instant code = carryOut deliveries record decision := by
  simp only [decideClaim, bind_eq_ok] at h
  obtain ⟨code, hcode, h⟩ := h
  refine ⟨code, ?_⟩
  simp only [claimTelegramDelivery, hinstant, if_false, hstored]
  have hstatus : record.outbox.status = record.status := rfl
  cases code with
  | some code =>
    have hprojection : record.outbox.projection.isSome = true := by
      cases href : record.projection with
      | none => simp [authorizeTelegramProjectionDelivery, href] at hcode
      | some ref => simp [DeliveryRecord.outbox, href]
    simp only [hprojection, Option.isSome_some, and_self, if_true, cancelUnauthorized] at h ⊢
    rw [hstatus]
    by_cases hterminal : record.status.terminal = true
    · rw [if_pos hterminal] at h ⊢
      cases h
      rfl
    · rw [if_neg hterminal] at h ⊢
      simp only [bind_eq_ok, DeliveryRecord.transition_eq_ok, pure_eq_ok] at h
      obtain ⟨_, ⟨row, hmoved, rfl⟩, rfl⟩ := h
      simp only [hmoved, carryOut, DeliveryRecord.outbox_withOutbox hmoved]
      rfl
  | none =>
    simp only [Option.isSome_none, Bool.false_eq_true, and_false, if_false] at h ⊢
    have hwaiting : (if ∃ due ∈ record.nextAttemptAt, instant < due then pure .nothing else do
        let record ← record.transition .sending instant none
        return Decision.write record true) = .ok decision →
        claimWaiting deliveries record.outbox instant = carryOut deliveries record decision := by
      intro hdecision
      have hnext : record.outbox.nextAttemptAt = record.nextAttemptAt := rfl
      rw [claimWaiting, hnext]
      by_cases hdue : ∃ due ∈ record.nextAttemptAt, instant < due
      · rw [if_pos hdue] at hdecision ⊢
        cases hdecision
        rfl
      · rw [if_neg hdue] at hdecision ⊢
        simp only [bind_eq_ok, DeliveryRecord.transition_eq_ok, pure_eq_ok] at hdecision
        obtain ⟨_, ⟨row, hmoved, rfl⟩, rfl⟩ := hdecision
        simp only [hmoved, carryOut, DeliveryRecord.outbox_withOutbox hmoved]
        rfl
    rw [hstatus]
    cases hcase : record.status with
    | pending | retryWait => exact hwaiting (by simpa only [hcase] using h)
    | sending =>
      simp only [hcase] at h
      have hupdated : record.outbox.updatedAt = record.updatedAt := rfl
      simp only [claimSending, hupdated]
      by_cases hdue : instant < record.updatedAt + telegramDeliveryClaimTimeout
      · rw [if_pos hdue] at h ⊢
        cases h
        rfl
      · rw [if_neg hdue] at h ⊢
        cases h
        simp only [carryOut, DeliveryRecord.outbox, hcase]
    | sent | failed | cancelled =>
      simp only [hcase] at h
      cases h
      rfl

end Sessionless.Delivery
