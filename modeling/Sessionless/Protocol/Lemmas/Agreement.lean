import Sessionless.Protocol.Lemmas.Applied

/-!
# Records agree with the configuration

The handshake records of a machine were checked against its configuration when they were
taken. Every transition keeps this, so a snapshot a machine writes is one that its own
configuration restores.
-/

namespace Sessionless.Protocol

open Lib

variable [Crypto]

namespace ConformanceMachine

variable {machine machine' : ConformanceMachine} {direction : Direction}

/-- What the guards of the handshake leave true of the records of a machine. -/
structure Agrees (machine : ConformanceMachine) : Prop where
  hello : machine.hello.Valid → machine.hello.offer = machine.config.workerOffer
  challenge : machine.challenge.Valid → machine.challenge.platformOffer = machine.config.platformOffer ∧
    machine.challenge.selectedVersion = machine.config.auth.version
  manifest : machine.manifest.Valid → machine.manifest.workerId = machine.config.auth.workerId ∧
    machine.manifest.enrollmentGeneration = machine.config.auth.enrollmentGeneration ∧
    machine.manifest.protocolOffer = machine.config.workerOffer
  revoking : machine.revoke.Valid → machine.Revoking
  revoke : machine.revoke.Valid → machine.config.auth.enrollmentGeneration ≠ maxUint64 ∧
    machine.config.auth.connectionGeneration ≠ maxUint64 ∧
    machine.revoke.nextEnrollmentGeneration = machine.config.auth.enrollmentGeneration + 1 ∧
    machine.revoke.nextConnectionGeneration = machine.config.auth.connectionGeneration + 1
  generation : machine.reconnecting = true ∨ machine.drainReenvelopePending = true →
    machine.previousConnectionGeneration ≠ maxUint64 ∧
      machine.previousConnectionGeneration + 1 = machine.config.auth.connectionGeneration

theorem Agrees.no_revoke (h : machine.Agrees) (hr : ¬ machine.Revoking) : ¬ machine.revoke.Valid :=
  fun hv => hr (h.revoking hv)

theorem not_revoking {state} (hc : machine.connection = state) (hs : state ≠ .revoking ∧ state ≠ .revoked := by decide) :
    ¬ machine.Revoking := by
  rintro (h | h)
  · exact hs.1 (hc.symm.trans h)
  · exact hs.2 (hc.symm.trans h)

/-! ## Every transition keeps the agreement -/

variable (h : machine.Agrees)
include h

theorem Agrees.setAttempt (attempt : AttemptRecord) : (machine.setAttempt attempt).Agrees :=
  { h with }

theorem Agrees.setSender (state : SequenceState) : (machine.setSender direction state).Agrees := by
  cases direction with
  | platformToWorker | workerToPlatform => exact { h with }

theorem Agrees.apply {frame now}
    (ha : machine.apply direction frame now = .ok () machine') : machine'.Agrees := by
  have unrevoked : ∀ {p : Prop}, ¬ machine.Revoking → machine.revoke.Valid → p := fun hr hv => absurd hv (h.no_revoke hr)
  cases applied_of_apply ha with
  | hello hp hd hc ho => exact { h with hello := fun _ => ho, revoking := unrevoked (not_revoking hc) }
  | challenge hp hd hc ho hv =>
    exact { h with challenge := fun _ => ⟨ho, hv⟩, revoking := unrevoked (not_revoking hc) }
  | attach hp hd hc | attachAccepted hp hd hc | drain hp hd hc | drained hp hd hc =>
    exact { h with revoking := unrevoked (not_revoking hc) }
  | reconnect hp hg => exact { h with revoking := unrevoked (not_revoking hg.connection_eq) }
  | reconnectAccepted hp haccepted =>
    exact { h with revoking := unrevoked (not_revoking (acceptReconnectAccepted_ok haccepted).2.1) }
  | resumed hp hg hr =>
    exact { h with
      manifest := fun _ => ⟨hg.worker_eq, hg.enrollment_eq, hg.offer_eq⟩
      revoking := unrevoked (not_revoking hg.connection_eq)
      generation := fun _ => h.generation (.inl hr) }
  | admitted hp hg hr =>
    exact { h with
      manifest := fun _ => ⟨hg.worker_eq, hg.enrollment_eq, hg.offer_eq⟩
      revoking := unrevoked (not_revoking hg.connection_eq) }
  | heartbeat hp | repeated hp | error hp => exact h
  | moved hp hg hm => exact h.setAttempt _
  | drainAgain hp hd hc hpending => exact { h with generation := fun _ => h.generation (.inr hpending) }
  | revoke hp hd hg => exact { h with revoking := fun _ => .inl rfl, revoke := fun _ => hg }
  | revoked hp hd hc => exact { h with revoking := fun _ => .inr rfl }

theorem Agrees.accept {frame acceptance} (ha : machine.accept direction frame acceptance = .ok () machine') : machine'.Agrees := by
  rcases accept_ok.1 ha with ⟨-, -, -, -, -, rfl⟩ | ⟨-, applied, happ, rfl⟩
  · exact h
  · exact (h.apply happ).setSender _

theorem Agrees.beginReconnect {next} (hb : machine.beginReconnect next = .ok () machine') : machine'.Agrees := by
  obtain ⟨hg, rfl⟩ := beginReconnect_ok.1 hb
  have hrev : ¬ machine.revoke.Valid := h.no_revoke (by
    rcases hg.connection with hc | hc <;> simp [Revoking, hc])
  refine ⟨fun hv => absurd hv HelloV1.not_valid_default, fun hv => absurd hv ChallengeV1.not_valid_default, fun hv => ?_,
    fun hv => absurd hv hrev, fun hv => absurd hv hrev, fun _ => ⟨hg.notMax, hg.generation_eq.symm⟩⟩
  obtain ⟨h1, h2, h3⟩ := h.manifest hv
  exact ⟨h1.trans hg.worker_eq.symm, h2.trans hg.enrollment_eq.symm, h3⟩

theorem Agrees.eraseCommittedAttempt (he : machine.eraseCommittedAttempt = .ok () machine') :
    machine'.Agrees := by
  obtain ⟨-, rfl⟩ := eraseCommittedAttempt_ok.1 he
  exact h.setAttempt {}

theorem Agrees.acceptAll {acceptance frames} (ha : machine.acceptAll acceptance frames = .ok machine') : machine'.Agrees := by
  induction frames generalizing machine with
  | nil => exact acceptAll_nil.1 ha ▸ h
  | cons head rest ih =>
    obtain ⟨direction, frame⟩ := head
    obtain ⟨next, hn, hrest⟩ := acceptAll_cons.1 ha
    exact ih (h.accept hn) hrest

end ConformanceMachine

/-! ## Starting points -/

theorem agrees_newConformanceMachine {config machine}
    (h : newConformanceMachine config = .ok machine) : machine.Agrees := by
  simp only [newConformanceMachine, ite_ok_eq_ok] at h
  obtain ⟨-, rfl⟩ := h
  exact ⟨fun hv => absurd hv HelloV1.not_valid_default, fun hv => absurd hv ChallengeV1.not_valid_default,
    fun hv => absurd hv CapabilityManifestV1.not_valid_default, fun hv => absurd hv RevokeV1.not_valid_default,
    fun hv => absurd hv RevokeV1.not_valid_default, fun hr => by simp at hr⟩

theorem mem_of_getD_valid {α : Type} {P : α → Prop} {zero} (hz : ¬ P zero) {stored : Option α}
    (h : P (stored.getD zero)) : stored.getD zero ∈ stored := by
  cases stored with
  | none => exact absurd h hz
  | some a => simp

theorem agrees_restoreConformanceMachine {config snapshot}
    {machine : ConformanceMachine} (h : restoreConformanceMachine config snapshot = .ok machine) : machine.Agrees := by
  obtain ⟨⟨hvalid, -, hhello, hchallenge, hmanifest, hrevoke, hreconnect⟩, hm⟩ := restoreConformanceMachine_ok.1 h
  have hstate := hvalid.1.2.1.2.2.2.2.2.2.2.2.2.2.1
  obtain ⟨_, _, _, _, _, _, _, heq⟩ := restoreFields_eq config snapshot
  refine ⟨fun hv => ?_, fun hv => ?_, fun hv => ?_, fun hv => ?_, fun hv => ?_, fun hr => ?_⟩
  · rw [← hm, heq] at hv ⊢
    exact hhello _ (mem_of_getD_valid HelloV1.not_valid_default hv)
  · rw [← hm, heq] at hv ⊢
    obtain ⟨-, h1, h2, -⟩ := hchallenge _ (mem_of_getD_valid ChallengeV1.not_valid_default hv)
    exact ⟨h1, h2⟩
  · rw [← hm, heq] at hv ⊢
    obtain ⟨h1, h2, h3, -⟩ := hmanifest _ (mem_of_getD_valid CapabilityManifestV1.not_valid_default hv)
    exact ⟨h1, h2, h3⟩
  · rw [← hm, heq] at hv ⊢
    exact hstate.1 (Option.ne_none_iff_exists'.2 ⟨_, mem_of_getD_valid RevokeV1.not_valid_default hv⟩)
  · rw [← hm, heq] at hv ⊢
    exact hrevoke _ (mem_of_getD_valid RevokeV1.not_valid_default hv)
  · subst hm
    cases hs : snapshot.reconnect with
    | none => simp [restoreFields, hs] at hr
    | some reconnect =>
      simp only [restoreFields, hs]
      exact (hreconnect reconnect hs).2

/-! ## A written snapshot can be restored -/

theorem mem_present {α : Type} {P : α → Prop} [DecidablePred P] {a b} :
    b ∈ (if P a then some a else none) ↔ P a ∧ a = b := by
  simp [Option.ite_none_right_eq_some]

theorem ConformanceMachine.Agrees.validAgainst {machine : ConformanceMachine} {snapshot : MachineSnapshotV1}
    (h : machine.Agrees) (hs : machine.snapshot = .ok snapshot) : snapshot.ValidAgainst machine.config := by
  obtain ⟨digest, hd, hcontent, rfl⟩ := ConformanceMachine.snapshot_ok.1 hs
  obtain ⟨-, ⟨-, -, -, -, hpair, hmanifest, -⟩, -⟩ := hcontent
  have hauth : machine.config.auth.connectionGeneration ≠ 0 := (valid_of_machineConfigDigestV1 hd).1.2.2.2.2.2.1
  have hoffer : ∀ hello ∈ (machine.snapshotContent digest).hello, hello.offer = machine.config.workerOffer := by
    intro hello hh
    obtain ⟨hv, rfl⟩ := mem_present.1 hh
    exact h.hello hv
  refine ⟨hoffer, fun challenge hc => ?_, fun manifest hm => ?_, fun revoke hr => ?_, fun reconnect hr => ?_⟩
  · obtain ⟨hne, hsame⟩ := hpair challenge hc
    obtain ⟨hello, hh⟩ := Option.ne_none_iff_exists'.1 hne
    obtain ⟨hv, rfl⟩ := mem_present.1 hc
    exact ⟨(hsame hello hh).1.trans (hoffer hello hh), (h.challenge hv).1, (h.challenge hv).2, hne,
      fun hello hh => (hsame hello hh).2⟩
  · have hdigest := hmanifest manifest hm
    obtain ⟨hv, rfl⟩ := mem_present.1 hm
    exact ⟨(h.manifest hv).1, (h.manifest hv).2.1, (h.manifest hv).2.2, hdigest⟩
  · obtain ⟨hv, rfl⟩ := mem_present.1 hr
    exact h.revoke hv
  · simp only [ConformanceMachine.snapshotContent, ConformanceMachine.snapshotReconnect, Option.mem_def,
      Option.ite_none_right_eq_some, Option.some.injEq] at hr
    obtain ⟨hflag, rfl⟩ := hr
    exact ⟨hauth, h.generation hflag⟩

theorem ConformanceMachine.Agrees.restore {machine : ConformanceMachine} {snapshot}
    (h : machine.Agrees) (hs : machine.snapshot = .ok snapshot) :
    restoreConformanceMachine machine.config snapshot = .ok (restoreFields machine.config snapshot) := by
  obtain ⟨hvalid, hd⟩ := ConformanceMachine.valid_of_snapshot hs
  exact restoreConformanceMachine_ok.2 ⟨⟨hvalid, hd, h.validAgainst hs⟩, rfl⟩

end Sessionless.Protocol
