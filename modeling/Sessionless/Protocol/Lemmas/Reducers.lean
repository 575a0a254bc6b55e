import Sessionless.Protocol.Lemmas.Agreement

/-!
# The durable reducers

One inversion lemma per reducer: the machine it restored, the frame it applied and the
machine it persisted.
-/

namespace Sessionless.Protocol

open Lib

variable [Crypto]

/-! ## Answering a reconnect -/

/-- Everything a successful `BuildReconnectAcceptedSnapshotV1` went through, from the restored
predecessor `machine` to the machine `final` it persists. -/
structure ReconnectBuild (previousConfig : MachineConfig) (previousSnapshot : MachineSnapshotV1)
    (nextAuth : AuthContextV1) (signed accepted : FrameV1) (post : MachineSnapshotV1) (reconnect : ReconnectV1)
    (payload : ReconnectAcceptedV1) (machine final : ConformanceMachine) : Prop where
  signed_payload : signed.payload = .reconnect reconnect
  restored : restoreConformanceMachine previousConfig previousSnapshot = .ok machine
  begin : machine.BeginGuard nextAuth
  opening : (machine.reconnected nextAuth).OpeningGuard reconnect.toNegotiationV1
    ((machine.reconnected nextAuth).config.acceptance 1)
  claimed : ((machine.reconnected nextAuth).opened reconnect.toNegotiationV1).ReconnectGuard .workerToPlatform
    signed reconnect
  built : buildReconnectAcceptedV1 (machine.reconnected nextAuth).reconnectRecord reconnect.claim
    reconnect.toNegotiationV1 = .ok payload
  accepted_eq : accepted = (machine.reconnected nextAuth).config.reconnectAcceptedFrame payload
  accepted_fresh :
    (((machine.reconnected nextAuth).opened reconnect.toNegotiationV1).reconnectPended signed reconnect).Fresh
      .platformToWorker accepted ((machine.reconnected nextAuth).config.acceptance 1)
  answered : ∃ applied,
    (((machine.reconnected nextAuth).opened reconnect.toNegotiationV1).reconnectPended signed
      reconnect).acceptReconnectAccepted .platformToWorker payload = .ok () applied ∧
    final = applied.setSender .platformToWorker (ConformanceMachine.envelope accepted)
  agrees : final.Agrees
  persisted : final.snapshot = .ok post

theorem buildReconnectAcceptedSnapshotV1_ok {previousConfig previousSnapshot nextAuth signed accepted post}
    (h : buildReconnectAcceptedSnapshotV1 previousConfig previousSnapshot nextAuth signed = .ok (accepted, post)) :
    ∃ reconnect payload machine final, ReconnectBuild previousConfig previousSnapshot nextAuth signed accepted post
      reconnect payload machine final := by
  unfold buildReconnectAcceptedSnapshotV1 at h
  split at h
  · rename_i reconnect hs
    split at h
    · cases h
    · rename_i machine hr
      split at h
      · cases h
      · rename_i begun hb
        obtain ⟨hbegin, rfl⟩ := ConformanceMachine.beginReconnect_ok.1 hb
        dsimp only at h
        split at h
        · cases h
        · rename_i pended hall₀
          obtain ⟨hopen, hall⟩ := (ConformanceMachine.acceptAll_opening rfl rfl).1 hall₀
          obtain ⟨_, h₁, hnil⟩ := ConformanceMachine.acceptAll_cons.1 hall
          obtain rfl := ConformanceMachine.acceptAll_nil.1 hnil
          split at h
          · cases h
          · rename_i payload hbuilt
            split at h
            · cases h
            · rename_i final h₂
              split at h
              · cases h
              · rename_i written hw
                simp only [ite_error_eq_ok, Except.ok.injEq, Prod.mk.injEq] at h
                obtain ⟨-, rfl, rfl⟩ := h
                obtain ⟨-, hg, rfl, hf, hfinal⟩ :=
                  ConformanceMachine.accept_reconnect_accepted rfl rfl hs rfl rfl h₁ h₂
                have hagrees := (agrees_restoreConformanceMachine hr).beginReconnect hb
                exact ⟨reconnect, payload, machine, final, hs, hr, hbegin, hopen, hg, hbuilt, rfl, hf, hfinal,
                  (hagrees.acceptAll hall₀).accept h₂, hw⟩
  · cases h

abbrev nextConfig (previousConfig : MachineConfig) (nextAuth : AuthContextV1) : MachineConfig :=
  { previousConfig with auth := nextAuth }

namespace ReconnectBuild

variable {previousConfig : MachineConfig} {previousSnapshot : MachineSnapshotV1} {nextAuth : AuthContextV1}
  {signed accepted : FrameV1} {post : MachineSnapshotV1} {reconnect : ReconnectV1}
  {machine final : ConformanceMachine}
  (h : ReconnectBuild previousConfig previousSnapshot nextAuth signed accepted post reconnect payload machine final)

include h

theorem machine_eq : restoreFields previousConfig previousSnapshot = machine :=
  (restoreConformanceMachine_ok.1 h.restored).2

theorem config_eq : (machine.reconnected nextAuth).config = nextConfig previousConfig nextAuth := by
  simp [ConformanceMachine.reconnected, nextConfig, ← h.machine_eq]

theorem final_eq : ∃ attempt, final =
    { ((machine.reconnected nextAuth).opened reconnect.toNegotiationV1).reconnectPended signed reconnect with
      attempt := attempt, connection := .attached, platform := ConformanceMachine.envelope accepted } := by
  obtain ⟨applied, happ, hfinal⟩ := h.answered
  obtain ⟨attempt, rfl⟩ := ConformanceMachine.acceptReconnectAccepted_attempt happ
  exact ⟨attempt, hfinal⟩

theorem final_config : final.config = nextConfig previousConfig nextAuth := by
  obtain ⟨attempt, rfl⟩ := h.final_eq
  exact h.config_eq

theorem record_pending : (machine.reconnected nextAuth).reconnectRecord.pendingTerminalReplay =
    previousSnapshot.attempt.pendingWorkerTerminal.map MachinePendingTerminalSnapshotV1.terminal := by
  rw [← h.machine_eq]
  simp only [ConformanceMachine.reconnected, ConformanceMachine.reconnectRecord, sealReconnectSnapshot,
    ConformanceMachine.pendingTerminalForSnapshot, restoreFields_attempt, restoreAttempt, Option.map_map]
  rfl

end ReconnectBuild

/-! ## Frames -/

variable {config : MachineConfig} {snapshot post : MachineSnapshotV1} {machine : ConformanceMachine} {frame : FrameV1}

theorem applyMachineFrameV1_ok {direction now} :
    applyMachineFrameV1 config snapshot direction frame now = .ok post ↔
      ∃ machine machine', restoreConformanceMachine config snapshot = .ok machine ∧
        machine.accept direction frame (config.acceptance now) = .ok () machine' ∧ machine'.snapshot = .ok post := by
  unfold applyMachineFrameV1
  cases hr : restoreConformanceMachine config snapshot with
  | error code => simp
  | ok machine =>
    cases ha : machine.accept direction frame (config.acceptance now) with
    | error code other => simp [ha]
    | ok _ machine' => simp [ha]

theorem commitFrame_ok {frame' now} :
    commitFrame config machine frame now = .ok (frame', post) ↔
      frame.Valid ∧ frame' = frame ∧ ∃ machine', machine.accept .platformToWorker frame (config.acceptance now) =
        .ok () machine' ∧ machine'.snapshot = .ok post := by
  unfold commitFrame
  simp only [ite_error_eq_ok, Decidable.not_not]
  refine and_congr_right fun _ => ?_
  cases ha : machine.accept .platformToWorker frame (config.acceptance now) with
  | error code other => simp
  | ok _ machine' =>
    cases hs : machine'.snapshot with
    | error code => simp [hs]
    | ok written => simp [hs, eq_comm]

theorem replayPersisted_ok {message} :
    replayPersisted config machine snapshot message = .ok (frame, post) ↔
      exactPersistedPlatformAttemptFrame machine (currentPlatformFrame config machine (.attempt message)) message ∧
        frame = currentPlatformFrame config machine (.attempt message) ∧ post = snapshot := by
  simp only [replayPersisted, ite_ok_eq_ok, Prod.mk.injEq]
  exact and_congr_right fun _ => and_congr eq_comm eq_comm

/-! ## Platform reducers -/

structure PlatformGuard (config : MachineConfig) (snapshot : MachineSnapshotV1) (machine : ConformanceMachine)
    (now : Int) : Prop where
  restored : restoreConformanceMachine config snapshot = .ok machine
  time : 0 < now
  platform : machine.platform.sequence ≠ maxUint64

theorem buildLeaseOfferTransitionV1_ok {authority}
    (h : buildLeaseOfferTransitionV1 config snapshot authority = .ok (frame, post)) :
    ∃ machine, PlatformGuard config snapshot machine authority.nowUnixMicro ∧
      machine.connection = .ready ∧ machine.attempt.state = .idle ∧
      authority.nowUnixMicro < authority.expiresAtUnixMicro ∧
      commitFrame config machine (nextPlatformFrame config machine (.attempt (.leaseOffer {
        binding := authority.binding config.auth machine.capabilityDigest
        attemptSequence := machine.attempt.platform.sequence + 1 }))) authority.nowUnixMicro = .ok (frame, post) := by
  unfold buildLeaseOfferTransitionV1 at h
  cases hr : restoreConformanceMachine config snapshot with
  | error code => simp [hr] at h
  | ok machine =>
    simp only [hr, ite_error_eq_ok, not_or, ne_eq, Decidable.not_not, not_le] at h
    obtain ⟨⟨hc, hs, hnow, hexpiry, hp, -⟩, h⟩ := h
    exact ⟨machine, ⟨hr, hnow, hp⟩, hc, hs, hexpiry, h⟩

theorem buildCancelTransitionV1_ok {authority}
    (h : buildCancelTransitionV1 config snapshot authority = .ok (frame, post)) :
    ∃ machine, PlatformGuard config snapshot machine authority.nowUnixMicro ∧ authority.revision = 1 ∧
      (authority.code = .requested ∨ authority.code = .fenced) ∧
      ((machine.attempt.cancelRevision = authority.revision ∧ machine.attempt.cancelCode = authority.code ∧
          replayPersisted config machine snapshot (cancelMessage machine machine.attempt.platform.sequence
            machine.attempt.cancelRevision machine.attempt.cancelCode) = .ok (frame, post)) ∨
        (machine.attempt.cancelRevision = 0 ∧
          commitFrame config machine (nextPlatformFrame config machine (.attempt (cancelMessage machine
            (machine.attempt.platform.sequence + 1) authority.revision authority.code))) authority.nowUnixMicro =
            .ok (frame, post))) := by
  unfold buildCancelTransitionV1 at h
  cases hr : restoreConformanceMachine config snapshot with
  | error code => simp [hr] at h
  | ok machine =>
    simp only [hr, ite_error_eq_ok, not_or, ne_eq, Decidable.not_not, not_le, not_and, ← or_iff_not_imp_left] at h
    obtain ⟨⟨hrevision, hcode, hnow, hp, -⟩, h⟩ := h
    refine ⟨machine, ⟨hr, hnow, hp⟩, hrevision, hcode, ?_⟩
    by_cases h0 : machine.attempt.cancelRevision = 0
    · simp only [h0, not_true_eq_false, if_false] at h
      exact .inr ⟨h0, h⟩
    · simp only [h0, not_false_eq_true, if_true, ite_error_eq_ok, not_or, Decidable.not_not] at h
      exact .inl ⟨h.1.1, h.1.2, h.2⟩

theorem buildLeaseAcceptedTransitionV1_ok {now}
    (h : buildLeaseAcceptedTransitionV1 config snapshot now = .ok (frame, post)) :
    ∃ machine, PlatformGuard config snapshot machine now ∧
      ((machine.attempt.state = .claimed ∧
          replayPersisted config machine snapshot (leaseAcceptedMessage machine machine.attempt.platform.sequence) =
            .ok (frame, post)) ∨
        (machine.attempt.state ≠ .claimed ∧
          commitFrame config machine (nextPlatformFrame config machine (.attempt (leaseAcceptedMessage machine
            (machine.attempt.platform.sequence + 1)))) now = .ok (frame, post))) := by
  unfold buildLeaseAcceptedTransitionV1 at h
  cases hr : restoreConformanceMachine config snapshot with
  | error code => simp [hr] at h
  | ok machine =>
    simp only [hr, ite_error_eq_ok, not_or, not_le] at h
    obtain ⟨⟨hnow, hp, -⟩, h⟩ := h
    refine ⟨machine, ⟨hr, hnow, hp⟩, ?_⟩
    by_cases hs : machine.attempt.state = .claimed
    · rw [if_pos hs] at h
      exact .inl ⟨hs, h⟩
    · rw [if_neg hs] at h
      exact .inr ⟨hs, h⟩

theorem buildTerminalAckTransitionV1_ok {now}
    (h : buildTerminalAckTransitionV1 config snapshot now = .ok (frame, post)) :
    ∃ machine, PlatformGuard config snapshot machine now ∧
      ((machine.attempt.state = .terminalCommitted ∧
          replayPersisted config machine snapshot (terminalAckMessage machine machine.attempt.platform.sequence) =
            .ok (frame, post)) ∨
        (machine.attempt.state ≠ .terminalCommitted ∧
          commitFrame config machine (nextPlatformFrame config machine (.attempt (terminalAckMessage machine
            (machine.attempt.platform.sequence + 1)))) now = .ok (frame, post))) := by
  unfold buildTerminalAckTransitionV1 at h
  cases hr : restoreConformanceMachine config snapshot with
  | error code => simp [hr] at h
  | ok machine =>
    simp only [hr, ite_error_eq_ok, not_or, not_le] at h
    obtain ⟨⟨hnow, hp, -⟩, h⟩ := h
    refine ⟨machine, ⟨hr, hnow, hp⟩, ?_⟩
    by_cases hs : machine.attempt.state = .terminalCommitted
    · rw [if_pos hs] at h
      exact .inl ⟨hs, h⟩
    · rw [if_neg hs] at h
      exact .inr ⟨hs, h⟩

theorem buildDrainTransitionV1_ok {authority}
    (h : buildDrainTransitionV1 config snapshot authority = .ok (frame, post)) :
    ∃ machine, PlatformGuard config snapshot machine authority.nowUnixMicro ∧ authority.revision ≠ 0 ∧
      ((machine.connection = .draining ∧ authority.deliveredConnectionGeneration = config.auth.connectionGeneration ∧
          machine.drainRevision = authority.revision ∧ frame = currentPlatformFrame config machine (.drain ⟨machine.drainRevision⟩) ∧ post = snapshot) ∨
        commitFrame config machine (nextPlatformFrame config machine (.drain ⟨authority.revision⟩))
          authority.nowUnixMicro = .ok (frame, post)) := by
  unfold buildDrainTransitionV1 at h
  cases hr : restoreConformanceMachine config snapshot with
  | error code => simp [hr] at h
  | ok machine =>
    simp only [hr, ite_error_eq_ok, not_or, not_le] at h
    obtain ⟨⟨hzero, hnow, hp⟩, h⟩ := h
    refine ⟨machine, ⟨hr, hnow, hp⟩, hzero, ?_⟩
    split at h
    · rename_i hdraining
      simp only [ite_error_eq_ok, ne_eq, Decidable.not_not] at h
      obtain ⟨hrevision, h⟩ := h
      split at h
      · cases h
      · rename_i persisted hpersisted
        cases h
        simp only [exactPersistedDrainFrame, Option.ite_none_left_eq_some, Option.some.injEq] at hpersisted
        exact .inl ⟨hdraining.1, hdraining.2, hrevision, hpersisted.2.symm, rfl⟩
    · simp only [ite_error_eq_ok] at h
      exact .inr h.2

/-! ## Retirement -/

theorem retireCommittedAttemptV1_ok (h : retireCommittedAttemptV1 config snapshot = .ok post) :
    ∃ machine, restoreConformanceMachine config snapshot = .ok machine ∧
      machine.attempt.state = .terminalCommitted ∧ machine.platform.sequence ≤ machine.worker.ack ∧
      (machine.setAttempt {}).snapshot = .ok post := by
  unfold retireCommittedAttemptV1 at h
  cases hr : restoreConformanceMachine config snapshot with
  | error code => simp [hr] at h
  | ok machine =>
    simp only [hr, ite_error_eq_ok, not_or, ne_eq, Decidable.not_not, not_lt] at h
    obtain ⟨⟨hs, hack⟩, h⟩ := h
    refine ⟨machine, rfl, hs, hack, ?_⟩
    have he := ConformanceMachine.eraseCommittedAttempt_ok.2 ⟨hs, rfl⟩
    rw [he] at h
    dsimp only at h
    split at h
    · cases h
    · rename_i written hw
      cases h
      exact hw

theorem retirePreClaimCancelledAttemptV1_ok (h : retirePreClaimCancelledAttemptV1 config snapshot = .ok post) :
    ∃ machine, restoreConformanceMachine config snapshot = .ok machine ∧ machine.attempt.state = .cancelAcked ∧
      (machine.setAttempt {}).snapshot = .ok post := by
  unfold retirePreClaimCancelledAttemptV1 at h
  cases hr : restoreConformanceMachine config snapshot with
  | error code => simp [hr] at h
  | ok machine =>
    simp only [hr, ite_error_eq_ok, ne_eq, Decidable.not_not] at h
    obtain ⟨hs, h⟩ := h
    refine ⟨machine, rfl, hs, ?_⟩
    split at h
    · cases h
    · rename_i written hw
      cases h
      exact hw

end Sessionless.Protocol
