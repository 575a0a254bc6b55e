import Sessionless.Protocol.Duplex
import Sessionless.Protocol.Lemmas.Soundness

/-!
# Crossing frames commute

A platform frame and a worker frame that a machine accepts, and that do not collide, are
accepted in either order and leave the same machine.
-/

namespace Sessionless.Protocol

open Lib

variable [Crypto]

namespace ConformanceMachine

variable {machine machine' : ConformanceMachine} {direction : Direction}

/-! ## Attempt messages -/

theorem Moves.of_worker {message attempt}
    (h : machine.Moves .workerToPlatform message attempt) : machine.attempt.state ≠ .idle := by
  cases h with
  | leaseClaim message hs => simp [hs]
  | progress message hf hs => rcases hs with hs | hs | hs <;> simp [hs]
  | cancelAck message hf hs => rcases hs with hs | hs <;> simp [hs]
  | swallowed message hs | terminal message hs => rcases hs with hs | hs | hs | hs <;> simp [hs]

/-- Of the worker messages that can meet a cancellation, progress and an outcome give the same record in either order. -/
theorem Moves.join {platformMessage workerMessage left right}
    (hv : ¬ machine.Revoking) (hu : machine.attempt.Uncancelled)
    (hp : machine.Moves .platformToWorker platformMessage left)
    (hw : machine.Moves .workerToPlatform workerMessage right) (hc : ∀ cancel, platformMessage = .cancel cancel →
      (∀ claim, workerMessage ≠ .leaseClaim claim) ∧
      (cancel.code = .fenced → (∀ progress, workerMessage ≠ .progress progress) ∧
        ∀ terminal, workerMessage ≠ .terminal terminal)) :
    ∃ left' right', (machine.setAttempt (entered left .platformToWorker platformMessage)).Moves .workerToPlatform
        workerMessage right' ∧
      (machine.setAttempt (entered right .workerToPlatform workerMessage)).Moves .platformToWorker
        platformMessage left' ∧
      entered right' .workerToPlatform workerMessage = entered left' .platformToWorker platformMessage := by
  cases hp with
  | leaseOffer message hcon hs => exact absurd hs hw.of_worker
  | leaseAccepted message hs | terminalAck message hs =>
    cases hw with
    | leaseClaim message hs' => simp [hs] at hs'
    | progress message hf hs' => simp [hs] at hs'
    | cancelAck message hf hs' => simp [hs] at hs'
    | swallowed message hs' => simp [hs] at hs'
    | terminal message hs' => simp [hs] at hs'
  | cancel cancel hf hs hr =>
    obtain ⟨hclaim, hfenced⟩ := hc cancel rfl
    cases hw with
    | leaseClaim claim => exact absurd rfl (hclaim claim)
    | progress progress hfeature hs' hq hmax =>
      have hstate : machine.attempt.state = .claimed := by
        rcases hs' with h | h | h <;> simp [h] at hs ⊢
      have hcode : ¬ cancel.code = .fenced := fun h => (hfenced h).1 progress rfl
      refine ⟨_, _, .progress progress hfeature ?_ hq hmax, .cancel cancel hf ?_ hr, rfl⟩
      · exact .inr (.inl (if_neg hcode))
      · exact .inr (.inr (.inl hstate))
    | cancelAck ack hfeature hs' => rcases hs' with h | h <;> simp [h] at hs
    | swallowed terminal hs' hq hcancelled =>
      have hstate : machine.attempt.state = .claimed := by
        rcases hs' with h | h | h | h <;> simp [h] at hs ⊢
      exact absurd (hu (.inr (.inr (.inr hstate)))) hcancelled
    | terminal terminal hs' hq hcancelled =>
      have hstate : machine.attempt.state = .claimed := by
        rcases hs' with h | h | h | h <;> simp [h] at hs ⊢
      have hstatus := hcancelled.1 (hu (.inr (.inr (.inr hstate))))
      have hcode : ¬ cancel.code = .fenced := fun h => (hfenced h).2 terminal rfl
      -- the cancellation wins: it clears an outcome it finds, and swallows one that comes later
      refine ⟨_, _, .swallowed terminal ?_ hq ?_ hstatus hcode hv, .cancel cancel hf ?_ hr, rfl⟩
      · exact .inr (.inl (if_neg hcode))
      · exact fun h0 => absurd (hr.symm.trans h0) (by decide)
      · simp only [setAttempt, entered, hstate]
        split
        · exact .inr (.inr (.inr rfl))
        · exact .inr (.inr (.inl rfl))

/-- The ledger of the other direction, and so what counts as a duplicate there, is not touched. -/
theorem Moves.entered_other {message attempt}
    (h : machine.Moves direction message attempt) (other : AttemptMessage) {reverse} (hd : direction ≠ reverse) :
    (machine.setAttempt (entered attempt direction message)).attemptSender reverse = machine.attemptSender reverse ∧
      (machine.setAttempt (entered attempt direction message)).pendingRefusal reverse other =
        machine.pendingRefusal reverse other := by
  obtain ⟨hp, hw, hpending, -⟩ := h.kept
  cases direction with
  | platformToWorker =>
    cases reverse with
    | platformToWorker => exact absurd rfl hd
    | workerToPlatform =>
      simp only [setAttempt, entered, attemptSender, pendingRefusal, hpending, hw, and_self]
  | workerToPlatform =>
    cases reverse with
    | platformToWorker => exact ⟨hp, rfl⟩
    | workerToPlatform => exact absurd rfl hd

theorem AttemptGuard.after {message other attempt reverse now}
    (hg : machine.AttemptGuard reverse other now) (hm : machine.Moves direction message attempt)
    (hd : direction ≠ reverse) (hs : machine.attempt.state ≠ .idle) :
    (machine.setAttempt (entered attempt direction message)).AttemptGuard reverse other now := by
  obtain ⟨hsender, hrefusal⟩ := hm.entered_other other hd
  refine ⟨hrefusal.trans hg.admitted, hsender ▸ hg.notMax, hsender ▸ hg.sequence_eq, fun _ => ?_, hg.capability_eq,
    hg.lease⟩
  rw [hg.binding_eq hs, ← hm.kept.2.2.2 hs]
  cases direction with
  | platformToWorker | workerToPlatform => rfl

theorem Duplicate.after {message other attempt reverse}
    (h : machine.Duplicate reverse other) (hm : machine.Moves direction message attempt) (hd : direction ≠ reverse) :
    (machine.setAttempt (entered attempt direction message)).Duplicate reverse other := by
  obtain ⟨hsender, hrefusal⟩ := hm.entered_other other hd
  exact ⟨hrefusal.trans h.admitted, hsender ▸ h.sequence_le, h.sequence_ne, hsender ▸ h.fingerprint_eq⟩

theorem acceptAttempt_join {platformMessage workerMessage left right now now'} (hv : ¬ machine.Revoking) (hu : machine.attempt.Uncancelled)
    (hp : machine.acceptAttempt .platformToWorker platformMessage now = .ok () left)
    (hw : machine.acceptAttempt .workerToPlatform workerMessage now' = .ok () right)
    (hc : (machine.attemptSender .platformToWorker).sequence < platformMessage.sequence →
      (machine.attemptSender .workerToPlatform).sequence < workerMessage.sequence →
      ∀ cancel, platformMessage = .cancel cancel → (∀ claim, workerMessage ≠ .leaseClaim claim) ∧
      (cancel.code = .fenced → (∀ progress, workerMessage ≠ .progress progress) ∧
        ∀ terminal, workerMessage ≠ .terminal terminal)) :
    ∃ final, left.acceptAttempt .workerToPlatform workerMessage now' = .ok () final ∧
      right.acceptAttempt .platformToWorker platformMessage now = .ok () final := by
  rcases acceptAttempt_cases hp with ⟨hdup, rfl⟩ | ⟨hguard, attempt, hmove, rfl⟩
  · rcases acceptAttempt_cases hw with ⟨hdup', rfl⟩ | ⟨-, attempt', hmove', rfl⟩
    · exact ⟨_, hw, hp⟩
    · exact ⟨_, hw, (hdup.after hmove' (by simp)).acceptAttempt⟩
  · rcases acceptAttempt_cases hw with ⟨hdup', rfl⟩ | ⟨hguard', attempt', hmove', rfl⟩
    · exact ⟨_, (hdup'.after hmove (by simp)).acceptAttempt, hp⟩
    · have hs := hmove'.of_worker
      have hlt := hguard.sequence_eq
      have hlt' := hguard'.sequence_eq
      obtain ⟨first, second, hworker, hplatform, heq⟩ := hmove.join hv hu hmove' (hc (by omega) (by omega))
      refine ⟨_, acceptAttempt_of_moves (hguard'.after hmove (by simp) hs) hworker, ?_⟩
      rw [acceptAttempt_of_moves (hguard.after hmove' (by simp) hs) hplatform, heq]
      rfl

/-! ## Frames -/

theorem Moves.of_same {other : ConformanceMachine} {message attempt}
    (h : machine.Moves direction message attempt) (ha : other.attempt = machine.attempt)
    (hm : other.manifest = machine.manifest)
    (hc : direction = .platformToWorker → other.connection = machine.connection)
    (hv : other.Revoking ↔ machine.Revoking) : other.Moves direction message attempt := by
  have hfeature : ∀ feature, other.hasFeature feature ↔ machine.hasFeature feature := fun feature => by
    simp only [hasFeature, hm]
  cases h with
  | leaseOffer message hcon hs hq => exact ha ▸ .leaseOffer message ((hc rfl).trans hcon) (ha ▸ hs) hq
  | leaseClaim message hs => exact ha ▸ .leaseClaim message (ha ▸ hs)
  | leaseAccepted message hs => exact ha ▸ .leaseAccepted message (ha ▸ hs)
  | progress message hf hs hq hmax =>
    exact ha ▸ .progress message ((hfeature _).2 hf) (ha ▸ hs) (ha ▸ hq) (ha ▸ hmax)
  | cancel message hf hs hr => exact ha ▸ .cancel message ((hfeature _).2 hf) (ha ▸ hs) hr
  | cancelAck message hf hs hr => exact ha ▸ .cancelAck message ((hfeature _).2 hf) (ha ▸ hs) (ha ▸ hr)
  | swallowed message hs hq hcan hst hcode hrev =>
    exact ha ▸ .swallowed message (ha ▸ hs) hq (ha ▸ hcan) hst (ha ▸ hcode) (fun h => hrev (hv.1 h))
  | terminal message hs hq hcan =>
    have hmove := @Moves.terminal other message (ha ▸ hs) hq (ha ▸ hcan)
    simp only [hv, ha] at hmove
    exact hmove
  | terminalAck message hs hrev h1 h2 h3 h4 =>
    exact ha ▸ .terminalAck message (ha ▸ hs) (fun h => hrev (hv.1 h)) (ha ▸ h1) (ha ▸ h2) (ha ▸ h3) (ha ▸ h4)

theorem attemptSender_congr {other : ConformanceMachine} (direction) (h : other.attempt = machine.attempt) :
    other.attemptSender direction = machine.attemptSender direction := by
  cases direction with
  | platformToWorker => exact congrArg AttemptRecord.platform h
  | workerToPlatform => exact congrArg AttemptRecord.worker h

theorem acceptAttempt_of_same {other : ConformanceMachine} {message now}
    (h : machine.acceptAttempt direction message now = .ok () machine') (ha : other.attempt = machine.attempt)
    (hm : other.manifest = machine.manifest) (hd : other.capabilityDigest = machine.capabilityDigest)
    (hc : direction = .platformToWorker → other.connection = machine.connection)
    (hv : other.Revoking ↔ machine.Revoking) :
    other.acceptAttempt direction message now = .ok () (other.setAttempt machine'.attempt) := by
  have hsender := attemptSender_congr direction ha
  have hrefusal : other.pendingRefusal direction message = machine.pendingRefusal direction message := by
    simp only [pendingRefusal, ha]
  rcases acceptAttempt_cases h with ⟨hdup, rfl⟩ | ⟨hguard, attempt, hmove, rfl⟩
  · have hother : other.Duplicate direction message :=
      ⟨hrefusal.trans hdup.admitted, hsender ▸ hdup.sequence_le, hdup.sequence_ne, hsender ▸ hdup.fingerprint_eq⟩
    rw [hother.acceptAttempt, ← ha]
    rfl
  · have hother : other.AttemptGuard direction message now :=
      ⟨hrefusal.trans hguard.admitted, hsender ▸ hguard.notMax, hsender ▸ hguard.sequence_eq, ha ▸ hguard.binding_eq,
        hd ▸ hguard.capability_eq, hguard.lease⟩
    exact acceptAttempt_of_moves hother (hmove.of_same ha hm hc hv)

theorem apply_setSender {frame : FrameV1} {now reverse state}
    (hx : frame.payload.Exchanged) (h : machine.apply direction frame now = .ok () machine') :
    (machine.setSender reverse state).apply direction frame now = .ok () (machine'.setSender reverse state) := by
  cases hpayload : frame.payload with
  | attempt message =>
    simp only [apply, hpayload] at h ⊢
    obtain ⟨attempt, rfl⟩ := acceptAttempt_attempt h
    cases reverse with
    | platformToWorker => exact acceptAttempt_of_same h rfl rfl rfl (fun _ => rfl) Iff.rfl
    | workerToPlatform => exact acceptAttempt_of_same h rfl rfl rfl (fun _ => rfl) Iff.rfl
  | heartbeat heartbeat =>
    simp only [apply, hpayload] at h ⊢
    obtain ⟨hguard, havailable, rfl⟩ := acceptHeartbeat_ok.1 h
    cases reverse with
    | platformToWorker => exact acceptHeartbeat_ok.2 ⟨hguard, havailable, rfl⟩
    | workerToPlatform => exact acceptHeartbeat_ok.2 ⟨hguard, havailable, rfl⟩
  | drain drain =>
    simp only [apply, hpayload] at h ⊢
    obtain ⟨hd, ⟨hc, h1, h2, rfl⟩ | ⟨hc, h1, h2, h3, h4, h5, rfl⟩⟩ := acceptDrain_ok.1 h
    · cases reverse with
      | platformToWorker => exact acceptDrain_ok.2 ⟨hd, .inl ⟨hc, h1, h2, rfl⟩⟩
      | workerToPlatform => exact acceptDrain_ok.2 ⟨hd, .inl ⟨hc, h1, h2, rfl⟩⟩
    · cases reverse with
      | platformToWorker => exact acceptDrain_ok.2 ⟨hd, .inr ⟨hc, h1, h2, h3, h4, h5, rfl⟩⟩
      | workerToPlatform => exact acceptDrain_ok.2 ⟨hd, .inr ⟨hc, h1, h2, h3, h4, h5, rfl⟩⟩
  | _ => rw [hpayload] at hx; exact hx.elim

theorem acceptDrain_join {drain} {workerFrame : FrameV1} {left right : ConformanceMachine} {now}
    (hx : workerFrame.payload.Exchanged) (hp : machine.acceptDrain .platformToWorker drain = .ok () left)
    (hw : machine.apply .workerToPlatform workerFrame now = .ok () right)
    (hc : ∀ heartbeat, workerFrame.payload = .heartbeat heartbeat → ¬ heartbeat.available = true) :
    ∃ final, left.apply .workerToPlatform workerFrame now = .ok () final ∧
      right.acceptDrain .platformToWorker drain = .ok () final := by
  have hleft : ∃ revision pending, left = { machine with
      connection := .draining, drainRevision := revision, drainReenvelopePending := pending } ∧
      (machine.connection = .ready ∨ machine.connection = .draining) := by
    obtain ⟨-, ⟨hcon, -, h2, rfl⟩ | ⟨hcon, -, -, -, -, -, rfl⟩⟩ := acceptDrain_ok.1 hp
    · exact ⟨_, _, rfl, .inl hcon⟩
    · exact ⟨_, _, by rw [← hcon], .inr hcon⟩
  obtain ⟨revision, pending, rfl, hcon⟩ := hleft
  have hv : ¬ machine.Revoking := by
    rcases hcon with hcon | hcon <;> simp [Revoking, hcon]
  cases hpayload : workerFrame.payload with
  | attempt message =>
    simp only [apply, hpayload] at hw ⊢
    obtain ⟨attempt, rfl⟩ := acceptAttempt_attempt hw
    refine ⟨_, acceptAttempt_of_same hw rfl rfl rfl (by simp) ⟨fun h => ?_, fun h => absurd h hv⟩, ?_⟩
    · rcases h with h | h <;> cases h
    · obtain ⟨hd, ⟨hcon, h1, h2, h3⟩ | ⟨hcon, h1, h2, h3, h4, h5, h6⟩⟩ := acceptDrain_ok.1 hp
      · exact acceptDrain_ok.2 ⟨hd, .inl ⟨hcon, h1, h2, by rw [h3]; rfl⟩⟩
      · exact acceptDrain_ok.2 ⟨hd, .inr ⟨hcon, h1, h2, h3, h4, h5, by rw [h6]; rfl⟩⟩
  | heartbeat heartbeat =>
    simp only [apply, hpayload] at hw ⊢
    obtain ⟨⟨hd, -⟩, -, rfl⟩ := acceptHeartbeat_ok.1 hw
    exact ⟨_, acceptHeartbeat_ok.2 ⟨⟨hd, .inr rfl⟩, fun h => absurd h (hc heartbeat hpayload), rfl⟩, hp⟩
  | drain drain =>
    simp only [apply, hpayload] at hw
    exact absurd (acceptDrain_ok.1 hw).1 (by simp)
  | _ => rw [hpayload] at hx; exact hx.elim

theorem apply_join {platformFrame workerFrame left right now now'}
    (hv : ¬ machine.Revoking) (hu : machine.attempt.Uncancelled) (hx : platformFrame.payload.Exchanged)
    (hx' : workerFrame.payload.Exchanged) (hc : ¬ machine.Clashes platformFrame workerFrame)
    (hp : machine.apply .platformToWorker platformFrame now = .ok () left)
    (hw : machine.apply .workerToPlatform workerFrame now' = .ok () right) :
    ∃ final, left.apply .workerToPlatform workerFrame now' = .ok () final ∧
      right.apply .platformToWorker platformFrame now = .ok () final := by
  cases hpayload : platformFrame.payload with
  | attempt message =>
    cases hpayload' : workerFrame.payload with
    | attempt message' =>
      simp only [apply, hpayload, hpayload'] at hp hw ⊢
      refine acceptAttempt_join hv hu hp hw fun hlt hlt' cancel hcancel => ?_
      have hunseen : machine.Unseen .platformToWorker platformFrame := fun message h => by
        rw [hpayload] at h
        cases h
        exact hlt
      have hunseen' : machine.Unseen .workerToPlatform workerFrame := fun message h => by
        rw [hpayload'] at h
        cases h
        exact hlt'
      simp only [Clashes, hunseen, hunseen', and_true, Collides, hpayload, hpayload', hcancel] at hc
      refine ⟨fun claim h => ?_, fun hcode => ⟨fun progress h => ?_, fun terminal h => ?_⟩⟩
      · simp [h] at hc
      · simp [h, hcode] at hc
      · simp [h, hcode] at hc
    | heartbeat heartbeat =>
      simp only [apply, hpayload, hpayload'] at hp hw ⊢
      obtain ⟨hguard, havailable, rfl⟩ := acceptHeartbeat_ok.1 hw
      obtain ⟨attempt, rfl⟩ := acceptAttempt_attempt hp
      exact ⟨_, acceptHeartbeat_ok.2 ⟨hguard, havailable, rfl⟩, hp⟩
    | drain drain =>
      simp only [apply, hpayload'] at hw
      exact absurd (acceptDrain_ok.1 hw).1 (by simp)
    | _ => rw [hpayload'] at hx'; exact hx'.elim
  | heartbeat heartbeat =>
    simp only [apply, hpayload] at hp
    exact absurd (acceptHeartbeat_ok.1 hp).1.1 (by simp)
  | drain drain =>
    simp only [apply, hpayload] at hp ⊢
    refine acceptDrain_join hx' hp hw fun heartbeat h => ?_
    have hunseen : machine.Unseen .platformToWorker platformFrame := fun message hm => by simp [hpayload] at hm
    have hunseen' : machine.Unseen .workerToPlatform workerFrame := fun message hm => by simp [h] at hm
    simpa only [Clashes, hunseen, hunseen', and_true, Collides, hpayload, h] using hc
  | _ => rw [hpayload] at hx; exact hx.elim

/-! ## Envelopes -/

/-- A connection in use, on which no attempt was cancelled up to its claim. -/
structure Established (machine : ConformanceMachine) : Prop where
  connection : machine.connection = .ready ∨ machine.connection = .draining
  uncancelled : machine.attempt.Uncancelled

theorem Established.not_revoking (h : machine.Established) : ¬ machine.Revoking := by
  rcases h.connection with hc | hc <;> simp [Revoking, hc]

theorem Moves.uncancelled {message attempt}
    (h : machine.Moves direction message attempt) (hu : machine.attempt.Uncancelled) :
    (entered attempt direction message).Uncancelled := by
  cases h with
  | leaseOffer message hc hs => exact fun _ => hu (.inl hs)
  | leaseClaim message hs => exact fun _ => hu (.inr (.inl hs))
  | leaseAccepted message hs => exact fun _ => hu (.inr (.inr (.inl hs)))
  | progress message => exact hu
  | cancel message =>
    intro h
    simp only [entered] at h
    split at h <;> simp at h
  | cancelAck message hf hs =>
    intro h
    rcases hs with hs | hs <;> simp [entered, hs] at h
  | swallowed message => exact hu
  | terminal message hs =>
    intro h
    simp only [entered] at h
    split at h
    · simp at h
    · exact hu h
  | terminalAck message =>
    intro h
    simp [entered] at h

theorem Established.apply {frame now} (h : machine.Established) (hx : frame.payload.Exchanged)
    (ha : machine.apply direction frame now = .ok () machine') : machine'.Established := by
  cases hpayload : frame.payload with
  | attempt message =>
    simp only [ConformanceMachine.apply, hpayload] at ha
    rcases moves_of_acceptAttempt ha with rfl | ⟨-, attempt, hm, rfl⟩
    · exact h
    · exact ⟨h.connection, hm.uncancelled h.uncancelled⟩
  | heartbeat heartbeat =>
    simp only [ConformanceMachine.apply, hpayload] at ha
    obtain ⟨-, -, rfl⟩ := acceptHeartbeat_ok.1 ha
    exact h
  | drain drain =>
    simp only [ConformanceMachine.apply, hpayload] at ha
    obtain ⟨-, ⟨-, -, -, rfl⟩ | ⟨hc, -, -, -, -, -, rfl⟩⟩ := acceptDrain_ok.1 ha
    · exact ⟨.inr rfl, h.uncancelled⟩
    · exact ⟨.inr hc, h.uncancelled⟩
  | _ => rw [hpayload] at hx; exact hx.elim

theorem takes_iff {frame} : Takes direction machine frame machine' ↔
    frame.payload.Exchanged ∧ ∃ now, machine.Fresh direction frame (machine.config.acceptance now) ∧
      ∃ applied, machine.apply direction frame now = .ok () applied ∧
        applied.setSender direction (envelope frame) = machine' := by
  constructor
  · rintro ⟨hx, hne, now, ha⟩
    rcases accept_ok.1 ha with ⟨-, -, heq, -⟩ | ⟨hf, happlied⟩
    · exact absurd heq hne
    · exact ⟨hx, now, hf, happlied⟩
  · rintro ⟨hx, now, hf, happlied⟩
    refine ⟨hx, fun heq => ?_, now, accept_ok.2 (.inr ⟨hf, happlied⟩)⟩
    have := hf.sequence_eq
    omega

theorem apply_timely {frame now now'} (h : machine.apply direction frame now = .ok () machine')
    (ht : frame.payload.Timely now') : machine.apply direction frame now' = .ok () machine' := by
  cases hpayload : frame.payload with
  | attempt message =>
    simp only [ConformanceMachine.apply, hpayload] at h ⊢
    rw [hpayload] at ht
    rcases acceptAttempt_ok.1 h with hdup | ⟨hguard, happlied⟩
    · exact acceptAttempt_ok.2 (.inl hdup)
    · exact acceptAttempt_ok.2 (.inr ⟨{ hguard with lease := fun _ => ht }, happlied⟩)
  | _ => simpa only [ConformanceMachine.apply, hpayload] using h

theorem Takes.accept {frame} (h : Takes direction machine frame machine') {now} (hn : 0 < now)
    (ht : frame.payload.Timely now) :
    machine.accept direction frame (machine.config.acceptance now) = .ok () machine' := by
  obtain ⟨-, now', hf, applied, happ, rfl⟩ := takes_iff.1 h
  obtain ⟨h1, h2, -, h4, h5, h6, h7, h8⟩ := hf.authorized
  exact accept_ok.2 (.inr ⟨{ hf with authorized := ⟨h1, h2, hn, h4, h5, h6, h7, h8⟩ }, applied, apply_timely happ ht, rfl⟩)

theorem apply_unique {frame now now' left right}
    (hl : machine.apply direction frame now = .ok () left) (hr : machine.apply direction frame now' = .ok () right) :
    left = right := by
  cases hpayload : frame.payload with
  | attempt message =>
    simp only [ConformanceMachine.apply, hpayload] at hl hr
    rcases acceptAttempt_ok.1 hl with ⟨-, hle, -, -, rfl⟩ | ⟨hguard, applied, ha, rfl⟩
    · rcases acceptAttempt_ok.1 hr with ⟨-, -, -, -, rfl⟩ | ⟨hguard, -⟩
      · rfl
      · have := hguard.sequence_eq
        omega
    · rcases acceptAttempt_ok.1 hr with ⟨-, hle, -⟩ | ⟨-, applied', ha', rfl⟩
      · have := hguard.sequence_eq
        omega
      · rw [ha] at ha'
        cases ha'
        rfl
  | _ =>
    simp only [ConformanceMachine.apply, hpayload] at hl hr
    rw [hl] at hr
    cases hr
    rfl

theorem takes_unique {frame left right} (hl : Takes direction machine frame left)
    (hr : Takes direction machine frame right) : left = right := by
  obtain ⟨-, now, -, applied, happ, rfl⟩ := takes_iff.1 hl
  obtain ⟨-, now', -, applied', happ', rfl⟩ := takes_iff.1 hr
  rw [apply_unique happ happ']

theorem takes_keeps {frame} (h : machine.Established) (ht : Takes direction machine frame machine') :
    machine'.Established := by
  obtain ⟨hx, now, -, applied, happ, rfl⟩ := takes_iff.1 ht
  have hest := h.apply hx happ
  cases direction with
  | platformToWorker | workerToPlatform => exact ⟨hest.connection, hest.uncancelled⟩

theorem Fresh.after {frame other reverse now now' applied}
    (hf : machine.Fresh reverse other (machine.config.acceptance now'))
    (hg : machine.Fresh direction frame (machine.config.acceptance now)) (hd : direction ≠ reverse)
    (ha : machine.apply direction frame now = .ok () applied) :
    (applied.setSender direction (envelope frame)).Fresh reverse other
      ((applied.setSender direction (envelope frame)).config.acceptance now') := by
  obtain ⟨hplatform, hworker, hconfig⟩ := apply_kept ha
  have hnext := hg.sequence_eq
  have hack := hf.ack_le
  cases direction with
  | platformToWorker =>
    cases reverse with
    | platformToWorker => exact absurd rfl hd
    | workerToPlatform =>
      refine ⟨?_, hf.messageId_eq, ?_, ?_, ?_, ?_⟩
      · simpa only [Authorized, setSender, hconfig] using hf.authorized
      · simpa only [sender, setSender, hworker] using hf.notMax
      · simpa only [sender, setSender, hworker] using hf.sequence_eq
      · simpa only [sender, setSender, hworker] using hf.ack_ge
      · simp only [sender, peer, setSender, envelope] at hnext hack ⊢
        omega
  | workerToPlatform =>
    cases reverse with
    | platformToWorker =>
      refine ⟨?_, hf.messageId_eq, ?_, ?_, ?_, ?_⟩
      · simpa only [Authorized, setSender, hconfig] using hf.authorized
      · simpa only [sender, setSender, hplatform] using hf.notMax
      · simpa only [sender, setSender, hplatform] using hf.sequence_eq
      · simpa only [sender, setSender, hplatform] using hf.ack_ge
      · simp only [sender, peer, setSender, envelope] at hnext hack ⊢
        omega
    | workerToPlatform => exact absurd rfl hd

theorem takes_join {platformFrame workerFrame left right} (h : machine.Established)
    (hc : ¬ machine.Clashes platformFrame workerFrame) (hp : Takes .platformToWorker machine platformFrame left)
    (hw : Takes .workerToPlatform machine workerFrame right) :
    ∃ final, Takes .workerToPlatform left workerFrame final ∧ Takes .platformToWorker right platformFrame final := by
  obtain ⟨hx, now, hf, applied, happ, rfl⟩ := takes_iff.1 hp
  obtain ⟨hx', now', hf', applied', happ', rfl⟩ := takes_iff.1 hw
  obtain ⟨joined, hworker, hplatform⟩ := apply_join h.not_revoking h.uncancelled hx hx' hc happ happ'
  refine ⟨(joined.setSender .platformToWorker (envelope platformFrame)).setSender .workerToPlatform
    (envelope workerFrame), takes_iff.2 ⟨hx', now', hf'.after hf (by simp) happ, _, apply_setSender hx' hworker, rfl⟩,
    takes_iff.2 ⟨hx, now, hf.after hf' (by simp) happ', _, apply_setSender hx hplatform, rfl⟩⟩

theorem takes_diamond :
    Diamond (Takes .platformToWorker) (Takes .workerToPlatform) Established Clashes where
  left_unique := takes_unique
  right_unique := takes_unique
  left_keeps := takes_keeps
  right_keeps := takes_keeps
  join := takes_join

end ConformanceMachine

end Sessionless.Protocol
