import Sessionless.Protocol.Lemmas.Crossing

/-!
# How far two parties can be apart

Two parties that exchange attempt frames are two continuations of one common attempt, until frames that clash are
delivered; from then on the platform is stuck behind the frame it refuses.
-/

namespace Sessionless.Protocol

open Lib

/-! ## Attempts that went through attempt messages only -/

/-- The fields of an attempt that no reconnect has touched, by its state. -/
structure AttemptRecord.Regular (attempt : AttemptRecord) : Prop where
  uncancelled : attempt.Uncancelled
  revision_le : attempt.cancelRevision ≤ 1
  fenced : attempt.state = .fenced ↔ attempt.cancelCode = .fenced
  unfinished : attempt.state ≠ .fenced → attempt.state ≠ .terminalPending → attempt.state ≠ .terminalCommitted →
    attempt.terminalSequence = 0
  outcome : attempt.terminalSequence ≠ 0 → (attempt.cancelRevision = 0 ↔ attempt.terminalStatus ≠ .cancelled)
  terminal_le : attempt.terminalSequence ≤ 1
  pending : attempt.pendingWorkerTerminal = none

theorem AttemptRecord.regular_empty : ({} : AttemptRecord).Regular where
  uncancelled := fun _ => rfl
  revision_le := Nat.zero_le _
  fenced := by simp
  unfinished := fun _ _ _ => rfl
  outcome := fun h => absurd rfl h
  terminal_le := Nat.zero_le _
  pending := rfl

/-! ## What one direction can do to an attempt -/

def AttemptState.workerReaches : AttemptState → AttemptState → Bool
  | .offered, next => next = .offered || next = .claimPending
  | .claimed, next => next = .claimed || next = .terminalPending
  | .cancelRequested, next => next = .cancelRequested || next = .cancelAcked || next = .terminalPending
  | .cancelAcked, next => next = .cancelAcked || next = .terminalPending
  | state, next => next = state

def AttemptState.platformReaches : AttemptState → AttemptState → Bool
  | .idle, next => next = .idle || next = .offered || next = .cancelRequested || next = .fenced
  | .offered, next => next = .offered || next = .cancelRequested || next = .fenced
  | .claimPending, next => next = .claimPending || next = .claimed || next = .cancelRequested || next = .fenced
  | .claimed, next => next = .claimed || next = .cancelRequested || next = .fenced
  | .terminalPending, next =>
    next = .terminalPending || next = .terminalCommitted || next = .cancelRequested || next = .fenced
  | state, next => next = state

theorem AttemptState.workerReaches_trans {first second third : AttemptState} (h : first.workerReaches second = true)
    (h' : second.workerReaches third = true) : first.workerReaches third = true := by
  cases first <;> cases second <;> simp [workerReaches] at h h' ⊢ <;> grind

theorem AttemptState.platformReaches_trans {first second third : AttemptState}
    (h : first.platformReaches second = true) (h' : second.platformReaches third = true) :
    first.platformReaches third = true := by
  cases first <;> cases second <;> simp [platformReaches] at h h' ⊢ <;> grind

def AttemptState.WorkerStuck (state : AttemptState) : Prop :=
  state = .idle ∨ state = .claimPending ∨ state = .terminalPending ∨ state = .terminalCommitted

def AttemptState.PlatformStuck (state : AttemptState) : Prop :=
  state = .cancelRequested ∨ state = .cancelAcked ∨ state = .fenced ∨ state = .terminalCommitted

theorem AttemptState.platformStuck_of_cancelled {state : AttemptState} (h : state = .cancelRequested ∨ state = .fenced) :
    state.PlatformStuck :=
  h.imp_right fun hs => .inr (.inl hs)

open AttemptState

namespace AttemptRecord

def outcome (attempt : AttemptRecord) : Nat × TerminalStatus × TerminalResult × Bytes :=
  (attempt.terminalSequence, attempt.terminalStatus, attempt.terminalResult, attempt.terminalEvidence)

/-- A worker that has gone on by its own messages from what it has in common with the platform. -/
structure WorkerAhead (common worker : AttemptRecord) : Prop where
  platform_eq : worker.platform = common.platform
  binding_eq : worker.binding = common.binding
  revision_eq : worker.cancelRevision = common.cancelRevision
  code_eq : worker.cancelCode = common.cancelCode
  reaches : common.state.workerReaches worker.state = true
  moved : worker = common ∨ common.worker.sequence < worker.worker.sequence
  stuck : common.state.WorkerStuck → worker = common

/-- A platform that has gone on by its own messages from what it has in common with the worker. -/
structure PlatformAhead (common platform : AttemptRecord) : Prop where
  worker_eq : platform.worker = common.worker
  sequence_le : common.platform.sequence ≤ platform.platform.sequence
  binding_eq : common.state ≠ .idle → platform.binding = common.binding
  reaches : common.state.platformReaches platform.state = true
  revision_le : common.cancelRevision ≤ platform.cancelRevision
  stuck : common.state.PlatformStuck → platform = common
  settled : platform.state = .terminalPending ∨ platform.state = .terminalCommitted →
    platform.outcome = common.outcome ∧ platform.cancelRevision = common.cancelRevision ∧
      platform.cancelCode = common.cancelCode
  fenced : platform.state = .fenced → platform = common ∨ platform.terminalSequence = 0

/-- The worker follows a cancellation that the platform sent, but the platform has not taken all it was sent before. -/
structure Blocked (platform worker : AttemptRecord) : Prop where
  state : platform.state = .cancelRequested ∨ platform.state = .fenced
  unfinished : platform.terminalSequence = 0
  ledger : worker.platform = platform.platform
  binding : worker.binding = platform.binding
  revision : worker.cancelRevision = platform.cancelRevision
  code : worker.cancelCode = platform.cancelCode
  followed : worker.state = .cancelRequested ∨ worker.state = .cancelAcked ∨ worker.state = .terminalPending ∨
    worker.state = .fenced
  behind : platform.worker.sequence < worker.worker.sequence

theorem Blocked.workerAhead {platform worker worker' : AttemptRecord} (h : platform.Blocked worker)
    (ha : worker.WorkerAhead worker') : platform.Blocked worker' where
  state := h.state
  unfinished := h.unfinished
  ledger := ha.platform_eq.trans h.ledger
  binding := ha.binding_eq.trans h.binding
  revision := ha.revision_eq.trans h.revision
  code := ha.code_eq.trans h.code
  followed := by
    have hreaches := ha.reaches
    rcases h.followed with hs | hs | hs | hs <;> simp [hs, workerReaches] at hreaches <;> grind
  behind := by
    rcases ha.moved with heq | hlt
    · rw [heq]
      exact h.behind
    · exact h.behind.trans hlt

theorem WorkerAhead.refl (attempt : AttemptRecord) : attempt.WorkerAhead attempt where
  platform_eq := rfl
  binding_eq := rfl
  revision_eq := rfl
  code_eq := rfl
  reaches := by cases attempt.state <;> rfl
  moved := .inl rfl
  stuck := fun _ => rfl

theorem WorkerAhead.sequence_le {common worker : AttemptRecord} (h : common.WorkerAhead worker) :
    common.worker.sequence ≤ worker.worker.sequence := by
  rcases h.moved with heq | hlt
  · rw [heq]
  · exact hlt.le

theorem PlatformAhead.refl (attempt : AttemptRecord) : attempt.PlatformAhead attempt where
  worker_eq := rfl
  sequence_le := le_refl _
  binding_eq := fun _ => rfl
  reaches := by cases attempt.state <;> rfl
  revision_le := le_refl _
  stuck := fun _ => rfl
  settled := fun _ => ⟨rfl, rfl, rfl⟩
  fenced := fun _ => .inl rfl

/-! ## Pairs of attempts -/

structure Apart (platform worker : AttemptRecord) : Prop where
  idle : platform.state = .idle → worker.state = .idle
  sequence_le : worker.platform.sequence ≤ platform.platform.sequence
  binding_eq : worker.state ≠ .idle → worker.binding = platform.binding
  revision_le : worker.cancelRevision ≤ platform.cancelRevision
  states : worker.state ≠ .idle → reconnectStatesCompatible worker.state platform.state = true ∨
    ((worker.state = .offered ∨ worker.state = .claimPending) ∧
      (platform.state = .cancelRequested ∨ platform.state = .fenced))
  outcome : worker.terminalSequence ≠ 0 → platform.terminalSequence ≠ 0 →
    worker.outcome = platform.outcome ∨ (worker.state = .fenced ∧ platform.state = .fenced)
  replay : worker.terminalSequence ≠ 0 → platform.terminalSequence = 0 → platform.cancelCode ≠ .fenced →
    platform.worker.sequence < worker.worker.sequence ∨
      (worker.state = .terminalPending ∧ platform.state = .cancelRequested ∧
        platform.worker.sequence = worker.worker.sequence)

theorem Regular.finished {attempt : AttemptRecord} (h : attempt.Regular)
    (ht : attempt.terminalSequence ≠ 0) :
    attempt.state = .fenced ∨ attempt.state = .terminalPending ∨ attempt.state = .terminalCommitted := by
  by_contra hs
  simp only [not_or] at hs
  exact ht (h.unfinished hs.1 hs.2.1 hs.2.2)

section

variable {common platform worker : AttemptRecord}

theorem PlatformAhead.states (ha : common.PlatformAhead platform) (hb : common.WorkerAhead worker)
    (hw : worker.state ≠ .idle) : reconnectStatesCompatible worker.state platform.state = true ∨
      ((worker.state = .offered ∨ worker.state = .claimPending) ∧
        (platform.state = .cancelRequested ∨ platform.state = .fenced)) := by
  have hp := ha.reaches
  have hr := hb.reaches
  cases hc : common.state with
  | idle =>
    simp only [hc, workerReaches, decide_eq_true_eq] at hr
    exact absurd hr hw
  | offered | claimed =>
    simp only [hc, workerReaches, platformReaches, Bool.or_eq_true, decide_eq_true_eq] at hp hr
    rcases hp with (hp | hp) | hp <;> rcases hr with hr | hr <;> simp [hp, hr, reconnectStatesCompatible]
  | claimPending | terminalPending =>
    simp only [hc, workerReaches, platformReaches, Bool.or_eq_true, decide_eq_true_eq] at hp hr
    rcases hp with ((hp | hp) | hp) | hp <;> simp [hp, hr, reconnectStatesCompatible]
  | cancelRequested =>
    simp only [hc, workerReaches, platformReaches, Bool.or_eq_true, decide_eq_true_eq] at hp hr
    rcases hr with (hr | hr) | hr <;> simp [hp, hr, reconnectStatesCompatible]
  | cancelAcked =>
    simp only [hc, workerReaches, platformReaches, Bool.or_eq_true, decide_eq_true_eq] at hp hr
    rcases hr with hr | hr <;> simp [hp, hr, reconnectStatesCompatible]
  | fenced | terminalCommitted =>
    simp only [hc, workerReaches, platformReaches, decide_eq_true_eq] at hp hr
    simp [hp, hr, reconnectStatesCompatible]

theorem PlatformAhead.outcome (ha : common.PlatformAhead platform) (hb : common.WorkerAhead worker)
    (hp : platform.Regular) (htp : platform.terminalSequence ≠ 0) :
    worker.outcome = platform.outcome ∨ (worker.state = .fenced ∧ platform.state = .fenced) := by
  have hr := hb.reaches
  rcases hp.finished htp with hs | hs
  · rcases ha.fenced hs with rfl | h0
    · simp only [hs, workerReaches, decide_eq_true_eq] at hr
      exact .inr ⟨hr, hs⟩
    · exact absurd h0 htp
  · -- a platform that holds an outcome took it from the common attempt, which the worker has not left
    have hcommon : common.state.WorkerStuck := by
      have hreach := ha.reaches
      cases hc : common.state <;> rcases hs with hs | hs <;>
        simp [hc, hs, platformReaches, WorkerStuck] at hreach ⊢
    rw [hb.stuck hcommon]
    exact .inl (ha.settled hs).1.symm

theorem PlatformAhead.replay (ha : common.PlatformAhead platform) (hb : common.WorkerAhead worker)
    (hp : platform.Regular) (hw : worker.Regular) (htw : worker.terminalSequence ≠ 0)
    (htp : platform.terminalSequence = 0) (hcode : platform.cancelCode ≠ .fenced) :
    platform.worker.sequence < worker.worker.sequence ∨
      (worker.state = .terminalPending ∧ platform.state = .cancelRequested ∧
        platform.worker.sequence = worker.worker.sequence) := by
  rw [ha.worker_eq]
  rcases hb.moved with rfl | hlt
  · -- the outcome is in the common attempt, and the platform has cleared it since
    have hne : platform ≠ worker := fun h => htw (h ▸ htp)
    have hpending : worker.state = .terminalPending := by
      rcases hw.finished htw with hs | hs | hs
      · exact absurd (ha.stuck (by simp [PlatformStuck, hs])) hne
      · exact hs
      · exact absurd (ha.stuck (by simp [PlatformStuck, hs])) hne
    refine .inr ⟨hpending, ?_, rfl⟩
    have hreach := ha.reaches
    have hsettled := ha.settled
    simp only [hpending, platformReaches, Bool.or_eq_true, decide_eq_true_eq] at hreach
    have hcleared : ¬ platform.outcome = worker.outcome := fun h => htw ((congrArg Prod.fst h).symm.trans htp)
    rcases hreach with ((h | h) | h) | h
    · exact absurd (hsettled (.inl h)).1 hcleared
    · exact absurd (hsettled (.inr h)).1 hcleared
    · exact h
    · exact absurd (hp.fenced.1 h) hcode
  · exact .inl hlt

theorem PlatformAhead.apart (ha : common.PlatformAhead platform) (hb : common.WorkerAhead worker)
    (hp : platform.Regular) (hw : worker.Regular) : platform.Apart worker where
  idle := fun hs => by
    have hreach := ha.reaches
    have hidle : common.state = .idle := by
      cases hc : common.state <;> simp [hc, hs, platformReaches] at hreach ⊢
    rw [hb.stuck (.inl hidle), hidle]
  sequence_le := by
    rw [hb.platform_eq]
    exact ha.sequence_le
  binding_eq := fun hs => by
    have hactive : common.state ≠ .idle := fun hidle => hs (by rw [hb.stuck (.inl hidle), hidle])
    rw [hb.binding_eq, ha.binding_eq hactive]
  revision_le := by
    rw [hb.revision_eq]
    exact ha.revision_le
  states := ha.states hb
  outcome := fun _ => ha.outcome hb hp
  replay := ha.replay hb hp hw

end

theorem Blocked.apart {platform worker : AttemptRecord} (h : platform.Blocked worker)
    (hp : platform.Regular) (hw : worker.Regular) : platform.Apart worker where
  idle := fun hs => by rcases h.state with h | h <;> simp [h] at hs
  sequence_le := by rw [h.ledger]
  binding_eq := fun _ => h.binding
  revision_le := h.revision.le
  states := fun _ => by
    -- both carry the same cancel code, so the worker is fenced exactly when the platform is
    have hcode := hw.fenced.trans (h.code ▸ hp.fenced.symm)
    refine .inl ?_
    rcases h.state with hs | hs <;> rcases h.followed with hs' | hs' | hs' | hs' <;>
      simp [hs, hs', reconnectStatesCompatible] at hcode ⊢
  outcome := fun _ ht => absurd h.unfinished ht
  replay := fun _ _ _ => .inl h.behind

end AttemptRecord

variable [Crypto]

namespace ConformanceMachine

variable {machine machine' : ConformanceMachine} {direction : Direction}

theorem Moves.regular {message attempt} (h : machine.Moves direction message attempt)
    (hr : machine.attempt.Regular) (hv : ¬ machine.Revoking) : (entered attempt direction message).Regular := by
  have hun := h.uncancelled hr.uncancelled
  have hpending : (entered attempt direction message).pendingWorkerTerminal = none := by
    cases direction <;> simp [entered, h.kept.2.2.1, hr.pending]
  cases h with
  | leaseOffer message hc hs | leaseClaim message hs | leaseAccepted message hs =>
    exact { hr with
      uncancelled := hun
      fenced := by simp [entered, mt hr.fenced.2, hs]
      unfinished := fun _ _ _ => hr.unfinished (by simp [hs]) (by simp [hs]) (by simp [hs])
      pending := hpending }
  | progress message hf hs => exact { hr with uncancelled := hun, pending := hpending }
  | cancel message hf hs hrev =>
    exact { hr with
      uncancelled := hun
      revision_le := hrev.le
      fenced := by by_cases hcode : message.code = .fenced <;> simp [entered, hcode]
      unfinished := fun _ _ _ => rfl
      outcome := fun h => absurd rfl h
      terminal_le := Nat.zero_le _ }
  | cancelAck message hf hs =>
    have hstate : (if machine.attempt.state ≠ .fenced then AttemptState.cancelAcked else machine.attempt.state) =
        .fenced ↔ machine.attempt.state = .fenced := by
      rcases hs with hs | hs <;> simp [hs]
    exact { hr with
      uncancelled := hun
      fenced := hstate.trans hr.fenced
      unfinished := fun hnf _ _ => hr.unfinished (fun h => hnf (hstate.2 h))
        (by rcases hs with hs | hs <;> simp [hs]) (by rcases hs with hs | hs <;> simp [hs])
      pending := hpending }
  | swallowed message hs => exact { hr with uncancelled := hun, pending := hpending }
  | terminal message hs hq hcan =>
    have hstate : (if machine.attempt.cancelCode ≠ .fenced ∧ ¬ machine.Revoking then AttemptState.terminalPending
        else machine.attempt.state) = if machine.attempt.state = .fenced then .fenced else .terminalPending := by
      by_cases hf : machine.attempt.state = .fenced
      · simp [hf, hr.fenced.1 hf]
      · simp [hf, hv, mt hr.fenced.2 hf]
    exact { hr with
      uncancelled := hun
      fenced := by
        simp only [entered, hstate, ← hr.fenced]
        split <;> simp [*]
      unfinished := fun hnf hnp => by
        simp only [entered, hstate] at hnf hnp
        split at hnf <;> simp_all
      outcome := fun _ => hcan
      terminal_le := hq.le
      pending := hpending }
  | terminalAck message hs =>
    exact { hr with
      uncancelled := hun
      fenced := by simp [entered, mt hr.fenced.2, hs]
      unfinished := fun _ _ h => absurd rfl h }

/-! ## One attempt frame -/

/-- What an attempt frame does to a machine: its envelope, and its message unless that repeats an earlier one. -/
structure Received (machine : ConformanceMachine) (direction : Direction) (frame : FrameV1) (message : AttemptMessage)
    (machine' : ConformanceMachine) : Prop where
  payload : frame.payload = .attempt message
  follows : (machine.sender direction).sequence < frame.sequence ∧ (machine.sender direction).ack ≤ frame.ack
  machine_eq : machine' = (machine.setAttempt machine'.attempt).setSender direction (envelope frame)
  attempt : (machine.Duplicate direction message ∧ machine'.attempt = machine.attempt) ∨
    ∃ now attempt, machine.AttemptGuard direction message now ∧ machine.Moves direction message attempt ∧
      machine'.attempt = entered attempt direction message

theorem TakesAttempt.received {frame} (h : TakesAttempt direction machine frame machine') :
    ∃ message, machine.Received direction frame message machine' := by
  obtain ⟨⟨message, hpayload⟩, htakes⟩ := h
  obtain ⟨-, now, hf, applied, happ, rfl⟩ := takes_iff.1 htakes
  simp only [ConformanceMachine.apply, hpayload] at happ
  have hseq := hf.sequence_eq
  refine ⟨message, hpayload, ⟨by omega, hf.ack_ge⟩, ?_, ?_⟩
  · obtain ⟨attempt, rfl⟩ := acceptAttempt_attempt happ
    cases direction with
    | platformToWorker | workerToPlatform => rfl
  · have hattempt : (applied.setSender direction (envelope frame)).attempt = applied.attempt := by
      cases direction with
      | platformToWorker | workerToPlatform => rfl
    rw [hattempt]
    rcases acceptAttempt_cases happ with ⟨hdup, rfl⟩ | ⟨hguard, attempt, hmove, rfl⟩
    · exact .inl ⟨hdup, rfl⟩
    · exact .inr ⟨now, attempt, hguard, hmove, rfl⟩

/-- Everything but the attempt and the envelopes stays as it is. -/
structure SameConnection (machine machine' : ConformanceMachine) : Prop where
  machine_eq : machine' = { machine with
    platform := machine'.platform, worker := machine'.worker, attempt := machine'.attempt }

theorem SameConnection.refl (machine : ConformanceMachine) : machine.SameConnection machine := ⟨rfl⟩

theorem Received.sameConnection {start : ConformanceMachine} {frame message}
    (h : machine.Received direction frame message machine') (ha : start.SameConnection machine) : start.SameConnection machine' := by
  refine ⟨?_⟩
  have heq := h.machine_eq
  generalize machine'.attempt = attempt at heq
  rw [heq, ha.machine_eq]
  cases direction with
  | platformToWorker | workerToPlatform => rfl

theorem Received.message_eq {frame message other} (h : machine.Received direction frame message machine')
    (hpayload : frame.payload = .attempt other) : message = other := by
  rw [h.payload] at hpayload
  cases hpayload
  rfl

theorem Received.platform_eq {frame message}
    (h : machine.Received .platformToWorker frame message machine') : machine'.platform = envelope frame := by
  rw [h.machine_eq]
  rfl

theorem Received.platform_kept {frame message}
    (h : machine.Received .workerToPlatform frame message machine') : machine'.platform = machine.platform := by
  rw [h.machine_eq]
  rfl

theorem Received.regular {frame message}
    (h : machine.Received direction frame message machine') (hv : ¬ machine.Revoking) (hr : machine.attempt.Regular) :
    machine'.attempt.Regular := by
  rcases h.attempt with ⟨-, heq⟩ | ⟨-, attempt, -, hmove, heq⟩
  · rw [heq]
    exact hr
  · rw [heq]
    exact hmove.regular hr hv

/-! ## Runs of one direction -/

theorem Moves.not_workerStuck {message attempt}
    (h : machine.Moves .workerToPlatform message attempt) : ¬ machine.attempt.state.WorkerStuck := by
  cases h with
  | leaseClaim message hs => simp [WorkerStuck, hs]
  | progress message hf hs => rcases hs with hs | hs | hs <;> simp [WorkerStuck, hs]
  | cancelAck message hf hs => rcases hs with hs | hs <;> simp [WorkerStuck, hs]
  | swallowed message hs | terminal message hs =>
    rcases hs with hs | hs | hs | hs <;> simp [WorkerStuck, hs]

theorem Moves.not_platformStuck {message attempt}
    (h : machine.Moves .platformToWorker message attempt) : ¬ machine.attempt.state.PlatformStuck := by
  cases h with
  | leaseOffer message hc hs | leaseAccepted message hs => simp [PlatformStuck, hs]
  | cancel message hf hs => rcases hs with hs | hs | hs | hs <;> simp [PlatformStuck, hs]
  | terminalAck message hs => simp [PlatformStuck, hs]

theorem Moves.of_worker_message {message attempt}
    (h : machine.Moves .workerToPlatform message attempt) (hr : machine.attempt.Regular) :
    attempt.cancelRevision = machine.attempt.cancelRevision ∧ attempt.cancelCode = machine.attempt.cancelCode ∧
      machine.attempt.state.workerReaches attempt.state = true := by
  cases h with
  | leaseClaim message hs => exact ⟨rfl, rfl, by simp [workerReaches, hs]⟩
  | progress message hf hs =>
    refine ⟨rfl, rfl, ?_⟩
    rcases hs with hs | hs | hs <;> simp [workerReaches, hs]
  | cancelAck message hf hs =>
    refine ⟨rfl, rfl, ?_⟩
    rcases hs with hs | hs <;> simp [workerReaches, hs]
  | swallowed message hs =>
    refine ⟨rfl, rfl, ?_⟩
    rcases hs with hs | hs | hs | hs <;> simp [workerReaches, hs]
  | terminal message hs hq hcan =>
    refine ⟨rfl, rfl, ?_⟩
    simp only
    rcases hs with hs | hs | hs | hs
    · split <;> simp [workerReaches, hs]
    · split <;> simp [workerReaches, hs]
    · split <;> simp [workerReaches, hs]
    · simp [workerReaches, hs, hr.fenced.1 hs]

/-- A platform message leads along `platformReaches`; an outcome is kept or cleared. -/
theorem Moves.of_platform_message {message attempt}
    (h : machine.Moves .platformToWorker message attempt) (hr : machine.attempt.Regular) :
    machine.attempt.cancelRevision ≤ attempt.cancelRevision ∧
      machine.attempt.state.platformReaches attempt.state = true ∧
      (attempt.state = .terminalPending ∨ attempt.state = .terminalCommitted →
        machine.attempt.state = .terminalPending ∧ attempt.outcome = machine.attempt.outcome ∧
          attempt.cancelRevision = machine.attempt.cancelRevision ∧ attempt.cancelCode = machine.attempt.cancelCode) ∧
      (attempt.state = .fenced → attempt.terminalSequence = 0) := by
  cases h with
  | leaseOffer message hc hs | leaseAccepted message hs =>
    exact ⟨le_refl _, by simp [platformReaches, hs], by simp, by simp⟩
  | cancel message hf hs hrev =>
    refine ⟨hrev ▸ hr.revision_le, ?_, fun h => ?_, fun _ => rfl⟩
    · rcases hs with hs | hs | hs | hs <;> simp only [hs] <;> split <;> rfl
    · simp only at h
      split at h <;> simp at h
  | terminalAck message hs =>
    exact ⟨le_refl _, by simp [platformReaches, hs], fun _ => ⟨hs, rfl, rfl, rfl⟩, by simp⟩

theorem Received.workerAhead {common : AttemptRecord} {frame message}
    (h : machine.Received .workerToPlatform frame message machine') (hr : machine.attempt.Regular)
    (ha : common.WorkerAhead machine.attempt) : common.WorkerAhead machine'.attempt := by
  rcases h.attempt with ⟨-, heq⟩ | ⟨now, attempt, hguard, hmove, heq⟩
  · rw [heq]
    exact ha
  · obtain ⟨hrev, hcode, hreach⟩ := hmove.of_worker_message hr
    obtain ⟨hplatform, -, -, hbinding⟩ := hmove.kept
    have hlt : machine.attempt.worker.sequence < message.sequence := hguard.sequence_lt
    rw [heq]
    refine ⟨hplatform.trans ha.platform_eq, (hbinding hmove.of_worker).trans ha.binding_eq, hrev.trans ha.revision_eq,
      hcode.trans ha.code_eq, workerReaches_trans ha.reaches hreach, .inr ?_, fun hstuck => ?_⟩
    · rcases ha.moved with h | h
      · rw [← h]
        exact hlt
      · exact h.trans hlt
    · exact absurd (ha.stuck hstuck ▸ hstuck) hmove.not_workerStuck

theorem Received.platformAhead {common : AttemptRecord} {frame message}
    (h : machine.Received .platformToWorker frame message machine') (hr : machine.attempt.Regular)
    (ha : common.PlatformAhead machine.attempt) : common.PlatformAhead machine'.attempt := by
  rcases h.attempt with ⟨-, heq⟩ | ⟨now, attempt, hguard, hmove, heq⟩
  · rw [heq]
    exact ha
  · obtain ⟨hrev, hreach, hsettled, hfenced⟩ := hmove.of_platform_message hr
    obtain ⟨-, hworker, -, hbinding⟩ := hmove.kept
    have hlt : machine.attempt.platform.sequence < message.sequence := hguard.sequence_lt
    rw [heq]
    refine ⟨hworker.trans ha.worker_eq, ha.sequence_le.trans hlt.le, fun hs => ?_,
      platformReaches_trans ha.reaches hreach, ha.revision_le.trans hrev, fun hstuck => ?_, fun hs => ?_,
      fun hs => .inr (hfenced hs)⟩
    · have hactive : machine.attempt.state ≠ .idle := by
        intro hidle
        have hreaches := ha.reaches
        rw [hidle] at hreaches
        cases hc : common.state <;> simp [hc, platformReaches] at hreaches hs
      exact (hbinding hactive).trans (ha.binding_eq hs)
    · exact absurd (ha.stuck hstuck ▸ hstuck) hmove.not_platformStuck
    · obtain ⟨hpending, houtcome, hrevision, hcode⟩ := hsettled hs
      obtain ⟨houtcome', hrevision', hcode'⟩ := ha.settled (.inl hpending)
      exact ⟨houtcome.trans houtcome', hrevision.trans hrevision', hcode.trans hcode'⟩

/-- Every machine of a run of attempt frames is established and regular, and the attempt is ahead by that direction. -/
structure Settled (machine : ConformanceMachine) : Prop where
  established : machine.Established
  regular : machine.attempt.Regular

theorem TakesAttempt.settled {frame} (h : TakesAttempt direction machine frame machine')
    (hs : machine.Settled) : machine'.Settled := by
  obtain ⟨message, hreceived⟩ := h.received
  exact ⟨takes_keeps hs.established h.2, hreceived.regular hs.established.not_revoking hs.regular⟩

theorem workerAhead_run {frames} (h : Lib.Takes (TakesAttempt .workerToPlatform) machine frames machine')
    (hs : machine.Settled) : machine.attempt.WorkerAhead machine'.attempt := by
  refine And.right (h.keeps (P := fun m => m.Settled ∧ machine.attempt.WorkerAhead m.attempt) ?_ ⟨hs, .refl _⟩)
  rintro mid frame next ⟨hs, ha⟩ taken
  obtain ⟨message, hreceived⟩ := taken.received
  exact ⟨taken.settled hs, hreceived.workerAhead hs.regular ha⟩

theorem platformAhead_run {frames}
    (h : Lib.Takes (TakesAttempt .platformToWorker) machine frames machine') (hs : machine.Settled) :
    machine.attempt.PlatformAhead machine'.attempt := by
  refine And.right (h.keeps (P := fun m => m.Settled ∧ machine.attempt.PlatformAhead m.attempt) ?_ ⟨hs, .refl _⟩)
  rintro mid frame next ⟨hs, ha⟩ taken
  obtain ⟨message, hreceived⟩ := taken.received
  exact ⟨taken.settled hs, hreceived.platformAhead hs.regular ha⟩

theorem Duplicate.of_ledger {other : ConformanceMachine} {message} (h : machine.Duplicate direction message)
    (hsender : other.attemptSender direction = machine.attemptSender direction)
    (hp : other.attempt.pendingWorkerTerminal = machine.attempt.pendingWorkerTerminal) :
    other.Duplicate direction message := by
  refine ⟨?_, hsender ▸ h.sequence_le, h.sequence_ne, hsender ▸ h.fingerprint_eq⟩
  rw [← h.admitted]
  simp only [pendingRefusal, hp]

theorem Duplicate.of_attempt {other : ConformanceMachine} {message} (h : machine.Duplicate direction message)
    (ha : other.attempt = machine.attempt) : other.Duplicate direction message :=
  h.of_ledger (attemptSender_congr direction ha) (ha ▸ rfl)

theorem duplicates_of_platformStuck {frames} (h : Lib.Takes (TakesAttempt .platformToWorker) machine frames machine')
    (hs : machine.attempt.state.PlatformStuck) :
    machine'.attempt = machine.attempt ∧ ∀ frame ∈ frames, ∀ message, frame.payload = .attempt message →
      machine.Duplicate .platformToWorker message := by
  induction h with
  | nil machine => exact ⟨rfl, fun _ hmem => absurd hmem List.not_mem_nil⟩
  | cons head _ ih =>
    obtain ⟨message, hreceived⟩ := head.received
    rcases hreceived.attempt with ⟨hdup, heq⟩ | ⟨-, attempt, -, hmove, -⟩
    · obtain ⟨hfinal, hrest⟩ := ih (heq ▸ hs)
      refine ⟨hfinal.trans heq, fun frame hmem other hpayload => ?_⟩
      rcases List.mem_cons.1 hmem with rfl | hmem
      · exact hreceived.message_eq hpayload ▸ hdup
      · exact (hrest frame hmem other hpayload).of_attempt heq.symm
    · exact absurd hs hmove.not_platformStuck

theorem first_unseen {frames} (h : Lib.Takes (TakesAttempt .workerToPlatform) machine frames machine')
    (hne : machine'.attempt ≠ machine.attempt) :
    ∃ pre frame post, ∃ mid : ConformanceMachine, ∃ message attempt, frames = pre ++ frame :: post ∧
      (∀ other ∈ pre, ∀ repeated, other.payload = .attempt repeated → machine.Duplicate .workerToPlatform repeated) ∧
      frame.payload = .attempt message ∧ mid.attempt = machine.attempt ∧
      machine.attempt.worker.sequence < message.sequence ∧ mid.Moves .workerToPlatform message attempt := by
  induction h with
  | nil machine => exact absurd rfl hne
  | @cons machine next machine' frame rest head _ ih =>
    obtain ⟨message, hreceived⟩ := head.received
    rcases hreceived.attempt with ⟨hdup, heq⟩ | ⟨now, attempt, hguard, hmove, -⟩
    · obtain ⟨pre, frame', post, mid, message', attempt, rfl, hpre, hpayload, hmid, hlt, hmove⟩ := ih (heq ▸ hne)
      refine ⟨frame :: pre, frame', post, mid, message', attempt, rfl, fun other hmem repeated hrep => ?_, hpayload,
        hmid.trans heq, heq ▸ hlt, hmove⟩
      rcases List.mem_cons.1 hmem with rfl | hmem
      · exact hreceived.message_eq hrep ▸ hdup
      · exact (hpre other hmem repeated hrep).of_attempt heq.symm
    · exact ⟨[], frame, rest, machine, message, attempt, rfl, fun _ hmem => absurd hmem List.not_mem_nil,
        hreceived.payload, rfl, hguard.sequence_lt, hmove⟩

theorem not_moves_of_cancelled {message attempt}
    (hstate : machine.attempt.state = .cancelRequested ∨ machine.attempt.state = .fenced)
    (hrevision : machine.attempt.cancelRevision ≠ 0) (hc : (∃ claim, message = .leaseClaim claim) ∨
      (machine.attempt.state = .fenced ∧ machine.attempt.cancelCode = .fenced ∧
        ((∃ progress, message = .progress progress) ∨
          ∃ terminal, message = .terminal terminal ∧ terminal.status ≠ .cancelled))) :
    ¬ machine.Moves .workerToPlatform message attempt := by
  intro h
  cases h with
  | leaseClaim message hs => rcases hstate with h | h <;> simp [h] at hs
  | progress message hf hs =>
    rcases hc with ⟨claim, h⟩ | ⟨hfenced, -, -⟩
    · cases h
    · simp [hfenced] at hs
  | cancelAck message => simp at hc
  | swallowed message hs hq hcan hst hcode =>
    rcases hc with ⟨claim, h⟩ | ⟨-, hfenced, -⟩
    · cases h
    · exact hcode hfenced
  | terminal message hs hq hcan =>
    rcases hc with ⟨claim, h⟩ | ⟨-, -, ⟨progress, h⟩ | ⟨terminal, h, hst⟩⟩
    · cases h
    · cases h
    · cases h
      exact hrevision (hcan.2 hst)

theorem attempts_diamond :
    Diamond (TakesAttempt .platformToWorker) (TakesAttempt .workerToPlatform) Settled Clashes where
  left_unique := fun hl hr => takes_unique hl.2 hr.2
  right_unique := fun hl hr => takes_unique hl.2 hr.2
  left_keeps := fun hi hl => hl.settled hi
  right_keeps := fun hi hr => hr.settled hi
  join := fun hi hc hl hr => by
    obtain ⟨final, hright, hleft⟩ := takes_join hi.established hc hl.2 hr.2
    exact ⟨final, ⟨hr.1, hright⟩, ⟨hl.1, hleft⟩⟩

theorem settled_run {frames} (h : Lib.Takes (TakesAttempt direction) machine frames machine')
    (hs : machine.Settled) : machine'.Settled :=
  h.keeps (fun hs taken => taken.settled hs) hs

theorem Clashes.messages {platformFrame workerFrame} (h : machine.Clashes platformFrame workerFrame)
    {message message'} (hp : platformFrame.payload = .attempt message)
    (hw : workerFrame.payload = .attempt message') :
    ∃ cancel, message = .cancel cancel ∧ machine.attempt.platform.sequence < message.sequence ∧
      machine.attempt.worker.sequence < message'.sequence ∧
      ((∃ claim, message' = .leaseClaim claim) ∨
        (cancel.code = .fenced ∧ ((∃ progress, message' = .progress progress) ∨
          ∃ terminal, message' = .terminal terminal))) := by
  obtain ⟨hcollides, hunseen, hunseen'⟩ := h
  have hlt : machine.attempt.platform.sequence < message.sequence := hunseen message hp
  have hlt' : machine.attempt.worker.sequence < message'.sequence := hunseen' message' hw
  simp only [Collides, hp, hw] at hcollides
  split at hcollides
  · rename_i cancel claim h1 h2
    cases h1
    cases h2
    exact ⟨cancel, rfl, hlt, hlt', .inl ⟨claim, rfl⟩⟩
  · rename_i cancel progress h1 h2
    cases h1
    cases h2
    exact ⟨cancel, rfl, hlt, hlt', .inr ⟨hcollides, .inl ⟨progress, rfl⟩⟩⟩
  · rename_i cancel terminal h1 h2
    cases h1
    cases h2
    exact ⟨cancel, rfl, hlt, hlt', .inr ⟨hcollides, .inr ⟨terminal, rfl⟩⟩⟩
  · rename_i h1 h2
    cases h1
  · exact hcollides.elim

/-- A frame above the ledger is not a repetition: it moves the attempt. -/
theorem Received.moves {frame message} (h : machine.Received direction frame message machine')
    (hlt : (machine.attemptSender direction).sequence < message.sequence) :
    ∃ attempt, machine.Moves direction message attempt ∧ machine'.attempt = entered attempt direction message := by
  rcases h.attempt with ⟨hdup, -⟩ | ⟨-, attempt, -, hmove, heq⟩
  · have := hdup.sequence_le
    omega
  · exact ⟨attempt, hmove, heq⟩

theorem claimed_of_terminal {common : ConformanceMachine} {terminal attempt}
    (ha : common.attempt.PlatformAhead machine.attempt)
    (hm : common.Moves .workerToPlatform (.terminal terminal) attempt)
    (hs : machine.attempt.state = .offered ∨ machine.attempt.state = .claimPending ∨
      machine.attempt.state = .claimed ∨ machine.attempt.state = .terminalPending) :
    common.attempt.state = .claimed := by
  have hstate : common.attempt.state = .claimed ∨ common.attempt.state = .cancelRequested ∨
      common.attempt.state = .cancelAcked ∨ common.attempt.state = .fenced := by
    cases hm with
    | swallowed terminal hs | terminal terminal hs => exact hs
  rcases hstate with h | h | h | h
  · exact h
  all_goals
    rw [ha.stuck (by simp [PlatformStuck, h]), h] at hs
    simp at hs

theorem Moves.status_ne_cancelled {terminal attempt}
    (h : machine.Moves .workerToPlatform (.terminal terminal) attempt) (hr : machine.attempt.Regular)
    (hs : machine.attempt.state = .claimed) : terminal.status ≠ .cancelled := by
  have hzero := hr.uncancelled (.inr (.inr (.inr hs)))
  cases h with
  | swallowed terminal _ _ hcan => exact absurd hzero hcan
  | terminal terminal _ _ hcan => exact hcan.1 hzero

theorem Moves.offered_or_claimed {message attempt}
    (h : machine.Moves .workerToPlatform message attempt) (hr : machine.attempt.Regular)
    (hs : machine.attempt.state = .offered ∨ machine.attempt.state = .claimed) :
    (machine.attempt.state = .offered ∧ ∃ claim, message = .leaseClaim claim) ∨
      (machine.attempt.state = .claimed ∧ ((∃ progress, message = .progress progress) ∨
        ∃ terminal, message = .terminal terminal ∧ terminal.status ≠ .cancelled)) := by
  rcases hs with hs | hs
  · cases h with
    | leaseClaim claim _ => exact .inl ⟨hs, claim, rfl⟩
    | progress message hf hs' | cancelAck message hf hs' | swallowed message hs' | terminal message hs' =>
      simp [hs] at hs'
  · refine .inr ⟨hs, ?_⟩
    cases message with
    | terminal terminal => exact .inr ⟨terminal, rfl, h.status_ne_cancelled hr hs⟩
    | progress progress => exact .inl ⟨progress, rfl⟩
    | leaseClaim message => cases h with | leaseClaim _ hs' => simp [hs] at hs'
    | cancelAck message => cases h with | cancelAck _ hf hs' => simp [hs] at hs'
    | leaseOffer message | leaseAccepted message | cancel message | terminalAck message => cases h

theorem clash_state {common : ConformanceMachine} {cancel : CancelV1} {message attempt} (ha : common.attempt.WorkerAhead machine.attempt)
    (hm : machine.Moves .workerToPlatform message attempt)
    (hs : common.attempt.state = .offered ∨ common.attempt.state = .claimPending ∨
      common.attempt.state = .claimed ∨ common.attempt.state = .terminalPending)
    (hk : (∃ claim, message = .leaseClaim claim) ∨
      (cancel.code = .fenced ∧ ((∃ progress, message = .progress progress) ∨
        ∃ terminal, message = .terminal terminal))) :
    common.attempt.state = .offered ∨ (common.attempt.state = .claimed ∧ cancel.code = .fenced) := by
  have hreaches := ha.reaches
  rcases hk with ⟨claim, rfl⟩ | ⟨hcode, hk⟩
  · cases hm with
    | leaseClaim _ hs' =>
      rw [hs'] at hreaches
      rcases hs with h | h | h | h <;> simp [h, workerReaches] at hreaches ⊢
  · have hstate : machine.attempt.state = .claimed ∨ machine.attempt.state = .cancelRequested ∨
        machine.attempt.state = .cancelAcked ∨ machine.attempt.state = .fenced := by
      cases hm with
      | progress _ hf hs' => rcases hs' with h | h | h <;> simp [h]
      | swallowed _ hs' | terminal _ hs' => exact hs'
      | leaseClaim _ | cancelAck _ => simp at hk
    refine .inr ⟨?_, hcode⟩
    rcases hs with h | h | h | h
    · rcases hstate with h' | h' | h' | h' <;> simp [h, h', workerReaches] at hreaches
    · rcases hstate with h' | h' | h' | h' <;> simp [h, h', workerReaches] at hreaches
    · exact h
    · rcases hstate with h' | h' | h' | h' <;> simp [h, h', workerReaches] at hreaches

theorem Received.cancelled {frame cancel} (h : machine.Received .platformToWorker frame (.cancel cancel) machine')
    (hlt : machine.attempt.platform.sequence < cancel.attemptSequence) :
    (machine.attempt.state = .offered ∨ machine.attempt.state = .claimPending ∨ machine.attempt.state = .claimed ∨
        machine.attempt.state = .terminalPending) ∧
      cancel.cancelRevision = 1 ∧
      (machine'.attempt.state = .cancelRequested ∨ machine'.attempt.state = .fenced) ∧
      machine'.attempt = { clearTerminal machine.attempt with
        cancelRevision := cancel.cancelRevision
        cancelCode := cancel.code
        state := if cancel.code = .fenced then .fenced else .cancelRequested
        platform := record machine.attempt.platform cancel.attemptSequence (attemptFingerprint (.cancel cancel)) } := by
  obtain ⟨attempt, hmove, heq⟩ := Received.moves h hlt
  cases hmove with
  | cancel _ hf hs hrev =>
    refine ⟨hs, hrev, ?_, heq⟩
    rw [heq]
    by_cases hcode : cancel.code = .fenced <;> simp [entered, hcode]

end ConformanceMachine

namespace Connection

open ConformanceMachine

variable {connection : Connection}

abbrev Forked (connection : Connection) : Prop :=
  Link.Forked (TakesAttempt .platformToWorker) (TakesAttempt .workerToPlatform) Settled connection

/-- The worker has taken a cancellation, and the platform is stuck behind a worker frame that it refuses. -/
structure Blocked (connection : Connection) : Prop where
  platform : connection.platform.Settled
  worker : connection.worker.Settled
  attempts : connection.platform.attempt.Blocked connection.worker.attempt
  repeated : ∀ frame ∈ connection.toRight, ∀ message, frame.payload = .attempt message →
    connection.platform.Duplicate .platformToWorker message
  refused : ∃ pre frame post message, connection.toLeft = pre ++ frame :: post ∧
    (∀ other ∈ pre, ∀ repeated, other.payload = .attempt repeated →
      connection.platform.Duplicate .workerToPlatform repeated) ∧
    frame.payload = .attempt message ∧ connection.platform.attempt.worker.sequence < message.sequence ∧
    ∀ machine : ConformanceMachine, machine.attempt = connection.platform.attempt →
      ∀ attempt, ¬ machine.Moves .workerToPlatform message attempt

theorem Blocked.sendLeft (h : connection.Blocked) {frame machine}
    (taken : TakesAttempt .platformToWorker connection.platform frame machine) :
    Blocked { connection with left := machine, toRight := connection.toRight ++ [frame] } := by
  obtain ⟨message, hreceived⟩ := taken.received
  rcases hreceived.attempt with ⟨hdup, heq⟩ | ⟨-, attempt, -, hmove, -⟩
  · refine ⟨taken.settled h.platform, h.worker, heq.symm ▸ h.attempts, fun other hmem repeated hpayload => ?_, ?_⟩
    · rcases List.mem_append.1 hmem with hmem | hmem
      · exact (h.repeated other hmem repeated hpayload).of_attempt heq
      · cases List.mem_singleton.1 hmem
        exact hreceived.message_eq hpayload ▸ hdup.of_attempt heq
    · obtain ⟨pre, head, post, refused, hsplit, hpre, hpayload, hlt, hno⟩ := h.refused
      exact ⟨pre, head, post, refused, hsplit, fun other hmem rep hrep => (hpre other hmem rep hrep).of_attempt heq,
        hpayload, heq.symm ▸ hlt, fun other ho => hno other (ho.trans heq)⟩
  · exact absurd (platformStuck_of_cancelled h.attempts.state) hmove.not_platformStuck

theorem Blocked.sendRight (h : connection.Blocked) {frame machine}
    (taken : TakesAttempt .workerToPlatform connection.worker frame machine) :
    Blocked { connection with right := machine, toLeft := connection.toLeft ++ [frame] } := by
  obtain ⟨message, hreceived⟩ := taken.received
  refine ⟨h.platform, taken.settled h.worker, ?_, h.repeated, ?_⟩
  · exact h.attempts.workerAhead (hreceived.workerAhead h.worker.regular (.refl _))
  · obtain ⟨pre, head, post, refused, hsplit, hrest⟩ := h.refused
    exact ⟨pre, head, post ++ [frame], refused, by simp [hsplit], hrest⟩

theorem Blocked.arriveRight (h : connection.Blocked) {frame rest machine} (head : connection.toRight = frame :: rest)
    (taken : TakesAttempt .platformToWorker connection.worker frame machine) :
    Blocked { connection with right := machine, toRight := rest } := by
  obtain ⟨message, hreceived⟩ := taken.received
  have hle : message.sequence ≤ connection.worker.attempt.platform.sequence := by
    rw [h.attempts.ledger]
    exact (h.repeated frame (head ▸ List.mem_cons_self) message hreceived.payload).sequence_le
  rcases hreceived.attempt with ⟨-, heq⟩ | ⟨now, attempt, hguard, -, -⟩
  · exact ⟨h.platform, taken.settled h.worker, heq.symm ▸ h.attempts,
      fun other hmem => h.repeated other (head ▸ List.mem_cons_of_mem _ hmem), h.refused⟩
  · exact absurd hguard.sequence_lt (not_lt.2 hle)

theorem Blocked.arriveLeft (h : connection.Blocked) {frame rest machine} (head : connection.toLeft = frame :: rest)
    (taken : TakesAttempt .workerToPlatform connection.platform frame machine) :
    Blocked { connection with left := machine, toLeft := rest } := by
  obtain ⟨message, hreceived⟩ := taken.received
  obtain ⟨pre, refused, post, message', hsplit, hpre, hpayload, hlt, hno⟩ := h.refused
  rw [head] at hsplit
  cases pre with
  | nil =>
    -- the frame in front is the one that the platform refuses
    cases hsplit
    obtain rfl := hreceived.message_eq hpayload
    obtain ⟨attempt, hmove, -⟩ := hreceived.moves hlt
    exact absurd hmove (hno _ rfl attempt)
  | cons first others =>
    cases hsplit
    have hdup := hpre frame List.mem_cons_self message hreceived.payload
    rcases hreceived.attempt with ⟨-, heq⟩ | ⟨now, attempt, hguard, -, -⟩
    · refine ⟨taken.settled h.platform, h.worker, heq.symm ▸ h.attempts,
        fun other hmem rep hrep => (h.repeated other hmem rep hrep).of_attempt heq, others, refused, post, message', rfl,
        fun other hmem rep hrep => ?_, hpayload, heq.symm ▸ hlt, fun other ho => hno other (ho.trans heq)⟩
      exact (hpre other (List.mem_cons_of_mem _ hmem) rep hrep).of_attempt heq
    · exact absurd hguard.sequence_lt (not_lt.2 hdup.sequence_le)

theorem forked_arriveLeft (h : connection.Forked) {frame rest machine} (head : connection.toLeft = frame :: rest)
    (taken : TakesAttempt .workerToPlatform connection.platform frame machine) :
    Forked { connection with left := machine, toLeft := rest } := by
  obtain ⟨common, hcommon, hplatform, hworker⟩ := h
  refine attempts_diamond.forked_arriveLeft hcommon hplatform (head ▸ hworker) ?_ taken
  intro pre clashing post mid hsplit hmid hclash
  rw [hsplit] at hplatform
  obtain ⟨mid', next, hpre, hcancel, hpost⟩ := hplatform.split
  have hsameMid := hmid.unique hpre attempts_diamond.left_unique
  subst hsameMid
  have hmidSettled := settled_run hmid hcommon
  obtain ⟨cancelMessage, hreceived⟩ := hcancel.received
  obtain ⟨message, hreceived'⟩ := taken.received
  obtain ⟨cancel, rfl, hlt, hlt', hkind⟩ := hclash.messages hreceived.payload hreceived'.payload
  obtain ⟨hstate, hrevision, hnextState, hnext⟩ := hreceived.cancelled hlt
  obtain ⟨hsame, -⟩ := duplicates_of_platformStuck hpost (platformStuck_of_cancelled hnextState)
  have hledger : connection.platform.attempt.worker = mid.attempt.worker := by rw [hsame, hnext]; rfl
  obtain ⟨attempt, hmove, -⟩ := hreceived'.moves (show connection.platform.attempt.worker.sequence < _ by
    rw [hledger]; exact hlt')
  refine not_moves_of_cancelled (hsame ▸ hnextState) ?_ ?_ hmove
  · rw [hsame, hnext]
    simp [hrevision]
  · rcases hkind with hclaim | ⟨hcode, hprogress | ⟨terminal, rfl⟩⟩
    · exact .inl hclaim
    · exact .inr ⟨by rw [hsame, hnext]; simp [hcode], by rw [hsame, hnext]; exact hcode, .inl hprogress⟩
    · refine .inr ⟨by rw [hsame, hnext]; simp [hcode], by rw [hsame, hnext]; exact hcode, .inr ⟨terminal, rfl, ?_⟩⟩
      -- the outcome was sent by a worker whose attempt was not cancelled
      have hahead := platformAhead_run hmid hcommon
      rw [head] at hworker
      cases hworker with
      | cons first _ =>
        obtain ⟨sent, hsent⟩ := first.received
        obtain rfl := hsent.message_eq hreceived'.payload
        obtain ⟨outcome, hmoved, -⟩ := hsent.moves (show common.attempt.worker.sequence < _ by
          rw [← hahead.worker_eq]; exact hlt')
        exact hmoved.status_ne_cancelled hcommon.regular (claimed_of_terminal hahead hmoved hstate)

theorem blocked_of_clash {common mid machine : ConformanceMachine} {frame clashing rest pre post} (hcommon : common.Settled)
    (hplatform : Lib.Takes (TakesAttempt .platformToWorker) common (frame :: rest) connection.platform)
    (hworker : Lib.Takes (TakesAttempt .workerToPlatform) common connection.toLeft connection.worker)
    (hsplit : connection.toLeft = pre ++ clashing :: post)
    (hmid : Lib.Takes (TakesAttempt .workerToPlatform) common pre mid) (hclash : mid.Clashes frame clashing)
    (taken : TakesAttempt .platformToWorker connection.worker frame machine) :
    Blocked { connection with right := machine, toRight := rest } := by
  have hworkerRun := hworker
  rw [hsplit] at hworkerRun
  obtain ⟨mid', after, hpre, hclashing, hpost⟩ := hworkerRun.split
  have hsameMid := hmid.unique hpre attempts_diamond.right_unique
  subst hsameMid
  have hmidSettled := settled_run hmid hcommon
  have hmidAhead := workerAhead_run hmid hcommon
  cases hplatform with
  | @cons _ next _ _ _ first hrest =>
    obtain ⟨cancelMessage, hfirst⟩ := first.received
    obtain ⟨message, hsecond⟩ := hclashing.received
    obtain ⟨cancel, rfl, hlt, hlt', hkind⟩ := hclash.messages hfirst.payload hsecond.payload
    rw [hmidAhead.platform_eq] at hlt
    obtain ⟨hstate, hrevision, hnextState, hnext⟩ := hfirst.cancelled hlt
    obtain ⟨moved, hmove, hafter⟩ := hsecond.moves (show mid.attempt.worker.sequence < _ from hlt')
    have hwhere := clash_state hmidAhead hmove hstate hkind
    -- the platform has not moved since it sent the cancellation
    obtain ⟨hsame, hrepeated⟩ := duplicates_of_platformStuck hrest (platformStuck_of_cancelled hnextState)
    have hworkerAhead := workerAhead_run hworker hcommon
    have hbehind : common.attempt.worker.sequence < connection.worker.attempt.worker.sequence := by
      have h1 := hmidAhead.sequence_le
      have h2 : mid.attempt.worker.sequence < after.attempt.worker.sequence := by
        rw [hafter]
        exact hlt'
      have h3 := (workerAhead_run hpost (hclashing.settled hmidSettled)).sequence_le
      omega
    have hactive : common.attempt.state ≠ .idle := by
      rcases hstate with h | h | h | h <;> simp [h]
    obtain ⟨message', htaken⟩ := taken.received
    obtain rfl := htaken.message_eq hfirst.payload
    obtain ⟨-, -, hfollowed, hmachine⟩ := htaken.cancelled (hworkerAhead.platform_eq ▸ hlt)
    have hplatformSettled := settled_run hrest (first.settled hcommon)
    refine ⟨hplatformSettled, taken.settled (settled_run hworker hcommon), ?_, fun other hmem repeated hrep => ?_, ?_⟩
    · show connection.platform.attempt.Blocked machine.attempt
      rw [hsame]
      refine ⟨hnextState, by rw [hnext]; rfl, ?_, ?_, by rw [hnext, hmachine], by rw [hnext, hmachine], ?_, ?_⟩
      · rw [hnext, hmachine]
        simp only [hworkerAhead.platform_eq]
      · rw [hnext, hmachine]
        exact hworkerAhead.binding_eq
      · exact hfollowed.imp_right fun hs => .inr (.inr hs)
      · rw [hnext, hmachine]
        exact hbehind
    · exact (hrepeated other hmem repeated hrep).of_attempt hsame
    · have hne : connection.worker.attempt ≠ common.attempt := fun h => by rw [h] at hbehind; omega
      obtain ⟨pre', frame', post', from', message', attempt, hsplit', hpre', hpayload', hfrom, hlt'', hmove'⟩ :=
        first_unseen hworker hne
      have hledger : connection.platform.attempt.worker = common.attempt.worker := by
        rw [hsame, hnext]
        rfl
      have hpending : connection.platform.attempt.pendingWorkerTerminal = common.attempt.pendingWorkerTerminal := by
        rw [hsame, hnext]
        rfl
      refine ⟨pre', frame', post', message', hsplit',
        fun other hmem rep hrep => (hpre' other hmem rep hrep).of_ledger hledger hpending, hpayload',
        hledger ▸ hlt'', fun machine hm attempt => ?_⟩
      refine not_moves_of_cancelled (hm ▸ hsame ▸ hnextState) ?_ ?_
      · rw [hm, hsame, hnext]
        simp [hrevision]
      · rcases hmove'.offered_or_claimed (hfrom ▸ hcommon.regular) (hfrom ▸ hwhere.imp_right And.left) with
          ⟨-, hclaim⟩ | ⟨hclaimed, hreport⟩
        · exact .inl hclaim
        · rw [hfrom] at hclaimed
          have hcode := (hwhere.resolve_left (by simp [hclaimed])).2
          refine .inr ⟨?_, ?_, hreport⟩
          · rw [hm, hsame, hnext]
            simp [hcode]
          · rw [hm, hsame, hnext]
            exact hcode

/-- A platform frame that the worker takes passes what the worker sent meanwhile, or leaves the platform blocked. -/
theorem forked_arriveRight (h : connection.Forked) {frame rest machine} (head : connection.toRight = frame :: rest)
    (taken : TakesAttempt .platformToWorker connection.worker frame machine) :
    Forked { connection with right := machine, toRight := rest } ∨
      Blocked { connection with right := machine, toRight := rest } := by
  obtain ⟨common, hcommon, hplatform, hworker⟩ := h
  rw [head] at hplatform
  by_cases hpasses : Passes (TakesAttempt .workerToPlatform) (fun mid other => mid.Clashes frame other) common
      connection.toLeft
  · exact .inl (attempts_diamond.forked_arriveRight hcommon hplatform hworker hpasses taken)
  · simp only [Passes, not_forall, not_not] at hpasses
    obtain ⟨pre, clashing, post, mid, hsplit, hmid, hclash⟩ := hpasses
    exact .inr (blocked_of_clash hcommon hplatform hworker hsplit hmid hclash taken)

def Follows (state : SequenceState) (frame : FrameV1) (next : SequenceState) : Prop :=
  state.sequence < frame.sequence ∧ state.ack ≤ frame.ack ∧ next = envelope frame

theorem follows_le {state final frames} (h : Lib.Takes Follows state frames final) :
    state.sequence ≤ final.sequence ∧ state.ack ≤ final.ack := by
  induction h with
  | nil state => exact ⟨le_refl _, le_refl _⟩
  | cons head _ ih =>
    obtain ⟨hseq, hack, rfl⟩ := head
    exact ⟨hseq.le.trans ih.1, hack.trans ih.2⟩

/-- What holds of two parties that started from one machine and exchanged attempt frames. -/
structure Parted (start : ConformanceMachine) (connection : Connection) : Prop where
  platform : start.SameConnection connection.platform
  worker : start.SameConnection connection.worker
  envelopes : Lib.Takes Follows connection.worker.platform connection.toRight connection.platform.platform
  attempts : connection.Forked ∨ connection.Blocked

theorem parted_run {start : ConformanceMachine} (hs : start.Settled)
    (run : Relation.ReflTransGen AttemptStep (.initial start) connection) : connection.Parted start := by
  induction run with
  | refl => exact ⟨.refl start, .refl start, .nil _, .inl ⟨start, hs, .nil _, .nil _⟩⟩
  | tail _ step ih =>
    cases step with
    | sendLeft taken =>
      obtain ⟨message, hreceived⟩ := taken.received
      refine ⟨hreceived.sameConnection ih.platform, ih.worker, ?_, ?_⟩
      · exact ih.envelopes.concat ⟨hreceived.follows.1, hreceived.follows.2, hreceived.platform_eq⟩
      · rcases ih.attempts with ⟨common, hcommon, hplatform, hworker⟩ | hblocked
        · exact .inl ⟨common, hcommon, hplatform.concat taken, hworker⟩
        · exact .inr (hblocked.sendLeft taken)
    | @sendRight frame machine taken =>
      obtain ⟨message, hreceived⟩ := taken.received
      refine ⟨ih.platform, hreceived.sameConnection ih.worker, ?_, ?_⟩
      · show Lib.Takes Follows machine.platform _ _
        rw [hreceived.platform_kept]
        exact ih.envelopes
      · rcases ih.attempts with ⟨common, hcommon, hplatform, hworker⟩ | hblocked
        · exact .inl ⟨common, hcommon, hplatform, hworker.concat taken⟩
        · exact .inr (hblocked.sendRight taken)
    | @arriveRight frame rest machine head taken =>
      obtain ⟨message, hreceived⟩ := taken.received
      refine ⟨ih.platform, hreceived.sameConnection ih.worker, ?_, ?_⟩
      · show Lib.Takes Follows machine.platform _ _
        have henvelopes := ih.envelopes
        rw [head] at henvelopes
        cases henvelopes with
        | cons first others =>
          obtain ⟨-, -, rfl⟩ := first
          rw [hreceived.platform_eq]
          exact others
      · rcases ih.attempts with hforked | hblocked
        · exact forked_arriveRight hforked head taken
        · exact .inr (hblocked.arriveRight head taken)
    | @arriveLeft frame rest machine head taken =>
      obtain ⟨message, hreceived⟩ := taken.received
      refine ⟨hreceived.sameConnection ih.platform, ih.worker, ?_, ?_⟩
      · show Lib.Takes Follows _ _ machine.platform
        rw [hreceived.platform_kept]
        exact ih.envelopes
      · rcases ih.attempts with hforked | hblocked
        · exact .inl (forked_arriveLeft hforked head taken)
        · exact .inr (hblocked.arriveLeft head taken)

theorem Parted.apart {start} (h : connection.Parted start) :
    connection.platform.attempt.Apart connection.worker.attempt ∧ connection.platform.attempt.Regular ∧
      connection.worker.attempt.Regular := by
  rcases h.attempts with ⟨common, hcommon, hplatform, hworker⟩ | hblocked
  · have hp := (settled_run hplatform hcommon).regular
    have hw := (settled_run hworker hcommon).regular
    exact ⟨(platformAhead_run hplatform hcommon).apart (workerAhead_run hworker hcommon) hp hw, hp, hw⟩
  · have hp := hblocked.platform.regular
    have hw := hblocked.worker.regular
    exact ⟨hblocked.attempts.apart hp hw, hp, hw⟩

end Connection

end Sessionless.Protocol
