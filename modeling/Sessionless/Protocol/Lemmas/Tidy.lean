import Sessionless.Protocol.Lemmas.Agreement
import Sessionless.Protocol.Run

/-!
# Every reachable machine is tidy

A snapshot omits the fields that a machine does not use. For that to lose nothing, an
unused field must hold its zero value, and the two reconnect flags must be told apart by
the connection state. Both hold of every reachable machine.
-/

namespace Sessionless.Protocol

open Lib

variable [Crypto]

structure AttemptRecord.Tidy (attempt : AttemptRecord) : Prop where
  binding : attempt.state = .idle → attempt.binding = {}
  evidence : attempt.terminalSequence = 0 → attempt.terminalEvidence = []

namespace ConformanceMachine

variable {machine machine' : ConformanceMachine} {direction : Direction}

structure Tidy (machine : ConformanceMachine) : Prop where
  platform : machine.platform.sequence = 0 → machine.platform = {}
  worker : machine.worker.sequence = 0 → machine.worker = {}
  hello : machine.hello = {} ∨ machine.hello.Valid
  challenge : machine.challenge = {} ∨ machine.challenge.Valid
  manifest : machine.manifest = {} ∨ machine.manifest.Valid
  revoke : machine.revoke = {} ∨ machine.revoke.Valid
  claim : machine.reconnectClaim = {} ∨ machine.reconnectClaim.Valid
  attempt : machine.attempt.Tidy
  reconnecting : machine.reconnecting = true → machine.drainReenvelopePending = false ∧
    machine.connection ≠ .ready ∧ machine.connection ≠ .draining ∧
    (machine.reconnectTarget = .ready ∨ machine.reconnectTarget = .draining)
  reenvelope : machine.drainReenvelopePending = true →
    machine.connection = .draining ∨ machine.connection = .drained ∨ machine.Revoking
  pended : machine.connection = .reconnectPending → machine.reconnecting = true

/-! ## The attempt record -/

theorem currentAttemptSummary_of_tidy (h : machine.attempt.Tidy) : machine.currentAttemptSummary =
    { machine.attempt.content with digest := attemptSummaryDigestV1 machine.attempt.content } :=
  sealAttemptSummary_eq machine.attempt.content h.evidence h.binding

theorem restoreAttempt_snapshot (h : machine.attempt.Tidy) (digest : Bytes) :
    restoreAttempt (machine.snapshotContent digest).attempt = machine.attempt := by
  have hpending : (machine.attempt.pendingWorkerTerminal.map TerminalReplayCommitment.snapshot).map
      MachinePendingTerminalSnapshotV1.restore = machine.attempt.pendingWorkerTerminal := by
    cases machine.attempt.pendingWorkerTerminal with
    | none => rfl
    | some pending => simp [TerminalReplayCommitment.restore_snapshot]
  simp only [restoreAttempt, snapshotContent, currentAttemptSummary_of_tidy h, AttemptRecord.content,
    restoreAttemptDirection_snapshot, hpending]

theorem tidy_of_moves {message attempt} (h : machine.attempt.Tidy)
    (hm : machine.Moves direction message attempt) : attempt.Tidy := by
  refine ⟨fun hs => absurd hs hm.active, ?_⟩
  cases hm with
  | leaseOffer message | leaseClaim message | leaseAccepted message | progress message => exact h.evidence
  | cancel message => exact fun _ => rfl
  | cancelAck message | swallowed message => exact h.evidence
  | terminal message hs hq => exact fun h0 => absurd h0 (by simp [hq])
  | terminalAck message => exact h.evidence

theorem tidy_entered {attempt} (h : attempt.Tidy) (message : AttemptMessage) :
    (entered attempt direction message).Tidy := by
  cases direction with
  | platformToWorker | workerToPlatform => exact ⟨h.binding, h.evidence⟩

theorem tidy_fenceAttempt {attempt} (h : attempt.Tidy) : (fenceAttempt attempt).Tidy := by
  unfold fenceAttempt
  split
  · exact ⟨(by simp), fun _ => rfl⟩
  · exact h

theorem tidy_applyAttemptSummary (machine : ConformanceMachine) {summary} (h : summary.ContentValid) :
    (machine.applyAttemptSummary summary).applyDiscardTombstone.attempt.Tidy := by
  have key : (machine.applyAttemptSummary summary).attempt.Tidy := ⟨h.binding, h.evidence⟩
  unfold applyDiscardTombstone
  split
  · split
    · exact key
    · exact ⟨key.binding, key.evidence⟩
  · exact key

/-! ## Every operation -/

theorem Tidy.setAttempt (h : machine.Tidy) {attempt} (ha : attempt.Tidy) :
    (machine.setAttempt attempt).Tidy :=
  { h with attempt := ha }

theorem Tidy.setSender (h : machine.Tidy) {state} (hs : state.sequence ≠ 0) :
    (machine.setSender direction state).Tidy := by
  cases direction with
  | platformToWorker => exact { h with platform := fun h0 => absurd h0 hs }
  | workerToPlatform => exact { h with worker := fun h0 => absurd h0 hs }

theorem Tidy.not_reconnecting (h : machine.Tidy)
    (hc : machine.connection = .ready ∨ machine.connection = .draining) : machine.reconnecting = false := by
  by_contra hne
  obtain ⟨-, h1, h2, -⟩ := h.reconnecting (by simpa using hne)
  exact hc.elim h1 h2

theorem Tidy.no_reenvelope (h : machine.Tidy) {state} (hc : machine.connection = state)
    (hs : state ≠ .draining ∧ state ≠ .drained ∧ state ≠ .revoking ∧ state ≠ .revoked := by decide) :
    machine.drainReenvelopePending = false := by
  cases hd : machine.drainReenvelopePending with
  | false => rfl
  | true => rcases h.reenvelope hd with h0 | h0 | h0 | h0 <;> simp [← hc, h0] at hs

/-- A handshake frame moves the connection to a state that is not its last: the flags stay as they are. -/
theorem Tidy.handshake (h : machine.Tidy) {state} (hc : machine.connection = state) (next : ConnectionState)
    (hs : state ≠ .draining ∧ state ≠ .drained ∧ state ≠ .revoking ∧ state ≠ .revoked := by decide)
    (hn : next ≠ .ready ∧ next ≠ .draining := by decide)
    (hp : next = .reconnectPending → machine.reconnecting = true := by simp) :
    ({ machine with connection := next } : ConformanceMachine).Tidy :=
  { h with
    reconnecting := fun hr => ⟨(h.reconnecting hr).1, hn.1, hn.2, (h.reconnecting hr).2.2.2⟩
    reenvelope := fun hd => absurd hd (by simp [h.no_reenvelope hc hs])
    pended := hp }

theorem Tidy.apply (h : machine.Tidy) {frame now} (hv : frame.payload.Valid)
    (ha : machine.apply direction frame now = .ok () machine') : machine'.Tidy := by
  cases applied_of_apply ha with
  | hello hp hd hc =>
    rw [hp] at hv
    exact { h.handshake hc .hello with hello := .inr hv }
  | challenge hp hd hc =>
    rw [hp] at hv
    exact { h.handshake hc .challenged with challenge := .inr hv }
  | attach hp hd hc => exact { h.handshake hc .attachPending with }
  | attachAccepted hp hd hc => exact h.handshake hc .attached
  | reconnect hp hg =>
    exact { h.handshake hg.connection_eq .reconnectPending (by decide) (by decide) fun _ => hg.reconnecting_eq with
      claim := .inr hg.compatible.1.1 }
  | @reconnectAccepted message attempt hp haccepted =>
    rw [hp] at hv
    obtain ⟨-, hc, -, -, installed, -, heq⟩ := acceptReconnectAccepted_ok haccepted
    have hattempt : attempt.Tidy := by
      rw [show attempt = _ from congrArg ConformanceMachine.attempt heq]
      exact tidy_applyAttemptSummary _ hv.2.2.1.1
    exact { h.handshake hc .attached with attempt := hattempt }
  | resumed hp hg hr =>
    rw [hp] at hv
    refine { h with
      manifest := .inr hv.1
      reconnecting := by simp
      reenvelope := fun hd => .inl (by simpa using hd)
      pended := fun hpending => ?_ }
    rcases (h.reconnecting hr).2.2.2 with ht | ht <;> simp [ht] at hpending
  | admitted hp hg hr =>
    rw [hp] at hv
    have hc := hg.connection_eq
    exact { h with
      manifest := .inr hv.1
      reconnecting := fun hr' => absurd hr' (by simp [hr])
      reenvelope := fun hd => absurd hd (by simp [h.no_reenvelope hc])
      pended := by simp }
  | heartbeat hp | repeated hp | error hp => exact h
  | moved hp hg hm => exact h.setAttempt (tidy_entered (tidy_of_moves h.attempt hm) _)
  | drain hp hd hc =>
    exact { h with
      reconnecting := fun hr => absurd hc (h.reconnecting hr).2.1
      reenvelope := fun _ => .inl rfl
      pended := by simp }
  | drainAgain hp hd hc =>
    exact { h with reconnecting := fun hr => absurd hc (h.reconnecting hr).2.2.1, reenvelope := by simp }
  | drained hp hd hc =>
    exact { h with
      reconnecting := fun hr => absurd hc (h.reconnecting hr).2.2.1
      reenvelope := fun _ => .inr (.inl rfl)
      pended := by simp }
  | revoke hp =>
    rw [hp] at hv
    exact { h with
      revoke := .inr hv
      attempt := tidy_fenceAttempt h.attempt
      reconnecting := fun hr => ⟨(h.reconnecting hr).1, by simp, by simp, (h.reconnecting hr).2.2.2⟩
      reenvelope := fun _ => .inr (.inr (.inl rfl))
      pended := by simp }
  | revoked hp =>
    exact { h with
      reconnecting := fun hr => ⟨(h.reconnecting hr).1, by simp, by simp, (h.reconnecting hr).2.2.2⟩
      reenvelope := fun _ => .inr (.inr (.inr rfl))
      pended := by simp }

theorem Tidy.perform (h : machine.Tidy) {operation} (hs : machine.perform operation = .ok () machine') :
    machine'.Tidy := by
  cases operation with
  | accept direction frame acceptance =>
    rcases accept_ok.1 hs with ⟨-, -, -, -, -, rfl⟩ | ⟨hf, applied, happ, rfl⟩
    · exact h
    · exact (h.apply hf.authorized.2.2.2.1.2 happ).setSender hf.authorized.2.2.2.1.1.2.2.2.2.2
  | beginReconnect next =>
    obtain ⟨hg, rfl⟩ := beginReconnect_ok.1 hs
    exact ⟨fun _ => rfl, fun _ => rfl, .inl rfl, .inl rfl, h.manifest, h.revoke, h.claim, h.attempt,
      fun _ => ⟨hg.noReenvelope, by simp [reconnected], by simp [reconnected], hg.connection⟩,
      fun hd => absurd hd (by simp [reconnected, hg.noReenvelope]), by simp [reconnected]⟩
  | eraseCommittedAttempt =>
    obtain ⟨-, rfl⟩ := eraseCommittedAttempt_ok.1 hs
    exact h.setAttempt ⟨fun _ => rfl, fun _ => rfl⟩

theorem Agrees.perform (h : machine.Agrees) {operation} (hs : machine.perform operation = .ok () machine') :
    machine'.Agrees := by
  cases operation with
  | accept direction frame acceptance => exact h.accept hs
  | beginReconnect next => exact h.beginReconnect hs
  | eraseCommittedAttempt => exact h.eraseCommittedAttempt hs

theorem tidy_newConformanceMachine {config} (h : newConformanceMachine config = .ok machine) :
    machine.Tidy := by
  simp only [newConformanceMachine, ite_ok_eq_ok] at h
  obtain ⟨-, rfl⟩ := h
  exact ⟨fun _ => rfl, fun _ => rfl, .inl rfl, .inl rfl, .inl rfl, .inl rfl, .inl rfl, ⟨fun _ => rfl, fun _ => rfl⟩,
    (by simp), (by simp), (by simp)⟩

theorem restoreFields_snapshot (h : machine.Tidy) {snapshot} (hs : machine.snapshot = .ok snapshot)
    (hr : machine.reconnecting = false) (hd : machine.drainReenvelopePending = false) :
    restoreFields machine.config snapshot = { machine with
      reconnectTarget := .unattached
      previousConnectionGeneration := 0
      reconnectWatermarks := {}
      reconnectAttempt := {}
      reconnectClaim := {} } := by
  obtain ⟨digest, -, -, rfl⟩ := snapshot_ok.1 hs
  have hattempt := restoreAttempt_snapshot h.attempt digest
  have hrec : machine.snapshotReconnect = none := by simp [snapshotReconnect, hr, hd]
  simp only [restoreFields, hattempt]
  simp only [snapshotContent, hrec, restoreEnvelope_snapshot h.platform, restoreEnvelope_snapshot h.worker,
    getD_present h.hello, getD_present h.challenge, getD_present h.manifest, getD_present h.revoke, hr, hd]

/-- A restored machine is tidy: its snapshot passed the checks. -/
theorem tidy_restoreConformanceMachine {config snapshot}
    (h : restoreConformanceMachine config snapshot = .ok machine) : machine.Tidy := by
  obtain ⟨⟨⟨⟨hheader, hrecords, hconnection⟩, -⟩, -, -⟩, rfl⟩ := restoreConformanceMachine_ok.1 h
  obtain ⟨-, -, hplatform, hworker, -, -, hsummary, -⟩ := hheader
  obtain ⟨hhello, hchallenge, hmanifest, hrevoke, -, -, -, -, -, hreconnect, -, -⟩ := hrecords
  have envelope : ∀ {stored : MachineEnvelopeSnapshotV1}, validateEnvelopeSnapshot stored →
      (restoreEnvelope stored).sequence = 0 → restoreEnvelope stored = {} := by
    intro stored hv h0
    obtain ⟨sequence, ack, fingerprint⟩ := stored
    simp only [restoreEnvelope] at h0
    subst h0
    obtain ⟨rfl, rfl⟩ := hv
    rfl
  have record : ∀ {α : Type} {P : α → Prop} {zero : α} {stored : Option α}, (∀ a ∈ stored, P a) →
      stored.getD zero = zero ∨ P (stored.getD zero) := by
    intro α P zero stored hv
    cases stored with
    | none => exact .inl rfl
    | some a => exact .inr (hv a rfl)
  have hattempt : (restoreAttempt snapshot.attempt).Tidy := ⟨hsummary.1.binding, hsummary.1.evidence⟩
  cases hr : snapshot.reconnect with
  | none =>
    simp only [restoreFields, hr]
    refine ⟨envelope hplatform, envelope hworker, record hhello, record hchallenge, record hmanifest, record hrevoke,
      .inl rfl, hattempt, (by simp), (by simp), fun hc => ?_⟩
    simp only at hc
    rw [hc] at hconnection
    obtain ⟨⟨reconnect, hmem, -⟩, -⟩ := hconnection
    rw [hr] at hmem
    exact absurd hmem (Option.not_mem_none _)
  | some reconnect =>
    obtain ⟨htarget, -, -, -, hclaim⟩ := hreconnect reconnect hr
    have hready : snapshot.connection ≠ .ready := by
      intro hc
      rw [hc] at hconnection
      exact absurd (hr.symm.trans hconnection.1) (by simp)
    simp only [restoreFields, hr]
    refine ⟨envelope hplatform, envelope hworker, record hhello, record hchallenge, record hmanifest, record hrevoke,
      record fun claim hc => (hclaim claim hc).1, hattempt, fun hf => ?_, fun hf => ?_, fun hc => ?_⟩
    · have hd : snapshot.connection ≠ .draining := of_decide_eq_true hf
      exact ⟨decide_eq_false hd, hready, hd, htarget⟩
    · exact .inl (of_decide_eq_true hf)
    · have hc' : snapshot.connection = .reconnectPending := hc
      simp [hc']

theorem Reachable.tidy (h : Reachable machine) : machine.Tidy := by
  induction h with
  | new h => exact tidy_newConformanceMachine h
  | step _ hs ih => exact ih.perform hs

theorem Reachable.agrees (h : Reachable machine) : machine.Agrees := by
  induction h with
  | new h => exact agrees_newConformanceMachine h
  | step _ hs ih => exact ih.perform hs

end ConformanceMachine

end Sessionless.Protocol
