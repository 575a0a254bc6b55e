import Sessionless.Protocol.Lemmas.Commitment
import Sessionless.Protocol.Lemmas.Stored
import Sessionless.Protocol.Reference

/-!
# No late or overridden commitment

Over every run of the platform reducers, a committed attempt has a lease, a terminal sent in
time and no cancellation that its outcome overrides. Bindings may be offered again once
their attempt is retired, so commitments are counted against offers.
-/

namespace Sessionless.Protocol

open Lib

section

variable [Crypto]

/-- What must have happened, since the attempt was last idle, when a call commits it. -/
structure Justified (entry : Entry) (earlier : List Entry) : Prop where
  terminal : TerminalTaken (messages (currentAttempt earlier)) entry.after.attempt
  outcome : entry.after.attempt.terminalStatus ≠ .cancelled →
    Taken [.leaseAccepted, .leaseClaim, .leaseOffer] entry.after.attempt.binding (messages (currentAttempt earlier)) ∧
      (∀ taken ∈ messages (currentAttempt earlier), taken.1.kind ≠ .cancel) ∧ ∀ other ∈ earlier, ¬ other.Revokes
  cancelled : entry.after.attempt.terminalStatus = .cancelled →
    Taken [.cancel] entry.after.attempt.binding (messages (currentAttempt earlier))
  unfenced : ∀ other ∈ currentAttempt earlier, other.after.attempt.state ≠ .fenced
  unrevoked : ∀ other ∈ entry :: earlier, ¬ other.before.Revoking

theorem Accounted.justified {entry earlier binding}
    (h : Accounted earlier entry.before) (ha : entry.Advance) (hc : entry.Commits binding) : Justified entry earlier := by
  obtain ⟨hpending, hrevoking, hcore⟩ := ha.commits hc
  have hterminal : entry.before.record.terminalSequence ≠ 0 := h.traced.settled hpending
  have hsame : entry.after.attempt.binding = entry.before.record.binding ∧
      entry.after.attempt.terminalStatus = entry.before.record.terminalStatus ∧
      entry.after.attempt.terminalResult = entry.before.record.terminalResult ∧
      entry.after.attempt.terminalEvidenceDigest = entry.before.record.terminalEvidence :=
    ⟨congrArg AttemptRecord.binding hcore, congrArg AttemptRecord.terminalStatus hcore,
      congrArg AttemptRecord.terminalResult hcore, congrArg AttemptRecord.terminalEvidence hcore⟩
  obtain ⟨hbinding, hstatus, hresult, hevidence⟩ := hsame
  refine ⟨?_, fun hs => ?_, fun hs => ?_, fun other hmem hfenced => ?_, fun other hmem hrev => ?_⟩
  · obtain ⟨terminal, now, hmem, h1, h2, h3, h4, h5⟩ := h.traced.terminal hterminal
    exact ⟨terminal, now, hmem, h1.trans hbinding.symm, by rw [hbinding]; exact h2, h3.trans hstatus.symm,
      h4.trans hresult.symm, h5.trans hevidence.symm⟩
  · have hzero : entry.before.record.cancelRevision = 0 := (h.traced.outcome hterminal).2 (hstatus ▸ hs)
    rw [hbinding]
    exact ⟨h.traced.leased hterminal hzero, h.traced.uncancelled hzero,
      fun other hmem hr => hrevoking (h.revoking other hmem (.inr (.inr hr)))⟩
  · have hne : entry.before.record.cancelRevision ≠ 0 :=
      fun h0 => (h.traced.outcome hterminal).1 h0 (hstatus ▸ hs)
    rw [hbinding]
    exact (h.traced.cancelled hne).resolve_right hrevoking
  · have hf := h.fenced other hmem hfenced
    rw [hpending] at hf
    cases hf
  · rcases List.mem_cons.1 hmem with rfl | hmem
    · exact hrevoking hrev
    · exact hrevoking (h.revoking other hmem (.inl hrev))

/-- An attempt is committed at most once for each time its binding was offered, and every
commitment is justified by what was taken in since. -/
theorem commits_le_offers_and_justified {start final : PlatformState} {log : List Entry} (hv : start.snapshot.Valid)
    (hs : start.attempt.state = .idle) (h : Reduces start log final) :
    (∀ binding, log.countP (fun entry => decide (entry.Commits binding)) ≤
      log.countP (fun entry => decide (entry.Offers binding))) ∧
    ∀ entry earlier binding, List.IsSuffix (entry :: earlier) log → entry.Commits binding → Justified entry earlier := by
  refine ⟨fun binding => ?_, fun entry earlier binding hsuffix hc => ?_⟩
  · have hcount := (h.accounted hv hs).counted binding
    omega
  · obtain ⟨hrun, ha⟩ := h.of_suffix hsuffix
    exact (hrun.accounted hv hs).justified ha hc

end

section

open Reference

def attemptPayloads : List (Direction × Payload) :=
  [(.platformToWorker, .attempt leaseOffer), (.workerToPlatform, .attempt leaseClaim),
    (.platformToWorker, .attempt leaseAccepted), (.workerToPlatform, .attempt (.terminal (terminal .succeeded .completed)))]

def acknowledgement : Payload :=
  .attempt (.terminalAck {
    binding := binding
    attemptSequence := 3
    terminalSequence := 1
    status := .succeeded
    result := .completed
    evidenceDigest := List.replicate 32 8 })

/-- The reference worker runs its attempt up to its terminal and has it acknowledged: both machines. -/
def attemptRun (machine : ConformanceMachine) : Except ErrorCode (ConformanceMachine × ConformanceMachine) := do
  let pending ← machine.exchange 10 attemptPayloads
  let committed ← pending.exchange 10 [(.platformToWorker, acknowledgement)]
  return (pending, committed)

theorem attemptPayloads_routine : ∀ entry ∈ attemptPayloads, entry.2.Routine := by
  simp [attemptPayloads, Payload.Routine, leaseOffer, leaseClaim, leaseAccepted]

theorem plain_ready : (ready 1 {}).Plain := ⟨rfl, rfl, rfl⟩

theorem Stored.attemptRun {start log machine pending committed snapshot} (h : Stored start log machine snapshot)
    (hr : Sessionless.Protocol.attemptRun machine = .ok (pending, committed))
    (hp : pending.attempt.state ≠ .terminalCommitted) (hc : committed.attempt.state = .terminalCommitted) :
    ∃ entry log' post, List.IsSuffix log log' ∧ Stored start (entry :: log') committed post ∧
      entry.Commits committed.attempt.binding := by
  simp only [Sessionless.Protocol.attemptRun, bind_eq_ok, pure_eq_ok, Prod.mk.injEq] at hr
  obtain ⟨_, hpending, _, hcommitted, rfl, rfl⟩ := hr
  obtain ⟨log', post, hsuffix, hstored⟩ := h.exchange attemptPayloads_routine hpending
  obtain ⟨entry, post', hstored', hcommits⟩ := hstored.commit (show acknowledgement.Routine from trivial) hcommitted hp hc
  exact ⟨entry, log', post', hsuffix, hstored', hcommits⟩

/-- The reference worker has one attempt committed. -/
theorem commits_le_offers_and_justified_ready : ∃ start final log, start.snapshot.Valid ∧ start.attempt.state = .idle ∧
    Reduces start log final ∧ ∃ entry earlier, log = entry :: earlier ∧ entry.Commits binding ∧ Justified entry earlier := by
  have hrun : okAnd (attemptRun (ready 1 {})) (fun run => decide (run.1.attempt.state ≠ .terminalCommitted ∧
      run.2.attempt.state = .terminalCommitted ∧ run.2.attempt.binding = binding)) = true := by decide +kernel
  obtain ⟨⟨pending, committed⟩, hr, hrun⟩ := exists_of_okAnd hrun
  obtain ⟨hp, hc, hb⟩ := of_decide_eq_true hrun
  obtain ⟨snapshot, hstart⟩ := Stored.initial (sound_ready (by decide)) plain_ready
  obtain ⟨entry, earlier, post, -, hstored, hcommits⟩ := hstart.attemptRun hr hp hc
  have hvalid := (ConformanceMachine.valid_of_snapshot hstart.persisted).1
  have hidle : (⟨config 1, snapshot⟩ : PlatformState).attempt.state = .idle := hstart.record_eq.1
  refine ⟨_, _, _, hvalid, hidle, hstored.run, entry, earlier, rfl, hb ▸ hcommits, ?_⟩
  exact (commits_le_offers_and_justified hvalid hidle hstored.run).2 entry earlier _ (List.suffix_refl _) hcommits

/-- The same binding, offered again after its attempt was committed and retired, is committed again. -/
theorem committed_twice : ∃ start final log, start.snapshot.Valid ∧ start.attempt.state = .idle ∧
    Reduces start log final ∧ 2 ≤ log.countP (fun entry => decide (entry.Commits binding)) := by
  have hrun : okAnd (attemptRun (ready 1 {})) (fun run =>
      decide (run.1.attempt.state ≠ .terminalCommitted ∧ run.2.attempt.state = .terminalCommitted ∧
        run.2.attempt.binding = binding) &&
      okAnd (run.2.exchange 10 [(.workerToPlatform, .heartbeat ⟨10, true, 0⟩)]) fun settled =>
        decide (settled.attempt.state = .terminalCommitted ∧ settled.platform.sequence ≤ settled.worker.ack) &&
        okAnd (attemptRun (settled.setAttempt {})) fun again =>
          decide (again.1.attempt.state ≠ .terminalCommitted ∧ again.2.attempt.state = .terminalCommitted ∧
            again.2.attempt.binding = binding)) = true := by decide +kernel
  obtain ⟨⟨pending, committed⟩, hr, hrun⟩ := exists_of_okAnd hrun
  rw [Bool.and_eq_true] at hrun
  obtain ⟨hfirst, hrun⟩ := hrun
  obtain ⟨hp, hc, hb⟩ := of_decide_eq_true hfirst
  obtain ⟨settled, hs, hrun⟩ := exists_of_okAnd hrun
  rw [Bool.and_eq_true] at hrun
  obtain ⟨hsettled, hrun⟩ := hrun
  obtain ⟨hsc, hack⟩ := of_decide_eq_true hsettled
  obtain ⟨⟨pending', committed'⟩, hr', hrun⟩ := exists_of_okAnd hrun
  obtain ⟨hp', hc', hb'⟩ := of_decide_eq_true hrun
  obtain ⟨snapshot, hstart⟩ := Stored.initial (sound_ready (by decide)) plain_ready
  obtain ⟨first, log₁, post₁, -, h₁, hfirst⟩ := hstart.attemptRun hr hp hc
  obtain ⟨log₂, post₂, hsuffix₂, h₂⟩ := h₁.exchange (by simp [Payload.Routine]) hs
  obtain ⟨post₃, h₃⟩ := h₂.retire hsc hack
  obtain ⟨second, log₄, post₄, hsuffix₄, h₄, hsecond⟩ := h₃.attemptRun hr' hp' hc'
  rw [hb] at hfirst
  rw [hb'] at hsecond
  have hidle : (⟨config 1, snapshot⟩ : PlatformState).attempt.state = .idle := hstart.record_eq.1
  refine ⟨_, _, _, (ConformanceMachine.valid_of_snapshot hstart.persisted).1, hidle, h₄.run, ?_⟩
  have hsuffix := hsuffix₂.trans ((List.suffix_cons _ _).trans hsuffix₄)
  have hcount := hsuffix.sublist.countP_le (p := fun entry => decide (entry.Commits binding))
  rw [List.countP_cons_of_pos (by simpa using hfirst)] at hcount
  rw [List.countP_cons_of_pos (by simpa using hsecond)]
  omega

end

end Sessionless.Protocol
