import Sessionless.Protocol.Reference

/-!
# Attempt messages before the worker is authenticated

Until a signed `Attach` or `Reconnect` is verified, nothing ties the connection to the worker. A machine on its first
connection accepts no attempt message then. A machine that reconnects keeps its attempt, and every message that is
next in its ledger takes effect.
-/

namespace Sessionless.Protocol

open Lib

section

variable [Crypto]

namespace ConformanceMachine

variable {machine machine' : ConformanceMachine} {direction : Direction}

def Unauthenticated (machine : ConformanceMachine) : Prop :=
  machine.connection = .unattached ∨ machine.connection = .hello ∨ machine.connection = .challenged

/-- The frame repeats the last envelope of its direction, or its message one that the attempt has counted. -/
def Repeats (machine : ConformanceMachine) (direction : Direction) (frame : FrameV1) (message : AttemptMessage) : Prop :=
  frame.sequence = (machine.sender direction).sequence ∨ message.sequence ≤ (machine.attemptSender direction).sequence

/-! ## The first connection -/

/-- A machine on its first connection has no attempt before it is authenticated. -/
def Pristine (machine : ConformanceMachine) : Prop :=
  machine.Unauthenticated → machine.reconnecting = false → machine.attempt = {}

theorem Pristine.of_eq (h : machine.Pristine) (hc : machine'.Unauthenticated → machine.Unauthenticated)
    (hr : machine'.reconnecting = machine.reconnecting) (ha : machine'.attempt = machine.attempt) :
    machine'.Pristine := by
  intro hu hf
  rw [ha]
  exact h (hc hu) (hr.symm.trans hf)

theorem pristine_of_connection (h : ¬ machine.Unauthenticated) : machine.Pristine := fun hu => absurd hu h

theorem Pristine.refuses (h : machine.Pristine) (hu : machine.Unauthenticated) (hr : machine.reconnecting = false)
    {message now} : machine.acceptAttempt direction message now ≠ .ok () machine' := by
  intro ha
  have hempty := h hu hr
  rcases acceptAttempt_cases ha with ⟨hd, -⟩ | ⟨-, attempt, hm, -⟩
  · have hle := hd.sequence_le
    have hne := hd.sequence_ne
    cases direction with
    | platformToWorker | workerToPlatform =>
      simp only [attemptSender, hempty] at hle
      omega
  · have hready := (hm.of_idle (by rw [hempty])).1
    rcases hu with hu | hu | hu <;> simp [hready] at hu

theorem Pristine.apply (h : machine.Pristine) (ht : machine.Tidy) {frame now}
    (ha : machine.apply direction frame now = .ok () machine') : machine'.Pristine := by
  cases applied_of_apply ha with
  | hello hp hd hc => exact h.of_eq (fun _ => .inl hc) rfl rfl
  | challenge hp hd hc => exact h.of_eq (fun _ => .inr (.inl hc)) rfl rfl
  | resumed hp hg hr =>
    rcases (ht.reconnecting hr).2.2.2 with htarget | htarget
    · exact pristine_of_connection (by simp [Unauthenticated, htarget])
    · exact pristine_of_connection (by simp [Unauthenticated, htarget])
  | heartbeat hp | repeated hp | error hp => exact h
  | moved hp hg hm =>
    intro hu hr
    exact absurd (acceptAttempt_of_moves hg hm) (h.refuses hu hr)
  | drainAgain hp hd hc => exact pristine_of_connection (by simp [Unauthenticated, hc])
  | _ => exact pristine_of_connection (by simp [Unauthenticated])

theorem Pristine.perform (h : machine.Pristine) (ht : machine.Tidy) {operation}
    (hs : machine.perform operation = .ok () machine') : machine'.Pristine := by
  cases operation with
  | accept direction frame acceptance =>
    rcases accept_ok.1 hs with ⟨-, -, -, -, -, rfl⟩ | ⟨-, applied, ha, rfl⟩
    · exact h
    · have happlied := h.apply ht ha
      cases direction with
      | platformToWorker => exact happlied
      | workerToPlatform => exact happlied
  | beginReconnect next =>
    obtain ⟨-, rfl⟩ := beginReconnect_ok.1 hs
    intro _ hr
    cases hr
  | eraseCommittedAttempt =>
    obtain ⟨-, rfl⟩ := eraseCommittedAttempt_ok.1 hs
    intro _ _
    rfl

theorem Reachable.pristine (h : machine.Reachable) : machine.Pristine := by
  induction h with
  | new h =>
    simp only [newConformanceMachine, ite_ok_eq_ok] at h
    obtain ⟨-, rfl⟩ := h
    intro _ _
    rfl
  | step h hs ih => exact ih.perform h.tidy hs

/-! ## What an accepted message changes -/

theorem acceptAttempt_unchanged_iff {message now}
    (h : machine.acceptAttempt direction message now = .ok () machine') :
    machine'.attempt = machine.attempt ↔ message.sequence ≤ (machine.attemptSender direction).sequence := by
  rcases acceptAttempt_cases h with ⟨hd, rfl⟩ | ⟨hg, attempt, hm, rfl⟩
  · exact ⟨fun _ => hd.sequence_le, fun _ => rfl⟩
  · have hsequence := hg.sequence_eq
    constructor
    · intro heq
      cases direction with
      | platformToWorker =>
        have hplatform := congrArg (fun record => record.platform.sequence) heq
        simp only [setAttempt, entered, record, attemptSender] at hplatform ⊢
        omega
      | workerToPlatform =>
        have hworker := congrArg (fun record => record.worker.sequence) heq
        simp only [setAttempt, entered, record, attemptSender] at hworker ⊢
        omega
    · intro hle
      omega

/-- Before the worker is authenticated, an accepted attempt message leaves the attempt of a first connection as it
was, and that of any connection exactly when the message is a repeat. -/
theorem unauthenticated_attempt_unchanged_iff {frame : FrameV1} {message : AttemptMessage}
    {acceptance : AcceptanceContextV1} (hr : machine.Reachable) (hu : machine.Unauthenticated)
    (hp : frame.payload = .attempt message) (h : machine.accept direction frame acceptance = .ok () machine') :
    (machine.reconnecting = false → machine'.attempt = machine.attempt) ∧
      (machine'.attempt = machine.attempt ↔ machine.Repeats direction frame message) := by
  rcases accept_ok.1 h with ⟨-, -, hsequence, -, -, rfl⟩ | ⟨hf, applied, ha, rfl⟩
  · exact ⟨fun _ => rfl, fun _ => .inl hsequence, fun _ => rfl⟩
  · have hattempt : (applied.setSender direction (envelope frame)).attempt = applied.attempt := by
      cases direction with
      | platformToWorker | workerToPlatform => rfl
    have hnext := hf.sequence_eq
    simp only [ConformanceMachine.apply, hp] at ha
    rw [hattempt]
    refine ⟨fun hfirst => absurd ha (hr.pristine.refuses hu hfirst), ?_⟩
    rw [acceptAttempt_unchanged_iff ha]
    constructor
    · exact .inr
    · rintro (heq | hle)
      · omega
      · exact hle

end ConformanceMachine

end

section

open Reference

/-- A frame of the reference worker's connection, as an operation. -/
def delivered (generation : Nat) (direction : Direction) (sequence ack : Nat) (payload : Payload) : Operation :=
  .accept direction ((config generation).frame direction sequence ack payload) ((config generation).acceptance 10)

/-- The `Attach` of the reference worker, signed. -/
def signedAttach : AttachV1 :=
  let unsigned : AttachV1 := { toNegotiationV1 := negotiation, signature := [] }
  { unsigned with
    signature := sign (auth 1).identityPublicKey
      ((attachTranscriptV1 (auth 1) ((config 1).frame .workerToPlatform 2 1 (.attach unsigned)) unsigned).getD []) }

/-- The manifest of the reference worker's first connection, signed. -/
def firstManifest : ManifestV1 :=
  let unsigned : ManifestV1 := { manifest := manifest, digest := capabilityDigest, signature := [] }
  { unsigned with
    signature := sign (auth 1).identityPublicKey
      ((manifestTranscriptV1 (auth 1) ((config 1).frame .workerToPlatform 3 2 (.manifest unsigned)) unsigned).getD []) }

/-- The reference worker attaches, is offered a lease and begins to reconnect. -/
def offeredThenCut : List Operation :=
  [delivered 1 .workerToPlatform 1 0 (.hello negotiation.hello),
    delivered 1 .platformToWorker 1 1 (.challenge negotiation.challenge),
    delivered 1 .workerToPlatform 2 1 (.attach signedAttach),
    delivered 1 .platformToWorker 2 2 (.attachAccepted negotiation),
    delivered 1 .workerToPlatform 3 2 (.manifest firstManifest),
    delivered 1 .platformToWorker 3 3 (.attempt leaseOffer),
    .beginReconnect (auth 2)]

def earlyClaim : FrameV1 := (config 2).frame .workerToPlatform 1 0 (.attempt leaseClaim)

theorem earlyClaim_accepted : ∃ machine claimed again : ConformanceMachine, machine.Reachable ∧
    machine.connection = .unattached ∧ machine.attempt.state = .offered ∧
    machine.accept .workerToPlatform earlyClaim ((config 2).acceptance 10) = .ok () claimed ∧
    claimed.Reachable ∧ claimed.connection = .unattached ∧ claimed.attempt.state = .claimPending ∧
    earlyClaim.sequence = claimed.worker.sequence ∧
    claimed.accept .workerToPlatform earlyClaim ((config 2).acceptance 10) = .ok () again := by
  have hrun : okAnd (ConformanceMachine.performAll { config := config 1 } offeredThenCut) (fun machine =>
      decide (machine.connection = .unattached ∧ machine.attempt.state = .offered) &&
      ranAnd (machine.accept .workerToPlatform earlyClaim ((config 2).acceptance 10)) fun claimed =>
        decide (claimed.connection = .unattached ∧ claimed.attempt.state = .claimPending ∧
          earlyClaim.sequence = claimed.worker.sequence) &&
        ranAnd (claimed.accept .workerToPlatform earlyClaim ((config 2).acceptance 10)) fun _ => true) = true := by
    decide +kernel
  have hnew : newConformanceMachine (config 1) = .ok { config := config 1 } := by
    rw [newConformanceMachine, if_pos (config_valid (by decide))]
  obtain ⟨machine, hm, hrun⟩ := exists_of_okAnd hrun
  rw [Bool.and_eq_true] at hrun
  obtain ⟨hoffered, hrun⟩ := hrun
  obtain ⟨hc, hs⟩ := of_decide_eq_true hoffered
  obtain ⟨⟨⟩, claimed, ha, hrun⟩ := exists_of_ranAnd hrun
  rw [Bool.and_eq_true] at hrun
  obtain ⟨hclaimed, hrun⟩ := hrun
  obtain ⟨hc', hs', hsequence⟩ := of_decide_eq_true hclaimed
  obtain ⟨⟨⟩, again, ha', -⟩ := exists_of_ranAnd hrun
  have hr := (ConformanceMachine.Reachable.new hnew).performAll hm
  have hr' : claimed.Reachable :=
    hr.step (show machine.perform (.accept .workerToPlatform earlyClaim ((config 2).acceptance 10)) = .ok () claimed from ha)
  exact ⟨machine, claimed, again, hr, hc, hs, ha, hr', hc', hs', hsequence, ha'⟩

/-- The claim, delivered once more on the unauthenticated connection, changes nothing. -/
theorem unauthenticated_attempt_unchanged_iff_claim : ∃ claimed again : ConformanceMachine, claimed.Reachable ∧
    claimed.Unauthenticated ∧ claimed.accept .workerToPlatform earlyClaim ((config 2).acceptance 10) = .ok () again ∧
    again.attempt = claimed.attempt := by
  obtain ⟨-, claimed, again, -, -, -, -, hr, hc, -, hsequence, ha⟩ := earlyClaim_accepted
  exact ⟨claimed, again, hr, .inl hc, ha,
    (ConformanceMachine.unauthenticated_attempt_unchanged_iff hr (.inl hc) rfl ha).2.2 (.inl hsequence)⟩

/-- The reference worker, offered a lease, reconnects: a claim of the lease takes effect before any
message of the new connection's handshake. -/
theorem unattached_claim_accepted : ∃ machine claimed : ConformanceMachine, machine.Reachable ∧
    machine.Unauthenticated ∧ machine.attempt.state = .offered ∧
    machine.accept .workerToPlatform earlyClaim ((config 2).acceptance 10) = .ok () claimed ∧
    claimed.attempt.state = .claimPending ∧ claimed.attempt ≠ machine.attempt := by
  obtain ⟨machine, claimed, -, hr, hc, hs, ha, -, -, hs', -, -⟩ := earlyClaim_accepted
  refine ⟨machine, claimed, hr, .inl hc, hs, ha, hs', fun heq => ?_⟩
  rw [heq, hs] at hs'
  cases hs'

end

end Sessionless.Protocol
