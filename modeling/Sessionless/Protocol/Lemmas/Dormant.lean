import Sessionless.Lib.Simulation
import Sessionless.Protocol.Lemmas.Tidy

/-!
# Dormant reconnect fields

The reconnect fields of a machine matter only while a reconnect, or the drain that follows
one, is under way, and no longer once the connection is being revoked. Two machines that
differ in dormant fields answer every operation alike and stay so.
-/

namespace Sessionless.Protocol

variable [Crypto]

namespace ConformanceMachine

variable {machine other : ConformanceMachine} {direction : Direction}

def patched (machine : ConformanceMachine) (reconnecting reenvelope : Bool) (target : ConnectionState)
    (generation : Nat) (watermarks : ConnectionWatermarksV1) (attempt : AttemptSummaryV1) (claim : ReconnectSnapshotV1) :
    ConformanceMachine :=
  { machine with
    reconnecting := reconnecting
    drainReenvelopePending := reenvelope
    reconnectTarget := target
    previousConnectionGeneration := generation
    reconnectWatermarks := watermarks
    reconnectAttempt := attempt
    reconnectClaim := claim }

def Alike (machine other : ConformanceMachine) : Prop :=
  ∃ reconnecting reenvelope target generation watermarks attempt claim,
    other = machine.patched reconnecting reenvelope target generation watermarks attempt claim ∧
    (¬ machine.Revoking → reconnecting = machine.reconnecting ∧ reenvelope = machine.drainReenvelopePending) ∧
    (¬ machine.Revoking → machine.reconnecting = true ∨ machine.drainReenvelopePending = true →
      target = machine.reconnectTarget ∧ generation = machine.previousConnectionGeneration ∧
        watermarks = machine.reconnectWatermarks ∧ attempt = machine.reconnectAttempt) ∧
    (machine.connection = .reconnectPending → claim = machine.reconnectClaim)

theorem Alike.refl (machine : ConformanceMachine) : machine.Alike machine :=
  ⟨_, _, _, _, _, _, _, rfl, fun _ => ⟨rfl, rfl⟩, fun _ _ => ⟨rfl, rfl, rfl, rfl⟩, fun _ => rfl⟩

inductive AlikeVerdict : Verdict → Verdict → Prop
  | ok {machine other : ConformanceMachine} (h : machine.Alike other) : AlikeVerdict (.ok () machine) (.ok () other)
  | error {machine other : ConformanceMachine} (code : ErrorCode) (h : machine.Alike other) :
      AlikeVerdict (.error code machine) (.error code other)

theorem AlikeVerdict.ite {p q : Prop} [Decidable p] [Decidable q] {v v' w w'} (h : p ↔ q)
    (hv : p → AlikeVerdict v v') (hw : ¬ p → AlikeVerdict w w') :
    AlikeVerdict (if p then v else w) (if q then v' else w') := by
  by_cases hp : p
  · rw [if_pos hp, if_pos (h.1 hp)]; exact hv hp
  · rw [if_neg hp, if_neg fun hq => hp (h.2 hq)]; exact hw hp

variable (h : machine.Alike other)

include h

theorem AlikeVerdict.unless {p : Prop} [Decidable p] {v w code}
    (hw : ¬ p → AlikeVerdict v w) :
    AlikeVerdict (if p then .error code machine else v) (if p then .error code other else w) :=
  .ite Iff.rfl (fun _ => .error _ h) hw

theorem AlikeVerdict.refused {p q : Prop} [Decidable p] [Decidable q] {v w code} (hp : p)
    (hq : q) : AlikeVerdict (if p then .error code machine else v) (if q then .error code other else w) :=
  .ite ⟨fun _ => hq, fun _ => hp⟩ (fun _ => .error _ h) fun hn => absurd hp hn

/-! ## Frames that read no reconnect field -/

theorem acceptHello_alike (hello : HelloV1) :
    AlikeVerdict (machine.acceptHello direction hello) (other.acceptHello direction hello) := by
  have hall := h
  obtain ⟨r, d, t, g, w, a, c, rfl, hf, hr, hc⟩ := h
  refine .unless hall fun hg => .ok ?_
  have hnr := not_revoking (not_not.1 fun hne => hg (.inr (.inl hne)))
  exact ⟨r, d, t, g, w, a, c, rfl, fun _ => hf hnr, fun _ => hr hnr, by simp⟩

theorem acceptChallenge_alike (challenge : ChallengeV1) :
    AlikeVerdict (machine.acceptChallenge direction challenge) (other.acceptChallenge direction challenge) := by
  have hall := h
  obtain ⟨r, d, t, g, w, a, c, rfl, hf, hr, hc⟩ := h
  refine .unless hall fun hg => .unless hall fun _ => .ok ?_
  have hnr := not_revoking (not_not.1 fun hne => hg (.inr (.inl hne)))
  exact ⟨r, d, t, g, w, a, c, rfl, fun _ => hf hnr, fun _ => hr hnr, by simp⟩

theorem acceptAttachAccepted_alike (accepted : AttachAcceptedV1) :
    AlikeVerdict (machine.acceptAttachAccepted direction accepted) (other.acceptAttachAccepted direction accepted) := by
  have hall := h
  obtain ⟨r, d, t, g, w, a, c, rfl, hf, hr, hc⟩ := h
  refine .unless hall fun hg => .ok ?_
  have hnr := not_revoking (not_not.1 fun hne => hg (.inr (.inl hne)))
  exact ⟨r, d, t, g, w, a, c, rfl, fun _ => hf hnr, fun _ => hr hnr, by simp⟩

theorem acceptHeartbeat_alike (heartbeat : HeartbeatV1) :
    AlikeVerdict (machine.acceptHeartbeat direction heartbeat) (other.acceptHeartbeat direction heartbeat) := by
  have hall := h
  obtain ⟨r, d, t, g, w, a, c, rfl, -⟩ := h
  exact .unless hall fun _ => .unless hall fun _ => .ok hall

theorem acceptDrained_alike (drained : DrainedV1) :
    AlikeVerdict (machine.acceptDrained direction drained) (other.acceptDrained direction drained) := by
  have hall := h
  obtain ⟨r, d, t, g, w, a, c, rfl, hf, hr, hc⟩ := h
  refine .unless hall fun hg => .ok ?_
  have hnr := not_revoking (not_not.1 fun hne => hg (.inr (.inl hne)))
  exact ⟨r, d, t, g, w, a, c, rfl, fun _ => hf hnr, fun _ => hr hnr, by simp⟩

theorem acceptRevoke_alike (revoke : RevokeV1) :
    AlikeVerdict (machine.acceptRevoke direction revoke) (other.acceptRevoke direction revoke) := by
  have hall := h
  obtain ⟨r, d, t, g, w, a, c, rfl, -⟩ := h
  refine .unless hall fun hg => .ok ?_
  exact ⟨r, d, t, g, w, a, c, rfl, fun hn => absurd (.inl rfl) hn, fun hn => absurd (.inl rfl) hn, by simp⟩

theorem acceptRevoked_alike (revoked : RevokedV1) :
    AlikeVerdict (machine.acceptRevoked direction revoked) (other.acceptRevoked direction revoked) := by
  have hall := h
  obtain ⟨r, d, t, g, w, a, c, rfl, -⟩ := h
  refine .unless hall fun hg => .ok ?_
  exact ⟨r, d, t, g, w, a, c, rfl, fun hn => absurd (.inr rfl) hn, fun hn => absurd (.inr rfl) hn, by simp⟩

theorem Alike.setAttempt (attempt : AttemptRecord) :
    (machine.setAttempt attempt).Alike (other.setAttempt attempt) := by
  obtain ⟨r, d, t, g, w, a, c, rfl, hf, hr, hc⟩ := h
  exact ⟨r, d, t, g, w, a, c, rfl, hf, hr, hc⟩

theorem Alike.setSender (state : SequenceState) :
    (machine.setSender direction state).Alike (other.setSender direction state) := by
  obtain ⟨r, d, t, g, w, a, c, rfl, hf, hr, hc⟩ := h
  cases direction with
  | platformToWorker | workerToPlatform => exact ⟨r, d, t, g, w, a, c, rfl, hf, hr, hc⟩

theorem applyAttemptTransition_alike (direction : Direction) (message : AttemptMessage) :
    AlikeVerdict (machine.applyAttemptTransition direction message)
      (other.applyAttemptTransition direction message) := by
  have hall := h
  have hset := fun attempt => hall.setAttempt attempt
  obtain ⟨r, d, t, g, w, a, c, rfl, -⟩ := h
  cases message with
  | leaseOffer message | leaseClaim message | leaseAccepted message | progress message | cancel message
  | cancelAck message => exact .unless hall fun _ => .ok (hset _)
  | terminal message =>
    refine .unless hall fun _ => .ite Iff.rfl (fun _ => ?_) fun _ => .ok (hset _)
    exact .unless hall fun _ => .ok hall
  | terminalAck message => exact .unless hall fun _ => .ok (hset _)

theorem recordAttempt_alike (message : AttemptMessage) :
    (machine.recordAttempt direction message).Alike (other.recordAttempt direction message) := by
  have hset := fun attempt => h.setAttempt attempt
  obtain ⟨r, d, t, g, w, a, c, rfl, -⟩ := h
  cases direction with
  | platformToWorker | workerToPlatform => exact hset _

theorem acceptAttempt_alike (message : AttemptMessage) (now : Int) :
    AlikeVerdict (machine.acceptAttempt direction message now) (other.acceptAttempt direction message now) := by
  have hmoved := applyAttemptTransition_alike h direction message
  have hall := h
  obtain ⟨r, d, t, g, w, a, c, rfl, -⟩ := h
  have hrefusal : (machine.patched r d t g w a c).pendingRefusal direction message =
      machine.pendingRefusal direction message := rfl
  simp only [acceptAttempt, hrefusal]
  cases machine.pendingRefusal direction message with
  | some code => exact .error code hall
  | none =>
    refine .ite Iff.rfl (fun _ => .ite Iff.rfl (fun _ => .ok hall) fun _ => .error _ hall) fun _ => ?_
    refine .unless hall fun _ => .unless hall fun _ => ?_
    refine .unless hall fun _ => .unless hall fun _ => ?_
    generalize machine.applyAttemptTransition direction message = v at hmoved
    generalize (machine.patched r d t g w a c).applyAttemptTransition direction message = v' at hmoved
    cases hmoved with
    | ok hn => exact .ok (recordAttempt_alike hn message)
    | error code hn => exact .error code hn

/-! ## Frames that read reconnect fields -/

omit h in
theorem AlikeVerdict.refl (verdict : Verdict) : AlikeVerdict verdict verdict := by
  cases verdict with
  | ok _ machine => exact .ok (Alike.refl machine)
  | error code machine => exact .error code (Alike.refl machine)

theorem Alike.eq_of_pended (ht : machine.Tidy) (hc : machine.connection = .reconnectPending) :
    other = machine := by
  obtain ⟨r, d, t, g, w, a, c, rfl, hf, hr, hclaim⟩ := h
  have hnr := not_revoking hc
  obtain ⟨rfl, rfl⟩ := hf hnr
  obtain ⟨rfl, rfl, rfl, rfl⟩ := hr hnr (.inl (ht.pended hc))
  rw [hclaim hc]
  rfl

theorem acceptAttach_alike (frame : FrameV1) (attach : AttachV1) :
    AlikeVerdict (machine.acceptAttach direction frame attach) (other.acceptAttach direction frame attach) := by
  have hall := h
  obtain ⟨r, d, t, g, w, a, c, rfl, hf, hr, hc⟩ := h
  by_cases hconn : machine.connection = .challenged
  · have hnr := not_revoking hconn
    obtain ⟨rfl, rfl⟩ := hf hnr
    refine .unless hall fun hg => .ok ?_
    exact ⟨_, _, t, g, w, a, c, rfl, fun _ => hf hnr, fun _ => hr hnr, by simp⟩
  · exact .refused hall (.inr (.inl hconn)) (.inr (.inl hconn))

theorem acceptReconnect_alike (frame : FrameV1) (reconnect : ReconnectV1) :
    AlikeVerdict (machine.acceptReconnect direction frame reconnect)
      (other.acceptReconnect direction frame reconnect) := by
  have hall := h
  obtain ⟨r, d, t, g, w, a, c, rfl, hf, hr, hc⟩ := h
  by_cases hconn : machine.connection = .challenged
  · have hnr := not_revoking hconn
    obtain ⟨rfl, rfl⟩ := hf hnr
    by_cases hrec : machine.reconnecting = true
    · obtain ⟨rfl, rfl, rfl, rfl⟩ := hr hnr (.inl hrec)
      exact .unless hall fun _ => .ok (Alike.refl _)
    · rw [Bool.not_eq_true] at hrec
      exact .refused hall (.inr (.inr (.inl hrec))) (.inr (.inr (.inl hrec)))
  · exact .refused hall (.inr (.inl hconn)) (.inr (.inl hconn))

theorem acceptReconnectAccepted_alike (ht : machine.Tidy) (accepted : ReconnectAcceptedV1) :
    AlikeVerdict (machine.acceptReconnectAccepted direction accepted)
      (other.acceptReconnectAccepted direction accepted) := by
  by_cases hconn : machine.connection = .reconnectPending
  · rw [h.eq_of_pended ht hconn]
    exact .refl _
  · have hall := h
    obtain ⟨r, d, t, g, w, a, c, rfl, hf, hr, hc⟩ := h
    exact .refused hall (.inr (.inl hconn)) (.inr (.inl hconn))

theorem acceptManifest_alike (ht : machine.Tidy) (frame : FrameV1) (manifest : ManifestV1) :
    AlikeVerdict (machine.acceptManifest direction frame manifest) (other.acceptManifest direction frame manifest) := by
  have hall := h
  obtain ⟨r, d, t, g, w, a, c, rfl, hf, hr, hc⟩ := h
  refine .unless hall fun hg => ?_
  have hnr := not_revoking (not_not.1 fun hne => hg (.inr (.inl hne)))
  obtain ⟨rfl, rfl⟩ := hf hnr
  refine .ite Iff.rfl (fun hrec => .ok ?_) fun _ => .ok ?_
  · obtain ⟨rfl, rfl, rfl, rfl⟩ := hr hnr (.inl hrec)
    refine ⟨_, _, _, _, _, _, c, rfl, fun _ => ⟨rfl, rfl⟩, fun _ _ => ⟨rfl, rfl, rfl, rfl⟩, fun hp => ?_⟩
    rcases (ht.reconnecting hrec).2.2.2 with htarget | htarget <;> simp [htarget] at hp
  · exact ⟨_, _, t, g, w, a, c, rfl, fun _ => ⟨rfl, rfl⟩, fun _ => hr hnr, by simp⟩

theorem acceptDrain_alike (drain : DrainV1) :
    AlikeVerdict (machine.acceptDrain direction drain) (other.acceptDrain direction drain) := by
  have hall := h
  obtain ⟨r, d, t, g, w, a, c, rfl, hf, hr, hc⟩ := h
  refine .unless hall fun _ => ?_
  have hother : (machine.patched r d t g w a c).connection = machine.connection := rfl
  cases hconn : machine.connection with
  | ready =>
    simp only [hother, hconn]
    have hnr := not_revoking hconn
    obtain ⟨rfl, rfl⟩ := hf hnr
    exact .unless hall fun _ =>
      .ok ⟨_, _, t, g, w, a, c, rfl, fun _ => ⟨rfl, rfl⟩, fun _ => hr hnr, by simp⟩
  | draining =>
    simp only [hother, hconn]
    have hnr := not_revoking hconn
    obtain ⟨rfl, rfl⟩ := hf hnr
    by_cases hd : machine.drainReenvelopePending = true
    · obtain ⟨rfl, rfl, rfl, rfl⟩ := hr hnr (.inr hd)
      exact .unless hall fun _ =>
        .ok ⟨_, _, _, _, _, _, c, rfl, fun _ => ⟨rfl, rfl⟩, fun _ _ => ⟨rfl, rfl, rfl, rfl⟩, by simp⟩
    · rw [Bool.not_eq_true] at hd
      exact .refused hall (.inl hd) (.inl hd)
  | _ => simp only [hother, hconn]; exact .error _ hall

/-! ## Operations -/

theorem apply_alike (direction : Direction) (ht : machine.Tidy) (frame : FrameV1) (now : Int) :
    AlikeVerdict (machine.apply direction frame now) (other.apply direction frame now) := by
  unfold apply
  cases frame.payload with
  | hello message => exact acceptHello_alike h message
  | challenge message => exact acceptChallenge_alike h message
  | attach message => exact acceptAttach_alike h frame message
  | attachAccepted message => exact acceptAttachAccepted_alike h message
  | reconnect message => exact acceptReconnect_alike h frame message
  | reconnectAccepted message => exact acceptReconnectAccepted_alike h ht message
  | manifest message => exact acceptManifest_alike h ht frame message
  | heartbeat message => exact acceptHeartbeat_alike h message
  | attempt message => exact acceptAttempt_alike h message now
  | drain message => exact acceptDrain_alike h message
  | drained message => exact acceptDrained_alike h message
  | revoke message => exact acceptRevoke_alike h message
  | revoked message => exact acceptRevoked_alike h message
  | error message => exact .ok h

theorem accept_alike (ht : machine.Tidy) (frame : FrameV1)
    (acceptance : AcceptanceContextV1) :
    AlikeVerdict (machine.accept direction frame acceptance) (other.accept direction frame acceptance) := by
  have happlied := apply_alike h direction ht frame acceptance.nowUnixMicro
  have hall := h
  obtain ⟨r, d, t, g, w, a, c, rfl, -⟩ := h
  have hsender : (machine.patched r d t g w a c).sender direction = machine.sender direction := by cases direction <;> rfl
  have hpeer : (machine.patched r d t g w a c).peer direction = machine.peer direction := by cases direction <;> rfl
  simp only [accept, hsender, hpeer]
  refine .unless hall fun _ => .unless hall fun _ => ?_
  refine .ite Iff.rfl (fun _ => .ite Iff.rfl (fun _ => .ok hall) fun _ => .error _ hall) fun _ => ?_
  refine .unless hall fun _ => ?_
  generalize machine.apply direction frame acceptance.nowUnixMicro = v at happlied
  generalize (machine.patched r d t g w a c).apply direction frame acceptance.nowUnixMicro = v' at happlied
  cases happlied with
  | ok hn => exact .ok (hn.setSender _)
  | error code hn => exact .error code hn

theorem beginReconnect_alike (next : AuthContextV1) :
    AlikeVerdict (machine.beginReconnect next) (other.beginReconnect next) := by
  have hall := h
  obtain ⟨r, d, t, g, w, a, c, rfl, hf, hr, hc⟩ := h
  by_cases hconn : machine.connection ≠ .ready ∧ machine.connection ≠ .draining
  · exact .refused hall (.inr (.inl hconn)) (.inr (.inl hconn))
  · have hnr : ¬ machine.Revoking := by
      rintro (hc' | hc') <;> simp [hc'] at hconn
    obtain ⟨rfl, rfl⟩ := hf hnr
    exact .unless hall fun _ =>
      .ok ⟨_, _, _, _, _, _, c, rfl, fun _ => ⟨rfl, rfl⟩, fun _ _ => ⟨rfl, rfl, rfl, rfl⟩, by simp⟩

theorem eraseCommittedAttempt_alike :
    AlikeVerdict machine.eraseCommittedAttempt other.eraseCommittedAttempt := by
  have hall := h
  have hset := h.setAttempt {}
  obtain ⟨r, d, t, g, w, a, c, rfl, -⟩ := h
  exact .unless hall fun _ => .ok hset

theorem perform_alike (ht : machine.Tidy) (operation : Operation) :
    AlikeVerdict (machine.perform operation) (other.perform operation) := by
  cases operation with
  | accept direction frame acceptance => exact accept_alike h ht frame acceptance
  | beginReconnect next => exact beginReconnect_alike h next
  | eraseCommittedAttempt => exact eraseCommittedAttempt_alike h

end ConformanceMachine

end Sessionless.Protocol
