import Sessionless.Protocol.Lemmas.Reducers
import Sessionless.Protocol.Lemmas.Tidy
import Sessionless.Protocol.Platform

/-!
# What a reducer call does to the attempt

Every call either accepts a frame, repeats a persisted one, answers a reconnect or retires
the attempt. `Advance` states the effect on the stored attempt record; everything about
runs of the platform is derived from it.
-/

namespace Sessionless.Protocol

def AttemptRecord.core (attempt : AttemptRecord) : AttemptRecord :=
  { attempt with platform := {}, worker := {}, pendingWorkerTerminal := none }

variable [Crypto]

namespace PlatformState

variable {state next : PlatformState}

def record (state : PlatformState) : AttemptRecord := restoreAttempt state.snapshot.attempt

def Revoking (state : PlatformState) : Prop :=
  state.snapshot.connection = .revoking ∨ state.snapshot.connection = .revoked

/-! ## The four kinds of call -/

inductive Step (state : PlatformState) : Option AppliedFrame → PlatformState → Prop
  | accepted {applied : AppliedFrame} {machine machine' : ConformanceMachine} {post : MachineSnapshotV1}
      (restored : restoreConformanceMachine state.config state.snapshot = .ok machine)
      (allowed : applied.frame.payload.kind ≠ .reconnectAccepted)
      (accept : machine.accept applied.direction applied.frame (state.config.acceptance applied.nowUnixMicro) =
        .ok () machine')
      (persisted : machine'.snapshot = .ok post) : Step state (some applied) { state with snapshot := post }
  | repeated {applied : AppliedFrame} (direction : applied.direction = .platformToWorker)
      (sequence : applied.frame.sequence = state.snapshot.platform.sequence) : Step state (some applied) state
  | reconnected {nextAuth : AuthContextV1} {signed accepted : FrameV1} {post : MachineSnapshotV1}
      {reconnect : ReconnectV1} {payload : ReconnectAcceptedV1} {machine final : ConformanceMachine}
      (build : ReconnectBuild state.config state.snapshot nextAuth signed accepted post reconnect payload machine final) :
      Step state none { config := nextConfig state.config nextAuth, snapshot := post }
  | retired {machine : ConformanceMachine} {post : MachineSnapshotV1}
      (restored : restoreConformanceMachine state.config state.snapshot = .ok machine)
      (finished : machine.attempt.state = .terminalCommitted ∨ machine.attempt.state = .cancelAcked)
      (persisted : (machine.setAttempt {}).snapshot = .ok post) : Step state none { state with snapshot := post }

theorem restored_platform {machine} (h : restoreConformanceMachine state.config state.snapshot = .ok machine) :
    machine.platform.sequence = state.snapshot.platform.sequence := by
  obtain ⟨-, rfl⟩ := restoreConformanceMachine_ok.1 h
  obtain ⟨_, _, _, _, _, _, _, heq⟩ := restoreFields_eq state.config state.snapshot
  rw [heq]
  rfl

theorem step_of_commitFrame {machine payload frame post now} (hg : PlatformGuard state.config state.snapshot machine now)
    (hp : payload.kind ≠ .reconnectAccepted)
    (h : commitFrame state.config machine (nextPlatformFrame state.config machine payload) now = .ok (frame, post)) :
    state.Step (some ⟨.platformToWorker, frame, now⟩) { state with snapshot := post } := by
  obtain ⟨-, rfl, machine', ha, hs⟩ := commitFrame_ok.1 h
  exact .accepted hg.restored hp ha hs

theorem step_of_replayPersisted {machine message frame post now} (hg : PlatformGuard state.config state.snapshot machine now)
    (h : replayPersisted state.config machine state.snapshot message = .ok (frame, post)) :
    state.Step (some ⟨.platformToWorker, frame, now⟩) { state with snapshot := post } := by
  obtain ⟨-, rfl, rfl⟩ := replayPersisted_ok.1 h
  exact .repeated rfl (restored_platform hg.restored)

theorem committed_ok {now result applied} (h : state.committed now result = .ok (applied, next)) :
    ∃ frame post, result = .ok (frame, post) ∧ applied = some ⟨.platformToWorker, frame, now⟩ ∧
      next = { state with snapshot := post } := by
  cases result with
  | error code => simp [committed] at h
  | ok value =>
    obtain ⟨frame, post⟩ := value
    simp only [committed, Except.ok.injEq, Prod.mk.injEq] at h
    exact ⟨frame, post, rfl, h.1.symm, h.2.symm⟩

theorem step_of_reduce {operation applied} (hallowed : operation.Allowed)
    (h : state.reduce operation = .ok (applied, next)) : state.Step applied next := by
  cases operation with
  | applyFrame direction frame now =>
    simp only [reduce] at h
    split at h
    · cases h
    · rename_i post ha
      cases h
      obtain ⟨machine, machine', hr, hacc, hs⟩ := applyMachineFrameV1_ok.1 ha
      exact @Step.accepted _ _ ⟨direction, frame, now⟩ _ _ _ hr hallowed hacc hs
  | reconnect nextAuth signedReconnect =>
    simp only [reduce] at h
    split at h
    · cases h
    · rename_i accepted post hb
      cases h
      obtain ⟨reconnect, payload, machine, final, hbuild⟩ := buildReconnectAcceptedSnapshotV1_ok hb
      exact .reconnected hbuild
  | leaseOffer authority =>
    obtain ⟨frame, post, hb, rfl, rfl⟩ := committed_ok h
    obtain ⟨machine, hg, -, -, -, hcommit⟩ := buildLeaseOfferTransitionV1_ok hb
    exact step_of_commitFrame hg (by simp [Payload.kind, AttemptMessage.kind]) hcommit
  | cancel authority =>
    obtain ⟨frame, post, hb, rfl, rfl⟩ := committed_ok h
    obtain ⟨machine, hg, -, -, ⟨-, -, hreplay⟩ | ⟨-, hcommit⟩⟩ := buildCancelTransitionV1_ok hb
    · exact step_of_replayPersisted hg hreplay
    · exact step_of_commitFrame hg (by simp [Payload.kind, cancelMessage, AttemptMessage.kind]) hcommit
  | leaseAccepted now =>
    obtain ⟨frame, post, hb, rfl, rfl⟩ := committed_ok h
    obtain ⟨machine, hg, ⟨-, hreplay⟩ | ⟨-, hcommit⟩⟩ := buildLeaseAcceptedTransitionV1_ok hb
    · exact step_of_replayPersisted hg hreplay
    · exact step_of_commitFrame hg (by simp [Payload.kind, leaseAcceptedMessage, AttemptMessage.kind]) hcommit
  | terminalAck now =>
    obtain ⟨frame, post, hb, rfl, rfl⟩ := committed_ok h
    obtain ⟨machine, hg, ⟨-, hreplay⟩ | ⟨-, hcommit⟩⟩ := buildTerminalAckTransitionV1_ok hb
    · exact step_of_replayPersisted hg hreplay
    · exact step_of_commitFrame hg (by simp [Payload.kind, terminalAckMessage, AttemptMessage.kind]) hcommit
  | drain authority =>
    obtain ⟨frame, post, hb, rfl, rfl⟩ := committed_ok h
    obtain ⟨machine, hg, -, ⟨-, -, -, rfl, rfl⟩ | hcommit⟩ := buildDrainTransitionV1_ok hb
    · exact .repeated rfl (restored_platform hg.restored)
    · exact step_of_commitFrame hg (by simp [Payload.kind]) hcommit
  | retireCommitted =>
    simp only [reduce, PlatformState.retired] at h
    split at h
    · cases h
    · rename_i post hb
      cases h
      obtain ⟨machine, hr, hs, -, hp⟩ := retireCommittedAttemptV1_ok hb
      exact .retired hr (.inl hs) hp
  | retirePreClaimCancelled =>
    simp only [reduce, PlatformState.retired] at h
    split at h
    · cases h
    · rename_i post hb
      cases h
      obtain ⟨machine, hr, hs, hp⟩ := retirePreClaimCancelledAttemptV1_ok hb
      exact .retired hr (.inr hs) hp

end PlatformState

/-! ## The effect of an accepted frame -/

namespace ConformanceMachine

variable {machine machine' : ConformanceMachine} {direction : Direction}

theorem apply_effect {frame now} (ha : machine.apply direction frame now = .ok () machine')
    (hk : frame.payload.kind ≠ .reconnectAccepted) :
    (∃ message, frame.payload = .attempt message ∧ machine.AttemptGuard direction message now ∧
      ∃ attempt, machine.Moves direction message attempt ∧
        machine' = machine.setAttempt (entered attempt direction message)) ∨
    (∃ revoke, frame.payload = .revoke revoke ∧ machine' =
      { machine with revoke := revoke, attempt := fenceAttempt machine.attempt, connection := .revoking }) ∨
    (machine'.attempt = machine.attempt ∧ (machine.Revoking → machine'.Revoking) ∧
      (∀ revoke, frame.payload ≠ .revoke revoke) ∧
      ∀ message, frame.payload = .attempt message → message.sequence ≤ (machine.attemptSender direction).sequence) := by
  have other : (∀ message, frame.payload ≠ .attempt message) → ∀ message, frame.payload = .attempt message →
      message.sequence ≤ (machine.attemptSender direction).sequence := fun h message hm => absurd hm (h message)
  cases applied_of_apply ha with
  | hello hp hd hc | challenge hp hd hc | attach hp hd hc | attachAccepted hp hd hc | drain hp hd hc
  | drained hp hd hc =>
    exact .inr (.inr ⟨rfl, fun hr => by simp [Revoking, hc] at hr, by simp [hp], other (by simp [hp])⟩)
  | reconnect hp hg | resumed hp hg | admitted hp hg =>
    exact .inr (.inr ⟨rfl, fun hr => by simp [Revoking, hg.connection_eq] at hr, by simp [hp], other (by simp [hp])⟩)
  | reconnectAccepted hp =>
    rw [hp] at hk
    exact absurd rfl hk
  | heartbeat hp | error hp | drainAgain hp => exact .inr (.inr ⟨rfl, id, by simp [hp], other (by simp [hp])⟩)
  | repeated hp hdup =>
    refine .inr (.inr ⟨rfl, id, (by simp [hp]), fun other ho => ?_⟩)
    cases hp.symm.trans ho
    exact hdup.sequence_le
  | moved hp hg hm => exact .inl ⟨_, hp, hg, _, hm, rfl⟩
  | revoke hp => exact .inr (.inl ⟨_, hp, rfl⟩)
  | revoked hp => exact .inr (.inr ⟨rfl, fun _ => .inr rfl, by simp [hp], other (by simp [hp])⟩)

end ConformanceMachine

/-! ## The effect of a call -/

/-- What a restored machine shows of the state it was restored from. -/
structure PlatformState.Shows (state : PlatformState) (machine : ConformanceMachine) : Prop where
  tidy : machine.Tidy
  attempt : machine.attempt = state.record
  connection : machine.connection = state.snapshot.connection
  platform : machine.platform.sequence = state.snapshot.platform.sequence
  worker : machine.worker.sequence = state.snapshot.worker.sequence

theorem PlatformState.shows_of_restore {state : PlatformState} {machine}
    (h : restoreConformanceMachine state.config state.snapshot = .ok machine) : state.Shows machine := by
  have ht := ConformanceMachine.tidy_restoreConformanceMachine h
  obtain ⟨-, rfl⟩ := restoreConformanceMachine_ok.1 h
  obtain ⟨_, _, _, _, _, _, _, heq⟩ := restoreFields_eq state.config state.snapshot
  refine ⟨ht, ?_, ?_, ?_, ?_⟩
  · rw [heq]; rfl
  · rw [heq]
  · rw [heq]; rfl
  · rw [heq]; rfl

theorem PlatformState.record_of_snapshot (config : MachineConfig) {machine : ConformanceMachine}
    {post : MachineSnapshotV1} (ht : machine.attempt.Tidy) (h : machine.snapshot = .ok post) :
    (⟨config, post⟩ : PlatformState).record = machine.attempt ∧ post.connection = machine.connection := by
  obtain ⟨digest, -, -, rfl⟩ := ConformanceMachine.snapshot_ok.1 h
  exact ⟨ConformanceMachine.restoreAttempt_snapshot ht digest, rfl⟩

inductive Entry.Advance (entry : Entry) : Prop
  | kept (taken : entry.message = none) (revokes : ¬ entry.Revokes)
      (core : entry.after.record.core = entry.before.record.core)
      (revoking : entry.before.Revoking → entry.after.Revoking)
  | moved {machine : ConformanceMachine} {direction : Direction} {message : AttemptMessage} {now : Int}
      {attempt : AttemptRecord} (shows : entry.before.Shows machine) (taken : entry.message = some (message, now))
      (revokes : ¬ entry.Revokes) (guarded : machine.AttemptGuard direction message now)
      (moves : machine.Moves direction message attempt) (core : entry.after.record.core = attempt.core)
      (connection : entry.after.snapshot.connection = entry.before.snapshot.connection)
  | fenced (taken : entry.message = none)
      (core : entry.after.record.core = (ConformanceMachine.fenceAttempt entry.before.record).core)
      (revoking : entry.after.Revoking)
  | retired (taken : entry.message = none) (revokes : ¬ entry.Revokes)
      (finished : entry.before.attempt.state = .terminalCommitted ∨ entry.before.attempt.state = .cancelAcked)
      (record : entry.after.record = {})
      (connection : entry.after.snapshot.connection = entry.before.snapshot.connection)

variable {entry : Entry}

theorem Entry.message_eq_none (h : entry.payload = none) : entry.message = none := by
  unfold Entry.message
  rw [h]
  cases entry.applied <;> rfl

theorem Entry.not_revokes (h : entry.payload = none) : ¬ entry.Revokes := by
  rintro ⟨revoke, hr⟩
  rw [h] at hr
  cases hr

theorem Entry.message_eq {applied} (happlied : entry.applied = some applied)
    (hne : applied.frame.sequence ≠ (entry.envelope applied.direction).sequence) :
    entry.payload = some applied.frame.payload ∧ entry.message = match applied.frame.payload with
      | .attempt message =>
        if message.sequence ≤ (entry.ledger applied.direction).sequence then none
        else some (message, applied.nowUnixMicro)
      | _ => none := by
  have hp : entry.payload = some applied.frame.payload := by
    simp only [Entry.payload, happlied, if_neg hne]
  refine ⟨hp, ?_⟩
  unfold Entry.message
  rw [hp, happlied]
  cases applied.frame.payload <;> rfl

theorem ReconnectBuild.core_eq {previousConfig previousSnapshot nextAuth signed accepted post reconnect payload machine final}
    (h : ReconnectBuild previousConfig previousSnapshot nextAuth signed accepted post reconnect payload machine final)
    (ht : machine.attempt.Tidy) : final.attempt.Tidy ∧ final.attempt.core = machine.attempt.core := by
  obtain ⟨applied, happ, rfl⟩ := h.answered
  obtain ⟨-, -, -, -, installed, hi, rfl⟩ := ConformanceMachine.acceptReconnectAccepted_ok happ
  obtain ⟨⟨hauthoritative, -⟩, -, hplanned⟩ := buildReconnectAcceptedV1_ok.1 h.built
  have hattempt : payload.authoritativeAttempt = machine.currentAttemptSummary := by rw [← hplanned]; rfl
  have hvalid : payload.authoritativeAttempt.ContentValid := by rw [hattempt]; exact hauthoritative.2.2.1.1
  refine ⟨ConformanceMachine.tidy_applyAttemptSummary installed hvalid, ?_⟩
  obtain ⟨sequence, heq, -⟩ := ConformanceMachine.applyDiscardTombstone_attempt
    (installed.applyAttemptSummary payload.authoritativeAttempt)
  show (installed.applyAttemptSummary payload.authoritativeAttempt).applyDiscardTombstone.attempt.core = _
  rw [heq, hattempt, ConformanceMachine.currentAttemptSummary_of_tidy ht]
  rfl

theorem PlatformState.Shows.envelope {machine} (h : entry.before.Shows machine) (direction : Direction) :
    (machine.sender direction).sequence = (entry.envelope direction).sequence := by
  cases direction with
  | platformToWorker => exact h.platform
  | workerToPlatform => exact h.worker

theorem PlatformState.Shows.ledger {machine} (h : entry.before.Shows machine) (direction : Direction) :
    (machine.attemptSender direction).sequence = (entry.ledger direction).sequence := by
  cases direction <;> simp only [ConformanceMachine.attemptSender, h.attempt] <;> rfl

theorem Entry.accepted {applied machine machine'} (happlied : entry.applied = some applied)
    (hr : restoreConformanceMachine entry.before.config entry.before.snapshot = .ok machine)
    (hk : applied.frame.payload.kind ≠ .reconnectAccepted)
    (ha : machine.accept applied.direction applied.frame (entry.before.config.acceptance applied.nowUnixMicro) =
      .ok () machine') (hs : machine'.snapshot = .ok entry.after.snapshot) : entry.Advance := by
  have hshows := PlatformState.shows_of_restore hr
  have ht := hshows.tidy.perform (show machine.perform (.accept _ _ _) = _ from ha)
  obtain ⟨hrecord, hconnection⟩ := PlatformState.record_of_snapshot entry.after.config ht.attempt hs
  have henvelope := hshows.envelope applied.direction
  have hledger := hshows.ledger applied.direction
  rcases ConformanceMachine.accept_ok.1 ha with ⟨-, -, heq, -, -, rfl⟩ | ⟨hf, done, happ, rfl⟩
  · -- the last envelope again: nothing is taken in
    have hpayload : entry.payload = none := by simp only [Entry.payload, happlied, heq, henvelope, if_true]
    refine .kept (message_eq_none hpayload) (not_revokes hpayload) ?_ fun hrev => ?_
    · rw [hrecord, hshows.attempt]
    · simp only [PlatformState.Revoking, hconnection, hshows.connection]
      exact hrev
  · have hne : applied.frame.sequence ≠ (entry.envelope applied.direction).sequence := by
      have := hf.sequence_eq
      omega
    obtain ⟨hpayload, hmessage⟩ := Entry.message_eq happlied hne
    have hsame : ∀ envelope, (done.setSender applied.direction envelope).attempt = done.attempt ∧
        (done.setSender applied.direction envelope).connection = done.connection := by
      cases applied.direction <;> exact fun _ => ⟨rfl, rfl⟩
    rw [(hsame _).1] at hrecord
    rw [(hsame _).2] at hconnection
    rcases ConformanceMachine.apply_effect happ hk with ⟨message, hp, hg, attempt, hm, rfl⟩ | ⟨revoke, hp, rfl⟩ |
      ⟨hkept, hrevoking, hrevoke, hrepeat⟩
    · have hnew : ¬ message.sequence ≤ (entry.ledger applied.direction).sequence := by
        have := hg.sequence_eq
        omega
      simp only [hp, if_neg hnew] at hmessage
      refine .moved hshows hmessage ?_ hg hm ?_ ?_
      · rintro ⟨revoke, hr'⟩
        rw [hpayload, hp] at hr'
        cases hr'
      · rw [hrecord]
        cases applied.direction <;> rfl
      · rw [hconnection]
        exact hshows.connection
    · simp only [hp] at hmessage
      refine .fenced hmessage ?_ ?_
      · rw [hrecord, hshows.attempt]
      · exact .inl hconnection
    · have hnone : entry.message = none := by
        rw [hmessage]
        split
        · rename_i message hp
          rw [if_pos]
          rw [← hledger]
          exact hrepeat message hp
        · rfl
      refine .kept hnone ?_ ?_ fun hrev => ?_
      · rintro ⟨revoke, hr'⟩
        rw [hpayload, Option.some.injEq] at hr'
        exact hrevoke revoke hr'
      · rw [hrecord, hkept, hshows.attempt]
      · simp only [PlatformState.Revoking, hconnection]
        exact hrevoking (by simpa only [ConformanceMachine.Revoking, PlatformState.Revoking, hshows.connection] using hrev)

theorem Entry.advance {state next : PlatformState} {applied} (h : state.Step applied next) :
    (⟨state, applied, next⟩ : Entry).Advance := by
  cases h with
  | accepted hr hk ha hs => exact Entry.accepted rfl hr hk ha hs
  | @repeated applied hd hseq =>
    have hpayload : (⟨state, some applied, state⟩ : Entry).payload = none := by
      simp only [payload, hd, envelope, hseq, if_true]
    exact .kept (message_eq_none hpayload) (not_revokes hpayload) rfl id
  | reconnected hb =>
    have hshows := PlatformState.shows_of_restore hb.restored
    obtain ⟨ht, hcore⟩ := hb.core_eq hshows.tidy.attempt
    obtain ⟨hrecord, -⟩ := PlatformState.record_of_snapshot (nextConfig state.config _) ht hb.persisted
    refine .kept (message_eq_none rfl) (not_revokes rfl) ?_ fun hrev => ?_
    · rw [hrecord, hcore, hshows.attempt]
    · have hc := hb.begin.connection
      rw [hshows.connection] at hc
      have hrevoking : state.Revoking := hrev
      rcases hrevoking with hr | hr <;> simp [hr] at hc
  | retired hr hfinished hs =>
    have hshows := PlatformState.shows_of_restore hr
    obtain ⟨hrecord, hconnection⟩ := PlatformState.record_of_snapshot state.config ⟨fun _ => rfl, fun _ => rfl⟩ hs
    refine .retired (message_eq_none rfl) (not_revokes rfl) ?_ hrecord (hconnection.trans hshows.connection)
    rw [hshows.attempt] at hfinished
    exact hfinished

end Sessionless.Protocol
