import Sessionless.Protocol.Lemmas.Stored
import Sessionless.Protocol.Theorems.Restore

/-!
# Retrying a platform reducer

A retry rebuilds the platform frame from the watermarks, the binding and the fingerprints of the snapshot. Whatever
the worker sends in between leaves these alone, so the retry hands out the very frame and keeps the snapshot.
-/

namespace Sessionless.Protocol

open Lib

/-- The reducers that replay the frame they have already derived. -/
inductive PlatformCommand
  | cancel (authority : CancelAuthorityV1)
  | leaseAccepted (nowUnixMicro : Int)
  | terminalAck (nowUnixMicro : Int)
  | drain (authority : DrainAuthorityV1)

section

variable [Crypto]

namespace PlatformCommand

def build (config : MachineConfig) (snapshot : MachineSnapshotV1) :
    PlatformCommand → Except ErrorCode (FrameV1 × MachineSnapshotV1)
  | .cancel authority => buildCancelTransitionV1 config snapshot authority
  | .leaseAccepted nowUnixMicro => buildLeaseAcceptedTransitionV1 config snapshot nowUnixMicro
  | .terminalAck nowUnixMicro => buildTerminalAckTransitionV1 config snapshot nowUnixMicro
  | .drain authority => buildDrainTransitionV1 config snapshot authority

def nowUnixMicro : PlatformCommand → Int
  | .cancel authority => authority.nowUnixMicro
  | .leaseAccepted nowUnixMicro => nowUnixMicro
  | .terminalAck nowUnixMicro => nowUnixMicro
  | .drain authority => authority.nowUnixMicro

def Replays (config : MachineConfig) (snapshot : MachineSnapshotV1) : PlatformCommand → Prop
  | .cancel _ => snapshot.attempt.summary.cancelRevision ≠ 0
  | .leaseAccepted _ => snapshot.attempt.summary.state = .claimed
  | .terminalAck _ => snapshot.attempt.summary.state = .terminalCommitted
  | .drain authority => snapshot.connection = .draining ∧
      authority.deliveredConnectionGeneration = config.auth.connectionGeneration

/-- The same call at another time. A retried drain names the connection it was delivered on. -/
def again (config : MachineConfig) (nowUnixMicro : Int) : PlatformCommand → PlatformCommand
  | .cancel authority => .cancel { authority with nowUnixMicro := nowUnixMicro }
  | .leaseAccepted _ => .leaseAccepted nowUnixMicro
  | .terminalAck _ => .terminalAck nowUnixMicro
  | .drain authority => .drain { authority with
      deliveredConnectionGeneration := config.auth.connectionGeneration
      nowUnixMicro := nowUnixMicro }

end PlatformCommand

/-- A frame of the worker is applied to the stored snapshot. -/
def WorkerFrame (config : MachineConfig) (snapshot post : MachineSnapshotV1) : Prop :=
  ∃ frame now, applyMachineFrameV1 config snapshot .workerToPlatform frame now = .ok post

/-! ## What the worker leaves alone -/

namespace ConformanceMachine

variable {machine machine' machine'' : ConformanceMachine}

structure SameIssue (machine machine' : ConformanceMachine) : Prop where
  platform : machine'.platform = machine.platform
  ledger : machine'.attempt.platform = machine.attempt.platform
  binding : machine'.attempt.binding = machine.attempt.binding
  cancelRevision : machine'.attempt.cancelRevision = machine.attempt.cancelRevision
  cancelCode : machine'.attempt.cancelCode = machine.attempt.cancelCode
  drainRevision : machine'.drainRevision = machine.drainRevision
  committed : machine.attempt.state = .terminalCommitted → machine'.attempt = machine.attempt

theorem SameIssue.refl (machine : ConformanceMachine) : machine.SameIssue machine :=
  ⟨rfl, rfl, rfl, rfl, rfl, rfl, fun _ => rfl⟩

theorem SameIssue.trans (h : machine.SameIssue machine') (h' : machine'.SameIssue machine'') :
    machine.SameIssue machine'' where
  platform := h'.platform.trans h.platform
  ledger := h'.ledger.trans h.ledger
  binding := h'.binding.trans h.binding
  cancelRevision := h'.cancelRevision.trans h.cancelRevision
  cancelCode := h'.cancelCode.trans h.cancelCode
  drainRevision := h'.drainRevision.trans h.drainRevision
  committed := by
    intro hs
    have heq := h.committed hs
    exact (h'.committed (heq ▸ hs)).trans heq

theorem SameIssue.of_eq (hplatform : machine'.platform = machine.platform)
    (hattempt : machine'.attempt = machine.attempt) (hdrain : machine'.drainRevision = machine.drainRevision) :
    machine.SameIssue machine' :=
  ⟨hplatform, hattempt ▸ rfl, hattempt ▸ rfl, hattempt ▸ rfl, hattempt ▸ rfl, hdrain, fun _ => hattempt⟩

theorem SameIssue.of_alike (h : machine.Alike machine') : machine.SameIssue machine' := by
  obtain ⟨_, _, _, _, _, _, _, rfl, -⟩ := h
  exact .of_eq rfl rfl rfl

theorem Moves.sameIssue {message attempt} (h : machine.Moves .workerToPlatform message attempt) :
    machine.SameIssue (machine.setAttempt (entered attempt .workerToPlatform message)) := by
  cases h with
  | leaseClaim message hs => exact ⟨rfl, rfl, rfl, rfl, rfl, rfl, fun hc => absurd (hc.symm.trans hs) (by simp)⟩
  | progress message hf hs | cancelAck message hf hs | swallowed message hs | terminal message hs =>
    refine ⟨rfl, rfl, rfl, rfl, rfl, rfl, fun hc => ?_⟩
    simp [hc] at hs

/-- Step: one frame of the worker. -/
theorem apply_sameIssue {frame now}
    (ha : machine.apply .workerToPlatform frame now = .ok () machine') : machine.SameIssue machine' := by
  cases applied_of_apply ha with
  | hello hp | attach hp | reconnect hp | resumed hp | admitted hp | drained hp | revoked hp => exact .of_eq rfl rfl rfl
  | challenge hp hd | attachAccepted hp hd | drain hp hd | drainAgain hp hd | revoke hp hd => cases hd
  | reconnectAccepted hp haccepted => cases (acceptReconnectAccepted_ok haccepted).1
  | heartbeat hp | repeated hp | error hp => exact .refl _
  | moved hp hg hm => exact hm.sameIssue

theorem accept_sameIssue {frame acceptance}
    (ha : machine.accept .workerToPlatform frame acceptance = .ok () machine') : machine.SameIssue machine' := by
  rcases accept_ok.1 ha with ⟨-, -, -, -, -, rfl⟩ | ⟨-, applied, happ, rfl⟩
  · exact .refl _
  · exact (apply_sameIssue happ).trans (.of_eq rfl rfl rfl)

structure Kept (machine : ConformanceMachine) (config : MachineConfig) (snapshot : MachineSnapshotV1) : Prop where
  tidy : machine.Tidy
  agrees : machine.Agrees
  config_eq : machine.config = config
  written : machine.snapshot = .ok snapshot

theorem Kept.restore {config snapshot} (h : machine.Kept config snapshot) :
    restoreConformanceMachine config snapshot = .ok (restoreFields config snapshot) ∧
      machine.SameIssue (restoreFields config snapshot) := by
  have hrestore := h.agrees.restore h.written
  have halike := alike_restoreFields h.tidy h.written
  rw [h.config_eq] at hrestore halike
  exact ⟨hrestore, .of_alike halike⟩

theorem kept_of_accept {config snapshot post direction frame acceptance}
    (hrestore : restoreConformanceMachine config snapshot = .ok machine)
    (ha : machine.accept direction frame acceptance = .ok () machine') (hw : machine'.snapshot = .ok post) :
    machine'.Kept config post where
  tidy := (tidy_restoreConformanceMachine hrestore).perform (show machine.perform (.accept _ _ _) = _ from ha)
  agrees := (agrees_restoreConformanceMachine hrestore).accept ha
  config_eq := by
    obtain ⟨-, rfl⟩ := restoreConformanceMachine_ok.1 hrestore
    rw [accept_config ha, restoreFields_config]
  written := hw

/-- Run: any number of frames of the worker. -/
theorem Kept.workerFrames {config snapshot post} (h : machine.Kept config snapshot)
    (hr : Relation.ReflTransGen (WorkerFrame config) snapshot post) :
    restoreConformanceMachine config post = .ok (restoreFields config post) ∧
      machine.SameIssue (restoreFields config post) := by
  induction hr with
  | refl => exact h.restore
  | tail _ hframe ih =>
    obtain ⟨hrestore, hsame⟩ := ih
    obtain ⟨frame, now, happly⟩ := hframe
    obtain ⟨restored, next, hrestored, ha, hw⟩ := applyMachineFrameV1_ok.1 happly
    rw [hrestore] at hrestored
    cases hrestored
    obtain ⟨hnext, hissue⟩ := (kept_of_accept hrestore ha hw).restore
    exact ⟨hnext, (hsame.trans (accept_sameIssue ha)).trans hissue⟩

/-! ## The frame that was issued -/

structure Issued (machine : ConformanceMachine) (config : MachineConfig) (frame : FrameV1) : Prop where
  valid : frame.Valid
  platform : machine.platform = envelope frame
  addressed : frame = config.frame .platformToWorker frame.sequence frame.ack frame.payload

theorem Issued.same {config frame} (h : machine.Issued config frame)
    (hs : machine.SameIssue machine') : machine'.Issued config frame :=
  ⟨h.valid, hs.platform.trans h.platform, h.addressed⟩

theorem Issued.sequence_ne {config frame} (h : machine.Issued config frame) :
    frame.sequence ≠ 0 := h.valid.1.2.2.2.2.2

theorem Issued.current {config frame} (h : machine.Issued config frame) :
    currentPlatformFrame config machine frame.payload = frame := by
  rw [currentPlatformFrame, h.platform]
  exact h.addressed.symm

theorem issued_of_commitFrame {config payload frame post now} (h : commitFrame config machine (nextPlatformFrame config machine payload) now = .ok (frame, post)) :
    frame = nextPlatformFrame config machine payload ∧
      ∃ applied, machine.apply .platformToWorker frame now = .ok () applied ∧
        machine.accept .platformToWorker frame (config.acceptance now) =
          .ok () (applied.setSender .platformToWorker (envelope frame)) ∧
        (applied.setSender .platformToWorker (envelope frame)).snapshot = .ok post ∧
        (applied.setSender .platformToWorker (envelope frame)).Issued config frame := by
  obtain ⟨hvalid, rfl, machine', ha, hw⟩ := commitFrame_ok.1 h
  refine ⟨rfl, ?_⟩
  rcases accept_ok.1 ha with ⟨-, -, hsequence, -⟩ | ⟨hf, applied, happ, rfl⟩
  · have hnext : (nextPlatformFrame config machine payload).sequence = machine.platform.sequence + 1 := rfl
    have hlast : (machine.sender .platformToWorker).sequence = machine.platform.sequence := rfl
    omega
  · exact ⟨applied, happ, ha, hw, hvalid, rfl, rfl⟩

theorem moves_of_derived {frame message now} (hp : frame.payload = .attempt message)
    (hsequence : message.sequence = machine.attempt.platform.sequence + 1)
    (ha : machine.apply .platformToWorker frame now = .ok () machine') :
    ∃ attempt, machine.Moves .platformToWorker message attempt ∧
      machine' = machine.setAttempt (entered attempt .platformToWorker message) := by
  simp only [ConformanceMachine.apply, hp] at ha
  rcases acceptAttempt_cases ha with ⟨hd, -⟩ | ⟨-, attempt, hm, rfl⟩
  · have hle : message.sequence ≤ machine.attempt.platform.sequence := hd.sequence_le
    omega
  · exact ⟨attempt, hm, rfl⟩

theorem get?_record (state : AttemptSequenceState) (sequence : Nat) (fingerprint : Sum256) :
    (record state sequence fingerprint).fingerprints.get? sequence = some fingerprint := by
  simp [record, OrderedMap.get?_insert]

theorem Issued.replayPersisted {config frame message}
    (h : machine.Issued config frame) (hp : frame.payload = .attempt message) {ledger}
    (hledger : machine.attempt.platform = record ledger message.sequence (attemptFingerprint message))
    (snapshot : MachineSnapshotV1) :
    Protocol.replayPersisted config machine snapshot message = .ok (frame, snapshot) := by
  have hcurrent : currentPlatformFrame config machine (.attempt message) = frame := hp ▸ h.current
  apply replayPersisted_ok.2
  rw [hcurrent]
  refine ⟨⟨h.valid, h.sequence_ne, ?_, ?_⟩, rfl, rfl⟩
  · rw [h.platform]
    rfl
  · rw [hledger]
    exact get?_record ledger message.sequence (attemptFingerprint message)

end ConformanceMachine

/-! ## Retries -/

section

open ConformanceMachine

variable {config : MachineConfig} {snapshot post : MachineSnapshotV1} {machine : ConformanceMachine} {frame : FrameV1}

/-- The guards of a retry: the envelope has room, and so has the ledger. -/
structure RetryGuard (config : MachineConfig) (snapshot : MachineSnapshotV1) (machine : ConformanceMachine) : Prop where
  restored : restoreConformanceMachine config snapshot = .ok machine
  platform : machine.platform.sequence ≠ maxUint64
  ledger : machine.attempt.platform.sequence ≠ maxUint64

theorem RetryGuard.room {now : Int} (hg : RetryGuard config post machine) (htime : 0 < now) :
    ¬ (now ≤ 0 ∨ machine.platform.sequence = maxUint64 ∨ machine.attempt.platform.sequence = maxUint64) := by
  rintro (h | h | h)
  · omega
  · exact hg.platform h
  · exact hg.ledger h

theorem retry_cancel {authority} (hg : RetryGuard config post machine)
    (hrevision : authority.revision = 1) (hcode : authority.code = .requested ∨ authority.code = .fenced)
    (htime : 0 < authority.nowUnixMicro) (hsame : machine.attempt.cancelRevision = authority.revision)
    (hsame' : machine.attempt.cancelCode = authority.code)
    (hreplay : replayPersisted config machine post (cancelMessage machine machine.attempt.platform.sequence
      authority.revision authority.code) = .ok (frame, post)) :
    buildCancelTransitionV1 config post authority = .ok (frame, post) := by
  have hguard : ¬ (authority.revision ≠ 1 ∨ (authority.code ≠ .requested ∧ authority.code ≠ .fenced) ∨
      authority.nowUnixMicro ≤ 0 ∨ machine.platform.sequence = maxUint64 ∨
      machine.attempt.platform.sequence = maxUint64) := by
    rintro (h | ⟨h, h'⟩ | h)
    · exact h hrevision
    · exact hcode.elim h h'
    · exact hg.room htime h
  have hset : machine.attempt.cancelRevision ≠ 0 := by omega
  simp only [buildCancelTransitionV1, hg.restored]
  rw [if_neg hguard, if_pos hset, if_neg (by simp [hsame, hsame']), hsame, hsame']
  exact hreplay

theorem retry_leaseAccepted {now} (hg : RetryGuard config post machine) (htime : 0 < now)
    (hstate : machine.attempt.state = .claimed)
    (hreplay : replayPersisted config machine post (leaseAcceptedMessage machine machine.attempt.platform.sequence) =
      .ok (frame, post)) : buildLeaseAcceptedTransitionV1 config post now = .ok (frame, post) := by
  simp only [buildLeaseAcceptedTransitionV1, hg.restored]
  rw [if_neg (hg.room htime), if_pos hstate]
  exact hreplay

theorem retry_terminalAck {now} (hg : RetryGuard config post machine) (htime : 0 < now)
    (hstate : machine.attempt.state = .terminalCommitted)
    (hreplay : replayPersisted config machine post (terminalAckMessage machine machine.attempt.platform.sequence) =
      .ok (frame, post)) : buildTerminalAckTransitionV1 config post now = .ok (frame, post) := by
  simp only [buildTerminalAckTransitionV1, hg.restored]
  rw [if_neg (hg.room htime), if_pos hstate]
  exact hreplay

theorem retry_drain {authority} (hrestored : restoreConformanceMachine config post = .ok machine)
    (hplatform : machine.platform.sequence ≠ maxUint64) (hrevision : authority.revision ≠ 0)
    (htime : 0 < authority.nowUnixMicro) (hdraining : machine.connection = .draining)
    (hdelivered : authority.deliveredConnectionGeneration = config.auth.connectionGeneration)
    (hsame : machine.drainRevision = authority.revision) (hissued : machine.Issued config frame)
    (hp : frame.payload = .drain ⟨authority.revision⟩) :
    buildDrainTransitionV1 config post authority = .ok (frame, post) := by
  have hguard : ¬ (authority.revision = 0 ∨ authority.nowUnixMicro ≤ 0 ∨ machine.platform.sequence = maxUint64) := by
    rintro (h | h | h)
    · exact hrevision h
    · omega
    · exact hplatform h
  have hcurrent : currentPlatformFrame config machine (.drain ⟨machine.drainRevision⟩) = frame := by
    rw [hsame, ← hp]
    exact hissued.current
  have hpersisted : exactPersistedDrainFrame config machine = some frame := by
    have hfingerprint : machine.platform.fingerprint = frameFingerprint frame := by
      rw [hissued.platform]
      rfl
    simp only [exactPersistedDrainFrame, hcurrent]
    rw [if_neg]
    rintro (h | h | h)
    · exact h hissued.valid
    · exact hissued.sequence_ne h
    · exact h hfingerprint
  simp only [buildDrainTransitionV1, hrestored]
  rw [if_neg hguard, if_pos ⟨hdraining, hdelivered⟩, if_neg (by simp [hsame]), hpersisted]

theorem written_platform (h : machine.snapshot = .ok post) : post.platform.sequence = machine.platform.sequence := by
  obtain ⟨digest, -, -, rfl⟩ := snapshot_ok.1 h
  rfl

/-- What a derived attempt message leaves for its retries: after any frames of the worker the
restored machine still has it as its last platform frame and at the end of its ledger. -/
theorem attempt_retried {message now} {retry : MachineSnapshotV1 → Prop}
    (hrestored : restoreConformanceMachine config snapshot = .ok machine)
    (hsequence : message.sequence = machine.attempt.platform.sequence + 1)
    (h : commitFrame config machine (nextPlatformFrame config machine (.attempt message)) now = .ok (frame, post))
    (hroom : post.platform.sequence < maxUint64)
    (hretry : ∀ {attempt post' machine'}, machine.Moves .platformToWorker message attempt →
      RetryGuard config post' machine' → machine'.attempt.platform.sequence = message.sequence →
      replayPersisted config machine' post' message = .ok (frame, post') →
      ((machine.setAttempt (entered attempt .platformToWorker message)).setSender .platformToWorker
        (envelope frame)).SameIssue machine' → retry post') :
    applyMachineFrameV1 config snapshot .platformToWorker frame now = .ok post ∧
      ∀ post', Relation.ReflTransGen (WorkerFrame config) post post' → retry post' := by
  obtain ⟨hframe, applied, happ, ha, hw, hissued⟩ := issued_of_commitFrame h
  have hpayload : frame.payload = .attempt message := by rw [hframe]; rfl
  obtain ⟨attempt, hm, rfl⟩ := moves_of_derived hpayload hsequence happ
  refine ⟨applyMachineFrameV1_ok.2 ⟨machine, _, hrestored, ha, hw⟩, ?_⟩
  intro post' hr
  obtain ⟨hrestore, hissue⟩ := (kept_of_accept hrestored ha hw).workerFrames hr
  have hvalid : message.Valid := by
    have hpv := hissued.valid.2
    rw [hpayload] at hpv
    exact hpv
  have hle : message.sequence ≤ maxAttemptMessages := sequence_le_of_valid hvalid
  have hledger : (restoreFields config post').attempt.platform =
      record attempt.platform message.sequence (attemptFingerprint message) := hissue.ledger
  refine hretry hm ⟨hrestore, ?_, ?_⟩ (by rw [hledger]; rfl)
    ((hissued.same hissue).replayPersisted hpayload hledger post') hissue
  · have hpost := written_platform hw
    rw [hissue.platform]
    omega
  · rw [hledger]
    show message.sequence ≠ maxUint64
    have hmax : maxAttemptMessages < maxUint64 := by decide
    omega

theorem restored_attempt (h : restoreConformanceMachine config snapshot = .ok machine) :
    machine.attempt.state = snapshot.attempt.summary.state ∧
      machine.attempt.cancelRevision = snapshot.attempt.summary.cancelRevision ∧ machine.connection = snapshot.connection := by
  obtain ⟨-, rfl⟩ := restoreConformanceMachine_ok.1 h
  rw [restoreFields_attempt, restoreFields_connection]
  exact ⟨rfl, rfl, rfl⟩

theorem drain_retried {authority : DrainAuthorityV1}
    (hrestored : restoreConformanceMachine config snapshot = .ok machine)
    (h : commitFrame config machine (nextPlatformFrame config machine (.drain ⟨authority.revision⟩))
      authority.nowUnixMicro = .ok (frame, post)) (hrevision : authority.revision ≠ 0)
    (hroom : post.platform.sequence < maxUint64) :
    applyMachineFrameV1 config snapshot .platformToWorker frame authority.nowUnixMicro = .ok post ∧
      ∀ post', Relation.ReflTransGen (WorkerFrame config) post post' → post'.connection = .draining → ∀ now, 0 < now →
        buildDrainTransitionV1 config post' { authority with
          deliveredConnectionGeneration := config.auth.connectionGeneration, nowUnixMicro := now } = .ok (frame, post') := by
  obtain ⟨hframe, applied, happ, ha, hw, hissued⟩ := issued_of_commitFrame h
  have hpayload : frame.payload = .drain ⟨authority.revision⟩ := by rw [hframe]; rfl
  have hdrain : applied.drainRevision = authority.revision := by
    simp only [ConformanceMachine.apply, hpayload] at happ
    obtain ⟨-, ⟨-, -, -, rfl⟩ | ⟨-, -, -, -, -, hsame, rfl⟩⟩ := acceptDrain_ok.1 happ
    · rfl
    · exact hsame.symm
  refine ⟨applyMachineFrameV1_ok.2 ⟨machine, _, hrestored, ha, hw⟩, ?_⟩
  intro post' hr hdraining now htime
  obtain ⟨hrestore, hissue⟩ := (kept_of_accept hrestored ha hw).workerFrames hr
  have hpost := written_platform hw
  refine retry_drain hrestore ?_ hrevision htime ((restored_attempt hrestore).2.2.trans hdraining) rfl
    (hissue.drainRevision.trans hdrain) (hissued.same hissue) hpayload
  rw [hissue.platform]
  omega

end

/-- A frame that a platform reducer derives is exactly what `ApplyMachineFrameV1` takes to the
snapshot it returns; and after any frames of the worker the same call, at any time, returns that
frame and the snapshot it is called on, while the snapshot is one on which it replays. -/
theorem platform_command_exact_and_replayed {config : MachineConfig} {snapshot post : MachineSnapshotV1} {frame : FrameV1}
    {command : PlatformCommand} (hnew : ¬ command.Replays config snapshot)
    (hbuild : command.build config snapshot = .ok (frame, post)) (hroom : post.platform.sequence < maxUint64) :
    applyMachineFrameV1 config snapshot .platformToWorker frame command.nowUnixMicro = .ok post ∧
      ∀ post', Relation.ReflTransGen (WorkerFrame config) post post' →
        ∀ now, 0 < now → (command.again config now).Replays config post' →
          (command.again config now).build config post' = .ok (frame, post') := by
  cases command with
  | cancel authority =>
    obtain ⟨machine, hg, hrevision, hcode, ⟨hset, -⟩ | ⟨-, hcommit⟩⟩ := buildCancelTransitionV1_ok hbuild
    · have hrevised : snapshot.attempt.summary.cancelRevision = 1 := by
        rw [← (restored_attempt hg.restored).2.1, hset, hrevision]
      exact absurd (show snapshot.attempt.summary.cancelRevision ≠ 0 by omega) hnew
    · refine attempt_retried hg.restored rfl hcommit hroom ?_
      intro attempt post' machine' hm hguard hsequence hpersisted hissue now htime hreplays
      cases hm with
      | cancel message hf hs =>
        have hbinding : machine'.attempt.binding = machine.attempt.binding := hissue.binding
        refine retry_cancel hguard hrevision hcode htime hissue.cancelRevision hissue.cancelCode ?_
        rw [hsequence]
        simp only [cancelMessage] at hpersisted ⊢
        rw [hbinding]
        exact hpersisted
  | leaseAccepted now₀ =>
    obtain ⟨machine, hg, ⟨hset, -⟩ | ⟨-, hcommit⟩⟩ := buildLeaseAcceptedTransitionV1_ok hbuild
    · exact absurd ((restored_attempt hg.restored).1.symm.trans hset) hnew
    · refine attempt_retried hg.restored rfl hcommit hroom ?_
      intro attempt post' machine' hm hguard hsequence hpersisted hissue now htime hreplays
      cases hm with
      | leaseAccepted message hs =>
        have hbinding : machine'.attempt.binding = machine.attempt.binding := hissue.binding
        refine retry_leaseAccepted hguard htime ((restored_attempt hguard.restored).1.trans hreplays) ?_
        rw [hsequence]
        simp only [leaseAcceptedMessage] at hpersisted ⊢
        rw [hbinding]
        exact hpersisted
  | terminalAck now₀ =>
    obtain ⟨machine, hg, ⟨hset, -⟩ | ⟨-, hcommit⟩⟩ := buildTerminalAckTransitionV1_ok hbuild
    · exact absurd ((restored_attempt hg.restored).1.symm.trans hset) hnew
    · refine attempt_retried hg.restored rfl hcommit hroom ?_
      intro attempt post' machine' hm hguard hsequence hpersisted hissue now htime hreplays
      cases hm with
      | terminalAck message hs =>
        have hattempt := hissue.committed rfl
        refine retry_terminalAck hguard htime ((restored_attempt hguard.restored).1.trans hreplays) ?_
        simp only [terminalAckMessage] at hpersisted ⊢
        rw [hattempt]
        exact hpersisted
  | drain authority =>
    obtain ⟨machine, hg, hrevision, ⟨hdraining, hdelivered, -⟩ | hcommit⟩ := buildDrainTransitionV1_ok hbuild
    · exact absurd ⟨(restored_attempt hg.restored).2.2.symm.trans hdraining, hdelivered⟩ hnew
    · obtain ⟨happly, hretry⟩ := drain_retried hg.restored hcommit hrevision hroom
      exact ⟨happly, fun post' hr now htime hreplays => hretry post' hr hreplays.1 now htime⟩

end

section

open Reference

def drainRequested : PlatformCommand := .drain ⟨1, 0, 10⟩

def drainFrame : FrameV1 := nextPlatformFrame (config 1) (ready 1 {}) (.drain ⟨1⟩)

def unavailable : FrameV1 := (config 1).frame .workerToPlatform 4 3 (.heartbeat ⟨20, false, 0⟩)

/-- The idle worker is drained, and says that it is no longer available. The drain is then handed out again. -/
theorem platform_command_exact_and_replayed_drain :
    ∃ snapshot post post', drainRequested.build (config 1) snapshot = .ok (drainFrame, post) ∧
      applyMachineFrameV1 (config 1) post .workerToPlatform unavailable 20 = .ok post' ∧
      applyMachineFrameV1 (config 1) snapshot .platformToWorker drainFrame 10 = .ok post ∧
      (drainRequested.again (config 1) 30).build (config 1) post' = .ok (drainFrame, post') := by
  have hrun : ranAnd ((ready 1 {}).perform (.accept .platformToWorker drainFrame ((config 1).acceptance 10)))
      (fun draining => decide (draining.platform.sequence = 3 ∧ draining.config = config 1) &&
        ranAnd (draining.perform (.accept .workerToPlatform unavailable ((config 1).acceptance 20)))
          fun seen => decide (seen.connection = .draining)) = true := by decide +kernel
  obtain ⟨_, draining, hdrain, hrun⟩ := exists_of_ranAnd hrun
  rw [Bool.and_eq_true] at hrun
  obtain ⟨hsequence, hconfig⟩ := of_decide_eq_true hrun.1
  obtain ⟨_, seen, hseen, hrun⟩ := exists_of_ranAnd hrun.2
  obtain ⟨snapshot, hstart⟩ := Stored.initial (sound_ready (show 1 ≠ 0 by decide)) ⟨rfl, rfl, rfl⟩
  -- both machines are sound, so both are persisted
  have hadmissible : (ready 1 {}).Admissible (.accept .platformToWorker drainFrame ((config 1).acceptance 10)) :=
    Or.inr trivial
  have hsound := hstart.sound.perform hadmissible hdrain
  obtain ⟨post, hpost, -⟩ := hsound.persistable
  have hbuild : drainRequested.build (config 1) snapshot = .ok (drainFrame, post) := by
    have hrestored : restoreConformanceMachine (config 1) snapshot = .ok (ready 1 {}) := hstart.restored
    have hcommit : commitFrame (config 1) (ready 1 {}) drainFrame 10 = .ok (drainFrame, post) :=
      commitFrame_ok.2 ⟨by decide, rfl, draining, hdrain, hpost⟩
    simp only [drainRequested, PlatformCommand.build, buildDrainTransitionV1, hrestored]
    rw [if_neg (by decide), if_neg (by simp [ready]), if_neg (by simp [ready])]
    exact hcommit
  have hnew : ¬ drainRequested.Replays (config 1) snapshot := by
    rintro ⟨-, h⟩
    exact absurd h (by decide)
  have hroom : post.platform.sequence < maxUint64 := by
    rw [written_platform hpost, hsequence]
    decide
  have hplain : draining.Plain := by
    rcases ConformanceMachine.accept_ok.1 hdrain with ⟨-, -, hs, -⟩ | ⟨-, applied, happ, rfl⟩
    · exact absurd hs (by decide)
    · obtain ⟨-, ⟨-, -, -, rfl⟩ | ⟨hc, -⟩⟩ := ConformanceMachine.acceptDrain_ok.1 happ
      · exact ⟨rfl, rfl, rfl⟩
      · exact absurd hc (by decide)
  have hstored : Stored ⟨draining.config, post⟩ [] draining post := ⟨.nil, hpost, hsound, hplain⟩
  rw [show (config 1).acceptance 20 = draining.config.acceptance 20 by rw [hconfig]] at hseen
  obtain ⟨post', hstored'⟩ := hstored.accept unavailable (show unavailable.payload.Routine from trivial) hseen
  have happly : applyMachineFrameV1 (config 1) post .workerToPlatform unavailable 20 = .ok post' := by
    rw [← hconfig]
    exact applyMachineFrameV1_ok.2 ⟨draining, seen, hstored.restored, hseen, hstored'.persisted⟩
  have hdraining : post'.connection = .draining :=
    (restored_attempt hstored'.restored).2.2.symm.trans (of_decide_eq_true hrun)
  obtain ⟨hexact, hretry⟩ := platform_command_exact_and_replayed hnew hbuild hroom
  exact ⟨snapshot, post, post', hbuild, happly, hexact,
    hretry post' (.single ⟨_, 20, happly⟩) 30 (by decide) ⟨hdraining, rfl⟩⟩

end

end Sessionless.Protocol
