import Sessionless.Protocol.Lemmas.Persistable
import Sessionless.Protocol.Lemmas.Platform

/-!
# Machine runs are platform runs

A sound machine that holds nothing of an earlier reconnect is stored and restored as it is,
so that the reducers take every step that the machine takes.
-/

namespace Sessionless.Protocol

open Lib

/-- Heartbeats and attempt messages are the frames of a ready connection. -/
def Payload.Routine : Payload → Prop
  | .heartbeat _ | .attempt _ => True
  | _ => False

variable [Crypto]

namespace ConformanceMachine

variable {machine machine' : ConformanceMachine} {direction : Direction}

/-- The next frames of both directions accepted in turn, at one time. -/
def exchange (machine : ConformanceMachine) (now : Int) :
    List (Direction × Payload) → Except ErrorCode ConformanceMachine
  | [] => .ok machine
  | (direction, payload) :: rest =>
    match machine.accept direction (machine.nextFrame direction payload) (machine.config.acceptance now) with
    | .error code _ => .error code
    | .ok _ machine => machine.exchange now rest

structure Plain (machine : ConformanceMachine) : Prop where
  reconnecting : machine.reconnecting = false
  reenvelope : machine.drainReenvelopePending = false
  dormant : { machine with
    reconnectTarget := .unattached
    previousConnectionGeneration := 0
    reconnectWatermarks := {}
    reconnectAttempt := {}
    reconnectClaim := {} } = machine

theorem accept_routine {frame acceptance} (hp : Payload.Routine frame.payload)
    (h : machine.accept direction frame acceptance = .ok () machine') :
    ∃ platform worker attempt, machine' =
      { machine with platform := platform, worker := worker, attempt := attempt } := by
  rcases accept_ok.1 h with ⟨-, -, -, -, -, rfl⟩ | ⟨-, applied, happ, rfl⟩
  · exact ⟨_, _, _, rfl⟩
  · unfold ConformanceMachine.apply at happ
    cases hpayload : frame.payload with
    | heartbeat message =>
      simp only [hpayload] at happ
      obtain ⟨-, -, rfl⟩ := acceptHeartbeat_ok.1 happ
      cases direction with
      | platformToWorker => exact ⟨_, _, _, rfl⟩
      | workerToPlatform => exact ⟨_, _, _, rfl⟩
    | attempt message =>
      simp only [hpayload] at happ
      obtain ⟨attempt, rfl⟩ := acceptAttempt_attempt happ
      cases direction with
      | platformToWorker => exact ⟨_, _, _, rfl⟩
      | workerToPlatform => exact ⟨_, _, _, rfl⟩
    | _ => rw [hpayload] at hp; exact hp.elim

theorem Plain.accept {frame acceptance} (h : machine.Plain)
    (hp : Payload.Routine frame.payload) (ha : machine.accept direction frame acceptance = .ok () machine') :
    machine'.Plain ∧ machine'.config = machine.config := by
  obtain ⟨platform, worker, attempt, rfl⟩ := accept_routine hp ha
  refine ⟨⟨h.reconnecting, h.reenvelope, ?_⟩, rfl⟩
  have hd := h.dormant
  generalize machine = m at hd ⊢
  rw [← hd]

end ConformanceMachine

structure Stored (start : PlatformState) (log : List Entry) (machine : ConformanceMachine)
    (snapshot : MachineSnapshotV1) : Prop where
  run : Reduces start log ⟨machine.config, snapshot⟩
  persisted : machine.snapshot = .ok snapshot
  sound : machine.Sound
  plain : machine.Plain

namespace Stored

variable {start : PlatformState} {log : List Entry} {machine machine' : ConformanceMachine}
  {snapshot : MachineSnapshotV1} {direction : Direction}

theorem restored (h : Stored start log machine snapshot) :
    restoreConformanceMachine machine.config snapshot = .ok machine := by
  have heq := ConformanceMachine.restoreFields_snapshot h.sound.tidy h.persisted h.plain.reconnecting h.plain.reenvelope
  rw [h.sound.agrees.restore h.persisted, heq, h.plain.dormant]

theorem record_eq (h : Stored start log machine snapshot) : snapshot.attempt.summary.state = machine.attempt.state ∧
    snapshot.attempt.summary.binding = machine.attempt.binding := by
  obtain ⟨hrecord, -⟩ :=
    PlatformState.record_of_snapshot machine.config h.sound.tidy.attempt h.persisted
  exact ⟨congrArg AttemptRecord.state hrecord, congrArg AttemptRecord.binding hrecord⟩

theorem initial (hs : machine.Sound) (hp : machine.Plain) :
    ∃ snapshot, Stored ⟨machine.config, snapshot⟩ [] machine snapshot := by
  obtain ⟨snapshot, h, -⟩ := hs.persistable
  exact ⟨snapshot, .nil, h, hs, hp⟩

theorem accept (h : Stored start log machine snapshot) (frame : FrameV1) {now} (hp : Payload.Routine frame.payload)
    (ha : machine.accept direction frame (machine.config.acceptance now) = .ok () machine') :
    ∃ post, Stored start (⟨⟨machine.config, snapshot⟩, some ⟨direction, frame, now⟩, ⟨machine.config, post⟩⟩ :: log)
      machine' post := by
  obtain ⟨hplain, hconfig⟩ := h.plain.accept hp ha
  have hadmissible : machine.Admissible (.accept direction frame (machine.config.acceptance now)) := by
    refine .inr ?_
    cases hpayload : frame.payload with
    | heartbeat message | attempt message => trivial
    | _ => rw [hpayload] at hp; exact hp.elim
  have hsound := h.sound.perform hadmissible ha
  obtain ⟨post, hpost, -⟩ := hsound.persistable
  refine ⟨post, ?_, hpost, hsound, hplain⟩
  rw [hconfig]
  refine h.run.step (show PlatformOperation.Allowed (.applyFrame direction frame now) from ?_) ?_
  · simp only [PlatformOperation.Allowed]
    cases hpayload : frame.payload with
    | heartbeat message => simp [Payload.kind]
    | attempt message => cases message <;> simp [Payload.kind, AttemptMessage.kind]
    | _ => rw [hpayload] at hp; exact hp.elim
  · simp only [PlatformState.reduce, applyMachineFrameV1_ok.2 ⟨machine, machine', h.restored, ha, hpost⟩]

theorem exchange {now payloads}
    (hp : ∀ entry ∈ payloads, Payload.Routine entry.2) (h : Stored start log machine snapshot)
    (ha : machine.exchange now payloads = .ok machine') :
    ∃ log' post, List.IsSuffix log log' ∧ Stored start log' machine' post := by
  induction payloads generalizing machine log snapshot with
  | nil =>
    simp only [ConformanceMachine.exchange] at ha
    cases ha
    exact ⟨log, snapshot, List.suffix_refl _, h⟩
  | cons entry rest ih =>
    obtain ⟨direction, payload⟩ := entry
    simp only [ConformanceMachine.exchange] at ha
    split at ha
    · cases ha
    · rename_i next hn
      obtain ⟨post, hnext⟩ := h.accept (machine.nextFrame direction payload) (hp _ List.mem_cons_self) hn
      obtain ⟨log', post', hsuffix, hstored⟩ := ih (fun e he => hp e (List.mem_cons_of_mem _ he)) hnext ha
      exact ⟨log', post', (List.suffix_cons _ _).trans hsuffix, hstored⟩

theorem commit {now payload} (hp : payload.Routine) (h : Stored start log machine snapshot)
    (ha : machine.exchange now [(direction, payload)] = .ok machine')
    (hbefore : machine.attempt.state ≠ .terminalCommitted) (hafter : machine'.attempt.state = .terminalCommitted) :
    ∃ entry post, Stored start (entry :: log) machine' post ∧ entry.Commits machine'.attempt.binding := by
  simp only [ConformanceMachine.exchange] at ha
  split at ha
  · cases ha
  · rename_i next hn
    cases ha
    obtain ⟨post, hnext⟩ := h.accept (machine.nextFrame direction payload) hp hn
    refine ⟨_, post, hnext, ?_, hnext.record_eq.1.trans hafter, hnext.record_eq.2⟩
    rw [PlatformState.attempt, h.record_eq.1]
    exact hbefore

theorem retire (h : Stored start log machine snapshot) (hs : machine.attempt.state = .terminalCommitted)
    (hack : machine.platform.sequence ≤ machine.worker.ack) :
    ∃ post, Stored start (⟨⟨machine.config, snapshot⟩, none, ⟨machine.config, post⟩⟩ :: log) (machine.setAttempt {})
      post := by
  have he : machine.perform .eraseCommittedAttempt = .ok () (machine.setAttempt {}) :=
    ConformanceMachine.eraseCommittedAttempt_ok.2 ⟨hs, rfl⟩
  have hsound := h.sound.perform (by trivial) he
  obtain ⟨post, hpost, -⟩ := hsound.persistable
  have hplain : (machine.setAttempt {}).Plain := by
    refine ⟨h.plain.reconnecting, h.plain.reenvelope, ?_⟩
    have hd := h.plain.dormant
    generalize machine = m at hd ⊢
    rw [← hd]
    rfl
  refine ⟨post, h.run.step (show PlatformOperation.Allowed .retireCommitted from trivial) ?_, hpost, hsound, hplain⟩
  have hretire : retireCommittedAttemptV1 machine.config snapshot = .ok post := by
    unfold retireCommittedAttemptV1
    simp only [h.restored, ite_error_eq_ok, not_or, ne_eq, Decidable.not_not, not_lt]
    refine ⟨⟨hs, hack⟩, ?_⟩
    have he' : machine.eraseCommittedAttempt = .ok () (machine.setAttempt {}) := he
    simp only [he', hpost]
  simp only [PlatformState.reduce, hretire, PlatformState.retired]

end Stored

end Sessionless.Protocol
