import Sessionless.Protocol.Lemmas.Attempt
import Sessionless.Protocol.Lemmas.Handshake

/-!
# What an applied frame does

The guards and the effect of every payload, case by case. What a frame keeps is derived from this.
-/

namespace Sessionless.Protocol.ConformanceMachine

variable [Crypto] {machine machine' : ConformanceMachine} {direction : Direction}

inductive Applied (machine : ConformanceMachine) (direction : Direction) (frame : FrameV1) (now : Int) :
    ConformanceMachine → Prop
  | hello {message} (payload : frame.payload = .hello message) (source : direction = .workerToPlatform)
      (connection : machine.connection = .unattached) (offer : message.offer = machine.config.workerOffer) :
      Applied machine direction frame now { machine with hello := message, connection := .hello }
  | challenge {message} (payload : frame.payload = .challenge message) (source : direction = .platformToWorker)
      (connection : machine.connection = .hello) (offer : message.platformOffer = machine.config.platformOffer)
      (version : message.selectedVersion = machine.config.auth.version) :
      Applied machine direction frame now { machine with challenge := message, connection := .challenged }
  | attach {message} (payload : frame.payload = .attach message) (source : direction = .workerToPlatform)
      (connection : machine.connection = .challenged) :
      Applied machine direction frame now
        { machine with capabilityDigest := message.capabilityDigest, connection := .attachPending }
  | attachAccepted {message} (payload : frame.payload = .attachAccepted message)
      (source : direction = .platformToWorker) (connection : machine.connection = .attachPending) :
      Applied machine direction frame now { machine with connection := .attached }
  | reconnect {message} (payload : frame.payload = .reconnect message)
      (guard : machine.ReconnectGuard direction frame message) :
      Applied machine direction frame now { machine with
        capabilityDigest := message.capabilityDigest, reconnectClaim := message.claim, connection := .reconnectPending }
  | reconnectAccepted {message attempt} (payload : frame.payload = .reconnectAccepted message)
      (accepted : machine.acceptReconnectAccepted direction message =
        .ok () { machine with attempt := attempt, connection := .attached }) :
      Applied machine direction frame now { machine with attempt := attempt, connection := .attached }
  | resumed {message} (payload : frame.payload = .manifest message)
      (guard : machine.ManifestGuard direction frame message) (reconnecting : machine.reconnecting = true) :
      Applied machine direction frame now { machine with
        manifest := message.manifest
        connection := machine.reconnectTarget
        drainReenvelopePending := decide (machine.reconnectTarget = .draining)
        reconnecting := false }
  | admitted {message} (payload : frame.payload = .manifest message)
      (guard : machine.ManifestGuard direction frame message) (fresh : machine.reconnecting = false) :
      Applied machine direction frame now { machine with manifest := message.manifest, connection := .ready }
  | heartbeat {message} (payload : frame.payload = .heartbeat message) (source : direction = .workerToPlatform)
      (connection : machine.connection = .ready ∨ machine.connection = .draining) :
      Applied machine direction frame now machine
  | repeated {message} (payload : frame.payload = .attempt message) (duplicate : machine.Duplicate direction message) :
      Applied machine direction frame now machine
  | moved {message attempt} (payload : frame.payload = .attempt message)
      (guard : machine.AttemptGuard direction message now) (moves : machine.Moves direction message attempt) :
      Applied machine direction frame now (machine.setAttempt (entered attempt direction message))
  | drain {message} (payload : frame.payload = .drain message) (source : direction = .platformToWorker)
      (connection : machine.connection = .ready) :
      Applied machine direction frame now { machine with drainRevision := message.revision, connection := .draining }
  | drainAgain {message} (payload : frame.payload = .drain message) (source : direction = .platformToWorker)
      (connection : machine.connection = .draining) (pending : machine.drainReenvelopePending = true) :
      Applied machine direction frame now { machine with drainReenvelopePending := false }
  | drained {message} (payload : frame.payload = .drained message) (source : direction = .workerToPlatform)
      (connection : machine.connection = .draining) :
      Applied machine direction frame now { machine with connection := .drained }
  | revoke {message} (payload : frame.payload = .revoke message) (source : direction = .platformToWorker)
      (generations : machine.config.auth.enrollmentGeneration ≠ maxUint64 ∧
        machine.config.auth.connectionGeneration ≠ maxUint64 ∧
        message.nextEnrollmentGeneration = machine.config.auth.enrollmentGeneration + 1 ∧
        message.nextConnectionGeneration = machine.config.auth.connectionGeneration + 1) :
      Applied machine direction frame now
        { machine with revoke := message, attempt := fenceAttempt machine.attempt, connection := .revoking }
  | revoked {message} (payload : frame.payload = .revoked message) (source : direction = .workerToPlatform)
      (connection : machine.connection = .revoking) :
      Applied machine direction frame now { machine with connection := .revoked }
  | error {message} (payload : frame.payload = .error message) : Applied machine direction frame now machine

theorem applied_of_apply {frame now} (h : machine.apply direction frame now = .ok () machine') :
    machine.Applied direction frame now machine' := by
  unfold ConformanceMachine.apply at h
  cases hp : frame.payload <;> simp only [hp] at h
  case hello message =>
    obtain ⟨⟨hd, hc, ho⟩, rfl⟩ := acceptHello_ok.1 h
    exact .hello hp hd hc ho
  case challenge message =>
    obtain ⟨⟨hd, hc, -, ho, -⟩, ⟨-, hv⟩, rfl⟩ := acceptChallenge_ok.1 h
    exact .challenge hp hd hc ho hv
  case attach message =>
    obtain ⟨⟨hd, hc, -⟩, rfl⟩ := acceptAttach_ok.1 h
    exact .attach hp hd hc
  case attachAccepted message =>
    obtain ⟨⟨hd, hc, -⟩, rfl⟩ := acceptAttachAccepted_ok.1 h
    exact .attachAccepted hp hd hc
  case reconnect message =>
    obtain ⟨hg, rfl⟩ := acceptReconnect_ok.1 h
    exact .reconnect hp hg
  case reconnectAccepted message =>
    obtain ⟨attempt, rfl⟩ := acceptReconnectAccepted_attempt h
    exact .reconnectAccepted hp h
  case manifest message =>
    obtain ⟨hg, rfl⟩ := acceptManifest_ok.1 h
    cases hr : machine.reconnecting with
    | true => simpa only [admitManifest, hr, if_true] using Applied.resumed hp hg hr
    | false => simpa [admitManifest, hr] using Applied.admitted hp hg hr
  case heartbeat message =>
    obtain ⟨⟨hd, hc⟩, -, rfl⟩ := acceptHeartbeat_ok.1 h
    exact .heartbeat hp hd hc
  case attempt message =>
    rcases acceptAttempt_cases h with ⟨hdup, rfl⟩ | ⟨hg, attempt, hm, rfl⟩
    · exact .repeated hp hdup
    · exact .moved hp hg hm
  case drain message =>
    obtain ⟨hd, ⟨hc, -, -, rfl⟩ | ⟨hc, hpending, -, -, -, -, rfl⟩⟩ := acceptDrain_ok.1 h
    · exact .drain hp hd hc
    · exact .drainAgain hp hd hc hpending
  case drained message =>
    obtain ⟨⟨hd, hc, -⟩, rfl⟩ := acceptDrained_ok.1 h
    exact .drained hp hd hc
  case revoke message =>
    obtain ⟨⟨hd, -, -, hgenerations⟩, rfl⟩ := acceptRevoke_ok.1 h
    exact .revoke hp hd hgenerations
  case revoked message =>
    obtain ⟨⟨hd, hc, -⟩, rfl⟩ := acceptRevoked_ok.1 h
    exact .revoked hp hd hc
  case error message =>
    simp only [EStateM.Result.ok.injEq, true_and] at h
    exact h ▸ .error hp

end Sessionless.Protocol.ConformanceMachine
