import Sessionless.Protocol.Lemmas.Reducers
import Sessionless.Protocol.Lemmas.Redial

/-!
# A reference worker

A concrete choice of the cryptographic parameters and one worker enrolled under it. The digest is a polynomial
checksum and a signature repeats the checksum of key and message: a signature verifies under the key and message it
was made for.
-/

set_option maxRecDepth 2000

namespace Sessionless.Protocol.Reference

open Lib

def checksum (bytes : Bytes) : Sum256 :=
  ⟨bigEndian 32 (bytes.foldl (fun sum byte => (sum * 257 + byte.toNat + 1) %
    0x7fffffffffffffffffffffffffffffffffffffffffffffffffffffffffffffed) 7), by simp⟩

def sign (key message : Bytes) : Bytes := (checksum (key ++ message)).val ++ (checksum (key ++ message)).val

scoped instance crypto : Crypto where
  sha256 := checksum
  ed25519Verify key message signature := signature = sign key message

theorem verify_sign (key message : Bytes) : Crypto.ed25519Verify key message (sign key message) = true := by
  simp [Crypto.ed25519Verify]

/-! ## The worker -/

def offer : VersionOfferV1 := { window := ⟨1, 1⟩, supported := [1] }

def auth (generation : Nat) : AuthContextV1 :=
  { tenantId := "tenant"
    ownerUserId := "owner"
    workerId := "worker"
    identityPublicKey := List.replicate 32 1
    enrollmentGeneration := 1
    connectionGeneration := generation
    version := 1
    channelBinding := List.replicate 32 2 }

def config (generation : Nat) : MachineConfig :=
  { auth := auth generation, workerOffer := offer, platformOffer := offer, implementedVersions := [1] }

def manifest : CapabilityManifestV1 :=
  { workerId := "worker"
    enrollmentGeneration := 1
    revision := 1
    protocolOffer := offer
    operatingSystem := "linux"
    architecture := "amd64"
    buildId := "build"
    harnessName := "harness"
    harnessVersion := "1"
    harnessSurface := "session_turn_v1"
    harnessExecutableDigest := List.replicate 32 3
    isolationEvidence := [.processBoundary]
    features := [.cancellation, .inlineOutputV2, .outputReceipt, .progress, .reconnect]
    maxConcurrentAttempts := 1 }

def capabilityDigest : Bytes := (checksum manifest.canonical).val

def negotiation : NegotiationV1 :=
  { workerOffer := offer
    platformOffer := offer
    selectedVersion := 1
    workerNonce := List.replicate 32 4
    platformNonce := List.replicate 32 5
    capabilityDigest := capabilityDigest }

/-- The worker on a connection that has just become ready, with a given attempt. -/
def ready (generation : Nat) (attempt : AttemptRecord) : ConformanceMachine :=
  { config := config generation
    connection := .ready
    platform := ⟨2, 2, checksum [2]⟩
    worker := ⟨3, 2, checksum [3]⟩
    hello := negotiation.hello
    challenge := negotiation.challenge
    capabilityDigest := capabilityDigest
    manifest := manifest
    attempt := attempt }

theorem config_valid {generation} (h : generation ≠ 0) : (config generation).Valid := by
  have hrest : (config 1).Valid := by decide
  exact ⟨⟨hrest.1.1, hrest.1.2.1, hrest.1.2.2.1, hrest.1.2.2.2.1, hrest.1.2.2.2.2.1, h, hrest.1.2.2.2.2.2.2⟩, hrest.2⟩

theorem manifest_valid : manifest.Valid := by decide

theorem sound_ready {generation} (h : generation ≠ 0) : (ready generation {}).Sound := by
  have hhello : negotiation.hello.Valid := by decide
  have hchallenge : negotiation.challenge.Valid := by decide
  have hlength : capabilityDigest.length = 32 := (checksum manifest.canonical).2
  exact {
    tidy := {
      platform := fun h0 => absurd h0 (by simp [ready])
      worker := fun h0 => absurd h0 (by simp [ready])
      hello := .inr hhello
      challenge := .inr hchallenge
      manifest := .inr manifest_valid
      revoke := .inl rfl
      claim := .inl rfl
      attempt := ⟨fun _ => rfl, fun _ => rfl⟩
      reconnecting := by simp [ready]
      reenvelope := by simp [ready]
      pended := by simp [ready] }
    agrees := ⟨fun _ => rfl, fun _ => ⟨rfl, rfl⟩, fun _ => ⟨rfl, rfl, rfl⟩,
      fun hv => absurd hv RevokeV1.not_valid_default, fun hv => absurd hv RevokeV1.not_valid_default,
      fun hr => absurd hr (by simp [ready])⟩
    config := config_valid h
    acks := by simp [ready]
    attempt := AttemptRecord.sound_empty
    challenge := fun _ => ⟨hhello, rfl, rfl⟩
    manifest := fun hv => if_pos hv
    capability := .inr hlength
    active := fun hs => absurd rfl hs
    revoke := fun hr => absurd hr (by simp [ready, ConformanceMachine.Revoking])
    reconnect := fun hr => absurd hr (by simp [ready])
    generation := fun hv => absurd hv ReconnectSnapshotV1.not_valid_default
    phase := ⟨⟨hhello, hchallenge, hlength⟩, manifest_valid⟩ }

/-! ## An attempt -/

def binding : AttemptBindingV1 :=
  { runId := "run"
    attemptId := "attempt"
    leaseId := "lease"
    leaseGeneration := 1
    fenceToken := "fence"
    expiresAtUnixMicro := 1000
    contextDigest := List.replicate 32 6
    capabilityDigest := capabilityDigest
    policyDigest := List.replicate 32 7 }

def leaseOffer : AttemptMessage := .leaseOffer { binding := binding, attemptSequence := 1 }
def leaseClaim : AttemptMessage := .leaseClaim { binding := binding, attemptSequence := 1 }
def leaseAccepted : AttemptMessage := .leaseAccepted { binding := binding, attemptSequence := 2 }

def cancel (sequence : Nat) (code : CancelCode) : AttemptMessage :=
  .cancel { binding := binding, attemptSequence := sequence, cancelRevision := 1, code := code }

def terminal (status : TerminalStatus) (result : TerminalResult) : TerminalV1 :=
  { binding := binding
    attemptSequence := 2
    terminalSequence := 1
    status := status
    result := result
    evidenceDigest := List.replicate 32 8 }

/-- The attempt once its lease is accepted, with what an earlier reconnect left pending. -/
def claimed (pending : Option TerminalReplayCommitment) : AttemptRecord :=
  { state := .claimed
    binding := binding
    platform := ⟨2, OrderedMap.ofList [(1, attemptFingerprint leaseOffer), (2, attemptFingerprint leaseAccepted)]⟩
    worker := ⟨1, OrderedMap.ofList [(1, attemptFingerprint leaseClaim)]⟩
    pendingWorkerTerminal := pending }

/-! ## The worker's own frames -/

def claimOf (machine : ConformanceMachine) : ReconnectV1 :=
  { toNegotiationV1 := negotiation
    previousConnectionGeneration := machine.config.auth.connectionGeneration
    previousWatermarks := machine.currentWatermarks
    attemptSummary := machine.currentAttemptSummary
    pendingTerminalReplay := machine.pendingTerminalForSnapshot
    signature := [] }

def reconnectFrame (generation : Nat) (reconnect : ReconnectV1) : FrameV1 :=
  (config generation).frame .workerToPlatform 2 1 (.reconnect reconnect)

def signedReconnect (generation : Nat) (reconnect : ReconnectV1) : FrameV1 :=
  reconnectFrame generation { reconnect with
    signature := sign (auth generation).identityPublicKey
      ((reconnectTranscriptV1 (auth generation) (reconnectFrame generation reconnect) reconnect).getD []) }

def persisted (machine : ConformanceMachine) : MachineSnapshotV1 :=
  let content := machine.snapshotContent ((machineConfigDigestV1 machine.config).getD [])
  { content with digest := machineSnapshotDigestUnchecked content }

/-! ## Redialling -/

section

open ConformanceMachine

/-- The claim of a reference worker, signed for its second connection. -/
def redial (worker : ConformanceMachine) : ReconnectV1 :=
  { claimOf worker with
    signature := sign (auth 2).identityPublicKey
      ((reconnectTranscriptV1 (auth 2) (reconnectFrame 2 (claimOf worker)) (claimOf worker)).getD []) }

theorem reconnectTranscriptV1_signature (reconnect : ReconnectV1) (signature : Bytes) :
    reconnectTranscriptV1 (auth 2) (reconnectFrame 2 { reconnect with signature := signature })
        { reconnect with signature := signature } =
      reconnectTranscriptV1 (auth 2) (reconnectFrame 2 reconnect) reconnect :=
  rfl

theorem reconnectFrame_common (reconnect : ReconnectV1) : validateFrameCommon (reconnectFrame 2 reconnect) := by
  refine ⟨rfl, ?_, ?_, ?_, ?_, ?_⟩
  · show validOpaque (messageIdV1 .workerToPlatform 2)
    decide
  · show validOpaque "worker"
    decide
  all_goals simp [reconnectFrame, MachineConfig.frame, config, auth]

theorem length_sign (key message : Bytes) : (sign key message).length = 64 := by
  simp [sign, (checksum _).2]

theorem beginGuard_ready {machine} (h : (ready 1 {}).SameConnection machine) :
    machine.BeginGuard (auth 2) := by
  have hbegin : (ready 1 {}).BeginGuard (auth 2) := by
    constructor <;> decide
  rw [h.machine_eq]
  exact { hbegin with }

theorem opening_ready {machine : ConformanceMachine} (hc : machine.config = config 2)
    (hu : machine.connection = .unattached) : machine.OpeningGuard negotiation ((config 2).acceptance 10) := by
  have hguard : ConformanceMachine.OpeningGuard { config := config 2 } negotiation ((config 2).acceptance 10) := by
    constructor <;> decide
  exact hguard.of_config hc hu

theorem verify_redial {worker} (hw : (ready 1 {}).SameConnection worker) (hs : worker.Sound)
    (hp : worker.attempt.pendingWorkerTerminal = none) :
    verifyReconnectV1 (auth 2) (reconnectFrame 2 (redial worker)) (redial worker) := by
  have hgeneration : worker.config.auth.connectionGeneration = 1 := by rw [hw.machine_eq]; rfl
  have hnegotiation : negotiation.Valid := by decide
  have hpending : worker.pendingTerminalForSnapshot = none := by
    simp only [pendingTerminalForSnapshot, hp, Option.map_none]
  have hauth : (auth 2).Valid := by decide
  have hwatermarks : worker.currentWatermarks.Valid := hs.acks
  have hclaim : (redial worker).Valid := by
    refine ⟨?_, hnegotiation, hwatermarks, hs.currentAttemptSummary_valid, ?_, length_sign _ _⟩
    · show worker.config.auth.connectionGeneration ≠ 0
      omega
    · intro pending hmem
      rw [show (redial worker).pendingTerminalReplay = none from hpending] at hmem
      cases hmem
  have htranscript : ∃ encoded, reconnectTranscriptV1 (auth 2) (reconnectFrame 2 (claimOf worker)) (claimOf worker) =
      some encoded := by
    refine ⟨_, if_pos ⟨⟨hauth, reconnectFrame_common _, rfl, rfl, rfl, rfl⟩, ?_, hnegotiation, rfl⟩⟩
    show worker.config.auth.connectionGeneration ≠ 0
    omega
  obtain ⟨encoded, hencoded⟩ := htranscript
  refine ⟨⟨reconnectFrame_common _, hclaim⟩, encoded, (reconnectTranscriptV1_signature _ _).trans hencoded, ?_⟩
  simp only [redial, hencoded, Option.getD_some]
  exact verify_sign _ _

theorem redial_ready {platform worker : ConformanceMachine} (hp : (ready 1 {}).SameConnection platform)
    (hw : (ready 1 {}).SameConnection worker) (hs : worker.Sound)
    (hpending : worker.attempt.pendingWorkerTerminal = none) :
    Redial platform worker (auth 2) (redial worker) 10 (platform.reconnected (auth 2)) (worker.reconnected (auth 2)) := by
  have hconfig : (worker.reconnected (auth 2)).config = config 2 := by
    rw [hw.machine_eq]
    rfl
  refine ⟨beginReconnect_ok.2 ⟨beginGuard_ready hp, rfl⟩, beginReconnect_ok.2 ⟨beginGuard_ready hw, rfl⟩,
    ⟨claimOf worker, ?_, rfl⟩, ?_, ?_, ?_⟩
  · have hvalid := hs.cutRecord_valid
    have hnegotiation : negotiation.Valid := by decide
    rw [reconnectRecord_reconnected hpending, buildReconnectV1, if_neg]
    · simp [cutRecord, sealReconnectSnapshot, redial, claimOf, pendingTerminalForSnapshot, hpending]
    · simp only [hvalid, not_true, false_or, not_not]
      exact hnegotiation
  · rw [hw.machine_eq]
    rfl
  · rw [hconfig, ← List.append_nil ((config 2).openingFrames _)]
    exact ⟨_, (hconfig ▸ acceptAll_opening rfl rfl).2 ⟨opening_ready hconfig rfl, acceptAll_nil.2 rfl⟩⟩
  · rw [hconfig]
    exact verify_redial hw hs hpending

theorem settled_ready : (ready 1 {}).Settled :=
  ⟨⟨.inl rfl, fun _ => rfl⟩, AttemptRecord.regular_empty⟩

theorem redial_of_play {actions connection} (hactions : ∀ action ∈ actions, action.IsAttempt)
    (h : Connection.play 10 (.initial (ready 1 {})) actions = some connection) :
    Relation.ReflTransGen Connection.AttemptStep (.initial (ready 1 {})) connection ∧
      Redial connection.platform connection.worker (auth 2) (redial connection.worker) 10
        (connection.platform.reconnected (auth 2)) (connection.worker.reconnected (auth 2)) := by
  have run := Connection.attemptRun_of_play hactions (fun _ hmem => absurd hmem List.not_mem_nil)
    (fun _ hmem => absurd hmem List.not_mem_nil) h
  have hparted := Connection.parted_run settled_ready run
  have hsound := Connection.sound_run (sound_ready Nat.one_ne_zero) run
  exact ⟨run, redial_ready hparted.platform hparted.worker hsound.2 hparted.apart.2.2.pending⟩

def manifestFrame (manifest : ManifestV1) : FrameV1 := (config 2).frame .workerToPlatform 3 2 (.manifest manifest)

def signedManifest : ManifestV1 :=
  let unsigned : ManifestV1 := { manifest := manifest, digest := capabilityDigest, signature := [] }
  { unsigned with
    signature := sign (auth 2).identityPublicKey
      ((manifestTranscriptV1 (auth 2) (manifestFrame unsigned) unsigned).getD []) }

theorem verify_signedManifest : verifyManifestV1 (auth 2) (manifestFrame signedManifest) signedManifest := by
  decide +kernel

theorem accept_signedManifest (machine : ConformanceMachine) (hc : machine.connection = .attached)
    (hconfig : machine.config = config 2) (hd : machine.capabilityDigest = capabilityDigest)
    (hp : machine.platform.sequence = 2) (hw : machine.worker.sequence = 2 ∧ machine.worker.ack = 1) :
    ∃ machine', machine.accept .workerToPlatform (manifestFrame signedManifest) ((config 2).acceptance 10) =
      .ok () machine' := by
  have hauth : machine.config.auth = auth 2 := by rw [hconfig]; rfl
  have hsequence : (manifestFrame signedManifest).sequence = 3 := rfl
  have hack : (manifestFrame signedManifest).ack = 2 := rfl
  have hverified := verify_signedManifest
  have hfresh : machine.Fresh .workerToPlatform (manifestFrame signedManifest) ((config 2).acceptance 10) := by
    refine ⟨⟨?_, ?_, by decide, hverified.1, ?_, ?_, ?_, ?_⟩, rfl, ?_, ?_, ?_, ?_⟩
    · rw [hauth]
      decide
    all_goals first | (rw [hauth]; rfl) | simp [sender, peer, hw, hp, hsequence, hack, maxUint64]
  have hguard : machine.ManifestGuard .workerToPlatform (manifestFrame signedManifest) signedManifest := by
    refine ⟨rfl, hc, hd.symm, ?_, ?_, ?_, ?_⟩
    · rw [hauth]
      rfl
    · rw [hauth]
      rfl
    · rw [hconfig]
      rfl
    · rw [hauth]
      exact hverified
  have hnext : (manifestFrame signedManifest).sequence ≠ (machine.sender .workerToPlatform).sequence := by
    simp [sender, hw, hsequence]
  exact ⟨_, (accept_next hnext).2 ⟨hfresh, _, acceptManifest_ok.2 ⟨hguard, rfl⟩, rfl⟩⟩

theorem resumes_ready {machine final reconnect accepted}
    (hm : (ready 1 {}).SameConnection machine) (hd : reconnect.capabilityDigest = capabilityDigest)
    (h : (machine.reconnected (auth 2)).acceptAll ((machine.reconnected (auth 2)).config.acceptance 10)
      ((machine.reconnected (auth 2)).config.redialFrames reconnect accepted) = .ok final) :
    ∃ resumed, Resumes machine (auth 2) reconnect accepted signedManifest 10 resumed := by
  have hconfig : (machine.reconnected (auth 2)).config = config 2 := by
    rw [hm.machine_eq]
    rfl
  have hall := h
  rw [← List.append_nil ((machine.reconnected (auth 2)).config.redialFrames _ _)] at hall
  obtain ⟨attempt, -, hfinal⟩ := acceptAll_redialFrames rfl rfl hall
  cases acceptAll_nil.1 hfinal
  obtain ⟨resumed, hresumed⟩ := accept_signedManifest
    (redialed (machine.reconnected (auth 2)) reconnect accepted attempt) rfl hconfig hd rfl ⟨rfl, rfl⟩
  refine ⟨resumed, _, beginReconnect_ok.2 ⟨beginGuard_ready hm, rfl⟩, acceptAll_append.2 ⟨_, h, ?_⟩⟩
  rw [hconfig]
  exact acceptAll_cons.2 ⟨_, hresumed, acceptAll_nil.2 rfl⟩

theorem completed_of_play {actions connection} (hactions : ∀ action ∈ actions, action.IsAttempt)
    (h : Connection.play 10 (.initial (ready 1 {})) actions = some connection)
    (hr : Recoverable connection.platform.attempt connection.worker.attempt) :
    ∃ accepted platform' worker', Completed connection.platform connection.worker (auth 2) (redial connection.worker)
        accepted signedManifest 10 platform' worker' ∧
      accepted.replayPlan.platformAttemptAfter = connection.worker.attempt.platform.sequence := by
  obtain ⟨run, hredial⟩ := redial_of_play hactions h
  have hapart := Connection.cutApart_run (sound_ready Nat.one_ne_zero) settled_ready run
  have hparted := Connection.parted_run settled_ready run
  obtain ⟨-, accepted, hbuild, platform', worker', hplatform, hworker, -⟩ := (reconciled_iff hapart hredial).2 hr
  have hcapability : (redial connection.worker).capabilityDigest = capabilityDigest := rfl
  obtain ⟨platform'', hp⟩ := resumes_ready hparted.platform hcapability hplatform
  obtain ⟨worker'', hw⟩ := resumes_ready hparted.worker hcapability hworker
  have hplan : accepted.replayPlan.platformAttemptAfter = connection.worker.attempt.platform.sequence :=
    platformAttemptAfter_of_build (reconnectRecord_reconnected hapart.workerRegular.pending ▸ hbuild)
  rw [← hredial.claim_eq] at hbuild
  exact ⟨accepted, platform'', worker'', ⟨hapart.config_eq, ⟨_, hredial.platform, hbuild⟩, hp, hw⟩, hplan⟩

end

end Sessionless.Protocol.Reference
