import Sessionless.Protocol.Lemmas.RoundTrip

/-!
# Handshakes

What the frames of a handshake do to a machine with empty envelopes.
-/

namespace Sessionless.Protocol

variable [Crypto]

namespace ConformanceMachine

variable {machine machine' : ConformanceMachine} {direction : Direction} {acceptance : AcceptanceContextV1}

/-! ## Frames in sequence -/

theorem acceptAll_nil : machine.acceptAll acceptance [] = .ok machine' ↔ machine = machine' := by
  simp [acceptAll]

theorem acceptAll_cons {frame rest} :
    machine.acceptAll acceptance ((direction, frame) :: rest) = .ok machine' ↔
      ∃ next, machine.accept direction frame acceptance = .ok () next ∧
        next.acceptAll acceptance rest = .ok machine' := by
  simp only [acceptAll]
  cases machine.accept direction frame acceptance with
  | error code m | ok _ m => simp

theorem acceptAll_append {frames rest} :
    machine.acceptAll acceptance (frames ++ rest) = .ok machine' ↔
      ∃ next, machine.acceptAll acceptance frames = .ok next ∧ next.acceptAll acceptance rest = .ok machine' := by
  induction frames generalizing machine with
  | nil => simp [acceptAll]
  | cons head others ih =>
    obtain ⟨direction, frame⟩ := head
    simp only [List.cons_append, acceptAll_cons, ih]
    constructor
    · rintro ⟨first, hfirst, next, hnext, hrest⟩
      exact ⟨next, ⟨first, hfirst, hnext⟩, hrest⟩
    · rintro ⟨next, ⟨first, hfirst, hnext⟩, hrest⟩
      exact ⟨first, hfirst, next, hnext, hrest⟩

theorem accept_next {frame} (hs : frame.sequence ≠ (machine.sender direction).sequence) :
    machine.accept direction frame acceptance = .ok () machine' ↔
      machine.Fresh direction frame acceptance ∧
        ∃ applied, machine.apply direction frame acceptance.nowUnixMicro = .ok () applied ∧
          applied.setSender direction (envelope frame) = machine' := by
  simp [accept_ok, hs]

/-! ## Hello and Challenge -/

/-- The machine after `Hello` and `Challenge`. -/
def opened (machine : ConformanceMachine) (negotiation : NegotiationV1) : ConformanceMachine :=
  { machine with
    hello := negotiation.hello
    challenge := negotiation.challenge
    connection := .challenged
    worker := envelope (machine.config.frame .workerToPlatform 1 0 (.hello negotiation.hello))
    platform := envelope (machine.config.frame .platformToWorker 1 1 (.challenge negotiation.challenge)) }

/-- What `Hello` and `Challenge` ask of a machine whose envelopes are empty. -/
structure OpeningGuard (machine : ConformanceMachine) (negotiation : NegotiationV1)
    (acceptance : AcceptanceContextV1) : Prop where
  hello : machine.Authorized (machine.config.frame .workerToPlatform 1 0 (.hello negotiation.hello)) acceptance
  challenge :
    machine.Authorized (machine.config.frame .platformToWorker 1 1 (.challenge negotiation.challenge)) acceptance
  unattached : machine.connection = .unattached
  offer_eq : negotiation.workerOffer = machine.config.workerOffer
  platformOffer_eq : negotiation.platformOffer = machine.config.platformOffer
  negotiated : negotiateOffers negotiation.workerOffer negotiation.platformOffer machine.config.implementedVersions =
    some negotiation.selectedVersion
  version_eq : negotiation.selectedVersion = machine.config.auth.version

theorem acceptAll_opening {negotiation rest} (hp : machine.platform = {}) (hw : machine.worker = {}) :
    machine.acceptAll acceptance (machine.config.openingFrames negotiation ++ rest) = .ok machine' ↔
      machine.OpeningGuard negotiation acceptance ∧
        (machine.opened negotiation).acceptAll acceptance rest = .ok machine' := by
  simp only [MachineConfig.openingFrames, List.cons_append, List.nil_append, acceptAll_cons]
  constructor
  · rintro ⟨m₁, h₁, m₂, h₂, h⟩
    obtain ⟨f₁, _, ha₁, rfl⟩ := (accept_next (by simp [MachineConfig.frame, sender, hw])).1 h₁
    obtain ⟨⟨-, hu, ho⟩, rfl⟩ := acceptHello_ok.1 ha₁
    obtain ⟨f₂, _, ha₂, rfl⟩ := (accept_next (by simp [MachineConfig.frame, sender, setSender, hp])).1 h₂
    obtain ⟨⟨-, -, -, hpo, -⟩, ⟨hn, hv⟩, rfl⟩ := acceptChallenge_ok.1 ha₂
    exact ⟨⟨f₁.authorized, f₂.authorized, hu, ho, hpo, hn, hv⟩, h⟩
  · rintro ⟨g, h⟩
    refine ⟨_, (accept_next (by simp [MachineConfig.frame, sender, hw])).2 ⟨⟨g.hello, rfl, ?_, ?_, ?_, ?_⟩, _,
      acceptHello_ok.2 ⟨⟨rfl, g.unattached, g.offer_eq⟩, rfl⟩, rfl⟩, _,
      (accept_next (by simp [MachineConfig.frame, sender, setSender, hp])).2 ⟨⟨g.challenge, rfl, ?_, ?_, ?_, ?_⟩, _,
      acceptChallenge_ok.2 ⟨⟨rfl, rfl, rfl, g.platformOffer_eq, rfl⟩, ⟨g.negotiated, g.version_eq⟩, rfl⟩, rfl⟩, h⟩
    all_goals simp [MachineConfig.frame, sender, peer, setSender, envelope, hp, hw, maxUint64]

/-! ## Reconnect and ReconnectAccepted -/

/-- The machine after a signed `Reconnect`. -/
def reconnectPended (machine : ConformanceMachine) (signed : FrameV1) (reconnect : ReconnectV1) : ConformanceMachine :=
  { machine with
    capabilityDigest := reconnect.capabilityDigest
    reconnectClaim := reconnect.claim
    connection := .reconnectPending
    worker := envelope signed }

theorem acceptReconnectAccepted_attempt {accepted}
    (h : machine.acceptReconnectAccepted direction accepted = .ok () machine') :
    ∃ attempt, machine' = { machine with attempt := attempt, connection := .attached } := by
  obtain ⟨-, -, -, -, installed, hi, rfl⟩ := acceptReconnectAccepted_ok h
  obtain ⟨pending, rfl, -⟩ := installReplayCommitment_ok hi
  refine ⟨((machine.setPending pending).applyAttemptSummary accepted.authoritativeAttempt).applyDiscardTombstone.attempt,
    ?_⟩
  unfold applyDiscardTombstone
  split
  · split <;> rfl
  · rfl

/-- A signed `Reconnect` answered by the second platform envelope was not a duplicate: only
a machine that took the claim has an answer to accept. -/
theorem accept_reconnect_accepted {signed accepted reconnect payload pended final} (hc : machine.connection = .challenged)
    (hps : machine.platform.sequence = 1) (hs : signed.payload = .reconnect reconnect)
    (ha : accepted.payload = .reconnectAccepted payload) (haseq : accepted.sequence = 2)
    (h₁ : machine.accept .workerToPlatform signed acceptance = .ok () pended)
    (h₂ : pended.accept .platformToWorker accepted acceptance = .ok () final) :
    machine.Fresh .workerToPlatform signed acceptance ∧ machine.ReconnectGuard .workerToPlatform signed reconnect ∧
      pended = machine.reconnectPended signed reconnect ∧ pended.Fresh .platformToWorker accepted acceptance ∧
      ∃ applied, (machine.reconnectPended signed reconnect).acceptReconnectAccepted .platformToWorker payload =
          .ok () applied ∧ final = applied.setSender .platformToWorker (envelope accepted) := by
  have hnext : pended.platform.sequence = 1 → pended.Fresh .platformToWorker accepted acceptance ∧
      ∃ applied, pended.acceptReconnectAccepted .platformToWorker payload = .ok () applied ∧
        applied.setSender .platformToWorker (envelope accepted) = final := by
    intro hp
    have hne : accepted.sequence ≠ (pended.sender .platformToWorker).sequence := by simp [sender, hp, haseq]
    obtain ⟨hf, applied, happ, hfin⟩ := (accept_next hne).1 h₂
    simp only [apply, ha] at happ
    exact ⟨hf, applied, happ, hfin⟩
  rcases accept_ok.1 h₁ with ⟨-, -, -, -, -, rfl⟩ | ⟨hf, applied, happ, rfl⟩
  · obtain ⟨-, applied, happ, -⟩ := hnext hps
    have := (acceptReconnectAccepted_ok happ).2.1
    rw [hc] at this
    cases this
  · simp only [apply, hs] at happ
    obtain ⟨hg, rfl⟩ := acceptReconnect_ok.1 happ
    obtain ⟨hf', applied', happ', hfin⟩ := hnext hps
    exact ⟨hf, hg, rfl, hf', applied', happ', hfin.symm⟩

end ConformanceMachine

end Sessionless.Protocol
