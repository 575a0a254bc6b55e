import Sessionless.Protocol.Lemmas.Refusal
import Sessionless.Protocol.Reference

/-!
# Refusals and repeated deliveries

A transport that delivers at least once hands a machine some frames again. A run is played
twice, with and without such repetitions: every original call gets the same verdict, and
both runs end in the same machine.
-/

namespace Sessionless.Protocol

open Lib

section

variable [Crypto]

structure Delivery where
  frame : FrameV1
  acceptance : AcceptanceContextV1

/-- The latest accepted frame of each direction on the current connection. -/
abbrev Latest := Direction → Option Delivery

/-- A call of a run: one of its own operations, or a frame that is delivered again. -/
inductive Call
  | original (operation : Operation)
  | redelivery (direction : Direction) (delivery : Delivery)

def Call.operation : Call → Operation
  | .original operation => operation
  | .redelivery direction delivery => .accept direction delivery.frame delivery.acceptance

def originals : List Call → List Operation
  | [] => []
  | .original operation :: rest => operation :: originals rest
  | .redelivery _ _ :: rest => originals rest

/-- The same bytes over the same channel, no earlier than before. -/
structure Delivery.Repeats (delivery accepted : Delivery) : Prop where
  frame_eq : delivery.frame = accepted.frame
  channel_eq : delivery.acceptance.channelBinding = accepted.acceptance.channelBinding
  later : accepted.acceptance.nowUnixMicro ≤ delivery.acceptance.nowUnixMicro

namespace ConformanceMachine

variable {machine machine' : ConformanceMachine} {direction : Direction} {latest : Latest}

/-- A new connection has accepted nothing yet. -/
def remember (latest : Latest) (machine : ConformanceMachine) (operation : Operation) : Latest :=
  match operation, machine.perform operation with
  | .accept direction frame acceptance, .ok _ _ => Function.update latest direction (some ⟨frame, acceptance⟩)
  | .beginReconnect _, .ok _ _ => fun _ => none
  | _, _ => latest

/-- Every repetition in a run repeats the latest accepted frame of its direction. -/
def Redelivers (latest : Latest) (machine : ConformanceMachine) : List Call → Prop
  | [] => True
  | .original operation :: rest =>
    Redelivers (remember latest machine operation) (after (machine.perform operation)) rest
  | .redelivery direction delivery :: rest =>
    (∃ accepted ∈ latest direction, delivery.Repeats accepted) ∧
      Redelivers latest (after (machine.perform (Call.redelivery direction delivery).operation)) rest

/-- The verdicts of the original calls of a run, and the machine it ends in. -/
def play (machine : ConformanceMachine) : List Call → List (Option ErrorCode) × ConformanceMachine
  | [] => ([], machine)
  | .original operation :: rest =>
    let verdict := machine.perform operation
    let played := (after verdict).play rest
    (verdictCode verdict :: played.1, played.2)
  | .redelivery direction delivery :: rest =>
    (after (machine.perform (Call.redelivery direction delivery).operation)).play rest

/-! ## What is remembered -/

structure Took (machine : ConformanceMachine) (direction : Direction) (delivery : Delivery) : Prop where
  authorized : machine.Authorized delivery.frame delivery.acceptance
  messageId_eq : delivery.frame.messageId = messageIdV1 direction delivery.frame.sequence
  sequence_eq : delivery.frame.sequence = (machine.sender direction).sequence
  started : (machine.sender direction).sequence ≠ 0
  fingerprint_eq : (machine.sender direction).fingerprint = frameFingerprint delivery.frame

def Remembers (machine : ConformanceMachine) (latest : Latest) : Prop :=
  ∀ direction, ∀ delivery ∈ latest direction, machine.Took direction delivery

theorem Took.accept {delivery repeated : Delivery} (h : machine.Took direction delivery)
    (hrepeats : repeated.Repeats delivery) :
    machine.accept direction repeated.frame repeated.acceptance = .ok () machine := by
  obtain ⟨hvalid, hchannel, htime, hframe⟩ := h.authorized
  have hauthorized : machine.Authorized repeated.frame repeated.acceptance := by
    rw [hrepeats.frame_eq]
    exact ⟨hvalid, hrepeats.channel_eq.trans hchannel, Int.lt_of_lt_of_le htime hrepeats.later, hframe⟩
  apply accept_ok.2
  rw [hrepeats.frame_eq] at hauthorized ⊢
  exact .inl ⟨hauthorized, h.messageId_eq, h.sequence_eq, h.started, h.fingerprint_eq, rfl⟩

theorem Took.kept {delivery} (h : machine.Took direction delivery) (hc : machine'.config = machine.config)
    (hs : machine'.sender direction = machine.sender direction) : machine'.Took direction delivery := by
  refine ⟨?_, h.messageId_eq, ?_, ?_, ?_⟩
  · have hauthorized := h.authorized
    simp only [Authorized] at hauthorized ⊢
    rw [hc]
    exact hauthorized
  · rw [hs]
    exact h.sequence_eq
  · rw [hs]
    exact h.started
  · rw [hs]
    exact h.fingerprint_eq

theorem apply_sender {frame now} (ha : machine.apply direction frame now = .ok () machine')
    (other : Direction) : machine'.sender other = machine.sender other := by
  obtain ⟨hplatform, hworker, -⟩ := apply_kept ha
  cases other with
  | platformToWorker => exact hplatform
  | workerToPlatform => exact hworker

theorem sender_setSender (state : SequenceState) : (machine.setSender direction state).sender direction = state := by
  cases direction with
  | platformToWorker | workerToPlatform => rfl

theorem sender_setSender_of_ne {other} (h : other ≠ direction) (state : SequenceState) :
    (machine.setSender direction state).sender other = machine.sender other := by
  cases direction with
  | platformToWorker =>
    cases other with
    | platformToWorker => exact absurd rfl h
    | workerToPlatform => rfl
  | workerToPlatform =>
    cases other with
    | platformToWorker => rfl
    | workerToPlatform => exact absurd rfl h

theorem took_of_accept {frame acceptance} (ha : machine.accept direction frame acceptance = .ok () machine') :
    machine'.Took direction ⟨frame, acceptance⟩ ∧ machine'.config = machine.config ∧
      ∀ other, other ≠ direction → machine'.sender other = machine.sender other := by
  rcases accept_ok.1 ha with ⟨h1, h2, h3, h4, h5, rfl⟩ | ⟨hf, applied, happ, rfl⟩
  · exact ⟨⟨h1, h2, h3, h4, h5⟩, rfl, fun _ _ => rfl⟩
  · obtain ⟨-, -, hconfig⟩ := apply_kept happ
    have hc : (applied.setSender direction (envelope frame)).config = machine.config :=
      (config_setSender _).trans hconfig
    refine ⟨⟨?_, hf.messageId_eq, ?_, ?_, ?_⟩, hc, ?_⟩
    · have hauthorized := hf.authorized
      simp only [Authorized] at hauthorized ⊢
      rw [hc]
      exact hauthorized
    · rw [sender_setSender]
      rfl
    · rw [sender_setSender]
      show frame.sequence ≠ 0
      rw [hf.sequence_eq]
      omega
    · rw [sender_setSender]
      rfl
    · intro other hne
      rw [sender_setSender_of_ne hne]
      exact apply_sender happ other

/-! ## One call -/

theorem Remembers.perform (h : machine.Remembers latest) (operation : Operation) :
    (after (machine.perform operation)).Remembers (remember latest machine operation) := by
  cases hv : machine.perform operation with
  | error code next =>
    have hkeeps := perform_keeps operation code next hv
    subst hkeeps
    cases operation with
    | accept direction frame acceptance =>
      simp only [remember, hv]
      exact h
    | beginReconnect next =>
      simp only [remember, hv]
      exact h
    | eraseCommittedAttempt =>
      simp only [remember]
      exact h
  | ok _ next =>
    cases operation with
    | accept direction frame acceptance =>
      simp only [remember, hv]
      obtain ⟨htook, hconfig, hothers⟩ := took_of_accept hv
      intro other delivery hmem
      by_cases hd : other = direction
      · subst hd
        rw [Function.update_self] at hmem
        cases hmem
        exact htook
      · rw [Function.update_of_ne hd] at hmem
        exact (h other delivery hmem).kept hconfig (hothers other hd)
    | beginReconnect auth =>
      simp only [remember, hv]
      intro direction delivery hmem
      exact absurd hmem (Option.not_mem_none _)
    | eraseCommittedAttempt =>
      simp only [remember]
      obtain ⟨-, rfl⟩ := eraseCommittedAttempt_ok.1 hv
      intro direction delivery hmem
      refine (h direction delivery hmem).kept rfl ?_
      cases direction with
      | platformToWorker => rfl
      | workerToPlatform => rfl

/-! ## Whole runs -/

theorem Remembers.play (h : machine.Remembers latest) {calls} (hr : machine.Redelivers latest calls) :
    machine.play calls = machine.play ((originals calls).map .original) := by
  induction calls generalizing machine latest with
  | nil => rfl
  | cons call rest ih =>
    cases call with
    | original operation =>
      have hrest := ih (h.perform operation) hr
      simp only [ConformanceMachine.play, originals, List.map_cons, hrest]
    | redelivery direction delivery =>
      obtain ⟨⟨accepted, hmem, hrepeats⟩, hrest⟩ := hr
      have habsorbed : machine.perform (Call.redelivery direction delivery).operation = .ok () machine :=
        (h direction accepted hmem).accept hrepeats
      rw [habsorbed] at hrest
      simp only [ConformanceMachine.play, originals, habsorbed]
      exact ih h hrest

end ConformanceMachine

/-- A refused frame leaves every field of the machine as it was. In a run that starts anywhere,
frames may be delivered again after they were accepted, as often and as late as may be: the
original calls get the same verdicts, and the run ends in the same machine. -/
theorem refusal_atomic_and_redelivery_absorbed (machine : ConformanceMachine) :
    (∀ direction frame acceptance code machine',
      machine.accept direction frame acceptance = .error code machine' → machine' = machine) ∧
    ∀ calls, machine.Redelivers (fun _ => none) calls →
      machine.play calls = machine.play ((originals calls).map .original) := by
  constructor
  · intro direction frame acceptance code machine' h
    exact ConformanceMachine.perform_keeps (.accept direction frame acceptance) code machine' h
  · intro calls hr
    have hremembers : machine.Remembers (fun _ => none) :=
      fun direction delivery hmem => absurd hmem (Option.not_mem_none _)
    exact hremembers.play hr

end

section

open Reference

def helloAt (time : Int) : Delivery :=
  ⟨(config 1).frame .workerToPlatform 1 0 (.hello negotiation.hello), (config 1).acceptance time⟩

def challengeAt (time : Int) : Delivery :=
  ⟨(config 1).frame .platformToWorker 1 1 (.challenge negotiation.challenge), (config 1).acceptance time⟩

/-- The opening of the reference worker, both of its frames delivered again after the other one. -/
def repeatedOpening : List Call :=
  [.original (.accept .workerToPlatform (helloAt 1).frame (helloAt 1).acceptance),
    .redelivery .workerToPlatform (helloAt 5),
    .original (.accept .platformToWorker (challengeAt 6).frame (challengeAt 6).acceptance),
    .redelivery .workerToPlatform (helloAt 7),
    .redelivery .platformToWorker (challengeAt 8)]

theorem refusal_atomic_and_redelivery_absorbed_opening :
    ConformanceMachine.Redelivers (fun _ => none) { config := config 1 } repeatedOpening ∧
      ConformanceMachine.play { config := config 1 } repeatedOpening =
        ConformanceMachine.play { config := config 1 } ((originals repeatedOpening).map .original) := by
  have hrun : ranAnd (ConformanceMachine.perform { config := config 1 } (.accept .workerToPlatform (helloAt 1).frame
      (helloAt 1).acceptance)) (fun machine => ranAnd (machine.perform (.accept .platformToWorker (challengeAt 6).frame
        (challengeAt 6).acceptance)) fun _ => true) = true := by decide +kernel
  obtain ⟨_, greeted, hgreeted, hrun⟩ := exists_of_ranAnd hrun
  obtain ⟨_, challenged, hchallenged, -⟩ := exists_of_ranAnd hrun
  obtain ⟨htook, -, -⟩ := ConformanceMachine.took_of_accept hgreeted
  have hgreeted' : greeted.perform (.accept .workerToPlatform (helloAt 5).frame (helloAt 5).acceptance) =
      .ok () greeted := htook.accept ⟨rfl, rfl, by decide⟩
  have hredelivers : ConformanceMachine.Redelivers (fun _ => none) { config := config 1 } repeatedOpening := by
    simp only [repeatedOpening, ConformanceMachine.Redelivers, Call.operation, ConformanceMachine.remember, hgreeted,
      ConformanceMachine.after, hgreeted', hchallenged, and_true]
    have hhello : ∀ time : Int, 1 ≤ time → (helloAt time).Repeats (helloAt 1) := fun time h => ⟨rfl, rfl, h⟩
    have hchallenge : (challengeAt 8).Repeats (challengeAt 6) := ⟨rfl, rfl, by decide⟩
    exact ⟨⟨_, by simp [helloAt], hhello 5 (by decide)⟩, ⟨_, by simp [helloAt], hhello 7 (by decide)⟩,
      ⟨_, by simp [challengeAt], hchallenge⟩⟩
  exact ⟨hredelivers, (refusal_atomic_and_redelivery_absorbed _).2 _ hredelivers⟩

end

end Sessionless.Protocol
