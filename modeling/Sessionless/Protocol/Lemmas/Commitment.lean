import Sessionless.Protocol.Lemmas.Platform

/-!
# What the log says about the attempt

The stored attempt is traced by the messages taken in since it was last idle: how far the
lease got, whether it was cancelled and which terminal it holds.
-/

namespace Sessionless.Protocol

/-- Messages of these kinds were taken in for a binding, the last one first. -/
def Taken (kinds : List MessageKind) (binding : AttemptBindingV1) (history : List (AttemptMessage × Int)) : Prop :=
  ∃ taken, List.Sublist taken history ∧ taken.map (fun entry => entry.1.kind) = kinds ∧
    ∀ entry ∈ taken, entry.1.binding = binding

namespace Taken

variable {kinds : List MessageKind} {binding : AttemptBindingV1} {history : List (AttemptMessage × Int)}

theorem nil : Taken [] binding history := ⟨[], List.nil_sublist _, rfl, fun _ h => absurd h List.not_mem_nil⟩

theorem later (h : Taken kinds binding history) (entry : AttemptMessage × Int) : Taken kinds binding (entry :: history) := by
  obtain ⟨taken, hs, hk, hb⟩ := h
  exact ⟨taken, hs.cons entry, hk, hb⟩

theorem push (h : Taken kinds binding history) {entry} (hb : entry.1.binding = binding) :
    Taken (entry.1.kind :: kinds) binding (entry :: history) := by
  obtain ⟨taken, hs, hk, hall⟩ := h
  refine ⟨entry :: taken, hs.cons_cons entry, by rw [List.map_cons, hk], fun other ho => ?_⟩
  rcases List.mem_cons.1 ho with rfl | ho
  · exact hb
  · exact hall other ho

end Taken

/-- The terminal of a summary was taken in, before its lease expired. -/
def TerminalTaken (history : List (AttemptMessage × Int)) (summary : AttemptSummaryV1) : Prop :=
  ∃ terminal now, (.terminal terminal, now) ∈ history ∧ terminal.binding = summary.binding ∧
    now < summary.binding.expiresAtUnixMicro ∧ terminal.status = summary.terminalStatus ∧
    terminal.result = summary.terminalResult ∧ terminal.evidenceDigest = summary.terminalEvidenceDigest

theorem TerminalTaken.later {history summary}
    (h : TerminalTaken history summary) (entry : AttemptMessage × Int) : TerminalTaken (entry :: history) summary := by
  obtain ⟨terminal, now, hmem, hrest⟩ := h
  exact ⟨terminal, now, List.mem_cons_of_mem _ hmem, hrest⟩

variable [Crypto]

/-- The attempt record as the messages of its attempt explain it. -/
structure Traced (history : List (AttemptMessage × Int)) (attempt : AttemptRecord) (revoking : Prop) : Prop where
  offered : attempt.state = .offered → Taken [.leaseOffer] attempt.binding history
  claimPending : attempt.state = .claimPending → Taken [.leaseClaim, .leaseOffer] attempt.binding history
  claimed : attempt.state = .claimed → Taken [.leaseAccepted, .leaseClaim, .leaseOffer] attempt.binding history
  uncancelled : attempt.cancelRevision = 0 → ∀ entry ∈ history, entry.1.kind ≠ .cancel
  cancelled : attempt.cancelRevision ≠ 0 → Taken [.cancel] attempt.binding history ∨ revoking
  requested : attempt.state = .cancelRequested ∨ attempt.state = .cancelAcked ∨ attempt.state = .fenced →
    attempt.cancelRevision ≠ 0
  fenced : attempt.state = .fenced → attempt.cancelCode = .fenced
  settled : attempt.state = .terminalPending → attempt.terminalSequence ≠ 0
  terminal : attempt.terminalSequence ≠ 0 → TerminalTaken history attempt.content
  outcome : attempt.terminalSequence ≠ 0 → (attempt.cancelRevision = 0 ↔ attempt.terminalStatus ≠ .cancelled)
  leased : attempt.terminalSequence ≠ 0 → attempt.cancelRevision = 0 →
    Taken [.leaseAccepted, .leaseClaim, .leaseOffer] attempt.binding history

namespace Traced

variable {history : List (AttemptMessage × Int)} {attempt attempt' : AttemptRecord} {revoking revoking' : Prop}

theorem idle (hs : attempt.state = .idle) (hc : attempt.cancelRevision = 0) (ht : attempt.terminalSequence = 0) :
    Traced [] attempt revoking where
  offered h := by simp [hs] at h
  claimPending h := by simp [hs] at h
  claimed h := by simp [hs] at h
  uncancelled _ _ h := absurd h List.not_mem_nil
  cancelled h := absurd hc h
  requested h := by simp [hs] at h
  fenced h := by simp [hs] at h
  settled h := by simp [hs] at h
  terminal h := absurd ht h
  outcome h := absurd ht h
  leased h := absurd ht h

theorem of_core (h : Traced history attempt revoking) (hcore : attempt'.core = attempt.core)
    (hr : revoking → revoking') : Traced history attempt' revoking' := by
  have hcore' : attempt' = { attempt'.core with
      platform := attempt'.platform
      worker := attempt'.worker
      pendingWorkerTerminal := attempt'.pendingWorkerTerminal } := rfl
  rw [hcore', hcore]
  exact { h with cancelled := fun h0 => (h.cancelled h0).imp_right hr }

theorem later (h : Traced history attempt revoking) {message : AttemptMessage} (hk : message.kind ≠ .cancel) (now : Int) :
    Traced ((message, now) :: history) attempt revoking where
  offered h0 := (h.offered h0).later _
  claimPending h0 := (h.claimPending h0).later _
  claimed h0 := (h.claimed h0).later _
  uncancelled h0 entry he := by
    rcases List.mem_cons.1 he with rfl | he
    · exact hk
    · exact h.uncancelled h0 entry he
  cancelled h0 := (h.cancelled h0).imp_left fun ht => ht.later _
  requested := h.requested
  fenced := h.fenced
  settled := h.settled
  terminal h0 := (h.terminal h0).later _
  outcome := h.outcome
  leased h0 h1 := (h.leased h0 h1).later _

/-- What each state asks of the rest of the record. -/
def Explains (history : List (AttemptMessage × Int)) (attempt : AttemptRecord) : AttemptState → Prop
  | .offered => Taken [.leaseOffer] attempt.binding history
  | .claimPending => Taken [.leaseClaim, .leaseOffer] attempt.binding history
  | .claimed => Taken [.leaseAccepted, .leaseClaim, .leaseOffer] attempt.binding history
  | .cancelRequested | .cancelAcked => attempt.cancelRevision ≠ 0
  | .fenced => attempt.cancelRevision ≠ 0 ∧ attempt.cancelCode = .fenced
  | .terminalPending => attempt.terminalSequence ≠ 0
  | .idle | .terminalCommitted => True

theorem restate (h : Traced history attempt revoking) {state} (hs : Explains history attempt state) :
    Traced history { attempt with state := state } revoking :=
  { h with
    offered := by rintro rfl; exact hs
    claimPending := by rintro rfl; exact hs
    claimed := by rintro rfl; exact hs
    requested := by
      rintro (rfl | rfl | rfl)
      · exact hs
      · exact hs
      · exact hs.1
    fenced := by rintro rfl; exact hs.2
    settled := by rintro rfl; exact hs }

/-- A cancellation clears the outcome. -/
theorem cleared (hr : attempt.cancelRevision ≠ 0) (ht : attempt.terminalSequence = 0) (hs : Explains history attempt attempt.state)
    (hc : Taken [.cancel] attempt.binding history ∨ revoking) : Traced history attempt revoking := by
  have hidle : Traced history { attempt with state := .idle } revoking :=
    ⟨by simp, by simp, by simp, fun h0 => absurd h0 hr, fun _ => hc, by simp, by simp, by simp, fun h0 => absurd ht h0,
      fun h0 => absurd ht h0, fun h0 => absurd ht h0⟩
  exact hidle.restate hs

theorem fence (h : Traced history attempt revoking) (hr : revoking') :
    Traced history (ConformanceMachine.fenceAttempt attempt) revoking' := by
  unfold ConformanceMachine.fenceAttempt
  split
  · have hrevision : (if attempt.cancelRevision = 0 then 1 else attempt.cancelRevision) ≠ 0 := by
      split
      · simp
      · assumption
    exact cleared hrevision rfl ⟨hrevision, rfl⟩ (.inr hr)
  · exact { h with cancelled := fun _ => .inr hr }

end Traced

namespace ConformanceMachine

variable {machine : ConformanceMachine} {direction : Direction} {message : AttemptMessage} {now : Int}
  {history : List (AttemptMessage × Int)} {attempt : AttemptRecord}

theorem Moves.traced (hm : machine.Moves direction message attempt) (hg : machine.AttemptGuard direction message now)
    (h : Traced history machine.attempt machine.Revoking)
    (hidle : machine.attempt.state = .idle →
      history = [] ∧ machine.attempt.cancelRevision = 0 ∧ machine.attempt.terminalSequence = 0) :
    Traced ((message, now) :: history) attempt machine.Revoking := by
  have hl : message.kind ≠ .cancel → Traced ((message, now) :: history) machine.attempt machine.Revoking := (h.later · now)
  cases hm with
  | leaseOffer offer hc hs hq =>
    obtain ⟨rfl, hc0, ht0⟩ := hidle hs
    have hempty : Traced [] { machine.attempt with binding := offer.binding } machine.Revoking := Traced.idle hs hc0 ht0
    exact (hempty.later (by simp [AttemptMessage.kind]) now).restate (Taken.nil.push rfl)
  | leaseClaim claim hs =>
    exact (hl (by simp [AttemptMessage.kind])).restate ((h.offered hs).push (hg.binding_eq (by simp [hs])))
  | leaseAccepted accepted hs =>
    exact (hl (by simp [AttemptMessage.kind])).restate ((h.claimPending hs).push (hg.binding_eq (by simp [hs])))
  | progress progress hf hs hq => exact { hl (by simp [AttemptMessage.kind]) with }
  | cancel cancel hf hs hr =>
    have hb := hg.binding_eq (by rcases hs with hs | hs | hs | hs <;> simp [hs])
    have hrevision : cancel.cancelRevision ≠ 0 := by simp [hr]
    refine Traced.cleared hrevision rfl ?_ (.inl (Taken.nil.push hb))
    by_cases hcode : cancel.code = .fenced
    · simp only [hcode, if_true]
      exact ⟨hrevision, rfl⟩
    · simp only [hcode, if_false]
      exact hrevision
  | cancelAck ack hf hs hr =>
    by_cases hfenced : machine.attempt.state = .fenced
    · simp only [hfenced, ne_eq, not_true, if_false]
      exact hfenced ▸ hl (by simp [AttemptMessage.kind])
    · simp only [hfenced, ne_eq, not_false_eq_true, if_true]
      exact (hl (by simp [AttemptMessage.kind])).restate (h.requested (hs.imp_right .inr))
  | swallowed terminal hs hq h1 h2 h3 h4 => exact hl (by simp [AttemptMessage.kind])
  | terminal sent hs hq hcan =>
    have hb := hg.binding_eq (by rcases hs with hs | hs | hs | hs <;> simp [hs])
    have hlease : now < machine.attempt.binding.expiresAtUnixMicro := hb ▸ hg.lease rfl
    have hleased : machine.attempt.cancelRevision = 0 → machine.attempt.state = .claimed := by
      intro h0
      rcases hs with hs | hs | hs | hs
      · exact hs
      · exact absurd h0 (h.requested (.inl hs))
      · exact absurd h0 (h.requested (.inr (.inl hs)))
      · exact absurd h0 (h.requested (.inr (.inr hs)))
    have hsent : Traced ((.terminal sent, now) :: history) { machine.attempt with
        terminalSequence := sent.terminalSequence, terminalStatus := sent.status, terminalResult := sent.result
        terminalEvidence := sent.evidenceDigest } machine.Revoking :=
      { hl (by simp [AttemptMessage.kind]) with
        settled := fun _ => by simp [hq]
        terminal := fun _ => ⟨sent, now, List.mem_cons_self, hb, hlease, rfl, rfl, rfl⟩
        outcome := fun _ => hcan
        leased := fun _ h0 => (h.claimed (hleased h0)).later _ }
    split
    · exact hsent.restate (by simp [Traced.Explains, hq])
    · exact hsent
  | terminalAck ack hs => exact (hl (by simp [AttemptMessage.kind])).restate trivial

theorem Moves.committed (h : machine.Moves direction message attempt) (hs : attempt.state = .terminalCommitted) :
    machine.attempt.state = .terminalPending ∧ ¬ machine.Revoking ∧
      attempt = { machine.attempt with state := .terminalCommitted } := by
  cases h with
  | leaseOffer offer | leaseClaim claim | leaseAccepted accepted => cases hs
  | progress progress hf hs' => rcases hs' with hs' | hs' | hs' <;> simp [hs'] at hs
  | cancel cancel => simp only at hs; split at hs <;> cases hs
  | cancelAck ack hf hs' => rcases hs' with hs' | hs' <;> simp [hs'] at hs
  | swallowed terminal hs' => rcases hs' with hs' | hs' | hs' | hs' <;> simp [hs'] at hs
  | terminal terminal hs' =>
    simp only at hs
    split at hs
    · cases hs
    · rcases hs' with hs' | hs' | hs' | hs' <;> simp [hs'] at hs
  | terminalAck ack hs' hr => exact ⟨hs', hr, rfl⟩

theorem Moves.not_committed (h : machine.Moves direction message attempt) :
    machine.attempt.state ≠ .terminalCommitted := by
  intro hs
  cases h with
  | leaseOffer offer hc hs' | leaseClaim claim hs' | leaseAccepted accepted hs' | progress progress hf hs'
  | cancel cancel hf hs' | cancelAck ack hf hs' | swallowed terminal hs' | terminal terminal hs'
  | terminalAck ack hs' => simp [hs] at hs'

theorem Moves.fenced (h : machine.Moves direction message attempt) (hs : machine.attempt.state = .fenced)
    (hcode : machine.attempt.cancelCode = .fenced) : attempt.state = .fenced := by
  cases h with
  | leaseOffer offer hc hs' | leaseClaim claim hs' | leaseAccepted accepted hs' | progress progress hf hs'
  | cancel cancel hf hs' => simp [hs] at hs'
  | cancelAck ack hf hs' => simp [hs]
  | swallowed terminal hs' => exact hs
  | terminal terminal hs' => simp [hs, hcode]
  | terminalAck ack hs' => simp [hs] at hs'

end ConformanceMachine

/-! ## Runs -/

theorem currentAttempt_cons (entry : Entry) (log : List Entry) : currentAttempt (entry :: log) =
    if entry.after.attempt.state = .idle then [] else entry :: currentAttempt log := by
  by_cases hs : entry.after.attempt.state = .idle <;> simp [currentAttempt, hs]

theorem messages_cons (entry : Entry) (log : List Entry) : messages (entry :: log) =
    match entry.message with
    | some message => message :: messages log
    | none => messages log := by
  cases hm : entry.message <;> simp [messages, hm]

def PlatformState.Open (state : PlatformState) (binding : AttemptBindingV1) : Prop :=
  state.attempt.state ≠ .idle ∧ state.attempt.state ≠ .terminalCommitted ∧ state.attempt.binding = binding
deriving Decidable

structure Accounted (log : List Entry) (state : PlatformState) : Prop where
  traced : Traced (messages (currentAttempt log)) state.record state.Revoking
  idle : state.attempt.state = .idle →
    currentAttempt log = [] ∧ state.record.cancelRevision = 0 ∧ state.record.terminalSequence = 0
  fenced : ∀ entry ∈ currentAttempt log, entry.after.attempt.state = .fenced → state.attempt.state = .fenced
  revoking : ∀ entry ∈ log, entry.before.Revoking ∨ entry.after.Revoking ∨ entry.Revokes → state.Revoking
  counted : ∀ binding, log.countP (fun entry => decide (entry.Commits binding)) +
    (if state.Open binding then 1 else 0) ≤ log.countP (fun entry => decide (entry.Offers binding))

theorem attempt_of_core {state : PlatformState} {attempt : AttemptRecord} (h : state.record.core = attempt.core) :
    state.attempt.state = attempt.state ∧ state.attempt.binding = attempt.binding ∧
      state.record.cancelRevision = attempt.cancelRevision ∧ state.record.terminalSequence = attempt.terminalSequence := by
  have hstate := congrArg AttemptRecord.state h
  have hbinding := congrArg AttemptRecord.binding h
  have hrevision := congrArg AttemptRecord.cancelRevision h
  have hterminal := congrArg AttemptRecord.terminalSequence h
  exact ⟨hstate, hbinding, hrevision, hterminal⟩

namespace Entry.Advance

variable {entry : Entry} {binding : AttemptBindingV1}

theorem commits (ha : entry.Advance) (hc : entry.Commits binding) :
    entry.before.attempt.state = .terminalPending ∧ ¬ entry.before.Revoking ∧
      entry.after.record.core = { entry.before.record.core with state := .terminalCommitted } := by
  obtain ⟨hbefore, hafter, -⟩ := hc
  cases ha with
  | kept taken revokes core revoking => exact absurd ((attempt_of_core core).1.symm.trans hafter) hbefore
  | @moved machine direction message now attempt shows taken revokes guarded moves core connection =>
    obtain ⟨hs, hr, rfl⟩ := moves.committed ((attempt_of_core core).1.symm.trans hafter)
    rw [shows.attempt] at hs core
    refine ⟨hs, fun hrev => hr ?_, core⟩
    simpa only [ConformanceMachine.Revoking, PlatformState.Revoking, shows.connection] using hrev
  | fenced taken core revoking =>
    have hfence := (attempt_of_core core).1.symm.trans hafter
    unfold ConformanceMachine.fenceAttempt at hfence
    split at hfence
    · cases hfence
    · exact absurd hfence hbefore
  | retired taken revokes finished record connection =>
    have hidle : entry.after.attempt.state = .idle := congrArg AttemptRecord.state record
    rw [hidle] at hafter
    cases hafter

theorem commits_open (ha : entry.Advance) (binding : AttemptBindingV1) (hc : entry.Commits binding) : entry.before.Open binding := by
  obtain ⟨hs, -, hcore⟩ := ha.commits hc
  have hbinding : entry.after.attempt.binding = entry.before.attempt.binding := congrArg AttemptRecord.binding hcore
  exact ⟨by simp [hs], hc.1, hbinding.symm.trans hc.2.2⟩

/-- An attempt is under way because it already was, or because the call offered it. -/
theorem open_of_open (ha : entry.Advance) (binding : AttemptBindingV1) (ho : entry.after.Open binding) :
    entry.before.Open binding ∨ entry.Offers binding := by
  by_cases hidle : entry.before.attempt.state = .idle
  · exact .inr ⟨hidle, ho.1, ho.2.2⟩
  refine .inl ⟨hidle, fun hcommitted => ?_, ?_⟩
  · cases ha with
    | kept taken revokes core revoking => exact ho.2.1 ((attempt_of_core core).1.trans hcommitted)
    | @moved machine direction message now attempt shows taken revokes guarded moves core connection =>
      have hs : machine.attempt.state = .terminalCommitted := by rw [shows.attempt]; exact hcommitted
      exact moves.not_committed hs
    | fenced taken core revoking =>
      refine ho.2.1 ((attempt_of_core core).1.trans ?_)
      have hs : entry.before.record.state = .terminalCommitted := hcommitted
      simp [ConformanceMachine.fenceAttempt, hs]
    | retired taken revokes finished record connection => exact ho.1 (congrArg AttemptRecord.state record)
  · rw [← ho.2.2]
    cases ha with
    | kept taken revokes core revoking => exact (attempt_of_core core).2.1.symm
    | @moved machine direction message now attempt shows taken revokes guarded moves core connection =>
      have hs : machine.attempt.state ≠ .idle := by rw [shows.attempt]; exact hidle
      rw [(attempt_of_core core).2.1, moves.kept.2.2.2 hs, shows.attempt]
      rfl
    | fenced taken core revoking =>
      rw [(attempt_of_core core).2.1]
      unfold ConformanceMachine.fenceAttempt
      split
      · rfl
      · rfl
    | retired taken revokes finished record connection => exact absurd (congrArg AttemptRecord.state record) ho.1

end Entry.Advance

namespace Accounted

variable {log : List Entry} {entry : Entry}

theorem start {state} (hv : state.snapshot.Valid) (hs : state.attempt.state = .idle) :
    Accounted [] state := by
  have hsummary := hv.1.1.2.2.2.2.2.2.1.1.2.2.2.1
  have hidle : state.snapshot.attempt.summary.state = .idle := hs
  simp only [hidle, if_true] at hsummary
  have hc : state.record.cancelRevision = 0 := hsummary.2.2.2.1
  have ht : state.record.terminalSequence = 0 := hsummary.2.2.2.2.2.1
  exact ⟨.idle hs hc ht, fun _ => ⟨rfl, hc, ht⟩, fun _ h => absurd h List.not_mem_nil, fun _ h => absurd h List.not_mem_nil,
    fun binding => by simp [PlatformState.Open, hs]⟩

variable (h : Accounted log entry.before) (ha : entry.Advance)

include h ha

theorem idle_step (hs : entry.after.attempt.state = .idle) :
    entry.after.record.cancelRevision = 0 ∧ entry.after.record.terminalSequence = 0 := by
  cases ha with
  | kept taken revokes core revoking =>
    obtain ⟨h1, -, h3, h4⟩ := attempt_of_core core
    obtain ⟨-, hc, ht⟩ := h.idle (h1.symm.trans hs)
    exact ⟨h3.trans hc, h4.trans ht⟩
  | moved shows taken revokes guarded moves core connection =>
    exact absurd ((attempt_of_core core).1.symm.trans hs) moves.active
  | fenced taken core revoking =>
    obtain ⟨h1, -, h3, h4⟩ := attempt_of_core core
    have hbefore : entry.before.record.state = .idle := by
      have hfence := h1.symm.trans hs
      unfold ConformanceMachine.fenceAttempt at hfence
      split at hfence
      · cases hfence
      · exact hfence
    obtain ⟨-, hc, ht⟩ := h.idle hbefore
    have hsame : ConformanceMachine.fenceAttempt entry.before.record = entry.before.record := by
      rw [ConformanceMachine.fenceAttempt, if_neg (by simp [hbefore])]
    rw [hsame] at h3 h4
    exact ⟨h3.trans hc, h4.trans ht⟩
  | retired taken revokes finished record connection =>
    rw [record]
    exact ⟨rfl, rfl⟩

theorem traced_step :
    Traced (messages (currentAttempt (entry :: log))) entry.after.record entry.after.Revoking := by
  rw [currentAttempt_cons]
  by_cases hs : entry.after.attempt.state = .idle
  · rw [if_pos hs]
    obtain ⟨hc, ht⟩ := h.idle_step ha hs
    exact .idle hs hc ht
  rw [if_neg hs, messages_cons]
  cases ha with
  | kept taken revokes core revoking =>
    rw [taken]
    exact h.traced.of_core core revoking
  | @moved machine direction message now attempt shows taken revokes guarded moves core connection =>
    rw [taken]
    have hrevoking : machine.Revoking ↔ entry.before.Revoking := by
      simp only [ConformanceMachine.Revoking, PlatformState.Revoking, shows.connection]
    have hbefore : Traced (messages (currentAttempt log)) machine.attempt machine.Revoking := by
      rw [shows.attempt, hrevoking]
      exact h.traced
    refine (moves.traced guarded hbefore fun hidle => ?_).of_core core fun hrev => ?_
    · rw [shows.attempt] at hidle ⊢
      obtain ⟨hlog, hc, ht⟩ := h.idle hidle
      rw [hlog]
      exact ⟨rfl, hc, ht⟩
    · simp only [PlatformState.Revoking, connection]
      exact hrevoking.1 hrev
  | fenced taken core revoking =>
    rw [taken]
    exact (h.traced.fence revoking).of_core core id
  | retired taken revokes finished record connection =>
    exact absurd (by rw [PlatformState.attempt]; exact congrArg AttemptRecord.state record) hs

theorem fenced_step :
    ∀ other ∈ currentAttempt (entry :: log), other.after.attempt.state = .fenced →
      entry.after.attempt.state = .fenced := by
  intro other hmem hother
  rw [currentAttempt_cons] at hmem
  by_cases hs : entry.after.attempt.state = .idle
  · rw [if_pos hs] at hmem
    exact absurd hmem List.not_mem_nil
  rw [if_neg hs] at hmem
  rcases List.mem_cons.1 hmem with rfl | hmem
  · exact hother
  have hbefore := h.fenced other hmem hother
  cases ha with
  | kept taken revokes core revoking => exact (attempt_of_core core).1.trans hbefore
  | moved shows taken revokes guarded moves core connection =>
    rw [(attempt_of_core core).1]
    refine moves.fenced ?_ ?_
    · rw [shows.attempt]
      exact hbefore
    · rw [shows.attempt]
      exact h.traced.fenced hbefore
  | fenced taken core revoking =>
    rw [(attempt_of_core core).1]
    have hfenced : entry.before.record.state = .fenced := hbefore
    simp [ConformanceMachine.fenceAttempt, hfenced]
  | retired taken revokes finished record connection =>
    exact absurd (by rw [PlatformState.attempt]; exact congrArg AttemptRecord.state record) hs

theorem revoking_step :
    ∀ other ∈ entry :: log, other.before.Revoking ∨ other.after.Revoking ∨ other.Revokes → entry.after.Revoking := by
  have hkept : entry.before.Revoking → entry.after.Revoking := by
    intro hb
    cases ha with
    | kept taken revokes core revoking => exact revoking hb
    | moved shows taken revokes guarded moves core connection =>
      simp only [PlatformState.Revoking, connection]
      exact hb
    | fenced taken core revoking => exact revoking
    | retired taken revokes finished record connection =>
      simp only [PlatformState.Revoking, connection]
      exact hb
  have hrevokes : entry.Revokes → entry.after.Revoking := by
    intro hr
    cases ha with
    | kept taken revokes core revoking | moved shows taken revokes guarded moves core connection =>
      exact absurd hr revokes
    | fenced taken core revoking => exact revoking
    | retired taken revokes finished record connection => exact absurd hr revokes
  intro other hmem hother
  rcases List.mem_cons.1 hmem with rfl | hmem
  · rcases hother with hb | hafter | hr
    · exact hkept hb
    · exact hafter
    · exact hrevokes hr
  · exact hkept (h.revoking other hmem hother)

theorem counted_step (binding : AttemptBindingV1) :
    (entry :: log).countP (fun entry => decide (entry.Commits binding)) +
      (if entry.after.Open binding then 1 else 0) ≤
      (entry :: log).countP (fun entry => decide (entry.Offers binding)) := by
  have hcount := h.counted binding
  have hclosed : entry.Commits binding → ¬ entry.after.Open binding := fun hc ho => ho.2.1 hc.2.1
  have hopen := ha.commits_open binding
  have hstart := ha.open_of_open binding
  simp only [List.countP_cons, decide_eq_true_eq]
  by_cases hc : entry.Commits binding
  · simp only [hc, hclosed hc, hopen hc, if_true, if_false] at hcount ⊢
    omega
  · by_cases ho : entry.after.Open binding
    · rcases hstart ho with hb | hb
      · simp only [hc, ho, hb, if_true, if_false] at hcount ⊢
        omega
      · simp only [hc, ho, hb, if_true, if_false] at hcount ⊢
        omega
    · simp only [hc, ho, if_false] at hcount ⊢
      omega

theorem step : Accounted (entry :: log) entry.after :=
  ⟨h.traced_step ha, fun hs => ⟨by rw [currentAttempt_cons, if_pos hs], h.idle_step ha hs⟩, h.fenced_step ha,
    h.revoking_step ha, h.counted_step ha⟩

end Accounted

theorem Reduces.accounted {start state log} (hv : start.snapshot.Valid)
    (hs : start.attempt.state = .idle) (h : Reduces start log state) : Accounted log state := by
  induction h with
  | nil => exact .start hv hs
  | step h allowed reduced ih => exact Accounted.step ih (Entry.advance (PlatformState.step_of_reduce allowed reduced))

theorem Reduces.of_suffix {start state entry log earlier}
    (h : Reduces start log state) (hsuffix : List.IsSuffix (entry :: earlier) log) :
    Reduces start earlier entry.before ∧ entry.Advance := by
  induction h with
  | nil => simp at hsuffix
  | step h allowed reduced ih =>
    rcases List.suffix_cons_iff.1 hsuffix with heq | hsuffix
    · cases heq
      exact ⟨h, Entry.advance (PlatformState.step_of_reduce allowed reduced)⟩
    · exact ih hsuffix

end Sessionless.Protocol
