import Sessionless.Store.Lemmas.Frame
import Sessionless.Store.Reference

/-!
# Retrying a switch to a new session

`CreateAndSwitchSession` and `CreateAndSwitchFrontendSession` recognise their own earlier commit by the binding, and
then compare the stored session and owner with their own. Every event, finalization or archive transition writes the
session's row, so the retry succeeds exactly while that row has not changed.
-/

namespace Sessionless.Store

open Lib

section

variable [Protocol.Crypto] {s s₁ s₂ : State}

/-- The state in which a switch left its binding and the owner of the new session. -/
structure Switched (s : State) (owner : SessionParticipant) (bindingID : FrontendBindingID) (expectedRevision : Nat)
    (sessionID : SessionID) (instant : Int) (next : FrontendBinding) : Prop where
  keyed : s.BindingsKeyed
  binding : s.frontendBindings bindingID = some next
  switched : alreadySwitched next expectedRevision sessionID instant
  owner : s.sessionParticipants (owner.sessionID, owner.userID) = some owner

/-! ## The call -/

theorem switched_of_writes {session owner binding next bindingID expectedRevision instant} (hkeyed : s.BindingsKeyed)
    (hbinding : s.frontendBindings bindingID = some binding)
    (hswitch : binding.switch expectedRevision session.id instant = .ok next)
    (hcreate : createSessionTx s session owner = .ok s₁) (hwrite : writeBinding s₁ next = .ok s₂) :
    Switched s₂ owner bindingID expectedRevision session.id instant next := by
  obtain ⟨hrows, hbindings, howner⟩ := RowWrites.createSessionTx hcreate
  have hretains := Retains.rows hkeyed hrows
  have hstored : s₁.frontendBindings bindingID = some binding := by rw [hbindings]; exact hbinding
  obtain ⟨hretains', hparticipants, hnext⟩ := Retains.writeBinding (hretains.keyed hkeyed) hstored hswitch hwrite
  obtain ⟨-, hrevision, -, heq⟩ := switch_ok hswitch
  refine ⟨hretains'.keyed (hretains.keyed hkeyed), hnext, ?_, ?_⟩
  · subst heq
    exact ⟨congrArg (· + 1) hrevision, rfl, rfl⟩
  · rw [hparticipants]
    exact howner

theorem createAndSwitchSession_switched {session owner bindingID expectedRevision instant next} (hkeyed : s.BindingsKeyed)
    (h : createAndSwitchSession s session owner bindingID expectedRevision instant = .ok (next, s₁)) :
    Switched s₁ owner bindingID expectedRevision session.id instant next := by
  obtain ⟨-, -, -, ⟨hbinding, hswitched, hmatch, rfl⟩ | ⟨binding, s', hbinding, hswitch, hcreate, hwrite⟩⟩ :=
    createAndSwitchSession_ok h
  · simp only [sessionAndOwnerMatch, sessionOwnerMatches, Bool.and_eq_true, decide_eq_true_eq] at hmatch
    exact ⟨hkeyed, hbinding, hswitched, hmatch.2⟩
  · exact switched_of_writes hkeyed hbinding hswitch hcreate hwrite

theorem createAndSwitchFrontendSession_switched {request answer} (hkeyed : s.BindingsKeyed)
    (h : createAndSwitchFrontendSession s request = .ok (answer, s₁)) :
    Switched s₁ (request.owner s.tenantID) request.bindingID request.expectedRevision request.sessionID request.instant
      answer.2 := by
  obtain ⟨-, -, -, ⟨hbinding, hswitched, hmatch, rfl⟩ | ⟨binding, s', hbinding, hswitch, hcreate, hwrite⟩⟩ :=
    createAndSwitchFrontendSession_ok h
  · simp only [sessionAndOwnerMatch, sessionOwnerMatches, Bool.and_eq_true, decide_eq_true_eq] at hmatch
    exact ⟨hkeyed, hbinding, hswitched, hmatch.2⟩
  · exact switched_of_writes hkeyed hbinding hswitch hcreate hwrite

/-! ## The history before the retry -/

theorem Retains.trace {ops} (h : Trace Writes s ops s₁) (hkeyed : s.BindingsKeyed) : Retains s s₁ := by
  induction h with
  | nil s => exact Retains.refl s
  | cons hfirst rest ih =>
    have hstep := Retains.transact hkeyed hfirst
    exact hstep.trans (ih (hstep.keyed hkeyed))

omit [Protocol.Crypto] in
theorem Switched.retained {owner bindingID expectedRevision sessionID instant next current}
    (h : Switched s₁ owner bindingID expectedRevision sessionID instant next) (hretains : Retains s₁ s₂)
    (hcurrent : s₂.frontendBindings bindingID = some current) (hrevision : current.revision = expectedRevision + 1) :
    Switched s₂ owner bindingID expectedRevision sessionID instant next := by
  obtain ⟨stored, hstored, heq⟩ := hretains.frontendBindings bindingID next h.binding
  rw [hcurrent] at hstored
  cases hstored
  have hsame : current = next := by
    rcases heq with heq | hlt
    · exact heq
    · rw [hrevision, h.switched.1] at hlt
      exact absurd hlt (Nat.lt_irrefl _)
  subst hsame
  exact ⟨hretains.keyed h.keyed, hcurrent, h.switched, hretains.sessionParticipants _ _ h.owner⟩

/-! ## The retry -/

omit [Protocol.Crypto] in
theorem Switched.sessionAndOwnerMatch_iff {session owner bindingID expectedRevision sessionID instant next}
    (h : Switched s owner bindingID expectedRevision sessionID instant next) :
    sessionAndOwnerMatch s session owner = true ↔ s.sessions session.id = some session := by
  simp [sessionAndOwnerMatch, sessionOwnerMatches, h.owner]

theorem createAndSwitchSession_retry {session owner bindingID expectedRevision instant next}
    (hcall : createAndSwitchSession s session owner bindingID expectedRevision instant = .ok (next, s₁))
    (h : Switched s₂ owner bindingID expectedRevision session.id instant next) :
    createAndSwitchSession s₂ session owner bindingID expectedRevision instant = .ok (next, s₂) ↔
      s₂.sessions session.id = some session := by
  obtain ⟨howner, hactive, hid, -⟩ := createAndSwitchSession_ok hcall
  rw [← h.sessionAndOwnerMatch_iff]
  simp [createAndSwitchSession, howner, hactive, hid, h.binding, requireRow, h.switched, bind, Except.bind]

theorem createAndSwitchFrontendSession_retry {request answer}
    (hcall : createAndSwitchFrontendSession s request = .ok (answer, s₁)) (htenant : s₂.tenantID = s.tenantID)
    (hmembers : s₂.memberships = s.memberships)
    (h : Switched s₂ (request.owner s.tenantID) request.bindingID request.expectedRevision request.sessionID
      request.instant answer.2) :
    createAndSwitchFrontendSession s₂ request = .ok (answer, s₂) ↔
      s₂.sessions request.sessionID = some (request.session s.tenantID) := by
  obtain ⟨hvalid, hauth, hsession, -⟩ := createAndSwitchFrontendSession_ok hcall
  have hauth' : authorizeTenantWrite s₂ request.userID = .ok () := by
    unfold authorizeTenantWrite at hauth ⊢
    rw [htenant, hmembers]
    exact hauth
  have hanswer : (request.session s.tenantID, answer.2) = answer := by rw [← hsession]
  have hmatch : sessionAndOwnerMatch s₂ (request.session s.tenantID) (request.owner s.tenantID) = true ↔
      s₂.sessions request.sessionID = some (request.session s.tenantID) := h.sessionAndOwnerMatch_iff
  rw [← hmatch]
  simp [createAndSwitchFrontendSession, hvalid, hauth', h.binding, requireRow, h.switched, bind, Except.bind, htenant, hanswer]

/-- A call that committed is repeated after any history of canonical writes, while its binding is still at the revision
it left it at. The repetition returns the same answer and changes no row exactly if the row of the new session is
still the one that the call created. -/
theorem switch_retry_iff :
    (∀ (s s₁ s₂ : State) (session : Session) (owner : SessionParticipant) (bindingID : FrontendBindingID)
        (expectedRevision : Nat) (instant : Int) (next current : FrontendBinding) (ops : List Op),
      s.BindingsKeyed → createAndSwitchSession s session owner bindingID expectedRevision instant = .ok (next, s₁) →
      Trace Writes s₁ ops s₂ → s₂.frontendBindings bindingID = some current →
      current.revision = expectedRevision + 1 → current.sessionID = session.id →
      (createAndSwitchSession s₂ session owner bindingID expectedRevision instant = .ok (next, s₂) ↔
        s₂.sessions session.id = some session)) ∧
    (∀ (s s₁ s₂ : State) (request : CanonicalSessionSwitchRequest) (answer : Session × FrontendBinding)
        (current : FrontendBinding) (ops : List Op),
      s.BindingsKeyed → createAndSwitchFrontendSession s request = .ok (answer, s₁) →
      Trace Writes s₁ ops s₂ → s₂.frontendBindings request.bindingID = some current →
      current.revision = request.expectedRevision + 1 → current.sessionID = request.sessionID →
      (createAndSwitchFrontendSession s₂ request = .ok (answer, s₂) ↔
        s₂.sessions request.sessionID = some (request.session s.tenantID))) := by
  constructor
  · intro s s₁ s₂ session owner bindingID expectedRevision instant next current ops hkeyed hcall htrace hcurrent hrevision _
    have hswitched := createAndSwitchSession_switched hkeyed hcall
    have hretains := Retains.trace htrace hswitched.keyed
    exact createAndSwitchSession_retry hcall (hswitched.retained hretains hcurrent hrevision)
  · intro s s₁ s₂ request answer current ops hkeyed hcall htrace hcurrent hrevision _
    have hswitched := createAndSwitchFrontendSession_switched hkeyed hcall
    have hfirst := @Retains.transact s s₁ _ (.createAndSwitchFrontendSession request) hkeyed (map_snd_eq_ok.mpr ⟨_, hcall⟩)
    have hretains := Retains.trace htrace hswitched.keyed
    have hwhole := hfirst.trans hretains
    exact createAndSwitchFrontendSession_retry hcall hwhole.tenantID hwhole.memberships
      (hswitched.retained hretains hcurrent hrevision)

end

section

open Reference

open scoped Protocol.Reference

/-- The switch of the reference conversation to a second session. -/
def secondSwitch (s : State) : Except StoreError (FrontendBinding × State) :=
  createAndSwitchSession s (session "second" 2) (owner "second" 2) "binding" 1 2

theorem bound_bindingsKeyed : bound.BindingsKeyed := by
  intro id stored h
  rcases Table.of_upsert (t := fun _ => none) (k := "binding") h with ⟨rfl, rfl⟩ | ⟨-, hnone⟩
  · rfl
  · cases hnone

/-- After the first session was archived the retry still succeeds. -/
theorem switch_retry_iff_elsewhere : ∃ next s₁ s₂, secondSwitch bound = .ok (next, s₁) ∧
    Writes s₁ (.transitionSession "first" true 3) s₂ ∧ secondSwitch s₂ = .ok (next, s₂) := by
  obtain ⟨⟨next, s₁⟩, hcall, hrest⟩ := exists_of_okAnd (r := secondSwitch bound)
    (p := fun answer => okAnd (transact answer.2 (.transitionSession "first" true 3)) (fun s₂ =>
      decide (s₂.frontendBindings "binding" = some answer.1) && decide (answer.1.revision = 2) &&
        decide (answer.1.sessionID = "second") && decide (s₂.sessions "second" = some (session "second" 2))))
    (by decide +kernel)
  obtain ⟨s₂, harchive, hfacts⟩ := exists_of_okAnd hrest
  simp only [Bool.and_eq_true, decide_eq_true_eq] at hfacts
  obtain ⟨⟨⟨hbinding, hrevision⟩, hsession⟩, hrow⟩ := hfacts
  exact ⟨next, s₁, s₂, hcall, harchive, (switch_retry_iff.1 bound s₁ s₂ _ _ _ _ _ next next _ bound_bindingsKeyed hcall
    (.single harchive) hbinding hrevision hsession).mpr hrow⟩

/-- One message in the new session, and the retry is refused. -/
theorem switch_retry_refused : ∃ next s₁ s₂, secondSwitch bound = .ok (next, s₁) ∧
    appendSessionEventTx s₁ (message "second" "event" 3) unprepared = .ok (true, s₂) ∧
    s₂.frontendBindings "binding" = some next ∧ next.revision = 2 ∧ next.sessionID = "second" ∧
    secondSwitch s₂ = .error .sessionConflict := by
  obtain ⟨⟨next, s₁⟩, hcall, hrest⟩ := exists_of_okAnd (r := secondSwitch bound)
    (p := fun answer => okAnd (appendSessionEventTx answer.2 (message "second" "event" 3) unprepared) (fun appended =>
      appended.1 && decide (appended.2.frontendBindings "binding" = some answer.1) &&
        decide (answer.1.revision = 2) && decide (answer.1.sessionID = "second") &&
        failsWith (secondSwitch appended.2) .sessionConflict))
    (by decide +kernel)
  obtain ⟨⟨created, s₂⟩, happend, hfacts⟩ := exists_of_okAnd hrest
  simp only [Bool.and_eq_true, decide_eq_true_eq] at hfacts
  obtain ⟨⟨⟨⟨rfl, hbinding⟩, hrevision⟩, hsession⟩, hrefused⟩ := hfacts
  exact ⟨next, s₁, s₂, hcall, happend, hbinding, hrevision, hsession, eq_error_of_failsWith hrefused⟩

end

end Sessionless.Store
