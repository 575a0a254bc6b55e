import Sessionless.Ingress.Rows
import Sessionless.Store.Lemmas.Later
import Sessionless.Store.Reference

/-!
# A delivery is committed at most once

Calls of `Ingest` for one delivery run next to each other, to other deliveries, to switches and to archive
transitions, and may crash between their transactions. The row of the first commit makes every later one return its
answer.
-/

namespace Sessionless.Ingress

open Lib Store

/-! ## The rows of a delivery -/

structure Unrecorded (s : State) (key : IdempotencyKey) : Prop where
  events : ∀ position event, s.sessionEvents position = some event → event.idempotencyKey ≠ key
  runs : ∀ id run, s.runs id = some run → run.idempotencyKey ≠ key
  deliveries : ∀ bindingID, s.ingressIdempotency (bindingID, key) = none

/-- One event and one run are stored under the key, in one session, with at most one row of each other kind for the run. -/
structure Once [Mac] (s : State) (key : IdempotencyKey) (answer : CanonicalUserEventResult) : Prop where
  event : ∃ event, s.sessionEvents (answer.sessionID, answer.sequence) = some event ∧ event.id = answer.eventID ∧
    event.sessionID = answer.sessionID ∧ event.sequence = answer.sequence ∧ event.runID = some answer.runID ∧
    event.idempotencyKey = key ∧ event.kind = .userMessage
  onlyEvent : ∀ position event, s.sessionEvents position = some event → event.idempotencyKey = key →
    position = (answer.sessionID, answer.sequence)
  run : ∃ run, s.runs answer.runID = some run ∧ run.idempotencyKey = key ∧ run.sessionID = answer.sessionID ∧
    run.triggerEventID = answer.eventID
  onlyRun : ∀ id run, s.runs id = some run → run.idempotencyKey = key → id = answer.runID
  onlyAttempt : ∀ id attempt, s.attempts id = some attempt → attempt.runID = answer.runID →
    id = attemptID s.tenantID answer.runID
  onlyManifest : ∀ id manifest, s.artifactManifests id = some manifest → manifest.runID = answer.runID →
    id = manifestID s.tenantID answer.runID
  onlyDispatch : ∀ id outbox, s.dispatchOutbox id = some outbox → outbox.runID = answer.runID →
    id = dispatchID s.tenantID answer.runID

/-- Two results name the same session, event, sequence and run. -/
def SameAnswer (a b : CanonicalUserEventResult) : Prop :=
  a.sessionID = b.sessionID ∧ a.eventID = b.eventID ∧ a.sequence = b.sequence ∧ a.runID = b.runID

section

variable {s s' : State} {key : IdempotencyKey} {request : CanonicalUserEventCommit} {session : Session} {sequence : Nat}
  {answer : CanonicalUserEventResult}

theorem Unrecorded.beside (h : Unrecorded s key) (hstep : Beside key s s') : Unrecorded s' key where
  events := by rw [hstep.sessionEvents]; exact h.events
  runs := by rw [hstep.runs]; exact h.runs
  deliveries bindingID := (hstep.ingressIdempotency bindingID).trans (h.deliveries bindingID)

theorem Unrecorded.inserted (h : Unrecorded s key) (hstep : Inserted s request session sequence s')
    (hother : request.idempotencyKey ≠ key) : Unrecorded s' key where
  events := by
    rw [hstep.event]
    exact Table.forall_upsert h.events hother
  runs := by
    rw [hstep.run]
    exact Table.forall_upsert h.runs hother
  deliveries bindingID := by
    rw [hstep.delivery, Table.upsert_of_ne (by simp [hother.symm])]
    exact h.deliveries bindingID

/-- A write of the store that is not the commit of this delivery. -/
inductive Aside (key : IdempotencyKey) (s s' : State) : Prop where
  | beside (h : Beside key s s')
  | inserted (request : CanonicalUserEventCommit) (session : Session) (sequence : Nat)
      (h : Inserted s request session sequence s') (hother : request.idempotencyKey ≠ key)

namespace Aside

theorem tenantID (h : Aside key s s') : s'.tenantID = s.tenantID := by
  cases h with
  | beside h | inserted request session sequence h hother => exact h.tenantID

theorem consistent (h : Aside key s s') (hs : Consistent s) : Consistent s' := by
  cases h with
  | beside h | inserted request session sequence h hother => exact h.consistent hs

theorem index (h : Aside key s s') {conversation bindingID}
    (hindex : s.frontendBindingKeys conversation = some bindingID) :
    s'.frontendBindingKeys conversation = some bindingID := by
  cases h with
  | beside h => exact h.index conversation bindingID hindex
  | inserted request session sequence h hother => rw [h.index]; exact hindex

theorem delivery (h : Aside key s s') (bindingID : FrontendBindingID) :
    s'.ingressIdempotency (bindingID, key) = s.ingressIdempotency (bindingID, key) := by
  cases h with
  | beside h => exact h.ingressIdempotency bindingID
  | inserted request session sequence h hother => rw [h.delivery, Table.upsert_of_ne (by simp [hother.symm])]

theorem unrecorded (h : Aside key s s') (hs : Unrecorded s key) : Unrecorded s' key := by
  cases h with
  | beside h => exact hs.beside h
  | inserted request session sequence h hother => exact hs.inserted h hother

theorem of_commit [Protocol.Crypto] {now prepared}
    (h : commitCanonicalUserEvent s now request prepared = .ok (answer, s')) (hother : request.idempotencyKey ≠ key) :
    Aside key s s' := by
  obtain ⟨-, -, ⟨row, -, -, rfl⟩ | ⟨-, hnew⟩⟩ := commitCanonicalUserEvent_ok h
  · exact .beside (.refl s')
  · obtain ⟨session, sequence, hinserted, -⟩ := Inserted.of_commitNew hnew
    exact .inserted request session sequence hinserted hother

end Aside

variable [Mac]

theorem Once.beside (h : Once s key answer) (hstep : Beside key s s') : Once s' key answer where
  event := by rw [hstep.sessionEvents]; exact h.event
  onlyEvent := by rw [hstep.sessionEvents]; exact h.onlyEvent
  run := by rw [hstep.runs]; exact h.run
  onlyRun := by rw [hstep.runs]; exact h.onlyRun
  onlyAttempt := by rw [hstep.attempts, hstep.tenantID]; exact h.onlyAttempt
  onlyManifest := by rw [hstep.artifactManifests, hstep.tenantID]; exact h.onlyManifest
  onlyDispatch := by rw [hstep.dispatchOutbox, hstep.tenantID]; exact h.onlyDispatch

/-- A commit under another key does not meet the run: the row of a run keeps its key. -/
theorem Once.inserted (h : Once s key answer) (hstep : Inserted s request session sequence s')
    (hother : request.idempotencyKey ≠ key) : Once s' key answer := by
  obtain ⟨run, hrun, hrunKey, hrest⟩ := h.run
  have hrunID : answer.runID ≠ request.runID := by
    intro heq
    rw [heq] at hrun
    exact hother ((hstep.key_of_stored hrun).symm.trans hrunKey)
  constructor
  · obtain ⟨event, hevent, hfacts⟩ := h.event
    refine ⟨event, ?_, hfacts⟩
    rw [hstep.event]
    exact Table.upsert_of_fresh hstep.freshEvent hevent
  · rw [hstep.event]
    exact Table.forall_upsert h.onlyEvent fun hkey => absurd hkey hother
  · refine ⟨run, ?_, hrunKey, hrest⟩
    rw [hstep.run, Table.upsert_of_ne hrunID]
    exact hrun
  · rw [hstep.run]
    exact Table.forall_upsert h.onlyRun fun hkey => absurd hkey hother
  · rw [hstep.attempt, hstep.tenantID]
    exact Table.forall_upsert h.onlyAttempt fun hkey => absurd hkey.symm hrunID
  · rw [hstep.manifest, hstep.tenantID]
    exact Table.forall_upsert h.onlyManifest fun hkey => absurd hkey.symm hrunID
  · rw [hstep.dispatch, hstep.tenantID]
    exact Table.forall_upsert h.onlyDispatch fun hkey => absurd hkey.symm hrunID

/-- The first commit. The run is new, so no attempt, manifest or dispatch row was stored for it. -/
theorem Once.of_first {retention input binding upload} (hs : Consistent s)
    (h : Unrecorded s (idempotencyKey s.tenantID input))
    (hstep : Inserted s (commitRequest s.tenantID retention input binding upload) session sequence s') :
    Once s' (idempotencyKey s.tenantID input)
      { sessionID := session.id, eventID := eventID s.tenantID binding.id (idempotencyKey s.tenantID input), sequence
        runID := runID s.tenantID binding.id (idempotencyKey s.tenantID input), created := true } := by
  have hnew : s.runs (runID s.tenantID binding.id (idempotencyKey s.tenantID input)) = none := by
    cases hrun : s.runs (runID s.tenantID binding.id (idempotencyKey s.tenantID input)) with
    | none => rfl
    | some run => exact absurd (hstep.key_of_stored hrun) (h.runs _ run hrun)
  constructor
  · exact ⟨_, by rw [hstep.event]; exact Table.upsert_self, rfl, rfl, rfl, rfl, rfl, rfl⟩
  · rw [hstep.event]
    exact Table.forall_upsert (fun position event hold hkey => absurd hkey (h.events position event hold)) fun _ => rfl
  · exact ⟨_, by rw [hstep.run]; exact Table.upsert_self, rfl, rfl, rfl⟩
  · rw [hstep.run]
    exact Table.forall_upsert (fun id row hold hkey => absurd hkey (h.runs id row hold)) fun _ => rfl
  · rw [hstep.attempt, hstep.tenantID]
    exact Table.forall_upsert (fun id row hold hkey => absurd (hkey ▸ hnew) (hs.attempts id row hold)) fun _ => rfl
  · rw [hstep.manifest, hstep.tenantID]
    exact Table.forall_upsert (fun id row hold hkey => absurd (hkey ▸ hnew) (hs.manifests id row hold)) fun _ => rfl
  · rw [hstep.dispatch, hstep.tenantID]
    exact Table.forall_upsert (fun id row hold hkey => absurd (hkey ▸ hnew) (hs.dispatches id row hold)) fun _ => rfl

theorem Aside.once (h : Aside key s s') (hs : Once s key answer) : Once s' key answer := by
  cases h with
  | beside h => exact hs.beside h
  | inserted request session sequence h hother => exact hs.inserted h hother

end

/-! ## The invariant of the system -/

def Call.input : Call → UserInput
  | .started input => input
  | .ensured input _ => input
  | .missed input _ => input
  | .answered input _ => input

/-- The binding that a call works with, between its first and its last transaction. -/
def Call.binding? : Call → Option FrontendBinding
  | .ensured _ binding => some binding
  | .missed _ binding => some binding
  | _ => none

def Call.result? : Call → Option CanonicalUserEventResult
  | .answered _ result => some result
  | _ => none

def UserInput.conversation (input : UserInput) : Frontend × String :=
  (input.actor.frontend, input.actor.externalConversationID)

section

variable {sys sys' : System} {tenantID : TenantID} {conversation : Frontend × String} {key : IdempotencyKey} {retention : Int}

theorem recordBound_of_ne {bindingID id other} (hother : other ≠ key) :
    recordBound sys bindingID other (id, key) = sys.firstBound (id, key) := by
  unfold recordBound
  cases sys.firstBound (bindingID, other) with
  | some sessionID => rfl
  | none =>
    cases sys.store.frontendBindings bindingID with
    | none => rfl
    | some binding => exact Table.upsert_of_ne (by simp [hother.symm])

theorem recordBound_recorded {bindingID} (h : sys.firstBound (bindingID, key) ≠ none) :
    recordBound sys bindingID key = sys.firstBound := by
  unfold recordBound
  cases hbound : sys.firstBound (bindingID, key) with
  | none => exact absurd hbound h
  | some sessionID => rfl

theorem recordBound_first {bindingID binding}
    (h : sys.firstBound (bindingID, key) = none) (hbinding : sys.store.frontendBindings bindingID = some binding) :
    recordBound sys bindingID key (bindingID, key) = some binding.sessionID := by
  unfold recordBound
  rw [h, hbinding]
  exact Table.upsert_self

variable [Mac]

/-- Another conversation has other keys, other commits use other keys, and the row of the delivery is not dropped. -/
def Label.Keeps (tenantID : TenantID) (conversation : Frontend × String) (key : IdempotencyKey) : Label → Prop
  | .begins _ input => idempotencyKey tenantID input = key → input.conversation = conversation
  | .writes (.commitCanonicalUserEvent _ request _) => request.idempotencyKey ≠ key
  | .writes (.expireIngress _ _ other) => other ≠ key
  | _ => True

/-- Every answer to the delivery is this one, which went to the session that was bound at the first commit. -/
structure Answered (sys : System) (key : IdempotencyKey) (answer : CanonicalUserEventResult) : Prop where
  once : Once sys.store key answer
  firstBound : ∃ bindingID, sys.firstBound (bindingID, key) = some answer.sessionID
  answers : ∀ call c result, sys.calls call = some c → idempotencyKey sys.store.tenantID c.input = key →
    c.result? = some result → SameAnswer result answer

/-- Nothing was committed and no call has answered. -/
structure Unanswered (sys : System) (key : IdempotencyKey) : Prop where
  unrecorded : Unrecorded sys.store key
  firstBound : ∀ bindingID, sys.firstBound (bindingID, key) = none
  answers : ∀ call c, sys.calls call = some c → idempotencyKey sys.store.tenantID c.input = key → c.result? = none

/-- The row of the delivery lies under the binding of the conversation and leads to the event. -/
structure Known (sys : System) (conversation : Frontend × String) (key : IdempotencyKey)
    (answer : CanonicalUserEventResult) : Prop extends Answered sys key answer where
  row : ∃ bindingID row, sys.store.frontendBindingKeys conversation = some bindingID ∧
    sys.store.ingressIdempotency (bindingID, key) = some row ∧ row.sessionID = answer.sessionID ∧
    row.sequence = answer.sequence ∧ sys.firstBound (bindingID, key) ≠ none

structure Invariant (tenantID : TenantID) (conversation : Frontend × String) (key : IdempotencyKey) (sys : System) :
    Prop where
  tenant : sys.store.tenantID = tenantID
  consistent : Consistent sys.store
  calls : ∀ call c, sys.calls call = some c → idempotencyKey tenantID c.input = key → c.input.conversation = conversation ∧
    ∀ binding, c.binding? = some binding → sys.store.frontendBindingKeys conversation = some binding.id
  outcome : Unanswered sys key ∨ ∃ answer, Known sys conversation key answer

namespace Invariant

/-- A recorded delivery is answered with its event: the caller's binding is the one the row lies under. -/
theorem answered {bindingID row userID event run mutationDigest answer}
    (hindex : sys.store.frontendBindingKeys conversation = some bindingID)
    (hrow : sys.store.ingressIdempotency (bindingID, key) = some row)
    (hanswer : ingressAnswer sys.store row userID event run key mutationDigest = .ok answer) :
    ¬ Unanswered sys key ∧ ∀ known, Known sys conversation key known → SameAnswer answer known := by
  constructor
  · intro hnone
    rw [hnone.unrecorded.deliveries bindingID] at hrow
    cases hrow
  · intro known hknown
    obtain ⟨id, row', hindex', hrow', hsession, hsequence, -⟩ := hknown.row
    cases hindex.symm.trans hindex'
    cases hrow.symm.trans hrow'
    obtain ⟨found, hfound, hid, hrun, rfl⟩ := ingressAnswer_ok hanswer
    obtain ⟨stored, hstored, hstoredID, hstoredSession, hstoredSequence, hstoredRun, -⟩ := hknown.once.event
    rw [hsession, hsequence] at hfound
    cases hfound.symm.trans hstored
    exact ⟨hstoredSession, hstoredID, hstoredSequence, Option.some.inj (hrun.symm.trans hstoredRun)⟩

variable (h : Invariant tenantID conversation key sys)
include h

theorem aside {store} (hstep : Aside key sys.store store) :
    Invariant tenantID conversation key { sys with store } where
  tenant := hstep.tenantID.trans h.tenant
  consistent := hstep.consistent h.consistent
  calls call c hc hkey := by
    obtain ⟨hconversation, hbinding⟩ := h.calls call c hc hkey
    exact ⟨hconversation, fun binding hb => hstep.index (hbinding binding hb)⟩
  outcome := by
    rcases h.outcome with hnone | ⟨answer, hknown⟩
    · exact .inl ⟨hstep.unrecorded hnone.unrecorded, hnone.firstBound, by rw [hstep.tenantID]; exact hnone.answers⟩
    · obtain ⟨bindingID, row, hindex, hrow, hfacts⟩ := hknown.row
      refine .inr ⟨answer, ⟨hstep.once hknown.once, hknown.firstBound, ?_⟩, bindingID, row, hstep.index hindex, ?_, hfacts⟩
      · rw [hstep.tenantID]
        exact hknown.answers
      · rw [hstep.delivery]
        exact hrow

theorem call {call c}
    (hconversation : idempotencyKey tenantID c.input = key → c.input.conversation = conversation ∧
      ∀ binding, c.binding? = some binding → sys.store.frontendBindingKeys conversation = some binding.id)
    (hresult : idempotencyKey tenantID c.input = key → ∀ result, c.result? = some result →
      ¬ Unanswered sys key ∧ ∀ answer, Known sys conversation key answer → SameAnswer result answer) :
    Invariant tenantID conversation key { sys with calls := sys.calls.upsert call c } where
  tenant := h.tenant
  consistent := h.consistent
  calls := Table.forall_upsert h.calls hconversation
  outcome := by
    rcases h.outcome with hnone | ⟨answer, hknown⟩
    · refine .inl ⟨hnone.unrecorded, hnone.firstBound, ?_⟩
      intro other c' hc' hkey
      rcases Table.of_upsert hc' with ⟨-, rfl⟩ | ⟨-, hold⟩
      · rw [h.tenant] at hkey
        exact Option.eq_none_iff_forall_ne_some.mpr (fun result hr => (hresult hkey result hr).1 hnone)
      · exact hnone.answers other c' hold hkey
    · refine .inr ⟨answer, ⟨hknown.once, hknown.firstBound, ?_⟩, hknown.row⟩
      intro other c' result hc' hkey hr
      rcases Table.of_upsert hc' with ⟨-, rfl⟩ | ⟨-, hold⟩
      · rw [h.tenant] at hkey
        exact (hresult hkey result hr).2 answer hknown
      · exact hknown.answers other c' result hold hkey hr

theorem pending {call c}
    (hconversation : idempotencyKey tenantID c.input = key → c.input.conversation = conversation ∧
      ∀ binding, c.binding? = some binding → sys.store.frontendBindingKeys conversation = some binding.id)
    (hpending : c.result? = none) : Invariant tenantID conversation key { sys with calls := sys.calls.upsert call c } :=
  h.call hconversation (fun _ result hr => by rw [hpending] at hr; cases hr)

theorem stops {call} : Invariant tenantID conversation key { sys with calls := sys.calls.delete call } where
  tenant := h.tenant
  consistent := h.consistent
  calls other c hc := h.calls other c (Table.of_delete hc).2
  outcome := by
    rcases h.outcome with hnone | ⟨answer, hknown⟩
    · exact .inl ⟨hnone.unrecorded, hnone.firstBound, fun other c hc => hnone.answers other c (Table.of_delete hc).2⟩
    · exact .inr ⟨answer, ⟨hknown.once, hknown.firstBound,
        fun other c result hc => hknown.answers other c result (Table.of_delete hc).2⟩, hknown.row⟩

theorem bound {bindingID other} (hother : other ≠ key) :
    Invariant tenantID conversation key { sys with firstBound := recordBound sys bindingID other } := by
  have hkept : ∀ id, recordBound sys bindingID other (id, key) = sys.firstBound (id, key) :=
    fun id => recordBound_of_ne hother
  refine ⟨h.tenant, h.consistent, h.calls, ?_⟩
  rcases h.outcome with hnone | ⟨answer, hknown⟩
  · exact .inl ⟨hnone.unrecorded, fun id => (hkept id).trans (hnone.firstBound id), hnone.answers⟩
  · obtain ⟨first, hfirst⟩ := hknown.firstBound
    obtain ⟨id, row, hindex, hrow, hsession, hsequence, hsome⟩ := hknown.row
    refine .inr ⟨answer, ⟨hknown.once, ⟨first, (hkept first).trans hfirst⟩, hknown.answers⟩, id, row, hindex, hrow, hsession,
      hsequence, ?_⟩
    intro hnone
    exact hsome ((hkept id).symm.trans hnone)

theorem first [Protocol.Crypto] {call input binding upload prepared result store} (hcall : sys.calls call = some (.missed input binding))
    (hkey : idempotencyKey sys.store.tenantID input = key) (hnone : Unanswered sys key)
    (hnew : commitNew sys.store (commitRequest sys.store.tenantID retention input binding upload) prepared =
      .ok (result, store)) :
    Invariant tenantID conversation key
      { store, calls := sys.calls.upsert call (.answered input result)
        firstBound := recordBound sys binding.id (idempotencyKey sys.store.tenantID input) } := by
  obtain ⟨session, sequence, hinserted, hresult⟩ := Inserted.of_commitNew hnew
  obtain ⟨hconversation, hbinding⟩ := h.calls call _ hcall (by rw [← h.tenant]; exact hkey)
  have hindex := hbinding binding rfl
  obtain ⟨stored, hstored, hsession⟩ := hinserted.target
  have hsessionID : stored.sessionID = session.id := (h.consistent.sessions _ session hsession).symm
  subst hkey
  have hfirst := recordBound_first (hnone.firstBound binding.id) hstored
  refine ⟨hinserted.tenantID.trans h.tenant, hinserted.consistent h.consistent, ?_, .inr ⟨result, ⟨?_, ?_, ?_⟩, ?_⟩⟩
  · intro other c hc hsame
    rcases Table.of_upsert hc with ⟨-, rfl⟩ | ⟨-, hold⟩
    · exact ⟨hconversation, by simp [Call.binding?]⟩
    · rw [hinserted.index]
      exact h.calls other c hold hsame
  · rw [hresult]
    exact Once.of_first h.consistent hnone.unrecorded hinserted
  · exact ⟨binding.id, by rw [hresult, ← hsessionID]; exact hfirst⟩
  · intro other c found hc hsame hfound
    rcases Table.of_upsert hc with ⟨-, rfl⟩ | ⟨-, hold⟩
    · cases hfound
      exact ⟨rfl, rfl, rfl, rfl⟩
    · rw [hinserted.tenantID] at hsame
      rw [hnone.answers other c hold hsame] at hfound
      cases hfound
  · refine ⟨binding.id, (commitRequest sys.store.tenantID retention input binding upload).row session.id sequence, ?_, ?_, ?_, ?_, ?_⟩
    · rw [hinserted.index]
      exact hindex
    · rw [hinserted.delivery]
      exact Table.upsert_self
    · rw [hresult]
      rfl
    · rw [hresult]
      rfl
    · intro hfree
      exact absurd (hfirst.symm.trans hfree) (by simp)

theorem commits [Protocol.Crypto] {call now input binding upload prepared result store} (hcall : sys.calls call = some (.missed input binding))
    (hcommit : commitCanonicalUserEvent sys.store now (commitRequest sys.store.tenantID retention input binding upload)
      prepared = .ok (result, store)) :
    Invariant tenantID conversation key
      { store, calls := sys.calls.upsert call (.answered input result)
        firstBound := recordBound sys binding.id (idempotencyKey sys.store.tenantID input) } := by
  by_cases hkey : idempotencyKey sys.store.tenantID input = key
  · obtain ⟨hconversation, hbinding⟩ := h.calls call _ hcall (by rw [← h.tenant]; exact hkey)
    have hindex := hbinding binding rfl
    obtain ⟨-, -, ⟨row, hrow, hexisting, rfl⟩ | ⟨-, hnew⟩⟩ := commitCanonicalUserEvent_ok hcommit
    · -- the row of an earlier commit answers
      simp only [commitExisting, bind_eq_ok, ite_ok_eq_ok] at hexisting
      obtain ⟨_, hanswer, -, rfl⟩ := hexisting
      have hfound := ingressRow_eq_some hrow
      subst hkey
      have hsame := answered hindex hfound hanswer
      have hrecorded : sys.firstBound (binding.id, idempotencyKey sys.store.tenantID input) ≠ none := by
        rcases h.outcome with hnone | ⟨known, hknown⟩
        · exact absurd hnone hsame.1
        · obtain ⟨id, _, hindex', -, -, -, hsome⟩ := hknown.row
          cases hindex.symm.trans hindex'
          exact hsome
      rw [recordBound_recorded hrecorded]
      refine h.call (fun _ => ⟨hconversation, by simp [Call.binding?]⟩) ?_
      intro _ found hresult
      cases hresult
      exact hsame
    · rcases h.outcome with hnone | ⟨known, hknown⟩
      · exact h.first hcall hkey hnone hnew
      · obtain ⟨session, sequence, hinserted, -⟩ := Inserted.of_commitNew hnew
        obtain ⟨id, row, hindex', hrow, -⟩ := hknown.row
        cases hindex.symm.trans hindex'
        have hfree := hinserted.freshDelivery
        subst hkey
        exact absurd (hfree.symm.trans hrow) (by simp)
  · have hother : Invariant tenantID conversation key { sys with
        store, firstBound := recordBound sys binding.id (idempotencyKey sys.store.tenantID input) } :=
      (h.bound hkey).aside (.of_commit hcommit hkey)
    refine hother.call ?_ ?_
    · intro hsame
      exact absurd (by rw [h.tenant]; exact hsame) hkey
    · intro hsame
      exact absurd (by rw [h.tenant]; exact hsame) hkey

theorem step [Protocol.Crypto] {label} (hlabel : label.Keeps tenantID conversation key) (hstep : Step retention sys label sys') :
    Invariant tenantID conversation key sys' := by
  cases hstep with
  | begins hfree hvalid => exact h.pending (fun hkey => ⟨hlabel hkey, by simp [Call.binding?]⟩) rfl
  | @ensures call input session binding store hcall hensure =>
    obtain ⟨hbeside, hindex⟩ := @Beside.ensureFrontendSession _ _ key _ _ _ h.consistent hensure
    refine (h.aside (.beside hbeside)).pending ?_ rfl
    intro hkey
    obtain ⟨hconversation, -⟩ := h.calls _ _ hcall hkey
    refine ⟨hconversation, ?_⟩
    intro answered hanswered
    cases hanswered
    rw [← hconversation]
    exact hindex
  | opens hensure => exact h.aside (.beside (Beside.ensureFrontendSession h.consistent hensure).1)
  | @finds call now input binding result hcall hlookup =>
    obtain ⟨row, hrow, hanswer⟩ := lookupCanonicalUserEvent_ok hlookup
    refine h.call (fun hkey => ⟨(h.calls _ _ hcall hkey).1, by simp [Call.binding?]⟩) ?_
    intro hkey found hfound
    cases hfound
    have hindex := (h.calls _ _ hcall hkey).2 binding rfl
    have hsame : idempotencyKey sys.store.tenantID input = key := by rw [h.tenant]; exact hkey
    subst hsame
    exact answered hindex (ingressRow_eq_some hrow) hanswer
  | @misses call now input binding hcall hlookup =>
    have hensured := h.calls call _ hcall
    exact h.pending hensured rfl
  | commits hcall hcommit => exact h.commits hcall hcommit
  | stops => exact h.stops
  | @writes op store hop hwrites =>
    cases op with
    | createAndSwitchFrontendSession request =>
      obtain ⟨answer, hcall⟩ := map_snd_eq_ok.mp hwrites
      exact h.aside (.beside (.createAndSwitchFrontendSession h.consistent hcall))
    | commitCanonicalUserEvent now request prepared =>
      obtain ⟨answer, hcall⟩ := map_snd_eq_ok.mp hwrites
      exact h.aside (.of_commit hcall hlabel)
    | transitionSession sessionID archived instant => exact h.aside (.beside (.transitionSession hwrites))
    | setSessionArchivedForUser userID sessionID archived other instant =>
      obtain ⟨answer, hcall⟩ := map_snd_eq_ok.mp hwrites
      exact h.aside (.beside (.setSessionArchivedForUser hcall))
    | expireIngress now bindingID other =>
      cases hwrites
      exact h.aside (.beside (.expireIngress hlabel))
    | _ => cases hop

end Invariant

/-- A delivery of which nothing is recorded, after any run in which its calls race, retry and crash: it was not committed
and not answered, or it was committed once and every answer is the one of that commit. -/
theorem ingest_exactly_once [Protocol.Crypto] {labels : List Label} (delivery : UserInput) (hstore : Consistent sys.store)
    (hidle : ∀ call, sys.calls call = none) (hunbound : ∀ position, sys.firstBound position = none)
    (hnew : Unrecorded sys.store (idempotencyKey sys.store.tenantID delivery))
    (htrace : Trace (Step retention) sys labels sys')
    (hlabels : ∀ label ∈ labels,
      label.Keeps sys.store.tenantID delivery.conversation (idempotencyKey sys.store.tenantID delivery)) :
    sys'.store.tenantID = sys.store.tenantID ∧
      (Unanswered sys' (idempotencyKey sys.store.tenantID delivery) ∨
        ∃ answer, Answered sys' (idempotencyKey sys.store.tenantID delivery) answer) := by
  have hinitial : Invariant sys.store.tenantID delivery.conversation (idempotencyKey sys.store.tenantID delivery) sys := by
    refine ⟨rfl, hstore, ?_, .inl ⟨hnew, fun bindingID => hunbound _, ?_⟩⟩
    · intro call c hc
      rw [hidle call] at hc
      cases hc
    · intro call c hc
      rw [hidle call] at hc
      cases hc
  have hfinal := htrace.invariant (fun _ _ _ hlabel hi hstep => Invariant.step hi hlabel hstep) hlabels hinitial
  refine ⟨hfinal.tenant, ?_⟩
  rcases hfinal.outcome with hnone | ⟨answer, hknown⟩
  · exact .inl hnone
  · exact .inr ⟨answer, hknown.toAnswered⟩

end

/-! ## A race of two calls -/

namespace Reference

open Store.Reference

open scoped Protocol.Reference

scoped instance mac : Mac := ⟨Protocol.Crypto.sha256⟩

def message : UserInput :=
  { actor := { userID := "user", frontend := "telegram", externalConversationID := "chat" }
    externalEventID := "update", receivedAt := 2, text := "hello", metadata := [], attachments := []
    subscriptionConnectionID := "connection" }

def start : System :=
  { store := { State.empty "tenant" with memberships := Table.upsert (fun _ => none) "user" member }
    calls := fun _ => none
    firstBound := fun _ => none }

def request : FrontendSessionRequest := sessionRequest "tenant" message.actor 2

def upload (token : String) : Upload :=
  { payload :=
      { tenantID := "tenant", size := 2, sha256 := hex (List.replicate 32 7)
        key := sessionEventObjectPrefix "tenant" request.sessionID
          (eventID "tenant" request.bindingID (idempotencyKey "tenant" message)) ++ "uploads/" ++ token ++ "/message.json" }
    artifacts := []
    harnessBindingDigest := "harness" }

def switchRequest : CanonicalSessionSwitchRequest :=
  { userID := "user", bindingID := request.bindingID, expectedRevision := 1, sessionID := "second", instant := 3 }

/-- Two calls that both miss; the first commits, the conversation is switched, and the second commits. -/
def race : List Label :=
  [.begins 0 message, .begins 1 message, .ensures 0, .ensures 1, .looksUp 0 4, .looksUp 1 4,
    .commits 0 4 (upload "a") unprepared, .writes (.createAndSwitchFrontendSession switchRequest),
    .commits 1 5 (upload "b") unprepared]

set_option maxRecDepth 4000 in
theorem race_runs : okAnd (do
    let ((_, binding), s) ← ensureFrontendSession start.store request
    let ((_, again), s) ← ensureFrontendSession s request
    let first ← lookupCanonicalUserEvent s 4 (lookupRequest "tenant" message binding)
    let second ← lookupCanonicalUserEvent s 4 (lookupRequest "tenant" message again)
    let (winner, s) ← commitCanonicalUserEvent s 4 (commitRequest "tenant" 100 message binding (upload "a")) unprepared
    let (_, s) ← createAndSwitchFrontendSession s switchRequest
    let (loser, _) ← commitCanonicalUserEvent s 5 (commitRequest "tenant" 100 message again (upload "b")) unprepared
    return (first, second, winner, loser))
    (fun r => r.1.isNone && r.2.1.isNone && r.2.2.1.created && !r.2.2.2.created) = true := by
  decide +kernel

theorem start_consistent : Consistent start.store := by
  constructor <;> intro id row hrow <;> cases hrow

theorem start_unrecorded (key : IdempotencyKey) : Unrecorded start.store key := by
  constructor
  · intro position event hevent
    cases hevent
  · intro id run hrun
    cases hrun
  · intro bindingID
    rfl

set_option maxRecDepth 4000 in
theorem message_valid : validateInput message = .ok () := by
  obtain ⟨value, hvalue⟩ := exists_of_isOk (show (validateInput message).isOk = true by decide)
  exact hvalue

end Reference

open Reference in
open scoped Protocol.Reference in
/-- Both calls of the race answer with the first commit, which went to the session before the switch. -/
theorem ingest_exactly_once_race : ∃ sys', Trace (Step 100) start race sys' ∧ sys'.store.tenantID = "tenant" ∧
    (Unanswered sys' (idempotencyKey "tenant" message) ∨
      ∃ answer, Answered sys' (idempotencyKey "tenant" message) answer) := by
  obtain ⟨⟨first, second, winner, loser⟩, hrun, htest⟩ := exists_of_okAnd race_runs
  simp only [Bool.and_eq_true, Option.isNone_iff_eq_none] at htest
  obtain ⟨⟨⟨rfl, rfl⟩, -⟩, -⟩ := htest
  simp only [bind_eq_ok, Prod.exists, pure_eq_ok, Prod.mk.injEq] at hrun
  obtain ⟨session, binding, s₁, hensure, session', again, s₂, hensure', _, hlookup, _, hlookup', answer, s₃, hcommit, _, _, s₄,
    hswitch, answer', s₅, hcommit', rfl, rfl, rfl, rfl⟩ := hrun
  have hs₁ := (@Beside.ensureFrontendSession _ _ "" _ _ _ start_consistent hensure).1
  have hs₂ := (@Beside.ensureFrontendSession _ _ "" _ _ _ (hs₁.consistent start_consistent) hensure').1
  have ht₁ : s₁.tenantID = "tenant" := hs₁.tenantID
  have ht₂ : s₂.tenantID = "tenant" := hs₂.tenantID.trans ht₁
  have hcommits : Writes s₂ (.commitCanonicalUserEvent _ _ _) s₃ := map_snd_eq_ok.mpr ⟨_, hcommit⟩
  have ht₃ : s₃.tenantID = "tenant" := (Later.transact hcommits).tenantID.trans ht₂
  have hwrites : Writes s₃ (.createAndSwitchFrontendSession switchRequest) s₄ := by
    rw [Writes, transact, map_snd_eq_ok]
    exact ⟨_, hswitch⟩
  have ht₄ : s₄.tenantID = "tenant" := (Later.transact hwrites).tenantID.trans ht₃
  rw [request, ← ht₁] at hensure'
  rw [← ht₂] at hlookup hlookup' hcommit
  rw [← ht₄] at hcommit'
  obtain ⟨sys', htrace⟩ : ∃ sys', Trace (Step 100) start race sys' := by
    unfold race
    exact ⟨_, .cons (.begins rfl message_valid) <| .cons (.begins rfl message_valid) <| .cons (.ensures rfl hensure) <|
      .cons (.ensures rfl hensure') <| .cons (.misses rfl hlookup) <| .cons (.misses rfl hlookup') <|
      .cons (.commits rfl hcommit) <| .cons (.writes rfl hwrites) <| .cons (.commits rfl hcommit') <| .nil _⟩
  have honce := ingest_exactly_once message start_consistent (fun _ => rfl) (fun _ => rfl) (start_unrecorded _) htrace
    (by simp [race, Label.Keeps, start])
  exact ⟨sys', htrace, honce⟩

end Sessionless.Ingress
