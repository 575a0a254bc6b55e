import Sessionless.Lib.Trace
import Sessionless.Store.Deletion
import Sessionless.Store.Finalize
import Sessionless.Store.Ingress

/-!
# The canonical writers

The transactions that write a session: creating it, switching a conversation to it, appending to it in three ways,
archiving it and requesting its deletion; and the expiry of the rows that make a delivery known. Only committed
transactions are steps.
-/

namespace Sessionless.Store

inductive Op where
  | createSession (session : Session) (owner : SessionParticipant)
  | createAndSwitchSession (session : Session) (owner : SessionParticipant) (bindingID : FrontendBindingID)
      (expectedRevision : Nat) (instant : Int)
  | createAndSwitchFrontendSession (request : CanonicalSessionSwitchRequest)
  | appendSessionEvent (event : SessionEvent) (prepared : Preparation)
  | commitCanonicalUserEvent (now : Int) (request : CanonicalUserEventCommit) (prepared : Preparation)
  | completeWorkerJob (job : WorkerFinalization) (manifest : ArtifactManifest) (substrateEvidence : String)
      (prepared : Preparation)
  | failWorkerJob (job : WorkerFinalization) (cancelled : Bool) (reconciliationEvidence : Option String)
      (prepared : Preparation)
  | transitionSession (sessionID : SessionID) (archived : Bool) (instant : Int)
  | setSessionArchivedForUser (userID : UserID) (sessionID : SessionID) (archived : Bool) (idempotencyKey : IdempotencyKey)
      (instant : Int)
  | requestSessionDeletion (deletion : SessionDeletion)
  | expireIngress (now : Int) (bindingID : FrontendBindingID) (key : IdempotencyKey)

def Op.job? : Op → Option WorkerFinalization
  | .completeWorkerJob job _ _ _ => some job
  | .failWorkerJob job _ _ _ => some job
  | _ => none

def transact [Protocol.Crypto] (s : State) : Op → Except StoreError State
  | .createSession session owner => createSession s session owner
  | .createAndSwitchSession session owner bindingID expectedRevision instant =>
    (createAndSwitchSession s session owner bindingID expectedRevision instant).map Prod.snd
  | .createAndSwitchFrontendSession request => (createAndSwitchFrontendSession s request).map Prod.snd
  | .appendSessionEvent event prepared => (appendSessionEventTx s event prepared).map Prod.snd
  | .commitCanonicalUserEvent now request prepared => (commitCanonicalUserEvent s now request prepared).map Prod.snd
  | .completeWorkerJob job manifest substrateEvidence prepared => completeWorkerJob s job manifest substrateEvidence prepared
  | .failWorkerJob job cancelled reconciliationEvidence prepared =>
    failWorkerJob s job cancelled reconciliationEvidence prepared
  | .transitionSession sessionID archived instant => transitionSession s sessionID archived instant
  | .setSessionArchivedForUser userID sessionID archived idempotencyKey instant =>
    (setSessionArchivedForUser s userID sessionID archived idempotencyKey instant).map Prod.snd
  | .requestSessionDeletion deletion => (requestSessionDeletion s deletion).map Prod.snd
  | .expireIngress now bindingID key => .ok (expireIngress s now bindingID key)

theorem map_snd_eq_ok {α : Type} {r : Except StoreError (α × State)} {s'} :
    r.map Prod.snd = .ok s' ↔ ∃ answer, r = .ok (answer, s') := by
  cases r with
  | error e => simp [Except.map]
  | ok pair =>
    obtain ⟨answer, state⟩ := pair
    simp [Except.map]

def Writes [Protocol.Crypto] (s : State) (op : Op) (s' : State) : Prop := transact s op = .ok s'

end Sessionless.Store
