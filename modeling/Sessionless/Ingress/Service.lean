import Sessionless.Store.Ops

/-!
# The ingress service

`Service.Ingest` takes one delivery through separate transactions: it resolves the session, looks the delivery up,
uploads the payload and commits. Every identifier it writes under is derived from the tenant, the binding and the
delivery. A wake that follows an answer changes no row and is left out.
-/

namespace Sessionless.Ingress

open Lib Store

/-- HMAC-SHA-256 under the identifier key of the service. -/
class Mac where
  hmac : Bytes → Protocol.Sum256

/-! ## Identifiers -/

section

variable [Mac]

/-- The digest of a kind and of values, each prefixed with its length, cut to twenty bytes. -/
def stableID (kind : String) (values : List String) : String :=
  kind ++ "-" ++ hex ((Mac.hmac (utf8 "sessionless:canonical-ingress:v1:" ++ utf8 kind ++ [0] ++
    values.flatMap (fun value => Json.decimal (utf8 value).length ++ utf8 ":" ++ utf8 value ++ [0]))).val.take 20)

end

/-! ## Inputs -/

structure Actor where
  userID : UserID
  frontend : Frontend
  externalConversationID : String
deriving DecidableEq, Repr

def Actor.validate (actor : Actor) : Except StoreError Unit := do
  validateOpaqueID "user_id" actor.userID
  validateOpaqueID "frontend" actor.frontend
  if isBlankText actor.externalConversationID then .error (.validation "external_conversation_id" "must not be empty")
  else .ok ()

structure Attachment where
  name : String
  mediaType : String
  body : Option Bytes
deriving DecidableEq, Repr

def Attachment.validate (attachment : Attachment) : Except StoreError Unit :=
  if isBlankText attachment.mediaType then .error (.validation "attachment.media_type" "must not be empty")
  else if attachment.body = none then .error (.validation "attachment.body" "must not be nil")
  else .ok ()

structure UserInput where
  actor : Actor
  externalEventID : String
  receivedAt : Int
  text : String
  /-- The keys of the metadata. -/
  metadata : List String
  attachments : List Attachment
  subscriptionConnectionID : SubscriptionConnectionID
deriving DecidableEq, Repr

def validateInput (input : UserInput) : Except StoreError Unit := do
  input.actor.validate
  if isBlankText input.externalEventID then .error (.validation "external_event_id" "must not be empty")
  else if input.receivedAt = 0 then .error (.validation "received_at" "must not be zero")
  else if isBlankText input.text ∧ input.attachments = [] then
    .error (.validation "user_input" "text or an attachment is required")
  else do
    if input.subscriptionConnectionID ≠ "" then
      validateOpaqueID "subscription_connection_id" input.subscriptionConnectionID
    input.attachments.forM Attachment.validate
    if input.metadata.any isBlankText then .error (.validation "metadata" "must not contain an empty key")
    else .ok ()

/-! ## Requests -/

section

variable [Mac]

/-- The request of `EnsureSession`. -/
def sessionRequest (tenantID : TenantID) (actor : Actor) (instant : Int) : FrontendSessionRequest :=
  let bindingID := stableID "binding" [tenantID, actor.frontend, actor.externalConversationID]
  { userID := actor.userID, frontend := actor.frontend, externalConversationID := actor.externalConversationID
    bindingID, sessionID := stableID "session" [tenantID, bindingID, "initial"], instant }

def idempotencyKey (tenantID : TenantID) (input : UserInput) : IdempotencyKey :=
  stableID "ingress" [tenantID, input.actor.frontend, input.actor.externalConversationID, input.externalEventID]

def eventID (tenantID : TenantID) (bindingID : FrontendBindingID) (key : IdempotencyKey) : SessionEventID :=
  stableID "event" [tenantID, bindingID, key]

def runID (tenantID : TenantID) (bindingID : FrontendBindingID) (key : IdempotencyKey) : RunID :=
  stableID "run" [tenantID, bindingID, key]

def dispatchID (tenantID : TenantID) (run : RunID) : DispatchOutboxID := stableID "dispatch" [tenantID, run]

def attemptID (tenantID : TenantID) (run : RunID) : AttemptID := stableID "attempt" [tenantID, run, "1"]

def manifestID (tenantID : TenantID) (run : RunID) : ArtifactManifestID := stableID "manifest" [tenantID, run]

def lookupRequest (tenantID : TenantID) (input : UserInput) (binding : FrontendBinding) : CanonicalUserEventLookup :=
  let key := idempotencyKey tenantID input
  { userID := input.actor.userID, bindingID := binding.id, frontend := input.actor.frontend
    externalConversationID := input.actor.externalConversationID, idempotencyKey := key
    eventID := eventID tenantID binding.id key, runID := runID tenantID binding.id key, mutationDigest := "" }

/-- What a call brings along to its commit: the objects it uploaded and the harness that was bound for it. -/
structure Upload where
  payload : BlobRef
  artifacts : List Artifact
  harnessBindingDigest : String
deriving DecidableEq, Repr

def origin (input : UserInput) (binding : FrontendBinding) : FrontendEventOrigin :=
  { bindingID := binding.id, bindingRevision := binding.revision, frontend := input.actor.frontend
    externalConversationID := input.actor.externalConversationID, externalEventID := input.externalEventID }

/-- The commit of a delivery whose lookup found nothing. The payload is the first of the artifacts. -/
def commitRequest (tenantID : TenantID) (retention : Int) (input : UserInput) (binding : FrontendBinding) (upload : Upload) :
    CanonicalUserEventCommit :=
  let key := idempotencyKey tenantID input
  let run := runID tenantID binding.id key
  { userID := input.actor.userID, bindingID := binding.id, expectedBindingRevision := binding.revision
    origin := origin input binding, idempotencyKey := key, mutationDigest := ""
    expireAt := input.receivedAt + retention, eventID := eventID tenantID binding.id key, payload := upload.payload
    runID := run, attemptID := attemptID tenantID run, subscriptionConnectionID := input.subscriptionConnectionID
    manifestID := manifestID tenantID run
    artifacts := { name := "message.json", mediaType := "application/json", blob := upload.payload } :: upload.artifacts
    dispatchID := dispatchID tenantID run, harnessBindingDigest := upload.harnessBindingDigest
    committedAt := input.receivedAt, committedAtOffset := 0 }

end

/-! ## Calls -/

/-- How far a call of `Ingest` has come. A call that returned an error or crashed is gone. -/
inductive Call where
  | started (input : UserInput)
  | ensured (input : UserInput) (binding : FrontendBinding)
  | missed (input : UserInput) (binding : FrontendBinding)
  | answered (input : UserInput) (result : CanonicalUserEventResult)
deriving DecidableEq, Repr

structure System where
  store : State
  calls : Table Nat Call
  /-- For each committed delivery, the session its binding pointed at when it was first committed. -/
  firstBound : Table (FrontendBindingID × IdempotencyKey) SessionID

/-- The switches of `/new`, the archive transitions, the commits of bound deliveries and the expiry of rows. -/
def interleaves : Op → Bool
  | .createAndSwitchFrontendSession _ => true
  | .commitCanonicalUserEvent .. => true
  | .transitionSession .. => true
  | .setSessionArchivedForUser .. => true
  | .expireIngress .. => true
  | _ => false

inductive Label where
  | begins (call : Nat) (input : UserInput)
  | ensures (call : Nat)
  | opens (actor : Actor) (instant : Int)
  | looksUp (call : Nat) (now : Int)
  | commits (call : Nat) (now : Int) (upload : Upload) (prepared : Preparation)
  | stops (call : Nat)
  | writes (op : Op)

/-- The first commit of a delivery is the one that finds no session recorded for it. -/
def recordBound (sys : System) (bindingID : FrontendBindingID) (key : IdempotencyKey) :
    Table (FrontendBindingID × IdempotencyKey) SessionID :=
  match sys.firstBound (bindingID, key), sys.store.frontendBindings bindingID with
  | none, some binding => sys.firstBound.upsert (bindingID, key) binding.sessionID
  | _, _ => sys.firstBound

variable [Protocol.Crypto] [Mac]

inductive Step (retention : Int) : System → Label → System → Prop where
  | begins {sys : System} {call : Nat} {input : UserInput} (hfree : sys.calls call = none)
      (hvalid : validateInput input = .ok ()) :
      Step retention sys (.begins call input) { sys with calls := sys.calls.upsert call (.started input) }
  | ensures {sys : System} {call : Nat} {input : UserInput} {session : Session} {binding : FrontendBinding} {store : State}
      (hcall : sys.calls call = some (.started input))
      (h : ensureFrontendSession sys.store (sessionRequest sys.store.tenantID input.actor input.receivedAt) =
        .ok ((session, binding), store)) :
      Step retention sys (.ensures call) { sys with store, calls := sys.calls.upsert call (.ensured input binding) }
  /-- `EnsureSession` on its own, as `NewSession` calls it before it switches. -/
  | opens {sys : System} {actor : Actor} {instant : Int} {state : Session × FrontendBinding} {store : State}
      (h : ensureFrontendSession sys.store (sessionRequest sys.store.tenantID actor instant) = .ok (state, store)) :
      Step retention sys (.opens actor instant) { sys with store }
  | finds {sys : System} {call : Nat} {now : Int} {input : UserInput} {binding : FrontendBinding}
      {result : CanonicalUserEventResult} (hcall : sys.calls call = some (.ensured input binding))
      (h : lookupCanonicalUserEvent sys.store now (lookupRequest sys.store.tenantID input binding) = .ok (some result)) :
      Step retention sys (.looksUp call now) { sys with calls := sys.calls.upsert call (.answered input result) }
  | misses {sys : System} {call : Nat} {now : Int} {input : UserInput} {binding : FrontendBinding}
      (hcall : sys.calls call = some (.ensured input binding))
      (h : lookupCanonicalUserEvent sys.store now (lookupRequest sys.store.tenantID input binding) = .ok none) :
      Step retention sys (.looksUp call now) { sys with calls := sys.calls.upsert call (.missed input binding) }
  | commits {sys : System} {call : Nat} {now : Int} {upload : Upload} {prepared : Preparation} {input : UserInput}
      {binding : FrontendBinding} {result : CanonicalUserEventResult} {store : State}
      (hcall : sys.calls call = some (.missed input binding))
      (h : commitCanonicalUserEvent sys.store now (commitRequest sys.store.tenantID retention input binding upload)
        prepared = .ok (result, store)) :
      Step retention sys (.commits call now upload prepared)
        { store
          calls := sys.calls.upsert call (.answered input result)
          firstBound := recordBound sys binding.id (idempotencyKey sys.store.tenantID input) }
  | stops {sys : System} {call : Nat} : Step retention sys (.stops call) { sys with calls := sys.calls.delete call }
  | writes {sys : System} {op : Op} {store : State} (hop : interleaves op = true) (h : Writes sys.store op store) :
      Step retention sys (.writes op) { sys with store }

end Sessionless.Ingress
