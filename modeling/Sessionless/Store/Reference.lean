import Sessionless.Protocol.Reference
import Sessionless.Store.Ops

/-!
# A reference tenant

One tenant with one member and one conversation, so that the transactions of the store can
be run.
-/

namespace Sessionless.Store.Reference

open Lib Context

open scoped Protocol.Reference

def member : TenantMembership :=
  { tenantID := "tenant", userID := "user", role := .owner, status := .active, securityVersion := 1
    createdAt := 1, updatedAt := 1 }

/-- A session of the user that was created at an instant and has no events. -/
def session (id : SessionID) (instant : Int) : Session :=
  { id, tenantID := "tenant", createdBy := "user", status := .active, lastEventSequence := 0
    createdAt := instant, updatedAt := instant, archivedAt := none }

def owner (sessionID : SessionID) (instant : Int) : SessionParticipant :=
  { tenantID := "tenant", sessionID, userID := "user", role := .owner, status := .active
    createdAt := instant, updatedAt := instant }

def binding : FrontendBinding :=
  { id := "binding", tenantID := "tenant", frontend := "telegram", externalConversationID := "chat"
    sessionID := "first", revision := 1, createdAt := 1, updatedAt := 1 }

def bound : State :=
  { State.empty "tenant" with
    memberships := Table.upsert (fun _ => none) "user" member
    sessions := Table.upsert (fun _ => none) "first" (session "first" 1)
    sessionParticipants := Table.upsert (fun _ => none) ("first", "user") (owner "first" 1)
    frontendBindings := Table.upsert (fun _ => none) "binding" binding
    frontendBindingKeys := Table.upsert (fun _ => none) ("telegram", "chat") "binding"
    materialCurrent := Table.upsert (fun _ => none) "first" (genesis "tenant" "first") }

def payload (sessionID : SessionID) (eventID : SessionEventID) : BlobRef :=
  { tenantID := "tenant", key := sessionEventObjectPrefix "tenant" sessionID eventID ++ "payload", size := 2
    sha256 := hex (List.replicate 32 7) }

/-- A message of the user; the store gives it the next sequence. -/
def message (sessionID : SessionID) (eventID : SessionEventID) (instant : Int) : SessionEvent :=
  { id := eventID, tenantID := "tenant", sessionID, sequence := 0, kind := .userMessage, authorUserID := some "user"
    runID := none, idempotencyKey := eventID, payload := payload sessionID eventID, createdAt := instant
    createdAtOffset := 0 }

def unprepared : Preparation := fun _ => none

end Sessionless.Store.Reference
