import Depot.Rehearsal.State

set_option autoImplicit false

/-!
# Rehearsed calls to Swift

A store is a container.

## Main definitions

* `Rehearsal.Swift.answer` — the answer to each call.
-/

namespace Depot.Rehearsal.Swift

open Depot.Swift (Call Answer Page)

/-- Logs in. -/
def connect (c : Depot.Swift.Credentials) : Trial Unit := do
  let _ ← call "connect_swift" ([c.username, c.authUrl, c.domain, c.domainId, c.tenant, c.tenantId,
    c.regionName, c.identityVersion].map .text)

/-- Does a container exist? -/
def containerPresence (container : String) : Trial Presence := do
  let outcome ← call "container_presence" [.text container]
  return outcome.presence (← hasStore container)

/-- Creates a container. -/
def createContainer (container : String) : Trial Creation := do
  let outcome ← call "create_container" [.text container]
  creation outcome (← hasStore container) (putStore container {})

/-- Lists objects. A page that has names says that there may be more. -/
def listObjects (container : String) (marker : Option String) : Trial Page := do
  let method := "list_objects"
  let outcome ← call method [.text container, .textOrNull marker]
  let s ← storeFor method container
  match outcome with
  | .names p => return { names := p.names, next := p.next }
  | _ =>
    let names := (s.keysAfter marker).take (← get).cloud.pageSize
    return { names, next := names.getLast? }

/-- The answer to each call. -/
def answer : (c : Call) → Rehearsal (Answer c)
  | .connect credentials => (connect credentials).run
  | .containerPresence container => (containerPresence container).run
  | .createContainer container => (createContainer container).run
  | .listObjects container marker => (listObjects container marker).run
  | .deleteObject container name => (deletingObject "delete_object" container name).run
  | .deleteContainer container => (deleting "delete_container" container).run

end Depot.Rehearsal.Swift
