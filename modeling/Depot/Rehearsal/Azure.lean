import Depot.Rehearsal.State

set_option autoImplicit false

/-!
# Rehearsed calls to Azure

A store is a storage account, and its objects are the containers.

## Main definitions

* `Rehearsal.Azure.answer` — the answer to each call.
-/

namespace Depot.Rehearsal.Azure

open Depot.Azure (Call Answer Environment AccountParameters)

/-- Connects. -/
def connect (c : Depot.Azure.Credentials) (e : Environment) : Trial Unit := do
  let _ ← call "connect_azure" [.text c.identity.clientId, .text e.name]

/-- Does an account exist? -/
def accountPresence (account : String) : Trial Presence := do
  let outcome ← call "account_presence" [.text account]
  return outcome.presence (← hasStore account)

/-- Creates an account. -/
def createAccount (account : String) (p : AccountParameters) : Trial Creation := do
  let location := Json.text p.location
  let tags := p.tags.toJson .text
  let outcome ← call "create_account" [.text account, location, tags]
  creation outcome (← hasStore account)
    (putStore account (.ofAttributes [("location", location), ("tags", tags)]))

/-- The key of an account. -/
def accountKey (account : String) : Trial String := do
  let _ ← call "account_key" [.text account]
  let _ ← storeFor "account_key" account
  return "key-of-" ++ account

/-- Does a container exist? -/
def containerPresence (account container : String) : Trial Presence := do
  let method := "container_presence"
  let outcome ← call method [.text account, .text container]
  return outcome.presence ((← storeFor method account).has container)

/-- Creates a container. -/
def createContainer (account container : String) : Trial Creation := do
  let method := "create_container"
  let outcome ← call method [.text account, .text container]
  let s ← storeFor method account
  creation outcome (s.has container) (putStore account (s.insert { key := container }))

/-- The answer to each call. -/
def answer : (c : Call) → Rehearsal (Answer c)
  | .connect credentials environment => (connect credentials environment).run
  | .accountPresence account => (accountPresence account).run
  | .createAccount account parameters => (createAccount account parameters).run
  | .updateAccountTags account tags =>
    let tags := tags.toJson .text
    (setting "update_account_tags" account [tags] "tags" tags).run
  | .disablePublicAccess account =>
    (setting "disable_public_access" account [] "blocked" (.bool true)).run
  | .deleteAccount account => (deleting "delete_account" account).run
  | .accountKey account => (accountKey account).run
  | .containerPresence account container => (containerPresence account container).run
  | .createContainer account container => (createContainer account container).run
  | .deleteContainer account container =>
    (deletingObject "delete_container" account container).run

end Depot.Rehearsal.Azure
