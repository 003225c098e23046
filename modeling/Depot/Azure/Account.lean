import Depot.Storage.Session

set_option autoImplicit false

/-!
# Storage accounts and containers of Azure

How the steps of the lifecycle are done for a storage account, and for a container in one. The
account decides who owns the storage; emptying it deletes the container of the registry.

## Main definitions

* `Azure.accountTags` — the tags of the operator's accounts.
* `Azure.Account`, `Azure.Account.operations` — the steps of the lifecycle of an account.
* `Azure.containerOperations` — the steps of the lifecycle of a container.
-/

namespace Depot.Azure

/-- The tags of the operator's accounts: those that users want on all resources, and the operator's
own, which cannot be overridden. -/
def accountTags (infra : Infrastructure) : Dict String :=
  let user := (infra.platform.azure.elim [] (·.resourceTags)).map fun t => (t.key, t.value)
  (Dict.ofList user).insert ("kubernetes.io_cluster." ++ infra.name) "owned"

/-- How accounts are created, set up and emptied. -/
structure Account where
  /-- The cluster. -/
  infra : Infrastructure
  /-- The region. -/
  location : String
  /-- The container of the registry. -/
  container : String

/-- What is fixed for accounts. -/
def accountKind : Resource.Kind where
  backend := .azure
  noun := "storage account"
  existsReason := Condition.Reason.bucketExists
  notFoundReason := Condition.Reason.bucketNotFound
  hardening := [.blockPublicAccess, .tag]

/-- What is fixed for containers. -/
def containerKind : Resource.Kind where
  backend := .azure
  noun := "container"
  existsReason := Condition.Reason.containerExists
  notFoundReason := Condition.Reason.containerNotFound

/-- Applies a setting. -/
def Account.harden (a : Account) (name : String) : Hardening → Operating Unit String
  | .blockPublicAccess => do
    Action.attempt (World.azure (.disablePublicAccess name))
    return "Public blob access is disabled on the storage account"
  | .tag => do
    let tags := accountTags a.infra
    Action.attempt (World.azure (.updateAccountTags name tags))
    return "Tags were applied to the storage account: " ++ toString tags.entries.length
  | step => throw (.internal ("unsupported Azure hardening step " ++ step.name))

/-- Deletes the container of the registry; one that is gone already counts as deleted. -/
def Account.empty (a : Account) (name : String) : Operating Unit Unit := do
  if a.container ≠ "" then
    match ← Action.perform (World.azure (.deleteContainer name a.container)) with
    | .ok () => pure ()
    | .error e => unless e.isNotFound do throw e

/-- The steps of the lifecycle of an account. -/
def Account.operations (a : Account) : Resource.Operations where
  kind := accountKind
  probe name := Action.attempt (World.azure (.accountPresence name))
  create name :=
    Action.attempt (World.azure (.createAccount name
      { location := a.location, tags := accountTags a.infra }))
  harden := a.harden
  empty := a.empty
  delete name := Action.attempt (World.azure (.deleteAccount name))
  generate := do
    let digits ← Action.perform World.randomDigits
    Action.ofExcept (Naming.accountName a.infra.name digits)

/-- The steps of the lifecycle of a container in an account. -/
def containerOperations (infraName account : String) : Resource.Operations where
  kind := containerKind
  probe name := Action.attempt (World.azure (.containerPresence account name))
  create name := Action.attempt (World.azure (.createContainer account name))
  delete name := Action.attempt (World.azure (.deleteContainer account name))
  generate := do
    let digits ← Action.perform World.randomDigits
    Action.ofExcept (Naming.storageName infraName [] Naming.maxContainerLength digits)

end Depot.Azure
