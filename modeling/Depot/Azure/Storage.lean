import Depot.Azure.Account
import Depot.Workload

set_option autoImplicit false

/-!
# Storage in Azure

The storage of a registry in a container of a storage account. The operator owns the storage only
if it created the account; a container that it creates in the account of a user belongs to the
user.

## Main definitions

* `Azure.isPresent`, `Azure.isChanged`, `Azure.create`, `Azure.remove` — the storage.
* `Azure.environment`, `Azure.secrets` — what the workload needs.
-/

namespace Depot.Azure

open Storage

variable (s : Settings)

/-! ## Connecting -/

/-- The cloud: the configured one, or that of the cluster. -/
def environmentOf : Work Config Environment := do
  let c := (← get).config
  if c.cloudName ≠ "" then Action.ofExcept (Environment.ofName c.cloudName)
  else
    let infra ← Action.attempt (World.cluster .getInfrastructure)
    Action.ofExcept (Environment.ofName (infra.platform.azure.elim "" (·.cloudName)))

/-- Connects; answers with the credentials. -/
def connect : Work Config Credentials := do
  let credentials ← Credentials.azure s.credentials
  let environment ← environmentOf
  Action.attempt (World.azure (.connect credentials environment))
  return credentials

/-- Connects for the cluster, and says how accounts are created, set up and emptied. -/
def connectAccount : Work Config Account := do
  let infra ← Action.attempt (World.cluster .getInfrastructure)
  let credentials ← connect s
  return { infra, location := credentials.identity.region, container := (← get).config.container }

/-! ## What the workload needs -/

/-- The variables for a configuration in a cloud. -/
def envVars (c : Config) (e : Environment) : List EnvVar := [
  .literal "REGISTRY_STORAGE" "azure",
  .literal "REGISTRY_STORAGE_AZURE_CONTAINER" c.container,
  .literal "REGISTRY_STORAGE_AZURE_ACCOUNTNAME" c.accountName,
  .secretKey "REGISTRY_STORAGE_AZURE_ACCOUNTKEY" Credentials.privateSecret
    Credentials.Key.azureAccountKey,
  .literal "REGISTRY_STORAGE_AZURE_REALM" e.storageSuffix]

/-- The variables of the registry's environment. -/
def environment : Work Config (List EnvVar) := do
  let e ← environmentOf
  return envVars (← get).config e

/-- The key of the account: the one that a user gave, or the first one that Azure tells. -/
def accountKey : Work Config String := do
  match (← connect s).accountKey with
  | some key => return key
  | none =>
    let c := (← get).config
    if c.accountName = "" then throw (.configuration "storage account name is not set yet")
    else Action.attempt (World.azure (.accountKey c.accountName))

/-- The values of the secret for the registry. -/
def secrets : Work Config (Dict String) := do
  return .ofList [(Credentials.Key.azureAccountKey, ← accountKey s)]

/-! ## The storage -/

/-- Writes the names of the account and the container into the registry's configuration. -/
def persist : Work Config Unit := do
  let c := (← get).config
  modifySpec fun spec =>
    { spec with azure := some { spec.azure.getD {} with
      accountName := c.accountName, container := c.container } }

/-- Sets the name of the account. -/
def persistAccount (accountName : String) : Work Config Unit := do
  modify fun s => { s with config := { s.config with accountName } }
  persist

/-- Sets the name of the container. -/
def persistContainer (container : String) : Work Config Unit := do
  modify fun s => { s with config := { s.config with container } }
  persist

/-- Whether the container exists. -/
def isPresent : Work Config Bool := do
  let c := (← get).config
  if c.accountName = "" || c.container = "" then unnamed
  else
    let _ ← connect s
    resourceExists (containerOperations "" c.accountName) c.container

/-- Whether the configuration differs from the one that was applied. -/
def isChanged : Work Config Bool := blockChanged (·.azure)

/-- Finds or creates the container in an account; the ownership stays that of the account. -/
def ensureContainer (infraName account : String) : Work Config Unit := do
  let ownership := (← get).registry.status.ownership
  let (outcome, container) ←
    onResource (containerOperations infraName account) (← get).config.container
      (Lifecycle.ensure containerKind s.wait)
  modifyStatus fun status => { status with ownership }
  if container ≠ "" then persistContainer container
  Action.ofExcept outcome

/-- Finds or creates the account and the container in it, and sets up the account. -/
def create : Work Config Unit := do
  let a ← connectAccount s
  let (outcome, account) ←
    onResource a.operations (← get).config.accountName (Lifecycle.ensure accountKind s.wait)
  if account ≠ "" then persistAccount account
  Action.ofExcept outcome
  ensureContainer s a.infra.name account
  let applied := (← get).config
  modifyApplied fun spec => { spec with azure := some applied }
  withResource a.operations account (Lifecycle.applyHardening accountKind)

/-- Removes the container and the account if the operator owns the account. Says whether another
pass is needed, which it never is. -/
def remove : Work Config Bool := do
  let c := (← get).config
  if !(← isManaged) || c.accountName = "" then return false
  else
    let a ← connectAccount s
    if ← withResource a.operations c.accountName (Lifecycle.remove accountKind) then
      modify fun s => { s with config := { s.config with accountName := "", container := "" } }
      persist
      modifyApplied fun spec => { spec with azure := none }
    return false

end Depot.Azure
