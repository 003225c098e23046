import Depot.Swift.Container
import Depot.Workload

set_option autoImplicit false

/-!
# Storage in Swift

The storage of a registry in a container of Swift. What the configuration says about the identity
service wins over what the credentials say.

## Main definitions

* `Swift.isPresent`, `Swift.isChanged`, `Swift.create`, `Swift.remove` — the storage.
* `Swift.environment`, `Swift.secrets` — what the workload needs.
-/

namespace Depot.Swift

open Storage

/-- The version of the identity service if none is given. -/
def defaultVersion : String := "3"

/-- Credentials with what a configuration says. -/
def Config.override (c : Config) (r : Credentials) : Credentials :=
  { r with
    authUrl := firstOf c.authUrl r.authUrl
    identityVersion := firstOf c.authVersion r.identityVersion
    domain := firstOf c.domain r.domain
    domainId := firstOf c.domainId r.domainId
    tenant := firstOf c.tenant r.tenant
    tenantId := firstOf c.tenantId r.tenantId
    regionName := firstOf c.regionName r.regionName }

/-- The version of the identity service. -/
def Credentials.version (c : Credentials) : String := firstOf c.identityVersion defaultVersion

variable (s : Settings)

/-! ## Connecting -/

/-- The credentials. -/
def credentials : Work Config Credentials := do
  let found ← Credentials.swift s.credentials
  return (← get).config.override found

/-- Logs in; answers with the credentials. -/
def connect : Work Config Credentials := do
  let c ← credentials s
  Action.attempt (World.swift (.connect c))
  return c

/-! ## What the workload needs -/

/-- The variables for a configuration and credentials. -/
def envVars (c : Config) (r : Credentials) : List EnvVar :=
  [.literal "REGISTRY_STORAGE" "swift",
    .literal "REGISTRY_STORAGE_SWIFT_CONTAINER" c.container,
    .literal "REGISTRY_STORAGE_SWIFT_AUTHURL" r.authUrl,
    .secretKey "REGISTRY_STORAGE_SWIFT_USERNAME" Credentials.privateSecret
      Credentials.Key.swiftUsername,
    .secretKey "REGISTRY_STORAGE_SWIFT_PASSWORD" Credentials.privateSecret
      Credentials.Key.swiftPassword,
    .literal "REGISTRY_STORAGE_SWIFT_AUTHVERSION" r.version]
  ++ EnvVar.unlessEmpty "REGISTRY_STORAGE_SWIFT_DOMAIN" r.domain
  ++ EnvVar.unlessEmpty "REGISTRY_STORAGE_SWIFT_DOMAINID" r.domainId
  ++ EnvVar.unlessEmpty "REGISTRY_STORAGE_SWIFT_TENANT" r.tenant
  ++ EnvVar.unlessEmpty "REGISTRY_STORAGE_SWIFT_TENANTID" r.tenantId
  ++ EnvVar.unlessEmpty "REGISTRY_STORAGE_SWIFT_REGION" r.regionName

/-- The variables of the registry's environment. -/
def environment : Work Config (List EnvVar) := do
  let r ← credentials s
  return envVars (← get).config r

/-- The values of the secret for the registry. -/
def secrets : Work Config (Dict String) := do
  let r ← credentials s
  return .ofList [
    (Credentials.Key.swiftUsername, r.username), (Credentials.Key.swiftPassword, r.password)]

/-! ## The storage -/

/-- Changes the configuration, also that of the registry. -/
def persist (f : Config → Config) : Work Config Unit := do
  modify fun s => { s with config := f s.config }
  let c := (← get).config
  modifySpec fun spec => { spec with swift := some c }

/-- Whether the container exists. -/
def isPresent : Work Config Bool := do
  let c := (← get).config
  if c.container = "" then unnamed
  else
    let _ ← connect s
    resourceExists (operations "") c.container

/-- Whether the configuration differs from the one that was applied. -/
def isChanged : Work Config Bool := blockChanged (·.swift)

/-- Finds or creates the container. -/
def create : Work Config Unit := do
  let infra ← Action.attempt (World.cluster .getInfrastructure)
  let r ← connect s
  let (outcome, container) ←
    onResource (operations infra.name) (← get).config.container
      (Lifecycle.ensure containerKind s.wait)
  if container ≠ "" then
    persist fun c => { c with container, authUrl := firstOf c.authUrl r.authUrl }
  Action.ofExcept outcome
  let applied := (← get).config
  modifyApplied fun spec => { spec with swift := some applied }

/-- Removes the container if the operator owns it. Says whether another pass is needed, which it
never is. -/
def remove : Work Config Bool := do
  let c := (← get).config
  if !(← isManaged) || c.container = "" then return false
  else
    let _ ← connect s
    if ← withResource (operations "") c.container (Lifecycle.remove containerKind) then
      persist ({ · with container := "" })
      modifyApplied fun spec => { spec with swift := spec.swift.map ({ · with container := "" }) }
    return false

end Depot.Swift
