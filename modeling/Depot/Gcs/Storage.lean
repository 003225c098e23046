import Depot.Gcs.Bucket
import Depot.Workload

set_option autoImplicit false

/-!
# Storage in Google Cloud

The storage of a registry in a bucket of Google Cloud. The project and the location that are found
when the bucket is created become part of the configuration.

## Main definitions

* `Gcs.isPresent`, `Gcs.isChanged`, `Gcs.create`, `Gcs.remove` — the storage.
* `Gcs.envVars`, `Gcs.volumes`, `Gcs.secrets` — what the workload needs.
-/

namespace Depot.Gcs

open Storage

variable (s : Settings)

/-! ## Connecting -/

/-- The location: the configured one, or that of the cluster, or the default. -/
def Config.locationIn (c : Config) (infra : Infrastructure) : String :=
  if c.region ≠ "" then c.region else infra.gcpRegion?.getD defaultLocation

/-- The project: the configured one, or that of the cluster, or that of the key file. -/
def Config.projectIn (c : Config) (infra : Infrastructure) (credentials : Credentials) :
    Except Error String :=
  if c.projectId ≠ "" then .ok c.projectId
  else
    match infra.gcpProject? with
    | some project => .ok project
    | none =>
      match credentials.projectId? with
      | some project => .ok project
      | none => .error (.configuration "no GCP project id configured or discoverable")

/-- Connects for the cluster, and says how buckets are created and set up. -/
def connectBucket : Work Config Bucket := do
  let infra ← Action.attempt (World.cluster .getInfrastructure)
  let credentials ← Credentials.gcs s.credentials
  let c := (← get).config
  let location := c.locationIn infra
  let project ← Action.ofExcept (c.projectIn infra credentials)
  Action.attempt (World.gcs (.connect credentials location))
  return { infra, project, location, keyId := c.keyId, binding := s.binding }

/-! ## What the workload needs -/

/-- The key of the key file in the secret for the registry. -/
def keyFileKey : String := "keyfile"

/-- Where the key file is mounted. -/
def keyFileMount : Mount := ⟨"registry-storage-keyfile", "/gcs", true⟩

/-- The variables for a configuration. -/
def envVars (c : Config) : List EnvVar := [
  .literal "REGISTRY_STORAGE" "gcs",
  .literal "REGISTRY_STORAGE_GCS_BUCKET" c.bucket,
  .literal "REGISTRY_STORAGE_GCS_KEYFILE" (keyFileMount.file keyFileKey)]

/-- The volumes. -/
def volumes : Mounted where
  volumes := [⟨keyFileMount.name, .secret Credentials.privateSecret [⟨keyFileKey, keyFileKey⟩]⟩]
  mounts := [keyFileMount]

/-- The values of the secret for the registry. -/
def secrets : Work Config (Dict String) := do
  let credentials ← Credentials.gcs s.credentials
  return .ofList [(keyFileKey, credentials.keyFile)]

/-! ## The storage -/

/-- Writes the name of the bucket into the configuration. -/
def persist (bucket : String) : Work Config Unit := do
  modify fun s => { s with config := { s.config with bucket } }
  modifySpec fun spec => { spec with gcs := some { spec.gcs.getD {} with bucket } }

/-- Writes the project and the location into the configuration where it leaves them open. -/
def persistPlace (b : Bucket) : Work Config Unit := do
  if (← get).config.projectId = "" then
    modify fun s => { s with config := { s.config with projectId := b.project } }
    modifySpec fun spec =>
      { spec with gcs := some { spec.gcs.getD {} with projectId := b.project } }
  if (← get).config.region = "" then
    modify fun s => { s with config := { s.config with region := b.location } }
    modifySpec fun spec => { spec with gcs := some { spec.gcs.getD {} with region := b.location } }

/-- Whether the bucket exists. -/
def isPresent : Work Config Bool := do
  let c := (← get).config
  if c.bucket = "" then unnamed
  else resourceExists (← connectBucket s).operations c.bucket

/-- Whether the configuration differs from the one that was applied. -/
def isChanged : Work Config Bool := blockChanged (·.gcs)

/-- Finds or creates the bucket and sets it up. -/
def create : Work Config Unit := do
  let b ← connectBucket s
  let (outcome, bucket) ←
    onResource b.operations (← get).config.bucket (Lifecycle.ensure bucketKind s.wait)
  if bucket ≠ "" then persist bucket
  Action.ofExcept outcome
  persistPlace b
  let applied := (← get).config
  modifyApplied fun spec => { spec with gcs := some applied }
  withResource b.operations bucket (Lifecycle.applyHardening bucketKind)

/-- Removes the bucket if the operator owns it. Says whether another pass is needed, which it never
is. -/
def remove : Work Config Bool := do
  let c := (← get).config
  if !(← isManaged) || c.bucket = "" then return false
  else
    let b ← connectBucket s
    if ← withResource b.operations c.bucket (Lifecycle.remove bucketKind) then
      persist ""
      modifyApplied fun spec => { spec with gcs := spec.gcs.map ({ · with bucket := "" }) }
    return false

end Depot.Gcs
