import Depot.Storage.Session
import Depot.Workload

set_option autoImplicit false

/-!
# Storage in a volume

The storage of a registry in a volume of the cluster: a claim, or an empty directory that goes away
with the pod. If the claim has no name, the default claim is meant, which the operator creates; an
annotation tells it from a claim that a user made.

## Main definitions

* `Filesystem.operations` — the steps of the lifecycle of a claim.
* `Filesystem.isPresent`, `Filesystem.isChanged`, `Filesystem.create`, `Filesystem.remove` — the
  storage.
* `Filesystem.envVars`, `Filesystem.volumes` — what the workload needs.
-/

namespace Depot.Filesystem

open Storage

/-! ## Claims -/

/-- The claim that is created if none is named. -/
def defaultClaim : String := "image-registry-storage"

/-- The annotation of the operator's claims. -/
def ownerKey : String := "imageregistry.openshift.io/storage-owner"

/-- Its value. -/
def ownerValue : String := "registry-storage-operator"

/-- Where the registry keeps its images. -/
def rootDirectory : String := "/registry"

/-- What the operator's claims ask for: a hundred gibibytes that many may write to. -/
def claimSpec : Json :=
  .object [
    ("accessModes", .texts ["ReadWriteMany"]),
    ("resources", .object [("requests", .object [("storage", .text "100Gi")])])]

/-- The claim that the operator creates under a name. -/
def newClaim (name : String) : Cluster.Claim where
  metadata := {
    name := some name
    ns := some Credentials.operatorNamespace
    annotations := some (.ofList [(ownerKey, ownerValue)]) }
  spec := some claimSpec

/-- Whether the operator created a claim. -/
def isOwned (c : Cluster.Claim) : Bool :=
  c.metadata.annotation? ownerKey == some ownerValue

/-- What is fixed for claims. -/
def claimKind : Resource.Kind where
  backend := .filesystem
  noun := "claim"
  existsReason := Condition.Reason.claimExists
  notFoundReason := Condition.Reason.claimNotFound

/-- A claim, if it exists. -/
def claim? {σ : Type} (name : String) : Operating σ (Option Cluster.Claim) :=
  Action.attempt (World.cluster (.getClaim Credentials.operatorNamespace name))

/-- Creates a claim. -/
def createClaim (name : String) : Operating Unit Creation := do
  let call := World.cluster (.createClaim Credentials.operatorNamespace (newClaim name))
  match ← Action.perform call with
  | .ok () => return .created
  | .error e => if e.isConflict || e.isAlreadyExists then return .alreadyExists else throw e

/-- Deletes a claim. -/
def deleteClaim (name : String) : Operating Unit Unit := do
  let call := World.cluster (.deleteClaim Credentials.operatorNamespace name)
  unless ← Action.attempt call do
    throw (.provider .filesystem "delete-claim" name .notFound "claim does not exist")

/-- The steps of the lifecycle of a claim. -/
def operations : Resource.Operations where
  kind := claimKind
  probe name := do return if (← claim? name).isSome then .present else .absent
  create := createClaim
  delete := deleteClaim
  generate := pure defaultClaim

/-! ## What the workload needs -/

/-- The variables of the registry's environment. -/
def envVars : List EnvVar := [
  .literal "REGISTRY_STORAGE" "filesystem",
  .literal "REGISTRY_STORAGE_FILESYSTEM_ROOTDIRECTORY" rootDirectory]

/-- Where the volume is mounted. -/
def storageMount : Mount := ⟨"registry-storage", rootDirectory, false⟩

/-- The volume for a configuration. -/
def volumes (c : Config) : Mounted where
  volumes := [{
    name := storageMount.name
    source :=
      match c.claim with
      | none => .emptyDir
      | some name => .claim (if name = "" then defaultClaim else name) }]
  mounts := [storageMount]

/-! ## The storage -/

variable (s : Settings)

/-- Records that an empty directory is always there. -/
def observeEmptyDir : Work Config Unit :=
  observe .storageExists .holds "EmptyDir" "emptyDir storage is always available"

/-- Names the claim in the configuration, also in that of the registry. -/
def persist (name : String) : Work Config Unit := do
  modify fun s => { s with config := { claim := some name } }
  modifySpec fun spec => { spec with filesystem := some { claim := some name } }

/-- Recognises a default claim that the operator created before, while it is not known who owns the
storage. -/
def reclaim : Work Config Unit := do
  if (← get).registry.status.ownership.isNone then
    match ← claim? defaultClaim with
    | some c => if isOwned c then modifyStatus fun s => { s with ownership := some .managed }
    | none => pure ()

/-- Whether the volume exists. -/
def isPresent : Work Config Bool := do
  match (← get).config.claim with
  | none =>
    observeEmptyDir
    return true
  | some name => resourceExists operations name

/-- Whether the configuration differs from the one that was applied. -/
def isChanged : Work Config Bool := blockChanged (·.filesystem)

/-- Records that the configuration was applied. -/
def apply : Work Config Unit := do
  let applied := (← get).config
  modifyApplied fun spec => { spec with filesystem := some applied }

/-- Finds or creates the claim. -/
def create : Work Config Unit := do
  match (← get).config.claim with
  | none =>
    observeEmptyDir
    apply
  | some name =>
    if name = "" then reclaim
    let (outcome, name) ←
      onResource operations (if name = "" then defaultClaim else name)
        (Lifecycle.ensure claimKind s.wait)
    persist name
    Action.ofExcept outcome
    apply

/-- Removes the claim if the operator owns it. Says whether another pass is needed, which it never
is. -/
def remove : Work Config Bool := do
  let name := (← get).config.claim.getD ""
  if !(← isManaged) || name = "" then return false
  else
    if ← withResource operations name (Lifecycle.remove claimKind) then
      persist ""
      modifyApplied fun spec =>
        { spec with filesystem := spec.filesystem.map ({ · with claim := some "" }) }
    return false

end Depot.Filesystem
