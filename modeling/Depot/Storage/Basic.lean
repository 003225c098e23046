import Depot.Azure.Storage
import Depot.Filesystem.Storage
import Depot.Gcs.Storage
import Depot.S3.Storage
import Depot.Swift.Storage

set_option autoImplicit false

/-!
# The storage of a registry

The storage that a configuration asks for, in the one backend that has a block in it. A
configuration without a block can be completed from the platform of the cluster first. All backends
have the same operations.

## Main definitions

* `Storage` — a block of configuration, with the backend it is for.
* `Storage.ofSpec`, `Storage.infer` — the storage that a configuration asks for.
* `Storage.isPresent`, `Storage.isChanged`, `Storage.create`, `Storage.remove` — the operations.
* `Storage.environment`, `Storage.mounted`, `Storage.secrets`, `Storage.trust` — what the workload
  of the registry needs.
-/

namespace Depot

/-- A block of configuration, with the backend it is for. -/
inductive Storage where
  | s3 (config : S3.Config)
  | azure (config : Azure.Config)
  | gcs (config : Gcs.Config)
  | swift (config : Swift.Config)
  | filesystem (config : Filesystem.Config)
  deriving Repr, DecidableEq, Inhabited

namespace Storage

/-- The backend. -/
def backend : Storage → Backend
  | .s3 _ => .s3
  | .azure _ => .azure
  | .gcs _ => .gcs
  | .swift _ => .swift
  | .filesystem _ => .filesystem

/-- The name of the bucket, container or claim; empty if it has none yet. -/
def id : Storage → String
  | .s3 c => c.bucket
  | .azure c => c.container
  | .gcs c => c.bucket
  | .swift c => c.container
  | .filesystem c => c.claim.getD ""

/-! ## Selection -/

/-- The block for a backend, without settings if there is none. -/
def block (spec : Spec) : Backend → Storage
  | .s3 => .s3 (spec.s3.getD {})
  | .azure => .azure (spec.azure.getD {})
  | .gcs => .gcs (spec.gcs.getD {})
  | .swift => .swift (spec.swift.getD {})
  | .filesystem => .filesystem (spec.filesystem.getD {})

/-- The storage that a configuration asks for: it must have exactly one block. -/
def ofSpec (spec : Spec) : Except Error Storage :=
  match spec.configured with
  | [] => .error .notConfigured
  | [b] => .ok (block spec b)
  | bs => .error (.multipleBackends bs)

/-- The storage that a configuration asks for, or if it has no block that of the cluster's platform;
answers also with the configuration that was used. -/
def infer {σ : Type} (spec : Spec) : Operating σ (Storage × Spec) := do
  let spec ←
    if spec.isEmpty then do
      let infra ← Action.attempt (World.cluster .getInfrastructure)
      pure infra.defaultSpec
    else pure spec
  return (← Action.ofExcept (ofSpec spec), spec)

/-! ## Operations -/

/-- Work on one block as work on the storage. -/
def within {C α : Type} (wrap : C → Storage) (config : C) (work : Work C α) : Work Storage α :=
  Action.ofRun fun s =>
    (work.start ⟨config, s.registry⟩).bind fun (r, t) => .pure (r, ⟨wrap t.config, t.registry⟩)

variable (s : Settings)

/-- Whether the storage exists. -/
def isPresent : Work Storage Bool := do
  match (← get).config with
  | .s3 c => within .s3 c (S3.isPresent s)
  | .azure c => within .azure c (Azure.isPresent s)
  | .gcs c => within .gcs c (Gcs.isPresent s)
  | .swift c => within .swift c (Swift.isPresent s)
  | .filesystem c => within .filesystem c Filesystem.isPresent

/-- Whether the configuration differs from the one that was applied. -/
def isChanged : Work Storage Bool := do
  match (← get).config with
  | .s3 c => within .s3 c S3.isChanged
  | .azure c => within .azure c Azure.isChanged
  | .gcs c => within .gcs c Gcs.isChanged
  | .swift c => within .swift c Swift.isChanged
  | .filesystem c => within .filesystem c Filesystem.isChanged

/-- Finds or creates the storage and sets it up. -/
def create : Work Storage Unit := do
  match (← get).config with
  | .s3 c => within .s3 c (S3.create s)
  | .azure c => within .azure c (Azure.create s)
  | .gcs c => within .gcs c (Gcs.create s)
  | .swift c => within .swift c (Swift.create s)
  | .filesystem c => within .filesystem c (Filesystem.create s)

/-- Removes the storage if the operator owns it. Says whether another pass is needed. -/
def remove : Work Storage Bool := do
  match (← get).config with
  | .s3 c => within .s3 c (S3.remove s)
  | .azure c => within .azure c (Azure.remove s)
  | .gcs c => within .gcs c (Gcs.remove s)
  | .swift c => within .swift c (Swift.remove s)
  | .filesystem c => within .filesystem c Filesystem.remove

/-! ## What the workload needs -/

/-- The variables of the registry's environment. -/
def environment : Work Storage (List EnvVar) := do
  match (← get).config with
  | .s3 c => within .s3 c S3.environment
  | .azure c => within .azure c Azure.environment
  | .gcs c => return Gcs.envVars c
  | .swift c => within .swift c (Swift.environment s)
  | .filesystem _ => return Filesystem.envVars

/-- The volumes of the registry and their mounts. -/
def mounted : Storage → Mounted
  | .s3 c => S3.volumes c
  | .azure _ => {}
  | .gcs _ => Gcs.volumes
  | .swift _ => {}
  | .filesystem c => Filesystem.volumes c

/-- The values of the secret for the registry. -/
def secrets : Work Storage (Dict String) := do
  match (← get).config with
  | .s3 c => within .s3 c (S3.secrets s)
  | .azure c => within .azure c (Azure.secrets s)
  | .gcs c => within .gcs c (Gcs.secrets s)
  | .swift c => within .swift c (Swift.secrets s)
  | .filesystem _ => return .empty

/-- The certificates that the registry trusts. -/
def trust : Work Storage Trust := do
  match (← get).config with
  | .s3 c => within .s3 c S3.trust
  | _ => return {}

end Storage

end Depot
