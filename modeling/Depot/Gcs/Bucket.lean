import Depot.Storage.Session

set_option autoImplicit false

/-!
# Buckets of Google Cloud

How the steps of the lifecycle are done for a bucket of Google Cloud. An object that cannot be
deleted does not keep the others from being deleted.

## Main definitions

* `Gcs.bucketLabels` — the labels of the operator's buckets.
* `Gcs.empty` — deletes all objects.
* `Gcs.Bucket`, `Gcs.Bucket.operations` — the steps of the lifecycle.
-/

namespace Depot.Gcs

/-- The location if neither the configuration nor the cluster gives one. -/
def defaultLocation : String := "us-central1"

/-- The labels of the operator's buckets: those that users want on all resources, and the
operator's own, which cannot be overridden. -/
def bucketLabels (infra : Infrastructure) : Dict String :=
  let user := (infra.platform.gcp.elim [] (·.resourceLabels)).map fun t => (t.key, t.value)
  (Dict.ofList user).insert ("kubernetes-io-cluster-" ++ infra.name) "owned"

/-! ## Emptying -/

/-- Deletes objects one by one; answers with the failures. -/
def deleteObjects (bucket : String) : List String → Operating Unit (List Failure) :=
  Storage.deleteEach (fun name => World.gcs (.deleteObject bucket name)) bucket

/-- Deletes the objects of one page of the listing; goes on with the next page, or ends with all
failures. -/
def emptyPage (bucket : String) (failures : List Failure) (token : Option String) :
    Operating Unit ((List Failure × Option String) ⊕ List Failure) := do
  let page ← Action.attempt (World.gcs (.listObjects bucket token))
  let failures := failures ++ (← deleteObjects bucket page.names)
  match Binding.nextToken? page.next with
  | some token => return .inl (failures, some token)
  | none => return .inr failures

/-- Deletes all objects. -/
def empty (bucket : String) : Operating Unit Unit := do
  let failures ← Action.loop (fun (failures, token) => emptyPage bucket failures token) ([], none)
  Action.ofExcept (Error.ofFailures failures)

/-! ## The lifecycle -/

/-- How buckets are created and set up. -/
structure Bucket where
  /-- The cluster. -/
  infra : Infrastructure
  /-- The project. -/
  project : String
  /-- The location. -/
  location : String
  /-- The key of the encryption; that of the provider when empty. -/
  keyId : String
  /-- How tags are bound. -/
  binding : Binding.Settings

/-- What is fixed for buckets. -/
def bucketKind : Resource.Kind where
  backend := .gcs
  noun := "bucket"
  existsReason := Condition.Reason.bucketExists
  notFoundReason := Condition.Reason.bucketNotFound
  hardening := [.blockPublicAccess, .tag, .encrypt]

/-- The tags that are bound to buckets. -/
def Bucket.tags (b : Bucket) : List GcpTag := b.infra.platform.gcp.elim [] (·.resourceTags)

/-- Applies a setting. -/
def Bucket.harden (b : Bucket) (name : String) : Hardening → Operating Unit String
  | .blockPublicAccess => do
    Action.attempt (World.gcs (.preventPublicAccess name))
    return "Public access prevention is enforced on the GCS bucket"
  | .tag => do
    let labels := bucketLabels b.infra
    Action.attempt (World.gcs (.setLabels name labels))
    if b.tags.isEmpty then
      return "Labels were applied to the GCS bucket: " ++ toString labels.entries.length
    else
      let bound ← Binding.bind b.binding (Binding.bucketName name) b.tags
      return "Labels were applied and " ++ toString bound.length
        ++ " new tag(s) bound to the GCS bucket"
  | .encrypt => do
    if b.keyId = "" then return "The GCS bucket uses Google-managed encryption keys"
    else
      Action.attempt (World.gcs (.setDefaultKey name b.keyId))
      return "Default KMS key was set on the GCS bucket"
  | step => throw (.internal ("unsupported GCS hardening step " ++ step.name))

/-- The steps of the lifecycle. -/
def Bucket.operations (b : Bucket) : Resource.Operations where
  kind := bucketKind
  probe name := Action.attempt (World.gcs (.bucketPresence name))
  create name := Action.attempt (World.gcs (.createBucket b.project name b.location))
  harden := b.harden
  empty := empty
  delete name := Action.attempt (World.gcs (.deleteBucket name))
  generate := do
    let digits ← Action.perform World.randomDigits
    Action.ofExcept (Naming.storageName b.infra.name [] Naming.maxBucketLength digits)

end Depot.Gcs
