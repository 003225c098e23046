import Depot.Json.Printer
import Depot.Storage.Session

set_option autoImplicit false

/-!
# Buckets of S3

How the steps of the lifecycle are done for a bucket of S3. A bucket keeps all versions of its
objects, so emptying it deletes every version, in batches; a version that cannot be deleted does
not keep the others from being deleted.

## Main definitions

* `S3.bucketTags` — the tags of the operator's buckets.
* `S3.empty` — deletes all versions of all objects.
* `S3.Bucket`, `S3.Bucket.operations` — the steps of the lifecycle.
-/

namespace Depot.S3

/-- The region if neither the configuration nor the cluster gives one. -/
def defaultRegion : String := "us-east-1"

/-- The rule that ends uploads which were not completed. -/
def abortRuleId : String := "cleanup-incomplete-multipart-registry-uploads"

/-- After how many days such uploads end. -/
def abortAfterDays : Nat := 1

/-- How many objects one call may delete. -/
def batchSize : Nat := 1000

/-- The tags of the operator's buckets: those that users want on all resources, and the operator's
own, which cannot be overridden. -/
def bucketTags (infra : Infrastructure) : Dict String :=
  let user := (infra.platform.aws.elim [] (·.resourceTags)).map fun t => (t.key, t.value)
  ((Dict.ofList user).insert ("kubernetes.io/cluster/" ++ infra.name) "owned").insert "Name"
    (infra.name ++ "-image-registry")

/-! ## Emptying -/

/-- The pieces of a list with at most `size + 1` items each. -/
def batchesFrom {α : Type} (size : Nat) : Nat → List α → List (List α)
  | 0, _ => []
  | _, [] => []
  | limit + 1, xs => xs.take (size + 1) :: batchesFrom size limit (xs.drop (size + 1))

/-- The batches in which objects are deleted. -/
def batches (objects : List Object) : List (List Object) :=
  batchesFrom (batchSize - 1) objects.length objects

/-- The record of an object that could not be deleted; none for an object that is gone. -/
def DeleteFailure.record? (bucket : String) (f : DeleteFailure) : Option Failure :=
  if f.code = "NoSuchKey" then none
  else
    some (Failure.ofError "delete-object" (bucket ++ "/" ++ f.key)
      (.internal (f.code ++ ": " ++ f.message)))

/-- Deletes batches of objects; answers with the failures. -/
def deleteBatches (bucket : String) : List (List Object) → Operating Unit (List Failure)
  | [] => return []
  | batch :: rest => do
    let left ← Action.attempt (World.s3 (.deleteObjects bucket batch))
    return left.filterMap (DeleteFailure.record? bucket) ++ (← deleteBatches bucket rest)

/-- Deletes the objects of one page of the listing; goes on with the next page, or ends with all
failures. -/
def emptyPage (bucket : String) (failures : List Failure) (marker : Option Marker) :
    Operating Unit ((List Failure × Option Marker) ⊕ List Failure) := do
  let page ← Action.attempt (World.s3 (.listVersions bucket marker))
  let failures := failures ++ (← deleteBatches bucket (batches page.objects))
  match page.next with
  | some next => return .inl (failures, some next)
  | none => return .inr failures

/-- Deletes all versions of all objects. -/
def empty (bucket : String) : Operating Unit Unit := do
  let failures ← Action.loop (fun (failures, marker) => emptyPage bucket failures marker) ([], none)
  Action.ofExcept (Error.ofFailures failures)

/-! ## The lifecycle -/

/-- How buckets are created and set up. -/
structure Bucket where
  /-- The cluster. -/
  infra : Infrastructure
  /-- The region. -/
  region : String
  /-- The encryption. -/
  encryption : Encryption

/-- What is fixed for buckets. -/
def bucketKind : Resource.Kind where
  backend := .s3
  noun := "bucket"
  existsReason := Condition.Reason.bucketExists
  notFoundReason := Condition.Reason.bucketNotFound
  hardening := [.blockPublicAccess, .tag, .encrypt, .abortIncompleteUploads]

/-- The encryption that is asked for. -/
def Encryption.ofKey (keyId : String) : Encryption := if keyId = "" then .aes256 else .kms keyId

/-- The words about an encryption. -/
def Encryption.summary : Encryption → String
  | .aes256 => "Default AES256 encryption was enabled on the S3 bucket"
  | .kms _ => "Default aws:kms encryption was enabled on the S3 bucket"

/-- Applies a setting. -/
def Bucket.harden (b : Bucket) (name : String) : Hardening → Operating Unit String
  | .blockPublicAccess => do
    Action.attempt (World.s3 (.putPublicAccessBlock name))
    return "Public access to the S3 bucket and its contents has been blocked"
  | .tag => do
    let tags := bucketTags b.infra
    Action.attempt (World.s3 (.putBucketTagging name tags))
    return "Tags were applied to the S3 bucket: " ++ toString tags.entries.length
  | .encrypt => do
    Action.attempt (World.s3 (.putBucketEncryption name b.encryption))
    return b.encryption.summary
  | .abortIncompleteUploads => do
    Action.attempt (World.s3 (.putAbortRule name abortRuleId abortAfterDays))
    return "Incomplete multipart uploads are aborted after one day"

/-- The steps of the lifecycle. -/
def Bucket.operations (b : Bucket) : Resource.Operations where
  kind := bucketKind
  probe name := Action.attempt (World.s3 (.headBucket name))
  create name := Action.attempt (World.s3 (.createBucket name b.region))
  harden := b.harden
  empty := empty
  delete name := Action.attempt (World.s3 (.deleteBucket name))
  generate := do
    let digits ← Action.perform World.randomDigits
    Action.ofExcept (Naming.storageName b.infra.name [b.region] Naming.maxBucketLength digits)

end Depot.S3
