import Depot.Rehearsal.State

set_option autoImplicit false

/-!
# Rehearsed calls to Google Cloud

A store is a bucket. Tags can be bound to any resource, also to one that is not there.

## Main definitions

* `Rehearsal.Gcs.answer` — the answer to each call.
-/

namespace Depot.Rehearsal.Gcs

open Depot.Gcs (Call Answer Page TagPage)

/-- Connects. -/
def connect (c : Depot.Gcs.Credentials) (location : String) : Trial Unit := do
  let _ ← call "connect_gcs" [.text c.source.name, .text location]

/-- Does a bucket exist? -/
def bucketPresence (bucket : String) : Trial Presence := do
  let outcome ← call "bucket_presence" [.text bucket]
  return outcome.presence (← hasStore bucket)

/-- Creates a bucket. -/
def createBucket (project bucket location : String) : Trial Creation := do
  let outcome ← call "create_bucket" [.text project, .text bucket, .text location]
  creation outcome (← hasStore bucket)
    (putStore bucket (.ofAttributes [("project", .text project), ("location", .text location)]))

/-- Lists objects. -/
def listObjects (bucket : String) (token : Option String) : Trial Page := do
  let method := "list_objects"
  let outcome ← call method [.text bucket, .textOrNull token]
  let s ← storeFor method bucket
  match outcome with
  | .names p => return p
  | _ =>
    let (names, next) := page (← get).cloud.pageSize (s.keysAfter token)
    return { names, next }

/-- Lists the tags in effect on a resource and those bound to it. -/
def listEffectiveTags (parent : String) (token : Option String) : Trial TagPage := do
  let outcome ← call "list_effective_tags" [.text parent, .textOrNull token]
  let cloud := (← get).cloud
  let bound := (cloud.bindings.filter (·.1 == parent)).map (·.2)
  let usual : TagPage := { values := (cloud.effective.get? parent).getD [] ++ bound }
  match outcome with
  | .tags delay p =>
    wait delay
    return p.getD usual
  | _ => return usual

/-- Binds a tag to a resource. -/
def createBinding (parent value : String) : Trial Unit := do
  let _ ← call "create_binding" [.text parent, .text value]
  let _ ← nextOutcome ("create_binding " ++ value)
  modifyCloud fun c => { c with bindings := c.bindings ++ [(parent, value)] }

/-- The answer to each call. -/
def answer : (c : Call) → Rehearsal (Answer c)
  | .connect credentials location => (connect credentials location).run
  | .bucketPresence bucket => (bucketPresence bucket).run
  | .createBucket project bucket location => (createBucket project bucket location).run
  | .preventPublicAccess bucket =>
    (setting "enforce_public_access_prevention" bucket [] "blocked" (.bool true)).run
  | .setLabels bucket labels =>
    let labels := labels.toJson .text
    (setting "set_labels" bucket [labels] "labels" labels).run
  | .setDefaultKey bucket key =>
    (setting "set_default_kms_key" bucket [.text key] "kms" (.text key)).run
  | .listObjects bucket token => (listObjects bucket token).run
  | .deleteObject bucket name => (deletingObject "delete_object" bucket name).run
  | .deleteBucket bucket => (deleting "delete_bucket" bucket).run
  | .listEffectiveTags parent token => (listEffectiveTags parent token).run
  | .createBinding parent value => (createBinding parent value).run

end Depot.Rehearsal.Gcs
