import Depot.Rehearsal.State

set_option autoImplicit false

/-!
# Rehearsed calls to S3

A store is a bucket.

## Main definitions

* `Rehearsal.S3.answer` — the answer to each call.
-/

namespace Depot.Rehearsal.S3

open Depot.S3 (Call Answer Endpoint Encryption Marker Page DeleteFailure)

/-- Connects. -/
def connect (c : Depot.S3.Credentials) (e : Endpoint) : Trial Unit := do
  let _ ← call "connect_s3" [.text c.accessKeyId, .text e.region, .text e.regionEndpoint,
    .bool e.virtualHostedStyle]

/-- Does a bucket exist? -/
def headBucket (bucket : String) : Trial Presence := do
  let outcome ← call "head_bucket" [.text bucket]
  return outcome.presence (← hasStore bucket)

/-- Creates a bucket. -/
def createBucket (bucket region : String) : Trial Creation := do
  let outcome ← call "create_bucket" [.text bucket, .text region]
  creation outcome (← hasStore bucket) (putStore bucket (.ofAttributes [("region", .text region)]))

/-- An encryption as it is noted. -/
def encryptionToJson : Encryption → Json
  | .aes256 => .text "AES256"
  | .kms key => .object [("kms", .text key)]

/-- A place in a listing as it is noted. -/
def markerToJson (m : Marker) : Json := .arr [.textOrNull m.key, .textOrNull m.versionId]

/-- A place in a listing as the object at it. -/
def Marker.object (m : Marker) : Object := ⟨m.key.getD "", m.versionId⟩

/-- Lists the versions of objects. -/
def listVersions (bucket : String) (marker : Option Marker) : Trial Page := do
  let method := "list_object_versions"
  let _ ← call method [.text bucket, (marker.map markerToJson).getD .null]
  let s ← storeFor method bucket
  let (objects, last) := page (← get).cloud.pageSize (s.objectsAfter (marker.map Marker.object))
  return {
    objects := objects.map fun o => ⟨o.key, o.version⟩
    next := last.map fun o => ⟨some o.key, o.version⟩ }

/-- Deletes versions of objects but those that the script leaves. -/
def deleteObjects (bucket : String) (objects : List Depot.S3.Object) :
    Trial (List DeleteFailure) := do
  let method := "delete_objects"
  let key (o : Option Depot.S3.Object) : Json := .textOrNull (o.map (·.key))
  let outcome ← call method
    [.text bucket, .nat objects.length, key objects.head?, key objects.getLast?]
  let s ← storeFor method bucket
  let failures :=
    match outcome with
    | .left failures => failures
    | _ => []
  let gone := objects.filter fun o => !failures.any (·.key == o.key)
  putStore bucket (s.eraseAll (gone.map fun o => ⟨o.key, o.versionId⟩))
  return failures

/-- The answer to each call. -/
def answer : (c : Call) → Rehearsal (Answer c)
  | .connect credentials endpoint => (connect credentials endpoint).run
  | .headBucket bucket => (headBucket bucket).run
  | .createBucket bucket region => (createBucket bucket region).run
  | .putPublicAccessBlock bucket =>
    (setting "put_public_access_block" bucket [] "blocked" (.bool true)).run
  | .putBucketTagging bucket tags =>
    let tags := tags.toJson .text
    (setting "put_bucket_tagging" bucket [tags] "tags" tags).run
  | .putBucketEncryption bucket encryption =>
    let value := encryptionToJson encryption
    (setting "put_bucket_encryption" bucket [value] "encryption" value).run
  | .putAbortRule bucket ruleId days =>
    let rule := [.text ruleId, .nat days]
    (setting "put_abort_incomplete_uploads_rule" bucket rule "rule" (.arr rule)).run
  | .listVersions bucket marker => (listVersions bucket marker).run
  | .deleteObjects bucket objects => (deleteObjects bucket objects).run
  | .deleteBucket bucket => (deleting "delete_bucket" bucket).run

end Depot.Rehearsal.S3
