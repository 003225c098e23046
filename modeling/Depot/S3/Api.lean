import Depot.Credentials.Basic
import Depot.Resource

set_option autoImplicit false

/-!
# Calls to S3

What the operator asks of S3 or a compatible service.

## Main definitions

* `S3.Call`, `S3.Answer` — the calls and the types of their answers.
* `S3.Object`, `S3.Marker`, `S3.Page` — versions of objects and the pages in which they are listed.
-/

namespace Depot.S3

/-- Where and how to reach the service. -/
structure Endpoint where
  /-- The region. -/
  region : String
  /-- The address of a compatible service. -/
  regionEndpoint : String
  /-- Whether the bucket is part of the host name. -/
  virtualHostedStyle : Bool
  deriving Repr, DecidableEq, Inhabited

/-- How a bucket encrypts its objects. -/
inductive Encryption where
  /-- With keys of the provider. -/
  | aes256
  /-- With a key of the customer. -/
  | kms (keyId : String)
  deriving Repr, DecidableEq, Inhabited

/-- A version of an object. -/
structure Object where
  /-- The key. -/
  key : String
  /-- The version. -/
  versionId : Option String
  deriving Repr, DecidableEq, Inhabited

/-- Where a listing goes on. -/
structure Marker where
  /-- The key. -/
  key : Option String
  /-- The version. -/
  versionId : Option String
  deriving Repr, DecidableEq, Inhabited

/-- A part of a listing. -/
structure Page where
  /-- The objects. -/
  objects : List Object
  /-- Where the listing goes on, if it does. -/
  next : Option Marker
  deriving Repr, DecidableEq, Inhabited

/-- An object that a deletion of many could not delete. -/
structure DeleteFailure where
  /-- The key. -/
  key : String
  /-- The reason for programs. -/
  code : String
  /-- The reason for people. -/
  message : String
  deriving Repr, DecidableEq, Inhabited

/-- The calls. All but the first go through the last connection. -/
inductive Call where
  /-- Connects. -/
  | connect (credentials : Credentials) (endpoint : Endpoint)
  /-- Does a bucket exist? -/
  | headBucket (bucket : String)
  /-- Creates a bucket. -/
  | createBucket (bucket region : String)
  /-- Blocks public access to a bucket. -/
  | putPublicAccessBlock (bucket : String)
  /-- Sets the tags of a bucket. -/
  | putBucketTagging (bucket : String) (tags : Dict String)
  /-- Sets the encryption of a bucket. -/
  | putBucketEncryption (bucket : String) (encryption : Encryption)
  /-- Sets the rule that ends uploads which were not completed in some days. -/
  | putAbortRule (bucket ruleId : String) (days : Nat)
  /-- Lists the versions of objects. -/
  | listVersions (bucket : String) (marker : Option Marker)
  /-- Deletes versions of objects; answers with those that are left. -/
  | deleteObjects (bucket : String) (objects : List Object)
  /-- Deletes a bucket. -/
  | deleteBucket (bucket : String)

/-- The types of the answers. -/
abbrev Answer : Call → Type
  | .headBucket _ => Except Error Presence
  | .createBucket _ _ => Except Error Creation
  | .listVersions _ _ => Except Error Page
  | .deleteObjects _ _ => Except Error (List DeleteFailure)
  | _ => Except Error Unit

end Depot.S3
