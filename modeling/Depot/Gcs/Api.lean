import Depot.Credentials.Basic
import Depot.Resource

set_option autoImplicit false

/-!
# Calls to Google Cloud

What the operator asks of Google Cloud about buckets and about the tags bound to them.

## Main definitions

* `Gcs.Call`, `Gcs.Answer` — the calls and the types of their answers.
* `Gcs.Page`, `Gcs.TagPage` — the pages of listings.
-/

namespace Depot.Gcs

/-- A part of a listing of objects. -/
structure Page where
  /-- The names. -/
  names : List String := []
  /-- Where the listing goes on, if it does. -/
  next : Option String := none
  deriving Repr, DecidableEq, Inhabited

/-- A part of a listing of tags. -/
structure TagPage where
  /-- The values with their keys and parents. -/
  values : List String := []
  /-- Where the listing goes on, if it does. -/
  next : Option String := none
  deriving Repr, DecidableEq, Inhabited

/-- The calls. All but the first go through the last connection. -/
inductive Call where
  /-- Connects to the services for a location. -/
  | connect (credentials : Credentials) (location : String)
  /-- Does a bucket exist? -/
  | bucketPresence (bucket : String)
  /-- Creates a bucket. -/
  | createBucket (project bucket location : String)
  /-- Blocks public access to a bucket. -/
  | preventPublicAccess (bucket : String)
  /-- Sets the labels of a bucket. -/
  | setLabels (bucket : String) (labels : Dict String)
  /-- Sets the key of a bucket's encryption. -/
  | setDefaultKey (bucket key : String)
  /-- Lists objects. -/
  | listObjects (bucket : String) (token : Option String)
  /-- Deletes an object. -/
  | deleteObject (bucket name : String)
  /-- Deletes a bucket. -/
  | deleteBucket (bucket : String)
  /-- Lists the tags that are in effect on a resource. -/
  | listEffectiveTags (parent : String) (token : Option String)
  /-- Binds a tag to a resource. -/
  | createBinding (parent value : String)

/-- The types of the answers. -/
abbrev Answer : Call → Type
  | .bucketPresence _ => Except Error Presence
  | .createBucket _ _ _ => Except Error Creation
  | .listObjects _ _ => Except Error Page
  | .listEffectiveTags _ _ => Except Error TagPage
  | _ => Except Error Unit

end Depot.Gcs
