import Depot.Json.Decode
import Depot.Time.Timestamp

set_option autoImplicit false

/-!
# Conditions

A condition is a named fact about the storage that holds, does not hold or is unknown. There is at
most one condition of a kind that counts, the first; it is created when the fact is first observed
and updated from then on.

## Main definitions

* `Condition` — conditions, with `Condition.Kind` and `Condition.Status`.
* `Condition.upsert` — records an observation.
* `Condition.find?` — the condition of a kind.
-/

namespace Depot

/-- What a condition is about. -/
inductive Condition.Kind where
  | storageExists
  | storageTagged
  | storageEncrypted
  | publicAccessBlocked
  | uploadCleanupEnabled
  deriving Repr, DecidableEq, Inhabited

/-- Whether a condition holds. -/
inductive Condition.Status where
  | holds
  | fails
  | unknown
  deriving Repr, DecidableEq, Inhabited

/-- A fact about the storage. -/
structure Condition where
  /-- What the condition is about. -/
  kind : Condition.Kind
  /-- Whether it holds. -/
  status : Condition.Status
  /-- The reason for programs. -/
  reason : String
  /-- The reason for people. -/
  message : String
  /-- When the status last changed. -/
  lastTransition : Option Timestamp
  deriving Repr, DecidableEq, Inhabited

namespace Condition

namespace Kind

/-- The name of a kind. -/
def name : Kind → String
  | .storageExists => "StorageExists"
  | .storageTagged => "StorageTagged"
  | .storageEncrypted => "StorageEncrypted"
  | .publicAccessBlocked => "StoragePublicAccessBlocked"
  | .uploadCleanupEnabled => "StorageIncompleteUploadCleanupEnabled"

/-- All kinds. -/
def all : List Kind :=
  [.storageExists, .storageTagged, .storageEncrypted, .publicAccessBlocked, .uploadCleanupEnabled]

/-- The kind of that name. -/
def ofName? (s : String) : Option Kind := all.find? (·.name == s)

/-- A kind as JSON. -/
def toJson (k : Kind) : Json := .text k.name

/-- Reads a kind. -/
def ofJson : Json → Json.Decoded Kind := Json.variant ofName?

end Kind

namespace Status

/-- The name of a status. -/
def name : Status → String
  | .holds => "True"
  | .fails => "False"
  | .unknown => "Unknown"

/-- All statuses. -/
def all : List Status := [.holds, .fails, .unknown]

/-- The status of that name. -/
def ofName? (s : String) : Option Status := all.find? (·.name == s)

/-- A status as JSON. -/
def toJson (s : Status) : Json := .text s.name

/-- Reads a status. -/
def ofJson : Json → Json.Decoded Status := Json.variant ofName?

end Status

/-! ## Recording observations -/

/-- A condition after another observation of its kind: the time moves only with the status. -/
def observe (c : Condition) (status : Status) (reason message : String) (now : Timestamp) :
    Condition :=
  { c with
    status, reason, message
    lastTransition := if c.status = status then c.lastTransition else some now }

/-- Records an observation: the first condition of the kind is updated, or one is added at the
end. -/
def upsert (kind : Kind) (status : Status) (reason message : String) (now : Timestamp) :
    List Condition → List Condition
  | [] => [⟨kind, status, reason, message, some now⟩]
  | c :: rest =>
    if c.kind = kind then c.observe status reason message now :: rest
    else c :: upsert kind status reason message now rest

/-- The condition of a kind. -/
def find? (kind : Kind) (conditions : List Condition) : Option Condition :=
  conditions.find? (·.kind = kind)

/-! ## JSON -/

/-- Reads a timestamp. -/
def timestampOfJson (v : Json) : Json.Decoded Timestamp :=
  match Json.string v with
  | .error e => .error e
  | .ok s =>
    match Timestamp.parse? s with
    | some t => .ok t
    | none => .error (.expected "a timestamp")

/-- A condition as JSON. -/
def toJson (c : Condition) : Json :=
  .object [
    ("type", c.kind.toJson),
    ("status", c.status.toJson),
    ("reason", .text c.reason),
    ("message", .text c.message),
    ("lastTransitionTime", .textOrNull (c.lastTransition.map Timestamp.text))]

/-- Reads a condition. -/
def ofJson (v : Json) : Json.Decoded Condition := do
  let fs ← Json.record ["type", "status", "reason", "message", "lastTransitionTime"] v
  return {
    kind := ← fs.required "type" Kind.ofJson
    status := ← fs.required "status" Status.ofJson
    reason := ← fs.orEmpty "reason"
    message := ← fs.orEmpty "message"
    lastTransition := ← fs.orNone "lastTransitionTime" timestampOfJson }

/-! ## Reasons -/

namespace Reason

/-- The bucket exists. -/
def bucketExists : String := "BucketExists"

/-- The bucket does not exist. -/
def bucketNotFound : String := "BucketNotFound"

/-- The container exists. -/
def containerExists : String := "ContainerExists"

/-- The container does not exist. -/
def containerNotFound : String := "ContainerNotFound"

/-- The claim exists. -/
def claimExists : String := "ClaimExists"

/-- The claim does not exist. -/
def claimNotFound : String := "ClaimNotFound"

/-- There is no name of a resource yet. -/
def notConfigured : String := "StorageNotConfigured"

/-- The resource was created. -/
def creationSuccessful : String := "CreationSuccessful"

/-- The resource belongs to someone else. -/
def notAccessible : String := "NotAccessible"

/-- The resource could not be created. -/
def creationFailed : String := "CreationFailed"

/-- The configuration differs from the applied one. -/
def configurationChanged : String := "ConfigurationChanged"

/-- Nothing could be observed. -/
def unknownError : String := "Unknown"

/-- The resource was removed. -/
def deleted : String := "Deleted"

/-- The resource could not be removed. -/
def deletionFailed : String := "DeletionFailed"

/-- A setting was applied. -/
def applied : String := "Applied"

/-- A setting could not be applied. -/
def failed : String := "Failed"

end Reason

end Condition

end Depot
