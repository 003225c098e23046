import Depot.Error
import Depot.Text.Quoted

set_option autoImplicit false

/-!
# Statuses of the cluster

What the cluster says about a request in place of an object: that it was refused, or that it was
carried out, with details.

## Main definitions

* `Cluster.refusalOfJson` — reads a refusal.
* `Cluster.Verdict`, `Cluster.Verdict.ofJson` — the status of a request.
-/

namespace Depot.Cluster

/-- Reads a refusal. -/
def refusalOfJson (v : Json) : Json.Decoded ApiStatus := do
  let fs ← Json.record ["status", "message", "reason", "code"] v
  return {
    status := ← fs.required "status" Json.string
    message := ← fs.orEmpty "message"
    reason := ← fs.orEmpty "reason"
    code := ← fs.required "code" (Json.word 16) }

/-- A cause of a refusal. -/
structure Cause where
  /-- The kind of the cause. -/
  reason : String
  /-- The cause in words. -/
  message : String
  /-- The field that is to blame. -/
  field : String
  deriving Repr, DecidableEq, Inhabited

/-- Reads a cause. -/
def Cause.ofJson (v : Json) : Json.Decoded Cause := do
  let fs ← Json.record ["reason", "message", "field"] v
  return {
    reason := ← fs.orEmpty "reason"
    message := ← fs.orEmpty "message"
    field := ← fs.orEmpty "field" }

/-- The object that a status is about, and causes. -/
structure Details where
  /-- The name of the object. -/
  name : String
  /-- The group of its kind. -/
  group : String
  /-- Its kind. -/
  kind : String
  /-- Its identifier. -/
  uid : String
  /-- The causes. -/
  causes : List Cause
  /-- The seconds after which to try again. -/
  retryAfter : Nat
  deriving Repr, DecidableEq, Inhabited

/-- Reads details. -/
def Details.ofJson (v : Json) : Json.Decoded Details := do
  let fs ← Json.record ["name", "group", "kind", "uid", "causes", "retryAfterSeconds"] v
  return {
    name := ← fs.orEmpty "name"
    group := ← fs.orEmpty "group"
    kind := ← fs.orEmpty "kind"
    uid := ← fs.orEmpty "uid"
    causes := ← fs.orDefault "causes" [] (Json.list Cause.ofJson)
    retryAfter := ← fs.orDefault "retryAfterSeconds" 0 (Json.word 32) }

/-- The status of a request. -/
structure Verdict where
  /-- Whether the request was carried out, if the cluster says so. -/
  succeeded : Option Bool
  /-- The status as a number. -/
  code : Nat
  /-- The status in words. -/
  message : String
  /-- The kind of refusal. -/
  reason : String
  /-- The object, and causes. -/
  details : Option Details
  deriving Repr, DecidableEq, Inhabited

/-- The two outcomes by their names. -/
def outcomeOfName? : String → Option Bool
  | "Success" => some true
  | "Failure" => some false
  | _ => none

/-- Reads the status of a request. -/
def Verdict.ofJson (v : Json) : Json.Decoded Verdict := do
  let fs ← Json.record ["status", "code", "message", "reason", "details"] v
  return {
    succeeded := ← fs.orNone "status" (Json.variant outcomeOfName?)
    code := ← fs.orDefault "code" 0 (Json.word 16)
    message := ← fs.orEmpty "message"
    reason := ← fs.orEmpty "reason"
    details := ← fs.orNone "details" Details.ofJson }

end Depot.Cluster
