import Depot.Condition
import Depot.Spec

set_option autoImplicit false

/-!
# The storage of a registry

The configuration that a user wants together with what the operator has observed and applied.

## Main definitions

* `Ownership` — whether the operator owns the storage.
* `Status` — the observed state, with `Status.record` to record an observation.
* `Registry` — configuration and state together.
-/

namespace Depot

/-- Whether the operator owns the storage. -/
inductive Ownership where
  /-- Created by the operator, which sets it up and may remove it. -/
  | managed
  /-- There before the operator, which leaves it as it is. -/
  | unmanaged
  /-- Removed by the operator. -/
  | removed
  deriving Repr, DecidableEq, Inhabited

namespace Ownership

/-- The name of a kind of ownership. -/
def name : Ownership → String
  | .managed => "Managed"
  | .unmanaged => "Unmanaged"
  | .removed => "Removed"

/-- All kinds of ownership. -/
def all : List Ownership := [.managed, .unmanaged, .removed]

/-- The kind of ownership of that name. -/
def ofName? (s : String) : Option Ownership := all.find? (·.name == s)

/-- A kind of ownership as JSON. -/
def toJson (o : Ownership) : Json := .text o.name

/-- Reads a kind of ownership. -/
def ofJson : Json → Json.Decoded Ownership := Json.variant ofName?

end Ownership

/-- The observed state of the storage. -/
structure Status where
  /-- Whether the operator owns the storage, once that is known. -/
  ownership : Option Ownership := none
  /-- The configuration that was applied last. -/
  applied : Spec := {}
  /-- The conditions. -/
  conditions : List Condition := []
  deriving Repr, DecidableEq, Inhabited

namespace Status

/-- Whether the operator owns the storage. -/
def isManaged (s : Status) : Bool := s.ownership == some .managed

/-- Records an observation. -/
def record (s : Status) (kind : Condition.Kind) (status : Condition.Status)
    (reason message : String) (now : Timestamp) : Status :=
  { s with conditions := Condition.upsert kind status reason message now s.conditions }

/-- Records that the storage has no name yet. -/
def recordUnnamed (s : Status) (now : Timestamp) : Status :=
  s.record .storageExists .fails Condition.Reason.notConfigured "Storage is not configured" now

/-- Records that the configuration differs from the one that was applied. -/
def recordChanged (s : Status) (now : Timestamp) : Status :=
  s.record .storageExists .unknown Condition.Reason.configurationChanged
    "Configuration has changed" now

/-- The condition of a kind. -/
def condition? (s : Status) (kind : Condition.Kind) : Option Condition :=
  Condition.find? kind s.conditions

/-- A state as JSON. -/
def toJson (s : Status) : Json :=
  .object (
    Json.optional "managementState" (s.ownership.map Ownership.toJson)
    ++ [("storage", s.applied.toJson), ("conditions", .arr (s.conditions.map Condition.toJson))])

/-- Reads a state. -/
def ofJson (v : Json) : Json.Decoded Status := do
  let fs ← Json.record ["managementState", "storage", "conditions"] v
  return {
    ownership := ← fs.orNone "managementState" Ownership.ofJson
    applied := ← fs.orDefault "storage" {} Spec.ofJson
    conditions := ← fs.orDefault "conditions" [] (Json.list Condition.ofJson) }

end Status

/-- The desired and the observed storage of one registry. -/
structure Registry where
  /-- What the user wants. -/
  spec : Spec
  /-- What was observed and applied. -/
  status : Status := {}
  deriving Repr, DecidableEq, Inhabited

namespace Registry

/-- A registry as JSON. -/
def toJson (r : Registry) : Json :=
  .object [("spec", r.spec.toJson), ("status", r.status.toJson)]

/-- Reads a registry. -/
def ofJson (v : Json) : Json.Decoded Registry := do
  let fs ← Json.record ["spec", "status"] v
  return {
    spec := ← fs.required "spec" Spec.ofJson
    status := ← fs.orDefault "status" {} Status.ofJson }

end Registry

end Depot
