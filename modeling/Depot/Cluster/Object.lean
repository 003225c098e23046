import Depot.Dict

set_option autoImplicit false

/-!
# Cluster objects

The objects of the cluster that the operator reads or writes: secrets, config maps and claims of
volumes.

## Main definitions

* `Cluster.Bytes` — bytes, with `Cluster.Bytes.text?`.
* `Cluster.Metadata` — what all objects have.
* `Cluster.Secret`, `Cluster.ConfigMap`, `Cluster.Claim` — the objects.
* `Cluster.Secret.value?` — a value of a secret as text.
* `Cluster.Claim.toJson` — a claim as it is sent to the cluster.
-/

namespace Depot.Cluster

/-- A value of a secret. -/
abbrev Bytes := List UInt8

/-- The text that bytes stand for in UTF-8. -/
def Bytes.text? (b : Bytes) : Option String := String.fromUTF8? ⟨b.toArray⟩

/-- What all objects have. -/
structure Metadata where
  /-- The name. -/
  name : Option String := none
  /-- The namespace. -/
  ns : Option String := none
  /-- Annotations. -/
  annotations : Option (Dict String) := none
  /-- Labels. -/
  labels : Option (Dict String) := none
  /-- All other fields. -/
  others : List (String × Json) := []
  deriving Inhabited

/-- Values that are kept from most eyes. -/
structure Secret where
  /-- Name, namespace and so on. -/
  metadata : Metadata := {}
  /-- The values as bytes. -/
  data : Option (Dict Bytes) := none
  /-- The values as texts. -/
  stringData : Option (Dict String) := none
  /-- All other fields. -/
  others : List (String × Json) := []
  deriving Inhabited

/-- Texts by name. -/
structure ConfigMap where
  /-- Name, namespace and so on. -/
  metadata : Metadata := {}
  /-- The texts. -/
  data : Option (Dict String) := none
  /-- Values as bytes. -/
  binaryData : Option (Dict Bytes) := none
  /-- All other fields. -/
  others : List (String × Json) := []
  deriving Inhabited

/-- A claim of a volume. -/
structure Claim where
  /-- Name, namespace and so on. -/
  metadata : Metadata := {}
  /-- What is claimed. -/
  spec : Option Json := none
  /-- What was granted. -/
  status : Option Json := none
  deriving Inhabited

/-- A value of a secret as text: bytes come first, also when they are no text. -/
def Secret.value? (s : Secret) (key : String) : Option String :=
  match s.data.bind (·.get? key) with
  | some bytes => bytes.text?
  | none => s.stringData.bind (·.get? key)

/-- The value of an annotation. -/
def Metadata.annotation? (m : Metadata) (key : String) : Option String :=
  m.annotations.bind (·.get? key)

/-- What all objects have, as JSON. -/
def Metadata.toJson (m : Metadata) : Json :=
  .object (
    Json.optional "name" (m.name.map .text)
    ++ Json.optional "namespace" (m.ns.map .text)
    ++ Json.optional "annotations" (m.annotations.map (Dict.toJson .text))
    ++ Json.optional "labels" (m.labels.map (Dict.toJson .text))
    ++ m.others)

/-- A claim as it is sent to the cluster. -/
def Claim.toJson (c : Claim) : Json :=
  .object ([
    ("apiVersion", .text "v1"),
    ("kind", .text "PersistentVolumeClaim"),
    ("metadata", c.metadata.toJson)]
    ++ Json.optional "spec" c.spec
    ++ Json.optional "status" c.status)

end Depot.Cluster
