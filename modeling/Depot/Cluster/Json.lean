import Depot.Cluster.Object
import Depot.Cluster.Schema
import Depot.Text.Base64

set_option autoImplicit false

/-!
# Cluster objects as JSON

How the objects of the cluster are written and read. Every object says its version and kind, which
may also be left out but not be others.

## Main definitions

* `Cluster.Secret.toJson`, `Cluster.ConfigMap.toJson` — the written objects.
* `Cluster.metadataFields`, `Cluster.claimSpec`, `Cluster.claimStatus` — the forms of what is kept
  as it is.
* `Cluster.Secret.ofJson`, `Cluster.ConfigMap.ofJson`, `Cluster.Claim.ofJson` — the read ones.
-/

namespace Depot.Cluster

/-! ## Writing -/

/-- An object with its version, kind and metadata. -/
def objectToJson (kind : String) (metadata : Metadata) (fields : List (String × Json)) : Json :=
  .object ([("apiVersion", .text "v1"), ("kind", .text kind), ("metadata", metadata.toJson)]
    ++ fields)

/-- Bytes by name, written in Base64. -/
def dataToJson : Dict Bytes → Json := Dict.toJson fun b => .text (Text.Base64.encode b)

/-- A secret as it is sent to the cluster. -/
def Secret.toJson (s : Secret) : Json :=
  objectToJson "Secret" s.metadata (
    Json.optional "data" (s.data.map dataToJson)
    ++ Json.optional "stringData" (s.stringData.map (Dict.toJson .text))
    ++ s.others)

/-- A config map as it is sent to the cluster. -/
def ConfigMap.toJson (m : ConfigMap) : Json :=
  objectToJson "ConfigMap" m.metadata (
    Json.optional "binaryData" (m.binaryData.map dataToJson)
    ++ Json.optional "data" (m.data.map (Dict.toJson .text))
    ++ m.others)

/-! ## Forms -/

/-- How deep the set of fields in an entry about a manager may be: it stands in four collections. -/
def fieldSetDepth : Nat := Json.maxDepth - 4

/-- The fields of metadata that are kept as they are. -/
def metadataFields : List (String × Schema) := [
  ("creationTimestamp", .time), ("deletionGracePeriodSeconds", .integer),
  ("deletionTimestamp", .time), ("finalizers", .list .text), ("generateName", .text),
  ("generation", .integer),
  ("managedFields", .list (.record [] [
    ("apiVersion", .text), ("fieldsType", .text), ("fieldsV1", .any fieldSetDepth),
    ("manager", .text), ("operation", .text), ("subresource", .text), ("time", .time)])),
  ("ownerReferences", .list (.record ["apiVersion", "kind", "name", "uid"] [
    ("blockOwnerDeletion", .flag), ("controller", .flag)])),
  ("resourceVersion", .text), ("selfLink", .text), ("uid", .text)]

/-- What a claim asks for. -/
def claimSpec : Schema := .record [] [
  ("accessModes", .list .text),
  ("dataSource", .record ["kind", "name"] [("apiGroup", .text)]),
  ("dataSourceRef", .record ["kind", "name"] [("apiGroup", .text), ("namespace", .text)]),
  ("resources", .record [] [("limits", .texts), ("requests", .texts)]),
  ("selector", .record [] [
    ("matchExpressions", .list (.record ["key", "operator"] [("values", .list .text)])),
    ("matchLabels", .texts)]),
  ("storageClassName", .text), ("volumeAttributesClassName", .text), ("volumeMode", .text),
  ("volumeName", .text)]

/-- What was granted to a claim. -/
def claimStatus : Schema := .record [] [
  ("accessModes", .list .text), ("allocatedResourceStatuses", .texts),
  ("allocatedResources", .texts), ("capacity", .texts),
  ("conditions", .list (.record ["status", "type"] [
    ("lastProbeTime", .time), ("lastTransitionTime", .time), ("message", .text),
    ("reason", .text)])),
  ("currentVolumeAttributesClassName", .text),
  ("modifyVolumeStatus", .record ["status"] [("targetVolumeAttributesClassName", .text)]),
  ("phase", .text)]

/-! ## Reading -/

/-- Bytes written in Base64; null stands for no bytes. -/
def bytes : Json → Json.Decoded Bytes
  | .null => .ok []
  | v => do
    match Text.Base64.decode? (← Json.string v) with
    | some b => .ok b
    | none => .error (.expected "Base64")

/-- Reads metadata. -/
def Metadata.ofJson (v : Json) : Json.Decoded Metadata := do
  let ms ← members v
  return {
    name := ← field? Json.string ms "name"
    ns := ← field? Json.string ms "namespace"
    annotations := ← field? (dict Json.string) ms "annotations"
    labels := ← field? (dict Json.string) ms "labels"
    others := ← Schema.readFields metadataFields ms }

/-- A text that must be the given one wherever it is given. -/
def fixedField (ms : List (String × Json)) (name value : String) : Json.Decoded Unit :=
  if ms.all fun (k, v) => k != name || v.asText? == some value then .ok ()
  else .error (.expected value)

/-- The members of an object of a kind, and its metadata. -/
def objectOfJson (kind : String) (v : Json) :
    Json.Decoded (List (String × Json) × Metadata) := do
  let ms ← members v
  fixedField ms "apiVersion" "v1"
  fixedField ms "kind" kind
  return (ms, (← field? Metadata.ofJson ms "metadata").getD {})

/-- Reads a secret. -/
def Secret.ofJson (v : Json) : Json.Decoded Secret := do
  let (ms, metadata) ← objectOfJson "Secret" v
  return {
    metadata
    data := ← field? (dict bytes) ms "data"
    stringData := ← field? (dict Json.string) ms "stringData"
    others := ← Schema.readFields [("immutable", .flag), ("type", .text)] ms }

/-- Reads a config map. -/
def ConfigMap.ofJson (v : Json) : Json.Decoded ConfigMap := do
  let (ms, metadata) ← objectOfJson "ConfigMap" v
  return {
    metadata
    data := ← field? (dict Json.string) ms "data"
    binaryData := ← field? (dict bytes) ms "binaryData"
    others := ← Schema.readFields [("immutable", .flag)] ms }

/-- Reads a claim. -/
def Claim.ofJson (v : Json) : Json.Decoded Claim := do
  let (ms, metadata) ← objectOfJson "PersistentVolumeClaim" v
  return {
    metadata
    spec := ← field? claimSpec.read ms "spec"
    status := ← field? claimStatus.read ms "status" }

end Depot.Cluster
