import Depot.Error
import Depot.Json.Lookup

set_option autoImplicit false

/-!
# Descriptions of errors

An error that a script injects is described by its kind and the parts of it.

## Main definitions

* `Rehearsal.errorKind`, `Rehearsal.faultName` — the names of kinds and classes.
* `Rehearsal.errorOfJson` — reads a description.
-/

namespace Depot.Rehearsal

/-- The name of the kind of an error. -/
def errorKind : Error → String
  | .internal _ => "Internal"
  | .configuration _ => "Configuration"
  | .missingSecretKey _ _ => "MissingSecretKey"
  | .credentialsNotFound _ _ _ => "CredentialsNotFound"
  | .notConfigured => "StorageNotConfigured"
  | .multipleBackends _ => "MultipleStorageBackends"
  | .backendUnavailable _ _ => "BackendUnavailable"
  | .clusterApi _ => "Kube"
  | .clusterClient _ => "Kube"
  | .provider _ _ _ _ _ => "Provider"
  | .http _ => "Http"
  | .timeout _ _ => "Timeout"
  | .cancelled _ => "Cancelled"
  | .aggregate _ => "Aggregate"
  | .json _ => "JsonParse"
  | .yaml _ => "YamlParse"
  | .io _ => "Io"
  | .metrics _ => "Metrics"

/-- The name of a class of faults. -/
def faultName : FaultKind → String
  | .notFound => "NotFound"
  | .alreadyExists => "AlreadyExists"
  | .forbidden => "Forbidden"
  | .conflict => "Conflict"
  | .throttled => "Throttled"
  | .other => "Other"

/-- All classes of faults. -/
def faults : List FaultKind :=
  [.notFound, .alreadyExists, .forbidden, .conflict, .throttled, .other]

/-- Reads a member that names one of a set. -/
def namedAt {α : Type} (v : Json) (name : String) (ofName? : String → Option α) :
    Json.Decoded α :=
  match ofName? (v.textAt name) with
  | some a => .ok a
  | none => .error (.unknownVariant (v.textAt name))

/-- Reads the backend of a description. -/
def backendAt (v : Json) : Json.Decoded Backend := namedAt v "backend" Backend.ofName?

/-- Reads the class of a provider's fault. -/
def faultAt (v : Json) : Json.Decoded FaultKind :=
  namedAt v "providerKind" fun s => faults.find? (faultName · == s)

/-- Reads a description in which failed items nest at most `depth` deep. -/
def errorWithin : Nat → Json → Json.Decoded Error
  | 0, _ => .error (.expected "a description that nests less")
  | depth + 1, v =>
    let text := v.textAt
    match text "kind" with
    | "Internal" => .ok (.internal (text "message"))
    | "Configuration" => .ok (.configuration (text "message"))
    | "Io" => .ok (.io (text "message"))
    | "Metrics" => .ok (.metrics (.other (text "message")))
    | "MissingSecretKey" => .ok (.missingSecretKey (text "secret") (text "key"))
    | "CredentialsNotFound" =>
      (backendAt v).map fun b => .credentialsNotFound b (text "userSecret") (text "mintedSecret")
    | "StorageNotConfigured" => .ok .notConfigured
    | "MultipleStorageBackends" =>
      ((v.listAt "backends").mapM Backend.ofJson).map .multipleBackends
    | "BackendUnavailable" => (backendAt v).map (.backendUnavailable · (text "reason"))
    | "KubeApi" =>
      .ok (.clusterApi ⟨text "status", text "message", text "reason", v.natAt "code" 0⟩)
    | "Provider" => do
      return .provider (← backendAt v) (text "operation") (text "resource") (← faultAt v)
        (text "message")
    | "Timeout" => .ok (.timeout (text "what") ⟨v.natAt "nanos" 0⟩)
    | "Cancelled" => .ok (.cancelled (text "what"))
    | "Aggregate" => do
      let failures ← (v.listAt "failures").mapM fun f => do
        let e ← errorWithin depth (f.fieldOrEmpty "error")
        return Failure.ofError (f.textAt "operation") (f.textAt "resource") e
      return .aggregate failures
    | "JsonParse" => .ok (.json .notJson)
    | "YamlParse" => .ok (.yaml "not YAML")
    | kind => .error (.unknownVariant kind)

/-- How deep failed items may nest. -/
def maxDepth : Nat := 128

/-- Reads a description. -/
def errorOfJson (v : Json) : Json.Decoded Error := errorWithin maxDepth v

/-- Reads the description of a failed item. -/
def failureOfJson (v : Json) : Json.Decoded Failure := do
  let e ← errorOfJson (v.fieldOrEmpty "error")
  return Failure.ofError (v.textAt "operation") (v.textAt "resource") e

end Depot.Rehearsal
