import Depot.Credentials.Resolver
import Depot.Gcs.Binding
import Depot.Rehearsal.State
import Depot.Lifecycle

set_option autoImplicit false

/-!
# Scenarios

A scenario describes in JSON the world in memory that a rehearsal starts from.

## Main definitions

* `Rehearsal.State.ofJson` — the world of a scenario.
* `Rehearsal.secretOfJson`, `Rehearsal.claimOfJson` and so on — the objects in it.
* `Rehearsal.credentialsOfJson`, `Rehearsal.waitOfJson`, `Rehearsal.bindingOfJson` — settings.
-/

namespace Depot.Rehearsal

/-! ## Objects of the cluster -/

/-- The namespace of an object: that of the operator, unless another one is given. -/
def namespaceOf (v : Json) : String := (v.textAt? "ns").getD Credentials.operatorNamespace

/-- The key of an object. -/
def keyOf (v : Json) : String := objectKey (namespaceOf v) (v.textAt "name")

/-- A dictionary of texts. -/
def textsOfJson (v : Json) : Dict String :=
  .ofList (v.entries.filterMap fun (k, v) => v.asText?.map (k, ·))

/-- The metadata of an object. -/
def metadataOfJson (v : Json) : Cluster.Metadata where
  name := some (v.textAt "name")
  ns := some (namespaceOf v)
  annotations := (v.field? "annotations").map textsOfJson

/-- The value of a hexadecimal digit. -/
def hexValue (c : Char) : Nat :=
  if c.isDigit then c.toNat - '0'.toNat else c.toLower.toNat - 'a'.toNat + 10

/-- The bytes that pairs of hexadecimal digits stand for. -/
def bytesOfHex : List Char → Cluster.Bytes
  | a :: b :: rest => (16 * hexValue a + hexValue b).toUInt8 :: bytesOfHex rest
  | _ => []

/-- The bytes of a value: those of a text, or those given in hexadecimal. -/
def bytesOfJson (v : Json) : Cluster.Bytes :=
  match v.asText? with
  | some s => s.toUTF8.toList
  | none => bytesOfHex (v.textAt "hex").toList

/-- A secret. -/
def secretOfJson (v : Json) : Cluster.Secret where
  metadata := metadataOfJson v
  data := (v.field? "data").map fun d => .ofList (d.entries.map fun (k, v) => (k, bytesOfJson v))
  stringData := (v.field? "stringData").map textsOfJson

/-- A config map. -/
def configMapOfJson (v : Json) : Cluster.ConfigMap where
  metadata := metadataOfJson v
  data := (v.field? "data").map textsOfJson

/-- A claim. -/
def claimOfJson (v : Json) : Cluster.Claim where
  metadata := metadataOfJson v

/-- Objects by their keys. -/
def objectsOfJson {α : Type} (read : Json → α) (vs : List Json) : Dict α :=
  .ofList (vs.map fun v => (keyOf v, read v))

/-! ## The world -/

/-- A cluster. -/
def ClusterState.ofJson (v : Json) : Json.Decoded ClusterState := do
  return {
    infrastructure := ← Infrastructure.ofJson (v.fieldOrEmpty "infra")
    secrets := objectsOfJson secretOfJson (v.listAt "secrets")
    configMaps := objectsOfJson configMapOfJson (v.listAt "configMaps")
    claims := objectsOfJson claimOfJson (v.listAt "claims") }

/-- A cloud. -/
def CloudState.ofJson (v : Json) : CloudState where
  stores := .ofList ((v.entriesAt "stores").map fun (name, objects) =>
    (name, .ofObjects (Store.objectsOfJson objects)))
  pageSize := v.natAt "pageSize" 1000
  effective := .ofList ((v.entriesAt "effective").map fun (parent, values) =>
    (parent, values.items.filterMap Json.asText?))

/-- The world of a scenario. -/
def State.ofJson (v : Json) : Json.Decoded State := do
  return {
    cluster := ← ClusterState.ofJson v
    cloud := CloudState.ofJson (v.fieldOrEmpty "cloud")
    script := ← Script.ofJson (v.fieldOrEmpty "queues") }

/-! ## Settings -/

/-- Where credentials are found. The waits are short unless the scenario says otherwise. -/
def credentialsOfJson (v : Json) : Credentials.Settings :=
  let usual : Credentials.Settings := {}
  { ns := (v.textAt? "namespace").getD usual.ns
    userSecret := (v.textAt? "userSecret").getD usual.userSecret
    mintedSecret := (v.textAt? "mintedSecret").getD usual.mintedSecret
    interval := .ofMillis (v.natAt "pollIntervalMs" 2)
    timeout := .ofMillis (v.natAt "pollTimeoutMs" 1) }

/-- How long to wait for a created resource. -/
def waitOfJson (v : Json) (usual : Lifecycle.WaitPolicy) : Lifecycle.WaitPolicy where
  interval := ((v.natAt? "intervalMs").map .ofMillis).getD usual.interval
  timeout := ((v.natAt? "timeoutMs").map .ofMillis).getD usual.timeout

/-- How tags are bound. -/
def bindingOfJson (v : Json) : Gcs.Binding.Settings :=
  let usual : Gcs.Binding.Settings := {}
  let span (name : String) (d : Span) : Span := ((v.natAt? name).map .ofMillis).getD d
  { writeInterval := span "writeIntervalMs" usual.writeInterval
    initialRetry := span "initialRetryMs" usual.initialRetry
    multiplier := ((v.natAt? "retryMultiplier").map (fun n => (n : Rat))).getD usual.multiplier
    maxElapsed := span "maxRetryElapsedMs" usual.maxElapsed }

end Depot.Rehearsal
