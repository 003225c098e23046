import Depot.Cluster.Json
import Depot.Cluster.Status
import Depot.Http.Target
import Depot.World

set_option autoImplicit false

/-!
# The cluster over HTTP

The calls to the cluster as requests to its API. A refusal comes as a status in JSON; what cannot be
read as one is shown as it is.

## Main definitions

* `Cluster.Rest.answer` — the program for each call to the cluster.
-/

namespace Depot.Cluster.Rest

/-- The name of the operator in changes of objects. -/
def fieldManager : String := "registry-storage-operator"

/-- The object that describes the cluster. -/
def infrastructureName : String := "cluster"

/-! ## Exchanges -/

/-- The refusal in a response. -/
def refusal (r : Http.Response) : ApiStatus :=
  match Json.decode refusalOfJson r.body with
  | .ok s => s
  | .error _ => {
      status := Http.statusText r.status
      message := Text.quoted r.body
      reason := "Failed to parse error data"
      code := r.status }

/-- Sends a request for an address on the server; answers with the text of the response. -/
def send (server : String) (method : Http.Method) (address : String) (body : Http.Body := .none) :
    Operating Unit String := do
  match Http.target? address with
  | none => throw (.clusterClient "the address of the request is not valid")
  | some target =>
    match ← Action.perform (World.http { method, url := server ++ target, body }) with
    | .error e => throw (.clusterClient e.message)
    | .ok response =>
      if 400 ≤ response.status ∧ response.status ≤ 599 then throw (.clusterApi (refusal response))
      else return response.body

/-- Reads the text of a response. -/
def decode {α : Type} (read : Json → Json.Decoded α) (body : String) : Operating Unit α :=
  match Json.decode read body with
  | .ok a => return a
  | .error e => throw (.clusterClient e.message)

/-! ## Addresses -/

/-- The address of the objects of a kind in a namespace. -/
def listAddress (ns plural : String) : String := "/api/v1/namespaces/" ++ ns ++ "/" ++ plural

/-- The address of an object. -/
def objectAddress (ns plural name : String) : String := listAddress ns plural ++ "/" ++ name

/-- The plural of claims. -/
def claims : String := "persistentvolumeclaims"

/-! ## Calls -/

/-- A name must not be empty. -/
def checkName (name : String) : Operating Unit Unit := do
  if name = "" then throw (.clusterClient "a name is required")

/-- An object, if it exists. -/
def find {α : Type} (server ns plural name : String) (read : Json → Json.Decoded α) :
    Operating Unit (Option α) := do
  checkName name
  match ← Action.outcome (send server .get (objectAddress ns plural name)) with
  | .ok body => return some (← decode read body)
  | .error (.clusterApi s) => if s.reason = "NotFound" then return none else throw (.clusterApi s)
  | .error e => throw e

/-- A value of any kind, in canonical form. -/
def anything (v : Json) : Json.Decoded Json :=
  match v.canonical? with
  | some v => .ok v
  | none => .error (.expected "a value")

/-- The status of an object of any kind. All its members are read as they come, but the metadata
have a form and are given at most once. -/
def statusOf (v : Json) : Json.Decoded (Option Json) := do
  let ms ← members v
  let (metadata, rest) := ms.partition (·.1 == "metadata")
  let rest ← anything (.object rest)
  match metadata with
  | [] => pure ()
  | [(_, m)] => let _ ← Metadata.ofJson m
  | _ => .error (.repeated "metadata")
  return rest.member? "status"

/-- The description of the cluster. -/
def infrastructure (server : String) : Operating Unit Infrastructure := do
  let address := "/apis/config.openshift.io/v1/infrastructures/" ++ infrastructureName
  match ← decode statusOf (← send server .get address) with
  | none => throw (.configuration ("infrastructure " ++ infrastructureName ++ " has no status"))
  | some status =>
    match Infrastructure.ofJson status with
    | .ok i => return i
    | .error e => throw (.json e)

/-- Creates a claim. -/
def createClaim (server ns : String) (claim : Claim) : Operating Unit Unit := do
  let address := listAddress ns claims ++ "?&fieldManager=" ++ fieldManager
  let _ ← decode Claim.ofJson (← send server .post address (.json claim.toJson))

/-- The answer to a deletion: the claim, or a status. -/
def deletionOfJson (v : Json) : Json.Decoded Unit := do
  let canonical ← anything v
  if (canonical.member? "kind").bind Json.asText? == some "Status" then
    let _ ← Verdict.ofJson v
  else
    let _ ← Claim.ofJson v

/-- Deletes a claim; answers whether it was there. -/
def deleteClaim (server ns name : String) : Operating Unit Bool := do
  checkName name
  let address := objectAddress ns claims name ++ "?"
  match ← Action.outcome (send server .delete address (.json (.object []))) with
  | .ok body =>
    decode deletionOfJson body
    return true
  | .error (.clusterApi s) => if s.code = 404 then return false else throw (.clusterApi s)
  | .error e => throw e

/-- The program for each call to the cluster. -/
def answer (server : String) : (c : Call) → Prog World (Answer c)
  | .getSecret ns name => (find server ns "secrets" name Secret.ofJson).result
  | .getConfigMap ns name => (find server ns "configmaps" name ConfigMap.ofJson).result
  | .getInfrastructure => (infrastructure server).result
  | .getClaim ns name => (find server ns claims name Claim.ofJson).result
  | .createClaim ns claim => (createClaim server ns claim).result
  | .deleteClaim ns name => (deleteClaim server ns name).result

end Depot.Cluster.Rest
