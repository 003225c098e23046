import Depot.World

set_option autoImplicit false

/-!
# Tags of Google Cloud over HTTP

The calls about tags as requests to the resource manager of a location. A request carries a token
that is asked for each time.

## Main definitions

* `Gcs.Rest.listEffectiveTags`, `Gcs.Rest.createBinding` — the calls.
-/

namespace Depot.Gcs.Rest

/-- A letter from A to Z in lowercase, any other character as it is. -/
def lowercase (s : String) : String :=
  s.map fun c => if 'A' ≤ c ∧ c ≤ 'Z' then Char.ofNat (c.toNat + 32) else c

/-- The address of the resource manager of a location. -/
def endpoint (location : String) : String :=
  "https://" ++ lowercase location ++ "-cloudresourcemanager.googleapis.com/v3"

/-- Reads the message of a fault. -/
def messageOfJson (v : Json) : Json.Decoded String := do
  let outer ← Json.record ["error"] v
  outer.required "error" fun v => do (← Json.record ["message"] v).orEmpty "message"

/-- The error for a response that is no success. -/
def refusal (operation resource : String) (r : Http.Response) : Error :=
  let message :=
    match Json.decode messageOfJson r.body with
    | .ok m => m
    | .error _ => r.body
  .provider .gcs operation resource (.ofStatus r.status)
    ("HTTP " ++ toString r.status ++ ": " ++ message)

variable (token : Operating Unit String)

/-- Sends a request with a token. -/
def exchange (r : Http.Request) (operation resource : String) : Operating Unit Http.Response := do
  let t ← token
  let response ← Action.attempt (World.http { r with headers := [("authorization", t)] })
  if response.isSuccess then return response else throw (refusal operation resource response)

/-- Reads a part of a listing of tags. -/
def pageOfJson (v : Json) : Json.Decoded TagPage := do
  let fs ← Json.record ["effectiveTags", "nextPageToken"] v
  return {
    values := ← fs.orDefault "effectiveTags" [] (Json.list fun v => do
      (← Json.record ["namespacedTagValue"] v).orEmpty "namespacedTagValue")
    next := ← fs.orNone "nextPageToken" Json.string }

/-- Lists the tags that are in effect on a resource. -/
def listEffectiveTags (location resource : String) (page : Option String) :
    Operating Unit TagPage := do
  let query := ("parent", resource) :: (page.map (("pageToken", ·))).toList
  let url := Http.withQuery (endpoint location ++ "/effectiveTags") query
  let response ← exchange token { method := .get, url } "list-effective-tags" resource
  Action.ofExcept (response.json pageOfJson)

/-- Binds a tag to a resource. -/
def createBinding (location resource value : String) : Operating Unit Unit := do
  let body := Json.object [
    ("parent", .text resource), ("tagValueNamespacedName", .text value)]
  let url := endpoint location ++ "/tagBindings"
  let _ ← exchange token { method := .post, url, body := .json body } "bind-tag" value

end Depot.Gcs.Rest
