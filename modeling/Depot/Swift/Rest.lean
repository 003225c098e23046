import Depot.World

set_option autoImplicit false

/-!
# Swift over HTTP

The calls to Swift as requests. To log in, the operator asks the identity service for a token, in
the second or third version of that service; the answer also tells the address of the object store.

## Main definitions

* `Swift.Rest.Connection` — an address and a token.
* `Swift.Rest.logIn` — asks the identity service.
* `Swift.Rest.url` — the address of a container or object.
* `Swift.Rest.answer` — the program for each call to Swift.
-/

namespace Depot.Swift.Rest

/-- Where the object store is and the token for it. -/
structure Connection where
  /-- The address. -/
  endpoint : String
  /-- The token. -/
  token : String
  deriving Repr, DecidableEq, Inhabited

/-- The kind of service that keeps objects. -/
def objectStore : String := "object-store"

/-- A text without slashes at its end. -/
def withoutSlashes (s : String) : String :=
  String.ofList (s.toList.reverse.dropWhile (· = '/')).reverse

/-! ## Exchanges -/

/-- The error for a response that is no success. -/
def refusal (operation resource : String) (r : Http.Response) : Error :=
  .provider .swift operation resource (.ofStatus r.status)
    ("HTTP " ++ toString r.status ++ ": " ++ r.body)

variable {σ : Type}

/-- Sends a request; a response that is no success is an error. -/
def exchange (r : Http.Request) (operation resource : String) : Operating σ Http.Response := do
  let response ← Action.attempt (World.http r)
  if response.isSuccess then return response else throw (refusal operation resource response)

/-! ## The third version of the identity service -/

/-- The domain of a user: by its identifier, or else by its name, or else the default domain. -/
def domainBody (c : Credentials) : Json :=
  if c.domainId ≠ "" then .object [("id", .text c.domainId)]
  else if c.domain ≠ "" then .object [("name", .text c.domain)]
  else .object [("id", .text "default")]

/-- What a user wants to work on: a tenant by its identifier, or else by its name. -/
def scopeBody (c : Credentials) : List (String × Json) :=
  if c.tenantId ≠ "" then
    [("scope", .object [("project", .object [("id", .text c.tenantId)])])]
  else if c.tenant ≠ "" then
    [("scope", .object [("project", .object [
      ("domain", domainBody c), ("name", .text c.tenant)])])]
  else []

/-- A request for a token. -/
def thirdBody (c : Credentials) : Json :=
  let user := Json.object [
    ("domain", domainBody c), ("name", .text c.username), ("password", .text c.password)]
  let identity := Json.object [
    ("methods", .texts ["password"]), ("password", .object [("user", user)])]
  .object [("auth", .object (("identity", identity) :: scopeBody c))]

/-- An address of a service. -/
structure Endpoint where
  /-- Whether the address is for everyone. -/
  isPublic : Bool
  /-- The names of its region. -/
  regions : List String
  /-- The address. -/
  url : String
  deriving Repr, DecidableEq, Inhabited

/-- A service and its addresses. -/
structure Service where
  /-- The kind of service. -/
  kind : String
  /-- The addresses. -/
  endpoints : List Endpoint
  deriving Repr, DecidableEq, Inhabited

/-- The address of the object store for everyone in a region, or in any if the region is empty. -/
def objectStoreUrl? (catalog : List Service) (region : String) : Option String :=
  let endpoints := (catalog.filter (·.kind == objectStore)).flatMap (·.endpoints)
  let found := endpoints.find? fun e => e.isPublic && (region == "" || e.regions.contains region)
  found.map fun e => withoutSlashes e.url

/-- Reads a service, given how its addresses are read. -/
def serviceOfJson (endpointOfJson : Json → Json.Decoded Endpoint) (v : Json) :
    Json.Decoded Service := do
  let fs ← Json.record ["type", "endpoints"] v
  return {
    kind := ← fs.required "type" Json.string
    endpoints := ← fs.orDefault "endpoints" [] (Json.list endpointOfJson) }

/-- Reads an address. -/
def thirdEndpointOfJson (v : Json) : Json.Decoded Endpoint := do
  let fs ← Json.record ["interface", "region", "region_id", "url"] v
  let access ← fs.required "interface" Json.string
  let region ← fs.orEmpty "region"
  let regionId ← fs.orEmpty "region_id"
  return {
    isPublic := access == "public"
    regions := [region, regionId]
    url := ← fs.required "url" Json.string }

/-- Reads the services. -/
def thirdCatalogOfJson (v : Json) : Json.Decoded (List Service) := do
  let outer ← Json.record ["token"] v
  outer.required "token" fun v => do
    let fs ← Json.record ["catalog"] v
    fs.orDefault "catalog" [] (Json.list (serviceOfJson thirdEndpointOfJson))

/-- Logs in. -/
def logInThird (c : Credentials) (server : String) : Operating σ (String × List Service) := do
  let response ←
    exchange { method := .post, url := server ++ "/auth/tokens", body := .json (thirdBody c) }
      "authenticate" server
  match response.headerText? "X-Subject-Token" with
  | none => throw (.internal "Keystone response carries no X-Subject-Token")
  | some token => return (token, ← Action.ofExcept (response.json thirdCatalogOfJson))

/-! ## The second version of the identity service -/

/-- A request for a token. -/
def secondBody (c : Credentials) : Json :=
  let user := Json.object [("password", .text c.password), ("username", .text c.username)]
  let tenant :=
    if c.tenantId ≠ "" then [("tenantId", Json.text c.tenantId)]
    else if c.tenant ≠ "" then [("tenantName", .text c.tenant)]
    else []
  .object [("auth", .object (("passwordCredentials", user) :: tenant))]

/-- Reads an address. -/
def secondEndpointOfJson (v : Json) : Json.Decoded Endpoint := do
  let fs ← Json.record ["region", "publicURL"] v
  return {
    isPublic := true
    regions := [← fs.orEmpty "region"]
    url := ← fs.required "publicURL" Json.string }

/-- Reads a token and the services. -/
def secondAnswerOfJson (v : Json) : Json.Decoded (String × List Service) := do
  let outer ← Json.record ["access"] v
  outer.required "access" fun v => do
    let fs ← Json.record ["token", "serviceCatalog"] v
    let token ← fs.required "token" fun v => do
      (← Json.record ["id"] v).required "id" Json.string
    return (token,
      ← fs.orDefault "serviceCatalog" [] (Json.list (serviceOfJson secondEndpointOfJson)))

/-- Logs in. -/
def logInSecond (c : Credentials) (server : String) : Operating σ (String × List Service) := do
  let response ←
    exchange { method := .post, url := server ++ "/tokens", body := .json (secondBody c) }
      "authenticate" server
  Action.ofExcept (response.json secondAnswerOfJson)

/-! ## Logging in -/

/-- Whether the second version of the identity service is asked for. -/
def wantsSecond (c : Credentials) : Bool := c.identityVersion.startsWith "2"

/-- Logs in and finds the object store. -/
def logIn (c : Credentials) : Operating σ Connection := do
  if c.authUrl = "" then throw (.configuration "Swift auth URL is not set")
  let server := withoutSlashes c.authUrl
  let (token, catalog) ← if wantsSecond c then logInSecond c server else logInThird c server
  match objectStoreUrl? catalog c.regionName with
  | some endpoint => return { endpoint, token }
  | none =>
    throw (.configuration
      ("no public object-store endpoint in region " ++ Text.quoted c.regionName))

/-! ## Containers and objects -/

/-- The address of a container, or of an object in it. -/
def url (endpoint container : String) (object : Option String) : String :=
  let base := endpoint ++ "/" ++ Text.Percent.encodeSegment container
  match object with
  | none => base
  | some name => base ++ "/" ++ Text.Percent.encodeSegment name

/-- Sends a request with the token. -/
def send (c : Connection) (method : Http.Method) (url operation resource : String) :
    Operating Unit Http.Response :=
  exchange { method, url, headers := [("x-auth-token", c.token)] } operation resource

/-- A container of that name is looked for. -/
def containerPresence (c : Connection) (container : String) : Operating Unit Presence := do
  match ← Action.outcome
    (send c .head (url c.endpoint container none) "head-container" container) with
  | .ok _ => return .present
  | .error e =>
    if e.isNotFound then return .absent
    else if e.isForbidden then return .forbidden
    else throw e

/-- Creates a container. -/
def createContainer (c : Connection) (container : String) : Operating Unit Creation := do
  let _ ← send c .put (url c.endpoint container none) "create-container" container
  return .created

/-- Reads the names of objects. -/
def namesOfJson : Json → Json.Decoded (List String) :=
  Json.list fun v => do (← Json.record ["name"] v).required "name" Json.string

/-- Lists objects. -/
def listObjects (c : Connection) (container : String) (marker : Option String) :
    Operating Unit Page := do
  let query := ("format", "json") :: (marker.map (("marker", ·))).toList
  let response ←
    send c .get (Http.withQuery (url c.endpoint container none) query) "list-objects" container
  if response.status = 204 then return {}
  else
    let names ← Action.ofExcept (response.json namesOfJson)
    return { names, next := names.getLast? }

/-- Deletes an object. -/
def deleteObject (c : Connection) (container name : String) : Operating Unit Unit := do
  let _ ← send c .delete (url c.endpoint container (some name)) "delete-object" name

/-- Deletes a container. -/
def deleteContainer (c : Connection) (container : String) : Operating Unit Unit := do
  let _ ← send c .delete (url c.endpoint container none) "delete-container" container

/-! ## Calls -/

/-- Runs an exchange on the last connection. -/
def onConnection {α : Type} (a : Connection → Operating Unit α) :
    Option Connection → Prog World (Except Error α × Option Connection)
  | none => .pure (.error (.internal "there is no connection to Swift"), none)
  | some c => (a c).result.bind fun r => .pure (r, some c)

/-- Logs in; a failure keeps the last connection. -/
def connect (credentials : Credentials) (last : Option Connection) :
    Prog World (Except Error Unit × Option Connection) :=
  (logIn (σ := Unit) credentials).result.bind fun
    | .ok c => .pure (.ok (), some c)
    | .error e => .pure (.error e, last)

/-- The program for each call to Swift. -/
def answer : (c : Call) → Option Connection → Prog World (Answer c × Option Connection)
  | .connect credentials, c => connect credentials c
  | .containerPresence container, c => onConnection (containerPresence · container) c
  | .createContainer container, c => onConnection (createContainer · container) c
  | .listObjects container marker, c => onConnection (listObjects · container marker) c
  | .deleteObject container name, c => onConnection (deleteObject · container name) c
  | .deleteContainer container, c => onConnection (deleteContainer · container) c

end Depot.Swift.Rest
