import Depot.Azure.Token

set_option autoImplicit false

/-!
# The resource manager of Azure

The calls to Azure as requests to its resource manager. The creation of an account may go on after
the response; it is then awaited at the address that the response gives.

## Main definitions

* `Azure.Manager.Settings` — the version of the interface and how long to wait.
* `Azure.Manager.answer` — the program for each call to Azure.
-/

namespace Depot.Azure.Manager

/-- The version of the interface and how long to wait for a creation. -/
structure Settings where
  /-- The version. -/
  apiVersion : String := "2023-01-01"
  /-- The time between two looks. -/
  pollInterval : Span := .ofSeconds 2
  /-- The time after which the wait ends. -/
  pollTimeout : Span := .ofSeconds 300
  deriving Repr, DecidableEq, Inhabited

/-! ## Addresses -/

/-- The address of a subscription. -/
def subscriptionUrl (manager subscription : String) : String :=
  manager ++ "/subscriptions/" ++ Text.Percent.encodeSegment subscription

/-- The address of a storage account. -/
def accountUrl (manager subscription group account : String) : String :=
  subscriptionUrl manager subscription ++ "/resourceGroups/" ++ Text.Percent.encodeSegment group
    ++ "/providers/Microsoft.Storage/storageAccounts/" ++ Text.Percent.encodeSegment account

/-- The address of a container in a storage account. -/
def containerUrl (manager subscription group account container : String) : String :=
  accountUrl manager subscription group account ++ "/blobServices/default/containers/"
    ++ Text.Percent.encodeSegment container

/-- The address of a storage account of the connection. -/
def accountAddress (c : Connection) (account : String) : String :=
  Manager.accountUrl c.environment.resourceManager c.identity.subscriptionId
    c.identity.resourceGroup account

/-- The address of a container of the connection. -/
def containerAddress (c : Connection) (account container : String) : String :=
  Manager.containerUrl c.environment.resourceManager c.identity.subscriptionId
    c.identity.resourceGroup account container

/-! ## Requests -/

variable (s : Settings)

/-- Sends a request to an address of the resource manager. -/
def send (method : Http.Method) (url : String) (body : Http.Body) (operation resource : String) :
    Exchange Http.Response :=
  authorized { method, url := Http.withQuery url [("api-version", s.apiVersion)], body }
    operation resource

/-- Sends a request about an account. -/
def sendAccount (method : Http.Method) (account : String) (body : Http.Body)
    (operation : String) : Exchange Http.Response := do
  send s method (accountAddress (← get) account) body operation account

/-- Sends a request about a container. -/
def sendContainer (method : Http.Method) (account container : String) (body : Http.Body)
    (operation : String) : Exchange Http.Response := do
  send s method (containerAddress (← get) account container) body operation container

/-- What a request finds out about the existence of something. -/
def presence (request : Exchange Http.Response) : Exchange Presence := do
  match ← Action.outcome request with
  | .ok _ => return .present
  | .error e =>
    if e.isNotFound then return .absent
    else if e.isForbidden then return .forbidden
    else throw e

/-! ## Accounts -/

/-- An account of that name is looked for. -/
def accountPresence (account : String) : Exchange Presence :=
  presence (sendAccount s .get account .none "get-account")

/-- Reads whether a name is available. -/
def availabilityOfJson (v : Json) : Json.Decoded Bool := do
  let fs ← Json.record ["nameAvailable", "reason", "message"] v
  let available ← fs.required "nameAvailable" Json.boolean
  let _ ← fs.orNone "reason" Json.string
  let _ ← fs.orNone "message" Json.string
  return available

/-- Whether a name is available. -/
def nameAvailable (account : String) : Exchange Bool := do
  let c ← get
  let url := subscriptionUrl c.environment.resourceManager c.identity.subscriptionId
    ++ "/providers/Microsoft.Storage/checkNameAvailability"
  let body := Json.object [
    ("name", .text account), ("type", .text "Microsoft.Storage/storageAccounts")]
  let response ← send s .post url (.json body) "check-name-availability" account
  Action.ofExcept (response.json availabilityOfJson)

/-- What an account is created as. -/
def accountBody (p : AccountParameters) : Json :=
  .object [
    ("kind", .text "StorageV2"),
    ("location", .text p.location),
    ("properties", .object [
      ("allowBlobPublicAccess", .bool false),
      ("minimumTlsVersion", .text "TLS1_2"),
      ("supportsHttpsTrafficOnly", .bool true)]),
    ("sku", .object [("name", .text "Standard_LRS")]),
    ("tags", p.tags.toJson .text)]

/-- One look at an operation that goes on: it is over, or another look follows. -/
def poll (location operation resource : String) (deadline : Nat) :
    Exchange (Unit ⊕ Unit) := do
  if deadline ≤ (← Action.perform World.now).nanos then
    throw (.timeout ("Azure " ++ operation ++ " of " ++ resource) s.pollTimeout)
  Action.perform (World.sleep s.pollInterval)
  let response ← authorized { method := .get, url := location } operation resource
  return if response.status = 202 then .inl () else .inr ()

/-- Waits for the end of an operation that goes on after its response. -/
def awaitOperation (response : Http.Response) (operation resource : String) : Exchange Unit := do
  match if response.status = 202 then response.headerText? "Location" else none with
  | none => return ()
  | some location =>
    let deadline := (← Action.perform World.now).nanos + s.pollTimeout.nanos
    Action.loop (fun () => poll s location operation resource deadline) ()

/-- Creates an account and waits until that is done. -/
def createAccount (account : String) (p : AccountParameters) : Exchange Creation := do
  if !(← nameAvailable s account) then return .alreadyExists
  else
    let request := sendAccount s .put account (.json (accountBody p)) "create-account"
    match ← Action.outcome request with
    | .ok response =>
      awaitOperation s response "create-account" account
      return .created
    | .error e => if e.isAlreadyExists then return .alreadyExists else throw e

/-- Sets the tags of an account. -/
def updateAccountTags (account : String) (tags : Dict String) : Exchange Unit := do
  let body := Json.object [("tags", tags.toJson .text)]
  let _ ← sendAccount s .patch account (.json body) "update-tags"

/-- Blocks public access to an account. -/
def disablePublicAccess (account : String) : Exchange Unit := do
  let body := Json.object [("properties", .object [("allowBlobPublicAccess", .bool false)])]
  let _ ← sendAccount s .patch account (.json body) "disable-public-access"

/-- Deletes an account; one that is gone already counts as deleted. -/
def deleteAccount (account : String) : Exchange Unit := do
  let _ ← sendAccount s .delete account .none "delete-account"

/-- Reads the keys of an account. -/
def keysOfJson (v : Json) : Json.Decoded (List (String × String)) := do
  let fs ← Json.record ["keys"] v
  fs.orDefault "keys" [] (Json.list fun v => do
    let fs ← Json.record ["keyName", "value"] v
    return (← fs.required "keyName" Json.string, ← fs.required "value" Json.string))

/-- The first key of an account. -/
def accountKey (account : String) : Exchange String := do
  let url := accountAddress (← get) account ++ "/listKeys"
  let response ← send s .post url .none "list-keys" account
  match (← Action.ofExcept (response.json keysOfJson)).lookup "key1" with
  | some key => return key
  | none =>
    throw (.provider .azure "list-keys" account .notFound "storage account has no primary key")

/-! ## Containers -/

/-- A container of that name is looked for. -/
def containerPresence (account container : String) : Exchange Presence :=
  presence (sendContainer s .get account container .none "get-container")

/-- Creates a container. -/
def createContainer (account container : String) : Exchange Creation := do
  let body := Json.object [("properties", .object [("publicAccess", .text "None")])]
  match ← Action.outcome (sendContainer s .put account container (.json body) "create-container")
  with
  | .ok _ => return .created
  | .error e => if e.isAlreadyExists then return .alreadyExists else throw e

/-- Deletes a container. -/
def deleteContainer (account container : String) : Exchange Unit := do
  let response ← sendContainer s .delete account container .none "delete-container"
  if response.status = 204 then
    throw (.provider .azure "delete-container" container .notFound "container does not exist")

/-! ## Calls -/

/-- Runs an exchange on the last connection. -/
def onConnection {α : Type} (a : Exchange α) :
    Option Connection → Prog World (Except Error α × Option Connection)
  | none => .pure (.error (.internal "there is no connection to Azure"), none)
  | some c => (a.start c).bind fun (r, c) => .pure (r, some c)

/-- The program for each call to Azure. -/
def answer : (c : Call) → Option Connection → Prog World (Answer c × Option Connection)
  | .connect credentials environment, _ =>
    .pure (.ok (), some { environment, identity := credentials.identity })
  | .accountPresence account, c => onConnection (accountPresence s account) c
  | .createAccount account p, c => onConnection (createAccount s account p) c
  | .updateAccountTags account tags, c => onConnection (updateAccountTags s account tags) c
  | .disablePublicAccess account, c => onConnection (disablePublicAccess s account) c
  | .deleteAccount account, c => onConnection (deleteAccount s account) c
  | .accountKey account, c => onConnection (accountKey s account) c
  | .containerPresence account container, c =>
    onConnection (containerPresence s account container) c
  | .createContainer account container, c =>
    onConnection (createContainer s account container) c
  | .deleteContainer account container, c =>
    onConnection (deleteContainer s account container) c

end Depot.Azure.Manager
