import Depot.Azure.Api
import Depot.Text.Blank
import Depot.World

set_option autoImplicit false

/-!
# Access tokens of Azure

Requests to Azure carry a token, which is good for some time. A token is used until shortly before
that time is over.

## Main definitions

* `Azure.Token` — a token and when it ends, with `Azure.Token.isFresh`.
* `Azure.HasDate`, `Azure.endOf?` — which moments are in the calendar, and when a lifetime ends.
* `Azure.Connection`, `Azure.Exchange` — what the requests share.
* `Azure.currentToken` — the token for the next request.
-/

namespace Depot.Azure

/-! ## Tokens -/

/-- A token for requests. -/
structure Token where
  /-- The token itself. -/
  secret : String
  /-- When it ends, in nanoseconds since the start of 1970. -/
  endsAt : Int
  deriving Repr, DecidableEq, Inhabited

/-- Nanoseconds since the start of 1970. -/
def instant (t : Timestamp) : Int := t.epochSeconds * 1000000000 + t.nanos

/-- How long before its end a token is not used any more, in seconds. -/
def refreshMargin : Int := 120

/-- Whether a token may still be used. -/
def Token.isFresh (t : Token) (now : Int) : Bool := now < t.endsAt - refreshMargin * 1000000000

/-- The longest lifetime that can be counted, in seconds. -/
def maxLifetime : Int := 9223372036854775

/-- The first second that has a date, since the start of 1970. -/
def firstSecond : Int := -8334601228800

/-- The last second that has a date, since the start of 1970. -/
def lastSecond : Int := 8210266876799

/-- A moment has a date, counted in nanoseconds since the start of 1970. -/
def HasDate (moment : Int) : Prop :=
  firstSecond * 1000000000 ≤ moment ∧ moment < (lastSecond + 1) * 1000000000

instance (moment : Int) : Decidable (HasDate moment) := inferInstanceAs (Decidable (_ ∧ _))

/-- The lifetime that a word of 64 bits stands for. -/
def lifetime (word : Nat) : Int := Int.bmod word (Nat.pow 2 64)

/-- The end of a lifetime that starts now; none if it cannot be counted or has no date. -/
def endOf? (now : Int) (word : Nat) : Option Int :=
  let seconds := lifetime word
  let endsAt := now + seconds * 1000000000
  if (-maxLifetime ≤ seconds ∧ seconds ≤ maxLifetime) ∧ HasDate endsAt then some endsAt else none

/-! ## Exchanges -/

/-- What the requests of one connection share. -/
structure Connection where
  /-- The cloud. -/
  environment : Environment
  /-- The identity. -/
  identity : Identity
  /-- The last token. -/
  token : Option Token := none
  deriving Repr, DecidableEq, Inhabited

/-- A part of the exchange with Azure. -/
abbrev Exchange (α : Type) := Operating Connection α

/-- A fault that Azure reports. -/
structure Fault where
  /-- The reason for programs. -/
  code : String
  /-- The reason for people. -/
  message : String
  deriving Repr, DecidableEq, Inhabited

/-- Reads a fault. -/
def Fault.ofJson (v : Json) : Json.Decoded Fault := do
  let outer ← Json.record ["error"] v
  outer.required "error" fun v => do
    let fs ← Json.record ["code", "message"] v
    return { code := ← fs.orEmpty "code", message := ← fs.orEmpty "message" }

/-- The class of a fault: by its code if that is known, and by the HTTP status otherwise. -/
def faultKind (status : Nat) (code : String) : FaultKind :=
  if ["ResourceNotFound", "StorageAccountNotFound", "ContainerNotFound"].contains code then
    .notFound
  else if ["StorageAccountAlreadyTaken", "StorageAccountAlreadyExists",
      "ContainerAlreadyExists"].contains code then .alreadyExists
  else if ["AuthorizationFailed", "AuthenticationFailed",
      "LinkedAuthorizationFailed"].contains code then .forbidden
  else if ["StorageAccountOperationInProgress", "Conflict"].contains code then .conflict
  else if code = "TooManyRequests" then .throttled
  else .ofStatus status

/-- The error for a response that is no success. -/
def refusal (operation resource : String) (r : Http.Response) : Error :=
  let fault :=
    match Json.decode Fault.ofJson r.body with
    | .ok f => f
    | .error _ => ⟨"", r.body⟩
  let code := if fault.code = "" then "" else " " ++ fault.code
  .provider .azure operation resource (faultKind r.status fault.code)
    ("HTTP " ++ toString r.status ++ code ++ ": " ++ fault.message)

variable {σ : Type}

/-- Sends a request; a response that is no success is an error. -/
def exchange (r : Http.Request) (operation resource : String) : Operating σ Http.Response := do
  let response ← Action.attempt (World.http r)
  if response.isSuccess then return response else throw (refusal operation resource response)

/-- The fields of a request for a token. -/
def tokenForm (scope : String) (i : Identity) : Operating σ (List (String × String)) := do
  let base := [("grant_type", "client_credentials"), ("client_id", i.clientId), ("scope", scope)]
  match i.proof with
  | .clientSecret secret => return base ++ [("client_secret", secret)]
  | .federatedTokenFile path =>
    let assertion ← Action.attempt (World.readFile path)
    return base ++ [
      ("client_assertion_type", "urn:ietf:params:oauth:client-assertion-type:jwt-bearer"),
      ("client_assertion", Text.trimBlanks assertion)]

/-- Reads a token and its lifetime. -/
def tokenOfJson (v : Json) : Json.Decoded (String × Nat) := do
  let fs ← Json.record ["access_token", "expires_in"] v
  return (← fs.required "access_token" Json.string, ← fs.required "expires_in" (Json.word 64))

/-- Asks for a token. -/
def requestToken (e : Environment) (i : Identity) : Operating σ Token := do
  let form ← tokenForm e.managementScope i
  let url := e.activeDirectory ++ "/" ++ i.tenantId ++ "/oauth2/v2.0/token"
  let response ←
    exchange { method := .post, url, body := .form form } "get-token" i.clientId
  let (secret, word) ← Action.ofExcept (response.json tokenOfJson)
  match endOf? (instant (← Action.perform World.time)) word with
  | some endsAt => return { secret, endsAt }
  | none => throw (.internal "the lifetime of an access token is out of range")

/-- The last token, if it may still be used. -/
def freshToken? : Exchange (Option Token) := do
  match (← get).token with
  | none => return none
  | some t =>
    let now ← Action.perform World.time
    return if t.isFresh (instant now) then some t else none

/-- The token for the next request. -/
def currentToken : Exchange Token := do
  match ← freshToken? with
  | some t => return t
  | none =>
    let c ← get
    let t ← requestToken c.environment c.identity
    modify fun c => { c with token := some t }
    return t

/-- Sends a request with a token. -/
def authorized (r : Http.Request) (operation resource : String) : Exchange Http.Response := do
  let t ← currentToken
  exchange { r with headers := r.headers ++ [("authorization", "Bearer " ++ t.secret)] }
    operation resource

end Depot.Azure
