import Depot.Backend
import Depot.Text.Quoted
import Depot.Time.Span

set_option autoImplicit false

/-!
# Errors

What can go wrong, by cause, and what a caller does about it: try again later, try again after a
fixed time, or wait for a change. An operation over many items goes on past an item that fails and
reports all failures together.

## Main definitions

* `FaultKind` — the classes of faults that a provider reports.
* `Error` — the causes, with `Error.message`.
* `Error.retry`, `Error.isRetryable`, `Error.isTransient` — what to do about an error.
* `Failure`, `Error.aggregate` — partial failures.
* `Error.ofFailures` — the outcome of an operation over many items.

## Main results

* `Error.ofFailures_eq_ok`, `Error.ofFailures_of_ne` — an operation over many items succeeds if no
  item failed, and otherwise reports all that did.
-/

namespace Depot

/-- The class of a fault that a provider reports. -/
inductive FaultKind where
  | notFound
  | alreadyExists
  | forbidden
  | conflict
  | throttled
  | other
  deriving Repr, DecidableEq, Inhabited

namespace FaultKind

/-- The class in words. -/
def text : FaultKind → String
  | .notFound => "not found"
  | .alreadyExists => "already exists"
  | .forbidden => "forbidden"
  | .conflict => "conflict"
  | .throttled => "throttled"
  | .other => "error"

/-- The class of an HTTP status. -/
def ofStatus (status : Nat) : FaultKind :=
  if status = 404 then .notFound
  else if status = 401 ∨ status = 403 then .forbidden
  else if status = 409 then .conflict
  else if status = 429 then .throttled
  else .other

end FaultKind

/-- The answer of the cluster's API to a request it refuses. -/
structure ApiStatus where
  /-- The outcome, usually "Failure". -/
  status : String
  /-- The reason for people. -/
  message : String
  /-- The reason for programs. -/
  reason : String
  /-- The HTTP status. -/
  code : Nat
  deriving Repr, DecidableEq, Inhabited

/-- The text of a refused request: message, reason and all fields. -/
def ApiStatus.text (r : ApiStatus) : String :=
  "ApiError: " ++ r.message ++ ": " ++ r.reason ++ " (ErrorResponse \x7b status: "
    ++ Text.quoted r.status ++ ", message: " ++ Text.quoted r.message ++ ", reason: "
    ++ Text.quoted r.reason ++ ", code: " ++ toString r.code ++ " \x7d)"

/-- One failed item of an operation over many. -/
structure Failure where
  /-- What was attempted. -/
  operation : String
  /-- The item. -/
  resource : String
  /-- The cause in words. -/
  cause : String
  /-- Whether another attempt may succeed. -/
  retryable : Bool
  deriving Repr, DecidableEq, Inhabited

/-- The text of one failed item. -/
def Failure.text (f : Failure) : String :=
  f.operation ++ " " ++ f.resource ++ ": " ++ f.cause

/-- Why measurements cannot be kept. -/
inductive MetricsFault where
  /-- The family is registered already. -/
  | alreadyRegistered
  /-- Any other reason. -/
  | other (message : String)
  deriving Repr, DecidableEq, Inhabited

/-- What can go wrong. -/
inductive Error where
  /-- Something that should not happen. -/
  | internal (message : String)
  /-- The configuration cannot be used. -/
  | configuration (message : String)
  /-- A secret lacks a key. -/
  | missingSecretKey (secret key : String)
  /-- Neither secret with credentials exists. -/
  | credentialsNotFound (backend : Backend) (userSecret mintedSecret : String)
  /-- No backend is configured. -/
  | notConfigured
  /-- More than one backend is configured. -/
  | multipleBackends (backends : List Backend)
  /-- A backend cannot be reached from this build. -/
  | backendUnavailable (backend : Backend) (reason : String)
  /-- The cluster's API refuses a request. -/
  | clusterApi (status : ApiStatus)
  /-- A request to the cluster's API fails otherwise. -/
  | clusterClient (reason : String)
  /-- A provider reports a fault. -/
  | provider (backend : Backend) (operation resource : String) (kind : FaultKind)
      (message : String)
  /-- An exchange over HTTP fails. -/
  | http (reason : String)
  /-- Something did not happen in time. -/
  | timeout (what : String) (duration : Span)
  /-- A wait was cancelled. -/
  | cancelled (what : String)
  /-- Some items of an operation failed. -/
  | aggregate (failures : List Failure)
  /-- A text is not the JSON that is needed. -/
  | json (cause : Json.DecodeError)
  /-- A text is not the YAML that is needed. -/
  | yaml (reason : String)
  /-- A file cannot be read. -/
  | io (message : String)
  /-- Measurements cannot be kept. -/
  | metrics (fault : MetricsFault)
  deriving Repr, DecidableEq, Inhabited

/-- When a caller tries again after an error. -/
inductive Retry where
  /-- Again and again, each time later. -/
  | withBackoff
  /-- After a fixed time. -/
  | after (delay : Span)
  /-- Not before something changes. -/
  | never
  deriving Repr, DecidableEq, Inhabited

namespace Error

/-- The text of several failed items. -/
def failuresText (failures : List Failure) : String :=
  toString failures.length ++ " operation(s) failed: "
    ++ String.intercalate "; " (failures.map Failure.text)

/-- The text of an error. -/
def message : Error → String
  | .internal m => "Internal error: " ++ m
  | .configuration m => "Configuration error: " ++ m
  | .missingSecretKey secret key =>
    "secret " ++ Text.quoted secret ++ " does not contain required key " ++ Text.quoted key
  | .credentialsNotFound backend user minted =>
    "no credentials found for " ++ backend.name ++ ": neither " ++ Text.quoted user ++ " nor "
      ++ Text.quoted minted ++ " exist"
  | .notConfigured => "storage not configured"
  | .multipleBackends backends =>
    "exactly one storage type should be configured, found: "
      ++ String.intercalate ", " (backends.map Backend.name)
  | .backendUnavailable backend reason =>
    "Backend unavailable: " ++ backend.name ++ " (" ++ reason ++ ")"
  | .clusterApi status => "Kubernetes API error: " ++ status.text
  | .clusterClient reason => "Kubernetes API error: " ++ reason
  | .provider backend operation resource kind m =>
    backend.name ++ " " ++ operation ++ " on " ++ resource ++ " failed (" ++ kind.text ++ "): " ++ m
  | .http reason => "HTTP error: " ++ reason
  | .timeout what duration => "timed out after " ++ duration.text ++ " waiting for " ++ what
  | .cancelled what => "cancelled while waiting for " ++ what
  | .aggregate failures => failuresText failures
  | .json cause => "JSON parse error: " ++ cause.message
  | .yaml reason => "YAML parse error: " ++ reason
  | .io m => "IO error: " ++ m
  | .metrics .alreadyRegistered =>
    "Metrics error: Duplicate metrics collector registration attempted"
  | .metrics (.other m) => "Metrics error: Error: " ++ m

/-- The class of the fault, if a provider or the cluster's API reports one. -/
def faultKind? : Error → Option FaultKind
  | .provider _ _ _ kind _ => some kind
  | .clusterApi status => some (.ofStatus status.code)
  | _ => none

/-- The thing does not exist. -/
def isNotFound (e : Error) : Bool := e.faultKind? == some .notFound

/-- The thing exists already. -/
def isAlreadyExists (e : Error) : Bool := e.faultKind? == some .alreadyExists

/-- Access is refused. -/
def isForbidden (e : Error) : Bool := e.faultKind? == some .forbidden

/-- Another change is in the way. -/
def isConflict (e : Error) : Bool := e.faultKind? == some .conflict

/-- There were too many requests. -/
def isThrottled (e : Error) : Bool := e.faultKind? == some .throttled

/-- What to do about an error: wait a minute when throttled and half a minute when a cloud is
slow, wait for a change when only a change can help, and try again otherwise. -/
def retry : Error → Retry
  | .provider _ _ _ .throttled _ => .after (.ofSeconds 60)
  | .timeout _ _ => .after (.ofSeconds 30)
  | .aggregate failures =>
    if failures.any (·.retryable) then .withBackoff else .never
  | .configuration _ | .credentialsNotFound _ _ _ | .missingSecretKey _ _ | .notConfigured
  | .multipleBackends _ | .backendUnavailable _ _ | .json _ | .yaml _ => .never
  | _ => .withBackoff

/-- Whether another attempt may succeed without a change. -/
def isRetryable (e : Error) : Bool := e.retry != .never

/-- Whether the fault lies in the connection or the load. -/
def isTransient : Error → Bool
  | .clusterApi _ | .clusterClient _ | .http _ | .timeout _ _ => true
  | .provider _ _ _ .throttled _ => true
  | _ => false

end Error

/-- The record of one failed item. -/
def Failure.ofError (operation resource : String) (e : Error) : Failure :=
  ⟨operation, resource, e.message, e.isRetryable⟩

/-- The outcome of an operation over many items: it succeeds if no item failed. -/
def Error.ofFailures (failures : List Failure) : Except Error Unit :=
  if failures.isEmpty then .ok () else .error (.aggregate failures)

/-- An operation over many items succeeds if no item failed. -/
theorem Error.ofFailures_eq_ok {failures : List Failure} :
    Error.ofFailures failures = .ok () ↔ failures = [] := by
  cases failures with
  | nil => exact iff_of_true rfl rfl
  | cons f failures => exact iff_of_false (fun h => nomatch h) (fun h => nomatch h)

/-- Otherwise it fails with the records of all that failed. -/
theorem Error.ofFailures_of_ne {failures : List Failure} (h : Error.ofFailures failures ≠ .ok ()) :
    Error.ofFailures failures = .error (.aggregate failures) :=
  if_neg (mt List.isEmpty_iff.1 (mt Error.ofFailures_eq_ok.2 h))

/-- An error of several items is worth another attempt if one of the items is. -/
theorem Error.isRetryable_aggregate {failures : List Failure} :
    (Error.aggregate failures).isRetryable ↔ ∃ f ∈ failures, f.retryable := by
  rw [isRetryable, retry, ← List.any_eq_true]
  cases failures.any (·.retryable) with
  | true => exact iff_of_true rfl rfl
  | false => exact iff_of_false Bool.false_ne_true Bool.false_ne_true

end Depot
