import Depot.Backoff
import Depot.Infrastructure

set_option autoImplicit false

/-!
# Binding tags to buckets

Tags of an organization or project are bound to a bucket one by one. Tags that are in effect
already, also by inheritance, are left out. The calls are spaced out evenly, a call that is one too
many is tried again later, and a tag that cannot be bound does not keep the others from being
bound.

## Main definitions

* `Gcs.Pacer` — permits at a fixed rate.
* `Gcs.Binding.Settings` — how fast and how long to try.
* `Gcs.Binding.bind` — binds tags to a resource.
-/

namespace Depot.Gcs

/-! ## Pacing -/

/-- Permits at a fixed rate. The first one comes after one period; one that is taken late moves
those after it. -/
structure Pacer where
  /-- The time of the next permit. -/
  next : Span
  /-- The time between two permits. -/
  period : Span
  deriving Repr, DecidableEq, Inhabited

namespace Pacer

/-- Permits from now on. -/
def start {σ : Type} (period : Span) : Operating σ Pacer := do
  let now ← Action.perform World.now
  return { next := ⟨now.nanos + period.nanos⟩, period }

/-- How late a permit may be taken without moving those after it. -/
def tolerance : Span := .ofMillis 5

/-- The permits after one that was taken. -/
def advance (p : Pacer) (now : Span) : Pacer :=
  let base := if p.next.nanos + tolerance.nanos < now.nanos then now.nanos else p.next.nanos
  { p with next := ⟨base + p.period.nanos⟩ }

/-- Waits for a permit. -/
def acquire {σ : Type} (p : Pacer) : Operating σ Pacer := do
  let now ← Action.perform World.now
  if now.nanos < p.next.nanos then
    Action.perform (World.sleep ⟨p.next.nanos - now.nanos⟩)
  return p.advance (← Action.perform World.now)

end Pacer

namespace Binding

/-! ## Settings -/

/-- How fast tags are bound and how long a call is tried again. -/
structure Settings where
  /-- The least time between two tags. -/
  writeInterval : Span := .ofMillis 200
  /-- The first wait after a call too many. -/
  initialRetry : Span := .ofSeconds 1
  /-- The factor between two waits. -/
  multiplier : Rat := 2
  /-- The time after which a call is not tried again. -/
  maxElapsed : Span := .ofSeconds 300

/-- How a call too many is tried again. -/
def Settings.backoff (s : Settings) : Backoff where
  initial := s.initialRetry
  multiplier := s.multiplier
  maximum := .ofSeconds 60
  spread := 1 / 2
  limit := s.maxElapsed

/-- The full name of a bucket, to which tags are bound. -/
def bucketName (bucket : String) : String :=
  "//storage.googleapis.com/projects/_/buckets/" ++ bucket

variable {σ : Type}

/-! ## Tags in effect -/

/-- How many pages of tags are read. -/
def maxPages : Nat := 50

/-- A token with which a listing goes on. -/
def nextToken? (token : Option String) : Option String := token.filter (· ≠ "")

/-- The tags in effect on a resource, from at most `pages` pages. An error ends the listing. -/
def effectiveFrom (resource : String) : Nat → Option String → Operating σ (List String)
  | 0, _ => return []
  | pages + 1, token => do
    match ← Action.perform (World.gcs (.listEffectiveTags resource token)) with
    | .error _ => return []
    | .ok page =>
      match nextToken? page.next with
      | none => return page.values
      | some token => return page.values ++ (← effectiveFrom resource pages (some token))

/-- The tags in effect on a resource, as far as they can be read. -/
def effective (resource : String) : Operating σ (List String) :=
  effectiveFrom resource maxPages none

/-! ## Binding -/

/-- One try to bind a tag. A tag that is bound already counts as bound. -/
def tryBind (resource value : String) : Operating σ (Backoff.Attempt Unit) := do
  match ← Action.perform (World.gcs (.createBinding resource value)) with
  | .ok () => return .done ()
  | .error e =>
    if e.isConflict || e.isAlreadyExists then return .done ()
    else if e.isThrottled then return .again e
    else return .failed e

/-- Binds a tag. -/
def bindOne (s : Settings) (resource value : String) : Operating σ Unit :=
  s.backoff.retry (tryBind resource value)

/-- Binds tags one by one; answers with those that are bound and with the failures. -/
def bindEach (s : Settings) (resource : String) :
    Pacer → List String → Operating σ (List String × List Failure)
  | _, [] => return ([], [])
  | pacer, value :: rest => do
    let pacer ← pacer.acquire
    let outcome ← Action.outcome (bindOne s resource value)
    let (bound, failures) ← bindEach s resource pacer rest
    match outcome with
    | .ok () => return (value :: bound, failures)
    | .error e => return (bound, Failure.ofError "bind-tag" value e :: failures)

/-- The tags that are wanted and not in effect, each once and in order. -/
def pending (wanted : List GcpTag) (inEffect : List String) : List String :=
  let missing := (wanted.map GcpTag.namespacedValue).filter fun v => !inEffect.contains v
  (Dict.ofList (missing.map (·, ()))).entries.map (·.1)

/-- Binds the tags that are not in effect yet, and answers with them. -/
def bind (s : Settings) (resource : String) (wanted : List GcpTag) :
    Operating σ (List String) := do
  let values := pending wanted (← effective resource)
  if values.isEmpty then return []
  else
    let (bound, failures) ← bindEach s resource (← Pacer.start s.writeInterval) values
    Action.ofExcept (Error.ofFailures failures)
    return bound

end Binding

end Depot.Gcs
