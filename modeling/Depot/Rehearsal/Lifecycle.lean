import Depot.Rehearsal.Answer
import Depot.Storage.Session

set_option autoImplicit false

/-!
# Rehearsing the lifecycle

The lifecycle of a resource is rehearsed on resources that have no more than a name.

## Main definitions

* `Rehearsal.Resources` — the resources and how they answer.
* `Rehearsal.Resources.answer` — the answer to each step of the lifecycle.
* `Rehearsal.runStep` — the rehearsal of a part of the lifecycle.
-/

namespace Depot.Rehearsal

/-- How the resources of a kind answer. -/
structure Resources where
  /-- The kind. -/
  kind : Resource.Kind
  /-- Whether they do no more than any resource must. -/
  bare : Bool
  /-- Whether operations are measured. -/
  measured : Bool
  deriving Repr, DecidableEq, Inhabited

namespace Resources

/-- The kind of a resource that does no more than any resource must: it has no settings. -/
def lifecycleKind (r : Resources) : Resource.Kind :=
  if r.bare then { r.kind with hardening := [] } else r.kind

/-- What is there for all resources. -/
def bareOperations (r : Resources) : Resource.Operations where
  kind := r.kind
  probe _ := pure .absent
  create _ := pure .created
  delete _ := pure ()
  generate := pure ""

/-- Does the resource of a name exist? -/
def probe (name : String) : Trial Presence := do
  let outcome ← call "probe" [.text name]
  return outcome.presence (← hasStore name)

/-- Creates it. -/
def create (name : String) : Trial Creation := do
  let outcome ← call "create" [.text name]
  creation outcome (← hasStore name) (putStore name {})

/-- Applies a setting. -/
def harden (r : Resources) (name : String) (step : Hardening) : Trial String := do
  if r.bare then attempt (r.bareOperations.harden name step).result
  else
    let _ ← call "harden" [.text name, .text step.name]
    let _ ← nextOutcome ("harden " ++ step.name)
    return step.name ++ " applied"

/-- Empties it. -/
def empty (r : Resources) (name : String) : Trial Unit := do
  if r.bare then attempt (r.bareOperations.empty name).result
  else
    let _ ← call "empty" [.text name]

/-- Makes up a name: they are numbered. -/
def generate : Trial String := do
  let _ ← call "generate" []
  let n ← modifyGet fun s => (s.drawn, { s with drawn := s.drawn + 1 })
  return "generated-" ++ toString n

/-- Records the outcome of an operation. -/
def measure (r : Resources) (operation : Operation) (succeeded : Bool) : Rehearsal Unit :=
  if r.measured then answer (.measured r.kind.backend operation succeeded) else pure ()

/-- The answer to each step of the lifecycle. -/
def answer (r : Resources) : (c : Resource.Call) → Rehearsal (Resource.interface.Answer c)
  | .probe name => (probe name).run
  | .create name => (create name).run
  | .harden name step => (r.harden name step).run
  | .empty name => (r.empty name).run
  | .delete name => (deleting "delete" name).run
  | .generate => generate.run
  | .now => Rehearsal.answer .now
  | .sleep duration => wait duration
  | .time => Rehearsal.answer .time
  | .measured operation succeeded => r.measure operation succeeded

end Resources

/-- The rehearsal of a part of the lifecycle. -/
def runStep {α : Type} (r : Resources) (subject : Lifecycle.Subject) (step : Lifecycle.Step α) :
    Trial (Except Error α × Lifecycle.Subject) := runWith r.answer (step.start subject)

end Depot.Rehearsal
