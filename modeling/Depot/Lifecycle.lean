import Depot.Naming
import Depot.Registry
import Depot.Resource

set_option autoImplicit false

/-!
# The lifecycle of a resource

Every resource goes the same way: a name without a resource, a resource that is created or found,
the settings on it, and its removal. Only a resource that the operator created is set up or
removed; one that was there before is left as it is. What happens is recorded in the status, also
when a later step fails.

## Main definitions

* `Lifecycle.checkExists` — whether the resource exists.
* `Lifecycle.checkChanged` — whether the configuration differs from the applied one.
* `Lifecycle.ensure` — finds or creates the resource.
* `Lifecycle.waitUntilVisible` — waits until a created resource can be seen.
* `Lifecycle.applyHardening` — applies the settings.
* `Lifecycle.remove` — removes the resource.
-/

namespace Depot.Lifecycle

open Resource

/-- How long to wait for a created resource, and how often to look. -/
structure WaitPolicy where
  /-- The time between two looks. -/
  interval : Span := .ofSeconds 1
  /-- The time after which the wait ends. -/
  timeout : Span := .ofSeconds 120
  deriving Repr, DecidableEq, Inhabited

/-- What the lifecycle works on: the name of the resource, empty before there is one, and the
status. -/
structure Subject where
  /-- The name. -/
  name : String
  /-- The status. -/
  status : Status
  deriving Repr, DecidableEq, Inhabited

/-- A part of the lifecycle. -/
abbrev Step (α : Type) := Action Resource.interface Subject α

/-- A call. -/
def ask (c : Resource.Call) : Step (Resource.interface.Answer c) :=
  Action.perform (Prog.perform (I := Resource.interface) c)

/-! ## Observations -/

/-- Records an observation. -/
def record (kind : Condition.Kind) (status : Condition.Status) (reason message : String) :
    Step Unit := do
  let time ← ask .time
  modify fun s => { s with status := s.status.record kind status reason message time }

/-- Records that the operator owns the resource, or does not. -/
def setOwnership (o : Ownership) : Step Unit :=
  modify fun s => { s with status := { s.status with ownership := some o } }

/-- Records that nothing could be observed. -/
def recordUnknown (e : Error) : Step Unit :=
  record .storageExists .unknown Condition.Reason.unknownError e.message

/-- Records that the resource could not be created. -/
def recordCreationFailed (e : Error) : Step Unit :=
  record .storageExists .fails Condition.Reason.creationFailed e.message

/-- Records that the resource could not be removed. -/
def recordDeletionFailed (e : Error) : Step Unit :=
  record .storageExists .unknown Condition.Reason.deletionFailed e.message

/-- Records that there is no name yet. -/
def notConfigured : Step Bool := do
  let time ← ask .time
  modify fun s => { s with status := s.status.recordUnnamed time }
  return false

/-- Whether the resource exists; without a name it does not. -/
def checkExists (k : Kind) : Step Bool := do
  let name := (← get).name
  if name = "" then notConfigured
  else
    match ← ask (.probe name) with
    | .ok .present =>
      record .storageExists .holds k.existsReason (k.noun ++ " " ++ name ++ " exists")
      return true
    | .ok .absent =>
      record .storageExists .fails k.notFoundReason (k.noun ++ " " ++ name ++ " does not exist")
      return false
    | .ok .forbidden =>
      let e := Error.provider k.backend "probe" name .forbidden
        ("access to " ++ k.noun ++ " denied")
      recordUnknown e
      throw e
    | .error e =>
      recordUnknown e
      throw e

/-- Whether the desired configuration differs from the applied one. A difference is recorded and
not resolved. -/
def checkChanged {α : Type} [DecidableEq α] (desired applied : Option α) : Step Bool := do
  if desired = applied then return false
  else
    let time ← ask .time
    modify fun s => { s with status := s.status.recordChanged time }
    return true

/-! ## Creation -/

/-- Looks for the resource until it can be seen. An error of a probe ends the wait. -/
def waitUntilVisible (k : Kind) (w : WaitPolicy) : Step Unit := do
  let name := (← get).name
  let start ← ask .now
  let deadline := start.nanos + w.timeout.nanos
  Action.loop (fun _ => do
    match ← ask (.probe name) with
    | .error e => throw e
    | .ok .present => return .inr ()
    | .ok _ =>
      let now ← ask .now
      if deadline < now.nanos + w.interval.nanos then
        throw (.timeout (k.noun ++ " " ++ name ++ " to become visible") w.timeout)
      else
        ask (.sleep w.interval)
        return .inl ()) ()

/-- What follows a creation: the operator owns the resource, which is then awaited. -/
def afterCreation (k : Kind) (w : WaitPolicy) : Step Unit := do
  setOwnership .managed
  match ← Action.outcome (waitUntilVisible k w) with
  | .error e =>
    recordCreationFailed e
    throw e
  | .ok () =>
    let name := (← get).name
    record .storageExists .holds Condition.Reason.creationSuccessful
      (k.noun ++ " " ++ name ++ " was successfully created")

/-- Creates the resource under the name it has. -/
def createNamed (k : Kind) (w : WaitPolicy) (name : String) : Step Unit := do
  match ← ask (.create name) with
  | .ok .created => afterCreation k w
  | .ok .alreadyExists =>
    let message := k.noun ++ " " ++ name
      ++ " already exists and is not accessible with the configured credentials"
    record .storageExists .fails Condition.Reason.notAccessible message
    throw (.configuration message)
  | .error e =>
    recordCreationFailed e
    throw e

/-- Finds the resource of a name, or creates it. One that is found and not the operator's stays
with its owner. -/
def ensureNamed (k : Kind) (w : WaitPolicy) (name : String) : Step Unit := do
  match ← ask (.probe name) with
  | .ok .present =>
    unless (← get).status.isManaged do setOwnership .unmanaged
    record .storageExists .holds k.existsReason (k.noun ++ " " ++ name ++ " exists")
  | .ok .absent | .ok .forbidden => createNamed k w name
  | .error e =>
    recordUnknown e
    throw e

/-- Creates a resource under a fresh name, with as many more names as given when names are
taken. -/
def createFresh (k : Kind) (w : WaitPolicy) : Nat → Step Unit
  | 0 => do
    let e := Error.internal ("unable to find an unused " ++ k.noun ++ " name after "
      ++ toString Naming.maxAttempts ++ " attempts")
    recordCreationFailed e
    throw e
  | attempts + 1 => do
    match ← ask .generate with
    | .error e =>
      recordCreationFailed e
      throw e
    | .ok candidate =>
      match ← ask (.create candidate) with
      | .ok .created =>
        modify fun s => { s with name := candidate }
        afterCreation k w
      | .ok .alreadyExists => createFresh k w attempts
      | .error e =>
        recordCreationFailed e
        throw e

/-- Finds or creates the resource. The name is that of the resource as soon as one is created,
also when a later step fails. -/
def ensure (k : Kind) (w : WaitPolicy) : Step Unit := do
  let name := (← get).name
  let result ← Action.outcome
    (if name = "" then createFresh k w Naming.maxAttempts else ensureNamed k w name)
  ask (.measured .create result.isOk)
  Action.ofExcept result

/-! ## Settings -/

/-- Applies settings one by one and records the outcome of each; answers with those that
failed. -/
def applySteps (name : String) : List Hardening → Step (List Failure)
  | [] => return []
  | step :: rest => do
    match ← ask (.harden name step) with
    | .ok message =>
      record step.condition .holds Condition.Reason.applied message
      applySteps name rest
    | .error e =>
      record step.condition .fails Condition.Reason.failed e.message
      return Failure.ofError step.name name e :: (← applySteps name rest)

/-- Applies all settings to a resource of the operator; other resources are left as they are. -/
def applyHardening (k : Kind) : Step Unit := do
  let s ← get
  if !s.status.isManaged || s.name = "" then return ()
  else Action.ofExcept (Error.ofFailures (← applySteps s.name k.hardening))

/-! ## Removal -/

/-- Goes on with a removal after one of its steps; a resource that is gone already counts as
removed. -/
def acceptGone : Except Error Unit → Step Unit
  | .ok () => return ()
  | .error e =>
    if e.isNotFound then return ()
    else do
      recordDeletionFailed e
      throw e

/-- Empties and deletes a resource. One that is gone already counts as removed. -/
def removeOwned (k : Kind) (name : String) : Step Unit := do
  acceptGone (← ask (.empty name))
  acceptGone (← ask (.delete name))
  setOwnership .removed
  record .storageExists .fails Condition.Reason.deleted
    (k.noun ++ " " ++ name ++ " has been deleted")

/-- Removes a resource of the operator; other resources are left as they are. Says whether the
resource was removed. -/
def remove (k : Kind) : Step Bool := do
  let s ← get
  if !s.status.isManaged || s.name = "" then return false
  else
    let result ← Action.outcome (removeOwned k s.name)
    ask (.measured .remove result.isOk)
    Action.ofExcept result
    return true

end Depot.Lifecycle
