import Depot.Credentials.Resolver
import Depot.Gcs.Binding
import Depot.Lifecycle

set_option autoImplicit false

/-!
# Sessions

A session is the work on the storage of one registry with one block of configuration. The lifecycle
of a resource runs in it: what the steps of the lifecycle do is given by the operations of the
backend, the status of the registry is updated, and the outcome comes with the name of the resource.

## Main definitions

* `Storage.Settings` — what all backends share.
* `Storage.Session`, `Storage.Work` — the configuration and the registry that actions work on.
* `Resource.Operations` — what the steps of the lifecycle do.
* `Storage.onResource` — runs a part of the lifecycle.
* `Storage.deleteEach` — deletes objects one by one, whatever call deletes one.
-/

namespace Depot

/-- What the steps of the lifecycle do. -/
structure Resource.Operations where
  /-- The kind of resource. -/
  kind : Resource.Kind
  /-- Does the resource of that name exist? -/
  probe : String → Operating Unit Presence
  /-- Creates it. -/
  create : String → Operating Unit Creation
  /-- Applies a setting; answers with words about it. -/
  harden : String → Hardening → Operating Unit String := fun name step =>
    throw (.internal (kind.backend.name ++ " does not support hardening step " ++ step.name
      ++ " on " ++ name))
  /-- Deletes what is in it. -/
  empty : String → Operating Unit Unit := fun _ => pure ()
  /-- Deletes it. -/
  delete : String → Operating Unit Unit
  /-- Makes up a name. -/
  generate : Operating Unit String

/-- The program for a step. -/
def Resource.Operations.answer (ops : Resource.Operations) :
    (c : Resource.Call) → Prog World (Resource.interface.Answer c)
  | .probe name => (ops.probe name).result
  | .create name => (ops.create name).result
  | .harden name step => (ops.harden name step).result
  | .empty name => (ops.empty name).result
  | .delete name => (ops.delete name).result
  | .generate => ops.generate.result
  | .now => World.now
  | .sleep duration => World.sleep duration
  | .time => World.time
  | .measured operation succeeded => World.measured ops.kind.backend operation succeeded

namespace Storage

/-- What all backends share. -/
structure Settings where
  /-- Where credentials are found. -/
  credentials : Credentials.Settings := {}
  /-- How long to wait for a created resource. -/
  wait : Lifecycle.WaitPolicy := {}
  /-- How tags are bound to buckets of Google Cloud. -/
  binding : Gcs.Binding.Settings := {}

/-- A block of configuration and the registry it belongs to. -/
structure Session (C : Type) where
  /-- The configuration. -/
  config : C
  /-- The registry. -/
  registry : Registry
  deriving Repr, DecidableEq, Inhabited

/-- Work in a session. -/
abbrev Work (C α : Type) := Operating (Session C) α

variable {C α : Type}

/-- Changes the status of the registry. -/
def modifyStatus (f : Status → Status) : Work C Unit :=
  modify fun s => { s with registry.status := f s.registry.status }

/-- Changes the configuration of the registry. -/
def modifySpec (f : Spec → Spec) : Work C Unit :=
  modify fun s => { s with registry.spec := f s.registry.spec }

/-- Records that the configuration was applied. -/
def modifyApplied (f : Spec → Spec) : Work C Unit :=
  modifyStatus fun s => { s with applied := f s.applied }

/-- Records an observation. -/
def observe (kind : Condition.Kind) (status : Condition.Status) (reason message : String) :
    Work C Unit := do
  let now ← Action.perform World.time
  modifyStatus fun s => s.record kind status reason message now

/-- Runs a part of the lifecycle on the resource of a name. The outcome comes with the name after
it. -/
def onResource (ops : Resource.Operations) (name : String) (step : Lifecycle.Step α) :
    Work C (Except Error α × String) :=
  Action.ofRun fun s =>
    ((Action.interpret ops.answer step).start ⟨name, s.registry.status⟩).bind fun (r, t) =>
      .pure (.ok (r, t.name), { s with registry.status := t.status })

/-- Runs a part of the lifecycle that keeps the name. -/
def withResource (ops : Resource.Operations) (name : String) (step : Lifecycle.Step α) :
    Work C α := do
  let (r, _) ← onResource ops name step
  Action.ofExcept r

/-- Whether the resource of a name exists. -/
def resourceExists (ops : Resource.Operations) (name : String) : Work C Bool :=
  withResource ops name (Lifecycle.checkExists ops.kind)

/-- Records that there is no name yet. -/
def unnamed : Work C Bool := do
  let now ← Action.perform World.time
  modifyStatus (·.recordUnnamed now)
  return false

/-- Whether a block of configuration differs from the one that was applied. -/
def blockChanged [DecidableEq α] (block : Spec → Option α) : Work C Bool := do
  let r := (← get).registry
  if block r.spec = block r.status.applied then return false
  else
    let now ← Action.perform World.time
    modifyStatus (·.recordChanged now)
    return true

/-- Whether the operator owns the storage. -/
def isManaged : Work C Bool := return (← get).registry.status.isManaged

/-- Deletes the objects in a bucket or container one by one, with a call for each; answers with the
failures. An object that is gone already counts as deleted. -/
def deleteEach (ask : String → Prog World (Except Error Unit)) (holder : String) :
    List String → Operating Unit (List Failure)
  | [] => return []
  | name :: rest => do
    match ← Action.perform (ask name) with
    | .ok () => deleteEach ask holder rest
    | .error e =>
      if e.isNotFound then deleteEach ask holder rest
      else
        return Failure.ofError "delete-object" (holder ++ "/" ++ name) e
          :: (← deleteEach ask holder rest)

end Storage

end Depot
