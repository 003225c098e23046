import Depot.Storage.Session

set_option autoImplicit false

/-!
# Containers of Swift

How the steps of the lifecycle are done for a container of Swift, which has no settings to apply.
An object that cannot be deleted does not keep the others from being deleted.

## Main definitions

* `Swift.empty` — deletes all objects.
* `Swift.operations` — the steps of the lifecycle.
-/

namespace Depot.Swift

/-- What is fixed for containers. -/
def containerKind : Resource.Kind where
  backend := .swift
  noun := "container"
  existsReason := Condition.Reason.containerExists
  notFoundReason := Condition.Reason.containerNotFound

/-- Deletes objects one by one; answers with the failures. -/
def deleteObjects (container : String) : List String → Operating Unit (List Failure) :=
  Storage.deleteEach (fun name => World.swift (.deleteObject container name)) container

/-- Deletes the objects of one page of the listing; goes on with the next page, or ends with all
failures. An empty page is the last one. -/
def emptyPage (container : String) (failures : List Failure) (marker : Option String) :
    Operating Unit ((List Failure × Option String) ⊕ List Failure) := do
  let page ← Action.attempt (World.swift (.listObjects container marker))
  if page.names.isEmpty then return .inr failures
  else
    let failures := failures ++ (← deleteObjects container page.names)
    match page.next with
    | some marker => return .inl (failures, some marker)
    | none => return .inr failures

/-- Deletes all objects. -/
def empty (container : String) : Operating Unit Unit := do
  let failures ←
    Action.loop (fun (failures, marker) => emptyPage container failures marker) ([], none)
  Action.ofExcept (Error.ofFailures failures)

/-- The steps of the lifecycle. -/
def operations (infraName : String) : Resource.Operations where
  kind := containerKind
  probe name := Action.attempt (World.swift (.containerPresence name))
  create name := Action.attempt (World.swift (.createContainer name))
  empty := empty
  delete name := Action.attempt (World.swift (.deleteContainer name))
  generate := do
    let digits ← Action.perform World.randomDigits
    Action.ofExcept (Naming.storageName infraName [] Naming.maxContainerLength digits)

end Depot.Swift
