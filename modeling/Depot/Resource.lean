import Depot.Condition
import Depot.Prog

set_option autoImplicit false

/-!
# Resources

A resource is the bucket, container, storage account or claim that holds the images. The lifecycle
of all of them is the same; only what its steps do differs. Here are the steps as calls, with the
answers that the lifecycle distinguishes.

## Main definitions

* `Presence`, `Creation`, `Hardening` — answers to a probe and to a creation, and settings.
* `Resource.Kind` — what is fixed for a kind of resource.
* `Resource.Call`, `Resource.interface` — the steps as calls.
-/

namespace Depot

/-- What a probe finds. -/
inductive Presence where
  /-- The resource exists. -/
  | present
  /-- It does not exist. -/
  | absent
  /-- It exists, and the credentials give no access to it. -/
  | forbidden
  deriving Repr, DecidableEq, Inhabited

/-- The outcome of a creation. -/
inductive Creation where
  /-- The resource was created. -/
  | created
  /-- The name belongs to someone else. -/
  | alreadyExists
  deriving Repr, DecidableEq, Inhabited

/-- A setting that is applied to resources of the operator. -/
inductive Hardening where
  | blockPublicAccess
  | tag
  | encrypt
  | abortIncompleteUploads
  deriving Repr, DecidableEq, Inhabited

namespace Hardening

/-- The name of a setting. -/
def name : Hardening → String
  | .blockPublicAccess => "block-public-access"
  | .tag => "tag"
  | .encrypt => "encrypt"
  | .abortIncompleteUploads => "abort-incomplete-uploads"

/-- All settings. -/
def all : List Hardening := [.blockPublicAccess, .tag, .encrypt, .abortIncompleteUploads]

/-- The setting of that name. -/
def ofName? (s : String) : Option Hardening := all.find? (·.name == s)

/-- The condition that reports a setting. -/
def condition : Hardening → Condition.Kind
  | .blockPublicAccess => .publicAccessBlocked
  | .tag => .storageTagged
  | .encrypt => .storageEncrypted
  | .abortIncompleteUploads => .uploadCleanupEnabled

end Hardening

/-- What is measured. -/
inductive Operation where
  | create
  | remove
  deriving Repr, DecidableEq, Inhabited

/-- The name of an operation. -/
def Operation.name : Operation → String
  | .create => "create"
  | .remove => "remove"

namespace Resource

/-- What is fixed for a kind of resource. -/
structure Kind where
  /-- The backend it belongs to. -/
  backend : Backend
  /-- What it is called. -/
  noun : String
  /-- The reason that it exists. -/
  existsReason : String
  /-- The reason that it does not exist. -/
  notFoundReason : String
  /-- The settings to apply, in order. -/
  hardening : List Hardening := []
  deriving Repr, DecidableEq, Inhabited

/-- The steps of the lifecycle, with the clock and the measurements it needs. -/
inductive Call where
  /-- Does the resource of that name exist? -/
  | probe (name : String)
  /-- Creates it. -/
  | create (name : String)
  /-- Applies a setting; answers with words about it. -/
  | harden (name : String) (step : Hardening)
  /-- Deletes what is in it. -/
  | empty (name : String)
  /-- Deletes it. -/
  | delete (name : String)
  /-- Makes up a name. -/
  | generate
  /-- The time since some moment in the past. -/
  | now
  /-- Waits. -/
  | sleep (duration : Span)
  /-- The date and time. -/
  | time
  /-- Records the outcome of an operation. -/
  | measured (operation : Operation) (succeeded : Bool)
  deriving Repr, DecidableEq, Inhabited

/-- The steps as calls and their answers. -/
def interface : Interface where
  Call := Call
  Answer
    | .probe _ => Except Error Presence
    | .create _ => Except Error Creation
    | .harden _ _ => Except Error String
    | .empty _ => Except Error Unit
    | .delete _ => Except Error Unit
    | .generate => Except Error String
    | .now => Span
    | .sleep _ => Unit
    | .time => Timestamp
    | .measured _ _ => Unit

end Resource

end Depot
