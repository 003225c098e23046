import Depot.Credentials.Basic
import Depot.Resource

set_option autoImplicit false

/-!
# Calls to Swift

What the operator asks of OpenStack Swift about containers.

## Main definitions

* `Swift.Call`, `Swift.Answer` — the calls and the types of their answers.
* `Swift.Page` — the pages of listings.
-/

namespace Depot.Swift

/-- A part of a listing of objects. -/
structure Page where
  /-- The names. -/
  names : List String := []
  /-- The name after which the listing goes on, if it does. -/
  next : Option String := none
  deriving Repr, DecidableEq, Inhabited

/-- The calls. All but the first go through the last connection. -/
inductive Call where
  /-- Logs in. -/
  | connect (credentials : Credentials)
  /-- Does a container exist? -/
  | containerPresence (container : String)
  /-- Creates a container. -/
  | createContainer (container : String)
  /-- Lists objects. -/
  | listObjects (container : String) (marker : Option String)
  /-- Deletes an object. -/
  | deleteObject (container name : String)
  /-- Deletes a container. -/
  | deleteContainer (container : String)

/-- The types of the answers. -/
abbrev Answer : Call → Type
  | .containerPresence _ => Except Error Presence
  | .createContainer _ => Except Error Creation
  | .listObjects _ _ => Except Error Page
  | _ => Except Error Unit

end Depot.Swift
