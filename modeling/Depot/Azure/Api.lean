import Depot.Azure.Environment
import Depot.Credentials.Basic
import Depot.Resource

set_option autoImplicit false

/-!
# Calls to Azure

What the operator asks of Azure about storage accounts and their containers.

## Main definitions

* `Azure.Call`, `Azure.Answer` — the calls and the types of their answers.
-/

namespace Depot.Azure

/-- What an account is created with. -/
structure AccountParameters where
  /-- The region. -/
  location : String
  /-- The tags. -/
  tags : Dict String

/-- The calls. All but the first go through the last connection. -/
inductive Call where
  /-- Connects. -/
  | connect (credentials : Credentials) (environment : Environment)
  /-- Does an account exist? -/
  | accountPresence (account : String)
  /-- Creates an account and waits until that is done. -/
  | createAccount (account : String) (parameters : AccountParameters)
  /-- Sets the tags of an account. -/
  | updateAccountTags (account : String) (tags : Dict String)
  /-- Blocks public access to an account. -/
  | disablePublicAccess (account : String)
  /-- Deletes an account. -/
  | deleteAccount (account : String)
  /-- The first key of an account. -/
  | accountKey (account : String)
  /-- Does a container exist? -/
  | containerPresence (account container : String)
  /-- Creates a container. -/
  | createContainer (account container : String)
  /-- Deletes a container. -/
  | deleteContainer (account container : String)

/-- The types of the answers. -/
abbrev Answer : Call → Type
  | .accountPresence _ => Except Error Presence
  | .createAccount _ _ => Except Error Creation
  | .accountKey _ => Except Error String
  | .containerPresence _ _ => Except Error Presence
  | .createContainer _ _ => Except Error Creation
  | _ => Except Error Unit

end Depot.Azure
