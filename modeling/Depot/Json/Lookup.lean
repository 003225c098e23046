import Depot.Json.Basic

set_option autoImplicit false

/-!
# Looking up members

Lenient readers for descriptions in which most members may be left out. A member that is absent or
of another kind reads as empty, zero or false.

## Main definitions

* `Json.field?` — a member that is there and not null.
* `Json.textAt`, `Json.listAt`, `Json.natAt` and so on — members of one kind.
-/

namespace Depot.Json

/-- A member, if it is there and not null. -/
def field? (v : Json) (name : String) : Option Json :=
  match v.member? name with
  | some .null => none
  | m => m

/-- A member, or an object without members. -/
def fieldOrEmpty (v : Json) (name : String) : Json := (v.field? name).getD (.obj [])

/-- A text, if it is there. -/
def textAt? (v : Json) (name : String) : Option String := (v.member? name).bind asText?

/-- A text, empty if it is absent. -/
def textAt (v : Json) (name : String) : String := (v.textAt? name).getD ""

/-- The items of a list. -/
def items : Json → List Json
  | .arr vs => vs
  | _ => []

/-- A list, empty if it is absent. -/
def listAt (v : Json) (name : String) : List Json := ((v.member? name).map items).getD []

/-- A list of texts; other items are left out. -/
def textsAt (v : Json) (name : String) : List String := (v.listAt name).filterMap asText?

/-- The members of an object whose names are texts. -/
def entries : Json → List (String × Json)
  | .obj ms => ms.filterMap fun (k, v) => k.map (·, v)
  | _ => []

/-- The members of an object, none if it is absent. -/
def entriesAt (v : Json) (name : String) : List (String × Json) :=
  ((v.member? name).map entries).getD []

/-- A natural number. -/
def asNat? : Json → Option Nat
  | .num n => n.toInt?.bind fun i => if i < 0 then none else some i.toNat
  | _ => none

/-- A natural number, if it is there. -/
def natAt? (v : Json) (name : String) : Option Nat := (v.member? name).bind asNat?

/-- A natural number with a default. -/
def natAt (v : Json) (name : String) (default : Nat) : Nat := (v.natAt? name).getD default

/-- A truth value, false if it is absent. -/
def flagAt (v : Json) (name : String) : Bool :=
  match v.member? name with
  | some (.bool b) => b
  | _ => false

end Depot.Json
