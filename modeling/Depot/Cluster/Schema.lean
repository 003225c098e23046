import Depot.Json.Canonical
import Depot.Time.Timestamp

set_option autoImplicit false

/-!
# Forms of cluster objects

The cluster gives every field of its objects a form. A reader skips the fields that it does not
know; of a field that is given more than once each value must have the right form, and the last one
counts. Null is as good as no field. What the operator does not look into is kept as the JSON value
that it is written as again: with its known fields only, and with moments in UTC to the second.

## Main definitions

* `Cluster.members`, `Cluster.field?` — the fields of an object.
* `Cluster.Schema` — the forms of values.
* `Cluster.Schema.read` — a value as it is written again, if it has a form.
-/

namespace Depot.Cluster

/-! ## Fields -/

/-- The members of an object. All names must be texts. -/
def members : Json → Json.Decoded (List (String × Json))
  | .obj entries => entries.mapM fun (k, v) =>
      match k with
      | some k => .ok (k, v)
      | none => .error (.expected "a field name")
  | _ => .error (.expected "an object")

/-- The last value of a field, if it is not null; the values before it must be right as well. -/
def field? {α : Type} (read : Json → Json.Decoded α) (ms : List (String × Json))
    (name : String) : Json.Decoded (Option α) := do
  let values ← (ms.filter (·.1 == name)).mapM fun (_, v) => Json.nullable read v
  return values.getLast?.join

/-- A text that is empty if it is not given. -/
def textField (ms : List (String × Json)) (name : String) : Json.Decoded String := do
  return (← field? Json.string ms name).getD ""

/-- Values by name, of which the last one of a name counts. -/
def dict {α : Type} (read : Json → Json.Decoded α) (v : Json) : Json.Decoded (Dict α) := do
  return .ofList (← (← members v).mapM fun (k, v) => do return (k, ← read v))

/-- A moment, to the second. -/
def time (v : Json) : Json.Decoded String := do
  match Timestamp.parse? (← Json.string v) with
  | some t => return t.floorSecond.text
  | none => .error (.expected "a moment")

/-! ## Forms -/

/-- The form of a value. -/
inductive Schema where
  /-- A text. -/
  | text
  /-- A truth value. -/
  | flag
  /-- A whole number of 64 bits with a sign. -/
  | integer
  /-- A moment. -/
  | time
  /-- Any value in at most so many collections. -/
  | any (depth : Nat)
  /-- A list of values of one form. -/
  | list (item : Schema)
  /-- Values of one form by name. -/
  | map (value : Schema)
  /-- An object with texts that are empty if they are not given, and with fields that may be
  missing. -/
  | record (texts : List String) (fields : List (String × Schema))
  deriving Repr, Inhabited

namespace Schema

/-- Texts by name. -/
def texts : Schema := .map .text

mutual

/-- A value as it is written again, if it has the form. -/
def read : Schema → Json → Json.Decoded Json
  | .text, v => (Json.string v).map .text
  | .flag, v => (Json.boolean v).map .bool
  | .integer, v => (Json.integer (-(Nat.pow 2 63 : Nat)) (Nat.pow 2 63 - 1 : Nat) v).map .int
  | .time, v => (Cluster.time v).map .text
  | .any depth, v =>
    match Json.canonicalWithin depth v with
    | some v => .ok v
    | none => .error (.expected "a value")
  | .list item, v => (Json.list item.read v).map .arr
  | .map value, v => (dict value.read v).map (Dict.toJson id)
  | .record texts fields, v => do
    let ms ← members v
    let texts ← texts.mapM fun name => do return (name, Json.text (← textField ms name))
    return .object (texts ++ (← readFields fields ms))

/-- The fields of an object that are given, each with its form. -/
def readFields : List (String × Schema) → List (String × Json) →
    Json.Decoded (List (String × Json))
  | [], _ => .ok []
  | (name, s) :: rest, ms => do
    let value ← field? s.read ms name
    return Json.optional name value ++ (← readFields rest ms)

end

end Schema

end Depot.Cluster
