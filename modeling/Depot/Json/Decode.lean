import Depot.Json.Parser

set_option autoImplicit false

/-!
# Typed readers for JSON

Readers that turn a JSON value into a value of a domain type. A record is written as an object, or
as an array of its fields in their order, from which fields at the end may be missing. Unknown
members of an object are skipped and known ones may not repeat. A name from a fixed set is written
as a string, or as an object whose only member has that name and the value null.

## Main definitions

* `Json.DecodeError` — why a value is refused.
* `Json.Fields` — the known fields of a record.
* `Json.string`, `Json.boolean`, `Json.integer`, `Json.word`, `Json.list`, `Json.nullable`,
  `Json.variant`, `Json.record` — the readers.
* `Json.decode` — reads a text.
-/

namespace Depot.Json

/-- Why a value is refused. -/
inductive DecodeError where
  /-- The text is not JSON. -/
  | notJson
  /-- Another kind of value is needed. -/
  | expected (what : String)
  /-- A known field is given twice. -/
  | repeated (field : String)
  /-- A field without a default is not given. -/
  | missing (field : String)
  /-- An array has more items than the record has fields. -/
  | surplus
  /-- A name is not in its set. -/
  | unknownVariant (name : String)
  deriving Repr, DecidableEq, Inhabited

/-- The reason in words. -/
def DecodeError.message : DecodeError → String
  | .notJson => "not a JSON text"
  | .expected what => "expected " ++ what
  | .repeated field => "duplicate field " ++ field
  | .missing field => "missing field " ++ field
  | .surplus => "too many fields"
  | .unknownVariant name => "unknown variant " ++ name

/-- The result of a reader. -/
abbrev Decoded (α : Type) := Except DecodeError α

/-- A text. -/
def string : Json → Decoded String
  | .str (some s) => .ok s
  | _ => .error (.expected "a string")

/-- A truth value. -/
def boolean : Json → Decoded Bool
  | .bool b => .ok b
  | _ => .error (.expected "a boolean")

/-- A whole number from `low` to `high`. -/
def integer (low high : Int) : Json → Decoded Int
  | .num n =>
    match n.toInt? with
    | some i => if low ≤ i ∧ i ≤ high then .ok i else .error (.expected "a number within bounds")
    | none => .error (.expected "a whole number")
  | _ => .error (.expected "a number")

/-- A natural number of at most `bits` binary digits. -/
def word (bits : Nat) (v : Json) : Decoded Nat :=
  (integer 0 (Nat.pow 2 bits - 1 : Nat) v).map Int.toNat

/-- A value or null. -/
def nullable {α : Type} (read : Json → Decoded α) : Json → Decoded (Option α)
  | .null => .ok none
  | v => (read v).map some

/-- An array of values of one kind. -/
def list {α : Type} (read : Json → Decoded α) : Json → Decoded (List α)
  | .arr items => items.mapM read
  | _ => .error (.expected "an array")

/-- A name from a fixed set. -/
def variant {α : Type} (ofName? : String → Option α) (v : Json) : Decoded α :=
  let named (name : String) : Decoded α :=
    match ofName? name with
    | some a => .ok a
    | none => .error (.unknownVariant name)
  match v with
  | .str (some name) => named name
  | .obj [(some name, .null)] => named name
  | _ => .error (.expected "a name")

/-- The known fields of a record that are given, each once. -/
structure Fields where
  /-- Names and values. -/
  given : List (String × Json)

namespace Fields

/-- The value of a field, if it is given. -/
def get? (fs : Fields) (name : String) : Option Json := fs.given.lookup name

/-- A field that must be given. -/
def required {α : Type} (fs : Fields) (name : String) (read : Json → Decoded α) : Decoded α :=
  match fs.get? name with
  | some v => read v
  | none => .error (.missing name)

/-- A field that has a default. -/
def orDefault {α : Type} (fs : Fields) (name : String) (default : α) (read : Json → Decoded α) :
    Decoded α :=
  match fs.get? name with
  | some v => read v
  | none => .ok default

/-- A text that is empty by default. -/
def orEmpty (fs : Fields) (name : String) : Decoded String := fs.orDefault name "" string

/-- A field that may be missing or null. -/
def orNone {α : Type} (fs : Fields) (name : String) (read : Json → Decoded α) :
    Decoded (Option α) :=
  fs.orDefault name none (nullable read)

end Fields

/-- Collects the known members of an object. -/
def collect (names : List String) : List (Literal × Json) → Decoded (List (String × Json))
  | [] => .ok []
  | (none, _) :: _ => .error (.expected "a field name")
  | (some name, v) :: rest =>
    match collect names rest with
    | .error e => .error e
    | .ok given =>
      if name ∈ names then
        if (given.lookup name).isSome then .error (.repeated name) else .ok ((name, v) :: given)
      else .ok given

/-- The fields of a record with the given field names, in their order. -/
def record (names : List String) : Json → Decoded Fields
  | .obj members => (collect names members).map Fields.mk
  | .arr items =>
    if names.length < items.length then .error .surplus else .ok ⟨names.zip items⟩
  | _ => .error (.expected "an object")

/-- Reads a text. -/
def decode {α : Type} (read : Json → Decoded α) (s : String) : Decoded α :=
  match parse? s with
  | none => .error .notJson
  | some v => read v

end Depot.Json
