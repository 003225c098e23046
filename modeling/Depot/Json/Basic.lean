set_option autoImplicit false

/-!
# JSON values

A JSON value as it is written: members keep their order and may repeat, and a number keeps its
digits. What a reader makes of repeated members or of large numbers is the reader's decision.

## Main definitions

* `Json.Number` — a decimal number.
* `Json.Literal` — the content of a string literal.
* `Json` — values.
* `Json.text`, `Json.int`, `Json.object` — the values that writers need.
-/

namespace Depot

/-- The decimal number `± digits · 10 ^ exponent`. -/
structure Json.Number where
  /-- Whether the number is written with a minus sign. -/
  negative : Bool
  /-- All digits before and after the point. -/
  digits : Nat
  /-- The power of ten of the last digit. -/
  exponent : Int
  /-- Whether the number is written without a point and without an exponent. -/
  integral : Bool
  deriving Repr, DecidableEq, Inhabited

/-- The content of a string literal; none if one of its escapes is half of a surrogate pair
without the other half. Such a literal denotes no text: it can be skipped but not read. -/
abbrev Json.Literal := Option String

/-- A JSON value as it is written. -/
inductive Json where
  | null
  | bool (b : Bool)
  | num (n : Json.Number)
  | str (s : Json.Literal)
  | arr (items : List Json)
  | obj (members : List (Json.Literal × Json))
  deriving Repr, Inhabited

namespace Json

/-- A whole number without point and exponent. -/
def Number.ofInt (i : Int) : Number := ⟨i < 0, i.natAbs, 0, true⟩

/-- Whether a number is a zero with a minus sign, which is no whole number but a double. -/
def Number.isMinusZero (n : Number) : Bool := n.negative && n.digits == 0

/-- The whole number that is written without point and exponent. -/
def Number.toInt? (n : Number) : Option Int :=
  if n.integral && !n.isMinusZero then
    some (if n.negative then -(n.digits : Int) else n.digits)
  else none

/-- A text. -/
def text (s : String) : Json := .str (some s)

/-- A whole number. -/
def int (i : Int) : Json := .num (.ofInt i)

/-- A natural number. -/
def nat (n : Nat) : Json := .int n

/-- A list of texts. -/
def texts (xs : List String) : Json := .arr (xs.map text)

/-- An object with the given members. -/
def object (members : List (String × Json)) : Json :=
  .obj (members.map fun (k, v) => (some k, v))

/-- A member that is left out when there is no value. -/
def optional (name : String) (value : Option Json) : List (String × Json) :=
  match value with
  | none => []
  | some v => [(name, v)]

/-- A text or null. -/
def textOrNull : Option String → Json
  | none => .null
  | some s => .text s

/-- The text of a string value. -/
def asText? : Json → Option String
  | .str s => s
  | _ => none

/-- The first member of that name. -/
def member? (name : String) : Json → Option Json
  | .obj members => (members.find? fun (k, _) => k == some name).map (·.2)
  | _ => none

end Json

end Depot
