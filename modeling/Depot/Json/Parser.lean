import Depot.Json.Token

set_option autoImplicit false

/-!
# Reading JSON

A value is read from the tokens of a text by a machine with a stack of open arrays and objects, so
that the depth of nesting is bounded by memory alone. White space may surround the value, and
nothing may follow it.

## Main definitions

* `Json.Reader.step` — what one token does to the machine.
* `Json.ofTokens?` — the value that a list of tokens writes.
* `Json.parse?` — the value that a text writes.
-/

namespace Depot.Json

namespace Reader

/-- An open array or object with the parts read so far, the last one first. -/
inductive Frame where
  | arr (done : List Json)
  | obj (done : List (Literal × Json)) (key : Literal)

/-- What the machine has read and waits for. -/
inductive State where
  /-- A value must follow. -/
  | value (stack : List Frame)
  /-- An array was opened: a value or its end must follow. -/
  | firstItem (stack : List Frame)
  /-- An object was opened: a name or its end must follow. -/
  | firstKey (stack : List Frame)
  /-- A name must follow. -/
  | key (done : List (Literal × Json)) (stack : List Frame)
  /-- A colon must follow. -/
  | colon (done : List (Literal × Json)) (key : Literal) (stack : List Frame)
  /-- A value is complete. -/
  | complete (value : Json) (stack : List Frame)

/-- The first token of a value. -/
def begin? (stack : List Frame) : Token → Option State
  | .null => some (.complete .null stack)
  | .bool b => some (.complete (.bool b) stack)
  | .num n => some (.complete (.num n) stack)
  | .str s => some (.complete (.str s) stack)
  | .openBracket => some (.firstItem stack)
  | .openBrace => some (.firstKey stack)
  | _ => none

/-- What one token does to the machine; none if it may not come here. -/
def step : State → Token → Option State
  | .value stack, t => begin? stack t
  | .firstItem stack, .closeBracket => some (.complete (.arr []) stack)
  | .firstItem stack, t => begin? (.arr [] :: stack) t
  | .firstKey stack, .closeBrace => some (.complete (.obj []) stack)
  | .firstKey stack, .str k => some (.colon [] k stack)
  | .key done stack, .str k => some (.colon done k stack)
  | .colon done k stack, .colon => some (.value (.obj done k :: stack))
  | .complete v (.arr done :: stack), .comma => some (.value (.arr (v :: done) :: stack))
  | .complete v (.arr done :: stack), .closeBracket =>
    some (.complete (.arr (v :: done).reverse) stack)
  | .complete v (.obj done k :: stack), .comma => some (.key ((k, v) :: done) stack)
  | .complete v (.obj done k :: stack), .closeBrace =>
    some (.complete (.obj ((k, v) :: done).reverse) stack)
  | _, _ => none

/-- The machine after a list of tokens. -/
def run : State → List Token → Option State
  | s, [] => some s
  | s, t :: ts =>
    match step s t with
    | none => none
    | some s => run s ts

end Reader

/-- The value that a list of tokens writes, all of them. -/
def ofTokens? (ts : List Token) : Option Json :=
  match Reader.run (.value []) ts with
  | some (.complete v []) => some v
  | _ => none

/-- The value that a text writes. -/
def parse? (s : String) : Option Json :=
  match Token.scan s with
  | none => none
  | some ts => ofTokens? ts

end Depot.Json
