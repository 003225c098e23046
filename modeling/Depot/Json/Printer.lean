import Depot.Decimal.Shortest
import Depot.Json.Basic

set_option autoImplicit false

/-!
# Writing JSON

The compact form of a value: no white space, members in their order, and in strings an escape for
the quote, the backslash and the control characters only.

## Main definitions

* `Json.Printer.stringChars` — a string literal.
* `Json.Printer.chars` — the characters of a value.
* `Json.print` — the text of a value.
-/

namespace Depot.Json

namespace Printer

/-- The lowercase hexadecimal digit of a number below sixteen. -/
def hexDigit (n : Nat) : Char :=
  if n < 10 then Char.ofNat ('0'.toNat + n) else Char.ofNat ('a'.toNat + (n - 10))

/-- The characters that stand for `c` in a string literal. -/
def charEscape (c : Char) : List Char :=
  if c = '"' then ['\\', '"']
  else if c = '\\' then ['\\', '\\']
  else if c = '\x08' then ['\\', 'b']
  else if c = '\t' then ['\\', 't']
  else if c = '\n' then ['\\', 'n']
  else if c = '\x0c' then ['\\', 'f']
  else if c = '\r' then ['\\', 'r']
  else if c.toNat < 0x20 then
    ['\\', 'u', '0', '0', hexDigit (c.toNat / 16), hexDigit (c.toNat % 16)]
  else [c]

/-- A string literal. One that denotes no text is written with a lone half of a pair. -/
def stringChars : Literal → List Char
  | some s => '"' :: s.toList.flatMap charEscape ++ ['"']
  | none => ['"', '\\', 'u', 'd', '8', '0', '0', '"']

/-- A number: plain digits if it is whole, otherwise with a point or an exponent. -/
def numberChars (n : Number) : List Char :=
  let unsigned := if n.integral then (Nat.toDigits 10 n.digits)
    else (Decimal.positional ⟨n.digits, n.exponent⟩).toList
  if n.negative then '-' :: unsigned else unsigned

mutual

/-- The characters of a value. -/
def chars : Json → List Char
  | .null => ['n', 'u', 'l', 'l']
  | .bool true => ['t', 'r', 'u', 'e']
  | .bool false => ['f', 'a', 'l', 's', 'e']
  | .num n => numberChars n
  | .str s => stringChars s
  | .arr [] => ['[', ']']
  | .arr (v :: vs) => '[' :: chars v ++ itemChars vs
  | .obj [] => ['\x7b', '\x7d']
  | .obj ((k, v) :: ms) => '\x7b' :: stringChars k ++ ':' :: chars v ++ memberChars ms

/-- The rest of an array. -/
def itemChars : List Json → List Char
  | [] => [']']
  | v :: vs => ',' :: chars v ++ itemChars vs

/-- The rest of an object. -/
def memberChars : List (Literal × Json) → List Char
  | [] => ['\x7d']
  | (k, v) :: ms => ',' :: stringChars k ++ ':' :: chars v ++ memberChars ms

end

end Printer

/-- The text of a value in compact form. -/
def print (v : Json) : String := String.ofList (Printer.chars v)

end Depot.Json
