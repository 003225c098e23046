set_option autoImplicit false

/-!
# Percent-encoding

A segment of a path keeps the unreserved characters and writes every other byte of its UTF-8 form
as a percent sign and two uppercase hexadecimal digits. Queries and forms differ in the bytes they
keep and in writing a space as a plus sign.

## Main definitions

* `encodeSegment` — one segment of a path.
* `encodeForm` — one name or value of a query or form.
* `decodeSegment?` — the bytes that an encoded segment stands for.
* `formPairs` — a whole query or form from its pairs.
-/

namespace Depot.Text.Percent

/-- The uppercase hexadecimal digit of a number below sixteen. -/
def hexDigit (n : Nat) : Char :=
  if n < 10 then Char.ofNat ('0'.toNat + n) else Char.ofNat ('A'.toNat + (n - 10))

/-- The value of a hexadecimal digit in either case. -/
def hexValue? (c : Char) : Option Nat :=
  if '0' ≤ c ∧ c ≤ '9' then some (c.toNat - '0'.toNat)
  else if 'A' ≤ c ∧ c ≤ 'F' then some (c.toNat - 'A'.toNat + 10)
  else if 'a' ≤ c ∧ c ≤ 'f' then some (c.toNat - 'a'.toNat + 10)
  else none

/-- A byte written by its number. -/
def escapedByte (b : UInt8) : List Char :=
  ['%', hexDigit (b.toNat / 16), hexDigit (b.toNat % 16)]

/-- Letters and digits. -/
def isAlphanumericByte (b : UInt8) : Bool :=
  (0x30 ≤ b && b ≤ 0x39) || (0x41 ≤ b && b ≤ 0x5a) || (0x61 ≤ b && b ≤ 0x7a)

/-- The bytes a path keeps: letters, digits and the four unreserved marks. -/
def isUnreserved (b : UInt8) : Bool :=
  isAlphanumericByte b || b == 0x2d || b == 0x5f || b == 0x2e || b == 0x7e

/-- The bytes a form keeps: letters, digits, asterisk, minus, period and underscore. -/
def isFormByte (b : UInt8) : Bool :=
  isAlphanumericByte b || b == 0x2a || b == 0x2d || b == 0x2e || b == 0x5f

/-- One byte of a path segment. -/
def segmentByte (b : UInt8) : List Char :=
  if isUnreserved b then [Char.ofNat b.toNat] else escapedByte b

/-- One byte of a form. -/
def formByte (b : UInt8) : List Char :=
  if b = 0x20 then ['+'] else if isFormByte b then [Char.ofNat b.toNat] else escapedByte b

/-- A segment of a path. -/
def encodeSegment (s : String) : String :=
  String.ofList (s.toUTF8.toList.flatMap segmentByte)

/-- A name or value of a query or form. -/
def encodeForm (s : String) : String :=
  String.ofList (s.toUTF8.toList.flatMap formByte)

/-- The pairs of a query or form, joined by ampersands. -/
def formPairs (pairs : List (String × String)) : String :=
  String.intercalate "&" (pairs.map fun (k, v) => encodeForm k ++ "=" ++ encodeForm v)

/-- The bytes that the characters of an encoded segment stand for; none if a percent sign is not
followed by two hexadecimal digits or a character is not ASCII. -/
def decodeSegment? : List Char → Option (List UInt8)
  | [] => some []
  | '%' :: a :: b :: rest => do
    let hi ← hexValue? a
    let lo ← hexValue? b
    return UInt8.ofNat (16 * hi + lo) :: (← decodeSegment? rest)
  | c :: rest =>
    if c = '%' ∨ 0x80 ≤ c.toNat then none
    else (decodeSegment? rest).map (UInt8.ofNat c.toNat :: ·)

end Depot.Text.Percent
