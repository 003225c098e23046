set_option autoImplicit false

/-!
# Base64

Bytes written with 64 letters, four for each group of three bytes; a group that is not full is
filled up with equals signs. Each list of bytes has exactly one written form.

## Main definitions

* `encode` — the written form of bytes.
* `decode?` — the bytes that a text writes.
-/

namespace Depot.Text.Base64

/-- The letters. -/
def letters : List Char :=
  "ABCDEFGHIJKLMNOPQRSTUVWXYZabcdefghijklmnopqrstuvwxyz0123456789+/".toList

/-- The letter of a number below 64. -/
def letter (n : Nat) : Char := letters.getD n 'A'

/-- The number of a letter. -/
def value? (c : Char) : Option Nat := letters.findIdx? (· == c)

/-- The letters for bytes. -/
def encodeChars : List UInt8 → List Char
  | a :: b :: c :: rest =>
    let n := a.toNat * 65536 + b.toNat * 256 + c.toNat
    letter (n / 262144) :: letter (n / 4096 % 64) :: letter (n / 64 % 64) :: letter (n % 64)
      :: encodeChars rest
  | [a, b] =>
    let n := a.toNat * 1024 + b.toNat * 4
    [letter (n / 4096), letter (n / 64 % 64), letter (n % 64), '=']
  | [a] =>
    let n := a.toNat * 16
    [letter (n / 64), letter (n % 64), '=', '=']
  | [] => []

/-- The written form of bytes. -/
def encode (bytes : List UInt8) : String := String.ofList (encodeChars bytes)

/-- The bytes that letters write; the bits that fill up the last byte are zero. -/
def decodeChars? : List Char → Option (List UInt8)
  | [] => some []
  | [a, b, '=', '='] => do
    let n := (← value? a) * 64 + (← value? b)
    if n % 16 = 0 then some [UInt8.ofNat (n / 16)] else none
  | [a, b, c, '='] => do
    let n := ((← value? a) * 64 + (← value? b)) * 64 + (← value? c)
    if n % 4 = 0 then some [UInt8.ofNat (n / 1024), UInt8.ofNat (n / 4)] else none
  | a :: b :: c :: d :: rest => do
    let n := (((← value? a) * 64 + (← value? b)) * 64 + (← value? c)) * 64 + (← value? d)
    return UInt8.ofNat (n / 65536) :: UInt8.ofNat (n / 256) :: UInt8.ofNat n
      :: (← decodeChars? rest)
  | _ => none

/-- The bytes that a text writes. -/
def decode? (s : String) : Option (List UInt8) := decodeChars? s.toList

end Depot.Text.Base64
