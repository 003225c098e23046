import Depot.Yaml.Scalar

set_option autoImplicit false

/-!
# YAML tags

A tag is a string of bytes. It is written in characters of ASCII, with a percent sign before the
number of any other byte; such bytes come in groups of the length that the first byte of a character
in UTF-8 gives, but need not be a character. A tag ends before its first zero byte.

## Main definitions

* `Yaml.Tag` — tags.
* `Yaml.Tag.bytes?` — the bytes that a part of a text writes.
* `Yaml.Tag.ownName?` — the name of a tag of one's own.
-/

namespace Depot.Yaml

/-- A tag. -/
structure Tag where
  /-- The bytes. -/
  bytes : List UInt8
  deriving Repr, DecidableEq, Inhabited

namespace Tag

/-- The tag of a text. -/
def ofString (s : String) : Tag := ⟨s.toUTF8.toList⟩

/-- A tag of the standard. -/
def standard (name : String) : Tag := ofString ("tag:yaml.org,2002:" ++ name)

/-- The byte of an exclamation mark. -/
def mark : UInt8 := 0x21

/-- The part of a tag before its first zero byte. -/
def cut (bytes : List UInt8) : List UInt8 := bytes.takeWhile (· ≠ 0)

/-! ## Reading -/

/-- The characters of tags. -/
def isChar (verbatim : Bool) (c : Char) : Bool :=
  isNameChar c || ";/?:@&=+$.!~*'()".toList.contains c || (verbatim && ",[]".toList.contains c)

/-- How many bytes follow the first byte of a character; none if no character starts with it. -/
def trailingCount? (first : Nat) : Option Nat :=
  if first < 0x80 then some 0
  else if first < 0xc0 then none
  else if first < 0xe0 then some 1
  else if first < 0xf0 then some 2
  else if first < 0xf8 then some 3
  else none

/-- How many bytes must follow a byte, if so many must follow the one before it; none if it may not
stand there. -/
def due? (due byte : Nat) : Option Nat :=
  if due = 0 then trailingCount? byte
  else if 0x80 ≤ byte ∧ byte < 0xc0 then some (due - 1)
  else none

/-- The bytes at the start of a text, of which the first `due` must be trailing bytes, and what
follows them. -/
def bytes? (verbatim : Bool) (due : Nat) : List Char → Option (List UInt8 × List Char)
  | '%' :: a :: b :: rest => do
    let byte := 16 * (← Text.Percent.hexValue? a) + (← Text.Percent.hexValue? b)
    let (bytes, rest) ← bytes? verbatim (← due? due byte) rest
    return (UInt8.ofNat byte :: bytes, rest)
  | c :: rest =>
    if 0 < due ∨ c = '%' then none
    else if isChar verbatim c then
      (bytes? verbatim 0 rest).map fun (bytes, rest) => (UInt8.ofNat c.toNat :: bytes, rest)
    else some ([], c :: rest)
  | [] => if due = 0 then some ([], []) else none

/-! ## Names -/

/-- The bytes without an exclamation mark before them; a mark that stands alone is kept. -/
def unmarked : List UInt8 → List UInt8
  | b :: c :: rest => if b = mark then c :: rest else b :: c :: rest
  | bytes => bytes

/-- The name of a tag of one's own, which starts with an exclamation mark and is a text. A second
mark does not make another name. -/
def ownName? (t : Tag) : Option String :=
  if t.bytes.head? = some mark then
    String.fromUTF8? ⟨(unmarked (unmarked t.bytes)).toArray⟩
  else none

end Tag

end Depot.Yaml
