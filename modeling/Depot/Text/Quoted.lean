import Depot.Text.Unprintable

set_option autoImplicit false

/-!
# Quoted texts

A text in a message is shown between quotes so that its ends and its invisible characters can be
seen: quote, backslash and the common control characters by a two-character escape, characters
without a shape by their number in hexadecimal, all others as they are.

## Main definitions

* `escaped` — the characters that stand for one character of the text.
* `quoted` — the whole text between quotes.
-/

namespace Depot.Text

/-- The characters that stand for `c` inside quotes. -/
def escaped (c : Char) : List Char :=
  if c = '"' then ['\\', '"']
  else if c = '\\' then ['\\', '\\']
  else if c = '\n' then ['\\', 'n']
  else if c = '\r' then ['\\', 'r']
  else if c = '\t' then ['\\', 't']
  else if c = '\x00' then ['\\', '0']
  else if isUnprintable c then
    ['\\', 'u', '\x7b'] ++ Nat.toDigits 16 c.toNat ++ ['\x7d']
  else [c]

/-- The text between quotes, with its escapes. -/
def quoted (s : String) : String :=
  String.ofList ('"' :: s.toList.flatMap escaped ++ ['"'])

end Depot.Text
