set_option autoImplicit false

/-!
# Request targets

What a request names on its server: a path and a query. The part of an address after a number sign
is not sent, and some characters may not stand in a target as they are.

## Main definitions

* `Http.isPathChar`, `Http.isQueryChar` — the characters of targets.
* `Http.target?` — the target of an address on a server.
-/

namespace Depot.Http

/-- The characters of paths: those of ASCII with a shape, without the marks of queries and
fragments, angle brackets and the backtick. -/
def isPathChar (c : Char) : Bool :=
  '!' ≤ c && c ≤ '~' && !"#<>?`".toList.contains c

/-- The characters of queries: those of ASCII with a shape, without the mark of fragments, angle
brackets and the double quote. -/
def isQueryChar (c : Char) : Bool := '!' ≤ c && c ≤ '~' && !"\"#<>".toList.contains c

/-- The greatest number of bytes of an address. -/
def maxTargetLength : Nat := 65534

/-- The path and the query of an address on a server; none if a character may not stand there or
the address is too long. -/
def target? (address : String) : Option String :=
  let sent := address.toList.takeWhile (· ≠ '#')
  let path := sent.takeWhile (· ≠ '?')
  let query := (sent.dropWhile (· ≠ '?')).drop 1
  if path.all isPathChar && query.all isQueryChar && address.utf8ByteSize ≤ maxTargetLength then
    some (String.ofList sent)
  else none

end Depot.Http
