set_option autoImplicit false

/-!
# Spans of time

A span of time is a whole number of nanoseconds. It is shown in the largest unit of which it has
at least one, with the fraction that is left and without zeros at its end.

## Main definitions

* `Span` — spans, with `Span.ofMillis` and `Span.ofSeconds`.
* `Span.text` — the text of a span.
-/

namespace Depot

/-- A span of time. -/
structure Span where
  /-- Length in nanoseconds. -/
  nanos : Nat
  deriving Repr, DecidableEq, Inhabited

namespace Span

/-- A span of whole milliseconds. -/
def ofMillis (n : Nat) : Span := ⟨n * 1000000⟩

/-- A span of whole seconds. -/
def ofSeconds (n : Nat) : Span := ⟨n * 1000000000⟩

/-- The whole milliseconds of a span. -/
def millis (s : Span) : Nat := s.nanos / 1000000

/-- The decimal digits of `n`, at least `width` of them, without zeros at the end. -/
def fractionDigits (width n : Nat) : List Char :=
  let ds := Nat.toDigits 10 n
  let padded := List.replicate (width - ds.length) '0' ++ ds
  (padded.reverse.dropWhile (· = '0')).reverse

/-- The text of `n / 10 ^ places` with a unit after it. -/
def inUnit (n places : Nat) (unit : String) : String :=
  let whole := toString (n / Nat.pow 10 places)
  let rest := n % Nat.pow 10 places
  let fraction := if rest = 0 then "" else "." ++ String.ofList (fractionDigits places rest)
  whole ++ fraction ++ unit

/-- The text of a span: seconds, milliseconds, microseconds or nanoseconds, whichever is the
largest unit it has one of. -/
def text (s : Span) : String :=
  if 1000000000 ≤ s.nanos then inUnit s.nanos 9 "s"
  else if 1000000 ≤ s.nanos then inUnit s.nanos 6 "ms"
  else if 1000 ≤ s.nanos then inUnit s.nanos 3 "µs"
  else inUnit s.nanos 0 "ns"

end Span

end Depot
