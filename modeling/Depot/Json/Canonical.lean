import Depot.Decimal.Shortest
import Depot.Dict

set_option autoImplicit false

/-!
# Canonical JSON values

Readers that keep a value of any kind keep it in canonical form: members sorted by name, of which
the last one of a name counts; whole numbers as they are if they fit into 64 bits, and all other
numbers as doubles. Nesting is limited, and numbers beyond the largest double are refused.

## Main definitions

* `Json.Number.toDouble?` — the double that a number is read as.
* `Json.canonical?` — the canonical form of a value.
-/

namespace Depot.Json

/-- The greatest depth of nesting. -/
def maxDepth : Nat := 127

/-- The largest whole number of 64 bits. -/
def maxWord : Nat := Nat.pow 2 64 - 1

/-- The leading digits of a number that fit into 64 bits, and how many digits are left out. -/
def leadingDigits (n : Nat) : Nat × Nat :=
  let digits := (Nat.toDigits 10 n).map fun c => c.toNat - '0'.toNat
  let rec go (value : Nat) : List Nat → Nat × Nat
    | [] => (value, 0)
    | d :: ds => if 10 * value + d ≤ maxWord then go (10 * value + d) ds else (value, ds.length + 1)
  go 0 digits

/-- Ten to a power, as a double. -/
def tenTo (n : Nat) : Float := Float.ofScientific 1 false n

/-- A double scaled by a power of ten, in steps of at most 308; none beyond the largest double. -/
def scale (f : Float) (exponent : Int) : Option Float :=
  if 0 ≤ exponent then
    if f == 0.0 then some f
    else if 308 < exponent then none
    else
      let r := f * tenTo exponent.toNat
      if r.isInf then none else some r
  else
    let n := (-exponent).toNat
    -- beyond four steps nothing is left of any double
    if 4 * 308 < n then some 0.0
    else
      let steps := (n - 1) / 308
      some ((List.range steps).foldl (fun f _ => f / tenTo 308) f / tenTo (n - 308 * steps))

/-- The double that a number is read as. -/
def Number.toDouble? (n : Number) : Option Float :=
  let (leading, dropped) := leadingDigits n.digits
  (scale leading.toFloat (n.exponent + dropped)).map fun f => if n.negative then -f else f

/-- The number that a double is written as. -/
def Number.ofDouble? (f : Float) : Option Number :=
  (Decimal.ofFloat? f).map fun (negative, d) => ⟨negative, d.digits, d.exponent, false⟩

/-- The canonical form of a number. -/
def Number.canonical? (n : Number) : Option Number :=
  if n.toInt?.any fun i : Int => (-(Nat.pow 2 63 : Nat) : Int) ≤ i && i ≤ maxWord then some n
  else n.toDouble?.bind Number.ofDouble?

/-- The canonical form of a value with at most the given depth. -/
def canonicalWithin : Nat → Json → Option Json
  | _, .null => some .null
  | _, .bool b => some (.bool b)
  | _, .num n => n.canonical?.map .num
  | _, .str none => none
  | _, .str (some s) => some (.text s)
  | 0, .arr _ => none
  | depth + 1, .arr items => (items.mapM (canonicalWithin depth)).map .arr
  | 0, .obj _ => none
  | depth + 1, .obj members => do
    let entries ← members.mapM fun (k, v) => do return (← k, ← canonicalWithin depth v)
    return .object (Dict.ofList entries).entries

/-- The canonical form of a value. -/
def canonical? (v : Json) : Option Json := canonicalWithin maxDepth v

end Depot.Json
