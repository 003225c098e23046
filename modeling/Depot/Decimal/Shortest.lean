set_option autoImplicit false

/-!
# Shortest decimals

A finite double stands for an interval of reals, those that round to it. Its shortest decimal has
the fewest digits of all decimals in that interval, and among those it is the nearest to the
double.

## Main definitions

* `Decimal` — a decimal without a sign.
* `Decimal.shortest` — the shortest decimal of a double, from its significand and exponent.
* `Decimal.ofFloat?` — sign and shortest decimal of a finite double.
* `Decimal.positional` — the text of a decimal: positional for moderate sizes, otherwise with an
  exponent.
-/

namespace Depot

/-- The number `digits · 10 ^ exponent`. -/
structure Decimal where
  /-- The digits as one number. -/
  digits : Nat
  /-- The power of ten of the last digit. -/
  exponent : Int
  deriving Repr, DecidableEq, Inhabited

namespace Decimal

/-- A non-negative fraction. -/
structure Fraction where
  /-- Numerator. -/
  num : Nat
  /-- Denominator, positive. -/
  den : Nat

/-- A power of two. -/
def twoTo (n : Nat) : Nat := Nat.pow 2 n

/-- A power of ten. -/
def tenTo (n : Nat) : Nat := Nat.pow 10 n

/-- The fraction `m · 2 ^ q`. -/
def Fraction.binary (m : Nat) (q : Int) : Fraction :=
  if 0 ≤ q then ⟨m * twoTo q.toNat, 1⟩ else ⟨m, twoTo (-q).toNat⟩

/-- Whether a decimal grid point `n · 10 ^ e` lies below a fraction, or on it if allowed. -/
def pointBelow (n : Nat) (e : Int) (f : Fraction) (allowEqual : Bool) : Bool :=
  let (l, r) := if 0 ≤ e then (n * tenTo e.toNat * f.den, f.num)
    else (n * f.den, f.num * tenTo (-e).toNat)
  if allowEqual then l ≤ r else l < r

/-- Whether a decimal grid point lies above a fraction, or on it if allowed. -/
def pointAbove (n : Nat) (e : Int) (f : Fraction) (allowEqual : Bool) : Bool :=
  !(pointBelow n e f (!allowEqual))

/-- The largest grid point of the power `e` that is not above a fraction. -/
def gridFloor (f : Fraction) (e : Int) : Nat :=
  if 0 ≤ e then f.num / (f.den * tenTo e.toNat) else f.num * tenTo (-e).toNat / f.den

/-- The distances of a fraction from its two neighbours on a grid, compared: whether the upper
neighbour is nearer, a tie going to the even one. -/
def upperIsNearer (n : Nat) (e : Int) (f : Fraction) : Bool :=
  let (twice, mid) := if 0 ≤ e then (2 * f.num, (2 * n + 1) * tenTo e.toNat * f.den)
    else (2 * f.num * tenTo (-e).toNat, (2 * n + 1) * f.den)
  mid < twice || (mid == twice && n % 2 == 1)

/-- The first grid, from coarse to fine, that has a point in the interval from `low` to `high`
(ends included if `closed`), and the nearest such point to `value`. -/
def search (low value high : Fraction) (closed : Bool) : Nat → Int → Decimal
  | 0, e => ⟨gridFloor value e, e⟩
  | fuel + 1, e =>
    let n := gridFloor value e
    let lower := 0 < n && pointAbove n e low closed
    let upper := pointBelow (n + 1) e high closed
    if lower && upper then ⟨if upperIsNearer n e value then n + 1 else n, e⟩
    else if lower then ⟨n, e⟩
    else if upper then ⟨n + 1, e⟩
    else search low value high closed fuel (e - 1)

/-- The digits without zeros at the end; `fuel` bounds their number. -/
def stripZeros : Nat → Decimal → Decimal
  | 0, d => d
  | fuel + 1, d =>
    if d.digits % 10 = 0 ∧ d.digits ≠ 0 then stripZeros fuel ⟨d.digits / 10, d.exponent + 1⟩ else d

/-- The shortest decimal of the positive double `m · 2 ^ q`; `narrow` says that the double below
is only half as far away as the one above. -/
def shortest (m : Nat) (q : Int) (narrow : Bool) : Decimal :=
  let value := Fraction.binary m q
  let high := Fraction.binary (2 * m + 1) (q - 1)
  let low :=
    if narrow then Fraction.binary (4 * m - 1) (q - 2) else Fraction.binary (2 * m - 1) (q - 1)
  stripZeros 400 (search low value high (m % 2 == 0) 700 310)

/-- Sign and shortest decimal of a finite double; none for the others. -/
def ofFloat? (x : Float) : Option (Bool × Decimal) :=
  let bits := x.toBits.toNat
  let negative := bits / twoTo 63 == 1
  let biased : Nat := bits / twoTo 52 % 2048
  let fraction : Nat := bits % twoTo 52
  if biased = 2047 then none
  else if biased = 0 then
    if fraction = 0 then some (negative, ⟨0, 0⟩)
    else some (negative, shortest fraction (-1074) false)
  else
    let narrow := fraction == 0 && 1 < biased
    some (negative, shortest (twoTo 52 + fraction) ((biased : Int) - 1075) narrow)

/-- Zeros. -/
def zeros (n : Int) : String := String.ofList (List.replicate n.toNat '0')

/-- The text of a decimal: with a point from a hundred-thousandth up to sixteen digits before the
point, and with an exponent outside of that range. -/
def positional (d : Decimal) : String :=
  let ds := (stripZeros (toString d.digits).length d).digits
  let k := (stripZeros (toString d.digits).length d).exponent
  let text := toString ds
  let n : Int := text.length
  let kk := n + k
  if ds = 0 then "0.0"
  else if 0 ≤ k ∧ kk ≤ 16 then text ++ zeros k ++ ".0"
  else if 0 < kk ∧ kk ≤ 16 then
    String.ofList (text.toList.take kk.toNat) ++ "." ++ String.ofList (text.toList.drop kk.toNat)
  else if -5 < kk ∧ kk ≤ 0 then "0." ++ zeros (-kk) ++ text
  else if n = 1 then text ++ "e" ++ toString (kk - 1)
  else
    String.ofList (text.toList.take 1) ++ "." ++ String.ofList (text.toList.drop 1) ++ "e"
      ++ toString (kk - 1)

end Decimal

end Depot
