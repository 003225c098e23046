import Depot.Decimal.Shortest
import Depot.Yaml.Node

set_option autoImplicit false

/-!
# YAML values

What the nodes of a document mean. A plain scalar is null, a truth value or a number if it is
written like one, and a text otherwise; a tag may ask for one of these.

## Main definitions

* `Yaml.Value` — the values, with `Yaml.Value.same`.
* `Yaml.Value.ofPlain?`, `Yaml.Value.ofScalar?` — the value of a scalar.
* `Yaml.Document.value` — the value of a node.
-/

namespace Depot.Yaml

/-- The values. -/
inductive Value where
  | null
  | bool (b : Bool)
  | int (i : Int)
  | float (f : Float)
  | string (s : String)
  | seq (items : List Value)
  | map (entries : List (Value × Value))
  | tagged (tag : String) (content : Value)
  deriving Repr, Inhabited

namespace Value

/-! ## Equality -/

mutual

/-- Whether two values are the same. All that is no number is one value, the two zeros are one, and
the order of the entries of a mapping does not matter. -/
def same : Value → Value → Bool
  | .null, .null => true
  | .bool a, .bool b => a == b
  | .int a, .int b => a == b
  | .float a, .float b => a == b || (a.isNaN && b.isNaN)
  | .string a, .string b => a == b
  | .seq as, .seq bs => sameItems as bs
  | .map as, .map bs => as.length == bs.length && hasEntries bs as
  | .tagged t a, .tagged u b => t == u && same a b
  | _, _ => false

/-- Whether two lists hold the same values. -/
def sameItems : List Value → List Value → Bool
  | [], [] => true
  | a :: as, b :: bs => same a b && sameItems as bs
  | _, _ => false

/-- Whether a mapping has all of some entries. -/
def hasEntries (bs : List (Value × Value)) : List (Value × Value) → Bool
  | [] => true
  | (k, v) :: rest => (bs.any fun b => same k b.1 && same v b.2) && hasEntries bs rest

end

/-- Whether two entries have one key. -/
def hasRepeatedKey : List (Value × Value) → Bool
  | [] => false
  | (k, _) :: rest => (rest.any fun e => same k e.1) || hasRepeatedKey rest

/-! ## Numbers -/

/-- A text without a sign before it, and whether the sign is a minus. -/
def unsigned : List Char → Bool × List Char
  | '-' :: rest => (true, rest)
  | '+' :: rest => (false, rest)
  | cs => (false, cs)

/-- Whether a text is a zero and more digits after it: such a text is no number. -/
def hasLeadingZero (cs : List Char) : Bool :=
  match (unsigned cs).2 with
  | '0' :: d :: rest => (d :: rest).all Char.isDigit
  | _ => false

/-- The number that digits of a base write. -/
def digits? (base : Nat) (cs : List Char) : Option Nat :=
  if cs.isEmpty then none
  else
    cs.foldlM (fun n c => do
      let d ← Text.Percent.hexValue? c
      if d < base then some (base * n + d) else none) 0

/-- The whole number that a text writes: in decimal digits, or after a mark in those of another
base. -/
def int? (cs : List Char) : Option Int :=
  let (negative, rest) := unsigned cs
  let magnitude :=
    match rest with
    | '0' :: 'x' :: ds => digits? 16 ds
    | '0' :: 'o' :: ds => digits? 8 ds
    | '0' :: 'b' :: ds => digits? 2 ds
    | ds => if hasLeadingZero cs then none else digits? 10 ds
  magnitude.map fun n => if negative then -(n : Int) else n

/-- The digits at the start of a text, and what follows them. -/
def leadingDigits (cs : List Char) : List Char × List Char :=
  (cs.takeWhile Char.isDigit, cs.dropWhile Char.isDigit)

/-- The exponent at the end of a number. -/
def exponent? : List Char → Option Int
  | [] => some 0
  | c :: rest =>
    if c = 'e' ∨ c = 'E' then
      let (negative, ds) := unsigned rest
      (digits? 10 ds).map fun n => if negative then -(n : Int) else n
    else none

/-- The double nearest to `n · 10 ^ e`, if it is finite. -/
def nearest? (n : Nat) (e : Int) : Option Float :=
  let size := (Nat.toDigits 10 n).length + e
  if n = 0 ∨ size < -400 then some 0
  else if 400 < size then none
  else
    let f := Float.ofScientific n (e < 0) e.natAbs
    if f.isFinite then some f else none

/-- The finite double that a text writes. -/
def finite? (cs : List Char) : Option Float := do
  let (negative, rest) := unsigned cs
  let (whole, rest) := leadingDigits rest
  let (fraction, rest) :=
    match rest with
    | '.' :: rest => leadingDigits rest
    | _ => ([], rest)
  if whole.isEmpty && fraction.isEmpty then none
  else
    let n ← digits? 10 (whole ++ fraction)
    let f ← nearest? n ((← exponent? rest) - fraction.length)
    return if negative then -f else f

/-- The text of a double. -/
def floatText (f : Float) : String :=
  match Decimal.ofFloat? f with
  | some (negative, d) => (if negative then "-" else "") ++ d.positional
  | none => if f.isNaN then ".nan" else if f < 0 then "-.inf" else ".inf"

/-- The numbers that have names: the infinities and what is no number. -/
def named : List (String × Float) :=
  let infinity := 1.0 / 0.0
  [(".inf", infinity), (".Inf", infinity), (".INF", infinity), ("+.inf", infinity),
    ("+.Inf", infinity), ("+.INF", infinity), ("-.inf", -infinity), ("-.Inf", -infinity),
    ("-.INF", -infinity), (".nan", 0.0 / 0.0), (".NaN", 0.0 / 0.0), (".NAN", 0.0 / 0.0)]

/-- The double that a text writes or names. -/
def float? (s : String) : Option Float := (named.lookup s).or (finite? s.toList)

/-! ## Scalars -/

/-- Whether a text is a name of null. -/
def isNull (s : String) : Bool := s = "null" || s = "Null" || s = "NULL" || s = "~"

/-- The truth values by their names. -/
def bool? (s : String) : Option Bool :=
  if s = "true" || s = "True" || s = "TRUE" then some true
  else if s = "false" || s = "False" || s = "FALSE" then some false
  else none

/-- A whole number as a value; none if it does not fit into 64 bits. -/
def ofInt? (i : Int) : Option Value :=
  if -(Nat.pow 2 63 : Nat) ≤ i ∧ i < (Nat.pow 2 64 : Nat) then some (.int i) else none

/-- Whether a whole number fits into 128 bits. Larger ones are read as doubles. -/
def isWide (i : Int) : Bool := -(Nat.pow 2 127 : Nat) ≤ i && i < (Nat.pow 2 128 : Nat)

/-- The whole number of at most 128 bits that a text writes. -/
def wideInt? (s : String) : Option Int := (int? s.toList).filter isWide

/-- The value of a plain scalar without a tag; none if it is a whole number of more than 64 bits. -/
def ofPlain? (s : String) : Option Value :=
  if s = "" || isNull s then some .null
  else
    match bool? s with
    | some b => some (.bool b)
    | none =>
      match wideInt? s with
      | some i => ofInt? i
      | none =>
        match if hasLeadingZero s.toList then none else float? s with
        | some f => some (.float f)
        | none => some (.string s)

/-- The value of a scalar whose tag is not the name of a value of one's own; none if the text does
not fit the tag. A tag that starts with an exclamation mark says nothing about plain scalars. -/
def ofScalar? (tag : Option Tag) (plain : Bool) (s : String) : Option Value :=
  match tag with
  | none => if plain then ofPlain? s else some (.string s)
  | some t =>
    if t = .standard "bool" then (bool? s).map .bool
    else if t = .standard "int" then (wideInt? s).bind ofInt?
    else if t = .standard "float" then (float? s).map .float
    else if t = .standard "null" then if isNull s then some .null else none
    else if plain && t.bytes.head? == some Tag.mark then ofPlain? s
    else some (.string s)

/-- The value of a scalar; none if the text does not fit the tag. -/
def ofTagged? (tag : Option Tag) (plain : Bool) (s : String) : Option Value :=
  match tag.bind Tag.ownName? with
  | some name => (ofScalar? none plain s).map (.tagged name)
  | none => ofScalar? tag plain s

/-- A collection with its tag. -/
def withTag (tag : Option Tag) (v : Value) : Value :=
  match tag.bind Tag.ownName? with
  | some name => .tagged name v
  | none => v

end Value

namespace Document

/-- The value of a node in at most `depth` open collections. No mapping may repeat a key. -/
def value (d : Document) (depth : Nat) (n : Node) : Visit Value := do
  match ← d.follow n with
  | .void | .alias _ => return .null
  | .scalar tag plain s =>
    match Value.ofTagged? tag plain s with
    | some v => return v
    | none => Visit.refuse
  | .seq tag items =>
    match depth with
    | 0 => Visit.refuse
    | depth + 1 => return .withTag tag (.seq (← items.mapM (value d depth)))
  | .map tag entries =>
    match depth with
    | 0 => Visit.refuse
    | depth + 1 =>
      let entries ← entries.mapM fun (k, v) => do
        let k ← value d depth k
        return (k, ← value d depth v)
      if Value.hasRepeatedKey entries then Visit.refuse
      else return .withTag tag (.map entries)

end Document

end Depot.Yaml
