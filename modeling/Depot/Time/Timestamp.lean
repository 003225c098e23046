import Depot.Text.Blank
import Depot.Time.Calendar

set_option autoImplicit false

/-!
# Timestamps

A moment in UTC as a calendar day and a time of day, to the nanosecond. The second 60 stands for a
leap second. The written form is that of RFC 3339 with `Z`; a reader also takes other offsets from
UTC, lowercase letters, a space in place of `T` and spaces around the parts.

## Main definitions

* `Timestamp` — moments.
* `Timestamp.text` — the written form, with as many groups of three fraction digits as needed.
* `Timestamp.parse?` — reads a written form and converts it to UTC.
* `Timestamp.epochSeconds` — seconds since 1970, for comparing moments.
-/

namespace Depot

/-- A moment in UTC. -/
structure Timestamp where
  /-- The day. -/
  date : Date
  /-- The hour, below 24. -/
  hour : Nat
  /-- The minute, below 60. -/
  minute : Nat
  /-- The second, at most 60. -/
  second : Nat
  /-- The nanosecond, below one milliard. -/
  nanos : Nat
  /-- The day is one of the calendar and the time of day exists. -/
  isValid : date.IsValid ∧ hour < 24 ∧ minute < 60 ∧ second ≤ 60 ∧ nanos < 1000000000
  deriving Repr, DecidableEq

instance : Inhabited Timestamp := ⟨⟨1970, 1, 1⟩, 0, 0, 0, 0, by decide⟩

namespace Timestamp

/-- The seconds from the beginning of 1970 to a moment; a leap second counts with the next. -/
def epochSeconds (t : Timestamp) : Int :=
  86400 * t.date.dayNumber + (3600 * t.hour + 60 * t.minute + t.second : Nat)

/-- The beginning of the second of a moment. -/
def floorSecond (t : Timestamp) : Timestamp :=
  { t with
    nanos := 0
    isValid := by
      obtain ⟨hd, hh, hm, hs, _⟩ := t.isValid
      exact ⟨hd, hh, hm, hs, by decide⟩ }

/-! ## Writing -/

/-- The decimal digits of a number, at least `width` of them. -/
def padded (width n : Nat) : List Char :=
  let ds := Nat.toDigits 10 n
  List.replicate (width - ds.length) '0' ++ ds

/-- A year: four digits, or a sign and at least four digits outside of the years 0 to 9999. -/
def yearChars (year : Int) : List Char :=
  if 0 ≤ year ∧ year ≤ 9999 then padded 4 year.toNat
  else (if year < 0 then '-' else '+') :: padded 4 year.natAbs

/-- The fraction of a second in milliseconds, microseconds or nanoseconds. -/
def fractionChars (nanos : Nat) : List Char :=
  if nanos = 0 then []
  else if nanos % 1000000 = 0 then '.' :: padded 3 (nanos / 1000000)
  else if nanos % 1000 = 0 then '.' :: padded 6 (nanos / 1000)
  else '.' :: padded 9 nanos

/-- The written form. -/
def chars (t : Timestamp) : List Char :=
  yearChars t.date.year ++ '-' :: padded 2 t.date.month ++ '-' :: padded 2 t.date.day
    ++ 'T' :: padded 2 t.hour ++ ':' :: padded 2 t.minute ++ ':' :: padded 2 t.second
    ++ fractionChars t.nanos ++ ['Z']

/-- The text of a timestamp. -/
def text (t : Timestamp) : String := String.ofList t.chars

/-! ## Reading -/

/-- The number that a list of decimal digits writes. -/
def digitsValue (cs : List Char) : Nat :=
  cs.foldl (fun n c => 10 * n + (c.toNat - '0'.toNat)) 0

/-- A number of one to `width` digits after blanks. -/
def number? (width : Nat) (cs : List Char) : Option (Nat × List Char) :=
  let cs := Text.trimBlanksLeft cs
  let ds := (cs.take width).takeWhile (·.isDigit)
  if ds.isEmpty then none else some (digitsValue ds, cs.drop ds.length)

/-- A year after blanks: up to four digits, or any number of them after a sign. -/
def year? (cs : List Char) : Option (Int × List Char) :=
  match Text.trimBlanksLeft cs with
  | '-' :: cs => if cs.head?.any (·.isDigit) then
      (number? cs.length cs).map fun (n, rest) => (-(n : Int), rest) else none
  | '+' :: cs => if cs.head?.any (·.isDigit) then
      (number? cs.length cs).map fun (n, rest) => ((n : Int), rest) else none
  | cs => (number? 4 cs).map fun (n, rest) => ((n : Int), rest)

/-- A separator after blanks. -/
def separator? (c : Char) (cs : List Char) : Option (List Char) :=
  match Text.trimBlanksLeft cs with
  | d :: cs => if d = c then some cs else none
  | [] => none

/-- The letter or blank between day and time. -/
def afterDate? : List Char → Option (List Char)
  | c :: cs => if c = 'T' ∨ c = 't' ∨ c = ' ' then some cs else none
  | [] => none

/-- The fraction of a second in nanoseconds; digits after the ninth are dropped. -/
def fraction? : List Char → Option (Nat × List Char)
  | '.' :: cs =>
    let ds := cs.takeWhile (·.isDigit)
    if ds.isEmpty then none
    else some (digitsValue (ds.take 9 ++ List.replicate (9 - ds.length) '0'), cs.drop ds.length)
  | cs => some (0, cs)

/-- Two decimal digits. -/
def twoDigits? : List Char → Option (Nat × List Char)
  | a :: b :: cs => if a.isDigit ∧ b.isDigit then some (digitsValue [a, b], cs) else none
  | _ => none

/-- Hours and minutes of an offset; colons and blanks may stand between them. -/
def offsetMinutes? (cs : List Char) : Option (Nat × List Char) := do
  let (hours, cs) ← twoDigits? cs
  let (minutes, cs) ← twoDigits? (cs.dropWhile fun c => c = ':' || Text.isBlank c)
  if minutes < 60 ∧ hours < 24 then return (60 * hours + minutes, cs) else none

/-- The offset from UTC in minutes, positive to the east. -/
def offset? (cs : List Char) : Option (Int × List Char) :=
  match Text.trimBlanksLeft cs with
  | 'Z' :: cs | 'z' :: cs => some (0, cs)
  | '+' :: cs => (offsetMinutes? cs).map fun (m, rest) => ((m : Int), rest)
  | '-' :: cs | '\u2212' :: cs => (offsetMinutes? cs).map fun (m, rest) => (-(m : Int), rest)
  | a :: b :: c :: cs =>
    if [a, b, c].map Char.toUpper = ['U', 'T', 'C'] then some (0, cs) else none
  | _ => none

/-- The moment in UTC of a local time that is `minutes` ahead of UTC, less than a day. -/
def shift (t : Timestamp) (minutes : Int) : Timestamp :=
  let m : Int := 60 * t.hour + t.minute - minutes
  { t with
    date := if m < 0 then t.date.previous else if 1440 ≤ m then t.date.next else t.date
    hour := (m % 1440 / 60).toNat
    minute := (m % 60).toNat
    isValid := by
      obtain ⟨hd, _, _, hs, hn⟩ := t.isValid
      refine ⟨?_, by omega, by omega, hs, hn⟩
      split
      · exact hd.previous
      · split
        · exact hd.next
        · exact hd }

/-- The years a timestamp may have. -/
def inRange (year : Int) : Bool := -262143 ≤ year && year ≤ 262142

/-- Reads a written form and converts it to UTC. -/
def parseChars? (cs : List Char) : Option Timestamp := do
  let (year, cs) ← year? cs
  let cs ← separator? '-' cs
  let (month, cs) ← number? 2 cs
  let cs ← separator? '-' cs
  let (day, cs) ← number? 2 cs
  let cs ← afterDate? cs
  let (hour, cs) ← number? 2 cs
  let cs ← separator? ':' cs
  let (minute, cs) ← number? 2 cs
  let cs ← separator? ':' cs
  let (second, cs) ← number? 2 cs
  let (nanos, cs) ← fraction? cs
  let (offset, cs) ← offset? cs
  let date : Date := ⟨year, month, day⟩
  if (Text.trimBlanksLeft cs).isEmpty ∧ inRange year then
    if h : date.IsValid ∧ hour < 24 ∧ minute < 60 ∧ second ≤ 60 ∧ nanos < 1000000000 then
      let t := shift ⟨date, hour, minute, second, nanos, h⟩ offset
      if inRange t.date.year then return t else none
    else none
  else none

/-- Reads the text of a timestamp. -/
def parse? (s : String) : Option Timestamp := parseChars? s.toList

end Timestamp

end Depot
