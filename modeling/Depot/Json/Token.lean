import Depot.Json.Basic

set_option autoImplicit false

/-!
# JSON tokens

The lexical level of JSON: punctuation, the three names, numbers and string literals, separated by
spaces, tabs and line ends. A number has no leading zero and no plus sign before its digits, and a
string literal holds no raw control character.

## Main definitions

* `Json.Token` — the tokens.
* `Json.Token.scan` — the tokens of a text, or none if it has a part that is no token.
-/

namespace Depot.Json

/-- The tokens of JSON. -/
inductive Token where
  | openBracket
  | closeBracket
  | openBrace
  | closeBrace
  | comma
  | colon
  | null
  | bool (b : Bool)
  | num (n : Number)
  | str (s : Literal)
  deriving Repr, DecidableEq, Inhabited

namespace Token

/-- Whether a character may stand between tokens. -/
def isSpace (c : Char) : Bool := c = ' ' || c = '\n' || c = '\t' || c = '\r'

/-- The value of a hexadecimal digit. -/
def hexValue? (c : Char) : Option Nat :=
  if '0' ≤ c ∧ c ≤ '9' then some (c.toNat - '0'.toNat)
  else if 'a' ≤ c ∧ c ≤ 'f' then some (c.toNat - 'a'.toNat + 10)
  else if 'A' ≤ c ∧ c ≤ 'F' then some (c.toNat - 'A'.toNat + 10)
  else none

/-- The value of four hexadecimal digits. -/
def hexUnit? (a b c d : Char) : Option Nat := do
  let a ← hexValue? a
  let b ← hexValue? b
  let c ← hexValue? c
  let d ← hexValue? d
  return ((a * 16 + b) * 16 + c) * 16 + d

/-- The character of a one-letter escape. -/
def simpleEscape? (c : Char) : Option Char :=
  if c = '"' then some '"'
  else if c = '\\' then some '\\'
  else if c = '/' then some '/'
  else if c = 'b' then some '\x08'
  else if c = 'f' then some '\x0c'
  else if c = 'n' then some '\n'
  else if c = 'r' then some '\r'
  else if c = 't' then some '\t'
  else none

/-- A unit of a string literal: a character, or the number of a `\u` escape, which may be half of
a surrogate pair. -/
abbrev Unit := Char ⊕ Nat

/-- Reads a string literal after its opening quote; `done` holds the units read so far, the last
one first. The rest starts after the closing quote. -/
def scanUnits (done : List Token.Unit) : List Char → Option (List Token.Unit × List Char)
  | [] => none
  | '"' :: rest => some (done.reverse, rest)
  | '\\' :: 'u' :: a :: b :: c :: d :: rest =>
    match hexUnit? a b c d with
    | none => none
    | some unit => scanUnits (.inr unit :: done) rest
  | '\\' :: e :: rest =>
    match simpleEscape? e with
    | none => none
    | some c => scanUnits (.inl c :: done) rest
  | c :: rest =>
    if c.toNat < 0x20 || c = '\\' then none else scanUnits (.inl c :: done) rest

/-- Whether a unit is the first half of a surrogate pair. -/
def isHighHalf (unit : Nat) : Bool := 0xd800 ≤ unit && unit < 0xdc00

/-- Whether a unit is the second half of a surrogate pair. -/
def isLowHalf (unit : Nat) : Bool := 0xdc00 ≤ unit && unit < 0xe000

/-- The text of a string literal: two escapes that are the halves of a surrogate pair stand for
one character, and a half alone for none. `done` holds the characters so far, the last one
first. -/
def joinUnits (done : List Char) : List Token.Unit → Literal
  | [] => some (String.ofList done.reverse)
  | .inl c :: rest => joinUnits (c :: done) rest
  | .inr high :: .inr low :: rest =>
    if isHighHalf high then
      if isLowHalf low then
        joinUnits (Char.ofNat (0x10000 + (high - 0xd800) * 0x400 + (low - 0xdc00)) :: done) rest
      else none
    else if isLowHalf high then none
    else joinUnits (Char.ofNat high :: done) (.inr low :: rest)
  | .inr unit :: rest =>
    if isHighHalf unit || isLowHalf unit then none
    else joinUnits (Char.ofNat unit :: done) rest

/-- The value of a list of decimal digits. -/
def digitsValue (cs : List Char) : Nat :=
  cs.foldl (fun n c => 10 * n + (c.toNat - '0'.toNat)) 0

/-- The longest run of decimal digits and what follows it. -/
def spanDigits (cs : List Char) : List Char × List Char :=
  (cs.takeWhile (·.isDigit), cs.dropWhile (·.isDigit))

/-- The digits of the whole part of a number: a single zero, or digits that do not start with
one. -/
def scanWhole? (cs : List Char) : Option (List Char × List Char) :=
  match spanDigits cs with
  | ([], _) => none
  | ('0' :: _ :: _, _) => none
  | split => some split

/-- The fraction of a number; empty if there is no point. -/
def scanFraction? : List Char → Option (List Char × List Char)
  | '.' :: cs =>
    match spanDigits cs with
    | ([], _) => none
    | split => some split
  | cs => some ([], cs)

/-- The digits of an exponent after its letter and sign. -/
def scanExponentDigits? (negative : Bool) (cs : List Char) : Option (Option Int × List Char) :=
  match spanDigits cs with
  | ([], _) => none
  | (ds, rest) =>
    let n : Int := digitsValue ds
    some (some (if negative then -n else n), rest)

/-- The exponent of a number, if it has one. -/
def scanExponent? : List Char → Option (Option Int × List Char)
  | c :: cs =>
    if c = 'e' ∨ c = 'E' then
      match cs with
      | '+' :: cs => scanExponentDigits? false cs
      | '-' :: cs => scanExponentDigits? true cs
      | cs => scanExponentDigits? false cs
    else some (none, c :: cs)
  | [] => some (none, [])

/-- A number without its sign. -/
def scanUnsigned? (negative : Bool) (cs : List Char) : Option (Number × List Char) := do
  let (whole, cs) ← scanWhole? cs
  let (fraction, rest) ← scanFraction? cs
  let (exponent, rest) ← scanExponent? rest
  let integral := fraction.isEmpty && exponent.isNone
  return (⟨negative, digitsValue (whole ++ fraction),
    exponent.getD 0 - fraction.length, integral⟩, rest)

/-- A number. -/
def scanNumber? : List Char → Option (Number × List Char)
  | '-' :: cs => scanUnsigned? true cs
  | cs => scanUnsigned? false cs

/-- The text after a given beginning. -/
def afterName? (name : List Char) (cs : List Char) : Option (List Char) :=
  if name.isPrefixOf cs then some (cs.drop name.length) else none

/-- The token that a character is on its own. -/
def punctuation? (c : Char) : Option Token :=
  if c = '[' then some .openBracket
  else if c = ']' then some .closeBracket
  else if c = '\x7b' then some .openBrace
  else if c = '\x7d' then some .closeBrace
  else if c = ',' then some .comma
  else if c = ':' then some .colon
  else none

/-- The token after the first character of a name, given the rest of the name. -/
def scanName? (name : List Char) (t : Token) (cs : List Char) : Option (Token × List Char) :=
  (afterName? name cs).map fun rest => (t, rest)

/-- The token at the start of a text that does not start with a space. -/
def next? : List Char → Option (Token × List Char)
  | [] => none
  | c :: cs =>
    match punctuation? c with
    | some t => some (t, cs)
    | none =>
      if c = '"' then (scanUnits [] cs).map fun r => (.str (joinUnits [] r.1), r.2)
      else if c = 'n' then scanName? ['u', 'l', 'l'] .null cs
      else if c = 't' then scanName? ['r', 'u', 'e'] (.bool true) cs
      else if c = 'f' then scanName? ['a', 'l', 's', 'e'] (.bool false) cs
      else (scanNumber? (c :: cs)).map fun r => (.num r.1, r.2)

/-! ## Each step shortens the text -/

/-- What follows the contents of a string is shorter: the closing quote was read. -/
theorem length_of_scanUnits {done : List Token.Unit} {cs : List Char} {r : List Token.Unit}
    {rest : List Char} (h : scanUnits done cs = some (r, rest)) : rest.length < cs.length := by
  fun_induction scanUnits done cs with
  | case1 => simp at h
  | case2 => simp_all
  | case3 => simp at h
  | case4 _ _ _ _ _ _ _ _ ih => have := ih h; simp only [List.length_cons]; omega
  | case5 => simp at h
  | case6 _ _ _ _ _ _ ih => have := ih h; simp only [List.length_cons]; omega
  | case7 => simp at h
  | case8 _ _ _ _ _ _ _ ih => have := ih h; simp only [List.length_cons]; omega

/-- What follows some digits is not longer. -/
theorem length_dropDigits (cs : List Char) : (spanDigits cs).2.length ≤ cs.length :=
  (List.dropWhile_sublist _).length_le

/-- The whole part of a number takes at least one digit. -/
theorem length_of_scanWhole? {cs ds rest : List Char} (h : scanWhole? cs = some (ds, rest)) :
    rest.length < cs.length := by
  unfold scanWhole? at h
  cases cs with
  | nil => simp [spanDigits] at h
  | cons c cs =>
    by_cases hc : c.isDigit = true
    · have hs : spanDigits (c :: cs) = (c :: (spanDigits cs).1, (spanDigits cs).2) := by
        simp [spanDigits, hc]
      have hl := length_dropDigits cs
      rw [hs] at h
      split at h
      · simp at h
      · simp at h
      · simp only [Option.some.injEq, Prod.mk.injEq] at h
        simp only [← h.2, List.length_cons]
        omega
    · have hs : spanDigits (c :: cs) = ([], c :: cs) := by simp [spanDigits, hc]
      rw [hs] at h
      simp at h

/-- What follows a fraction, which may be absent, is not longer. -/
theorem length_of_scanFraction? {cs ds rest : List Char}
    (h : scanFraction? cs = some (ds, rest)) : rest.length ≤ cs.length := by
  unfold scanFraction? at h
  split at h
  · rename_i cs
    have hl := length_dropDigits cs
    split at h
    · simp at h
    · simp only [Option.some.injEq] at h
      simp only [h, List.length_cons] at hl ⊢
      omega
  · simp_all

/-- What follows the digits of an exponent is not longer. -/
theorem length_of_scanExponentDigits? {negative : Bool} {cs rest : List Char} {e : Option Int}
    (h : scanExponentDigits? negative cs = some (e, rest)) : rest.length ≤ cs.length := by
  unfold scanExponentDigits? at h
  have hl := length_dropDigits cs
  split at h
  · simp at h
  · rename_i heq
    simp only [heq, Option.some.injEq, Prod.mk.injEq] at h hl
    exact h.2 ▸ hl

/-- What follows an exponent, which may be absent, is not longer. -/
theorem length_of_scanExponent? {cs rest : List Char} {e : Option Int}
    (h : scanExponent? cs = some (e, rest)) : rest.length ≤ cs.length := by
  unfold scanExponent? at h
  split at h
  · split at h
    · split at h <;> have := length_of_scanExponentDigits? h <;> simp_all <;> omega
    · simp_all
  · simp_all

/-- A number without a sign takes at least one character, namely that of its whole part. -/
theorem length_of_scanUnsigned? {negative : Bool} {cs rest : List Char} {n : Number}
    (h : scanUnsigned? negative cs = some (n, rest)) : rest.length < cs.length := by
  unfold scanUnsigned? at h
  simp only [Option.bind_eq_bind, Option.bind_eq_some_iff, Prod.exists] at h
  obtain ⟨_, _, h₁, _, _, h₂, _, _, h₃, h₄⟩ := h
  have l₁ := length_of_scanWhole? h₁
  have l₂ := length_of_scanFraction? h₂
  have l₃ := length_of_scanExponent? h₃
  simp only [Option.pure_def, Option.some.injEq, Prod.mk.injEq] at h₄
  rw [← h₄.2]
  omega

/-- A number takes at least one character. -/
theorem length_of_scanNumber? {cs rest : List Char} {n : Number}
    (h : scanNumber? cs = some (n, rest)) : rest.length < cs.length := by
  unfold scanNumber? at h
  split at h
  · have := length_of_scanUnsigned? h
    simp only [List.length_cons]
    omega
  · exact length_of_scanUnsigned? h

/-- What follows the characters of a name is not longer. -/
theorem length_of_afterName? {name cs rest : List Char} (h : afterName? name cs = some rest) :
    rest.length ≤ cs.length := by
  unfold afterName? at h
  split at h
  · simp only [Option.some.injEq] at h
    simp [← h]
  · simp at h

/-- What follows a name that stands for a token is not longer. -/
theorem length_of_scanName? {name cs rest : List Char} {t u : Token}
    (h : scanName? name t cs = some (u, rest)) : rest.length ≤ cs.length := by
  simp only [scanName?, Option.map_eq_some_iff, Prod.mk.injEq] at h
  obtain ⟨_, h, _, rfl⟩ := h
  exact length_of_afterName? h

/-- A token takes at least one character.

**Proof sketch.** By cases on the first character. Punctuation is one character; a string has its
closing quote and a number its first digit besides; a name is read behind its first letter. -/
theorem length_of_next? {cs rest : List Char} {t : Token} (h : next? cs = some (t, rest)) :
    rest.length < cs.length := by
  cases cs with
  | nil => simp [next?] at h
  | cons c cs =>
    unfold next? at h
    cases hp : punctuation? c with
    | some u => simp_all
    | none =>
      simp only [hp] at h
      rw [List.length_cons]
      split at h
      · simp only [Option.map_eq_some_iff, Prod.mk.injEq, Prod.exists] at h
        obtain ⟨_, _, h, _, rfl⟩ := h
        exact Nat.lt_succ_of_lt (length_of_scanUnits h)
      · split at h
        · exact Nat.lt_succ_of_le (length_of_scanName? h)
        · split at h
          · exact Nat.lt_succ_of_le (length_of_scanName? h)
          · split at h
            · exact Nat.lt_succ_of_le (length_of_scanName? h)
            · simp only [Option.map_eq_some_iff, Prod.mk.injEq, Prod.exists] at h
              obtain ⟨_, _, h, _, rfl⟩ := h
              exact length_of_scanNumber? h

/-- Reads tokens to the end of the text; `done` holds the tokens so far, the last one first. -/
def scanFrom (done : List Token) (cs : List Char) : Option (List Token) :=
  match cs with
  | [] => some done.reverse
  | c :: rest =>
    if isSpace c then scanFrom done rest
    else
      match _h : next? (c :: rest) with
      | none => none
      | some (token, after) => scanFrom (token :: done) after
termination_by cs.length
decreasing_by
  · simp
  · exact length_of_next? _h

/-- The tokens of a text. -/
def scan (s : String) : Option (List Token) := scanFrom [] s.toList

end Token

end Depot.Json
