import Depot.Text.Percent

set_option autoImplicit false

/-!
# Written forms of YAML scalars

A scalar is written plainly, between quotes, or as an indented block. In all forms but the literal
block, a line break between two lines of text stands for a space, and of several breaks all but the
first one stand. Line ends are expected to be single characters.

## Main definitions

* `Yaml.plain?` — a plain scalar and what follows it.
* `Yaml.quoted?` — a scalar between quotes.
* `Yaml.block?` — a literal or folded block.
-/

namespace Depot.Yaml

/-! ## Characters -/

/-- Spaces and tabs. -/
def isBlank (c : Char) : Bool := c = ' ' || c = '\t'

/-- The characters that end a line. -/
def isBreak (c : Char) : Bool := c = '\n' || c = '\u2028' || c = '\u2029'

/-- Whether a text is over or goes on with a blank or a line end. -/
def endsWord : List Char → Bool
  | [] => true
  | c :: _ => isBlank c || isBreak c

/-- Whether a text is over or goes on with a line end. -/
def endsLine : List Char → Bool
  | [] => true
  | c :: _ => isBreak c

/-- Whether a line is one that starts or ends a document. -/
def isDocumentMark : List Char → Bool
  | '-' :: '-' :: '-' :: rest => endsWord rest
  | '.' :: '.' :: '.' :: rest => endsWord rest
  | _ => false

/-- The characters of names of anchors, handles and directives. -/
def isNameChar (c : Char) : Bool :=
  ('0' ≤ c && c ≤ '9') || ('A' ≤ c && c ≤ 'Z') || ('a' ≤ c && c ≤ 'z') || c = '_' || c = '-'

/-! ## Gaps between words -/

/-- The white space between two words of a scalar. -/
structure Gap where
  /-- The blanks before the first line break. -/
  blanks : List Char := []
  /-- The line breaks; the first one may be escaped, so that it stands for nothing. -/
  breaks : List (Option Char) := []
  /-- The number of blanks after the last line break. -/
  column : Nat := 0
  deriving Inhabited

namespace Gap

/-- Whether the gap goes over a line end. -/
def isFold (g : Gap) : Bool := !g.breaks.isEmpty

/-- What a gap stands for. -/
def text (g : Gap) : List Char :=
  match g.breaks with
  | [] => g.blanks
  | some '\n' :: [] => [' ']
  | some '\n' :: more => more.filterMap id
  | breaks => breaks.filterMap id

end Gap

/-- The gap at the start of a text, and what follows it; none if a tab stands in the first `indent`
columns of a line. -/
def gap? (indent : Nat) (g : Gap) : List Char → Option (Gap × List Char)
  | [] => some (g, [])
  | c :: rest =>
    if isBreak c then
      gap? indent { blanks := [], breaks := g.breaks ++ [some c], column := 0 } rest
    else if isBlank c then
      if g.isFold then
        if c = '\t' && g.column < indent then none
        else gap? indent { g with column := g.column + 1 } rest
      else gap? indent { g with blanks := g.blanks ++ [c] } rest
    else some (g, c :: rest)

/-! ## Plain scalars -/

/-- The marks of collections in flow form. -/
def isFlowMark (c : Char) : Bool := c = ',' || c = '[' || c = ']' || c = '\x7b' || c = '\x7d'

/-- A word of a plain scalar and what follows it; none if a colon stands before a mark of a
collection. -/
def plainWord? (flow : Bool) : List Char → Option (List Char × List Char)
  | [] => some ([], [])
  | c :: rest =>
    let next := rest.head?
    if isBlank c || isBreak c then some ([], c :: rest)
    else if flow && c = ':' && next.any fun d => isFlowMark d || d = '?' then none
    else if (c = ':' && endsWord rest) || (flow && isFlowMark c) then some ([], c :: rest)
    else (plainWord? flow rest).map fun (word, rest) => (c :: word, rest)

/-- The words of a plain scalar after a gap, with the gaps before them; says also whether a line
ended after the last word. -/
def plainWords? (flow : Bool) (indent : Nat) :
    Nat → Gap → List Char → Option (List Char × List Char × Bool)
  | 0, _, _ => none
  | limit + 1, g, cs => do
    let stop := some ([], cs, g.isFold)
    if g.isFold && g.column == 0 && isDocumentMark cs then stop
    else if cs.head? == some '#' then stop
    else
      let (word, rest) ← plainWord? flow cs
      let before := if word.isEmpty then [] else g.text
      let (after, rest) ← gap? indent {} rest
      if word.isEmpty then stop
      else if after.blanks.isEmpty && !after.isFold then some (before ++ word, rest, false)
      else if !flow && after.isFold && after.column < indent then
        some (before ++ word, rest, true)
      else
        let (more, rest, folded) ← plainWords? flow indent limit after rest
        some (before ++ word ++ more, rest, folded)

/-- A plain scalar whose later lines are indented by `indent` columns, and what follows it; says
also whether a line ended after it. -/
def plain? (flow : Bool) (indent : Nat) (cs : List Char) : Option (String × List Char × Bool) :=
  (plainWords? flow indent (cs.length + 1) {} cs).map fun (text, rest, folded) =>
    (String.ofList text, rest, folded)

/-! ## Quoted scalars -/

/-- The value of hexadecimal digits. -/
def hexNumber? (digits : List Char) : Option Nat :=
  digits.foldlM (fun n c => (Text.Percent.hexValue? c).map (16 * n + ·)) 0

/-- The character that a number stands for, if it stands for one. -/
def charOfNumber? (n : Nat) : Option Char := if n.isValidChar then some (Char.ofNat n) else none

/-- The characters with an escape of one character. -/
def escapes : List (Char × Char) := [
  ('0', '\x00'), ('a', '\x07'), ('b', '\x08'), ('t', '\t'), ('\t', '\t'), ('n', '\n'),
  ('v', '\x0b'), ('f', '\x0c'), ('r', '\r'), ('e', '\x1b'), (' ', ' '), ('"', '"'), ('/', '/'),
  ('\\', '\\'), ('N', '\u0085'), ('_', '\u00a0'), ('L', '\u2028'), ('P', '\u2029')]

/-- How many hexadecimal digits follow an escape. -/
def escapeWidth? : Char → Option Nat
  | 'x' => some 2
  | 'u' => some 4
  | 'U' => some 8
  | _ => none

/-- The character after a backslash, and what follows. -/
def escape? : List Char → Option (Char × List Char)
  | [] => none
  | c :: rest =>
    match escapeWidth? c with
    | some width =>
      if rest.length < width then none
      else do
        let n ← hexNumber? (rest.take width)
        return (← charOfNumber? n, rest.drop width)
    | none => (escapes.lookup c).map (·, rest)

/-- A part of a text between quotes. -/
inductive Quote where
  /-- The end of the text. -/
  | close
  /-- A character. -/
  | char (c : Char)
  /-- A line end that stands for nothing. -/
  | joined
  /-- White space. -/
  | space

/-- The next part of a text between quotes; none if the text is over or has a wrong escape. -/
def quotePart? (double : Bool) : List Char → Option (Quote × List Char)
  | [] => none
  | c :: rest =>
    if isBlank c || isBreak c then some (.space, c :: rest)
    else if double then
      if c = '"' then some (.close, rest)
      else if c = '\\' then
        match rest with
        | d :: rest' =>
          if isBreak d then some (.joined, rest')
          else (escape? (d :: rest')).map fun (e, rest) => (.char e, rest)
        | [] => none
      else some (.char c, rest)
    else if c = '\'' then
      match rest with
      | '\'' :: rest => some (.char '\'', rest)
      | _ => some (.close, rest)
    else some (.char c, rest)

/-- The text up to the closing quote, and what follows it. A line that starts or ends a document
may not stand in it. -/
def quotedParts? (double : Bool) : Nat → List Char → Option (List Char × List Char)
  | 0, _ => none
  | limit + 1, cs => do
    let afterGap (start : Gap) (rest : List Char) : Option (List Char × List Char) := do
      let (g, rest) ← gap? 0 start rest
      if g.isFold && g.column == 0 && isDocumentMark rest then none
      else
        let (more, rest) ← quotedParts? double limit rest
        return (g.text ++ more, rest)
    match ← quotePart? double cs with
    | (.close, rest) => return ([], rest)
    | (.char c, rest) =>
      let (more, rest) ← quotedParts? double limit rest
      return (c :: more, rest)
    | (.joined, rest) => afterGap { breaks := [none] } rest
    | (.space, rest) => afterGap {} rest

/-- A scalar after its opening quote, and what follows it. -/
def quoted? (double : Bool) (cs : List Char) : Option (String × List Char) :=
  (quotedParts? double (cs.length + 1) cs).map fun (text, rest) => (String.ofList text, rest)

/-! ## Blocks -/

/-- What happens to the line breaks at the end of a block. -/
inductive Chomping where
  /-- All are left out. -/
  | strip
  /-- One is kept. -/
  | clip
  /-- All are kept. -/
  | keep
  deriving DecidableEq, Inhabited

/-- The mark of what happens to line breaks at the end. -/
def chomping? : Char → Option Chomping
  | '+' => some .keep
  | '-' => some .strip
  | _ => none

/-- A digit from 1 to 9. -/
def indentDigit? (c : Char) : Option Nat :=
  if '1' ≤ c ∧ c ≤ '9' then some (c.toNat - '0'.toNat) else none

/-- The marks after the indicator of a block, in either order, and what follows them. -/
def blockMarks : List Char → Chomping × Option Nat × List Char
  | [] => (.clip, none, [])
  | c :: rest =>
    match chomping? c, indentDigit? c with
    | some chomping, _ =>
      match rest.head?.bind indentDigit? with
      | some n => (chomping, some n, rest.drop 1)
      | none => (chomping, none, rest)
    | none, some n =>
      match rest.head?.bind chomping? with
      | some chomping => (chomping, some n, rest.drop 1)
      | none => (.clip, some n, rest)
    | none, none => (.clip, none, c :: rest)

/-- The rest of a line that holds nothing but blanks and a comment. -/
def afterComment? (cs : List Char) : Option (List Char) :=
  let rest := cs.dropWhile isBlank
  let rest := if rest.head? == some '#' then rest.dropWhile (!isBreak ·) else rest
  if endsLine rest then some rest else none

/-- Empty lines before a line of text. -/
structure Emptiness where
  /-- Their line ends. -/
  breaks : List Char
  /-- The indentation of the line that follows. -/
  column : Nat
  /-- The greatest indentation of all. -/
  widest : Nat
  /-- The text from the first character that is no indentation. -/
  rest : List Char

/-- Skips empty lines; none if a tab stands in the indentation. Without an indentation given, all
spaces are indentation. -/
def emptyLines? (indent : Option Nat) (column widest : Nat) : List Char → Option Emptiness
  | [] => some ⟨[], column, max column widest, []⟩
  | c :: rest =>
    let inside := indent.all (column < ·)
    if inside && c = ' ' then emptyLines? indent (column + 1) widest rest
    else if inside && c = '\t' then none
    else if isBreak c then
      (emptyLines? indent 0 (max column widest) rest).map fun e =>
        { e with breaks := c :: e.breaks }
    else some ⟨[], column, max column widest, c :: rest⟩

/-- What the line breaks at the end of a block stand for. -/
def Chomping.text (leading : Option Char) (breaks : List Char) : Chomping → List Char
  | .strip => []
  | .clip => leading.toList
  | .keep => leading.toList ++ breaks

/-- The lines of a block that are indented by `indent` columns, and what follows them. The line
before ended with the break `leading`; `blank` says whether it started with a blank. -/
def blockLines? (literal : Bool) (chomping : Chomping) (indent : Nat) :
    Nat → Option Char → Bool → Emptiness → Option (List Char × List Char)
  | 0, _, _, _ => none
  | limit + 1, leading, blank, e =>
    match e.rest with
    | [] => some (chomping.text leading e.breaks, [])
    | c :: _ =>
      if e.column ≠ indent then some (chomping.text leading e.breaks, e.rest)
      else do
        let joined := !literal && leading == some '\n' && !blank && !isBlank c
        let before :=
          if !joined then leading.toList else if e.breaks.isEmpty then [' '] else []
        let line := e.rest.takeWhile (!isBreak ·)
        let rest := e.rest.dropWhile (!isBreak ·)
        let next ← emptyLines? (some indent) 0 0 (rest.drop 1)
        let (more, rest) ← blockLines? literal chomping indent limit rest.head? (isBlank c) next
        return (before ++ e.breaks ++ line ++ more, rest)

/-- A block after its indicator, in a context indented by `parent` columns if at all, and what
follows it. -/
def block? (literal : Bool) (parent : Option Nat) (cs : List Char) :
    Option (String × List Char) := do
  let (chomping, digit, rest) := blockMarks cs
  let rest ← afterComment? rest
  let given := digit.map (parent.getD 0 + ·)
  let e ← emptyLines? given 0 0 (rest.drop 1)
  let indent := given.getD (max e.widest (parent.map (· + 1) |>.getD 1))
  let (text, rest) ← blockLines? literal chomping indent (cs.length + 1) none false e
  return (String.ofList text, rest)

end Depot.Yaml
