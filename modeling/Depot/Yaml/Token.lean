import Depot.Yaml.Tag

set_option autoImplicit false

/-!
# YAML tokens

The lexical level of YAML. Collections in block form are told by their indentation, so the scanner
keeps the open indentations and adds marks where blocks start and end. That a scalar is a key shows
only at the colon after it; until then its place is kept, and the marks are put in there.

## Main definitions

* `Yaml.Token` — the tokens.
* `Yaml.Scanner` — what the scanner keeps.
* `Yaml.Token.scan?` — the tokens of a text.
-/

namespace Depot.Yaml

/-- The tokens of YAML. -/
inductive Token where
  | version (major minor : Nat)
  | tagHandle (handle : String) (expansion : List UInt8)
  | documentStart
  | documentEnd
  | blockSequenceStart
  | blockMappingStart
  | blockEnd
  | flowSequenceStart
  | flowSequenceEnd
  | flowMappingStart
  | flowMappingEnd
  | blockEntry
  | flowEntry
  | key
  | value
  | alias (name : String)
  | anchor (name : String)
  | tag (handle : String) (suffix : List UInt8)
  | scalar (text : String) (plain : Bool)
  deriving Repr, DecidableEq, Inhabited

/-- The place of something that may turn out to be a key. -/
structure PendingKey where
  /-- Whether it must be a key, as the first thing in a block of keys. -/
  required : Bool
  /-- The number of tokens before it. -/
  position : Nat
  /-- The number of bytes before it. -/
  index : Nat
  /-- The line on which it starts. -/
  line : Nat
  /-- The column in which it starts. -/
  column : Nat

/-- What the scanner keeps. -/
structure Scanner where
  /-- What is left of the text. -/
  rest : List Char
  /-- The number of bytes read. -/
  index : Nat := 0
  /-- The number of lines read. -/
  line : Nat := 0
  /-- The number of characters read on this line. -/
  column : Nat := 0
  /-- The columns of the open blocks, the innermost first. -/
  indents : List Nat := []
  /-- Whether a key may start here. -/
  keyAllowed : Bool := true
  /-- What may turn out to be a key, for each open collection in flow form, the innermost first,
  and then for the blocks around them. -/
  pending : List (Option PendingKey) := [none]
  /-- The tokens so far. -/
  tokens : Array Token := #[]

/-- A step of the scanner; none if the text is not YAML. -/
abbrev Scan (α : Type) := StateT Scanner Option α

namespace Scan

/-- The text is not YAML. -/
def refuse {α : Type} : Scan α := fun _ => none

/-- Reads some characters. -/
def skip : Nat → Scan Unit
  | 0 => pure ()
  | n + 1 => do
    let s ← get
    match s.rest with
    | [] => pure ()
    | c :: rest =>
      let index := s.index + c.utf8Size
      if isBreak c then set { s with rest, index, line := s.line + 1, column := 0 }
      else set { s with rest, index, column := s.column + 1 }
      skip n

/-- Reads the characters before a later part of the text. -/
def skipTo (rest : List Char) : Scan Unit := do
  skip ((← get).rest.length - rest.length)

/-- Adds a token. -/
def emit (t : Token) : Scan Unit := modify fun s => { s with tokens := s.tokens.push t }

/-- Puts a token before those that came after the first `position`. -/
def insert (position : Nat) (t : Token) : Scan Unit :=
  modify fun s => { s with tokens := s.tokens.insertIdxIfInBounds position t }

/-- Says whether a key may start here. -/
def allowKey (allowed : Bool) : Scan Unit := modify fun s => { s with keyAllowed := allowed }

/-- Whether the text is inside a collection in flow form. -/
def inFlow : Scan Bool := return 1 < (← get).pending.length

/-! ## Pending keys -/

/-- Sets what may turn out to be a key. -/
def setPending (key : Option PendingKey) : Scan Unit :=
  modify fun s => { s with pending := key :: s.pending.drop 1 }

/-- Gives up on what might have been a key. -/
def dropPending : Scan Unit := do
  match (← get).pending with
  | some k :: _ => if k.required then refuse else setPending none
  | _ => pure ()

/-- Remembers this place as that of a possible key. -/
def markPending : Scan Unit := do
  let s ← get
  if s.keyAllowed then
    dropPending
    setPending (some {
      required := s.pending.length ≤ 1 && s.indents.head? == some s.column
      position := s.tokens.size
      index := s.index
      line := s.line
      column := s.column })

/-- A key ends on the line on which it starts and is at most 1024 bytes long. -/
def dropStale : Scan Unit := do
  let s ← get
  let stale (k : PendingKey) : Bool := k.line < s.line || k.index + 1024 < s.index
  if s.pending.any (·.any fun k => stale k && k.required) then refuse
  else set { s with pending := s.pending.map (Option.filter (!stale ·)) }

/-! ## Blocks -/

/-- Opens a block in a column to the right of the innermost one; its mark goes before the tokens
after the first `position`, or to the end. -/
def openBlock (column : Nat) (position : Option Nat) (mark : Token) : Scan Unit := do
  unless ← inFlow do
    let s ← get
    if s.indents.head?.all (· < column) then
      set { s with indents := column :: s.indents }
      match position with
      | some p => insert p mark
      | none => emit mark

/-- Closes the blocks to the right of a column, or all. -/
def closeBlocks (column : Option Nat) : Scan Unit := do
  unless ← inFlow do
    let s ← get
    let closed := s.indents.takeWhile fun i => column.all (· < i)
    set { s with
      indents := s.indents.drop closed.length
      tokens := s.tokens ++ closed.map fun _ => Token.blockEnd }

/-! ## Tokens -/

/-- Reads white space and comments. A tab may not come where a key may, and a byte order mark may
come at the start of a line. -/
def toNextToken : Nat → Scan Unit
  | 0 => pure ()
  | limit + 1 => do
    let flow ← inFlow
    let s ← get
    match s.rest with
    | [] => pure ()
    | c :: _ =>
      let isSpace := c = ' ' || (c = '\t' && (flow || !s.keyAllowed))
      if isSpace || (c = '\ufeff' && s.column == 0) then
        skip 1
        toNextToken limit
      else if c = '#' then
        skipTo (s.rest.dropWhile (!isBreak ·))
        toNextToken limit
      else if isBreak c then
        skip 1
        unless flow do allowKey true
        toNextToken limit

/-- A mark of one character. -/
def indicator (t : Token) : Scan Unit := do
  skip 1
  emit t

/-- The start of a line or of the end that belongs to no block. -/
def outsideBlocks : Scan Unit := do
  closeBlocks none
  dropPending
  allowKey false

/-- The start or end of a document. -/
def documentMark (t : Token) : Scan Unit := do
  outsideBlocks
  skip 3
  emit t

/-- The start of a collection in flow form. -/
def flowStart (t : Token) : Scan Unit := do
  markPending
  modify fun s => { s with pending := none :: s.pending }
  allowKey true
  indicator t

/-- The end of a collection in flow form. -/
def flowEnd (t : Token) : Scan Unit := do
  dropPending
  modify fun s =>
    { s with pending := if s.pending.length ≤ 1 then s.pending else s.pending.drop 1 }
  allowKey false
  indicator t

/-- A comma. -/
def flowEntry : Scan Unit := do
  dropPending
  allowKey true
  indicator .flowEntry

/-- The dash before an item of a block. -/
def blockEntry : Scan Unit := do
  unless ← inFlow do
    let s ← get
    if !s.keyAllowed then refuse
    openBlock s.column none .blockSequenceStart
  dropPending
  allowKey true
  indicator .blockEntry

/-- The question mark before a key. -/
def explicitKey : Scan Unit := do
  let flow ← inFlow
  unless flow do
    let s ← get
    if !s.keyAllowed then refuse
    openBlock s.column none .blockMappingStart
  dropPending
  allowKey (!flow)
  indicator .key

/-- The colon before a value. -/
def value : Scan Unit := do
  let flow ← inFlow
  let s ← get
  match s.pending with
  | some k :: _ =>
    insert k.position .key
    openBlock k.column (some k.position) .blockMappingStart
    setPending none
    allowKey false
  | _ =>
    unless flow do
      if !s.keyAllowed then refuse
      openBlock s.column none .blockMappingStart
    allowKey (!flow)
  indicator .value

/-- The name of an anchor or alias. -/
def anchorName : Scan String := do
  markPending
  allowKey false
  skip 1
  let rest := (← get).rest
  let name := rest.takeWhile isNameChar
  let after := rest.dropWhile isNameChar
  let ends := endsWord after || after.head?.any ("?:,]\x7d%@`".toList.contains ·)
  if name.isEmpty || !ends then refuse
  skipTo after
  return String.ofList name

/-- A part of a tag. -/
def tagBytes (verbatim : Bool) : Scan (List UInt8) := do
  match Tag.bytes? verbatim 0 (← get).rest with
  | none => refuse
  | some (bytes, rest) =>
    skipTo rest
    return bytes

/-- A handle: an exclamation mark, or a name between two; says whether it is closed. -/
def tagHandle : Scan (String × Bool) := do
  let rest := (← get).rest
  if rest.head? ≠ some '!' then refuse
  let name := (rest.drop 1).takeWhile isNameChar
  let after := (rest.drop 1).dropWhile isNameChar
  let closed := after.head? == some '!'
  skipTo (if closed then after.drop 1 else after)
  return (String.ofList (['!'] ++ name ++ if closed then ['!'] else []), closed)

/-- A tag. One without a handle of its own has the handle of one exclamation mark, but a mark
alone is the whole tag. -/
def tag : Scan Unit := do
  markPending
  allowKey false
  let (handle, suffix) ← do
    if ((← get).rest.drop 1).head? == some '<' then
      skip 2
      let suffix ← tagBytes true
      if suffix.isEmpty || (← get).rest.head? ≠ some '>' then refuse
      skip 1
      pure ("", Tag.cut suffix)
    else
      let (handle, closed) ← tagHandle
      let suffix ← tagBytes false
      if closed then
        if suffix.isEmpty then refuse
        pure (handle, Tag.cut suffix)
      else
        let suffix := Tag.cut ((handle.drop 1).toString.toUTF8.toList ++ suffix)
        pure (if suffix.isEmpty then ("", [Tag.mark]) else ("!", suffix))
  let s ← get
  unless endsWord s.rest || ((← inFlow) && s.rest.head? == some ',') do refuse
  emit (.tag handle suffix)

/-- Blanks. -/
def blanks : Scan Unit := do skipTo ((← get).rest.dropWhile isBlank)

/-- A number of a version. -/
def versionNumber : Scan Nat := do
  let rest := (← get).rest
  let digits := rest.takeWhile Char.isDigit
  if digits.isEmpty || 9 < digits.length then refuse
  skipTo (rest.drop digits.length)
  return digits.foldl (fun n c => 10 * n + (c.toNat - '0'.toNat)) 0

/-- A directive. -/
def directive : Scan Unit := do
  outsideBlocks
  skip 1
  let rest := (← get).rest
  let name := String.ofList (rest.takeWhile isNameChar)
  skipTo (rest.dropWhile isNameChar)
  if !endsWord (← get).rest then refuse
  blanks
  if name = "YAML" then
    let major ← versionNumber
    if (← get).rest.head? ≠ some '.' then refuse
    skip 1
    let minor ← versionNumber
    emit (.version major minor)
  else if name = "TAG" then
    let (handle, closed) ← tagHandle
    if !(closed || handle = "!") || !(← get).rest.head?.any isBlank then refuse
    blanks
    let expansion ← tagBytes true
    if expansion.isEmpty || !endsWord (← get).rest then refuse
    emit (.tagHandle handle (Tag.cut expansion))
  else refuse
  match afterComment? (← get).rest with
  | none => refuse
  | some rest =>
    skipTo rest
    skip 1

/-- A literal or folded block. -/
def block (literal : Bool) : Scan Unit := do
  dropPending
  allowKey true
  skip 1
  let s ← get
  match block? literal s.indents.head? s.rest with
  | none => refuse
  | some (text, rest) =>
    skipTo rest
    emit (.scalar text false)

/-- A scalar between quotes. -/
def quoted (double : Bool) : Scan Unit := do
  markPending
  allowKey false
  skip 1
  match quoted? double (← get).rest with
  | none => refuse
  | some (text, rest) =>
    skipTo rest
    emit (.scalar text false)

/-- A plain scalar. -/
def plain : Scan Unit := do
  markPending
  allowKey false
  let s ← get
  match plain? (← inFlow) (s.indents.head?.map (· + 1) |>.getD 0) s.rest with
  | none => refuse
  | some (text, rest, folded) =>
    skipTo rest
    emit (.scalar text true)
    if folded then allowKey true

/-- Whether a plain scalar may start here: not with a mark, but with one that no blank follows. -/
def startsPlain (flow : Bool) (c : Char) (rest : List Char) : Bool :=
  if c = '-' then !(rest.head?.any isBlank)
  else if c = '?' || c = ':' then !flow && !endsWord rest
  else !("-?:,[]\x7b\x7d#&*!|>'\"%@`".toList.contains c) && !isBlank c

/-- Reads one token; false at the end of the text. -/
def next : Scan Bool := do
  toNextToken ((← get).rest.length + 1)
  dropStale
  closeBlocks (some (← get).column)
  let flow ← inFlow
  let s ← get
  match s.rest with
  | [] =>
    outsideBlocks
    return false
  | c :: rest =>
    let first := s.column == 0
    if first && c = '%' then directive
    else if first && c = '-' && isDocumentMark s.rest then documentMark .documentStart
    else if first && c = '.' && isDocumentMark s.rest then documentMark .documentEnd
    else if c = '[' then flowStart .flowSequenceStart
    else if c = '\x7b' then flowStart .flowMappingStart
    else if c = ']' then flowEnd .flowSequenceEnd
    else if c = '\x7d' then flowEnd .flowMappingEnd
    else if c = ',' then flowEntry
    else if c = '-' && endsWord rest then blockEntry
    else if c = '?' && (flow || endsWord rest) then explicitKey
    else if c = ':' && (flow || endsWord rest) then value
    else if c = '*' then emit (.alias (← anchorName))
    else if c = '&' then emit (.anchor (← anchorName))
    else if c = '!' then tag
    else if c = '|' && !flow then block true
    else if c = '>' && !flow then block false
    else if c = '\'' then quoted false
    else if c = '"' then quoted true
    else if startsPlain flow c rest then plain
    else refuse
    return true

/-- Reads all tokens. -/
def all : Nat → Scan Unit
  | 0 => refuse
  | limit + 1 => do if ← next then all limit

end Scan

/-- Whether a character may stand in a text. -/
def isAllowed (c : Char) : Bool :=
  let n := c.toNat
  n == 9 || n == 10 || n == 13 || (0x20 ≤ n && n ≤ 0x7e) || n == 0x85
    || (0xa0 ≤ n && n ≤ 0xfffd) || 0x10000 ≤ n

/-- A text whose line ends are single characters. -/
def singleBreaks : List Char → List Char
  | '\r' :: '\n' :: rest => '\n' :: singleBreaks rest
  | c :: rest => (if c = '\r' || c = '\u0085' then '\n' else c) :: singleBreaks rest
  | [] => []

/-- The tokens of a text; none if a part of it is no token. -/
def Token.scan? (s : String) : Option (List Token) :=
  let cs := s.toList
  if !cs.all isAllowed then none
  else
    (Scan.all (cs.length + 1) { rest := singleBreaks cs }).map fun (_, s) => s.tokens.toList

end Depot.Yaml
