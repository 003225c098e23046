import Depot.Yaml.Token

set_option autoImplicit false

/-!
# YAML documents

The tree of a document: scalars, sequences and mappings, with aliases. An alias holds the number
that the anchor of its name has at that place, and stands for the last node of the document whose
anchor has that number. A name that is not in use gets as its number how many names are in use; one
that is used again gets that number as well, and so does the next new name.

## Main definitions

* `Yaml.Node`, `Yaml.Document` — trees and documents.
* `Yaml.Document.follow` — the node that an alias stands for.
* `Yaml.Document.ofTokens?` — the only document that a list of tokens writes.
* `Yaml.parse?` — the only document of a text.
* `Yaml.Visit`, `Yaml.Document.visit` — readers of documents.
-/

namespace Depot.Yaml

/-- A tree. -/
inductive Node where
  /-- Nothing at all, as in an empty document. -/
  | void
  /-- A scalar; `plain` says whether it is written without quotes. -/
  | scalar (tag : Option Tag) (plain : Bool) (text : String)
  /-- A sequence. -/
  | seq (tag : Option Tag) (items : List Node)
  /-- A mapping. -/
  | map (tag : Option Tag) (entries : List (Node × Node))
  /-- The node of an anchor, given by its number. -/
  | alias (anchor : Nat)
  deriving Repr, Inhabited

mutual

/-- The number of scalars, aliases and ends of collections in a tree. -/
def Node.size : Node → Nat
  | .seq _ items => 2 + sizeOfItems items
  | .map _ entries => 2 + sizeOfEntries entries
  | _ => 1

/-- The size of several trees. -/
def sizeOfItems : List Node → Nat
  | [] => 0
  | n :: rest => n.size + sizeOfItems rest

/-- The size of the keys and values of a mapping. -/
def sizeOfEntries : List (Node × Node) → Nat
  | [] => 0
  | (k, v) :: rest => k.size + v.size + sizeOfEntries rest

end

/-- A node with an anchor. -/
structure Anchored where
  /-- The number of the anchor. -/
  anchor : Nat
  /-- How many nodes with an anchor start before it. -/
  start : Nat
  /-- The node. -/
  node : Node
  deriving Repr, Inhabited

/-- Of the nodes whose anchor has a number, the one that starts last. -/
def Anchored.last? (anchor : Nat) (nodes : List Anchored) : Option Anchored :=
  (nodes.filter (·.anchor == anchor)).foldl
    (fun last a => if last.all (·.start < a.start) then some a else last) none

/-- A tree and what its aliases stand for. -/
structure Document where
  /-- The tree. -/
  root : Node
  /-- The nodes that aliases stand for, by the numbers of their anchors. -/
  targets : Array Node := #[]
  deriving Repr, Inhabited

/-- What the reader keeps: what is left, the handles of tags, and the anchors so far. -/
structure NodeReader where
  /-- The tokens that are left. -/
  rest : List Token
  /-- The handles of tags and what they stand for. -/
  handles : List (String × List UInt8) := []
  /-- The numbers of the names of anchors. -/
  anchors : List (String × Nat) := []
  /-- How many nodes with an anchor have started. -/
  started : Nat := 0
  /-- Those that have ended. -/
  anchored : List Anchored := []

/-- A part of the reader; none if the tokens do not fit. -/
abbrev ReadNode (α : Type) := StateT NodeReader Option α

namespace ReadNode

/-- The tokens do not fit. -/
def refuse {α : Type} : ReadNode α := fun _ => none

/-- The next token. -/
def peek : ReadNode (Option Token) := return (← get).rest.head?

/-- Reads one token. -/
def skip : ReadNode Unit := modify fun s => { s with rest := s.rest.drop 1 }

/-- Reads a token if it comes next; says whether it does. -/
def accept (t : Token) : ReadNode Bool := do
  if (← peek) == some t then
    skip
    return true
  else return false

/-- Reads a token that must come next. -/
def expect (t : Token) : ReadNode Unit := do unless ← accept t do refuse

/-- Whether one of some tokens comes next. -/
def atAny (ts : List Token) : ReadNode Bool := return (← peek).any ts.contains

/-- A scalar that is not there. -/
def emptyScalar : Node := .scalar none true ""

/-- The handles that need no directive. -/
def standardHandles : List (String × List UInt8) :=
  [("!", [Tag.mark]), ("!!", (Tag.standard "").bytes)]

/-- What comes before a node: a name for it and its tag. -/
structure Properties where
  /-- The name of the anchor. -/
  anchor : Option String := none
  /-- The tag. -/
  tag : Option Tag := none

/-- An anchor, if one comes next. -/
def anchor? : ReadNode (Option String) := do
  match ← peek with
  | some (.anchor name) =>
    skip
    return some name
  | _ => return none

/-- A tag, if one comes next. -/
def tag? : ReadNode (Option Tag) := do
  match ← peek with
  | some (.tag handle suffix) =>
    skip
    if handle = "" then return some ⟨suffix⟩
    match ((← get).handles ++ standardHandles).lookup handle with
    | some expansion => return some ⟨expansion ++ suffix⟩
    | none => refuse
  | _ => return none

/-- An anchor and a tag in either order, each if it is there. -/
def properties : ReadNode Properties := do
  match ← anchor? with
  | some a => return ⟨some a, ← tag?⟩
  | none =>
    match ← tag? with
    | some t => return ⟨← anchor?, some t⟩
    | none => return {}

/-- Numbers an anchor. -/
def number (name : String) : ReadNode Nat := do
  let s ← get
  let n := s.anchors.length
  set { s with anchors := (name, n) :: s.anchors.filter (·.1 ≠ name) }
  return n

/-- A node with its properties. -/
def named (p : Properties) (content : ReadNode Node) : ReadNode Node := do
  match p.anchor with
  | none => content
  | some name =>
    let anchor ← number name
    let start ← modifyGet fun s => (s.started, { s with started := s.started + 1 })
    let node ← content
    modify fun s => { s with anchored := ⟨anchor, start, node⟩ :: s.anchored }
    return node

/-- A node that has properties and nothing else. -/
def unwritten (p : Properties) : ReadNode Node := do
  if p.anchor.isNone && p.tag.isNone then refuse
  named p (return .scalar p.tag true "")

mutual

/-- A node; `block` allows collections in block form, `sameIndent` allows items at the indentation
of the mapping around them. -/
def node (block sameIndent : Bool) : Nat → ReadNode Node
  | 0 => refuse
  | limit + 1 => do
    match ← peek with
    | some (.alias name) =>
      skip
      match (← get).anchors.lookup name with
      | some n => return .alias n
      | none => refuse
    | _ =>
      let p ← properties
      match ← peek with
      | some .blockEntry =>
        if sameIndent then
          named p (return .seq p.tag (← sameIndentItems limit []))
        else unwritten p
      | some (.scalar text plain) =>
        skip
        named p (return .scalar p.tag plain text)
      | some .flowSequenceStart =>
        skip
        named p (return .seq p.tag (← flowItems limit true []))
      | some .flowMappingStart =>
        skip
        named p (return .map p.tag (← flowEntries limit true []))
      | some .blockSequenceStart =>
        if block then
          skip
          named p (return .seq p.tag (← blockItems limit []))
        else unwritten p
      | some .blockMappingStart =>
        if block then
          skip
          named p (return .map p.tag (← blockEntries limit []))
        else unwritten p
      | _ => unwritten p
termination_by limit => (limit, 0)

/-- A node, or an empty scalar before one of some tokens. -/
def nodeUnless (stops : List Token) (block sameIndent : Bool) (limit : Nat) : ReadNode Node := do
  if (← peek).isNone || (← atAny stops) then return emptyScalar
  else node block sameIndent limit
termination_by (limit, 1)

/-- The items of a sequence in block form, to its end. -/
def blockItems : Nat → List Node → ReadNode (List Node)
  | 0, _ => refuse
  | limit + 1, done => do
    if ← accept .blockEntry then
      let item ← nodeUnless [.blockEntry, .blockEnd] true false limit
      blockItems limit (item :: done)
    else
      expect .blockEnd
      return done.reverse
termination_by limit _ => (limit, 0)

/-- The items of a sequence at the indentation of the mapping around it. -/
def sameIndentItems : Nat → List Node → ReadNode (List Node)
  | 0, _ => refuse
  | limit + 1, done => do
    if ← accept .blockEntry then
      let item ← nodeUnless [.blockEntry, .key, .value, .blockEnd] true false limit
      sameIndentItems limit (item :: done)
    else return done.reverse
termination_by limit _ => (limit, 0)

/-- The entries of a mapping in block form, to its end. -/
def blockEntries : Nat → List (Node × Node) → ReadNode (List (Node × Node))
  | 0, _ => refuse
  | limit + 1, done => do
    if ← accept .key then
      let k ← nodeUnless [.key, .value, .blockEnd] true true limit
      let v ←
        if ← accept .value then nodeUnless [.key, .value, .blockEnd] true true limit
        else pure emptyScalar
      blockEntries limit ((k, v) :: done)
    else
      expect .blockEnd
      return done.reverse
termination_by limit _ => (limit, 0)

/-- The items of a sequence in flow form, to its end. An item may be a key with a value. -/
def flowItems : Nat → Bool → List Node → ReadNode (List Node)
  | 0, _, _ => refuse
  | limit + 1, first, done => do
    if ← accept .flowSequenceEnd then return done.reverse
    unless first do expect .flowEntry
    if ← accept .key then
      let k ←
        if ← atAny [.value, .flowEntry, .flowSequenceEnd] then
          skip
          pure emptyScalar
        else node false false limit
      let v ←
        if ← accept .value then nodeUnless [.flowEntry, .flowSequenceEnd] false false limit
        else pure emptyScalar
      flowItems limit false (.map none [(k, v)] :: done)
    else if ← accept .flowSequenceEnd then return done.reverse
    else
      let item ← node false false limit
      flowItems limit false (item :: done)
termination_by limit _ _ => (limit, 0)

/-- The entries of a mapping in flow form, to its end. -/
def flowEntries : Nat → Bool → List (Node × Node) → ReadNode (List (Node × Node))
  | 0, _, _ => refuse
  | limit + 1, first, done => do
    if ← accept .flowMappingEnd then return done.reverse
    unless first do expect .flowEntry
    if ← accept .key then
      let k ← nodeUnless [.value, .flowEntry, .flowMappingEnd] false false limit
      let v ←
        if ← accept .value then nodeUnless [.flowEntry, .flowMappingEnd] false false limit
        else pure emptyScalar
      flowEntries limit false ((k, v) :: done)
    else if ← accept .flowMappingEnd then return done.reverse
    else
      let k ← node false false limit
      flowEntries limit false ((k, emptyScalar) :: done)
termination_by limit _ _ => (limit, 0)

end

/-! ## Documents -/

/-- The directives before a document. -/
def directives (versioned : Bool) : Nat → ReadNode Unit
  | 0 => pure ()
  | limit + 1 => do
    match ← peek with
    | some (.version major minor) =>
      if versioned || major ≠ 1 || !(minor = 1 || minor = 2) then refuse
      skip
      directives true limit
    | some (.tagHandle handle expansion) =>
      if ((← get).handles.lookup handle).isSome then refuse
      skip
      modify fun s => { s with handles := (handle, expansion) :: s.handles }
      directives versioned limit
    | _ => pure ()

/-- Whether a document starts with a mark or directives. -/
def startsExplicitly : Token → Bool
  | .version _ _ | .tagHandle _ _ | .documentStart => true
  | _ => false

/-- Reads the marks for the end of a document. -/
def documentEnds : Nat → ReadNode Unit
  | 0 => pure ()
  | limit + 1 => do if ← accept .documentEnd then documentEnds limit

/-- The only document. -/
def document (limit : Nat) : ReadNode Node := do
  match ← peek with
  | none => return .void
  | some t =>
    let root ←
      if startsExplicitly t then
        directives false limit
        expect .documentStart
        nodeUnless [.documentStart, .documentEnd] true false limit
      else node true false limit
    documentEnds limit
    if (← peek).isSome then refuse
    return root

end ReadNode

/-- The only document that a list of tokens writes. -/
def Document.ofTokens? (ts : List Token) : Option Document :=
  (ReadNode.document (2 * ts.length + 4) { rest := ts }).map fun (root, s) =>
    let target (anchor : Nat) : Node := ((Anchored.last? anchor s.anchored).map (·.node)).getD .void
    -- no number is greater than that of names in use
    { root, targets := ((List.range (s.anchors.length + 1)).map target).toArray }

/-- The only document of a text. -/
def parse? (s : String) : Option Document := (Token.scan? s).bind Document.ofTokens?

/-! ## Aliases -/

/-- A step of a reader that may follow as many aliases as the state says; none if the document is
not as expected. -/
abbrev Visit (α : Type) := StateT Nat Option α

/-- The document is not as expected. -/
def Visit.refuse {α : Type} : Visit α := fun _ => none

/-- The node itself, or the node that an alias stands for. -/
def Document.follow (d : Document) : Node → Visit Node
  | .alias anchor => fun
    | 0 => none
    | left + 1 => some ((d.targets[anchor]?).getD .void, left)
  | n => return n

/-- Reads a document. It may follow a hundred times as many aliases as the document has parts. -/
def Document.visit {α : Type} (d : Document) (read : Node → Visit α) : Option α :=
  (read d.root).run' (100 * d.root.size)

end Depot.Yaml
