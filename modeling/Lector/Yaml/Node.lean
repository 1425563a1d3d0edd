import Lector.Yaml.Scanner

/-!
# Nodes of a YAML document

The tokens of a document make up a tree of scalars, sequences and mappings, each perhaps with a tag.
An alias stands for the node that carries its anchor.

## Main definitions

* `Node` - the nodes.
* `Parsing` - what is known while nodes are read.
* `parseNode` - reads a node.
* `Document`, `readDocument?` - the document of a text.
-/

namespace Lector.Yaml

/-- A node of a document. -/
inductive Node
  | scalar (tag : Option Text) (plain : Bool) (text : Text)
  | sequence (tag : Option Text) (items : List Node)
  | mapping (tag : Option Text) (entries : List (Node × Node))
  deriving Inhabited

def Node.nothing : Node := .scalar none true []

/-- A node that carries an anchor. -/
structure Anchored where
  /-- The node, unless it is still being read. -/
  node : Option Node
  followed : Nat

/-- What is known while nodes are read. -/
structure Parsing where
  tokens : List Token
  /-- The nodes with anchors, the latest first. -/
  anchors : List (Text × Anchored) := []
  handles : List (Text × Text) := []
  /-- The marks that the nodes so far consist of: one for a scalar or an alias, and two for a
  sequence or a mapping. -/
  written : Nat := 0
  /-- The aliases that are followed when the nodes so far are walked through. -/
  followed : Nat := 0

/-- A reading step. -/
abbrev Parser := StateT Parsing Option

def peek : Parser (Option Token) := do return (← get).tokens.head?

def advance : Parser Unit := modify fun s => { s with tokens := s.tokens.drop 1 }

def nextIn (ts : List Token) : Parser Bool := do
  return match ← peek with
  | some t => ts.contains t
  | none => false

/-- Goes on behind a token if it comes next. -/
def accept (t : Token) : Parser Bool := do
  if ← nextIn [t] then
    advance
    return true
  else return false

/-- Goes on behind a token, which must come next. -/
def expect (t : Token) : Parser Unit := do
  if !(← accept t) then failure

/-- Reads an anchor if one comes next. -/
def readAnchor : Parser (Option Text) := do
  match ← peek with
  | some (.anchor name) =>
    advance
    return some name
  | _ => return none

/-- Reads a tag if one comes next, and puts the prefix of its handle in front of it. -/
def readTagOf : Parser (Option Text) := do
  match ← peek with
  | some (.tag handle suffix) =>
    advance
    if handle.isEmpty then return some suffix
    else
      let some pre := (← get).handles.lookup handle | failure
      return some (pre ++ suffix)
  | _ => return none

def countWritten (n : Nat) : Parser Unit := modify fun s => { s with written := s.written + n }

def nothingWritten : Parser Node := do
  countWritten 1
  return .nothing

/-- The node that an alias stands for, which must have been read to its end. -/
def follow (name : Text) : Parser Node := do
  countWritten 1
  let some anchored := (← get).anchors.lookup name | failure
  modify fun s => { s with followed := s.followed + 1 + anchored.followed }
  let some node := anchored.node | failure
  return node

/-- Puts an anchor on what comes next, or on what has been read since `followed` aliases. -/
def setAnchor (name : Text) (node : Option Node) (followed : Nat) : Parser Unit :=
  modify fun s =>
    { s with anchors := (name, ⟨node, s.followed - followed⟩) :: s.anchors }

/-- Whether no node stands before one of the tokens that would follow it. -/
def noNode (ts : List Token) : Parser Bool := do
  return match ← peek with
  | some t => ts.contains t
  | none => false

mutual

/-- Reads a node. In a block (`block`) it may be a block itself, and behind the sign of a key or a
value a sequence may stand at the column of the key (`indentless`). The first argument bounds how
far reading goes down in all. -/
def parseNode : Nat → Bool → Bool → Parser Node
  | 0, _, _ => failure
  | fuel + 1, block, indentless => do
    match ← peek with
    | some (.alias name) =>
      advance
      follow name
    | _ =>
      let first ← readAnchor
      let tag ← readTagOf
      let anchor ← match first with
        | some name => pure (some name)
        | none => readAnchor
      match anchor with
      | none => parseContent fuel block indentless tag tag.isSome
      | some name =>
        let followed := (← get).followed
        setAnchor name none followed
        let node ← parseContent fuel block indentless tag true
        setAnchor name (some node) followed
        return node

/-- Reads what a node consists of behind its anchor and tag. With `optional` there may be nothing
there. -/
def parseContent : Nat → Bool → Bool → Option Text → Bool → Parser Node
  | 0, _, _, _, _ => failure
  | fuel + 1, block, indentless, tag, optional => do
    let nothing : Parser Node := do
      countWritten 1
      if optional then return .scalar tag true [] else failure
    let sequence := fun (items : Parser (List Node)) => do
      countWritten 2
      return Node.sequence tag (← items)
    let mapping := fun (entries : Parser (List (Node × Node))) => do
      countWritten 2
      return Node.mapping tag (← entries)
    match ← peek with
    | some .blockEntry => if indentless then sequence (parseIndentless fuel) else nothing
    | some (.scalar plain text) =>
      advance
      countWritten 1
      return .scalar (if tag = some ['!'] then none else tag) plain text
    | some .flowSequenceStart =>
      advance
      sequence (parseFlowItems fuel true)
    | some .flowMappingStart =>
      advance
      mapping (parseFlowEntries fuel true)
    | some .blockSequenceStart =>
      if block then
        advance
        sequence (parseItems fuel)
      else nothing
    | some .blockMappingStart =>
      if block then
        advance
        mapping (parseEntries fuel)
      else nothing
    | _ => nothing

def parseItems : Nat → Parser (List Node)
  | 0 => failure
  | fuel + 1 => do
    if ← accept .blockEnd then return []
    expect .blockEntry
    let item ← if ← noNode [.blockEntry, .blockEnd] then nothingWritten
      else parseNode fuel true false
    return item :: (← parseItems fuel)

/-- Reads the members of a block sequence at the column of a key. -/
def parseIndentless : Nat → Parser (List Node)
  | 0 => failure
  | fuel + 1 => do
    if ← accept .blockEntry then
      let item ← if ← noNode [.blockEntry, .key, .value, .blockEnd] then nothingWritten
        else parseNode fuel true false
      return item :: (← parseIndentless fuel)
    else return []

def parseEntries : Nat → Parser (List (Node × Node))
  | 0 => failure
  | fuel + 1 => do
    if ← accept .blockEnd then return []
    expect .key
    let key ← if ← noNode [.key, .value, .blockEnd] then nothingWritten
      else parseNode fuel true true
    let value ← if ← accept .value then
        (if ← noNode [.key, .value, .blockEnd] then nothingWritten else parseNode fuel true true)
      else nothingWritten
    return (key, value) :: (← parseEntries fuel)

/-- Reads the members of a sequence in brackets. A member may be a mapping with a single entry. -/
def parseFlowItems : Nat → Bool → Parser (List Node)
  | 0, _ => failure
  | fuel + 1, first => do
    if ← accept .flowSequenceEnd then return []
    if !first then
      expect .flowEntry
    if ← accept .flowSequenceEnd then return []
    let item ← if ← accept .key then
        let key ← if ← noNode [.value, .flowEntry, .flowSequenceEnd] then
            advance
            nothingWritten
          else parseNode fuel false false
        let value ← if ← accept .value then
            (if ← noNode [.flowEntry, .flowSequenceEnd] then nothingWritten
              else parseNode fuel false false)
          else nothingWritten
        countWritten 2
        pure (.mapping none [(key, value)])
      else parseNode fuel false false
    return item :: (← parseFlowItems fuel false)

def parseFlowEntries : Nat → Bool → Parser (List (Node × Node))
  | 0, _ => failure
  | fuel + 1, first => do
    if ← accept .flowMappingEnd then return []
    if !first then
      expect .flowEntry
    if ← accept .flowMappingEnd then return []
    let entry ← if ← accept .key then
        let key ← if ← noNode [.value, .flowEntry, .flowMappingEnd] then nothingWritten
          else parseNode fuel false false
        let value ← if ← accept .value then
            (if ← noNode [.flowEntry, .flowMappingEnd] then nothingWritten
              else parseNode fuel false false)
          else nothingWritten
        pure (key, value)
      else do pure (← parseNode fuel false false, ← nothingWritten)
    return entry :: (← parseFlowEntries fuel false)

end

/-- Goes on behind the marks that end a document. -/
def skipEnds : List Token → List Token
  | .documentEnd :: ts => skipEnds ts
  | ts => ts

/-- Reads the directives in front of a document. No version may come twice and no handle. -/
def readDirectives :
    Bool → List (Text × Text) → List Token → Option (List (Text × Text) × List Token)
  | version, handles, .directive none :: ts =>
    if version then none else readDirectives true handles ts
  | version, handles, .directive (some (handle, pre)) :: ts =>
    if (handles.lookup handle).isSome then none
    else readDirectives version ((handle, pre) :: handles) ts
  | _, handles, ts => some (handles, ts)

/-- The handles that need no directive. -/
def standardHandles : List (Text × Text) :=
  [(['!'], ['!']), (['!', '!'], "tag:yaml.org,2002:".toList)]

/-- A document that has been read. -/
structure Document where
  root : Node
  written : Nat
  followed : Nat

/-- Whether a document can be walked through: not more than a hundred aliases are followed for each
mark that is written. -/
def Document.isWalkable (d : Document) : Bool := d.followed ≤ d.written * 100

/-- The document of a text, which must not hold more than one, or nothing if it holds none. -/
def readDocument? (t : Text) : Option (Option Document) := do
  let tokens := (← scan? t).toList
  let (handles, rest) ← readDirectives false [] tokens
  let isExplicit := rest.head? == some .documentStart
  match rest with
  | [] => if tokens.isEmpty then return none else none
  | _ =>
    if rest.length < tokens.length && !isExplicit then none
    let rest := if isExplicit then rest.drop 1 else rest
    let empty := isExplicit && match rest with
      | [] | .documentStart :: _ | .documentEnd :: _ | .directive _ :: _ => true
      | _ => false
    let root := if empty then nothingWritten else parseNode (4 * tokens.length + 8) true false
    let (node, parsing) ← root { tokens := rest, handles := handles ++ standardHandles }
    if (skipEnds parsing.tokens).isEmpty then
      return some ⟨node, parsing.written, parsing.followed⟩
    else none

end Lector.Yaml
