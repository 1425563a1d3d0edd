import Lector.Pattern.Plain.Bracket

/-!
# Reading patterns of the plain dialect

The plain dialect has no look-around and no references to groups, so that a match can be found in
time proportional to the text. A pattern is read from left to right with the groups that are still
open kept on a stack.

## Main definitions

* `Reading` - what has been read of a pattern.
* `readNode` - the meaning of a pattern.
* `compile?` - the program of a pattern, unless it nests too deep or takes too much room.
-/

namespace Lector.Pattern.Plain

/-- A part of a pattern. -/
structure Part where
  node : Node
  height : Nat := 0
  repeatable : Bool := true

/-- The sequence of parts listed from the last to the first. -/
def sequencePart (parts : List Part) : Part :=
  match parts with
  | [p] => p
  | [] => ⟨.empty, 0, false⟩
  | _ => ⟨Node.concat (parts.reverse.map Part.node),
      parts.foldl (fun h p => max h p.height) 0 + 1, true⟩

/-- The choice between parts listed from the last to the first. -/
def choicePart (parts : List Part) : Part :=
  match parts with
  | [p] => p
  | _ => ⟨Node.choice (parts.reverse.map Part.node),
      parts.foldl (fun h p => max h p.height) 0 + 1, true⟩

/-- A group that is still open. -/
structure OpenGroup where
  flags : Flags
  /-- The index and name, if the group keeps its place. -/
  keeps : Option (Nat × Option Text)
  /-- The branches before the one that the group stands in, from the last to the first. -/
  branches : List Part
  /-- The parts before it in its branch, from the last to the first. -/
  parts : List Part

/-- What has been read of a pattern. -/
structure Reading where
  flags : Flags := {}
  /-- The groups that are open, from the innermost on. -/
  opens : List OpenGroup := []
  /-- The branches read of the innermost group, from the last to the first. -/
  branches : List Part := []
  /-- The parts read of its last branch, from the last to the first. -/
  parts : List Part := []
  groups : Nat := 0
  names : List Text := []

namespace Reading

def push (r : Reading) (p : Part) : Reading := { r with parts := p :: r.parts }

/-- The choice between all branches of the innermost group. -/
def body (r : Reading) : Part := choicePart (sequencePart r.parts :: r.branches)

def openGroup (r : Reading) (flags : Flags) (keeps : Option (Nat × Option Text)) : Reading :=
  { r with
    flags := flags, branches := [], parts := [],
    opens := ⟨r.flags, keeps, r.branches, r.parts⟩ :: r.opens }

def openKeeping (r : Reading) (name : Option Text) : Reading :=
  let r := { r with groups := r.groups + 1, names := name.toList ++ r.names }
  r.openGroup r.flags (some (r.groups, name))

/-- Closes the innermost group. -/
def closeGroup? (r : Reading) : Option Reading :=
  match r.opens with
  | [] => none
  | g :: opens =>
    let inside := r.body
    let node := match g.keeps with
      | some (index, name) => .group index name inside.node
      | none => inside.node
    some { r with
      flags := g.flags, opens := opens, branches := g.branches,
      parts := ⟨node, inside.height + 1, true⟩ :: g.parts }

/-- Repeats the last part, as often as possible if `greedy`. The flag `U` turns that round. -/
def repeat? (r : Reading) (least : Nat) (most : Option Nat) (greedy : Bool) : Option Reading :=
  match r.parts with
  | p :: parts =>
    if p.repeatable then
      let node := Node.ofRepetition least most (greedy != r.flags.lazy) p.node
      some { r with parts := ⟨node, p.height + 1, true⟩ :: parts }
    else none
  | [] => none

end Reading

def dotSet (f : Flags) : CharSet :=
  if f.dotAll then CharSet.all
  else (CharSet.ofChars (if f.crlf then ['\r', '\n'] else ['\n'])).compl

/-- Reads a decimal number of at most 32 bits, with white space around it. -/
def readCount (f : Flags) (t : Text) : Option (Nat × Text) :=
  let rec digits : Option Nat → Text → Option Nat × Text
    | value?, c :: rest =>
      if c.isDigit then digits (some (value?.getD 0 * 10 + (c.toNat - '0'.toNat))) rest
      else if f.spaced && isBlank c && value?.isSome then digits value? rest
      else (value?, c :: rest)
    | value?, [] => (value?, [])
  match digits none (t.dropWhile isBlank) with
  | (some n, rest) => if n < Nat.pow 2 32 then some (n, f.skip (rest.dropWhile isBlank)) else none
  | (none, _) => none

def readBounds (f : Flags) (t : Text) : Option (Nat × Option Nat × Text) := do
  let (least, t) ← readCount f (f.skip t)
  let (most, t) ← match t with
    | ',' :: rest =>
      match f.skip rest with
      | '\x7d' :: rest' => pure (none, '\x7d' :: rest')
      | rest => do
        let (most, rest) ← readCount f rest
        pure (some most, rest)
    | _ => pure (some least, t)
  let rest ← Text.dropPrefix? ['\x7d'] t
  if most.all (least ≤ ·) then return (least, most, rest) else none

def readGreedy : Text → Bool × Text
  | '?' :: rest => (false, rest)
  | t => (true, t)

def isNameChar (first : Bool) (c : Char) : Bool :=
  if first then c = '_' || Unicode.letterChars.contains c
  else c = '_' || c = '.' || c = '[' || c = ']' || Unicode.alphanumericChars.contains c

def readName (t : Text) : Option (Text × Text) := do
  let (name, rest) ← Text.cutAt? '>' t
  match name with
  | [] => none
  | c :: cs =>
    if isNameChar true c && cs.all (isNameChar false) then return (name, rest) else none

/-- Reads letters of flags up to `:` or `)`. Each letter and the hyphen may stand there once, and
the hyphen not at the end. The result holds the flags, whether there were any letters, and the mark
that ends them. -/
def readFlags (start : Flags) : Text → Option (Flags × Bool × Bool × Text) :=
  let rec letters (f : Flags) (on : Bool) (seen : List Char) :
      Text → Option (Flags × Bool × Bool × Text)
    | [] => none
    | c :: rest =>
      if c = ':' ∨ c = ')' then
        if seen.head? = some '-' then none else some (f, !seen.isEmpty, c = ':', rest)
      else if seen.contains c then none
      else if c = '-' then letters f false (c :: seen) rest
      else do letters (← f.set? on c) on (c :: seen) rest
  letters start true []

def readGroup (r : Reading) (t : Text) : Option (Reading × Text) :=
  let named := fun rest => do
    let (name, rest) ← readName rest
    if r.names.contains name then none else return (r.openKeeping (some name), rest)
  match r.flags.skip t with
  | '?' :: '=' :: _ | '?' :: '!' :: _ | '?' :: '<' :: '=' :: _ | '?' :: '<' :: '!' :: _ => none
  | '?' :: 'P' :: '<' :: rest => named rest
  | '?' :: '<' :: rest => named rest
  | '?' :: rest => do
    let (flags, any, opens, rest) ← readFlags r.flags rest
    if opens then return (r.openGroup flags none, rest)
    else if any then return ({ r with flags := flags }.push ⟨.empty, 0, false⟩, rest)
    else none
  | rest => some (r.openKeeping none, rest)

/-- Reads one part of a pattern or one mark between parts. -/
def readPart (r : Reading) (t : Text) : Option (Reading × Text) :=
  let f := r.flags
  let repetition := fun (least : Nat) (most : Option Nat) (rest : Text) =>
    let (greedy, rest) := readGreedy rest
    (r.repeat? least most greedy).map (·, rest)
  let node := fun (n : Node) (rest : Text) => some (r.push ⟨n, 0, true⟩, rest)
  match t with
  | [] => none
  | '(' :: rest => readGroup r rest
  | ')' :: rest => r.closeGroup?.map (·, rest)
  | '|' :: rest =>
    some ({ r with branches := sequencePart r.parts :: r.branches, parts := [] }, rest)
  | '[' :: rest => do
    let (set, height, rest) ← readBracket f rest
    return (r.push ⟨.chars set, height, true⟩, rest)
  | '?' :: rest => repetition 0 (some 1) rest
  | '*' :: rest => repetition 0 none rest
  | '+' :: rest => repetition 1 none rest
  | '\x7b' :: rest => do
    let (least, most, rest) ← readBounds f rest
    repetition least most (f.skip rest)
  | '.' :: rest => if f.unicode then node (.chars (dotSet f)) rest else none
  | '^' :: rest => node (.look (if f.manyLines then .lineStart f.crlf else .textStart)) rest
  | '$' :: rest => node (.look (if f.manyLines then .lineEnd f.crlf else .textEnd)) rest
  | '\\' :: rest => do
    let (atom, rest) ← readEscape f rest
    match atom with
    | .char c => node (.chars (f.char c)) rest
    | .set s => node (.chars s) rest
    | .look l => node (.look l) rest
  | c :: rest => node (.chars (f.char c)) rest

/-- Reads a pattern part by part. Each takes at least one character, and `rounds` bounds their
number. -/
def readParts : Nat → Reading → Text → Option Reading
  | 0, r, t => if (r.flags.skip t).isEmpty then some r else none
  | rounds + 1, r, t =>
    match r.flags.skip t with
    | [] => some r
    | t => do
      let (r, rest) ← readPart r t
      readParts rounds r rest

def heightLimit : Nat := 250

def weightLimit : Nat := 10 * Nat.pow 2 20

def readNode (pattern : Text) : Option Node := do
  let r ← readParts pattern.length {} pattern
  if r.opens.isEmpty && r.body.height ≤ heightLimit then return r.body.node else none

/-- The meaning of a pattern that takes no more room than it may. -/
def compile? (pattern : Text) : Option Node := do
  let node ← readNode pattern
  if node.weight ≤ weightLimit then return node else none

end Lector.Pattern.Plain
