import Lector.Pattern.Extended.Reading
import Lector.Pattern.Node

/-!
# Reading patterns of the extended dialect

A pattern is a choice of branches, a branch a sequence of pieces, and a piece an atom with perhaps a
repetition behind it. Groups nest, at most `depthLimit` deep.

## Main definitions

* `readChoice` - reads the branches of a group or a whole pattern.
* `Source` - a pattern that has been read.
* `readPattern?` - reads a pattern.
-/

namespace Lector.Pattern.Extended

def depthLimit : Nat := 64

def closeGroup (t : Text) : Reader Text := do
  match ← skip t with
  | ')' :: rest => return rest
  | _ => failure

/-- Reads a letter of flags, which turns a flag on or off. -/
def setFlag (on : Bool) : Char → Reader Unit
  | 'i' => modify fun s => { s with anyCase := on }
  | 'm' => modify fun s => { s with manyLines := on }
  | 's' => modify fun s => { s with dotAll := on }
  | 'U' => modify fun s => { s with lazy := on }
  | 'x' => modify fun s => { s with spaced := on }
  | 'u' => if on then pure () else failure
  | _ => failure

/-- Reads letters of flags up to `:` or `)`. The result tells which of the marks came, and what
follows it. -/
def readFlags : Nat → Bool → Nat → Text → Reader (Bool × Text)
  | 0, _, _, _ => failure
  | rounds + 1, on, count, t => do
    match ← skip t with
    | '-' :: rest => if on then readFlags rounds false (count + 1) rest else failure
    | ')' :: rest =>
      if count = 0 ∨ (!on ∧ count = 1) then failure else return (false, rest)
    | ':' :: rest => if !on ∧ count = 1 then failure else return (true, rest)
    | c :: rest => do
      setFlag on c
      readFlags rounds on (count + 1) rest
    | [] => failure

def sequence (pieces : List Tree) : Tree :=
  match pieces.filter (!·.isEmpty) with
  | [] => .empty
  | [t] => t
  | ts => .seq ts

/-- The second part of a conditional pattern split into what holds for each outcome. -/
def splitBranches : Tree → Tree × Tree
  | .alt [yes, no] => (yes, no)
  | .alt (yes :: no) => (yes, .alt no)
  | t => (t, .empty)

/-- The kinds of groups by what stands behind the parenthesis. -/
inductive GroupKind
  | around (ahead negated : Bool)
  | keeping (name : Option Text)
  | atomic
  | reference
  | conditional
  | flags

/-- Reads what tells the kind of a group. -/
def readGroupKind (t : Text) : Option (GroupKind × Text) :=
  let named := fun rest => do
    let (name, rest) ← readId? ['<'] ['>'] false rest
    return (GroupKind.keeping (some name), rest)
  match t with
  | '?' :: '=' :: rest => some (.around true false, rest)
  | '?' :: '!' :: rest => some (.around true true, rest)
  | '?' :: '<' :: '=' :: rest => some (.around false false, rest)
  | '?' :: '<' :: '!' :: rest => some (.around false true, rest)
  | '?' :: '<' :: rest => named ('<' :: rest)
  | '?' :: 'P' :: '<' :: rest => named ('<' :: rest)
  | '?' :: 'P' :: '=' :: rest => some (.reference, rest)
  | '?' :: '>' :: rest => some (.atomic, rest)
  | '?' :: '(' :: rest => some (.conditional, rest)
  | '?' :: rest => some (.flags, rest)
  | _ => some (.keeping none, t)

/-- Counts a group that keeps its place, and returns its index. -/
def countGroup (name : Option Text) : Reader Nat := do
  modify (·.openGroup name)
  return (← get).groups

/-- Reads the mark of a repetition and what modifies it behind an atom, if there is one. -/
def readRepetition (atom : Tree) (t : Text) : Reader (Tree × Text) := do
  let t ← skip t
  let scope ← get
  let bounds : Option (Nat × Option Nat × Text) := match t with
    | '?' :: rest => some (0, some 1, rest)
    | '*' :: rest => some (0, none, rest)
    | '+' :: rest => some (1, none, rest)
    | '\x7b' :: rest => (readBounds rest scope).map Prod.fst
    | _ => none
  match bounds with
  | none => return (atom, t)
  | some (least, most, rest) =>
    if !atom.isRepeatable then failure
    let rest ← skip rest
    let (greedy, rest) : Bool × Text := match rest with
      | '?' :: rest => (false, rest)
      | _ => (true, rest)
    let tree := Tree.repeated least most (greedy != scope.lazy) atom
    match rest with
    | '+' :: rest => return (.atomic tree, rest)
    | _ => return (tree, rest)

mutual

/-- Reads the branches of a group at a depth. The first argument bounds how far reading goes down
in all. -/
def readChoice : Nat → Nat → Text → Reader (Tree × Text)
  | 0, _, _ => failure
  | fuel + 1, depth, t => do
    let (branch, t) ← readBranch fuel depth t
    match ← skip t with
    | '|' :: rest =>
      let (branches, t) ← readBranches fuel depth rest
      return (.alt (branch :: branches), t)
    | t =>
      let scope ← get
      if scope.numbered && !scope.names.isEmpty then failure
      return (branch, t)

def readBranches : Nat → Nat → Text → Reader (List Tree × Text)
  | 0, _, _ => failure
  | fuel + 1, depth, t => do
    let (branch, t) ← readBranch fuel depth t
    match ← skip t with
    | '|' :: rest =>
      let (branches, t) ← readBranches fuel depth rest
      return (branch :: branches, t)
    | t => return ([branch], t)

def readBranch : Nat → Nat → Text → Reader (Tree × Text)
  | 0, _, _ => failure
  | fuel + 1, depth, t => do
    let (pieces, t) ← readPieces fuel depth t
    return (sequence pieces, t)

def readPieces : Nat → Nat → Text → Reader (List Tree × Text)
  | 0, _, _ => failure
  | _ + 1, _, [] => return ([], [])
  | fuel + 1, depth, t => do
    let (atom, rest) ← readAtom fuel depth t
    let (piece, rest) ← readRepetition atom rest
    if rest.length = t.length then return ([], t)
    let (pieces, rest) ← readPieces fuel depth rest
    return (piece :: pieces, rest)

def readAtom : Nat → Nat → Text → Reader (Tree × Text)
  | 0, _, _ => failure
  | fuel + 1, depth, t => do
    let t ← skip t
    let scope ← get
    match t with
    | [] => return (.empty, [])
    | '.' :: rest => return (.any scope.dotAll, rest)
    | '^' :: rest =>
      return (.look (if scope.manyLines then .lineStart false else .textStart), rest)
    | '$' :: rest =>
      return (.look (if scope.manyLines then .lineEnd false else .textEnd), rest)
    | '(' :: rest => readGroup fuel depth rest
    | '\\' :: rest => readEscape false rest
    | '[' :: rest => readClass rest
    | c :: rest =>
      if "+*?|)".toList.contains c then return (.empty, t)
      else return (.literal c scope.anyCase, rest)

/-- Reads a group behind its parenthesis. -/
def readGroup : Nat → Nat → Text → Reader (Tree × Text)
  | 0, _, _ => failure
  | fuel + 1, depth, t => do
    let depth := depth + 1
    if depthLimit ≤ depth then failure
    let some (kind, t) := readGroupKind (← skip t) | failure
    match kind with
    | .around ahead negated =>
      let (body, t) ← readChoice fuel depth t
      return (.around ahead negated body, ← closeGroup t)
    | .keeping name =>
      let index ← countGroup name
      let (body, t) ← readChoice fuel depth t
      return (.group index body, ← closeGroup t)
    | .atomic =>
      let (body, t) ← readChoice fuel depth t
      return (.atomic body, ← closeGroup t)
    | .reference => readNamed [] [')'] false t
    | .conditional => readConditional fuel depth t
    | .flags =>
      let outer ← get
      let (opens, t) ← readFlags (t.length + 1) true 0 t
      if opens then
        let (body, t) ← readChoice fuel depth t
        let some t := Text.dropPrefix? [')'] t | failure
        modify fun s => { s with
          anyCase := outer.anyCase, manyLines := outer.manyLines, dotAll := outer.dotAll,
          lazy := outer.lazy, spaced := outer.spaced }
        return (body, t)
      else return (.empty, t)

/-- Reads a conditional pattern from its condition on. -/
def readConditional : Nat → Nat → Text → Reader (Tree × Text)
  | 0, _, _ => failure
  | fuel + 1, depth, t => do
    let (condition, t) ← match t with
      | [] => failure
      | '\'' :: _ => readNamed ['\''] ['\''] true t
      | '<' :: _ => readNamed ['<'] ['>'] true t
      | c :: _ => if c.isDigit then readNumbered t else readChoice fuel depth t
    let inner ← closeGroup t
    let (body, t) ← readChoice fuel depth inner
    let rest ← closeGroup t
    let condition : Tree := match condition with
      | .sameAs group => .ifGroup group
      | _ => condition
    if t.length = inner.length then
      match condition with
      | .ifGroup _ => return (condition, rest)
      | _ => failure
    let (yes, no) := splitBranches body
    if yes.isEmpty && no.isEmpty then return (condition, rest)
    else return (.conditional condition yes no, rest)

end

/-- A pattern that has been read. -/
structure Source where
  tree : Tree
  /-- The groups that it refers to. -/
  referred : List Nat
  /-- The names of its groups, the latest first. -/
  names : List (Text × Nat)
  groups : Nat
  named : ∀ p ∈ names, p.2 ≤ groups

def readPattern? (pattern : Text) : Option Source := do
  let bytes := (pattern.map fun c => Node.utf8Length c.toNat).foldl (· + ·) 0
  let scope : Scope := { limit := bytes / 2 }
  let ((tree, rest), scope) ← readChoice (8 * (pattern.length + 2)) 0 pattern scope
  if rest.isEmpty then return ⟨tree, scope.referred, scope.names, scope.groups, scope.named⟩
  else none

end Lector.Pattern.Extended
