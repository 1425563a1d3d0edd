import Lector.Pattern.Extended.Tree
import Lector.Pattern.Plain.Escape
import Lector.Text.Digits

/-!
# Reading escapes and classes of the extended dialect

The parts of a pattern below its groups: what may stand between two parts, names, numbers, escapes
and classes in brackets. Reading keeps track of the groups seen and of the references to them.

## Main definitions

* `Scope` - what is known at a place of a pattern.
* `Reader` - a reading step, which may fail.
* `skip` - skips what does not count.
* `readEscape`, `readClass` - the larger parts.
-/

namespace Lector.Pattern.Extended

/-- What is known at a place of a pattern. -/
structure Scope where
  /-- Characters match whatever their case (`i`). -/
  anyCase : Bool := false
  /-- The marks for start and end hold at each line (`m`). -/
  manyLines : Bool := false
  /-- The dot matches line feeds too (`s`). -/
  dotAll : Bool := false
  /-- Repetitions are lazy unless marked otherwise (`U`). -/
  lazy : Bool := false
  /-- Spaces and comments do not count (`x`). -/
  spaced : Bool := false
  groups : Nat := 0
  /-- The names of groups, the latest first. -/
  names : List (Text × Nat) := []
  referred : List Nat := []
  /-- Whether a group has been referred to by a bare number. -/
  numbered : Bool := false
  /-- A bound on the numbers of groups. -/
  limit : Nat := 0
  named : ∀ p ∈ names, p.2 ≤ groups := by decide

/-- Opens a group that keeps its place, perhaps under a name. -/
def Scope.openGroup (s : Scope) (name : Option Text) : Scope :=
  { s with
    groups := s.groups + 1
    names := name.toList.map (·, s.groups + 1) ++ s.names
    named := by
      intro p hp
      rcases List.mem_append.mp hp with hnew | hold
      · obtain ⟨_, -, rfl⟩ := List.mem_map.mp hnew
        exact Nat.le_refl _
      · exact Nat.le_succ_of_le (s.named p hold) }

/-- A reading step. -/
abbrev Reader := StateT Scope Option

/-- The kinds of text that may be skipped. -/
inductive Skipped
  | space
  | line
  | parens

/-- Skips comments in parentheses and, if `spaced`, white space and comments to the end of a line. A
comment in parentheses must be closed. -/
def skipText (spaced : Bool) : Skipped → Text → Option Text
  | .space, '(' :: '?' :: '#' :: t => skipText spaced .parens t
  | .space, c :: t =>
    if spaced && c = '#' then skipText spaced .line t
    else if spaced && (c = ' ' || c = '\r' || c = '\n' || c = '\t') then
      skipText spaced .space t
    else some (c :: t)
  | .line, c :: t => skipText spaced (if c = '\n' then .space else .line) t
  | .parens, ')' :: t => skipText spaced .space t
  | .parens, '\\' :: _ :: t => skipText spaced .parens t
  | .parens, _ :: t => skipText spaced .parens t
  | .space, [] | .line, [] => some []
  | .parens, [] => none

def skip (t : Text) : Reader Text := do
  let scope ← get
  skipText scope.spaced .space t

/-- Reads a decimal number of at most 64 bits, if there is one. -/
def readNumber? (t : Text) : Option (Nat × Text) := do
  let n ← Text.readDigits? (t.takeWhile Char.isDigit)
  if n < Nat.pow 2 64 then return (n, t.dropWhile Char.isDigit) else none

def isIdChar (c : Char) : Bool := c = '_' || Unicode.alphanumericChars.contains c

/-- Reads a name between two marks. A hyphen may come before the name if `signed`. -/
def readId? (before after : Text) (signed : Bool) (t : Text) : Option (Text × Text) := do
  let t ← Text.dropPrefix? before t
  let (sign, t) : Text × Text := match t with
    | '-' :: rest => if signed then (['-'], rest) else ([], t)
    | _ => ([], t)
  let rest ← Text.dropPrefix? after (t.dropWhile isIdChar)
  match t.takeWhile isIdChar with
  | [] => none
  | name => return (sign ++ name, rest)

/-- A reference to a group, which must have been opened before. Group 0, the whole match, is open
from the start on. -/
def referTo (group : Nat) : Reader Tree := do
  let scope ← get
  if scope.groups < group then failure
  set { scope with referred := group :: scope.referred }
  return .sameAs group

def readNumbered (t : Text) : Reader (Tree × Text) := do
  let some (group, rest) := readNumber? t | failure
  let scope ← get
  if scope.limit ≤ group then failure
  set { scope with numbered := true }
  return (← referTo group, rest)

/-- Reads a reference by a name or a number between two marks. With a sign the number counts back
from the last group opened. -/
def readNamed (before after : Text) (signed : Bool) (t : Text) : Reader (Tree × Text) := do
  let some (name, rest) := readId? before after signed t | failure
  let scope ← get
  match scope.names.lookup name with
  | some group => return (← referTo group, rest)
  | none =>
    match name with
    | '-' :: digits =>
      let some (back, []) := readNumber? digits | failure
      if scope.groups + 1 < back then failure
      return (← referTo (scope.groups + 1 - back), rest)
    | _ =>
      let some (group, []) := readNumber? name | failure
      return (← referTo group, rest)

/-- Reads the code of a character behind `\x`, `\u` or `\U`, whose fixed form has `digits`
digits. -/
def readHex (digits : Nat) (t : Text) : Option (Char × Text) := do
  let isHex := fun c : Char => (CharSet.hexDigit? c).isSome
  let value := fun ds : Text => ds.foldl (fun n c => n * 16 + (CharSet.hexDigit? c).getD 0) 0
  let fixed := t.take digits
  if fixed.length = digits && fixed.all isHex then
    return (← Plain.charWithCode? (value fixed), t.drop digits)
  else
    let t ← Text.dropPrefix? ['\x7b'] t
    let ds := t.takeWhile isHex
    let rest ← Text.dropPrefix? ['\x7d'] (t.dropWhile isHex)
    if ds.isEmpty || 8 < ds.length then none
    else return (← Plain.charWithCode? (value ds), rest)

def controlChar? : Char → Option Char
  | 'a' => some '\x07'
  | 'b' => some '\x08'
  | 'f' => some '\x0C'
  | 'n' => some '\n'
  | 'r' => some '\r'
  | 't' => some '\t'
  | 'v' => some '\x0B'
  | 'e' => some '\x1B'
  | _ => none

/-- Reads the name of a word edge in braces, if there is a brace. -/
def readEdge (t : Text) : Option (Edge × Text) :=
  let named := fun (name : String) (edge : Edge) =>
    (Text.dropPrefix? name.toList t).map fun rest => (edge, rest)
  if t.head? = some '\x7b' then
    named "\x7bstart\x7d" .start <|> named "\x7bend\x7d" .stop <|>
      named "\x7bstart-half\x7d" .startHalf <|> named "\x7bend-half\x7d" .stopHalf
  else some (.either, t)

/-- Reads what follows a backslash, inside brackets or outside. -/
def readEscape (inside : Bool) (t : Text) : Reader (Tree × Text) := do
  let c :: rest := t | failure
  let scope ← get
  let word := fun (edge : Edge) => Tree.look (.word edge false)
  let hex := fun digits => do
    let some (c, rest) := readHex digits rest | failure
    return (Tree.literal c scope.anyCase, rest)
  if c.isDigit then readNumbered t
  else if c = 'k' && !inside then
    if rest.head? = some '\'' then readNamed ['\''] ['\''] true rest
    else readNamed ['<'] ['>'] true rest
  else if c = 'A' && !inside then return (.look .textStart, rest)
  else if c = 'z' && !inside then return (.look .textEnd, rest)
  else if c = 'b' && !inside then
    let some (edge, rest) := readEdge rest | failure
    return (word edge, rest)
  else if c = 'B' && !inside then return (word .neither, rest)
  else if c = '<' && !inside then return (word .start, rest)
  else if c = '>' && !inside then return (word .stop, rest)
  else if "dswDSW".toList.contains c then return (.set ['\\', c] scope.anyCase, rest)
  else if c = 'h' then
    return (.set (if inside then "0-9A-Fa-f" else "[0-9A-Fa-f]").toList false, rest)
  else if c = 'H' then return (.set "[^0-9A-Fa-f]".toList false, rest)
  else if c = 'x' then hex 2
  else if c = 'u' then hex 4
  else if c = 'U' then hex 8
  else if (c = 'p' || c = 'P') && !rest.isEmpty then
    match rest with
    | '\x7b' :: inner =>
      let some (name, rest) := Text.cutAt? '\x7d' inner | failure
      return (.set ('\\' :: c :: '\x7b' :: name ++ ['\x7d']) scope.anyCase, rest)
    | _ => return (.set ('\\' :: c :: rest.take 1) scope.anyCase, rest.drop 1)
  else if c = 'K' && !inside then return (.keepOut, rest)
  else if c = 'G' && !inside then return (.searchStart, rest)
  else
    match controlChar? c with
    | some control => return (.literal control false, rest)
    | none =>
      if c.isAlpha && !"kAzBKG".toList.contains c then failure
      else return (.literal c false, rest)

/-- Reads the rest of a class in brackets, in front of which `source` has been read from its end
on, with `depth` brackets open. The result is the class in the plain dialect. Each round takes at
least one character, and the first argument bounds their number. -/
def readClassRest : Nat → Nat → Text → Text → Reader (Text × Text)
  | 0, _, _, _ => failure
  | rounds + 1, depth, source, t => do
    match ← skip t with
    | [] => failure
    | '\\' :: rest =>
      let (tree, rest) ← readEscape true rest
      match tree with
      | .literal c _ =>
        let quoted := if Plain.metaChars.contains c then [c, '\\'] else [c]
        readClassRest rounds depth (quoted ++ source) rest
      | .set inner _ => readClassRest rounds depth (inner.reverse ++ source) rest
      | _ => failure
    | '[' :: rest => readClassRest rounds (depth + 1) ('[' :: source) rest
    | ']' :: rest =>
      if depth = 1 then return ((']' :: source).reverse, rest)
      else readClassRest rounds (depth - 1) (']' :: source) rest
    | c :: rest => readClassRest rounds depth (c :: source) rest

def readClass (t : Text) : Reader (Tree × Text) := do
  let scope ← get
  let (source, rest) : Text × Text := match t with
    | '^' :: rest => (['^', '['], rest)
    | _ => (['['], t)
  let (source, rest) : Text × Text := match rest with
    | ']' :: rest => (']' :: source, rest)
    | _ => (source, rest)
  let (source, rest) ← readClassRest (rest.length + 1) 1 source rest
  return (.set source scope.anyCase, rest)

/-- The upper bound that says that there is none. -/
def noBound : Nat := Nat.pow 2 64 - 1

def readBounds (t : Text) : Reader (Nat × Option Nat × Text) := do
  let t ← skip t
  let (least, t) ← match t with
    | ',' :: _ => pure (0, t)
    | _ => readNumber? t
  let t ← skip t
  let (most, t) ← match t with
    | ',' :: rest => do
      let t ← skip rest
      match readNumber? t with
      | some (most, rest) => pure (some most, rest)
      | none => pure (none, t)
    | _ => pure (some least, t)
  let some rest := Text.dropPrefix? ['\x7d'] (← skip t) | failure
  return (least, most.filter (· ≠ noBound), rest)

end Lector.Pattern.Extended
