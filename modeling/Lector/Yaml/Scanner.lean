import Lector.Yaml.Token

/-!
# Scanning YAML

A text is cut into tokens from left to right. In a block, the columns where lines start tell which
sequences and mappings begin and end. What may turn out to be the key of a mapping is remembered
until a colon comes or it is too late for one.

## Main definitions

* `Candidate` - what may turn out to be a key.
* `Scanner` - what has been scanned.
* `scan?` - the tokens of a text.
-/

namespace Lector.Yaml

/-- What may turn out to be the key of a mapping. -/
structure Candidate where
  /-- Whether it must turn out to be a key. -/
  required : Bool
  /-- The number of tokens in front of it. -/
  tokens : Nat
  index : Nat
  line : Nat
  column : Nat

/-- What has been scanned of a text. -/
structure Scanner where
  place : Place
  tokens : Array Token := #[]
  /-- The columns of the blocks around the place, from the innermost on. -/
  indents : List Nat := []
  /-- The candidates for keys of each pair of brackets around the place, from the innermost on,
  and of the block around them. -/
  candidates : List (Option Candidate) := [none]
  keyAllowed : Bool := true

namespace Scanner

def inFlow (s : Scanner) : Bool := 1 < s.candidates.length

/-- Whether the innermost block is at a column to the left of a given one. -/
def isInside (s : Scanner) (column : Nat) : Bool :=
  match s.indents with
  | [] => true
  | indent :: _ => indent < column

def push (s : Scanner) (t : Token) : Scanner := { s with tokens := s.tokens.push t }

def goto (s : Scanner) (p : Place) : Scanner := { s with place := p }

def take (s : Scanner) (n : Nat) (t : Token) : Scanner := (s.push t).goto (s.place.skip n)

def allowKey (s : Scanner) (allowed : Bool) : Scanner := { s with keyAllowed := allowed }

/-- Drops the innermost candidate, which is an error if it must be a key. -/
def dropCandidate? (s : Scanner) : Option Scanner :=
  match s.candidates with
  | some c :: rest => if c.required then none else some { s with candidates := none :: rest }
  | _ => some s

/-- Drops the candidates that can be no keys any more: those on another line, and those too far
back. -/
def dropStale? (s : Scanner) : Option Scanner := do
  let fresh ← s.candidates.mapM fun
    | some c =>
      if c.line < s.place.line ∨ c.index + 1024 < s.place.index then
        (if c.required then none else some none)
      else some (some c)
    | none => some none
  return { s with candidates := fresh }

/-- Remembers the place as a candidate for a key. -/
def saveCandidate? (s : Scanner) : Option Scanner := do
  if !s.keyAllowed then return s
  let required := !s.inFlow && s.indents.head? == some s.place.column
  let s ← s.dropCandidate?
  let candidate := ⟨required, s.tokens.size, s.place.index, s.place.line, s.place.column⟩
  return { s with candidates := some candidate :: s.candidates.drop 1 }

/-- Opens a block at a column if it is further right than the block around it. The token of the
block is put in front of the tokens from a number on. -/
def openBlock (s : Scanner) (column before : Nat) (t : Token) : Scanner :=
  if !s.inFlow && s.isInside column then
    { s with indents := column :: s.indents, tokens := s.tokens.insertIdxIfInBounds before t }
  else s

/-- Closes the blocks further right than a column, or all blocks. -/
def closeBlocks (s : Scanner) (column : Option Nat) : Scanner :=
  if s.inFlow then s
  else
    let closed := s.indents.takeWhile fun indent => column.all (· < indent)
    { s with
      indents := s.indents.drop closed.length
      tokens := s.tokens ++ closed.map fun _ => Token.blockEnd }

end Scanner

/-- Skips white space, comments and line breaks, and a byte order mark in front of all, which takes
a column. A tab must not stand where a key may start. -/
def skipGap : Nat → Scanner → Scanner
  | 0, s => s
  | rounds + 1, s =>
    let tabs := s.inFlow || !s.keyAllowed
    let p := s.place
    let p := if p.index = 0 ∧ p.rest.head? = some '\ufeff' then p.skip 1 else p
    let p := (p.skipWhile fun c => c = ' ' || (tabs && c = '\t')).skipComment
    if p.rest.head?.any isBreak then
      skipGap rounds ((s.goto p.skipBreak.2).allowKey (s.keyAllowed || !s.inFlow))
    else s.goto p

/-- Scans a directive or the mark of a document. -/
def scanOutside? (s : Scanner) (scan : Scanner → Option Scanner) : Option Scanner := do
  let s ← (s.closeBlocks none).dropCandidate?
  scan (s.allowKey false)

def scanOpening? (s : Scanner) (t : Token) : Option Scanner := do
  let s ← s.saveCandidate?
  return ({ s with candidates := none :: s.candidates }.allowKey true).take 1 t

def scanClosing? (s : Scanner) (t : Token) : Option Scanner := do
  let s ← s.dropCandidate?
  let candidates := if s.inFlow then s.candidates.drop 1 else s.candidates
  return ({ s with candidates := candidates }.allowKey false).take 1 t

/-- Scans the sign of an entry or key in a block. -/
def scanSign? (s : Scanner) (block sign : Token) (allowed : Bool) : Option Scanner := do
  if !s.inFlow && !s.keyAllowed then none
  let s ← (s.openBlock s.place.column s.tokens.size block).dropCandidate?
  return (s.allowKey allowed).take 1 sign

def scanValue? (s : Scanner) : Option Scanner := do
  match s.candidates with
  | some c :: rest =>
    let s := { s with tokens := s.tokens.insertIdxIfInBounds c.tokens Token.key }
    let s := s.openBlock c.column c.tokens .blockMappingStart
    return ({ s with candidates := none :: rest }.allowKey false).take 1 .value
  | _ =>
    if !s.inFlow && !s.keyAllowed then none
    let s := s.openBlock s.place.column s.tokens.size .blockMappingStart
    return (s.allowKey (!s.inFlow)).take 1 .value

/-- Scans a token that may start a key: an anchor, an alias, a tag or a scalar. -/
def scanContent? (s : Scanner) (scan : Place → Option (Token × Place)) : Option Scanner := do
  let s ← s.saveCandidate?
  let (t, p) ← scan s.place
  return ((s.push t).goto p).allowKey false

/-- Whether a plain scalar may start with the characters of a text. -/
def startsPlain (inFlow : Bool) (t : Text) : Bool :=
  match t with
  | [] => false
  | c :: rest =>
    !(endsWord t || "-?:,[]\x7b\x7d#&*!|>'\"%@`".toList.contains c) ||
      (c = '-' && !(rest.head?.any isSpace)) ||
      (!inFlow && (c = '?' || c = ':') && !endsWord rest)

/-- Scans the next token behind white space; the text goes on. -/
def scanToken? (s : Scanner) : Option Scanner :=
  let p := s.place
  let rest := p.rest.drop 1
  let scalar := fun plain (r : Option (Text × Place)) =>
    r.map fun (t, p) => (Token.scalar plain t, p)
  match p.rest.head? with
  | none => none
  | some c =>
    if p.column = 0 ∧ c = '%' then
      scanOutside? s fun s => (readDirective (p.skip 1)).map fun (t, p) => (s.push t).goto p
    else if p.column = 0 ∧ p.isMark '-' then
      scanOutside? s fun s => some (s.take 3 .documentStart)
    else if p.column = 0 ∧ p.isMark '.' then
      scanOutside? s fun s => some (s.take 3 .documentEnd)
    else if c = '[' then scanOpening? s .flowSequenceStart
    else if c = '\x7b' then scanOpening? s .flowMappingStart
    else if c = ']' then scanClosing? s .flowSequenceEnd
    else if c = '\x7d' then scanClosing? s .flowMappingEnd
    else if c = ',' then do return ((← s.dropCandidate?).allowKey true).take 1 .flowEntry
    else if c = '-' ∧ endsWord rest then scanSign? s .blockSequenceStart .blockEntry true
    else if c = '?' ∧ (s.inFlow ∨ endsWord rest) then
      scanSign? s .blockMappingStart .key (!s.inFlow)
    else if c = ':' ∧ (s.inFlow ∨ endsWord rest) then scanValue? s
    else if c = '*' then
      scanContent? s fun p => (readName (p.skip 1)).map fun (name, p) => (.alias name, p)
    else if c = '&' then
      scanContent? s fun p => (readName (p.skip 1)).map fun (name, p) => (.anchor name, p)
    else if c = '!' then scanContent? s (readTag s.inFlow)
    else if (c = '|' ∨ c = '>') ∧ !s.inFlow then do
      let s ← s.dropCandidate?
      let (t, p) ← readBlock (c = '|') s.indents.head? (s.place.skip 1)
      return ((s.push (.scalar false t)).goto p).allowKey true
    else if c = '\'' then scanContent? s fun p => scalar false (readQuoted true (p.skip 1))
    else if c = '"' then scanContent? s fun p => scalar false (readQuoted false (p.skip 1))
    else if startsPlain s.inFlow p.rest then do
      let s ← s.saveCandidate?
      let indent := match s.indents with
        | [] => 0
        | column :: _ => column + 1
      let (t, broken, p) ← readPlain s.inFlow indent s.place
      return ((s.push (.scalar true t)).goto p).allowKey broken
    else none

/-- Scans tokens up to the end of the text. Each takes at least one character. -/
def scanTokens : Nat → Scanner → Option (Array Token)
  | 0, _ => none
  | rounds + 1, s => do
    let s ← (skipGap (s.place.rest.length + 1) s).dropStale?
    let s := s.closeBlocks (some s.place.column)
    if s.place.rest.isEmpty then return (← (s.closeBlocks none).dropCandidate?).tokens
    scanTokens rounds (← scanToken? s)

def isAllowed (c : Char) : Bool :=
  let n := c.toNat
  n == 9 || n == 0xA || n == 0xD || (0x20 ≤ n && n ≤ 0x7E) || n == 0x85 ||
    (0xA0 ≤ n && n ≤ 0xD7FF) || (0xE000 ≤ n && n ≤ 0xFFFD) || 0x10000 ≤ n

def scan? (t : Text) : Option (Array Token) :=
  if t.all isAllowed then scanTokens (t.length + 2) { place := { rest := t } } else none

end Lector.Yaml
