import Lector.Text.CharSet

/-!
# Tokens of YAML

The tokens that a YAML text is made of, and the pieces of text that tokens carry: names, tags and
scalars in their five styles. Reading a piece starts at a place of the text and ends at a later one.

## Main definitions

* `Token` - the tokens.
* `Place` - a place of a text with its line and column.
* `readQuoted`, `readPlain`, `readBlock` - the scalars.
* `readName`, `readTag`, `readDirective` - the other pieces.
-/

namespace Lector.Yaml

/-- A token of YAML. -/
inductive Token
  | blockSequenceStart
  | blockMappingStart
  | blockEnd
  | flowSequenceStart
  | flowSequenceEnd
  | flowMappingStart
  | flowMappingEnd
  | blockEntry
  | flowEntry
  | key
  | value
  | alias (name : Text)
  | anchor (name : Text)
  | tag (handle suffix : Text)
  | scalar (plain : Bool) (text : Text)
  | documentStart
  | documentEnd
  /-- A directive; the prefix of a tag handle if it defines one. -/
  | directive (handle : Option (Text × Text))
  deriving DecidableEq, Repr, Inhabited

/-- A place of a text. -/
structure Place where
  rest : Text
  /-- The number of characters before. -/
  index : Nat := 0
  line : Nat := 0
  /-- The number of characters before in the line. -/
  column : Nat := 0

def isBreak (c : Char) : Bool :=
  c = '\n' || c = '\r' || c = '\u0085' || c = '\u2028' || c = '\u2029'

def isSpace (c : Char) : Bool := c = ' ' || c = '\t'

/-- Whether there is nothing, white space or the end of a line at the start of a text. -/
def endsWord (t : Text) : Bool :=
  match t with
  | [] => true
  | c :: _ => isSpace c || isBreak c

def endsLine (t : Text) : Bool :=
  match t with
  | [] => true
  | c :: _ => isBreak c

def isNameChar (c : Char) : Bool := c.isAlphanum || c = '-' || c = '_'

namespace Place

def skip (p : Place) (n : Nat) : Place :=
  { p with rest := p.rest.drop n, index := p.index + n, column := p.column + n }

def skipWhile (p : Place) (keep : Char → Bool) : Place := p.skip (p.rest.takeWhile keep).length

/-- The place behind the break of a line, and the break in its usual form. -/
def skipBreak (p : Place) : Text × Place :=
  match p.rest with
  | '\r' :: '\n' :: rest => (['\n'], ⟨rest, p.index + 2, p.line + 1, 0⟩)
  | c :: rest =>
    (if c = '\u2028' ∨ c = '\u2029' then [c] else ['\n'], ⟨rest, p.index + 1, p.line + 1, 0⟩)
  | [] => ([], p)

/-- The place behind a comment, if one starts here. -/
def skipComment (p : Place) : Place :=
  if p.rest.head? = some '#' then p.skipWhile (!isBreak ·) else p

/-- Whether the text goes on with three marks and the end of a word. -/
def isMark (p : Place) (c : Char) : Bool :=
  p.rest.take 3 == [c, c, c] && endsWord (p.rest.drop 3)

def isDocumentMark (p : Place) : Bool := p.column == 0 && (p.isMark '-' || p.isMark '.')

end Place

/-- The white space and line breaks between two words of a scalar. -/
structure Gap where
  /-- The white space before the first line break. -/
  spaces : Text := []
  first : Text := []
  /-- The line breaks after it. -/
  more : Text := []
  broken : Bool := false

/-- What a gap stands for: its white space, or else its line breaks, of which the first becomes a
space if it is alone and goes if it is not. -/
def Gap.fold (g : Gap) : Text :=
  if !g.broken then g.spaces
  else if g.first = ['\n'] then (if g.more.isEmpty then [' '] else g.more)
  else g.first ++ g.more

/-- Reads white space and line breaks into a gap. With an indent, a tab before it on a new line is
an error. Each round takes at least one character. -/
def readGap (indent : Option Nat) : Nat → Gap → Place → Option (Gap × Place)
  | 0, g, p => some (g, p)
  | rounds + 1, g, p =>
    match p.rest with
    | [] => some (g, p)
    | c :: _ =>
      if isSpace c then
        if g.broken then
          if c = '\t' ∧ indent.any (p.column < ·) then none
          else readGap indent rounds g (p.skip 1)
        else readGap indent rounds { g with spaces := g.spaces ++ [c] } (p.skip 1)
      else if isBreak c then
        let (text, p) := p.skipBreak
        let g := if g.broken then { g with more := g.more ++ text }
          else { g with first := text, broken := true }
        readGap indent rounds g p
      else some (g, p)

def readCode (digits : Nat) (t : Text) : Option Char := do
  let ds := t.take digits
  if ds.length < digits then none
  let n ← ds.foldlM (fun n c => return n * 16 + (← CharSet.hexDigit? c)) 0
  if n.isValidChar then return Char.ofNat n else none

/-- Reads an escape behind its backslash: the character, and how many characters it takes. -/
def readEscape (t : Text) : Option (Char × Nat) :=
  match t with
  | [] => none
  | c :: t =>
    match c with
    | '0' => some (Char.ofNat 0, 1)
    | 'a' => some ('\x07', 1)
    | 'b' => some ('\x08', 1)
    | 't' | '\t' => some ('\t', 1)
    | 'n' => some ('\n', 1)
    | 'v' => some ('\x0B', 1)
    | 'f' => some ('\x0C', 1)
    | 'r' => some ('\r', 1)
    | 'e' => some ('\x1B', 1)
    | ' ' | '"' | '/' | '\\' => some (c, 1)
    | 'N' => some ('\u0085', 1)
    | '_' => some ('\u00A0', 1)
    | 'L' => some ('\u2028', 1)
    | 'P' => some ('\u2029', 1)
    | 'x' => (readCode 2 t).map (·, 3)
    | 'u' => (readCode 4 t).map (·, 5)
    | 'U' => (readCode 8 t).map (·, 9)
    | _ => none

/-- Reads the words of a scalar in quotes up to white space or its closing quote. The flag of the
result tells whether a backslash at the end of a line came last. -/
def readQuotedWord (single : Bool) : Nat → Text → Place → Option (Text × Bool × Place)
  | 0, _, _ => none
  | rounds + 1, done, p =>
    match p.rest with
    | [] => some (done.reverse, false, p)
    | c :: rest =>
      if isSpace c || isBreak c then some (done.reverse, false, p)
      else if single then
        if c = '\'' then
          if rest.head? = some '\'' then readQuotedWord single rounds ('\'' :: done) (p.skip 2)
          else some (done.reverse, false, p)
        else readQuotedWord single rounds (c :: done) (p.skip 1)
      else if c = '"' then some (done.reverse, false, p)
      else if c = '\\' then
        if rest.head?.any isBreak then some (done.reverse, true, (p.skip 1).skipBreak.2)
        else do
          let (escaped, n) ← readEscape rest
          readQuotedWord single rounds (escaped :: done) (p.skip (n + 1))
      else readQuotedWord single rounds (c :: done) (p.skip 1)

/-- Reads the rest of a scalar in quotes, whose text so far is given. -/
def readQuotedRest (single : Bool) : Nat → Text → Place → Option (Text × Place)
  | 0, _, _ => none
  | rounds + 1, done, p => do
    if p.isDocumentMark then none
    if p.rest.isEmpty then none
    let (word, joined, p) ← readQuotedWord single (p.rest.length + 1) [] p
    if !joined && p.rest.head? = some (if single then '\'' else '"') then
      return (done ++ word, p.skip 1)
    let (gap, p) ← readGap none p.rest.length { broken := joined } p
    readQuotedRest single rounds (done ++ word ++ gap.fold) p

def readQuoted (single : Bool) (p : Place) : Option (Text × Place) :=
  readQuotedRest single (p.rest.length + 1) [] p

/-- Reads a word of a plain scalar. In brackets a colon must not stand before a bracket or comma. -/
def readPlainWord (inFlow : Bool) : Text → Option Text
  | [] => some []
  | c :: t =>
    if isSpace c || isBreak c then some []
    else if c = ':' && inFlow && t.head?.any ",?[]\x7b\x7d".toList.contains then none
    else if c = ':' && endsWord t then some []
    else if inFlow && ",[]\x7b\x7d".toList.contains c then some []
    else (readPlainWord inFlow t).map (c :: ·)

/-- Reads the rest of a plain scalar, whose text so far and the gap behind it are given. The flag of
the result tells whether a line break came last. -/
def readPlainRest (inFlow : Bool) (indent : Nat) :
    Nat → Text → Gap → Place → Option (Text × Bool × Place)
  | 0, _, _, _ => none
  | rounds + 1, done, gap, p => do
    if p.isDocumentMark || p.rest.head? = some '#' then return (done, gap.broken, p)
    let word ← readPlainWord inFlow p.rest
    let p := p.skip word.length
    let (done, gap) := if word.isEmpty then (done, gap) else (done ++ gap.fold ++ word, {})
    if !(p.rest.head?.any fun c => isSpace c || isBreak c) then return (done, gap.broken, p)
    let (gap, p) ← readGap (some indent) p.rest.length gap p
    if !inFlow && p.column < indent then return (done, gap.broken, p)
    readPlainRest inFlow indent rounds done gap p

/-- Reads a plain scalar that is to stand at a column from `indent` on. -/
def readPlain (inFlow : Bool) (indent : Nat) (p : Place) : Option (Text × Bool × Place) :=
  readPlainRest inFlow indent (p.rest.length + 1) [] {} p

/-- What becomes of the line breaks at the end of a block scalar. -/
inductive Chomping
  | strip
  | clip
  | keep
  deriving DecidableEq

/-- Reads the marks behind the sign of a block scalar: chomping, and the number of columns of its
indentation if it is given. -/
def readBlockMarks (p : Place) : Option (Chomping × Nat × Place) :=
  let chomping := fun p : Place =>
    match p.rest.head? with
    | some '+' => (some Chomping.keep, p.skip 1)
    | some '-' => (some Chomping.strip, p.skip 1)
    | _ => (none, p)
  let columns := fun p : Place =>
    match p.rest.head? with
    | some c =>
      if c = '0' then none
      else if c.isDigit then some (c.toNat - '0'.toNat, p.skip 1)
      else some (0, p)
    | none => some (0, p)
  match chomping p with
  | (some mark, p) => do
    let (n, p) ← columns p
    return (mark, n, p)
  | (none, p) => do
    let (n, p) ← columns p
    if n = 0 then return (.clip, 0, p)
    let (mark, p) := chomping p
    return (mark.getD .clip, n, p)

/-- Reads empty lines and the indentation of the next line, up to a column if it is known. The
result holds the line breaks and the greatest column. -/
def readBlockBreaks (indent : Nat) : Nat → Text → Nat → Place → Option (Text × Nat × Place)
  | 0, breaks, greatest, p => some (breaks, greatest, p)
  | rounds + 1, breaks, greatest, p =>
    let n := (p.rest.takeWhile (· = ' ')).length
    let p := p.skip (if indent = 0 then n else min n (indent - p.column))
    let greatest := max greatest p.column
    match p.rest with
    | [] => some (breaks, greatest, p)
    | c :: _ =>
      if (indent = 0 ∨ p.column < indent) ∧ c = '\t' then none
      else if isBreak c then
        let (text, p) := p.skipBreak
        readBlockBreaks indent rounds (breaks ++ text) greatest p
      else some (breaks, greatest, p)

/-- Reads the lines of a block scalar at a column. `leading` is the line break in front and
`trailing` the breaks of the empty lines behind it; `spaced` tells whether the line before starts
with white space. The result holds the text and the line breaks at its end. -/
def readBlockLines (literal : Bool) (indent : Nat) :
    Nat → Text → Text → Text → Bool → Place → Option (Text × Text × Text × Place)
  | 0, _, _, _, _, _ => none
  | rounds + 1, done, leading, trailing, spaced, p => do
    if p.column ≠ indent ∨ p.rest.isEmpty then return (done, leading, trailing, p)
    let startsSpaced := p.rest.head?.any isSpace
    let join :=
      if !literal && leading = ['\n'] && !spaced && !startsSpaced then
        (if trailing.isEmpty then [' '] else [])
      else leading
    let line := p.rest.takeWhile (!isBreak ·)
    let (leading, p) := (p.skip line.length).skipBreak
    let (breaks, _, p) ← readBlockBreaks indent (p.rest.length + 1) [] 0 p
    readBlockLines literal indent rounds (done ++ join ++ trailing ++ line) leading breaks
      startsSpaced p

/-- Reads a block scalar behind its sign, inside a block at column `outer` if there is one. -/
def readBlock (literal : Bool) (outer : Option Nat) (p : Place) : Option (Text × Place) := do
  let (chomping, columns, p) ← readBlockMarks p
  let p := (p.skipWhile isSpace).skipComment
  if !endsLine p.rest then none
  let (_, p) := p.skipBreak
  let given := if columns = 0 then 0 else outer.getD 0 + columns
  let (breaks, greatest, p) ← readBlockBreaks given (p.rest.length + 1) [] 0 p
  let least := match outer with
    | some column => column + 1
    | none => 1
  let indent := if given = 0 then max (max greatest least) 1 else given
  let (text, leading, trailing, p) ←
    readBlockLines literal indent (p.rest.length + 1) [] [] breaks false p
  let text := if chomping = .strip then text else text ++ leading
  return (if chomping = .keep then text ++ trailing else text, p)

def readName (p : Place) : Option (Text × Place) :=
  let name := p.rest.takeWhile isNameChar
  let p := p.skip name.length
  let ends := match p.rest with
    | [] => true
    | c :: _ => endsWord p.rest || "?:,]\x7d%@`".toList.contains c
  if !name.isEmpty && ends then some (name, p) else none

/-- Whether a character may stand in a tag; commas and brackets only if it is `verbatim`. -/
def isUriChar (verbatim : Bool) (c : Char) : Bool :=
  isNameChar c || ";/?:@&=+$.!~*'()".toList.contains c || (verbatim && ",[]".toList.contains c)

/-- The number of bytes of a character by its first byte, and the bits of the character in it. -/
def firstByte? (byte : Nat) : Option (Nat × Nat) :=
  if byte < 0x80 then some (1, byte)
  else if byte < 0xC0 then none
  else if byte < 0xE0 then some (2, byte % 0x20)
  else if byte < 0xF0 then some (3, byte % 0x10)
  else if byte < 0xF8 then some (4, byte % 8)
  else none

/-- Reads bytes written as `%` and two digits that make one character. -/
def readBytes (t : Text) : Option (Char × Nat) := do
  let byte := fun t : Text => do
    let high :: low :: _ ← Text.dropPrefix? ['%'] t | none
    return (← CharSet.hexDigit? high) * 16 + (← CharSet.hexDigit? low)
  let (length, bits) ← firstByte? (← byte t)
  let code ← (List.range (length - 1)).foldlM (fun code i => do
    let next ← byte (t.drop (3 * (i + 1)))
    if next / 0x40 = 2 then return code * 0x40 + next % 0x40 else none) bits
  if code.isValidChar then return (Char.ofNat code, 3 * length) else none

/-- Reads the characters of a tag, whose text so far is given from its end on. -/
def readUri (verbatim : Bool) : Nat → Text → Place → Option (Text × Place)
  | 0, _, _ => none
  | rounds + 1, done, p =>
    match p.rest with
    | [] => if done.isEmpty then none else some (done.reverse, p)
    | c :: _ =>
      if c = '%' then do
        let (decoded, n) ← readBytes p.rest
        readUri verbatim rounds (decoded :: done) (p.skip n)
      else if isUriChar verbatim c then readUri verbatim rounds (c :: done) (p.skip 1)
      else if done.isEmpty then none
      else some (done.reverse, p)

/-- Reads a tag: a handle and what follows it. -/
def readTag (inFlow : Bool) (p : Place) : Option (Token × Place) := do
  let (handle, suffix, p) ← match p.rest with
    | '!' :: '<' :: _ => do
      let (suffix, p) ← readUri true (p.rest.length + 1) [] (p.skip 2)
      if p.rest.head? = some '>' then some ([], suffix, p.skip 1) else none
    | _ => do
      let name := (p.rest.drop 1).takeWhile isNameChar
      if (p.rest.drop (name.length + 1)).head? = some '!' then
        let (suffix, p') ← readUri false (p.rest.length + 1) [] (p.skip (name.length + 2))
        some ('!' :: name ++ ['!'], suffix, p')
      else
        let p := p.skip (name.length + 1)
        if name.isEmpty && !(p.rest.head?.any fun c => c = '%' || isUriChar false c) then
          some ([], ['!'], p)
        else
          let (suffix, p) ← readUri false (p.rest.length + 1) name.reverse p
          some (['!'], suffix, p)
  if (inFlow && p.rest.head? = some ',') || endsWord p.rest then some (.tag handle suffix, p)
  else none

/-- Reads a directive behind its percent sign, up to the end of its line. -/
def readDirective (p : Place) : Option (Token × Place) := do
  let name := p.rest.takeWhile isNameChar
  let p := (p.skip name.length)
  if !endsWord p.rest then none
  let (token, p) ←
    if name = "YAML".toList then do
      let p := p.skipWhile isSpace
      let version := p.rest.takeWhile fun c => c.isDigit || c = '.'
      if version = "1.1".toList ∨ version = "1.2".toList then
        some (Token.directive none, p.skip version.length)
      else none
    else if name = "TAG".toList then do
      let p := p.skipWhile isSpace
      let handle := p.rest.takeWhile fun c => isNameChar c || c = '!'
      let inner := handle.drop 1
      if handle.head? ≠ some '!' ∨
          !(inner.isEmpty || (inner.getLast? == some '!' && !inner.dropLast.contains '!')) then none
      let p := p.skip handle.length
      if !(p.rest.head?.any isSpace) then none
      let p := p.skipWhile isSpace
      let (uri, p) ← readUri true (p.rest.length + 1) [] p
      if endsWord p.rest then some (Token.directive (some (handle, uri)), p) else none
    else none
  let p := (p.skipWhile isSpace).skipComment
  if endsLine p.rest then some (token, p.skipBreak.2) else none

end Lector.Yaml
