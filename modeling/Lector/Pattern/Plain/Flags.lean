import Lector.Pattern.Node
import Lector.Unicode.CaseFold

/-!
# Flags of the plain dialect

How the parts of a pattern are read depends on flags, which the pattern itself sets with `(?i)` and
its like. Most letters turn one flag on, and behind a hyphen off.

## Main definitions

* `Flags` - the flags.
* `Flags.set?` - sets the flag of a letter.
* `Flags.skip` - skips what does not count where patterns are written with spaces.
* `Flags.char`, `Flags.fold` - the sets that a character or a set stands for.
-/

namespace Lector.Pattern.Plain

/-- The flags under which a part of a pattern is read. -/
structure Flags where
  /-- Characters match whatever their case (`i`). -/
  anyCase : Bool := false
  /-- The marks for start and end hold at each line (`m`). -/
  manyLines : Bool := false
  /-- The dot matches line feeds too (`s`). -/
  dotAll : Bool := false
  /-- Repetitions are lazy unless marked otherwise (`U`). -/
  lazy : Bool := false
  /-- Classes hold the characters of all scripts (`u`). -/
  unicode : Bool := true
  /-- Lines end in CR, LF or both (`R`). -/
  crlf : Bool := false
  /-- Spaces and comments do not count (`x`). -/
  spaced : Bool := false

/-- Skips white space and comments, which run from `#` to the end of a line. -/
def skipSpace : Bool → Text → Text
  | _, [] => []
  | true, c :: t => skipSpace (c ≠ '\n') t
  | false, c :: t =>
    if isBlank c then skipSpace false t else if c = '#' then skipSpace true t else c :: t

def negateIf (negated : Bool) (set : CharSet) : CharSet := if negated then set.compl else set

namespace Flags

def set? (f : Flags) (on : Bool) : Char → Option Flags
  | 'i' => some { f with anyCase := on }
  | 'm' => some { f with manyLines := on }
  | 's' => some { f with dotAll := on }
  | 'U' => some { f with lazy := on }
  | 'u' => some { f with unicode := on }
  | 'R' => some { f with crlf := on }
  | 'x' => some { f with spaced := on }
  | _ => none

/-- Skips white space and comments if they do not count. -/
def skip (f : Flags) (t : Text) : Text := if f.spaced then skipSpace false t else t

/-- The characters that match like those of a set. -/
def fold (f : Flags) (set : CharSet) : CharSet :=
  if !f.anyCase then set
  else if f.unicode then set.foldCase
  else set.foldCase.inter (CharSet.ofRanges [(0, 0x7F)])

/-- The characters that match like a given one. -/
def char (f : Flags) (c : Char) : CharSet :=
  if f.anyCase && (f.unicode || c.toNat ≤ 0x7F) then
    if f.unicode then CharSet.caseVariants c
    else (CharSet.caseVariants c).inter (CharSet.ofRanges [(0, 0x7F)])
  else CharSet.singleton c

/-- A class that may be negated; without the flag `u` a negated class would match parts of
characters, and there is none. -/
def negate? (f : Flags) (negated : Bool) (set : CharSet) : Option CharSet :=
  if negated && !f.unicode then none else some (negateIf negated set)

end Flags

end Lector.Pattern.Plain
