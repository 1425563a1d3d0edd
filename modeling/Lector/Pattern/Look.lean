import Lector.Unicode.Lookup

/-!
# Looking around a position

A *look* is a condition on a position of a text that depends on the characters just before and just
after it: the ends of the text, the ends of a line, and the edges of words.

## Main definitions

* `Look` - the conditions.
* `Look.holds` - whether one holds between two characters.
-/

namespace Lector.Pattern

/-- A place relative to the words of a text. -/
inductive Edge
  /-- There is a word on just one side. -/
  | either
  /-- There is a word on both sides or on none. -/
  | neither
  | start
  | stop
  /-- There is no word before. -/
  | startHalf
  /-- There is no word after. -/
  | stopHalf
  deriving DecidableEq, Repr

/-- A condition on a position of a text. -/
inductive Look
  | textStart
  | textEnd
  /-- The start of a line; with `crlf`, lines end in CR, LF or both. -/
  | lineStart (crlf : Bool)
  | lineEnd (crlf : Bool)
  /-- An edge of a word, whose characters are ASCII only where `ascii` is set. -/
  | word (edge : Edge) (ascii : Bool)
  deriving DecidableEq, Repr

/-- The letters, digits and low line of ASCII. -/
def asciiWordChars : CharSet := CharSet.ofRanges [(0x30, 0x39), (0x41, 0x5A), (0x5F, 0x5F),
  (0x61, 0x7A)]

/-- Whether a character is there and belongs to a word. -/
def isWordAt (ascii : Bool) (c : Option Char) : Bool :=
  c.any fun c => (if ascii then asciiWordChars else Unicode.wordChars).contains c

/-- Whether there is an edge between what comes before (a word or not) and what comes after. -/
def Edge.holds (before after : Bool) : Edge → Bool
  | either => before != after
  | neither => before == after
  | start => !before && after
  | stop => before && !after
  | startHalf => !before
  | stopHalf => !after

/-- Whether the condition holds between two characters, which are `none` at the ends of the
text. -/
def Look.holds (before after : Option Char) : Look → Bool
  | textStart => before.isNone
  | textEnd => after.isNone
  | lineStart false => before.isNone || before == some '\n'
  | lineEnd false => after.isNone || after == some '\n'
  | lineStart true =>
    before.isNone || before == some '\n' || (before == some '\r' && after != some '\n')
  | lineEnd true =>
    after.isNone || after == some '\r' || (after == some '\n' && before != some '\r')
  | word edge ascii => edge.holds (isWordAt ascii before) (isWordAt ascii after)

end Lector.Pattern
