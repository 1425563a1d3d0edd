import Lector.Pattern.Search

/-!
# Matches

A match is the span of the text that a pattern has matched with the spans of its groups. The matches
of a pattern in a text are found one after another: the next search starts where the last match
ended, or one character further on if that match was empty, and an empty match right behind another
match does not count.

## Main definitions

* `Span`, `Match` - a match and its groups.
* `Run` - the matches of a pattern in a text, with the fault that ended the search if there was one.
* `Cursor` - a position of a text with what lies around it.
* `findAll` - all matches from a cursor on.
-/

namespace Lector.Pattern

/-- A part of a text, by the positions where it starts and stops. -/
structure Span where
  start : Nat
  stop : Nat
  deriving DecidableEq, Repr

def Span.slice (s : Span) (t : Text) : Text := (t.drop s.start).take (s.stop - s.start)

/-- A match of a pattern in a text. -/
structure Match where
  whole : Span
  /-- The parts that the groups matched, from group 1 on. -/
  groups : List (Option Span)
  deriving DecidableEq, Repr

/-- The part that a group matched; group 0 is the whole match. -/
def Match.group? (m : Match) : Nat → Option Span
  | 0 => some m.whole
  | n + 1 => (m.groups[n]?).join

def Match.ofSlots? (slots : Slots) (groupCount : Nat) : Option Match :=
  let span := fun i : Nat => do
    return Span.mk (← (slots[2 * i]?).join) (← (slots[2 * i + 1]?).join)
  (span 0).map fun whole => ⟨whole, (List.range (groupCount - 1)).map fun i => span (i + 1)⟩

/-- Why a search is given up. -/
inductive Fault
  | tooManyFailures
  | stackTooHigh
  deriving DecidableEq, Repr

def Fault.message : Fault → String
  | tooManyFailures => "Error executing regex: Max limit for backtracking count exceeded"
  | stackTooHigh => "Error executing regex: Max stack size exceeded for backtracking"

/-- The matches of a pattern in a text. -/
structure Run where
  /-- The matches, from left to right. -/
  found : List Match
  fault : Option Fault
  deriving DecidableEq, Repr

/-- A position of a text. -/
structure Cursor where
  before : Option Char
  /-- The number of characters before. -/
  position : Nat
  rest : Text

namespace Cursor

def start (t : Text) : Cursor := ⟨none, 0, t⟩

/-- Goes on behind a number of characters, if there are so many. -/
def forward? : Nat → Cursor → Option Cursor
  | 0, c => some c
  | _ + 1, ⟨_, _, []⟩ => none
  | n + 1, ⟨_, position, ch :: rest⟩ => forward? n ⟨some ch, position + 1, rest⟩

theorem length_le_of_forward? {n : Nat} {c d : Cursor} (h : forward? n c = some d) :
    d.rest.length + n = c.rest.length := by
  induction n generalizing c with
  | zero => simp_all [forward?]
  | succ n ih =>
    obtain ⟨b, p, _ | ⟨ch, rest⟩⟩ := c
    · simp [forward?] at h
    · have := ih (c := ⟨some ch, p + 1, rest⟩) (by simpa [forward?] using h)
      simp only [List.length_cons] at *
      omega

end Cursor

/-- All matches from a cursor on that repeated use of a search finds; `last` is where the last match
ended. A search is taken to find matches that end behind the cursor or are empty there: the cursor
goes on by a character even where that is not so. -/
def findAll (search : Cursor → Except Fault (Option Match)) (last : Option Nat) (c : Cursor) :
    Run :=
  match search c with
  | .error fault => ⟨[], some fault⟩
  | .ok none => ⟨[], none⟩
  | .ok (some m) =>
    let isEmpty := m.whole.start == m.whole.stop
    let next := if isEmpty then m.whole.stop + 1 else m.whole.stop
    let skipped := isEmpty && last == some m.whole.stop
    let last := if skipped then last else some m.whole.stop
    let rest : Run := match h : c.forward? (max 1 (next - c.position)) with
      | none => ⟨[], none⟩
      | some d =>
        have := Cursor.length_le_of_forward? h
        findAll search last d
    if skipped then rest else { rest with found := m :: rest.found }
termination_by c.rest.length
decreasing_by omega

end Lector.Pattern
