import Lector.Pattern.Program

/-!
# Searching a text

A program runs in threads that walk over the text side by side. A thread that comes first wins over
those behind it, and two threads never stand at one address, so that a search takes at most as many
steps at each character as the program has instructions.

## Main definitions

* `Slots` - the positions that a thread has kept.
* `Program.spread` - the threads that wait for the next character, and a match if one is complete.
* `Program.scan` - the run of a program over a text.
* `Program.search` - the first match at or after a position.
-/

namespace Lector.Pattern

/-- The positions that a thread has kept in its slots. -/
abbrev Slots := Array (Option Nat)

/-- A thread at an address of the program. -/
structure Thread where
  address : Nat
  slots : Slots

/-- A thread that waits for a character of a set. -/
structure Waiting where
  /-- The characters with which the thread goes on. -/
  set : CharSet
  thread : Thread

/-- Marking what was not marked leaves less that is not marked. -/
theorem count_set_lt {seen : Array Bool} {i : Nat} (hi : i < seen.size) (hf : seen[i] = false) :
    (seen.set i true hi).count false < seen.count false := by
  have hpos : 0 < seen.count false := Array.count_pos_iff.2 (hf ▸ Array.getElem_mem hi)
  rw [Array.count_set, hf]
  change seen.count false - 1 + 0 < seen.count false
  omega

namespace Program

/-- Runs threads, first things first, until each waits for a character or has failed. A complete
match ends all threads behind it. `seen` tells the addresses where a thread has been. -/
def spread (p : Program) (before after : Option Char) (position : Nat) (seen : Array Bool)
    (ready : List Waiting) : List Thread → List Waiting × Option Slots
  | [] => (ready.reverse, none)
  | t :: rest =>
    if h : ∃ bound : t.address < seen.size, seen[t.address] = false then
      let seen' := seen.set t.address true h.1
      match p.instrs[t.address]? with
      | none => spread p before after position seen' ready rest
      | some (.take set) =>
        spread p before after position seen' (⟨set, ⟨t.address + 1, t.slots⟩⟩ :: ready) rest
      | some (.check look) =>
        if look.holds before after then
          spread p before after position seen' ready (⟨t.address + 1, t.slots⟩ :: rest)
        else spread p before after position seen' ready rest
      | some (.save slot) =>
        let slots := t.slots.setIfInBounds slot (some position)
        spread p before after position seen' ready (⟨t.address + 1, slots⟩ :: rest)
      | some (.split first second) =>
        spread p before after position seen' ready
          (⟨first, t.slots⟩ :: ⟨second, t.slots⟩ :: rest)
      | some (.jump target) =>
        spread p before after position seen' ready (⟨target, t.slots⟩ :: rest)
      | some .accept => (ready.reverse, some t.slots)
    else spread p before after position seen ready rest
termination_by threads => (seen.count false, threads.length)
decreasing_by
  all_goals first
    | exact Prod.Lex.left _ _ (count_set_lt h.1 h.2)
    | exact Prod.Lex.right _ (Nat.lt_succ_self _)

def advance (c : Char) (ready : List Waiting) : List Thread :=
  ready.filterMap fun w => if w.set.contains c then some w.thread else none

/-- Runs threads over a text. While there is no match, a new thread starts at each position, unless
the match is to start where the text does (`anchored`). The match of the foremost thread is kept
until the threads before it have come to their end. -/
def scan (p : Program) (anchored : Bool) :
    Option Char → Nat → List Thread → Option Slots → Text → Option Slots
  | before, position, threads, best, text =>
    let after := text.head?
    let (ready, found) :=
      p.spread before after position (Array.replicate p.instrs.size false) [] threads
    let best := found <|> best
    match text with
    | [] => best
    | c :: rest =>
      let next := advance c ready
      if best.isSome then
        if next.isEmpty then best else scan p anchored (some c) (position + 1) next best rest
      else if anchored then
        if next.isEmpty then none else scan p anchored (some c) (position + 1) next none rest
      else
        scan p anchored (some c) (position + 1)
          (next ++ [⟨0, Array.replicate p.slots none⟩]) none rest

/-- The first match in a text that follows a character at a position. -/
def search (p : Program) (before : Option Char) (position : Nat) (text : Text) : Option Slots :=
  p.scan false before position [⟨0, Array.replicate p.slots none⟩] none text

def matchHere (p : Program) (before : Option Char) (position : Nat) (text : Text) :
    Option Slots :=
  p.scan true before position [⟨0, Array.replicate p.slots none⟩] none text

end Program

end Lector.Pattern
