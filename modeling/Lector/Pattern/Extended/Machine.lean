import Lector.Pattern.Extended.Code
import Lector.Pattern.Match

/-!
# The machine for pattern trees

The machine tries one way to match after another. What is left to try stands on a stack; when a way
fails, the last entry is tried next. Each failure counts, and a search that fails too often is given
up.

## Main definitions

* `Subject` - a text with all its ends.
* `State` - where the machine stands.
* `step` - the effect of one instruction.
* `search` - the first match at or after a position.
-/

namespace Lector.Pattern.Extended

/-- A text as the list of its ends, from the whole text to the empty one. -/
abbrev Subject := Array Text

def Subject.ofText (t : Text) : Subject := (Text.ends t).toArray

namespace Subject

def from? (s : Subject) (position : Nat) : Text := (s[position]?).getD []

def after (s : Subject) (position : Nat) : Option Char := (s.from? position).head?

def before (s : Subject) (position : Nat) : Option Char :=
  match position with
  | 0 => none
  | n + 1 => s.after n

end Subject

/-- Where the machine stands. -/
structure State where
  address : Nat
  position : Nat
  slots : Slots
  /-- For each atomic part that has begun, the number of entries on the stack at that time. -/
  marks : List Nat

namespace State

def next (s : State) : State := { s with address := s.address + 1 }

def goto (s : State) (address : Nat) : State := { s with address := address }

def forward (s : State) (n : Nat) : State := { s.next with position := s.position + n }

def keep (s : State) (slot value : Nat) : State :=
  { s with slots := s.slots.setIfInBounds slot (some value) }

def get? (s : State) (slot : Nat) : Option Nat := (s.slots[slot]?).join

end State

/-- What an instruction leads to. -/
inductive Outcome
  /-- The machine goes on, with something else to try later if need be. -/
  | goOn (state : State) (later : Option State)
  /-- The machine goes on, with only the first entries of the stack left. -/
  | cut (state : State) (keep : Nat)
  | fail
  /-- The way fails with all entries up to one for an address. -/
  | failTo (address : Nat)
  | done (slots : Slots)

def keepGroups (s : State) (firstGroup groups : Nat) (found : Slots) : State :=
  (List.range groups).foldl (fun s i =>
    let set := fun (s : State) (slot : Nat) =>
      let value := (found[2 * (i + 1) + slot]?).join
      { s with slots := s.slots.setIfInBounds (2 * (firstGroup + i) + slot) value }
    set (set s 0) 1) s

/-- The effect of one instruction. `start` is where the search started, and `depth` the number of
entries on the stack. -/
def step (subject : Subject) (start depth : Nat) (op : Op) (s : State) : Outcome :=
  let goOn := fun s => Outcome.goOn s none
  match op with
  | .literal text =>
    match Text.dropPrefix? text (subject.from? s.position) with
    | some _ => goOn (s.forward text.length)
    | none => .fail
  | .any newline =>
    match subject.after s.position with
    | some c => if newline || c ≠ '\n' then goOn (s.forward 1) else .fail
    | none => .fail
  | .take set => if (subject.after s.position).any set.contains then goOn (s.forward 1) else .fail
  | .check look =>
    if look.holds (subject.before s.position) (subject.after s.position) then goOn s.next else .fail
  | .run program firstGroup groups =>
    match program.matchHere (subject.before s.position) s.position (subject.from? s.position) with
    | some found =>
      match (found[1]?).join with
      | some stop => goOn { (keepGroups s.next firstGroup groups found) with position := stop }
      | none => .fail
    | none => .fail
  | .split first second => .goOn (s.goto first) (some (s.goto second))
  | .jump target => goOn (s.goto target)
  | .save slot => goOn (s.next.keep slot s.position)
  | .clear slot => goOn (s.next.keep slot 0)
  | .restore slot =>
    match s.get? slot with
    | some position => goOn { s.next with position := position }
    | none => .fail
  | .count greedy least most leave counter =>
    let rounds := (s.get? counter).getD 0
    let s' := s.keep counter (rounds + 1)
    if most = some rounds then goOn (s.goto leave)
    else if rounds < least then goOn s'.next
    else if greedy then .goOn s'.next (some (s'.goto leave))
    else .goOn (s'.goto leave) (some s'.next)
  | .countMoving greedy least leave counter place =>
    let rounds := (s.get? counter).getD 0
    if 0 < rounds && s.get? place == some s.position then .fail
    else
      let s' := s.keep counter (rounds + 1)
      if rounds < least then goOn s'.next
      else
        let s' := s'.keep place s.position
        if greedy then .goOn s'.next (some (s'.goto leave))
        else .goOn (s'.goto leave) (some s'.next)
  | .goBack n =>
    if n ≤ s.position then goOn { s.next with position := s.position - n } else .fail
  | .failAround => .failTo (s.address + 1)
  | .sameAs slot =>
    match s.get? slot, s.get? (slot + 1) with
    | some first, some last =>
      let text := (subject.from? first).take (last - first)
      match Text.dropPrefix? text (subject.from? s.position) with
      | some _ => goOn (s.forward text.length)
      | none => .fail
    | _, _ => .fail
  | .ifGroup slot => if (s.get? slot).isSome then goOn s.next else .fail
  | .beginAtomic => goOn { s.next with marks := depth :: s.marks }
  | .endAtomic =>
    match s.marks with
    | mark :: marks => .cut { s.next with marks := marks } mark
    | [] => .fail
  | .atSearchStart => if s.position ≤ start then goOn s.next else .fail
  | .accept =>
    match s.get? 0, s.get? 1 with
    | some first, some last => .done (s.slots.setIfInBounds 0 (some (min first last)))
    | _, _ => .done s.slots

/-- How often a search may fail. -/
def failureLimit : Nat := 1000000

/-- How much may be left to try at a time. -/
def stackLimit : Nat := 1000000

/-- Drops the last entries of a stack up to one for an address. -/
def unwind (address : Nat) (stack : Array State) : Array State :=
  match _h : stack.back? with
  | none => stack
  | some s => if s.address = address then stack.pop else unwind address stack.pop
termination_by stack.size
decreasing_by
  have : stack.size ≠ 0 := by
    intro h0
    simp_all [Array.back?]
  simp only [Array.size_pop]
  omega

/-- Runs the machine for at most `steps` instructions. -/
def runFrom (ops : Array Op) (subject : Subject) (start : Nat) :
    Nat → State → Array State → Nat → Except Fault (Option Slots)
  | 0, _, _, _ => .error .tooManyFailures
  | steps + 1, s, stack, failures =>
    let tryNext := fun (stack : Array State) =>
      match stack.back? with
      | none => .ok none
      | some s =>
        if failures < failureLimit then
          runFrom ops subject start steps s stack.pop (failures + 1)
        else .error .tooManyFailures
    match ops[s.address]? with
    | none => .ok none
    | some op =>
      match step subject start stack.size op s with
      | .goOn s none => runFrom ops subject start steps s stack failures
      | .goOn s (some later) =>
        if stack.size < stackLimit then
          runFrom ops subject start steps s (stack.push later) failures
        else .error .stackTooHigh
      | .cut s keep => runFrom ops subject start steps s (stack.extract 0 keep) failures
      | .fail => tryNext stack
      | .failTo address => tryNext (unwind address stack)
      | .done slots => .ok (some slots)

/-- How many instructions a search may take. No search that keeps to the other limits takes as
many. -/
def stepLimit : Nat := Nat.pow 2 50

/-- The first match at or after a position. -/
def search (ops : Array Op) (slots : Nat) (subject : Subject) (position : Nat) :
    Except Fault (Option Slots) :=
  runFrom ops subject position stepLimit ⟨0, position, Array.replicate slots none, []⟩ #[] 0

end Lector.Pattern.Extended
