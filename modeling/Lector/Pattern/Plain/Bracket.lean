import Lector.Pattern.Plain.Escape

/-!
# Classes in brackets

A class in brackets lists characters, ranges, named classes and further classes in brackets, and
combines what stands left and right of `&&`, `--` and `~~`. The operators bind alike, and group to
the left.

## Main definitions

* `Members` - the members of a class read so far.
* `Open` - what encloses the place that is being read.
* `readBracket` - reads a class from its opening bracket on.
-/

namespace Lector.Pattern.Plain

/-- The members of a class read so far. -/
structure Members where
  set : CharSet := CharSet.empty
  count : Nat := 0
  /-- How deep the deepest of them nests. -/
  height : Nat := 0

def Members.add (m : Members) (set : CharSet) (height : Nat) : Members :=
  ⟨m.set.union set, m.count + 1, max m.height height⟩

/-- How deep the union of the members nests. -/
def Members.depth (m : Members) : Nat := if m.count ≤ 1 then m.height else m.height + 1

/-- The operators between sets. -/
inductive SetOp
  | both
  | firstOnly
  | justOne

def SetOp.apply : SetOp → CharSet → CharSet → CharSet
  | both, a, b => a.inter b
  | firstOnly, a, b => a.diff b
  | justOne, a, b => a.symmDiff b

/-- What encloses the place in a class that is being read. -/
inductive Open
  /-- An opening bracket, behind the members of the class around it if there is one. -/
  | bracket (outer : Option Members) (negated : Bool)
  /-- An operator behind its left operand. -/
  | operator (op : SetOp) (left : CharSet) (depth : Nat)

/-- The classes with names of their own inside brackets. -/
def posixClass? (name : String) : Option CharSet :=
  let ofCodes := fun ranges => some (CharSet.ofRanges ranges)
  match name with
  | "alnum" => ofCodes [(0x30, 0x39), (0x41, 0x5A), (0x61, 0x7A)]
  | "alpha" => ofCodes [(0x41, 0x5A), (0x61, 0x7A)]
  | "ascii" => ofCodes [(0, 0x7F)]
  | "blank" => ofCodes [(9, 9), (0x20, 0x20)]
  | "cntrl" => ofCodes [(0, 0x1F), (0x7F, 0x7F)]
  | "digit" => ofCodes [(0x30, 0x39)]
  | "graph" => ofCodes [(0x21, 0x7E)]
  | "lower" => ofCodes [(0x61, 0x7A)]
  | "print" => ofCodes [(0x20, 0x7E)]
  | "punct" => ofCodes [(0x21, 0x2F), (0x3A, 0x40), (0x5B, 0x60), (0x7B, 0x7E)]
  | "space" => ofCodes [(9, 13), (0x20, 0x20)]
  | "upper" => ofCodes [(0x41, 0x5A)]
  | "word" => ofCodes [(0x30, 0x39), (0x41, 0x5A), (0x5F, 0x5F), (0x61, 0x7A)]
  | "xdigit" => ofCodes [(0x30, 0x39), (0x41, 0x46), (0x61, 0x66)]
  | _ => none

/-- Reads a class named between colons, behind its opening bracket. The flag tells whether it is
negated. -/
def readPosixClass (t : Text) : Option (CharSet × Bool × Text) := do
  let t ← Text.dropPrefix? [':'] t
  let (negated, t) := match t with
    | '^' :: rest => (true, rest)
    | _ => (false, t)
  let (name, rest) ← Text.cutAt? ':' t
  let rest ← Text.dropPrefix? [']'] rest
  return (← posixClass? (String.ofList name), negated, rest)

def readMember (f : Flags) : Text → Option (Atom × Text)
  | [] => none
  | '\\' :: t => readEscape f t
  | c :: t => some (.char c, t)

/-- The set of the characters from one to another. Without the flag `u` only ASCII characters can be
members. -/
def rangeSet? (f : Flags) (first last : Char) : Option CharSet :=
  if first.toNat ≤ last.toNat && (f.unicode || last.toNat ≤ 0x7F) then
    some (CharSet.ofRanges [(first.toNat, last.toNat)])
  else none

/-- Reads a member or a range. A hyphen before a closing bracket or another hyphen makes no
range. -/
def readRange (f : Flags) (t : Text) : Option (CharSet × Text) := do
  let (first, t) ← readMember f t
  let t := f.skip t
  let single : Option CharSet := match first with
    | .char c => rangeSet? f c c
    | .set s => some s
    | .look _ => none
  match t with
  | [] => none
  | '-' :: rest =>
    let next := f.skip rest
    if next.head? = some ']' ∨ next.head? = some '-' then return (← single, t)
    else
      let (last, rest) ← readMember f next
      match first, last with
      | .char a, .char b => return (← rangeSet? f a b, rest)
      | _, _ => none
  | _ => return (← single, t)

/-- Reads what may follow an opening bracket once: the sign of negation, hyphens, and a closing
bracket that stands for itself. -/
def openBracket (f : Flags) (t : Text) : Bool × Members × Text :=
  let hyphen := CharSet.singleton '-'
  let rec hyphens : Nat → Members → Text → Members × Text
    | n + 1, m, '-' :: rest => hyphens n (m.add hyphen 0) (f.skip rest)
    | _, m, t => (m, t)
  let t := f.skip t
  let (negated, t) := match t with
    | '^' :: rest => (true, f.skip rest)
    | _ => (false, t)
  let (members, t) := hyphens t.length {} t
  match members.count, t with
  | 0, ']' :: rest => (negated, members.add (CharSet.singleton ']') 0, f.skip rest)
  | _, _ => (negated, members, t)

/-- Completes the operator in front of an operand, if there is one. -/
def closeOperator (f : Flags) (m : Members) : List Open → CharSet × Nat × List Open
  | .operator op left depth :: opens =>
    (op.apply (f.fold left) (f.fold m.set), max depth m.depth + 1, opens)
  | opens => (m.set, m.depth, opens)

/-- Reads the rest of a class. Each round takes at least one character, and `rounds` bounds their
number. The result is the class with how deep it nests. -/
def readMembers (f : Flags) : Nat → List Open → Members → Text → Option (CharSet × Nat × Text)
  | 0, _, _, _ => none
  | rounds + 1, opens, m, t =>
    let operator := fun (op : SetOp) (rest : Text) =>
      let (left, depth, opens) := closeOperator f m opens
      readMembers f rounds (.operator op left depth :: opens) {} rest
    match f.skip t with
    | [] => none
    | '[' :: rest =>
      match readPosixClass rest with
      | some (set, negated, rest) => do
        readMembers f rounds opens (m.add (← f.negate? negated (f.fold set)) 0) rest
      | none =>
        let (negated, inner, rest) := openBracket f rest
        readMembers f rounds (.bracket (some m) negated :: opens) inner rest
    | ']' :: rest => do
      let (set, depth, opens) := closeOperator f m opens
      match opens with
      | .bracket outer negated :: opens =>
        let set ← f.negate? negated (f.fold set)
        match outer with
        | none => some (set, depth + 1, rest)
        | some outer => readMembers f rounds opens (outer.add set (depth + 1)) rest
      | _ => none
    | '&' :: '&' :: rest => operator .both rest
    | '-' :: '-' :: rest => operator .firstOnly rest
    | '~' :: '~' :: rest => operator .justOne rest
    | t => do
      let (set, rest) ← readRange f t
      readMembers f rounds opens (m.add set 0) rest

/-- Reads a class behind its opening bracket: its characters and how deep it nests. -/
def readBracket (f : Flags) (t : Text) : Option (CharSet × Nat × Text) :=
  let (negated, members, rest) := openBracket f t
  readMembers f (t.length + 1) [.bracket none negated] members rest

end Lector.Pattern.Plain
