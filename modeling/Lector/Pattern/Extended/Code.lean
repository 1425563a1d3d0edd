import Lector.Pattern.Extended.Tree
import Lector.Pattern.Plain.Parser
import Lector.Pattern.Program

/-!
# Code of pattern trees

A tree that needs more than the plain dialect is run by a machine that tries one way after another.
Its easy parts are compiled as programs of the plain dialect, which match in one way only.

## Main definitions

* `Op` - the instructions of the machine.
* `Code` - a piece of code with the first slot it does not use.
* `compile` - the code of a tree.
-/

namespace Lector.Pattern.Extended

/-- An instruction of the machine. -/
inductive Op
  | literal (text : Text)
  /-- Takes any character but a line feed, or that too if `newline`. -/
  | any (newline : Bool)
  | take (set : CharSet)
  | check (look : Look)
  /-- Takes what a program matches here, and keeps the places of its groups from an index on. -/
  | run (program : Program) (firstGroup groups : Nat)
  | split (first second : Nat)
  | jump (target : Nat)
  | save (slot : Nat)
  | clear (slot : Nat)
  | restore (slot : Nat)
  /-- Counts a round of a loop, or leaves the loop for an address, between two bounds. -/
  | count (greedy : Bool) (least : Nat) (most : Option Nat) (leave counter : Nat)
  /-- Counts a round of a loop without an upper bound; a round that takes nothing fails. -/
  | countMoving (greedy : Bool) (least leave counter place : Nat)
  | goBack (n : Nat)
  /-- Fails together with the whole condition that ends here. -/
  | failAround
  | sameAs (slot : Nat)
  /-- Goes on if a group has matched. -/
  | ifGroup (slot : Nat)
  | beginAtomic
  /-- Ends an atomic part: what was left to try since it began is given up. -/
  | endAtomic
  | atSearchStart
  | accept
  deriving Inhabited

/-- A piece of code. -/
structure Code where
  ops : List Op
  /-- The first slot that is not in use. -/
  slots : Nat

namespace Code

def andThen (first second : Code) : Code := ⟨first.ops ++ second.ops, second.slots⟩

end Code

/-- The code of a text in the plain dialect, whose groups are numbered from an index on. -/
def plainCode? (source : Text) (groups : List Nat) (slots : Nat) : Option Code := do
  let node ← Plain.compile? source
  match node with
  | .chars set => return ⟨[.take set], slots⟩
  | _ => return ⟨[.run (.ofNode node) (groups.headD 0) groups.length], slots⟩

def easyCode? (trees : List Tree) (slots : Nat) : Option Code :=
  match trees, Tree.literals? trees with
  | [], _ => some ⟨[], slots⟩
  | _, some text => some ⟨[.literal text], slots⟩
  | _, none => plainCode? (trees.flatMap (Tree.plain 1)) (Tree.groupsOf trees) slots

/-- The number of trees at the start of a sequence that are easy and of fixed length. -/
def easyStart (referred : List Nat) (trees : List Tree) : Nat :=
  (trees.takeWhile fun t => t.fixed && !t.isHard referred).length

/-- The number of trees at the end of a sequence that are easy. Where what follows may fail
(`hard`), they are to be of fixed length as well. -/
def easyEnd (referred : List Nat) (hard : Bool) (trees : List Tree) : Nat :=
  (trees.reverse.takeWhile fun t => (!hard || t.fixed) && !t.isHard referred).length

/-- A condition that the body matches: where it does, reading goes on where it began. The position
is kept in a slot, and `back` characters before it the body begins. -/
def aroundCode (slot back : Nat) (inner : Code) : Code :=
  ⟨.save slot :: (goBack back ++ inner.ops ++ [.restore slot]), inner.slots⟩
where
  goBack : Nat → List Op
  | 0 => []
  | n + 1 => [.goBack (n + 1)]

/-- A condition at an address that the body does not match. -/
def notAroundCode (address back : Nat) (inner : Code) : Code :=
  let ops := aroundCode.goBack back ++ inner.ops
  ⟨.split (address + 1) (address + ops.length + 2) :: (ops ++ [.failAround]), inner.slots⟩

/-- The number of instructions that go back. -/
def backSize (back : Nat) : Nat := (aroundCode.goBack back).length

/-- A split that prefers to go on in a loop or option if `greedy`, and to leave it if not. -/
def branch (greedy : Bool) (inside outside : Nat) : Op :=
  if greedy then .split inside outside else .split outside inside

/-- A loop or option at an address over a body that takes at least `size` characters and that
`body` compiles, given an address and the free slots. -/
def repeatCode? (least : Nat) (most : Option Nat) (greedy : Bool) (size address slots : Nat)
    (body : Nat → Nat → Option Code) : Option Code := do
  if least = 0 ∧ most = some 1 then
    let inner ← body (address + 1) slots
    return ⟨branch greedy (address + 1) (address + inner.ops.length + 1) :: inner.ops, inner.slots⟩
  else if most = none ∧ size = 0 then
    let inner ← body (address + 2) (slots + 2)
    let leave := address + inner.ops.length + 3
    return ⟨.clear slots :: .countMoving greedy least leave slots (slots + 1) ::
      (inner.ops ++ [.jump (address + 1)]), inner.slots⟩
  else if least = 0 ∧ most = none then
    let inner ← body (address + 1) slots
    let leave := address + inner.ops.length + 2
    return ⟨branch greedy (address + 1) leave :: (inner.ops ++ [.jump address]), inner.slots⟩
  else if least = 1 ∧ most = none then
    let inner ← body address slots
    let leave := address + inner.ops.length + 1
    return ⟨inner.ops ++ [branch greedy address leave], inner.slots⟩
  else
    let inner ← body (address + 2) (slots + 1)
    let leave := address + inner.ops.length + 3
    return ⟨.clear slots :: .count greedy least most leave slots ::
      (inner.ops ++ [.jump (address + 1)]), inner.slots⟩

mutual

/-- The code of a tree from an address on, with the slots from `slots` on free. With `hard`, what
follows may fail, and the tree must be ready to match in another way. -/
def code? (referred : List Nat) (hard : Bool) (address slots : Nat) (t : Tree) : Option Code :=
  if !hard && !t.isHard referred then easyCode? [t] slots
  else match t with
  | .empty => some ⟨[], slots⟩
  | .literal c anyCase => easyCode? [.literal c anyCase] slots
  | .set source anyCase => easyCode? [.set source anyCase] slots
  | .any newline => some ⟨[.any newline], slots⟩
  | .look l => some ⟨[.check l], slots⟩
  | .seq items => do
    let start := easyStart referred items
    let stop := items.length - easyEnd referred hard (items.drop start)
    let first ← easyCode? (items.take start) slots
    let middle ←
      seqCode? referred start (stop - start) (address + first.ops.length) first.slots items
    let last ← easyCode? (items.drop stop) middle.slots
    return (first.andThen middle).andThen last
  | .alt items => altCode? referred hard address slots items
  | .group index body => do
    let inner ← code? referred hard (address + 1) slots body
    return ⟨.save (2 * index) :: (inner.ops ++ [.save (2 * index + 1)]), inner.slots⟩
  | .repeated least most greedy body =>
    repeatCode? least most greedy body.least address slots fun address slots =>
      code? referred (hard || least != 0 || most != some 1) address slots body
  | .around ahead negated body =>
    let back := if ahead then 0 else body.least
    if !ahead && !body.fixed then
      match body with
      | .alt items =>
        if negated then notBehindCode? referred address slots items
        else behindCode? referred address slots items
      | _ => none
    else if negated then
      (code? referred false (address + 1 + backSize back) slots body).map
        (notAroundCode address back)
    else
      (code? referred false (address + 1 + backSize back) (slots + 1) body).map
        (aroundCode slots back)
  | .sameAs group => some ⟨[.sameAs (2 * group)], slots⟩
  | .ifGroup group => some ⟨[.ifGroup (2 * group)], slots⟩
  | .atomic body => do
    let inner ← code? referred false (address + 1) slots body
    return ⟨.beginAtomic :: (inner.ops ++ [.endAtomic]), inner.slots⟩
  | .keepOut => some ⟨[.save 0], slots⟩
  | .searchStart => some ⟨[.atSearchStart], slots⟩
  | .conditional condition yes no => do
    let condition ← code? referred hard (address + 2) slots condition
    let address' := address + 3 + condition.ops.length
    let yes ← code? referred hard address' condition.slots yes
    let start := address' + yes.ops.length + 1
    let no ← code? referred hard start yes.slots no
    return ⟨.beginAtomic :: .split (address + 2) start ::
      (condition.ops ++ .endAtomic :: yes.ops ++ .jump (start + no.ops.length) :: no.ops), no.slots⟩

/-- The code of the part of a sequence that leaves out `start` members and has `count`. -/
def seqCode? (referred : List Nat) (start count address slots : Nat) : List Tree → Option Code
  | [] => some ⟨[], slots⟩
  | t :: ts =>
    match start, count with
    | n + 1, _ => seqCode? referred n count address slots ts
    | 0, n + 1 => do
      let first ← code? referred true address slots t
      let rest ← seqCode? referred 0 n (address + first.ops.length) first.slots ts
      return first.andThen rest
    | 0, 0 => some ⟨[], slots⟩

def altCode? (referred : List Nat) (hard : Bool) (address slots : Nat) : List Tree → Option Code
  | [] => some ⟨[], slots⟩
  | [t] => code? referred hard address slots t
  | t :: u :: ts => do
    let first ← code? referred hard (address + 1) slots t
    let start := address + first.ops.length + 2
    let rest ← altCode? referred hard start first.slots (u :: ts)
    return ⟨.split (address + 1) start ::
      (first.ops ++ .jump (start + rest.ops.length) :: rest.ops), rest.slots⟩

/-- The code of a condition that one of several trees of different lengths ends here. -/
def behindCode? (referred : List Nat) (address slots : Nat) : List Tree → Option Code
  | [] => some ⟨[], slots⟩
  | t :: ts =>
    if t.fixed then
      match ts with
      | [] => (code? referred false (address + 1 + backSize t.least) (slots + 1) t).map
          (aroundCode slots t.least)
      | _ => do
        let inner ← code? referred false (address + 2 + backSize t.least) (slots + 1) t
        let first := aroundCode slots t.least inner
        let start := address + first.ops.length + 2
        let rest ← behindCode? referred start first.slots ts
        return ⟨.split (address + 1) start ::
          (first.ops ++ .jump (start + rest.ops.length) :: rest.ops), rest.slots⟩
    else none

/-- The code of a condition that none of several trees of different lengths ends here. -/
def notBehindCode? (referred : List Nat) (address slots : Nat) : List Tree → Option Code
  | [] => some ⟨[], slots⟩
  | t :: ts =>
    if t.fixed then do
      let inner ← code? referred false (address + 1 + backSize t.least) slots t
      let first := notAroundCode address t.least inner
      let rest ← notBehindCode? referred (address + first.ops.length) first.slots ts
      return first.andThen rest
    else none

end

/-- The code of a whole pattern, which is searched for from the start of a search on: any
characters, as few as possible, and then the pattern, kept as group 0. -/
def compile? (referred : List Nat) (groups : Nat) (t : Tree) : Option (Array Op × Nat) := do
  let inner ← code? referred true 4 (2 * (groups + 1)) t
  let search : List Op := [.split 3 1, .any true, .jump 0, .save 0]
  let found : List Op := [.save 1, .accept]
  return ((search ++ inner.ops ++ found).toArray, inner.slots)

end Lector.Pattern.Extended
