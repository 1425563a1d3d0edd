import Lector.Pattern.Node

/-!
# Pattern programs

A pattern is searched for by running a small program. Its instructions stand in one list, and each
but a jump or a split goes on to the next.

## Main definitions

* `Instr` - the instructions.
* `Node.code` - the instructions of a pattern at an address.
* `Program` - the instructions of a whole pattern with the number of places it keeps.
* `Program.ofNode` - the program of a pattern, its whole match kept as group 0.
-/

namespace Lector.Pattern

/-- An instruction of a pattern program. -/
inductive Instr
  | take (set : CharSet)
  | check (look : Look)
  | save (slot : Nat)
  /-- Goes on at two addresses, of which the first is tried first. -/
  | split (first second : Nat)
  | jump (target : Nat)
  | accept
  deriving Inhabited

namespace Node

def size : Node → Nat
  | empty => 0
  | chars _ => 1
  | look _ => 1
  | group _ _ body => body.size + 2
  | repeated least none _ body => if least = 0 then body.size + 2 else least * body.size + 1
  | repeated least (some most) _ body => least * body.size + (most - least) * (body.size + 1)
  | seq a b => a.size + b.size
  | alt a b => a.size + b.size + 2

/-- A split that prefers to go on in a loop or option if `greedy`, and to leave it if not. -/
def splitFor (greedy : Bool) (inside outside : Nat) : Instr :=
  if greedy then .split inside outside else .split outside inside

/-- A number of copies of code that takes `size` instructions at each address. -/
def copies (code : Nat → List Instr) (size : Nat) : Nat → Nat → List Instr
  | 0, _ => []
  | n + 1, address => code address ++ copies code size n (address + size)

/-- A number of copies of code, each of which may be left out with all that follow. -/
def options (code : Nat → List Instr) (size : Nat) (greedy : Bool) (leave : Nat) :
    Nat → Nat → List Instr
  | 0, _ => []
  | n + 1, address =>
    splitFor greedy (address + 1) leave :: code (address + 1) ++
      options code size greedy leave n (address + 1 + size)

/-- The instructions of a pattern that start at an address and go on behind their last. A loop over
a body that may match the empty text has its test at both ends, so that the body can be left behind
when it has matched nothing. -/
def code : Node → Nat → List Instr
  | empty, _ => []
  | chars set, _ => [.take set]
  | look l, _ => [.check l]
  | group index _ body, address =>
    .save (2 * index) :: code body (address + 1) ++ [.save (2 * index + 1)]
  | repeated 0 none greedy body, address =>
    let test := splitFor greedy (address + 1) (address + body.size + 2)
    test :: code body (address + 1) ++ [if body.takesSome then .jump address else test]
  | repeated (n + 1) none greedy body, address =>
    copies (code body) body.size (n + 1) address ++
      [splitFor greedy (address + n * body.size) (address + (n + 1) * body.size + 1)]
  | repeated least (some most) greedy body, address =>
    let start := address + least * body.size
    let leave := start + (most - least) * (body.size + 1)
    copies (code body) body.size least address ++
      options (code body) body.size greedy leave (most - least) start
  | seq a b, address => code a address ++ code b (address + a.size)
  | alt a b, address =>
    .split (address + 1) (address + a.size + 2) :: code a (address + 1) ++
      .jump (address + a.size + b.size + 2) :: code b (address + a.size + 2)

end Node

/-- The instructions of a whole pattern. -/
structure Program where
  instrs : Array Instr
  /-- The number of slots: two for each group, the whole match included. -/
  slots : Nat
  deriving Inhabited

/-- The program of a pattern. Group 0 is the whole match. -/
def Program.ofNode (node : Node) : Program :=
  let instrs : List Instr := .save 0 :: (node.code 1 ++ [.save 1, .accept])
  ⟨instrs.toArray, 2 * node.groupCount⟩

end Lector.Pattern
