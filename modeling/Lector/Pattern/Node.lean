import Lector.Pattern.Look

/-!
# Pattern nodes

The meaning of a pattern of the plain dialect, in which every choice is made from left to right and
the first that leads to a match wins. Sequences and choices have two parts; longer ones nest to the
right.

## Main definitions

* `Node` - patterns.
* `Node.concat`, `Node.choice` - the sequence and the choice of a list of patterns.
* `Node.groups`, `Node.groupCount` - the groups of a pattern and their number.
* `Node.weight` - an estimate of the room that the pattern takes, by which huge ones are refused.
-/

namespace Lector.Pattern

/-- A pattern of the plain dialect. -/
inductive Node
  | empty
  | chars (set : CharSet)
  | look (look : Look)
  | group (index : Nat) (name : Option Text) (body : Node)
  /-- Matches the body repeatedly, as often as possible if `greedy` and as rarely as possible if
  not. -/
  | repeated (least : Nat) (most : Option Nat) (greedy : Bool) (body : Node)
  | seq (first second : Node)
  /-- Matches the first pattern, or else the second. -/
  | alt (first second : Node)
  deriving Inhabited

namespace Node

def concat : List Node → Node
  | [] => empty
  | [n] => n
  | n :: m :: rest => seq n (concat (m :: rest))

def choice : List Node → Node
  | [] => chars CharSet.empty
  | [n] => n
  | n :: m :: rest => alt n (choice (m :: rest))

def matchesOnlyEmpty : Node → Bool
  | empty => true
  | chars _ => false
  | look _ => true
  | group _ _ body => body.matchesOnlyEmpty
  | repeated _ most _ body => most == some 0 || body.matchesOnlyEmpty
  | seq a b => a.matchesOnlyEmpty && b.matchesOnlyEmpty
  | alt a b => a.matchesOnlyEmpty && b.matchesOnlyEmpty

/-- Whether every match takes at least one character. -/
def takesSome : Node → Bool
  | empty => false
  | chars set => set != CharSet.empty
  | look _ => false
  | group _ _ body => body.takesSome
  | repeated least _ _ body => least != 0 && body.takesSome
  | seq a b => a.takesSome || b.takesSome
  | alt a b => a.takesSome && b.takesSome

/-- A repetition. What is repeated no times at all leaves nothing behind, and repeating the empty
text is the same as having it once. -/
def ofRepetition (least : Nat) (most : Option Nat) (greedy : Bool) (body : Node) : Node :=
  let (least, most) :=
    if body.matchesOnlyEmpty then (min least 1, some (min (most.getD 1) 1)) else (least, most)
  if most = some 0 then empty
  else if least = 1 ∧ most = some 1 then body
  else repeated least most greedy body

/-- The indices and names of the groups in a pattern, from left to right. -/
def groups : Node → List (Nat × Option Text)
  | empty | chars _ | look _ => []
  | group index name body => (index, name) :: body.groups
  | repeated _ _ _ body => body.groups
  | seq a b | alt a b => a.groups ++ b.groups

/-- The number of groups of a pattern, the whole match included: up to the greatest index in use. -/
def groupCount (node : Node) : Nat := ((node.groups.map (·.1 + 1)).max?).getD 1

theorem lt_groupCount {node : Node} {g : Nat × Option Text} (h : g ∈ node.groups) :
    g.1 < node.groupCount :=
  List.le_max?_getD_of_mem (List.mem_map_of_mem h)

/-- The names in a pattern, with the indices of their groups. -/
def names (node : Node) : List (Text × Nat) :=
  node.groups.filterMap fun g => g.2.map fun name => (name, g.1)

/-- What has a name is a group of the pattern. -/
theorem lt_groupCount_of_mem_names (node : Node) : ∀ p ∈ node.names, p.2 < node.groupCount := by
  intro p hp
  obtain ⟨g, hg, hname⟩ := List.mem_filterMap.mp hp
  obtain ⟨name, -, rfl⟩ := Option.map_eq_some_iff.mp hname
  exact lt_groupCount hg

/-- The number of bytes of a character in UTF-8. -/
def utf8Length (code : Nat) : Nat :=
  if code < 0x80 then 1 else if code < 0x800 then 2 else if code < 0x10000 then 3 else 4

/-- The room that a set of characters takes. -/
def setWeight (set : CharSet) : Nat :=
  match set.ranges.toList with
  | [] => 32
  | [(a, b)] => if a = b then 32 * utf8Length a else 64 * utf8Length b
  | ranges => 32 + 75 * ranges.length

/-- An estimate of the room that a pattern takes once its repetitions are written out. -/
def weight : Node → Nat
  | empty => 32
  | chars set => setWeight set
  | look _ => 32
  | group _ _ body => 64 + body.weight
  | repeated least none _ body => max least 1 * body.weight + 48
  | repeated least (some most) _ body => most * body.weight + (most - least) * 48
  | seq a b => a.weight + b.weight
  | alt a b => a.weight + b.weight + 48

end Node

end Lector.Pattern
