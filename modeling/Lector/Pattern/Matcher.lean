import Lector.Pattern.Extended.Machine
import Lector.Pattern.Extended.Parser

/-!
# Matchers

A matcher is a pattern made ready for use. Patterns are read in the plain dialect if they can be,
and in the extended dialect if not. In both, `\Z` stands for the end of the text like `\z`.

## Main definitions

* `translate` - a pattern with `\z` in the place of `\Z`.
* `Groups` - the number of groups of a pattern with their names.
* `Matcher` - a pattern made ready.
* `Matcher.compile?` - the matcher of a pattern.
* `Matcher.run` - the matches in a text.
-/

namespace Lector.Pattern

/-- Replaces `\Z` by `\z`; a backslash belongs to the character behind it. -/
def translate : Text → Text
  | '\\' :: c :: t => '\\' :: (if c = 'Z' then 'z' else c) :: translate t
  | c :: t => c :: translate t
  | [] => []

/-- The groups of a pattern. -/
structure Groups where
  /-- The number of groups, the whole match included. -/
  count : Nat
  names : List (Text × Nat)
  /-- Only groups of the pattern have names. -/
  named : ∀ p ∈ names, p.2 < count := by decide
  deriving DecidableEq, Repr

/-- The group with a name. -/
def Groups.named? (g : Groups) (name : Text) : Option Nat := g.names.lookup name

theorem Groups.lt_of_named? {g : Groups} {name : Text} {index : Nat}
    (h : g.named? name = some index) : index < g.count := by
  obtain ⟨_, _, hnames, -⟩ := List.lookup_eq_some_iff.mp h
  exact g.named (name, index) (hnames ▸ by simp)

/-- What runs a pattern. -/
inductive Engine
  /-- A program of the plain dialect, whose threads run side by side. -/
  | plain (program : Program)
  /-- The code of a tree, whose ways are tried one after another, with its number of slots. -/
  | extended (ops : Array Extended.Op) (slots : Nat)
  deriving Inhabited

/-- A pattern made ready for use. -/
structure Matcher where
  engine : Engine
  groups : Groups

namespace Matcher

/-- The matcher of a pattern of the plain dialect, with names for its groups. -/
def ofNode (node : Node) (names : List (Text × Nat))
    (named : ∀ p ∈ names, p.2 < node.groupCount := by decide) : Matcher :=
  ⟨.plain (.ofNode node), ⟨node.groupCount, names, named⟩⟩

/-- The matcher of a pattern of the extended dialect. A pattern that needs none of the additions
runs as one of the plain dialect. A group that is repeated no times at all is gone there, and so is
its name. -/
def ofSource? (source : Extended.Source) : Option Matcher :=
  if source.tree.isHard source.referred then do
    let (ops, slots) ← Extended.compile? source.referred source.groups source.tree
    return ⟨.extended ops slots, source.groups + 1, source.names,
      fun p hp => Nat.lt_succ_of_le (source.named p hp)⟩
  else do
    let node ← Plain.compile? (source.tree.plain 0)
    return ofNode node (source.names.filter (·.2 < node.groupCount))
      fun _ hp => of_decide_eq_true (List.mem_filter.mp hp).2

/-- The matcher of a pattern, if it can be read in one of the dialects. -/
def compile? (pattern : Text) : Option Matcher :=
  let pattern := translate pattern
  match Plain.compile? pattern with
  | some node => some (ofNode node node.names node.lt_groupCount_of_mem_names)
  | none => Extended.readPattern? pattern >>= ofSource?

/-- The first match from a position of a text on. -/
def search (m : Matcher) (subject : Extended.Subject) (c : Cursor) :
    Except Fault (Option Match) :=
  match m.engine with
  | .plain program =>
    .ok (program.search c.before c.position c.rest >>= (Match.ofSlots? · m.groups.count))
  | .extended ops slots =>
    (Extended.search ops slots subject c.position).map (· >>= (Match.ofSlots? · m.groups.count))

def run (m : Matcher) (t : Text) : Run :=
  findAll (m.search (Extended.Subject.ofText t)) none (Cursor.start t)

end Matcher

end Lector.Pattern
