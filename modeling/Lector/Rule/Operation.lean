import Lector.Error
import Lector.Rule.Kind

/-!
# Operations

An operation is one rule made ready for use: it replaces what its search pattern matches in a text.
Rules in a list are applied in order, each to the result of the one before, and the first that fails
ends the work.

## Main definitions

* `Text.splitOn` - the pieces of a text between the occurrences of another.
* `splice` - a text with its matches replaced.
* `Operation` - rules made ready.
* `Operation.make` - makes a rule ready.
* `Operation.replace?`, `Operation.apply` - applies a rule to a text.
* `applyAll` - applies the rules of a list.
-/

namespace Lector

/-- The pieces of a text between the leftmost occurrences of another that do not overlap. The first
argument counts the characters of an occurrence that are still to be passed over. -/
def Text.splitFrom (sep : Text) : Nat → Text → List Text
  | _, [] => [[]]
  | skip + 1, _ :: t => splitFrom sep skip t
  | 0, c :: t =>
    if sep.isPrefixOf (c :: t) then [] :: splitFrom sep (sep.length - 1) t
    else match splitFrom sep 0 t with
      | [] => [[c]]
      | piece :: pieces => (c :: piece) :: pieces

/-- The pieces of a text between the leftmost occurrences of a text that is not empty. -/
def Text.splitOn (sep t : Text) : List Text := splitFrom sep 0 t

namespace Rule

open Pattern (Match Matcher Run)

/-- What a rule looks for, made ready, with what it puts in the place. -/
inductive Action
  | regex (matcher : Matcher) (template : Template)
  | literal

/-- A rule made ready for use. -/
structure Operation where
  search : Text
  replacement : Text
  comment : Option Text
  action : Action

/-- The part of a text from a position on with its matches replaced. The matches are taken to come in
order, none before the position and none before the end of the one in front of it. -/
def splice (t : Text) (replace : Match → Text) : Nat → List Match → Text
  | position, [] => t.drop position
  | position, m :: ms =>
    (t.drop position).take (m.whole.start - position) ++ replace m ++
      splice t replace m.whole.stop ms

/-- A text with the matches of a run replaced, or nothing if there are none. A fault spoils all. -/
def replaceRun (t : Text) (template : Template) (run : Run) : Except Pattern.Fault (Option Text) :=
  match run.fault, run.found with
  | some fault, _ => .error fault
  | none, [] => .ok none
  | none, ms => .ok (some (splice t (fun m => template.expand t m) 0 ms))

namespace Operation

/-- What the rule looks for. -/
def kind (op : Operation) : Kind :=
  match op.action with
  | .regex _ _ => .regex
  | .literal => .literal

/-- Whether two rules are alike in all that is written of them. -/
def same (a b : Operation) : Bool :=
  a.search == b.search && a.replacement == b.replacement && a.kind == b.kind &&
    a.comment == b.comment

instance : BEq Operation := ⟨same⟩

def makeAction (search replacement : Text) : Kind → Except PatternFault Action
  | .literal => .ok .literal
  | .regex =>
    match Matcher.compile? search with
    | none => .error .unreadable
    | some matcher =>
      match Template.parse matcher.groups replacement with
      | .ok template => .ok (.regex matcher template)
      | .error fault => .error (.template fault)

def make (search replacement : Text) (kind : Kind) (comment : Option Text) :
    Except Error Operation :=
  if search.isEmpty then .error (.row [] 0 .emptySearch)
  else match makeAction search replacement kind with
    | .ok action => .ok ⟨search, replacement, comment, action⟩
    | .error fault => .error (.substitution search fault none)

/-- What the rule makes of a text, or nothing if it finds nothing to replace. -/
def replace? (op : Operation) (t : Text) : Except Error (Option Text) :=
  match op.action with
  | .regex matcher template =>
    match replaceRun t template (matcher.run t) with
    | .ok result => .ok result
    | .error fault => .error (.substitution op.search (.search fault) none)
  | .literal =>
    match Text.splitOn op.search t with
    | _ :: _ :: _ => .ok (some (Text.join op.replacement (Text.splitOn op.search t)))
    | _ => .ok none

/-- What the rule makes of a text. -/
def apply (op : Operation) (t : Text) : Except Error Text :=
  (op.replace? t).map (·.getD t)

end Operation

/-- What the rules of a list make of a text, one after another. -/
def applyAll (ops : List Operation) (t : Text) : Except Error Text :=
  ops.foldlM (fun t op => op.apply t) t

/-- A note that a pattern is about to be applied. -/
structure Note where
  /-- The place of the rule in its list. -/
  index : Nat
  search : Text
  replacement : Text

/-- What the rules of a list make of a text, with notes on the patterns that were applied. -/
def applyNoting : Nat → List Operation → Text → List Note × Except Error Text
  | _, [], t => ([], .ok t)
  | index, op :: ops, t =>
    let note := if op.kind = .regex then [Note.mk index op.search op.replacement] else []
    match op.apply t with
    | .error e => (note, .error e)
    | .ok t =>
      let (notes, result) := applyNoting (index + 1) ops t
      (note ++ notes, result)

theorem applyAll_nil (t : Text) : applyAll [] t = .ok t := rfl

theorem applyAll_cons (op : Operation) (ops : List Operation) (t : Text) :
    applyAll (op :: ops) t = (op.apply t).bind (applyAll ops) := rfl

/-- Noting changes nothing. -/
theorem applyNoting_snd (index : Nat) (ops : List Operation) (t : Text) :
    (applyNoting index ops t).2 = applyAll ops t := by
  induction ops generalizing index t with
  | nil => rfl
  | cons op ops ih =>
    rw [applyAll_cons]
    simp only [applyNoting]
    cases op.apply t with
    | error e => rfl
    | ok u => simpa [Except.bind] using ih (index + 1) u

end Rule

end Lector
