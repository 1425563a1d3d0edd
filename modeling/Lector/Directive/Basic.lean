import Lector.Rule.Operation

/-!
# Directives

A transformation makes one text of another. It is either a function that was handed in or the
substitutions of a list of rules. Transformations are told apart by numbers, since two that do the
same need not be the same. A directive is what stands under a name: rules or a function.

## Main definitions

* `Transformation` - transformations of texts.
* `Transformation.apply` - what a transformation makes of a text.
* `Transformation.same` - whether two transformations are one and the same.
* `Directive` - what can be registered under a name.
-/

namespace Lector

open Rule (Operation Note applyAll applyNoting)

/-- A transformation of texts. Functions and substitutions are numbered, each on their own. -/
inductive Transformation
  | function (number : Nat) (run : Text → Except Error Text)
  /-- The rules of a list, under a name or none, which may note the patterns that they apply. -/
  | substitution (number : Nat) (name : Option Text) (operations : List Operation) (notes : Bool)

namespace Transformation

def apply : Transformation → Text → Except Error Text
  | function _ run, t => run t
  | substitution _ _ operations _, t => applyAll operations t

def notes : Transformation → Text → List Note
  | substitution _ _ operations true, t => (applyNoting 0 operations t).1
  | _, _ => []

/-- Whether two transformations are one and the same. -/
def same : Transformation → Transformation → Bool
  | function m _, function n _ => m == n
  | substitution m _ _ _, substitution n _ _ _ => m == n
  | _, _ => false

@[simp] theorem apply_function (n : Nat) (run : Text → Except Error Text) (t : Text) :
    (function n run).apply t = run t := rfl

@[simp] theorem apply_substitution (n : Nat) (name : Option Text) (operations : List Operation)
    (notes : Bool) (t : Text) :
    (substitution n name operations notes).apply t = applyAll operations t := rfl

end Transformation

/-- What stands under a name. -/
inductive Directive
  | operations (operations : List Operation)
  | function (transformation : Transformation)

end Lector
