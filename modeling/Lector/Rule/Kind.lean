import Lector.Text.Basic
import Lector.Text.Digits

/-!
# Kinds of rules

A rule looks for a regular expression or for a literal text. Rule files name the kind by a code or
by a word.

## Main definitions

* `Kind` - the two kinds.
* `Kind.ofCode?`, `Kind.read?` - the kind with a code or under a word.
-/

namespace Lector.Rule

/-- What a rule looks for. -/
inductive Kind
  | regex
  | literal
  deriving DecidableEq, Repr, Inhabited

namespace Kind

def code : Kind → Nat
  | regex => 0
  | literal => 1

def name : Kind → String
  | regex => "regex"
  | literal => "literal"

def ofCode? (code : Int) : Option Kind :=
  if code = 0 then some regex else if code = 1 then some literal else none

/-- The kind written in a field: a code, or one of the words `regex`, `re`, `literal` and `fixed` in
any case, with white space around it. -/
def read? (field : Text) : Option Kind :=
  let field := Text.trim field
  match Text.readInt64? field with
  | some code => ofCode? code
  | none =>
    let word := Text.lower field
    if word = "regex".toList ∨ word = "re".toList then some regex
    else if word = "literal".toList ∨ word = "fixed".toList then some literal
    else none

@[simp] theorem ofCode?_code (k : Kind) : ofCode? k.code = some k := by
  cases k <;> rfl

end Kind

end Lector.Rule
