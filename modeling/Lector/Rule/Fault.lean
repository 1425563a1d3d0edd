import Lector.Document.Describe
import Lector.Rule.Template

/-!
# What can be wrong with a rule

Rules are refused for one of two reasons: the row that describes the rule cannot be understood, or
its pattern or template is at fault.

## Main definitions

* `RowFault` - what can be wrong with a row or with the document around the rows.
* `PatternFault` - what can be wrong with the pattern and template of a rule.
-/

namespace Lector.Rule

/-- What can be wrong with a row or with the document around the rows. -/
inductive RowFault
  /-- The row has no search pattern, or an empty one. -/
  | emptySearch
  | unknownKind (field : Text)
  | unknownCode (code : Number)
  | kindValue (value : Value)
  | notScalar (value : Value)
  | fieldKey (key : Value)
  | unknownField (name : Text)
  | notARow (value : Value)
  | nullKey
  | rootKind
  | noSubstitutions
  | substitutionsKind (value : Value)
  | badOptions
  deriving Inhabited

def RowFault.message : RowFault → Text
  | emptySearch => "empty search pattern".toList
  | unknownKind field => "invalid pattern kind '".toList ++ field ++ ['\'']
  | unknownCode code => "invalid pattern kind code ".toList ++ code.text
  | kindValue value => "invalid pattern kind ".toList ++ value.describe
  | notScalar value => "expected a scalar field, got ".toList ++ value.describe
  | fieldKey key => "non-string field name ".toList ++ key.describe
  | unknownField name => "unknown field '".toList ++ name ++ ['\'']
  | notARow value => "expected a sequence or mapping row, got ".toList ++ value.describe
  | nullKey => "null search pattern key".toList
  | rootKind => "document root must be a mapping".toList
  | noSubstitutions => "missing 'substitutions' key".toList
  | substitutionsKind value =>
    "'substitutions' must be a list or mapping, got ".toList ++ value.describe
  | badOptions => "invalid 'options'".toList

/-- What can be wrong with the pattern and template of a rule, or with their use. -/
inductive PatternFault
  | unreadable
  | template (fault : Template.Fault)
  /-- A search has been given up. -/
  | search (fault : Pattern.Fault)
  deriving DecidableEq, Repr

def PatternFault.message : PatternFault → Text
  | unreadable => "<regex>".toList
  | template fault => fault.message
  | search fault => fault.message.toList

end Lector.Rule
