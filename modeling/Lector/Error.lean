import Lector.Rule.Fault

/-!
# Errors

Everything that can go wrong, by its cause. What is said of an error is worked out from the cause in
one place.

## Main definitions

* `Error` - the causes.
* `Error.message` - what is said of an error.
* `Error.rootCause` - the error below all pipeline stages.
* `Error.causes` - what is said of the causes behind an error.
* `Error.atSource`, `Error.atRow` - an error with the place where it arose.
-/

namespace Lector

open Rule (RowFault PatternFault)

/-- Why an operation on files fails. -/
inductive IoFault
  | notFound
  | isDirectory
  /-- A part of the path before the last is no directory. -/
  | notADirectoryPart
  | tooManyLinks
  | nameTooLong
  | nulCharacter
  | notText
  | noDirectory
  /-- Something in a directory cannot be reached. -/
  | entry (path : Text) (fault : IoFault)
  deriving DecidableEq, Repr

def IoFault.message : IoFault → Text
  | notFound => "No such file or directory (os error 2)".toList
  | isDirectory => "Is a directory (os error 21)".toList
  | notADirectoryPart => "Not a directory (os error 20)".toList
  | tooManyLinks => "Too many levels of symbolic links (os error 40)".toList
  | nameTooLong => "File name too long (os error 36)".toList
  | nulCharacter => "file name contained an unexpected NUL byte".toList
  | notText => "stream did not contain valid UTF-8".toList
  | noDirectory => "not a directory".toList
  | entry path fault =>
    "IO error for operation on ".toList ++ path ++ ": ".toList ++ fault.message

/-- What can be wrong with the template of an output name. -/
inductive NameFault
  | unclosed (template : Text)
  /-- A placeholder that stands for nothing. -/
  | unknown (name : Text)
  | loneBrace (template : Text)
  | other (message : Text)
  deriving DecidableEq, Repr

def NameFault.message : NameFault → Text
  | unclosed template => "unterminated placeholder in '".toList ++ template ++ ['\'']
  | unknown name => "unknown placeholder '\x7b".toList ++ name ++ "\x7d'".toList
  | loneBrace template => "single '\x7d' in '".toList ++ template ++ ['\'']
  | other message => message

/-- The causes of failure. -/
inductive Error
  | row (source : Text) (row : Nat) (fault : RowFault)
  | unsupportedFormat (format path : Text)
  | unknownDirective (reference : Text)
  /-- A rule's pattern is at fault, at a row of a source if that is known. -/
  | substitution (pattern : Text) (fault : PatternFault) (place : Option (Text × Nat))
  /-- A transformation fails of its own accord. -/
  | transform (directive message : Text)
  | stage (directive : Text) (cause : Error)
  | outputName (fault : NameFault)
  | io (path : Text) (fault : IoFault)
  | yaml
  | json
  deriving Inhabited

namespace Error

def message : Error → Text
  | row source n fault =>
    "Parse error in '".toList ++ source ++ "' (row ".toList ++ Text.ofNat n ++ "): ".toList ++
      fault.message
  | unsupportedFormat format path =>
    "Unsupported format '".toList ++ format ++ "' for '".toList ++ path ++ ['\'']
  | unknownDirective reference =>
    "Unknown directive '".toList ++ reference ++
      "': not a registered name or an existing file".toList
  | substitution pattern fault place =>
    "Substitution error for pattern '".toList ++ pattern ++ "': ".toList ++ fault.message ++
      match place with
      | none => []
      | some (source, n) =>
        " (in '".toList ++ source ++ "', row ".toList ++ Text.ofNat n ++ [')']
  | transform directive text =>
    "Transformation '".toList ++ directive ++ "' failed: ".toList ++ text
  | stage directive _ => "Directive '".toList ++ directive ++ "' failed".toList
  | outputName fault => "Template error: ".toList ++ fault.message
  | io path fault => "IO error for '".toList ++ path ++ "': ".toList ++ fault.message
  | yaml => "YAML parse error".toList
  | json => "JSON parse error".toList

/-- The error below all pipeline stages. -/
def rootCause : Error → Error
  | stage _ cause => rootCause cause
  | e => e

def isStage : Error → Bool
  | stage _ _ => true
  | _ => false

/-- What is said of the causes behind an error, from the nearest on. -/
def causes : Error → List Text
  | stage _ cause => cause.message :: cause.causes
  | io _ (.entry path fault) => [(IoFault.entry path fault).message, fault.message]
  | io _ fault => [fault.message]
  | _ => []

/-- The error with the source where it arose, if it is about a row. -/
def atSource (source : Text) : Error → Error
  | row _ n fault => row source n fault
  | e => e

/-- The error with the source and the row where it arose, if it is about a rule. -/
def atRow (source : Text) (n : Nat) : Error → Error
  | row _ _ fault => row source n fault
  | substitution pattern fault _ => substitution pattern fault (some (source, n))
  | e => e

@[simp] theorem rootCause_stage (directive : Text) (cause : Error) :
    (stage directive cause).rootCause = cause.rootCause := rfl

end Error

end Lector
