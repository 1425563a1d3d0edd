import Lector.Directive.Registry
import Lector.Latex.Convert

/-!
# Built-in directives

The conversion of LaTeX is there without any rule file, under two names.

## Main definitions

* `Registry.addBuiltins` - the registry with the built-in directives.
-/

namespace Lector

/-- The second name of the directive that converts LaTeX. -/
def Latex.aliasName : Text := "pylatexenc".toList

/-- The registry with the built-in directives. Their transformations are numbered from a number
on. -/
def Registry.addBuiltins (number : Nat) (r : Registry) : Registry :=
  (r.insert Latex.directiveName (.function (.function number Latex.toText))).insert
    Latex.aliasName (.function (.function (number + 1) Latex.toText))

end Lector
