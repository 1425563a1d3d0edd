import Lector.Files.Path

/-!
# Files and their directives

Which files of a directory are taken for rule files, and which directive an input file gets if none
is asked for. Both are decided by the path.

## Main definitions

* `isDiscoverable` - whether a file is taken for a rule file.
* `defaultDirective` - the directive for an input file.
-/

namespace Lector.Directive

/-- Whether a file in a directory is taken for a rule file: it is not hidden, its name does not
start with a low line, and its extension is none of source code. -/
def isDiscoverable (path : Text) : Bool :=
  match Path.fileName? path with
  | none | some [] => false
  | some (c :: _) =>
    c ≠ '.' && c ≠ '_' &&
      match Path.extension? path with
      | none => true
      | some extension =>
        let extension := Text.lower extension
        !"py".toList.isPrefixOf extension && extension ≠ "rs".toList

/-- The name of the directive for an input file by its extension. -/
def defaultDirective (path : Text) : Text :=
  let extension := Text.lower ((Path.extension? path).getD [])
  if extension = "tex".toList then "default_tex".toList
  else if extension = "html".toList then "default_html".toList
  else if extension = "rtf".toList then "default_rtf".toList
  else "default_txt".toList

end Lector.Directive
