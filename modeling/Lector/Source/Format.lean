import Lector.Error
import Lector.Files.Path

/-!
# Formats of rule files

Rule files are delimited text, YAML or JSON. The format is given by a tag or by the extension of the
file; a file with another extension is delimited text.

## Main definitions

* `Format` - the formats.
* `Format.ofTag?`, `Format.detect` - the format for a tag and for a path.
* `nameOfPath` - the name of a directive by the path of its file.
-/

namespace Lector.Source

/-- The formats of rule files. -/
inductive Format
  | delimited
  | yaml
  | json
  deriving DecidableEq, Repr

namespace Format

def name : Format → String
  | delimited => "Delimited"
  | yaml => "Yaml"
  | json => "Json"

/-- The format for a tag, in any case. -/
def ofTag? (tag : Text) : Option Format :=
  let tag := Text.lower tag
  let isOneOf := fun names : List String => names.any fun name => name.toList == tag
  if isOneOf ["json"] then some json
  else if isOneOf ["yaml", "yml"] then some yaml
  else if isOneOf ["txt", "tsv", "text", "patterns"] then some delimited
  else none

/-- The format of a file. A tag that is given must be known, and pickled files cannot be read. -/
def detect (path : Text) (tag : Option Text) : Except Error Format :=
  match tag with
  | some tag =>
    match ofTag? tag with
    | some format => .ok format
    | none => .error (.unsupportedFormat tag path)
  | none =>
    match Path.extension? path with
    | some extension =>
      if Text.lower extension = "pickle".toList then .error (.unsupportedFormat extension path)
      else .ok ((ofTag? extension).getD delimited)
    | none => .ok delimited

end Format

/-- The name of a directive by the path of its file: the file name up to its first dot, unless that
is in front. -/
def nameOfPath (path : Text) : Text :=
  let name := (Path.fileName? path).getD []
  match Text.cutAt? '.' name with
  | some (stem, _) => if stem.isEmpty then name else stem
  | none => name

end Lector.Source
