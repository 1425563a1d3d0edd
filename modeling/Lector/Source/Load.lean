import Lector.Document.Json
import Lector.Files.Basic
import Lector.Source.Format
import Lector.Source.Structured

/-!
# Rules of a file

The text of a rule file is read in the format of the file. The directive is named by the caller, or
by the options in the file, or after the file. The format is settled before the file is read.

## Main definitions

* `readText` - the operations of a text in a format.
* `loadText` - the rules of a file with a given text.
* `load` - the rules of the file at a path.
-/

namespace Lector.Source

open Rule (Options Operation)

/-- The operations of a text in a format and the options that it gives. -/
def readText (format : Format) (source t : Text) : Except Error (Options × List Operation) :=
  match format with
  | .delimited => readDelimited {} source t
  | .yaml =>
    match Yaml.readValue? t with
    | some v => readDocument source {} v
    | none => .error .yaml
  | .json =>
    match Json.read? t with
    | some v => readDocument source {} v
    | none => .error .json

def loadText (path : Text) (format : Format) (name : Option Text) (t : Text) :
    Except Error Rules :=
  (readText format path t).map fun (options, ops) =>
    ⟨(name <|> options.name).getD (nameOfPath path), ops⟩

/-- The rules of the file at a path. The caller may name the format and the directive. -/
def load (files : Files) (path : Text) (tag name : Option Text) : Except Error Rules :=
  match Format.detect path tag with
  | .error e => .error e
  | .ok format =>
    match files.readText path with
    | .error fault => .error (.io path fault)
    | .ok t => loadText path format name t

end Lector.Source
