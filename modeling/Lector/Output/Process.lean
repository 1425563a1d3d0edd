import Lector.Files.Basic
import Lector.Output.Name

/-!
# Processing a file

A file is read, its text is transformed, and the result is written to a file whose name is made by
a template. Nothing is written unless all before succeeds.

## Main definitions

* `process` - processes a file.
-/

namespace Lector.Output

/-- Processes the file at a path. Gives the path of the output and the files as they are then. -/
def process (files : Files) (transform : Text → Except Error Text) (template input : Text) :
    Except Error (Text × Files) :=
  match files.readText input with
  | .error fault => .error (.io input fault)
  | .ok t => do
    let result ← transform t
    let output ← render files.herePath template input
    match files.write output result with
    | .error fault => .error (.io output fault)
    | .ok files => .ok (output, files)

end Lector.Output
