import Lector.Directive.Basic
import Lector.Directive.Discoverable
import Lector.Files.Walk
import Lector.Source.Load
import Lector.Table

/-!
# Registries

A registry holds directives under their names and under the paths of their files. Rule files are
registered when a directory is searched for them, or when they are first referred to.

## Main definitions

* `Registry` - directives by name and path.
* `Registry.registerFile` - registers a rule file.
* `Registry.discover` - registers the rule files below a directory.
* `Registry.ensure`, `Registry.getOrRegister` - registers what a reference leads to, if need be.
-/

namespace Lector

open Files (Found)

/-- Directives under names and paths. -/
abbrev Registry := Table Text Directive

namespace Registry

/-- The names and paths under which there are directives, in the order of texts. -/
def names (r : Registry) : List Text := (Table.keys r).mergeSort Text.le

/-- The registry with the rules of a file under the name of their directive and under the path. -/
def addFile (path : Text) (rules : Source.Rules) (r : Registry) : Registry :=
  let named := r.insert rules.name (.operations rules.operations)
  if path = rules.name then named else named.insert path (.operations rules.operations)

/-- Registers a rule file. Gives the name of its directive, too. -/
def registerFile (files : Files) (path : Text) (r : Registry) :
    Except Error (Text × Registry) :=
  match Source.load files path none none with
  | .error e => .error e
  | .ok rules => .ok (rules.name, addFile path rules r)

/-- Registers the rule files that a walk comes upon, and counts them. Loops are passed over. The
first fault ends this, and what was registered before stays. -/
def registerFound (files : Files) : List Found → Nat → Registry → Except Error Nat × Registry
  | [], count, r => (.ok count, r)
  | .fault path fault :: _, _, r => (.error (.io path (.entry path fault)), r)
  | .directory _ :: found, count, r | .loop _ :: found, count, r =>
    registerFound files found count r
  | .file path :: found, count, r =>
    if Directive.isDiscoverable path then
      match registerFile files path r with
      | .error e => (.error e, r)
      | .ok (_, r) => registerFound files found (count + 1) r
    else registerFound files found count r

/-- Registers the rule files below a directory, and counts them. -/
def discover (files : Files) (directory : Text) (r : Registry) : Except Error Nat × Registry :=
  match files.walk directory with
  | none => (.error (.io directory .noDirectory), r)
  | some found => registerFound files found 0 r

/-- The registry of the rule files below a directory. -/
def ofDirectory (files : Files) (directory : Text) : Except Error Registry :=
  match discover files directory Table.empty with
  | (.error e, _) => .error e
  | (.ok _, r) => .ok r

/-- Registers the file that a reference leads to, unless there is a directive under the reference.
Gives the name of the directive if a file was registered. -/
def ensure (files : Files) (reference : Text) (r : Registry) :
    Except Error (Option Text × Registry) :=
  if r.contains reference then .ok (none, r)
  else if files.isFile reference then
    match registerFile files reference r with
    | .error e => .error e
    | .ok (name, r) => .ok (some name, r)
  else .error (.unknownDirective reference)

def getOrRegister (files : Files) (reference : Text) (r : Registry) :
    Except Error (Directive × Registry) :=
  match ensure files reference r with
  | .error e => .error e
  | .ok (_, r) =>
    match r.get? reference with
    | some directive => .ok (directive, r)
    | none => .error (.unknownDirective reference)

@[simp] theorem get?_addFile (path : Text) (rules : Source.Rules) (r : Registry) (key : Text) :
    (addFile path rules r).get? key =
      if key = path ∨ key = rules.name then some (.operations rules.operations)
      else r.get? key := by
  unfold addFile
  by_cases h : path = rules.name
  · simp [h]
  · by_cases hk : key = path <;> simp [h, hk]

end Registry

end Lector
