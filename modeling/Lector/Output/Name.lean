import Lector.Error
import Lector.Files.Path

/-!
# Output names

The name of an output file is written by a template: text with placeholders in braces, which stand
for parts of the input's path. Braces that stand for themselves are doubled.

## Main definitions

* `Placeholder`, `Placeholder.value` - the placeholders and what they stand for.
* `Part` - the parts of a template.
* `parse` - the parts of a written template.
* `print` - a template as it is written.
* `render` - the output name for an input.
-/

namespace Lector.Output

/-- A placeholder of a template. -/
inductive Placeholder
  | input
  /-- The path without its extension. -/
  | root
  /-- The extension with its dot. -/
  | extension
  | baseName
  /-- The file name without its extension. -/
  | baseRoot
  | directory
  | workingDirectory
  deriving DecidableEq, Repr

namespace Placeholder

def name : Placeholder → String
  | input => "inputfile"
  | root => "fnroot"
  | extension => "fnext"
  | baseName => "fnbasename"
  | baseRoot => "fnbase_noext"
  | directory => "fndir"
  | workingDirectory => "cwd"

def all : List Placeholder :=
  [input, root, extension, baseName, baseRoot, directory, workingDirectory]

def ofName? (name : Text) : Option Placeholder :=
  all.find? fun p => p.name.toList == name

end Placeholder

/-- The extension of a path with its dot, or nothing. -/
def extensionOf (path : Text) : Text :=
  match Path.extension? path with
  | some extension => '.' :: extension
  | none => []

/-- The path without its extension, if it ends with that. -/
def rootOf (path : Text) : Text := (Text.dropSuffix? (extensionOf path) path).getD path

/-- The file name of a path, or nothing. -/
def nameOf (path : Text) : Text := (Path.fileName? path).getD []

/-- What a placeholder stands for, given the working directory and the path of the input. -/
def Placeholder.value (directory path : Text) : Placeholder → Text
  | input => path
  | root => rootOf path
  | extension => extensionOf path
  | baseName => nameOf path
  | baseRoot => nameOf (rootOf path)
  | .directory => (Path.parent? path).getD []
  | workingDirectory => directory

/-- A part of a template. -/
inductive Part
  | char (c : Char)
  | placeholder (p : Placeholder)
  deriving DecidableEq, Repr

/-- The parts of a written template, `whole` being all of it. -/
def parseFrom (whole : Text) : Text → Except NameFault (List Part)
  | [] => .ok []
  | c :: t =>
    if c = '\x7b' then
      if t.head? = some '\x7b' then (parseFrom whole (t.drop 1)).map (.char c :: ·)
      else match _h : Text.cutAt? '\x7d' t with
        | none => .error (.unclosed whole)
        | some (name, _) =>
          match Placeholder.ofName? name with
          | none => .error (.unknown name)
          | some p => (parseFrom whole (t.drop (name.length + 1))).map (.placeholder p :: ·)
    else if c = '\x7d' then
      if t.head? = some '\x7d' then (parseFrom whole (t.drop 1)).map (.char c :: ·)
      else .error (.loneBrace whole)
    else (parseFrom whole t).map (.char c :: ·)
termination_by t => t.length
decreasing_by all_goals simp only [List.length_drop, List.length_cons]; omega

def parse (template : Text) : Except NameFault (List Part) := parseFrom template template

def Part.print : Part → Text
  | char c => if c = '\x7b' ∨ c = '\x7d' then [c, c] else [c]
  | placeholder p => '\x7b' :: p.name.toList ++ ['\x7d']

def print (parts : List Part) : Text := parts.flatMap Part.print

def Part.value (directory path : Text) : Part → Text
  | char c => [c]
  | placeholder p => p.value directory path

/-- The output name that a template gives for an input. -/
def render (directory template path : Text) : Except Error Text :=
  match parse template with
  | .ok parts => .ok (parts.flatMap (Part.value directory path))
  | .error fault => .error (.outputName fault)

/-- The template in use unless another is given: `.out` goes in front of the extension. -/
def defaultTemplate : Text := "\x7bfnroot\x7d.out\x7bfnext\x7d".toList

end Lector.Output
