import Lector.Error
import Lector.Files.Path
import Lector.Table

/-!
# Files

There are files, directories and links at locations. A path leads to a location: its parts are
followed one after another from the root or from the working directory, and links on the way are
followed too.

## Main definitions

* `Files.Location`, `Files.Entry`, `Files` - what is at the locations.
* `Files.locate` - the location that a path leads to.
* `Files.read`, `Files.readText`, `Files.isFile` - what is at a path.
* `Files.write`, `Files.link`, `Files.delete`, `Files.makeDirectories` - the files after a change
  at a path.
* `Files.namesIn` - the names in a directory.

## Main results

* `Files.get?_set` - what is at a location after a change.
-/

namespace Lector

/-- The names that lead from the root to a place. -/
abbrev Files.Location := List Text

/-- What can be at a location. -/
inductive Files.Entry
  | file (bytes : ByteArray)
  | directory
  | link (target : Text)

/-- Files, with a working directory. -/
structure Files where
  /-- What is at the locations below the root. -/
  entries : Table Files.Location Files.Entry
  /-- The working directory. -/
  here : Files.Location

namespace Files

/-- What is at a location. There is always a directory at the root. -/
def get? (s : Files) (l : Location) : Option Entry :=
  if l = [] then some .directory else s.entries.get? l

def set (s : Files) (l : Location) (e : Entry) : Files :=
  { s with entries := s.entries.insert l e }

@[simp] theorem here_set (s : Files) (l : Location) (e : Entry) : (s.set l e).here = s.here := rfl

/-- A change at one location leaves all others as they are. -/
theorem get?_set (s : Files) {l : Location} (hl : l ≠ []) (e : Entry) (m : Location) :
    (s.set l e).get? m = if m = l then some e else s.get? m := by
  by_cases hm : m = []
  · simp [get?, hm, hl.symm]
  · simp [get?, set, hm]

/-- The files with nothing at a location and below it. -/
def remove (s : Files) (l : Location) : Files :=
  { s with entries :=
    (s.entries.keys.filter fun m => l.isPrefixOf m).foldl (fun t m => t.erase m) s.entries }

def byteSize (t : Text) : Nat := t.foldl (fun n c => n + c.utf8Size) 0

/-- The greatest number of bytes in a name. -/
def nameLimit : Nat := 255

/-- A number of bytes that no path reaches. -/
def pathLimit : Nat := 4096

/-- The greatest number of links that are followed for one path. -/
def linkLimit : Nat := 40

/-- Where a path starts: at the root or at a location. -/
def origin (l : Location) (path : Text) : Location := if path.head? = some '/' then [] else l

/-- Follows the parts of a path from a location on, with a number of links that may still be
followed. The last part need not lead to anything. A path in use to create a file must not end with
a slash. -/
def follow (s : Files) (creating : Bool) (links : Nat) (l : Location) (parts : List Text) :
    Except IoFault Location :=
  match parts with
  | [] => .ok l
  | part :: parts =>
    match s.get? l with
    | none => .error .notFound
    | some (.file _) | some (.link _) => .error .notADirectoryPart
    | some .directory =>
      if Path.isIdle part then follow s creating links l parts
      else if part = ['.', '.'] then follow s creating links l.dropLast parts
      else if nameLimit < byteSize part then .error .nameTooLong
      else if creating ∧ parts ≠ [] ∧ parts.all List.isEmpty then .error .isDirectory
      else match s.get? (l ++ [part]) with
        | some (.link target) =>
          match links with
          | 0 => .error .tooManyLinks
          | links + 1 =>
            if target.isEmpty then .error .notFound
            else follow s creating links (origin l target) (Text.splitAtChar '/' target ++ parts)
        | _ => follow s creating links (l ++ [part]) parts
termination_by (links, parts.length)

/-- The location that a path leads to. There need not be anything there, but there is a directory
that it would be in. -/
def locate (s : Files) (creating : Bool) (path : Text) : Except IoFault Location :=
  if path.contains '\x00' then .error .nulCharacter
  else if path.isEmpty then .error .notFound
  else if pathLimit ≤ byteSize path then .error .nameTooLong
  else s.follow creating linkLimit (origin s.here path) (Text.splitAtChar '/' path)

def look (s : Files) (path : Text) : Except IoFault Entry :=
  match s.locate false path with
  | .error fault => .error fault
  | .ok l =>
    match s.get? l with
    | none => .error .notFound
    | some e => .ok e

def isFile (s : Files) (path : Text) : Bool :=
  match s.look path with
  | .ok (.file _) => true
  | _ => false

def read (s : Files) (path : Text) : Except IoFault ByteArray :=
  match s.look path with
  | .error fault => .error fault
  | .ok (.file bytes) => .ok bytes
  | .ok .directory => .error .isDirectory
  | .ok (.link _) => .error .tooManyLinks

def decode? (bytes : ByteArray) : Option Text := (String.fromUTF8? bytes).map String.toList

def encode (t : Text) : ByteArray := (String.ofList t).toUTF8

def readText (s : Files) (path : Text) : Except IoFault Text :=
  match s.read path with
  | .error fault => .error fault
  | .ok bytes =>
    match decode? bytes with
    | some t => .ok t
    | none => .error .notText

def writeBytes (s : Files) (path : Text) (bytes : ByteArray) : Except IoFault Files :=
  match s.locate true path with
  | .error fault => .error fault
  | .ok l =>
    match s.get? l with
    | some .directory => .error .isDirectory
    | _ => .ok (s.set l (.file bytes))

def write (s : Files) (path t : Text) : Except IoFault Files := s.writeBytes path (encode t)

/-- The location of a path itself: a link there is not followed. -/
def place? (s : Files) (path : Text) : Option Location :=
  match Path.parent? path, Path.fileName? path with
  | some parent, some name =>
    if parent.isEmpty then some (s.here ++ [name])
    else (s.locate false parent).toOption.map (· ++ [name])
  | _, _ => none

/-- The files with a link at a path, if there is a directory for it. -/
def link (s : Files) (path target : Text) : Files :=
  match s.place? path with
  | some l => s.set l (.link target)
  | none => s

def delete (s : Files) (path : Text) : Files :=
  match s.place? path with
  | some l => s.remove l
  | none => s

/-- The files with a directory at a path and at every path on the way there. -/
def makeDirectories (s : Files) (path : Text) : Files :=
  let parts := Text.splitAtChar '/' path
  let paths := (List.range parts.length).map fun n => Text.join ['/'] (parts.take (n + 1))
  paths.foldl (fun s path =>
    match s.locate false path with
    | .error _ => s
    | .ok l => if (s.get? l).isNone then s.set l .directory else s) s

/-- The names in the directory at a location, in the order of texts. -/
def namesIn (s : Files) (l : Location) : List Text :=
  (s.entries.keys.filterMap fun m =>
    match m.getLast? with
    | some name => if m.dropLast = l then some name else none
    | none => none).mergeSort Text.le

def pathOf (l : Location) : Text := if l.isEmpty then ['/'] else l.flatMap ('/' :: ·)

def herePath (s : Files) : Text := pathOf s.here

/-- A location and those above it, up to the root. -/
def upwards : Location → List Location
  | [] => [[]]
  | name :: l => (upwards l).map (name :: ·) ++ [[]]

end Files

end Lector
