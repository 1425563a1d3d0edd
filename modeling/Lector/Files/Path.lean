import Lector.Text.Basic

/-!
# Paths

A path is a text whose parts are set apart by slashes. Empty parts and single dots do not count,
except for a dot in front. Nothing is looked up: all is decided by the text.

## Main definitions

* `Path.fileName?`, `Path.parent?` - the last part and the path without it.
* `Path.extension?` - what follows the last dot of the file name.
* `Path.join` - a path followed by another.
-/

namespace Lector.Path

/-- The slash or the dot that a path starts with. -/
def lead : Text → Text
  | '/' :: _ => ['/']
  | ['.'] => ['.']
  | '.' :: '/' :: _ => ['.']
  | _ => []

/-- What follows the lead of a path. -/
def body (p : Text) : Text := p.drop (lead p).length

@[simp] theorem lead_append_body (p : Text) : lead p ++ body p = p := by
  unfold body lead
  split <;> simp

/-- Whether a part does not count. -/
def isIdle (part : Text) : Bool := part == [] || part == ['.']

/-- The last part that counts, with what stands before the slash in front of it. -/
def popLast (body : Text) : Option (Text × Text) :=
  match _h : Text.cutLast? '/' body with
  | none => if isIdle body then none else some (body, [])
  | some (front, part) => if isIdle part then popLast front else some (part, front)
termination_by body.length
decreasing_by exact Text.length_lt_of_cutLast? _h

/-- Drops what does not count from the end. -/
def trimBack (body : Text) : Text :=
  match _h : Text.cutLast? '/' body with
  | none => if isIdle body then [] else body
  | some (front, part) => if isIdle part then trimBack front else body
termination_by body.length
decreasing_by exact Text.length_lt_of_cutLast? _h

/-- The last part of a path, unless that leads upwards. -/
def fileName? (p : Text) : Option Text :=
  (popLast (body p)).bind fun (part, _) => if part = ['.', '.'] then none else some part

/-- The path without its last part. -/
def parent? (p : Text) : Option Text :=
  match popLast (body p) with
  | some (_, front) => some (lead p ++ trimBack front)
  | none => if lead p = ['.'] then some [] else none

/-- What stands before and after the last dot of a file name; a dot in front does not count. -/
def splitName (name : Text) : Text × Option Text :=
  match Text.cutLast? '.' name with
  | some (stem, extension) => if stem.isEmpty then (name, none) else (stem, some extension)
  | none => (name, none)

/-- What follows the last dot of the file name. -/
def extension? (p : Text) : Option Text := (fileName? p).bind fun name => (splitName name).2

/-- A path followed by another; one that starts at the root stands alone. -/
def join (p q : Text) : Text :=
  if q.head? = some '/' ∨ p.isEmpty then q
  else if p.getLast? = some '/' then p ++ q
  else p ++ '/' :: q

end Lector.Path
