import Lector.Document.Value
import Lector.Rule.Options
import Lector.Yaml.Node
import Lector.Yaml.Scalar

/-!
# Values and options from YAML

A document is read into a value, in which tags of its own stay visible, or straight into the options
of a rule source. The two readings differ: as an option any scalar can be a text, as a field of a
value only what is written as a text.

## Main definitions

* `Node.toValue?`, `readValue?` - the value of a node and of a text.
* `Node.toOptions?`, `readOptions?` - the options of a node and of a text.
-/

namespace Lector.Yaml

def depthLimit : Nat := 128

def standardTag (name : String) : Text := "tag:yaml.org,2002:".toList ++ name.toList

/-- The name of a tag that belongs to the document. -/
def localTag? (tag : Option Text) : Option Text := tag.bind (Text.dropPrefix? ['!'])

/-- The value of what a plain scalar stands for. -/
def Plain.toValue? (t : Text) : Plain → Option Value
  | .null => some .null
  | .bool b => some (.bool b)
  | .int n => some (.number (.int n))
  | .wide => none
  | .float x => some (.number (.float x))
  | .text => some (.text t)

/-- The value of a scalar. A tag of a standard type asks for a reading. -/
def scalarValue? (tag : Option Text) (isPlain : Bool) (t : Text) : Option Value :=
  match tag with
  | none => if isPlain then (plain t).toValue? t else some (.text t)
  | some tag =>
    if tag = standardTag "bool" then (bool? t).map .bool
    else if tag = standardTag "int" then (int? t).bind (·.toValue? t)
    else if tag = standardTag "float" then (float? t).map fun x => .number (.float x)
    else if tag = standardTag "null" then (if isNull t then some .null else none)
    else some (.text t)

def withTag? (tag : Option Text) (v : Value) : Option Value :=
  match localTag? tag with
  | none => some v
  | some [] => none
  | some name => some (.tagged name v)

mutual

/-- The value of a node that may nest `depth` deep. -/
def Node.toValue? (depth : Nat) : Node → Option Value
  | .scalar tag isPlain t =>
    match localTag? tag with
    | none => scalarValue? tag isPlain t
    | some _ => scalarValue? none isPlain t >>= withTag? tag
  | .sequence tag items =>
    match depth with
    | 0 => none
    | depth + 1 => do withTag? tag (.sequence (← itemValues? depth items))
  | .mapping tag entries =>
    match depth with
    | 0 => none
    | depth + 1 => do withTag? tag (.mapping (← entryValues? depth [] entries))

def itemValues? (depth : Nat) : List Node → Option (List Value)
  | [] => some []
  | n :: ns => do return (← n.toValue? depth) :: (← itemValues? depth ns)

/-- The values of the entries of a mapping, none of whose keys may be among those before it. -/
def entryValues? (depth : Nat) (seen : List Value) :
    List (Node × Node) → Option (List (Value × Value))
  | [] => some []
  | (k, v) :: rest => do
    let key ← k.toValue? depth
    if seen.any (·.same key) then none
    let value ← v.toValue? depth
    return (key, value) :: (← entryValues? depth (key :: seen) rest)

end

/-- The value of a text that holds one document at most. -/
def readValue? (t : Text) : Option Value := do
  match ← readDocument? t with
  | none => return .null
  | some document => if document.isWalkable then document.root.toValue? depthLimit else none

open Rule (Kind Options FieldOptions FieldName OptionName)

/-- Whether a node leaves an option open: nothing or null is written, or the tag of null is. It is
an error to write something else under that tag. -/
def Node.isOpen? : Node → Option Bool
  | .scalar tag true t =>
    if tag = some (standardTag "null") then (if isNull t then some true else none)
    else if tag.isNone then some (t.isEmpty || isNull t)
    else some false
  | _ => some false

def Node.text? : Node → Option Text
  | .scalar _ _ t => some t
  | _ => none

def Node.kind? : Node → Option Kind
  | .scalar tag isPlain t => do
    match ← (Node.scalar tag isPlain t).toValue? depthLimit with
    | .number (.int code) => Kind.ofCode? code
    | .text t => Kind.read? t
    | _ => none
  | _ => none

/-- What a node holds for an option that may be left open. -/
def Node.option? {α : Type} (n : Node) (read : Node → Option α) : Option (Option α) := do
  if ← n.isOpen? then return none else return some (← read n)

/-- The options of fields that a node holds; where nothing is written, all are left open. -/
def Node.toFieldOptions? : Node → Option FieldOptions
  | .scalar _ true [] => some {}
  | .mapping _ entries =>
    Options.readEntries Node.text? FieldName.ofText? (fun o name v =>
      match name with
      | .replacement => do return { o with replacement := ← v.option? Node.text? }
      | .kind => do return { o with kind := ← v.option? Node.kind? }
      | .comment => do return { o with comment := ← v.option? Node.text? }) [] {} entries
  | _ => none

/-- The options of a source that a node holds; where nothing is written, all are left open. -/
def Node.toOptions? : Node → Option Options
  | .scalar _ true [] => some {}
  | .mapping _ entries =>
    Options.readEntries Node.text? OptionName.ofText? (fun o name v =>
      match name with
      | .title => do return { o with name := ← v.option? Node.text? }
      | .kind => do return { o with kind := ← v.option? Node.kind? }
      | .fields => do return { o with fields := ← v.option? Node.toFieldOptions? }) [] {} entries
  | _ => none

/-- The options that a text holds; a text that holds nothing leaves all open. -/
def readOptions? (t : Text) : Option Options := do
  match ← readDocument? t with
  | none => return {}
  | some document => document.root.toOptions?

end Lector.Yaml
