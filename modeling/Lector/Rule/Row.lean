import Lector.Rule.Operation

/-!
# Rule rows

A row describes a rule in up to four fields, any of which may be left open. Rows come from delimited
lines, sequences and mappings; the fields left open are taken from defaults when the row becomes an
operation.

## Main definitions

* `Row`, `Defaults` - rows and what fills their open fields.
* `Row.ofFields`, `Row.ofItems`, `Row.ofValue`, `Row.ofEntry` - the rows of the source shapes.
* `Row.build` - the operation of a row.
-/

namespace Lector.Rule

/-- A rule before defaults are applied. -/
structure Row where
  search : Option Text := none
  replacement : Option Text := none
  kind : Option Kind := none
  comment : Option Text := none
  deriving DecidableEq, Repr

/-- What fills the fields that a row leaves open. -/
structure Defaults where
  replacement : Text := []
  kind : Kind := .regex
  comment : Option Text := none
  deriving DecidableEq, Repr

/-- The text of a scalar; null leaves a field open. -/
def scalarField : Value → Except RowFault (Option Text)
  | .null => .ok none
  | .text t => .ok (some t)
  | .number n => .ok (some n.text)
  | .bool b => .ok (some (Value.boolText b))
  | v => .error (.notScalar v)

/-- The kind that a value names; null and blank texts leave it open. -/
def kindField : Value → Except RowFault (Option Kind)
  | .null => .ok none
  | .text t =>
    if (Text.trim t).isEmpty then .ok none
    else match Kind.read? t with
      | some kind => .ok (some kind)
      | none => .error (.unknownKind t)
  | .number n =>
    match n with
    | .int code =>
      match Kind.ofCode? code with
      | some kind => .ok (some kind)
      | none => .error (.unknownCode n)
    | .float _ => .error (.unknownCode n)
  | v => .error (.kindValue v)

/-- The field at a place of a sequence; what is missing is open. -/
def fieldAt (items : List Value) (i : Nat) : Except RowFault (Option Text) :=
  match items[i]? with
  | some v => scalarField v
  | none => .ok none

namespace Row

def ofPair (search replacement : Text) : Row :=
  { search := some search, replacement := some replacement }

/-- The row of the fields of a line. Fields behind the third do not count, and a blank third field
leaves the kind open. -/
def ofFields (fields : List Text) (comment : Option Text) : Except RowFault Row :=
  let row := { search := fields[0]?, replacement := fields[1]?, comment := comment : Row }
  match (fields[2]?).map Text.trim with
  | none | some [] => .ok row
  | some field =>
    match Kind.read? field with
    | some kind => .ok { row with kind := some kind }
    | none => .error (.unknownKind field)

/-- The row of a sequence: search pattern, replacement, kind and comment. -/
def ofItems (items : List Value) : Except RowFault Row := do
  let search ← fieldAt items 0
  let replacement ← fieldAt items 1
  let kind ← match items[2]? with
    | some v => kindField v
    | none => pure none
  let comment ← fieldAt items 3
  return ⟨search, replacement, kind, comment⟩

/-- The fields of a row by the names that mappings give them. -/
inductive Field
  | search
  | replacement
  | kind
  | comment
  deriving DecidableEq, Repr

def Field.ofName? (name : Text) : Option Field :=
  if name = "search_pat".toList ∨ name = "search_pattern".toList ∨ name = "search".toList then
    some search
  else if name = "replace_pat".toList ∨ name = "replace_pattern".toList ∨
      name = "replace".toList then
    some replacement
  else if name = "type".toList ∨ name = "kind".toList then some kind
  else if name = "comment".toList then some comment
  else none

def setField (row : Row) (entry : Value × Value) : Except RowFault Row :=
  let (key, v) := entry
  match key.untagged with
  | .text name =>
    match Field.ofName? name with
    | some .search => (scalarField v).map fun s => { row with search := s }
    | some .replacement => (scalarField v).map fun s => { row with replacement := s }
    | some .kind => (kindField v).map fun k => { row with kind := k }
    | some .comment => (scalarField v).map fun s => { row with comment := s }
    | none => .error (.unknownField name)
  | _ => .error (.fieldKey key)

def ofValue : Value → Except RowFault Row
  | .sequence items => ofItems items
  | .mapping entries => entries.foldlM setField {}
  | v => .error (.notARow v)

/-- The sequence that an entry of a mapping of rules stands for: its key in front of its value, or
of the members of its value if that is a sequence. -/
def entryItems (key : Text) : Value → List Value
  | .sequence items => .text key :: items
  | v => [.text key, v]

def ofEntry (key : Text) (v : Value) : Except RowFault Row := ofItems (entryItems key v)

/-- The operation of a row, its open fields filled from defaults. -/
def build (row : Row) (d : Defaults) : Except Error Operation :=
  Operation.make (row.search.getD []) (row.replacement.getD d.replacement) (row.kind.getD d.kind)
    (row.comment <|> d.comment)

end Row

end Lector.Rule
