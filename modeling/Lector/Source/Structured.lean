import Lector.Source.Delimited

/-!
# Structured rules

A structured document holds its rules under `substitutions`, as a list of rows or as a mapping from
search patterns to replacements, and perhaps options under `options`. A mapping can also stand
alone.

## Main definitions

* `parseMapping` - the operations of a mapping.
* `documentRows` - the rows of a document's substitutions.
* `readDocument`, `parseDocument` - the operations of a document.
-/

namespace Lector.Source

open Rule (Row RowFault Options Operation Defaults)

/-- The operation of a row that may be at fault, at a place of a source. -/
def buildRow (source : Text) (d : Defaults) (n : Nat) (row : Except RowFault Row) :
    Except Error Operation :=
  match row with
  | .ok row => buildAt source d n row
  | .error fault => .error (.row source n fault)

/-- The operations of rows that are numbered from a number on. The first fault ends the work. -/
def buildRows (source : Text) (d : Defaults) :
    Nat → List (Except RowFault Row) → Except Error (List Operation)
  | _, [] => .ok []
  | n, row :: rows =>
    match buildRow source d n row with
    | .ok op => (buildRows source d (n + 1) rows).map (op :: ·)
    | .error e => .error e

/-- A mapping with a value put under a key. A key that is there keeps its place. -/
def insertEntry (key : Text) (v : Value) : List (Text × Value) → List (Text × Value)
  | [] => [(key, v)]
  | (k, w) :: rest => if k = key then (k, v) :: rest else (k, w) :: insertEntry key v rest

/-- The operations of a mapping from search patterns to replacements, in order. -/
def parseMapping (source : Text) (d : Defaults) (entries : List (Text × Value)) :
    Except Error (List Operation) :=
  buildRows source d 1 (entries.map fun (key, v) => Row.ofEntry key v)

/-- The row of an entry of substitutions, whose key may be any scalar but null. -/
def entryRow (key v : Value) : Except RowFault Row :=
  match Rule.scalarField key with
  | .error fault => .error fault
  | .ok none => .error .nullKey
  | .ok (some key) => Row.ofEntry key v

/-- The rows of substitutions. -/
def documentRows : Value → Except RowFault (List (Except RowFault Row))
  | .sequence items => .ok (items.map Row.ofValue)
  | .mapping entries => .ok (entries.map fun (key, v) => entryRow key v)
  | .null => .ok []
  | v => .error (.substitutionsKind v)

/-- The options of a document, whose entries are given. -/
def documentOptions (entries : List (Value × Value)) : Except RowFault Options :=
  match Value.lookup "options".toList entries with
  | none | some .null => .ok {}
  | some v =>
    match Options.ofValue? v with
    | some options => .ok options
    | none => .error .badOptions

/-- The operations of a document and its options, over which others are laid. -/
def readDocument (source : Text) (overrides : Options) (v : Value) :
    Except Error (Options × List Operation) := do
  let atTop := fun {α : Type} (r : Except RowFault α) =>
    r.mapError fun fault => Error.row source 0 fault
  let .mapping entries := v.untagged | .error (.row source 0 .rootKind)
  let options := (← atTop (documentOptions entries)).merge overrides
  let some substitutions := Value.lookup "substitutions".toList entries
    | .error (.row source 0 .noSubstitutions)
  let rows ← atTop (documentRows substitutions)
  return (options, ← buildRows source options.rowDefaults 1 rows)

/-- The rules of a document. The directive is named by the options, or else by the source. -/
def parseDocument (source : Text) (overrides : Options) (v : Value) : Except Error Rules :=
  (readDocument source overrides v).map fun (options, ops) => ⟨options.name.getD source, ops⟩

end Lector.Source
