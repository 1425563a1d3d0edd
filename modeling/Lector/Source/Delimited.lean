import Lector.Rule.Options
import Lector.Yaml.Reader

/-!
# Delimited rules

A delimited source holds one rule on each line: search pattern, replacement and kind with a
separator between them, and perhaps a comment behind `#`. Blank lines and lines that start with `#`
hold no rule. The first line that is not blank may be a comment that gives options, such as
`# {type: 1}`.

## Main definitions

* `Layout` - how lines are cut into fields.
* `readRow` - the row of a line.
* `rows` - the rows of a text with their line numbers.
* `config` - the options that a text gives at its top.
* `parseDelimited` - the operations of a text.
-/

namespace Lector.Source

open Rule (Row RowFault Options Operation)

/-- How the lines of delimited text are cut into fields. -/
structure Layout where
  separator : Text := ['\t']
  /-- Whether `#` starts a comment behind a rule. -/
  trimComments : Bool := true
  /-- Whether the first line may give options. -/
  readConfig : Bool := true
  deriving DecidableEq, Repr

/-- Drops a text from the start as often as it stands there; the empty text is never dropped. -/
def dropPrefixes (p t : Text) : Text :=
  if _h : p ≠ [] ∧ p.isPrefixOf t then dropPrefixes p (t.drop p.length) else t
termination_by t.length
decreasing_by
  obtain ⟨hp, ht⟩ := _h
  have hlen := (List.isPrefixOf_iff_prefix.1 ht).length_le
  have : 0 < p.length := List.length_pos_iff.2 hp
  simp only [List.length_drop]
  omega

/-- Drops a text from the end as often as it stands there. -/
def dropSuffixes (s t : Text) : Text := (dropPrefixes s.reverse t.reverse).reverse

/-- The fields of a line. With an empty separator each character is a field, between two empty
ones. -/
def fieldsOf (separator line : Text) : List Text :=
  match separator with
  | [] => [] :: line.map (fun c => [c]) ++ [[]]
  | _ => Text.splitOn separator line

/-- The part of a line that holds the fields, and the comment behind it. White space goes in front
of a comment unless it belongs to the separator. -/
def cutComment (layout : Layout) (line : Text) : Text × Option Text :=
  if layout.trimComments then
    match Text.cutAt? '#' line with
    | some (data, comment) =>
      let comment := Text.trim comment
      (Text.dropEndWhile (fun c => isBlank c && !layout.separator.contains c) data,
        if comment.isEmpty then none else some comment)
    | none => (line, none)
  else (line, none)

/-- Whether a line without the white space around it holds a rule. -/
def holdsRule (line : Text) : Bool :=
  match line with
  | [] => false
  | c :: _ => c ≠ '#'

/-- The row of a line without the white space around it. -/
def readRow (layout : Layout) (line : Text) : Except RowFault Row :=
  let (data, comment) := cutComment layout line
  Row.ofFields (fieldsOf layout.separator (dropSuffixes layout.separator data)) comment

/-- The rows of lines with their numbers, the first of which is given. -/
def rowsFrom (layout : Layout) : Nat → List Text → Except Error (List (Nat × Row))
  | _, [] => .ok []
  | n, line :: lines =>
    let line := Text.trim line
    if holdsRule line then
      match readRow layout line with
      | .ok row => (rowsFrom layout (n + 1) lines).map ((n, row) :: ·)
      | .error fault => .error (.row [] n fault)
    else rowsFrom layout (n + 1) lines

def rows (layout : Layout) (t : Text) : Except Error (List (Nat × Row)) :=
  rowsFrom layout 1 (Text.lines t)

/-- The options that a text gives in its first line that is not blank. A line that cannot be read as
options gives none. -/
def config (t : Text) : Options :=
  match ((Text.lines t).map Text.trim).find? (!·.isEmpty) with
  | some line =>
    if "# \x7b".toList.isPrefixOf line then
      (Yaml.readOptions? (Text.trimEnd (line.dropWhile fun c => c = '#' || c = ' '))).getD {}
    else {}
  | none => {}

/-- The rules of a source. -/
structure Rules where
  name : Text
  operations : List Operation

def buildAt (source : Text) (d : Rule.Defaults) (n : Nat) (row : Row) : Except Error Operation :=
  match row.build d with
  | .ok op => .ok op
  | .error e => .error (e.atRow source n)

/-- The operations of a delimited text and the options that it gives. All rows are read before the
first becomes an operation. -/
def readDelimited (layout : Layout) (source t : Text) : Except Error (Options × List Operation) :=
  let options := if layout.readConfig then config t else {}
  match rows layout t with
  | .error e => .error (e.atSource source)
  | .ok rows =>
    (rows.mapM fun (n, row) => buildAt source options.rowDefaults n row).map (options, ·)

/-- The rules of a delimited text. The directive is named by the options that the text gives, or
else by its source. -/
def parseDelimited (layout : Layout) (source t : Text) : Except Error Rules :=
  (readDelimited layout source t).map fun (options, ops) => ⟨options.name.getD source, ops⟩

end Lector.Source
