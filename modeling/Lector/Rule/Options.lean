import Lector.Rule.Row

/-!
# Options of a rule source

A source of rules may give itself a name and say what its rows leave open. Options are laid over one
another: what the later ones set wins.

## Main definitions

* `FieldOptions`, `Options` - options of fields and of a source.
* `Options.merge` - options laid over others.
* `Options.rowDefaults` - the defaults of rows.
* `Options.readEntries`, `Options.ofValue?` - the options that the entries of a mapping hold.
-/

namespace Lector.Rule

/-- What options say about the fields of rows. -/
structure FieldOptions where
  replacement : Option Text := none
  kind : Option Kind := none
  comment : Option Text := none
  deriving DecidableEq, Repr

/-- The options of a source. -/
structure Options where
  name : Option Text := none
  /-- What rules look for; it wins over the kind among the fields. -/
  kind : Option Kind := none
  fields : Option FieldOptions := none
  deriving DecidableEq, Repr

/-- Field options laid over others. -/
def FieldOptions.merge (a b : FieldOptions) : FieldOptions :=
  ⟨b.replacement <|> a.replacement, b.kind <|> a.kind, b.comment <|> a.comment⟩

/-- The options of fields by name. -/
inductive FieldName
  | replacement
  | kind
  | comment
  deriving DecidableEq

def FieldName.ofText? (t : Text) : Option FieldName :=
  if t = "replace_pat".toList ∨ t = "replace_pattern".toList then some .replacement
  else if t = "type".toList ∨ t = "kind".toList then some .kind
  else if t = "comment".toList then some .comment
  else none

/-- The options of a source by name. -/
inductive OptionName
  | title
  | kind
  | fields
  deriving DecidableEq

def OptionName.ofText? (t : Text) : Option OptionName :=
  if t = "name".toList then some .title
  else if t = "type".toList ∨ t = "kind".toList then some .kind
  else if t = "defaults".toList then some .fields
  else none

namespace Options

/-- Reads the entries of a mapping, each under the name that `name?` gives its key. A name must not
come twice; entries without a name do not count. -/
def readEntries {α β γ : Type} [BEq β] (text? : γ → Option Text) (name? : Text → Option β)
    (set : α → β → γ → Option α) : List β → α → List (γ × γ) → Option α
  | _, done, [] => some done
  | seen, done, (k, v) :: rest => do
    match name? (← text? k) with
    | none => readEntries text? name? set seen done rest
    | some name =>
      if seen.contains name then none
      else readEntries text? name? set (name :: seen) (← set done name v) rest

/-- Options laid over others. -/
def merge (a b : Options) : Options :=
  { name := b.name <|> a.name
    kind := b.kind <|> a.kind
    fields := match b.fields with
      | none => a.fields
      | some fields => some ((a.fields.getD {}).merge fields) }

def rowDefaults (o : Options) : Defaults :=
  let fields := o.fields.getD {}
  { replacement := fields.replacement.getD []
    kind := (o.kind <|> fields.kind).getD .regex
    comment := fields.comment }

/-- A value for an option that null leaves open. -/
def openOr {α : Type} (read : Value → Option α) (v : Value) : Option (Option α) :=
  match v with
  | .null => some none
  | v => (read v).map some

def text? (v : Value) : Option Text :=
  match v.untagged with
  | .text t => some t
  | _ => none

/-- The kind that a value names by a code or a word. -/
def kind? : Value → Option Kind
  | .number (.int code) => Kind.ofCode? code
  | .text t => Kind.read? t
  | _ => none

/-- The entries of a value that is a mapping; null has none. -/
def entries? (v : Value) : Option (List (Value × Value)) :=
  match v.untagged with
  | .mapping entries => some entries
  | .null => some []
  | _ => none

def fieldsOfValue? (v : Value) : Option FieldOptions := do
  let entries ← entries? v
  readEntries text? FieldName.ofText? (fun o name v =>
    match name with
    | .replacement => do return { o with replacement := ← openOr text? v }
    | .kind => do return { o with kind := ← openOr kind? v }
    | .comment => do return { o with comment := ← openOr text? v }) [] {} entries

def ofValue? (v : Value) : Option Options := do
  let entries ← entries? v
  readEntries text? OptionName.ofText? (fun o name v =>
    match name with
    | .title => do return { o with name := ← openOr text? v }
    | .kind => do return { o with kind := ← openOr kind? v }
    | .fields => do return { o with fields := ← openOr fieldsOfValue? v }) [] {} entries

end Options

end Lector.Rule
