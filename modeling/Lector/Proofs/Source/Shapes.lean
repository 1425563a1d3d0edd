import Mathlib.Data.List.Forall2
import Lector.Proofs.Source.Line

/-!
# Rules in every shape

A rule can be written as a line of delimited text, as a sequence, as a mapping of its fields, and as
the entry of a mapping of rules. All four are read to one row, so sources of these shapes give the
same operations or fail alike.

## Main definitions

* `Written`: a rule with what is written of it
* `Written.line`, `Written.sequence`, `Written.IsMapping`, `Written.entry`: the rule in each shape
* `IsConfigLine`, `IsDocument`: where the options of a source stand
* `Written.make`, `calledFor`: the operation that a rule calls for, and the rules of a list

## Main results

* `Written.readRow_line`, `Written.ofValue_sequence`, `Written.ofValue_mapping`,
  `Written.entryRow_entry`: every shape is read to the same row
* `shapes_agree`: sources of all shapes give the operations that their rules call for
-/

namespace Lector.Source

open Rule (Row RowFault Kind Options Operation Defaults)
open Text (trim trimStart trimEnd)

/-- A rule with what is written of it. -/
structure Written where
  search : Text
  replacement : Text
  /-- The spelling of the kind. -/
  spelling : Text
  kind : Kind
  comment : Option Text
  /-- Fields behind the third, which only a line can have. -/
  extras : List Text
  isSearch : IsSearch search
  isReplacement : IsField replacement
  isSpelling : IsField spelling
  read_spelling : Kind.read? spelling = some kind
  comment_trimmed : ∀ c ∈ comment, c ≠ [] ∧ '\n' ∉ c ∧ trim c = c
  extras_fit : ∀ t ∈ extras, '\n' ∉ t ∧ '#' ∉ t

namespace Written

variable (w : Written)

/-- The fields of a line in front of a comment. -/
def data : Text := Text.join ['\t'] (w.search :: w.replacement :: w.spelling :: w.extras)

/-- The rule as a line: its fields with TAB between them, and the comment behind its mark. -/
def line : Text :=
  w.data ++ match w.comment with
    | none => []
    | some c => " # ".toList ++ c

/-- The fields of the rule that are given. -/
def fields : List (Row.Field × Text) :=
  [(.search, w.search), (.replacement, w.replacement), (.kind, w.spelling)] ++
    w.comment.toList.map (.comment, ·)

/-- The rule as a sequence of its fields. -/
def sequence : Value := .sequence (w.fields.map fun (_, t) => .text t)

/-- Whether entries are those of the rule as a mapping: each field once, under any of its names, in
any order. -/
def IsMapping (entries : List (Value × Value)) : Prop :=
  ∃ (name : Row.Field → Text) (fields : List (Row.Field × Text)),
    (∀ f, Row.Field.ofName? (name f) = some f) ∧ fields.Perm w.fields ∧
      entries = fields.map fun (f, t) => (.text (name f), .text t)

/-- The rule as an entry of a mapping: the other fields under the search pattern. -/
def entry : Value × Value := (.text w.search, .sequence (w.fields.tail.map fun (_, t) => .text t))

/-- The row of the rule. -/
def row : Row := ⟨some w.search, some w.replacement, some w.kind, w.comment⟩

/-- The operation that the rule calls for, with a default for its comment. -/
def make (d : Defaults) : Except Error Operation :=
  Operation.make w.search w.replacement w.kind (w.comment <|> d.comment)

theorem build_row (d : Defaults) : w.row.build d = w.make d := rfl

/-! ## Values -/

theorem trim_spelling_ne_nil : trim w.spelling ≠ [] := by
  intro h
  have hblank : Kind.read? [] = none := by decide
  rw [← h, read?_trim, w.read_spelling] at hblank
  cases hblank

theorem kindField_spelling : Rule.kindField (.text w.spelling) = .ok (some w.kind) := by
  have hne : (trim w.spelling).isEmpty = false := by simp [w.trim_spelling_ne_nil]
  simp [Rule.kindField, hne, w.read_spelling]

/-- **A sequence is read to the row of the rule.** -/
theorem ofValue_sequence : Row.ofValue w.sequence = .ok w.row := by
  have hkind := w.kindField_spelling
  unfold sequence fields row
  cases w.comment <;>
    simp [Row.ofValue, Row.ofItems, Rule.fieldAt, Rule.scalarField, hkind, bind, Except.bind, pure,
      Except.pure]

/-- **An entry is read to the row of the rule.** -/
theorem entryRow_entry : entryRow w.entry.1 w.entry.2 = .ok w.row := w.ofValue_sequence

/-- The row with a field set to a text. -/
def assign (row : Row) : Row.Field × Text → Row
  | (.search, t) => { row with search := some t }
  | (.replacement, t) => { row with replacement := some t }
  | (.kind, t) => { row with kind := Kind.read? t }
  | (.comment, t) => { row with comment := some t }

/-- An entry of the rule as a mapping sets its field. -/
theorem setField_eq {name : Text} {f : Row.Field} {t : Text}
    (hname : Row.Field.ofName? name = some f) (ht : (f, t) ∈ w.fields) (row : Row) :
    Row.setField row (.text name, .text t) = .ok (assign row (f, t)) := by
  simp only [Row.setField, Value.untagged, hname]
  cases f with
  | search => rfl
  | replacement => rfl
  | kind =>
    obtain rfl : t = w.spelling := by simpa [fields] using ht
    simp [w.kindField_spelling, assign, w.read_spelling, Except.map]
  | comment => rfl

/-- Entries that set their fields set them one after another. -/
theorem foldlM_setField {name : Row.Field → Text} (hname : ∀ f, Row.Field.ofName? (name f) = some f)
    {fields : List (Row.Field × Text)} (hfields : ∀ e ∈ fields, e ∈ w.fields) (row : Row) :
    (fields.map fun (f, t) => (Value.text (name f), Value.text t)).foldlM Row.setField row =
      .ok (fields.foldl assign row) := by
  induction fields generalizing row with
  | nil => rfl
  | cons e fields ih =>
    rw [List.map_cons, List.foldlM_cons, w.setField_eq (hname e.1) (hfields e (by simp))]
    exact ih (fun e he => hfields e (by simp [he])) _

/-- Fields that are given once are set in any order. -/
theorem assign_comm {a b : Row.Field × Text} (ha : a ∈ w.fields) (hb : b ∈ w.fields) (row : Row) :
    assign (assign row a) b = assign (assign row b) a := by
  obtain ⟨f, t⟩ := a
  obtain ⟨g, u⟩ := b
  by_cases hfg : f = g
  · subst hfg
    have htu : t = u := by cases f <;> simp_all [fields]
    rw [htu]
  · cases f <;> cases g <;> first | rfl | exact absurd rfl hfg

/-- **A mapping is read to the row of the rule**, whatever its names and their order. -/
theorem ofValue_mapping {entries : List (Value × Value)} (h : w.IsMapping entries) :
    Row.ofValue (.mapping entries) = .ok w.row := by
  obtain ⟨name, fields, hname, hperm, rfl⟩ := h
  rw [Row.ofValue, w.foldlM_setField hname (fun e he => hperm.subset he)]
  rw [hperm.foldl_eq' fun a ha b hb row =>
    w.assign_comm (hperm.subset ha) (hperm.subset hb) row]
  have hkind := w.read_spelling
  unfold Written.fields row
  cases w.comment <;> simp [assign, hkind]

/-! ## Lines -/

theorem data_eq : ∃ rest, w.data = w.search ++ '\t' :: (w.replacement ++ '\t' :: rest) ∧
    field 0 rest = some w.spelling := by
  cases hextras : w.extras with
  | nil =>
    refine ⟨w.spelling, ?_, field_zero_of_not_mem w.isSpelling.noTab⟩
    simp [data, hextras, Text.join]
  | cons e extras =>
    refine ⟨w.spelling ++ '\t' :: Text.join ['\t'] (e :: extras), ?_,
      field_zero_append_cons w.isSpelling.noTab⟩
    simp [data, hextras, Text.join]

/-- A character other than TAB that is in no field is not in a line. -/
theorem not_mem_data {x : Char} (htab : x ≠ '\t') (hs : x ∉ w.search) (hr : x ∉ w.replacement)
    (hk : x ∉ w.spelling) (he : ∀ t ∈ w.extras, x ∉ t) : x ∉ w.data := by
  intro h
  rcases Text.mem_of_mem_join h with h | ⟨t, ht, h⟩
  · exact htab (List.mem_singleton.mp h)
  · simp only [List.mem_cons] at ht
    rcases ht with rfl | rfl | rfl | ht
    · exact hs h
    · exact hr h
    · exact hk h
    · exact he t ht h

theorem isRule_data : IsRule w.data := by
  obtain ⟨rest, hdata, -⟩ := w.data_eq
  obtain ⟨c, u, hstart, hc⟩ := w.isSearch.starts
  refine ⟨⟨c, by simp [hdata, hstart], hc⟩, ?_, ?_⟩
  · exact w.not_mem_data (by decide) w.isSearch.noLineFeed w.isReplacement.noLineFeed
      w.isSpelling.noLineFeed fun t ht => (w.extras_fit t ht).1
  · exact w.not_mem_data (by decide) w.isSearch.noMark w.isReplacement.noMark w.isSpelling.noMark
      fun t ht => (w.extras_fit t ht).2

theorem kindOf_spelling : kindOf (some w.spelling) = .ok (some w.kind) := by
  have hread : Kind.read? (trim w.spelling) = some w.kind := by rw [read?_trim, w.read_spelling]
  obtain ⟨c, t, ht⟩ := List.exists_cons_of_ne_nil w.trim_spelling_ne_nil
  rw [ht] at hread
  simp [kindOf, ht, hread]

/-- White space at the end of a line leaves the row of the rule as it is, since the kind stands in
front of it. -/
theorem ofFields_data {h : Text} (hblank : ∀ c ∈ h, isBlank c = true) (comment : Option Text) :
    Row.ofFields (List.splitOn '\t' (trim w.data ++ h)) comment =
      .ok { w.row with comment := comment } := by
  obtain ⟨rest, hdata, hfirst⟩ := w.data_eq
  rcases Text.blank_or_last rest with hrest | ⟨u, c, v, rfl, hc, hv⟩
  · refine absurd (Text.trim_of_blank fun c hc => hrest c ?_) w.trim_spelling_ne_nil
    exact mem_of_mem_field hfirst hc
  · have htrim : trim w.data = w.search ++ '\t' :: (w.replacement ++ '\t' :: (u ++ [c])) := by
      rw [hdata, trim, w.isSearch.trimStart_append]
      have hend : trimEnd (w.search ++ '\t' :: (w.replacement ++ '\t' :: u) ++ c :: v) =
          w.search ++ '\t' :: (w.replacement ++ '\t' :: u) ++ [c] := Text.trimEnd_of_last hc hv
      simpa using hend
    -- what is dropped behind `c` and what is put in its place are blank, so the kind is the same
    have hkind : kindOf (field 0 (u ++ [c] ++ h)) = .ok (some w.kind) := by
      have hfield := (trimEnd_field_append hblank 0 (u ++ [c])).trans
        (trimEnd_field_append hv 0 (u ++ [c])).symm
      rw [kindOf_congr hfield, List.append_assoc, List.singleton_append, hfirst, w.kindOf_spelling]
    rw [ofFields_splitOn, htrim]
    simp only [List.append_assoc, List.cons_append, field_zero_append_cons w.isSearch.noTab,
      field_succ_append_cons w.isSearch.noTab, field_zero_append_cons w.isReplacement.noTab,
      field_succ_append_cons w.isReplacement.noTab] at hkind ⊢
    rw [hkind]
    rfl

/-- A line with a comment ends in the comment behind its mark. -/
theorem line_of_comment {c : Text} (h : w.comment = some c) :
    w.line = (w.data ++ [' ']) ++ '#' :: ' ' :: c := by
  simp [line, h]

/-- **A line is read to the row of the rule.** -/
theorem readRow_line : readRow {} (trim w.line) = .ok w.row := by
  cases hcomment : w.comment with
  | none =>
    have hline : w.line = w.data := by simp [line, hcomment]
    have hrow := w.ofFields_data (h := []) (by simp) none
    rw [List.append_nil] at hrow
    rw [hline, readRow_plain w.isRule_data.noMark, hrow, row, hcomment]
  | some c =>
    obtain ⟨hne, -, htrim⟩ := w.comment_trimmed c hcomment
    -- the space in front of the mark belongs to the data, and the one behind it to the comment
    have hmark : '#' ∉ w.data ++ [' '] := by simp [w.isRule_data.noMark]
    have hblank : ∃ x ∈ w.data ++ [' '], isBlank x = false := by
      obtain ⟨x, hx, hxblank⟩ := w.isRule_data.notBlank
      exact ⟨x, by simp [hx], hxblank⟩
    have hc : commentOf (' ' :: c) = some c := by
      have htrim' : trim (' ' :: c) = c := htrim
      simp [commentOf, htrim', hne]
    have hdata : trim (w.data ++ [' ']) = trim w.data := Text.trim_append_of_blank fun x hx => by
      rw [List.mem_singleton.mp hx]
      rfl
    rw [w.line_of_comment hcomment, readRow_commented hmark, dataOf_eq hblank, hdata, hc,
      w.ofFields_data (fun _ => isBlank_of_mem_heldBlanks), row, hcomment]

theorem holdsRule_line : holdsRule (trim w.line) = true := by
  obtain ⟨rest, hdata, -⟩ := w.data_eq
  obtain ⟨c, u, hstart, hc⟩ := w.isSearch.starts
  have hmark : c ≠ '#' := by
    rintro rfl
    exact w.isSearch.noMark (by simp [hstart])
  simp only [line, hdata, hstart, List.cons_append]
  rw [← List.nil_append (c :: _), Text.trim_append_cons hc]
  simp [trimStart, holdsRule, hmark]

theorem line_fits : '\n' ∉ w.line ∧ w.line ≠ [] := by
  have hdata : w.data ≠ [] := by
    obtain ⟨rest, hdata, -⟩ := w.data_eq
    simp [hdata]
  refine ⟨?_, by simp [line, hdata]⟩
  cases hcomment : w.comment with
  | none => simp [line, hcomment, w.isRule_data.noLineFeed]
  | some c =>
    have hc := (w.comment_trimmed c hcomment).2.1
    simp [w.line_of_comment hcomment, w.isRule_data.noLineFeed, hc]

end Written

/-! ## Sources -/

/-- A line that reads as options. -/
structure IsConfigLine (o : Options) (head : Text) : Prop where
  noLineFeed : '\n' ∉ head
  /-- It starts as a comment with a mapping in it. -/
  marked : "# \x7b".toList.isPrefixOf (trim head) = true
  config_eq : config head = o

/-- Whether a value is a document with options and substitutions. -/
def IsDocument (o : Options) (substitutions v : Value) : Prop :=
  ∃ entries, v.untagged = .mapping entries ∧ documentOptions entries = .ok o ∧
    Value.lookup "substitutions".toList entries = some substitutions

/-- The rules that are called for under options, if all can be made: one for each that is written,
in their order. -/
def calledFor (o : Options) (source : Text) (ws : List Written) : Option Rules :=
  (ws.mapM fun w : Written => (w.make o.rowDefaults).toOption).map fun ops =>
    ⟨o.name.getD source, ops⟩

/-- The text with a first line and a line for each rule, the last of which may be ended. -/
def textOf (head : Text) (ws : List Written) (ended : Bool) : Text :=
  Text.join ['\n'] (head :: ws.map Written.line) ++ if ended then ['\n'] else []

/-- The rows of rules with their numbers, the first of which is given. -/
def numbered : Nat → List Written → List (Nat × Row)
  | _, [] => []
  | n, w :: ws => (n, w.row) :: numbered (n + 1) ws

section Delimited

variable {o : Options} {head : Text}

theorem IsConfigLine.trim_ne_nil (h : IsConfigLine o head) : trim head ≠ [] := by
  intro hnil
  have hmarked := h.marked
  rw [hnil] at hmarked
  cases hmarked

theorem IsConfigLine.ne_nil (h : IsConfigLine o head) : head ≠ [] := by
  rintro rfl
  exact h.trim_ne_nil rfl

theorem IsConfigLine.lines_textOf (h : IsConfigLine o head) (ws : List Written) (ended : Bool) :
    Text.lines (textOf head ws ended) = head :: ws.map Written.line := by
  refine Text.lines_join ?_ ended
  intro line hline
  rcases List.mem_cons.mp hline with rfl | hline
  · exact ⟨h.noLineFeed, h.ne_nil⟩
  · obtain ⟨w, -, rfl⟩ := List.mem_map.mp hline
    exact w.line_fits

/-- The first line gives the options of the text. -/
theorem IsConfigLine.config_textOf (h : IsConfigLine o head) (ws : List Written) (ended : Bool) :
    config (textOf head ws ended) = o := by
  have hne : (trim head).isEmpty = false := by simp [h.trim_ne_nil]
  rw [← h.config_eq]
  unfold config
  rw [h.lines_textOf, Text.lines_of_not_mem h.noLineFeed h.ne_nil]
  simp [hne]

/-- The lines of rules give their rows. -/
theorem rowsFrom_lines (n : Nat) (ws : List Written) :
    rowsFrom {} n (ws.map Written.line) = .ok (numbered n ws) := by
  induction ws generalizing n with
  | nil => rfl
  | cons w ws ih =>
    rw [List.map_cons, rowsFrom]
    simp only [w.holdsRule_line, if_true, w.readRow_line, ih]
    rfl

/-- The first line holds no rule. -/
theorem IsConfigLine.rows_textOf (h : IsConfigLine o head) (ws : List Written) (ended : Bool) :
    rows {} (textOf head ws ended) = .ok (numbered 2 ws) := by
  have hrule : holdsRule (trim head) = false := by
    have hmarked := h.marked
    cases hhead : trim head with
    | nil => rfl
    | cons c t =>
      rw [hhead] at hmarked
      have hc : '#' = c := by simp at hmarked; exact hmarked.1
      simp [holdsRule, ← hc]
  rw [rows, h.lines_textOf, rowsFrom]
  simp only [hrule, Bool.false_eq_true, if_false, rowsFrom_lines]

end Delimited

/-- A row becomes the operation that its rule calls for, wherever it stands. -/
theorem buildAt_row (source : Text) (d : Defaults) (n : Nat) (w : Written) :
    (buildAt source d n w.row).toOption = (w.make d).toOption := by
  rw [buildAt, w.build_row]
  cases w.make d <;> rfl

/-- Rows become the operations that their rules call for, or one of them fails. -/
theorem toOption_buildRows (source : Text) (d : Defaults) (n : Nat) (ws : List Written) :
    (buildRows source d n (ws.map fun w => .ok w.row)).toOption =
      ws.mapM fun w : Written => (w.make d).toOption := by
  induction ws generalizing n with
  | nil => rfl
  | cons w ws ih =>
    rw [List.mapM_cons, ← ih (n + 1), ← buildAt_row source d n, List.map_cons, buildRows, buildRow]
    cases buildAt source d n w.row with
    | error e => rfl
    | ok op => cases buildRows source d (n + 1) (ws.map fun w => .ok w.row) <;> rfl

/-- The rows of lines become operations as the rows of documents do. -/
theorem mapM_buildAt (source : Text) (d : Defaults) (n : Nat) (ws : List Written) :
    ((numbered n ws).mapM fun (i, row) => buildAt source d i row) =
      buildRows source d n (ws.map fun w => .ok w.row) := by
  induction ws generalizing n with
  | nil => rfl
  | cons w ws ih =>
    rw [numbered, List.mapM_cons, ih, List.map_cons, buildRows, buildRow]
    dsimp only
    cases buildAt source d n w.row <;> rfl

/-- **A delimited text gives the rules that are called for.** -/
theorem IsConfigLine.parseDelimited_textOf {o : Options} {head : Text} (h : IsConfigLine o head)
    (ws : List Written) (ended : Bool) (source : Text) :
    (parseDelimited {} source (textOf head ws ended)).toOption = calledFor o source ws := by
  rw [parseDelimited, readDelimited, h.rows_textOf, h.config_textOf, if_pos rfl, calledFor,
    ← toOption_buildRows source _ 2]
  dsimp only
  rw [mapM_buildAt]
  cases buildRows source o.rowDefaults 2 (ws.map fun w => .ok w.row) <;> rfl

/-- Options over which nothing is laid stay as they are. -/
theorem merge_nothing (o : Options) : o.merge {} = o := by
  cases o
  rfl

/-- A document gives the operations of its rows, under its options and others laid over them. -/
theorem IsDocument.parseDocument_eq_buildRows {o : Options} {substitutions v : Value}
    {rows : List (Except RowFault Row)} (h : IsDocument o substitutions v)
    (hrows : documentRows substitutions = .ok rows) (source : Text) (overrides : Options) :
    parseDocument source overrides v =
      (buildRows source (o.merge overrides).rowDefaults 1 rows).map
        (Rules.mk ((o.merge overrides).name.getD source)) := by
  obtain ⟨entries, hmapping, hoptions, hlookup⟩ := h
  rw [parseDocument, readDocument]
  simp only [hmapping, hoptions, hlookup, hrows, Except.mapError, bind, Except.bind]
  cases buildRows source (o.merge overrides).rowDefaults 1 rows <;> rfl

/-- **All outcomes of reading a document**: there is a fault in the document around its rows, or its
rows become operations one after another. -/
theorem readDocument_cases (source : Text) (overrides : Options) (v : Value) :
    (∃ fault, readDocument source overrides v = .error (.row source 0 fault)) ∨
      ∃ o substitutions rows, IsDocument o substitutions v ∧
        documentRows substitutions = .ok rows ∧
        readDocument source overrides v =
          (buildRows source (o.merge overrides).rowDefaults 1 rows).map (o.merge overrides, ·) := by
  rw [readDocument]
  cases hmapping : v.untagged with
  | mapping entries =>
    cases hoptions : documentOptions entries with
    | error fault => exact Or.inl ⟨fault, by simp only [hoptions]; rfl⟩
    | ok o =>
      cases hlookup : Value.lookup "substitutions".toList entries with
      | none => exact Or.inl ⟨.noSubstitutions, by simp only [hoptions, hlookup]; rfl⟩
      | some substitutions =>
        cases hrows : documentRows substitutions with
        | error fault => exact Or.inl ⟨fault, by simp only [hoptions, hlookup, hrows]; rfl⟩
        | ok rows =>
          refine Or.inr ⟨o, substitutions, rows, ⟨entries, hmapping, hoptions, hlookup⟩, hrows, ?_⟩
          simp only [hoptions, hlookup, hrows]
          rfl
  | _ => exact Or.inl ⟨.rootKind, rfl⟩

/-- **A document gives the rules that are called for**, if its substitutions are read to their
rows. -/
theorem IsDocument.parseDocument_eq {o : Options} {substitutions v : Value} {ws : List Written}
    (h : IsDocument o substitutions v)
    (hrows : documentRows substitutions = .ok (ws.map fun w => .ok w.row)) (source : Text) :
    (parseDocument source {} v).toOption = calledFor o source ws := by
  rw [h.parseDocument_eq_buildRows hrows, merge_nothing, calledFor, ← toOption_buildRows source _ 1]
  cases buildRows source o.rowDefaults 1 (ws.map fun w => .ok w.row) <;> rfl

theorem documentRows_sequences (ws : List Written) :
    documentRows (.sequence (ws.map Written.sequence)) = .ok (ws.map fun w => .ok w.row) := by
  simp [documentRows, Function.comp_def, Written.ofValue_sequence]

theorem documentRows_mappings {ws : List Written} {mappings : List (List (Value × Value))}
    (h : List.Forall₂ Written.IsMapping ws mappings) :
    documentRows (.sequence (mappings.map Value.mapping)) = .ok (ws.map fun w => .ok w.row) := by
  rw [documentRows]
  congr 1
  induction h with
  | nil => rfl
  | cons hmapping _ ih =>
    rw [List.map_cons, List.map_cons, List.map_cons, Written.ofValue_mapping _ hmapping, ih]

theorem documentRows_entries (ws : List Written) :
    documentRows (.mapping (ws.map Written.entry)) = .ok (ws.map fun w => .ok w.row) := by
  simp [documentRows, Function.comp_def, Written.entryRow_entry]

/-- **Sources of all shapes give the rules that are called for**, or all fail: a delimited text, and
documents whose substitutions are a list of sequences, a list of mappings, and a mapping. -/
theorem shapes_agree {o : Options} {ws : List Written} {head : Text}
    {mappings : List (List (Value × Value))} {listed mapped keyed : Value}
    (hhead : IsConfigLine o head) (hmappings : List.Forall₂ Written.IsMapping ws mappings)
    (hlisted : IsDocument o (.sequence (ws.map Written.sequence)) listed)
    (hmapped : IsDocument o (.sequence (mappings.map Value.mapping)) mapped)
    (hkeyed : IsDocument o (.mapping (ws.map Written.entry)) keyed) (ended : Bool) (source : Text) :
    (parseDelimited {} source (textOf head ws ended)).toOption = calledFor o source ws ∧
      (parseDocument source {} listed).toOption = calledFor o source ws ∧
      (parseDocument source {} mapped).toOption = calledFor o source ws ∧
      (parseDocument source {} keyed).toOption = calledFor o source ws := by
  refine ⟨hhead.parseDelimited_textOf ws ended source, ?_, ?_, ?_⟩
  · exact hlisted.parseDocument_eq (documentRows_sequences ws) source
  · exact hmapped.parseDocument_eq (documentRows_mappings hmappings) source
  · exact hkeyed.parseDocument_eq (documentRows_entries ws) source

/-- A rule with white space, a mark in its comment and a field too many. -/
def spaced : Written where
  search := "a b".toList
  replacement := " c ".toList
  spelling := " Re ".toList
  kind := .regex
  comment := some "x # y".toList
  extras := [[], "d".toList]
  isSearch := ⟨⟨by decide, by decide, by decide⟩, ⟨'a', " b".toList, rfl, by decide⟩⟩
  isReplacement := ⟨by decide, by decide, by decide⟩
  isSpelling := ⟨by decide, by decide, by decide⟩
  read_spelling := by decide
  comment_trimmed := by decide
  extras_fit := by decide

/-- Options that give a kind and a comment. -/
def notedOptions : Options where
  kind := some .literal
  fields := some { comment := some "n".toList }

/-- A document with these options. -/
def notedDocument (substitutions : Value) : Value :=
  .mapping [
    (.text "options".toList, .mapping [(.text "type".toList, .number (.int 1)),
      (.text "defaults".toList, .mapping [(.text "comment".toList, .text "n".toList)])]),
    (.text "substitutions".toList, substitutions)]

theorem isDocument_notedDocument (substitutions : Value) :
    IsDocument notedOptions substitutions (notedDocument substitutions) :=
  ⟨_, rfl, rfl, rfl⟩

theorem isConfigLine_noted :
    IsConfigLine notedOptions "# \x7btype: 1, defaults: \x7bcomment: n\x7d\x7d".toList :=
  ⟨by decide, by decide, by decide +kernel⟩

/-- A name for each field. -/
def spacedName : Row.Field → Text
  | .search => "search".toList
  | .replacement => "replace_pattern".toList
  | .kind => "type".toList
  | .comment => "comment".toList

/-- The entries of the rule as a mapping, out of order. -/
def spacedEntries : List (Value × Value) :=
  [(Row.Field.comment, "x # y"), (.kind, " Re "), (.search, "a b"), (.replacement, " c ")].map
    fun (f, t) => (.text (spacedName f), .text t.toList)

theorem isMapping_spacedEntries : spaced.IsMapping spacedEntries := by
  refine ⟨spacedName, [(.comment, "x # y".toList), (.kind, " Re ".toList), (.search, "a b".toList),
    (.replacement, " c ".toList)], ?_, by decide, rfl⟩
  intro f
  cases f <;> decide

/-- The rule is made from every shape. -/
theorem spaced_agrees :
    (calledFor notedOptions [] [spaced]).isSome = true ∧
      (parseDelimited {} [] (textOf
        "# \x7btype: 1, defaults: \x7bcomment: n\x7d\x7d".toList [spaced] true)).toOption =
          calledFor notedOptions [] [spaced] ∧
      (parseDocument [] {} (notedDocument (.sequence [spaced.sequence]))).toOption =
        calledFor notedOptions [] [spaced] ∧
      (parseDocument [] {} (notedDocument (.sequence [.mapping spacedEntries]))).toOption =
        calledFor notedOptions [] [spaced] ∧
      (parseDocument [] {} (notedDocument (.mapping [spaced.entry]))).toOption =
        calledFor notedOptions [] [spaced] :=
  ⟨by decide +kernel, shapes_agree isConfigLine_noted (.cons isMapping_spacedEntries .nil)
    (isDocument_notedDocument _) (isDocument_notedDocument _) (isDocument_notedDocument _) true _⟩

end Lector.Source
