import Lector.Proofs.Source.Entries
import Lector.Proofs.Source.LineEnds

/-!
# Options laid over those of a document

The options of a document can be overridden by the caller. Options are merged field by field, and
only then is it settled what they say about rows. For the name, the replacement and the comment that
makes no difference: what the caller sets wins. The kind can be set in two places, one of which
ranks above the other, and there it does: a kind that the document sets in the upper place wins over
one that the caller sets in the lower place.

## Main definitions

* `Options.determined`: what options determine about rows
* `Settled`: an operation has what its row and two layers of options say

## Main results

* `determined_kind_merge`: the order of the four places where options can set the kind
* `parseDocument_settled`: every operation of a document is settled by its row, the caller's options
  and those of the document
* `overriding_kind_outranked`: the caller's kind can lose
-/

namespace Lector

namespace Rule.Options

/-- What options determine about the fields of rows. The kind of the source ranks above the kind
among the fields. -/
def determined (o : Options) : FieldOptions where
  replacement := o.fields.bind (·.replacement)
  kind := o.kind <|> o.fields.bind (·.kind)
  comment := o.fields.bind (·.comment)

variable (o p : Options)

/-- Rows get what options determine, and else an empty replacement and the regular expressions. -/
theorem rowDefaults_eq :
    o.rowDefaults =
      ⟨o.determined.replacement.getD [], o.determined.kind.getD .regex, o.determined.comment⟩ := by
  obtain ⟨name, kind, fields⟩ := o
  cases fields <;> rfl

/-- Each field of rows is merged alike: what is laid over wins if it sets the field. -/
theorem bind_fields_merge {α : Type} (f : FieldOptions → Option α) (hopen : f {} = none)
    (hmerge : ∀ a b : FieldOptions, f (a.merge b) = (f b <|> f a)) :
    (o.merge p).fields.bind f = (p.fields.bind f <|> o.fields.bind f) := by
  unfold merge
  cases p.fields with
  | none => rfl
  | some b =>
    cases o.fields with
    | none =>
      show f (FieldOptions.merge {} b) = (f b <|> none)
      rw [hmerge, hopen]
    | some a => exact hmerge a b

theorem determined_replacement_merge :
    (o.merge p).determined.replacement =
      (p.determined.replacement <|> o.determined.replacement) :=
  bind_fields_merge o p (·.replacement) rfl fun _ _ => rfl

theorem determined_comment_merge :
    (o.merge p).determined.comment = (p.determined.comment <|> o.determined.comment) :=
  bind_fields_merge o p (·.comment) rfl fun _ _ => rfl

/-- **The order of the places where options set the kind**: the upper place of the options laid
over, the upper place of those below, and then the lower places. -/
theorem determined_kind_merge :
    (o.merge p).determined.kind =
      (p.kind <|> o.kind <|> p.determined.kind <|> o.determined.kind) := by
  have hkinds : (o.merge p).kind = (p.kind <|> o.kind) := rfl
  unfold determined
  rw [hkinds, bind_fields_merge o p (·.kind) rfl fun _ _ => rfl]
  -- a kind in the upper place of either hides its lower place
  cases p.kind with
  | some k => rfl
  | none =>
    cases o.kind with
    | some k => rfl
    | none => rfl

end Rule.Options

namespace Source

open Rule (Row RowFault Kind Options Operation)

/-! ## What a row becomes -/

/-- An operation has what a row sets. What the row leaves open is taken from the options `p`, and
what these leave open from the options `o` below them; but a kind that `o` sets for its source comes
before one that `p` sets among the fields. -/
structure Settled (o p : Options) (row : Row) (op : Operation) : Prop where
  search : op.search = row.search.getD []
  replacement : op.replacement =
    (row.replacement <|> p.determined.replacement).getD o.rowDefaults.replacement
  kind : op.kind = (row.kind <|> p.kind <|> o.kind <|> p.determined.kind).getD o.rowDefaults.kind
  comment : op.comment = (row.comment <|> p.determined.comment <|> o.rowDefaults.comment)

variable {o p : Options} {row : Row} {op : Operation}

theorem getD_orElse {α : Type} (x y : Option α) (z : α) : (x <|> y).getD z = x.getD (y.getD z) := by
  cases x <;> rfl

/-- A row that becomes an operation is settled by it. -/
theorem settled_of_build (h : row.build (o.merge p).rowDefaults = .ok op) : Settled o p row op := by
  obtain ⟨hsearch, hreplacement, hkind, hcomment⟩ := make_eq_ok h
  refine ⟨hsearch, ?_, ?_, ?_⟩
  · rw [hreplacement, Options.rowDefaults_eq, Options.rowDefaults_eq,
      Options.determined_replacement_merge]
    simp only [getD_orElse]
  · rw [hkind, Options.rowDefaults_eq, Options.rowDefaults_eq, Options.determined_kind_merge]
    simp only [getD_orElse]
  · rw [hcomment, Options.rowDefaults_eq, Options.rowDefaults_eq, Options.determined_comment_merge]

/-! ## Documents -/

/-- **Every operation of a document is settled by its row and two layers of options**, and its name
is that of the options laid over, or else of the document, or else of the source. So is what any
single row becomes, whether or not the rows beside it do. -/
theorem parseDocument_settled (source : Text) (p : Options) (v : Value) :
    (∀ r, parseDocument source p v = .ok r →
      ∃ o substitutions rows, IsDocument o substitutions v ∧
        documentRows substitutions = .ok rows ∧ r.name = (p.name <|> o.name).getD source ∧
        List.Forall₂ (fun row op => ∃ row', row = .ok row' ∧ Settled o p row' op)
          rows r.operations) ∧
    ∀ o row op, row.build (o.merge p).rowDefaults = .ok op → Settled o p row op := by
  refine ⟨fun r hr => ?_, fun o row op => settled_of_build⟩
  rw [parseDocument] at hr
  rcases readDocument_cases source p v with
    ⟨fault, hfault⟩ | ⟨o, substitutions, rows, hdocument, hrows, hread⟩
  · rw [hfault] at hr
    cases hr
  rw [hread, buildRows_eq_pass] at hr
  cases hops : pass source (rowOperation (o.merge p).rowDefaults) (rows.zipIdx 1) with
  | error e =>
    rw [hops] at hr
    cases hr
  | ok ops =>
    rw [hops] at hr
    cases hr
    refine ⟨o, substitutions, rows, hdocument, hrows, rfl, ?_⟩
    refine (pass_zipIdx_eq_ok_iff.mp hops).imp fun row op hop => ?_
    cases row with
    | error fault => cases hop
    | ok row => exact ⟨row, rfl, settled_of_build hop⟩

/-- A document that sets its name, the kind in its upper place, the replacement and the comment. One
of its rows leaves all of that open. -/
def layeredDocument : Value :=
  .mapping [
    (.text "options".toList, .mapping [(.text "name".toList, .text "n".toList),
      (.text "type".toList, .number (.int 1)),
      (.text "defaults".toList, .mapping [(.text "replace_pat".toList, .text "r".toList),
        (.text "comment".toList, .text "c".toList)])]),
    (.text "substitutions".toList, .sequence [.sequence [.text "a".toList],
      .sequence [.text "b".toList, .text "y".toList, .null, .text "z".toList]])]

/-- The caller's comment wins over that of the document and loses to that of a row, and the caller's
kind in the lower place loses to that of the document in the upper one. -/
theorem parseDocument_settled_layers :
    let p : Options := { fields := some { kind := some .regex, comment := some "p".toList } }
    let r : Rules := ⟨"n".toList, [⟨"a".toList, "r".toList, some "p".toList, .literal⟩,
      ⟨"b".toList, "y".toList, some "z".toList, .literal⟩]⟩
    parseDocument "doc".toList p layeredDocument = .ok r ∧
      ∃ o substitutions rows, IsDocument o substitutions layeredDocument ∧
        documentRows substitutions = .ok rows ∧ r.name = (p.name <|> o.name).getD "doc".toList ∧
        List.Forall₂ (fun row op => ∃ row', row = .ok row' ∧ Settled o p row' op)
          rows r.operations :=
  ⟨rfl, (parseDocument_settled _ _ _).1 _ rfl⟩

/-- **The caller's kind can lose.** A caller who asks for literal rules in the lower place gets
regular expressions from a document that sets them in the upper place, though its row leaves the
kind open. -/
theorem overriding_kind_outranked :
    let p : Options := { fields := some { kind := some .literal } }
    let o : Options := { kind := some .regex }
    let row : Row := { search := some ['.'], replacement := some ['x'] }
    let v : Value := .mapping [
      (.text "options".toList, .mapping [(.text "type".toList, .number (.int 0))]),
      (.text "substitutions".toList, .sequence [.sequence [.text ['.'], .text ['x']]])]
    IsDocument o (.sequence [.sequence [.text ['.'], .text ['x']]]) v ∧
      documentRows (.sequence [.sequence [.text ['.'], .text ['x']]]) = .ok [.ok row] ∧
      row.kind = none ∧ p.determined.kind = some .literal ∧ p.rowDefaults.kind = .literal ∧
      ∃ op, parseDocument "doc".toList p v = .ok ⟨"doc".toList, [op]⟩ ∧
        op.kind ≠ (row.kind <|> p.determined.kind).getD o.rowDefaults.kind := by
  intro p o row v
  have hdocument : IsDocument o (.sequence [.sequence [.text ['.'], .text ['x']]]) v :=
    ⟨_, rfl, rfl, rfl⟩
  have hrows : documentRows (.sequence [.sequence [.text ['.'], .text ['x']]]) =
      .ok [.ok row] := rfl
  have hmade : (row.build (o.merge p).rowDefaults).toOption.isSome = true := by decide +kernel
  refine ⟨hdocument, hrows, rfl, rfl, rfl, ?_⟩
  cases hop : row.build (o.merge p).rowDefaults with
  | error e =>
    rw [hop] at hmade
    cases hmade
  | ok op =>
    have hkind : op.kind = .regex := (make_eq_ok hop).2.2.1
    refine ⟨op, ?_, by rw [hkind]; decide⟩
    rw [hdocument.parseDocument_eq_buildRows hrows, buildRows, buildRow, buildAt, hop]
    rfl

end Source

end Lector
