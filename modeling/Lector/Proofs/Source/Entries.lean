import Lector.Proofs.Source.RuleLines
import Lector.Proofs.Source.Shapes

/-!
# Rules from the entries of a mapping

A mapping from search patterns to replacements can be read on its own, as the substitutions of a
document, or written out there as a list of sequences. All three give the same operations, one for
each entry, or the same error: that of the first entry that cannot become an operation.

## Main definitions

* `entryOperation`: the operation of an entry
* `keyedEntry`, `listedEntry`: the entry in a mapping and in a list

## Main results

* `buildRows_eq_pass`, `parseMapping_eq_pass`: rows and mappings are read in one pass
* `document_agrees_with_mapping`: the three ways agree, and what they give
-/

namespace Lector.Source

open Rule (Row RowFault Options Operation Defaults)

/-! ## A pass over the entries -/

theorem buildRow_eq (source : Text) (d : Defaults) (n : Nat) (row : Except RowFault Row) :
    buildRow source d n row = (rowOperation d row).mapError (·.atRow source n) := by
  cases row with
  | error fault => rfl
  | ok row =>
    show buildAt source d n row = (row.build d).mapError (·.atRow source n)
    rw [buildAt]
    cases row.build d <;> rfl

/-- **Rows become operations in one pass.** -/
theorem buildRows_eq_pass (source : Text) (d : Defaults) (n : Nat)
    (rows : List (Except RowFault Row)) :
    buildRows source d n rows = pass source (rowOperation d) (rows.zipIdx n) := by
  induction rows generalizing n with
  | nil => rfl
  | cons row rows ih =>
    rw [List.zipIdx_cons, buildRows, buildRow_eq, ih]
    cases hop : rowOperation d row with
    | error e => exact (pass_cons_of_error hop).symm
    | ok op => exact (pass_cons_of_ok hop).symm

/-- The operation of an entry of a mapping. -/
def entryOperation (d : Defaults) (entry : Text × Value) : Except Error Operation :=
  rowOperation d (Row.ofEntry entry.1 entry.2)

/-- **A mapping is read in one pass over its entries.** -/
theorem parseMapping_eq_pass (source : Text) (d : Defaults) (entries : List (Text × Value)) :
    parseMapping source d entries = pass source (entryOperation d) (entries.zipIdx 1) := by
  rw [parseMapping, buildRows_eq_pass, List.zipIdx_map, pass, List.mapM_map]
  rfl

/-! ## Documents -/

/-- The entry in a mapping of values. -/
def keyedEntry (entry : Text × Value) : Value × Value := (.text entry.1, entry.2)

/-- The entry in a list: its key in front of the members of its value, or of its value if that is no
sequence. -/
def listedEntry (entry : Text × Value) : Value :=
  match entry.2 with
  | .sequence items => .sequence (.text entry.1 :: items)
  | v => .sequence [.text entry.1, v]

variable {entries : List (Text × Value)}

theorem documentRows_keyed (entries : List (Text × Value)) :
    documentRows (.mapping (entries.map keyedEntry)) =
      .ok (entries.map fun entry => Row.ofEntry entry.1 entry.2) := by
  rw [documentRows, List.map_map]
  rfl

theorem ofValue_listedEntry (entry : Text × Value) :
    Row.ofValue (listedEntry entry) = Row.ofEntry entry.1 entry.2 := by
  obtain ⟨key, v⟩ := entry
  cases v <;> rfl

theorem documentRows_listed (entries : List (Text × Value)) :
    documentRows (.sequence (entries.map listedEntry)) =
      .ok (entries.map fun entry => Row.ofEntry entry.1 entry.2) := by
  rw [documentRows, List.map_map]
  exact congrArg _ (List.map_congr_left fun entry _ => ofValue_listedEntry entry)

/-- **The entries of a mapping, the substitutions of a document and a list of sequences agree.** -/
theorem document_agrees_with_mapping {o : Options} {keyed listed : Value}
    (hkeyed : IsDocument o (.mapping (entries.map keyedEntry)) keyed)
    (hlisted : IsDocument o (.sequence (entries.map listedEntry)) listed)
    (overrides : Options) (source : Text) :
    let options := o.merge overrides
    let parsed := parseMapping source options.rowDefaults entries
    parseDocument source overrides keyed = parsed.map (Rules.mk (options.name.getD source)) ∧
      parseDocument source overrides listed = parsed.map (Rules.mk (options.name.getD source)) ∧
      (∀ ops, parsed = .ok ops ↔ List.Forall₂
        (fun entry op => entryOperation options.rowDefaults entry = .ok op) entries ops) ∧
      ∀ e, parsed = .error e ↔
        ∃ before entry after cause, entries = before ++ entry :: after ∧
          (∀ x ∈ before, ∃ op, entryOperation options.rowDefaults x = .ok op) ∧
          entryOperation options.rowDefaults entry = .error cause ∧
          e = cause.atRow source (before.length + 1) ∧
          e.place? = some (source, before.length + 1) := by
  intro options parsed
  have hpass : parsed = pass source (entryOperation options.rowDefaults) (entries.zipIdx 1) :=
    parseMapping_eq_pass source options.rowDefaults entries
  refine ⟨?_, ?_, fun ops => ?_, fun e => ?_⟩
  · exact hkeyed.parseDocument_eq_buildRows (documentRows_keyed entries) source overrides
  · exact hlisted.parseDocument_eq_buildRows (documentRows_listed entries) source overrides
  · rw [hpass]
    exact pass_zipIdx_eq_ok_iff
  · rw [hpass, pass_zipIdx_eq_error_iff]
    constructor
    · rintro ⟨before, entry, after, cause, hentries, hbefore, hcause, rfl⟩
      rw [Nat.add_comm]
      exact ⟨before, entry, after, cause, hentries, hbefore, hcause, rfl,
        place?_of_rowOperation hcause source _⟩
    · rintro ⟨before, entry, after, cause, hentries, hbefore, hcause, rfl, -⟩
      exact ⟨before, entry, after, cause, hentries, hbefore, hcause, by rw [Nat.add_comm]⟩

/-- Of three entries the second has a tagged value, which is no scalar. -/
theorem document_agrees_with_mapping_tagged :
    let tagged := Value.tagged "t".toList (.text ['x'])
    parseDocument "doc".toList {} (notedDocument (.mapping
        [(.text ['a'], .sequence [.text ['b']]), (.text ['c'], tagged), (.text [], .null)])) =
      .error (.row "doc".toList 2 (.notScalar tagged)) ∧
    parseDocument "doc".toList {} (notedDocument (.sequence
        [.sequence [.text ['a'], .text ['b']], .sequence [.text ['c'], tagged],
          .sequence [.text [], .null]])) =
      .error (.row "doc".toList 2 (.notScalar tagged)) := by
  intro tagged
  let entries : List (Text × Value) :=
    [(['a'], .sequence [.text ['b']]), (['c'], tagged), ([], .null)]
  have hfails : parseMapping "doc".toList (notedOptions.merge {}).rowDefaults entries =
      .error (.row "doc".toList 2 (.notScalar tagged)) := by rfl
  obtain ⟨hkeyed, hlisted, -⟩ := document_agrees_with_mapping
    (isDocument_notedDocument (.mapping (entries.map keyedEntry)))
    (isDocument_notedDocument (.sequence (entries.map listedEntry))) {} "doc".toList
  rw [hfails] at hkeyed hlisted
  exact ⟨hkeyed, hlisted⟩

end Lector.Source
