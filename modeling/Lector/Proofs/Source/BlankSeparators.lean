import Lector.Proofs.Source.Line
import Lector.Proofs.Source.RuleLines
import Lector.Proofs.Text.Occurrences

/-!
# Separators of white space

A line is trimmed, and then loses a comment, the white space in front of it and the separators at
its end, before it is split into fields. If fields are separated by white space, the first character
of the line that is not blank comes through all of this: it belongs neither to a separator nor to
what is trimmed, and it is no mark of a comment, or the line would hold no rule. So it starts the
first field. The row of a line has a search pattern then, and only its kind can be wrong.

## Main definitions

* `Layout.Spaced`: fields are separated by white space
* `IsIdle`: a line is blank, or all of it is a comment
* `RuleAt`: a line that is not idle stands at a place
* `Searches`: a row has a search pattern, and its fields are free of what cuts lines

## Main results

* `dropSuffixes_append_cons`: what is dropped from the end has only characters of the separator
* `mem_ruleLines_iff`: the lines that hold rules are those that are not idle
* `rows_numbers`: there is one row for each line that holds a rule
* `Layout.Spaced.searches`: a row of a line has a search pattern
* `rows_of_spaced`: all rows of a text have search patterns
-/

namespace Lector.Source

open Rule (Row RowFault Kind Operation)
open Text (trim trimEnd)

/-- Fields are separated by white space. -/
structure Layout.Spaced (layout : Layout) : Prop where
  nonempty : layout.separator ≠ []
  blank : ∀ c ∈ layout.separator, isBlank c = true

/-- A line is blank, or a comment that only white space stands in front of. -/
def IsIdle (line : Text) : Prop :=
  (∀ c ∈ line, isBlank c = true) ∨ ∃ v u, line = v ++ '#' :: u ∧ ∀ c ∈ v, isBlank c = true

/-- A line that is not idle stands at a place of a text, counted from 1. -/
def RuleAt (t : Text) (n : Nat) (line : Text) : Prop :=
  ∃ i, n = i + 1 ∧ (Text.lines t)[i]? = some line ∧ ¬ IsIdle line

/-- A row has a search pattern that does not start with white space, and neither this nor the
replacement holds anything at which lines are cut. -/
structure Searches (layout : Layout) (row : Row) : Prop where
  starts : ∃ c u, row.search = some (c :: u) ∧ isBlank c = false
  noSeparator : ∀ f, row.search = some f ∨ row.replacement = some f → ¬ layout.separator <:+: f
  noMark : layout.trimComments = true →
    ∀ f, row.search = some f ∨ row.replacement = some f → '#' ∉ f

variable {layout : Layout} {c : Char} {p s t u : Text} {row : Row} {e : Error}

/-! ## Separators at the end of a line -/

theorem dropPrefixes_isSuffix (p t : Text) : dropPrefixes p t <:+ t := by
  fun_induction dropPrefixes p t with
  | case1 t _ ih => exact ih.trans (List.drop_suffix p.length t)
  | case2 t _ => exact List.suffix_rfl

theorem dropSuffixes_isPrefix (s t : Text) : dropSuffixes s t <+: t := by
  simpa [dropSuffixes] using List.reverse_prefix.mpr (dropPrefixes_isSuffix s.reverse t.reverse)

/-- Dropping from the start stops at a character that is not in what is dropped. -/
theorem dropPrefixes_append_cons (hc : c ∉ p) (t u : Text) :
    dropPrefixes p (t ++ c :: u) = dropPrefixes p t ++ c :: u := by
  fun_induction dropPrefixes p t with
  | case1 t ht ih =>
    obtain ⟨hp, hprefix⟩ := ht
    obtain ⟨rest, rfl⟩ := List.isPrefixOf_iff_prefix.mp hprefix
    rw [List.drop_left] at ih
    rw [List.append_assoc, dropPrefixes, dif_pos ⟨hp, by simp⟩, List.drop_left, ih, List.drop_left]
  | case2 t ht =>
    refine (dropPrefixes.eq_def ..).trans (dif_neg fun h => ht ⟨h.1, ?_⟩)
    rw [List.isPrefixOf_iff_prefix] at h ⊢
    exact Text.prefix_of_prefix_append_cons h.2 hc

/-- **Dropping from the end stops at a character that is not in what is dropped.** -/
theorem dropSuffixes_append_cons (hc : c ∉ s) (t u : Text) :
    dropSuffixes s (t ++ c :: u) = t ++ c :: dropSuffixes s u := by
  have hreverse : c ∉ s.reverse := by simpa using hc
  simp [dropSuffixes, dropPrefixes_append_cons hreverse]

/-! ## The row of a line -/

/-- Neither a comment nor the white space in front of it takes the first character of a line along
that holds a rule. -/
theorem exists_cutComment_cons (layout : Layout) (hc : isBlank c = false) (hmark : c ≠ '#')
    (u : Text) :
    ∃ data comment, cutComment layout (c :: u) = (c :: data, comment) ∧
      (layout.trimComments = true → '#' ∉ c :: data) := by
  unfold cutComment
  split
  next htrim =>
    split
    next data comment hcut =>
      obtain ⟨hdata, hline⟩ := Text.eq_of_cutAt? hcut
      cases data with
      | nil => exact absurd (List.cons.inj hline).1 hmark
      | cons d data =>
        obtain rfl : c = d := (List.cons.inj hline).1
        have hend : (isBlank c && !layout.separator.contains c) = false := by rw [hc, Bool.false_and]
        have hdrop := Text.dropEndWhile_append_cons
          (p := fun c => isBlank c && !layout.separator.contains c) (t := []) (u := data) hend
        rw [List.nil_append] at hdrop
        refine ⟨_, _, by rw [hdrop]; rfl, fun _ hmem => hdata ?_⟩
        exact List.cons_subset_cons c (fun d => Text.mem_of_mem_dropEndWhile) hmem
    next hcut => exact ⟨u, none, rfl, fun _ => Text.cutAt?_eq_none_iff.mp hcut⟩
  next htrim => exact ⟨u, none, rfl, fun h => absurd h htrim⟩

theorem Layout.Spaced.not_mem (h : layout.Spaced) (hc : isBlank c = false) :
    c ∉ layout.separator := by
  intro hmem
  rw [h.blank c hmem] at hc
  cases hc

theorem Layout.Spaced.fieldsOf_eq (h : layout.Spaced) (t : Text) :
    fieldsOf layout.separator t = Text.splitOn layout.separator t := by
  unfold fieldsOf
  split
  next hnil => exact absurd hnil h.nonempty
  next => rfl

/-- The first field starts with the first character of the line. No field holds a separator, and
each is a part of the data. -/
theorem Layout.Spaced.exists_fieldsOf_cons (h : layout.Spaced) (hc : isBlank c = false)
    (data : Text) :
    ∃ first rest,
      fieldsOf layout.separator (dropSuffixes layout.separator (c :: data)) =
        (c :: first) :: rest ∧
      ∀ f ∈ (c :: first) :: rest, ¬ layout.separator <:+: f ∧ f ⊆ c :: data := by
  have hdrop : dropSuffixes layout.separator (c :: data) =
      c :: dropSuffixes layout.separator data := dropSuffixes_append_cons (h.not_mem hc) [] data
  have hstart : ¬ layout.separator <+: c :: dropSuffixes layout.separator data := by
    intro hprefix
    obtain ⟨d, sep, hsep⟩ := List.exists_cons_of_ne_nil h.nonempty
    rw [hsep] at hprefix
    obtain rfl := (List.cons_prefix_cons.mp hprefix).1
    exact h.not_mem hc (by simp [hsep])
  obtain ⟨first, rest, hsplit⟩ := Text.exists_splitOn_cons hstart
  have hpieces := Text.pieces_splitOn h.nonempty (c :: dropSuffixes layout.separator data)
  rw [hsplit] at hpieces
  have hkept : c :: dropSuffixes layout.separator data ⊆ c :: data := by
    rw [← hdrop]
    exact (dropSuffixes_isPrefix layout.separator (c :: data)).subset
  exact ⟨first, rest, by rw [hdrop, h.fieldsOf_eq, hsplit], fun f hf =>
    ⟨hpieces.not_infix h.nonempty f hf,
      List.Subset.trans (hpieces.infix_of_mem f hf).subset hkept⟩⟩

/-- **The row of a line has a search pattern.** -/
theorem Layout.Spaced.searches (h : layout.Spaced) (hc : isBlank c = false) (hmark : c ≠ '#')
    (hrow : readRow layout (c :: u) = .ok row) : Searches layout row := by
  obtain ⟨data, comment, hcut, hdata⟩ := exists_cutComment_cons layout hc hmark u
  obtain ⟨first, rest, hfields, hall⟩ := h.exists_fieldsOf_cons hc data
  rw [readRow, hcut] at hrow
  dsimp only at hrow
  rw [hfields] at hrow
  obtain ⟨hsearch, hreplacement⟩ := fields_of_ofFields_eq_ok hrow
  have hfield (f : Text) (hf : row.search = some f ∨ row.replacement = some f) :
      f ∈ (c :: first) :: rest := by
    rw [hsearch, hreplacement] at hf
    exact hf.elim List.mem_of_getElem? List.mem_of_getElem?
  exact ⟨⟨c, first, hsearch, hc⟩, fun f hf => (hall f (hfield f hf)).1,
    fun htrim f hf hmem => hdata htrim ((hall f (hfield f hf)).2 hmem)⟩

/-- All that can be wrong with the row of a line is its kind. -/
theorem exists_of_readRow_eq_error {fault : RowFault} (h : readRow layout t = .error fault) :
    ∃ word, Kind.read? word = none ∧ fault = .unknownKind word := by
  unfold readRow at h
  exact exists_of_ofFields_eq_error h

/-! ## Lines that hold rules -/

theorem holdsRule_trim_iff : holdsRule (trim t) = true ↔ ¬ IsIdle t := by
  rcases Text.blank_or_first t with ht | ⟨v, c, u, rfl, hc, hv⟩
  · rw [Text.trim_of_blank ht]
    exact iff_of_false Bool.false_ne_true (not_not.mpr (Or.inl ht))
  · have hfirst : holdsRule (trim (v ++ c :: u)) = true ↔ c ≠ '#' := by
      simp [Text.trim_of_first hc hv, holdsRule]
    rw [hfirst, not_iff_not, IsIdle]
    constructor
    · rintro rfl
      exact Or.inr ⟨v, u, rfl, hv⟩
    · rintro (hblank | ⟨v', u', ht, hv'⟩)
      · rw [hblank c (by simp)] at hc
        cases hc
      · have htrim := congrArg trim ht
        rw [Text.trim_of_first hc hv, Text.trim_of_first (by decide) hv'] at htrim
        exact (List.cons.inj htrim).1

/-- **The lines that hold rules are those that are not idle**, by their places in the text. -/
theorem mem_ruleLines_iff {line : Text} {n : Nat} :
    (line, n) ∈ ruleLines t ↔ ∃ l, RuleAt t n l ∧ line = trim l := by
  rw [ruleLines, List.mem_filter, List.mk_mem_zipIdx_iff_le_and_getElem?_sub, trimmedLines,
    List.getElem?_map, Option.map_eq_some_iff]
  constructor
  · rintro ⟨⟨hn, l, hl, rfl⟩, hrule⟩
    exact ⟨l, ⟨n - 1, by omega, hl, holdsRule_trim_iff.mp hrule⟩, rfl⟩
  · rintro ⟨l, ⟨i, rfl, hl, hidle⟩, rfl⟩
    exact ⟨⟨by omega, l, by simpa using hl, rfl⟩, holdsRule_trim_iff.mpr hidle⟩

/-- The lines that hold rules start with a character that is neither blank nor the mark of a
comment. -/
theorem exists_eq_cons_of_mem_ruleLines {line : Text} {n : Nat} (h : (line, n) ∈ ruleLines t) :
    ∃ c u, line = c :: u ∧ isBlank c = false ∧ c ≠ '#' := by
  obtain ⟨l, ⟨i, -, -, hidle⟩, rfl⟩ := mem_ruleLines_iff.mp h
  rcases Text.blank_or_first l with hl | ⟨v, c, u, rfl, hc, hv⟩
  · exact absurd (Or.inl hl) hidle
  · refine ⟨c, _, Text.trim_of_first hc hv, hc, ?_⟩
    rintro rfl
    exact hidle (Or.inr ⟨v, u, rfl, hv⟩)

theorem pairwise_ruleLines (t : Text) : ((ruleLines t).map Prod.snd).Pairwise (· < ·) := by
  have hsublist : ((ruleLines t).map Prod.snd).Sublist (((trimmedLines t).zipIdx 1).map Prod.snd) :=
    List.filter_sublist.map Prod.snd
  rw [List.zipIdx_map_snd] at hsublist
  exact (List.pairwise_lt_range' 1).sublist hsublist

/-! ## The rows of a text -/

theorem rowAt_eq_ok_iff {line : Text × Nat} {n : Nat} :
    rowAt layout line = .ok (n, row) ↔ n = line.2 ∧ readRow layout line.1 = .ok row := by
  rw [rowAt]
  cases readRow layout line.1 <;> simp [Except.map, Except.mapError, eq_comm]

/-- **There is one row for each line that holds a rule**, and it has the number of the line. -/
theorem rows_numbers {rs : List (Nat × Row)} (h : rows layout t = .ok rs) :
    rs.map Prod.fst = (ruleLines t).map Prod.snd := by
  rw [rows_eq_mapM, mapM_eq_ok_iff] at h
  have hnumbers : List.Forall₂ (· = ·) ((ruleLines t).map Prod.snd) (rs.map Prod.fst) :=
    List.forall₂_map_left_iff.mpr (List.forall₂_map_right_iff.mpr
      (h.imp fun _ _ hr => (rowAt_eq_ok_iff.mp hr).1.symm))
  rw [List.forall₂_eq_eq_eq] at hnumbers
  exact hnumbers.symm

/-- A row is that of the line with its number. -/
theorem exists_of_mem_rows {rs : List (Nat × Row)} (h : rows layout t = .ok rs) {n : Nat}
    (hmem : (n, row) ∈ rs) : ∃ line, (line, n) ∈ ruleLines t ∧ readRow layout line = .ok row := by
  rw [rows_eq_mapM] at h
  obtain ⟨⟨line, m⟩, hline, hread⟩ := exists_of_mem_mapM h hmem
  obtain ⟨rfl, hrow⟩ := rowAt_eq_ok_iff.mp hread
  exact ⟨line, hline, hrow⟩

/-- If there are no rows, a line names a kind that cannot be read. -/
theorem exists_of_rows_eq_error (h : rows layout t = .error e) :
    ∃ line n word, (line, n) ∈ ruleLines t ∧ Kind.read? word = none ∧
      e = .row [] n (.unknownKind word) := by
  rw [rows_eq_mapM] at h
  obtain ⟨⟨line, n⟩, hline, hread⟩ := exists_of_mapM_eq_error h
  rw [rowAt] at hread
  cases hrow : readRow layout line with
  | ok row =>
    rw [hrow] at hread
    cases hread
  | error fault =>
    rw [hrow] at hread
    cases hread
    obtain ⟨word, hword, rfl⟩ := exists_of_readRow_eq_error hrow
    exact ⟨line, n, word, hline, hword, rfl⟩

theorem Layout.Spaced.searches_of_mem_rows (h : layout.Spaced) {rs : List (Nat × Row)}
    (hrows : rows layout t = .ok rs) {n : Nat} (hmem : (n, row) ∈ rs) : Searches layout row := by
  obtain ⟨line, hline, hrow⟩ := exists_of_mem_rows hrows hmem
  obtain ⟨c, u, rfl, hc, hmark⟩ := exists_eq_cons_of_mem_ruleLines hline
  exact h.searches hc hmark hrow

/-- The rule of a row with a search pattern is refused for its pattern or its template only. -/
theorem Searches.exists_of_build_eq_error (h : Searches layout row) {d : Rule.Defaults}
    (hbuild : row.build d = .error e) :
    ∃ pattern fault, e = .substitution pattern fault none := by
  obtain ⟨c, u, hsearch, -⟩ := h.starts
  have hempty : ((row.search.getD []).isEmpty) = false := by rw [hsearch]; rfl
  unfold Row.build Operation.make at hbuild
  rw [hempty, if_neg Bool.false_ne_true] at hbuild
  split at hbuild
  next => cases hbuild
  next fault _ =>
    cases hbuild
    exact ⟨_, fault, rfl⟩

theorem exists_of_buildAt_eq_error {source : Text} {d : Rule.Defaults} {n : Nat}
    (h : buildAt source d n row = .error e) :
    ∃ cause, row.build d = .error cause ∧ e = cause.atRow source n := by
  unfold buildAt at h
  split at h
  next => cases h
  next cause hcause =>
    cases h
    exact ⟨cause, hcause, rfl⟩

/-- All that can be wrong with a text is a kind, or the pattern or template of a rule. -/
theorem Layout.Spaced.error_cases (h : layout.Spaced) {source : Text}
    (hparse : parseDelimited layout source t = .error e) :
    ∃ n, (∃ word, e = .row source n (.unknownKind word)) ∨
      ∃ pattern fault, e = .substitution pattern fault (some (source, n)) := by
  have hread : readDelimited layout source t = .error e := map_eq_error_iff.mp hparse
  unfold readDelimited at hread
  cases hrows : rows layout t with
  | error e' =>
    rw [hrows] at hread
    cases hread
    obtain ⟨line, n, word, -, -, rfl⟩ := exists_of_rows_eq_error hrows
    exact ⟨n, Or.inl ⟨word, rfl⟩⟩
  | ok rs =>
    rw [hrows] at hread
    obtain ⟨⟨n, row⟩, hmem, hrow⟩ := exists_of_mapM_eq_error (map_eq_error_iff.mp hread)
    obtain ⟨cause, hcause, rfl⟩ := exists_of_buildAt_eq_error hrow
    obtain ⟨pattern, fault, rfl⟩ :=
      (h.searches_of_mem_rows hrows hmem).exists_of_build_eq_error hcause
    exact ⟨n, Or.inr ⟨pattern, fault, rfl⟩⟩

/-- **Every rule has a search pattern if fields are separated by white space.** There is one row for
each line that is neither blank nor a comment, with the number of this line, in their order. The row
is that of the trimmed line. Its search pattern is not empty and does not start with white space,
and its fields hold no separator, and no mark where comments are cut off. If there are no
rows, a line names a kind that cannot be read. A source is refused for a kind or for the pattern or
template of a rule, and never because a rule has no search pattern. -/
theorem rows_of_spaced (h : layout.Spaced) (t : Text) :
    (∀ rs, rows layout t = .ok rs →
        (rs.map Prod.fst).Pairwise (· < ·) ∧
        (∀ n, n ∈ rs.map Prod.fst ↔ ∃ line, RuleAt t n line) ∧
        ∀ n row, (n, row) ∈ rs → Searches layout row ∧
          ∃ line, RuleAt t n line ∧ readRow layout (trim line) = .ok row) ∧
      (∀ e, rows layout t = .error e → ∃ n line word, RuleAt t n line ∧
        Kind.read? word = none ∧ e = .row [] n (.unknownKind word)) ∧
      ∀ source e, parseDelimited layout source t = .error e →
        (∀ s n, e ≠ .row s n .emptySearch) ∧
        ∃ n, (∃ word, e = .row source n (.unknownKind word)) ∨
          ∃ pattern fault, e = .substitution pattern fault (some (source, n)) := by
  refine ⟨fun rs hrows => ⟨?_, fun n => ?_, fun n row hmem => ?_⟩, fun e hrows => ?_,
    fun source e hparse => ⟨?_, h.error_cases hparse⟩⟩
  · rw [rows_numbers hrows]
    exact pairwise_ruleLines t
  · rw [rows_numbers hrows, List.mem_map]
    constructor
    · rintro ⟨⟨line, m⟩, hline, rfl⟩
      obtain ⟨l, hl, -⟩ := mem_ruleLines_iff.mp hline
      exact ⟨l, hl⟩
    · rintro ⟨l, hl⟩
      exact ⟨(trim l, n), mem_ruleLines_iff.mpr ⟨l, hl, rfl⟩, rfl⟩
  · obtain ⟨line, hline, hrow⟩ := exists_of_mem_rows hrows hmem
    obtain ⟨l, hl, rfl⟩ := mem_ruleLines_iff.mp hline
    exact ⟨h.searches_of_mem_rows hrows hmem, l, hl, hrow⟩
  · obtain ⟨line, n, word, hline, hword, rfl⟩ := exists_of_rows_eq_error hrows
    obtain ⟨l, hl, -⟩ := mem_ruleLines_iff.mp hline
    exact ⟨n, l, word, hl, hword, rfl⟩
  · rintro s n rfl
    obtain ⟨m, ⟨word, he⟩ | ⟨pattern, fault, he⟩⟩ := h.error_cases hparse
    · cases he
    · cases he

/-- Separators and a comment can take all of a line along but its first character. -/
theorem rows_of_spaced_two_spaces :
    let layout : Layout := { separator := [' ', ' '] }
    let t := "a      # b\n\n # c\nd  #  e".toList
    layout.Spaced ∧ ∃ rs, rows layout t = .ok rs ∧ rs.map Prod.fst = [1, 4] ∧
      ∀ r ∈ rs, Searches layout r.2 := by
  intro layout t
  have hspaced : layout.Spaced := by
    refine ⟨by decide, fun c hc => ?_⟩
    obtain rfl : c = ' ' := by simpa [layout] using hc
    rfl
  let rs : List (Nat × Row) := [(1, { search := some ['a'], comment := some ['b'] }),
    (4, { search := some ['d'], comment := some ['e'] })]
  have hread : (rows layout t).toOption = some rs := by decide +kernel
  have hrows : rows layout t = .ok rs := by
    cases h : rows layout t with
    | error e =>
      rw [h] at hread
      cases hread
    | ok rs' =>
      rw [h] at hread
      exact congrArg Except.ok (Option.some.inj hread)
  exact ⟨hspaced, rs, hrows, rfl, fun r hr =>
    (((rows_of_spaced hspaced t).1 rs hrows).2.2 r.1 r.2 hr).1⟩

end Lector.Source
