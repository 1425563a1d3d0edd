import Mathlib.Logic.Relation
import Lector.Proofs.Source.RuleLines

/-!
# How a text of rules is laid out

Line ends, blank lines and comments may be changed in a text of rules, and a first line that looks
like options but cannot be read as such may be emptied. The text is read to the same rules as
before, or the reading fails at the same rule. Only the first line that is not blank is another
matter, since it may give options.

## Main definitions

* `Rearranged`: one change of the layout
* `ReadAlike`: two texts give the same rules, or the same fault at the same rule

## Main results

* `Rearranged.content_eq`: a change keeps the options and the lines that hold rules
* `readAlike_of_content_eq`: which is all that is read of a text
* `layout_inert`: texts that come from one another by changes are read alike
-/

namespace Lector.Source

open Rule (Row Options Operation)
open Text (trim)

/-! ## Changes -/

/-- A text with a carriage return in front of each line feed. -/
def withReturns (t : Text) : Text := t.flatMap fun c => if c = '\n' then ['\r', '\n'] else [c]

/-- A line that is a comment and nothing else. -/
def IsComment (line : Text) : Prop := ∃ rest, trim line = '#' :: rest

/-- A line that looks like options but cannot be read as such. -/
def IsMalformed (line : Text) : Prop :=
  looksLikeOptions (trim line) = true ∧ Yaml.readOptions? (optionsBody (trim line)) = none

/-- One change of the layout. Lines come in; that lines go or become others is the same the other
way round. -/
inductive Rearranged : Text → Text → Prop
  /-- Line feeds get carriage returns in front of them. -/
  | returns (t : Text) : Rearranged t (withReturns t)
  /-- The last line is ended. -/
  | ended (t : Text) : Rearranged t (t ++ ['\n'])
  /-- A blank line comes in. -/
  | blank {a line : Text} (b : Text) : Ended a → '\n' ∉ line → (∀ c ∈ line, isBlank c = true) →
      Rearranged (a ++ b) (a ++ line ++ '\n' :: b)
  /-- A comment comes in below the first line that is not blank. -/
  | comment {a line : Text} (b : Text) : Ended a → (∃ c ∈ a, isBlank c = false) →
      '\n' ∉ line → IsComment line → Rearranged (a ++ b) (a ++ line ++ '\n' :: b)
  /-- The first line that is not blank is malformed and is emptied. -/
  | malformed {a line mark : Text} (b : Text) : Ended a → (∀ c ∈ a, isBlank c = true) →
      '\n' ∉ line → IsMalformed line → '\n' ∉ mark → trim mark = ['#'] →
      Rearranged (a ++ line ++ '\n' :: b) (a ++ mark ++ '\n' :: b)

/-! ## What is read of a text -/

/-- What the reading takes from a text: its options and the lines that hold rules. -/
def content (t : Text) : Options × List Text := (config t, (trimmedLines t).filter holdsRule)

variable {a b line t u : Text}

theorem trimmedLines_cons (hline : '\n' ∉ line) (b : Text) :
    trimmedLines (line ++ '\n' :: b) = trim line :: trimmedLines b := by
  rw [trimmedLines, Text.lines_append_cons hline]
  rfl

theorem Ended.trimmedLines_insert (ha : Ended a) (hline : '\n' ∉ line) (b : Text) :
    trimmedLines (a ++ line ++ '\n' :: b) = trimmedLines a ++ trim line :: trimmedLines b := by
  rw [List.append_assoc, ha.trimmedLines_append, trimmedLines_cons hline]

theorem withReturns_append (t u : Text) : withReturns (t ++ u) = withReturns t ++ withReturns u :=
  List.flatMap_append

theorem withReturns_of_not_mem (h : '\n' ∉ t) : withReturns t = t := by
  induction t with
  | nil => rfl
  | cons c t ih =>
    have hc : c ≠ '\n' := fun e => h (by simp [e])
    rw [withReturns, List.flatMap_cons, if_neg hc, ← withReturns, ih fun hd => h (by simp [hd])]
    rfl

theorem trimmedLines_withReturns (t : Text) : trimmedLines (withReturns t) = trimmedLines t := by
  induction t using Text.line_induction with
  | last t ht => rw [withReturns_of_not_mem ht]
  | ended l t hl ih =>
    have hsplit : withReturns (l ++ '\n' :: t) = (l ++ ['\r']) ++ '\n' :: withReturns t := by
      rw [withReturns_append, withReturns_of_not_mem hl, List.append_assoc]
      rfl
    have hreturn : '\n' ∉ l ++ ['\r'] := by simp [hl]
    have htrim : trim (l ++ ['\r']) = trim l :=
      Text.trim_append_of_blank (List.forall_mem_singleton.mpr (by decide))
    rw [hsplit, trimmedLines_cons hreturn, trimmedLines_cons hl, htrim, ih]

theorem firstLine?_isSome (h : ∃ c ∈ t, isBlank c = false) : (firstLine? t).isSome = true := by
  obtain ⟨c, hc, hblank⟩ := h
  have hfeed : c ≠ '\n' := by
    rintro rfl
    exact absurd hblank (by decide)
  obtain ⟨l, hl, hcl⟩ := Text.exists_mem_lines hc hfeed
  rw [firstLine?, List.find?_isSome]
  refine ⟨trim l, List.mem_map_of_mem hl, ?_⟩
  rcases Text.blank_or_last l with hall | ⟨v, d, w, rfl, hd, hw⟩
  · rw [hall c hcl] at hblank
    cases hblank
  · rw [Text.trim_of_last hd hw]
    simp

theorem firstLine?_of_blank (h : ∀ c ∈ t, isBlank c = true) : firstLine? t = none := by
  rw [firstLine?, List.find?_eq_none]
  intro line hline
  obtain ⟨l, hl, rfl⟩ := List.mem_map.mp hline
  rw [Text.trim_of_blank fun c hc => h c (Text.mem_of_mem_lines hl hc)]
  decide

theorem IsComment.holdsRule_eq (h : IsComment line) : holdsRule (trim line) = false := by
  obtain ⟨rest, hrest⟩ := h
  rw [hrest]
  rfl

theorem IsComment.trim_ne_nil (h : IsComment line) : trim line ≠ [] := by
  obtain ⟨rest, hrest⟩ := h
  simp [hrest]

theorem isComment_of_looksLikeOptions (h : looksLikeOptions (trim line) = true) :
    IsComment line := by
  obtain ⟨rest, hrest⟩ := List.isPrefixOf_iff_prefix.mp h
  exact ⟨_, hrest.symm⟩

theorem IsMalformed.lineOptions_eq (h : IsMalformed line) : lineOptions (trim line) = {} := by
  rw [lineOptions, if_pos h.1, h.2]
  rfl

/-- A line that is not blank is the first if the text above it is blank. -/
theorem Ended.config_insert (ha : Ended a) (hblank : ∀ c ∈ a, isBlank c = true)
    (hline : '\n' ∉ line) (hne : trim line ≠ []) (b : Text) :
    config (a ++ line ++ '\n' :: b) = lineOptions (trim line) := by
  rw [config_eq_lineOptions, List.append_assoc, ha.firstLine?_append, firstLine?_of_blank hblank,
    Option.none_or, firstLine?, trimmedLines_cons hline,
    List.find?_cons_of_pos (by simpa using hne)]
  rfl

theorem Ended.config_append (ha : Ended a) (hfirst : ∃ c ∈ a, isBlank c = false) (b : Text) :
    config (a ++ b) = config a := by
  obtain ⟨l, hl⟩ := Option.isSome_iff_exists.mp (firstLine?_isSome hfirst)
  rw [config_eq_lineOptions, config_eq_lineOptions, ha.firstLine?_append, hl, Option.some_or]

/-! ## A change -/

/-- A line that holds no rule may stand among the lines that do. -/
theorem Ended.filter_insert (ha : Ended a) (hline : '\n' ∉ line)
    (hrule : holdsRule (trim line) = false) (b : Text) :
    (trimmedLines (a ++ line ++ '\n' :: b)).filter holdsRule =
      (trimmedLines (a ++ b)).filter holdsRule := by
  rw [ha.trimmedLines_insert hline, ha.trimmedLines_append, List.filter_append, List.filter_append,
    List.filter_cons, hrule]
  rfl

/-- **A change of the layout keeps what is read.** -/
theorem Rearranged.content_eq (h : Rearranged t u) : content t = content u := by
  cases h with
  | returns t =>
    rw [content, content, config_eq_lineOptions, config_eq_lineOptions, firstLine?, firstLine?,
      trimmedLines_withReturns]
  | ended t =>
    have hrules : (trimmedLines (t ++ ['\n'])).filter holdsRule =
        (trimmedLines t).filter holdsRule := by
      rw [← map_fst_ruleLines, ruleLines_lineFeed, map_fst_ruleLines]
    rw [content, content, config_eq_lineOptions, config_eq_lineOptions, firstLine?_lineFeed, hrules]
  | @blank a line b ha hline hblank =>
    have htrim : trim line = [] := Text.trim_of_blank hblank
    have hfirst : firstLine? (line ++ '\n' :: b) = firstLine? b := by
      rw [firstLine?, trimmedLines_cons hline, htrim]
      rfl
    rw [content, content, ha.filter_insert hline (by rw [htrim]; rfl), config_eq_lineOptions,
      config_eq_lineOptions, List.append_assoc, ha.firstLine?_append, ha.firstLine?_append, hfirst]
  | comment b ha hfirst hline hcomment =>
    rw [content, content, ha.filter_insert hline hcomment.holdsRule_eq, List.append_assoc,
      ha.config_append hfirst, ha.config_append hfirst]
  | malformed b ha hblank hline hmalformed hmark hempty =>
    have hcomment := isComment_of_looksLikeOptions hmalformed.1
    have hbare : IsComment _ := ⟨[], hempty⟩
    rw [content, content, ha.filter_insert hline hcomment.holdsRule_eq,
      ha.filter_insert hmark hbare.holdsRule_eq, ha.config_insert hblank hline hcomment.trim_ne_nil,
      ha.config_insert hblank hmark hbare.trim_ne_nil, hmalformed.lineOptions_eq, hempty]
    rfl

/-! ## Texts that are read alike -/

/-- Two texts are read alike: both give the same rules, or both have the same fault at the same of
the lines that hold rules, wherever that line stands. -/
def ReadAlike (layout : Layout) (source t u : Text) : Prop :=
  (∃ r, parseDelimited layout source t = .ok r ∧ parseDelimited layout source u = .ok r) ∨
    ∃ (k : Nat) (line : Text) (m n : Nat) (e : Error),
      (ruleLines t)[k]? = some (line, m) ∧ (ruleLines u)[k]? = some (line, n) ∧
      parseDelimited layout source t = .error (e.atRow source m) ∧
      parseDelimited layout source u = .error (e.atRow source n) ∧
      (e.atRow source m).place? = some (source, m) ∧
      (e.atRow source n).place? = some (source, n)

/-- **Texts with the same options and the same lines that hold rules are read alike.** -/
theorem readAlike_of_content_eq (layout : Layout) (source : Text) (h : content t = content u) :
    ReadAlike layout source t u := by
  obtain ⟨hconfig, hlines⟩ := Prod.mk.inj h
  rw [← map_fst_ruleLines, ← map_fst_ruleLines] at hlines
  have hoptions : givenOptions layout u = givenOptions layout t := by
    rw [givenOptions, givenOptions, hconfig]
  unfold ReadAlike parseDelimited
  rw [readDelimited_eq_passes, readDelimited_eq_passes, hoptions]
  rcases pass_renumbered source source (lineRow layout) hlines with
    ⟨xs, hrows, hrows'⟩ | ⟨k, line, m, n, e, hm, hn, he, hrows, hrows'⟩
  · rcases pass_renumbered source source
        (lineOperation layout (givenOptions layout t).rowDefaults) hlines with
      ⟨ops, hops, hops'⟩ | ⟨k, line, m, n, e, hm, hn, he, hops, hops'⟩
    · exact Or.inl ⟨_, by rw [hrows, hops]; rfl, by rw [hrows', hops']; rfl⟩
    · exact Or.inr ⟨k, line, m, n, e, hm, hn, by rw [hrows, hops]; rfl, by rw [hrows', hops']; rfl,
        place?_of_rowOperation he source m, place?_of_rowOperation he source n⟩
  · have hplace := place?_of_rowOperation (d := {}) (lineOperation_of_lineRow_error he) source
    exact Or.inr ⟨k, line, m, n, e, hm, hn, by rw [hrows]; rfl, by rw [hrows']; rfl, hplace m,
      hplace n⟩

/-! ## The first line -/

/-- What follows a line: nothing, or the line feed that ends it and other lines. -/
def FollowsLine (b : Text) : Prop := b = [] ∨ ∃ rest, b = '\n' :: rest

/-- A comment holds no rule, and the rules below it keep their numbers. -/
theorem Ended.ruleLines_comment (ha : Ended a) (hline : '\n' ∉ line) (hcomment : IsComment line)
    (b : Text) : ruleLines (a ++ line ++ '\n' :: b) = ruleLines (a ++ '\n' :: b) := by
  have hblank : trimmedLines (a ++ '\n' :: b) = trimmedLines a ++ [] :: trimmedLines b :=
    ha.trimmedLines_append ('\n' :: b)
  have hnone : holdsRule [] = false := rfl
  unfold ruleLines
  rw [ha.trimmedLines_insert hline, hblank]
  simp only [List.zipIdx_append, List.zipIdx_cons, List.filter_append, List.filter_cons,
    hcomment.holdsRule_eq, hnone, Bool.false_eq_true, if_false]

theorem Ended.rows_comment (layout : Layout) (ha : Ended a) (hline : '\n' ∉ line)
    (hcomment : IsComment line) (hb : FollowsLine b) :
    rows layout (a ++ line ++ b) = rows layout (a ++ b) := by
  rw [rows_eq_mapM, rows_eq_mapM]
  rcases hb with rfl | ⟨b, rfl⟩
  -- a comment that is the last line may be ended first
  · have hlines := ha.ruleLines_comment hline hcomment []
    rw [ruleLines_lineFeed, ruleLines_lineFeed] at hlines
    rw [List.append_nil, List.append_nil, hlines]
  · rw [ha.ruleLines_comment hline hcomment]

theorem Ended.config_malformed (ha : Ended a) (hblank : ∀ c ∈ a, isBlank c = true)
    (hline : '\n' ∉ line) (hmalformed : IsMalformed line) (hb : FollowsLine b) :
    config (a ++ line ++ b) = {} := by
  have hne := (isComment_of_looksLikeOptions hmalformed.1).trim_ne_nil
  rw [← hmalformed.lineOptions_eq]
  rcases hb with rfl | ⟨b, rfl⟩
  · rw [← ha.config_insert hblank hline hne [], config_eq_lineOptions, config_eq_lineOptions,
      firstLine?_lineFeed, List.append_nil]
  · exact ha.config_insert hblank hline hne b

/-- **The layout of a text does not matter, but for its first line.** Texts that come from one
another by changes of the layout are read alike. A line that looks like options yields no rule, and
a first line that cannot be read as such gives no options. -/
theorem layout_inert (layout : Layout) (source : Text) :
    (∀ t u, Relation.EqvGen Rearranged t u → ReadAlike layout source t u) ∧
    (∀ a line b, Ended a → '\n' ∉ line → looksLikeOptions (trim line) = true → FollowsLine b →
      rows layout (a ++ line ++ b) = rows layout (a ++ b)) ∧
    ∀ a line b, Ended a → (∀ c ∈ a, isBlank c = true) → '\n' ∉ line → IsMalformed line →
      FollowsLine b → config (a ++ line ++ b) = {} := by
  refine ⟨fun t u h => readAlike_of_content_eq layout source ?_, ?_, ?_⟩
  · induction h with
    | rel t u hstep => exact hstep.content_eq
    | refl t => rfl
    | symm t u _ ih => exact ih.symm
    | trans t u v _ _ ih ih' => exact ih.trans ih'
  · intro a line b ha hline hlooks hb
    exact ha.rows_comment layout hline (isComment_of_looksLikeOptions hlooks) hb
  · intro a line b ha hblank hline hmalformed hb
    exact ha.config_malformed hblank hline hmalformed hb

/-- A malformed first line is emptied, a comment that looks like options comes in below it and a
blank line above it, and all lines are ended with carriage returns. -/
theorem layout_inert_malformed_first :
    ReadAlike {} "rules".toList "# \x7bx\na\tb\t1".toList
      "\r\n#\r\n# \x7btype: 0\x7d\r\na\tb\t1\r\n".toList ∧
    rows {} "# \x7bx\na\tb\t1".toList = rows {} "\na\tb\t1".toList ∧
    config "# \x7bx\na\tb\t1".toList = {} := by
  have hmalformed : IsMalformed "# \x7bx".toList := ⟨by decide, by decide +kernel⟩
  have hempty : Ended [] := Or.inl rfl
  have hmark : Ended "#\n".toList := ended_lineFeed "#".toList
  have hfollows : FollowsLine "\na\tb\t1".toList := Or.inr ⟨"a\tb\t1".toList, rfl⟩
  have hemptied : Rearranged "# \x7bx\na\tb\t1".toList "#\na\tb\t1".toList :=
    .malformed (a := []) "a\tb\t1".toList hempty (by simp) (by decide) hmalformed (by decide)
      (by decide : trim "#".toList = ['#'])
  have hcomment : Rearranged "#\na\tb\t1".toList "#\n# \x7btype: 0\x7d\na\tb\t1".toList :=
    .comment "a\tb\t1".toList hmark ⟨'#', by decide, by decide⟩
      (by decide : '\n' ∉ "# \x7btype: 0\x7d".toList) ⟨" \x7btype: 0\x7d".toList, by decide⟩
  have hblank : Rearranged "#\n# \x7btype: 0\x7d\na\tb\t1".toList
      "\n#\n# \x7btype: 0\x7d\na\tb\t1".toList :=
    .blank (a := []) _ hempty (by simp : '\n' ∉ []) (by simp)
  have hended : Rearranged "\n#\n# \x7btype: 0\x7d\na\tb\t1".toList
      "\n#\n# \x7btype: 0\x7d\na\tb\t1\n".toList := .ended _
  have hreturns : Rearranged "\n#\n# \x7btype: 0\x7d\na\tb\t1\n".toList
      "\r\n#\r\n# \x7btype: 0\x7d\r\na\tb\t1\r\n".toList := .returns _
  have hchanges := (Relation.EqvGen.rel _ _ hemptied).trans _ _ _ <|
    .trans _ _ _ (.rel _ _ hcomment) <| .trans _ _ _ (.rel _ _ hblank) <|
    .trans _ _ _ (.rel _ _ hended) (.rel _ _ hreturns)
  have hall := layout_inert {} "rules".toList
  exact ⟨hall.1 _ _ hchanges,
    hall.2.1 [] "# \x7bx".toList _ hempty (by decide) hmalformed.1 hfollows,
    hall.2.2 [] "# \x7bx".toList _ hempty (by simp) (by decide) hmalformed hfollows⟩

end Lector.Source
