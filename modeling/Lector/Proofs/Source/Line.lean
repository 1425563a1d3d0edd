import Lector.Proofs.Text.Cutting
import Lector.Source.Structured

/-!
# The rule of a line

What the reading of delimited text makes of one line in the usual layout, with TAB between the
fields: the line is trimmed, and what stands in front of a comment loses the white space at its end
up to a TAB, and then the TABs.

## Main definitions

* `dataOf`, `heldBlanks`: what holds the fields of a line in front of a comment, and the white space
  at its end
* `commentOf`: the comment behind its mark
* `kindOf`: the kind that the third field of a line names

## Main results

* `dataOf_eq`: the data of a line are the trimmed line and the white space that is held
* `readRow_commented`, `readRow_plain`: the row of a line with a comment and without one
* `IsRule.rows_commented`, `IsRule.rows_plain`: the rows of a text of one line
-/

namespace Lector.Source

open Rule (Row RowFault Kind Options Operation)
open Text (trim trimStart trimEnd dropEndWhile)

/-! ## The end of the data -/

theorem dropPrefixes_singleton (c : Char) (t : Text) :
    dropPrefixes [c] t = t.dropWhile (· == c) := by
  induction t with
  | nil =>
    unfold dropPrefixes
    simp
  | cons d t ih =>
    unfold dropPrefixes
    by_cases h : d = c
    · simp [h, ih]
    · simp [h, Ne.symm h]

/-- A separator of one character is dropped from the end as often as it stands there. -/
theorem dropSuffixes_singleton (c : Char) (t : Text) :
    dropSuffixes [c] t = dropEndWhile (· == c) t := by
  unfold dropSuffixes dropEndWhile
  rw [List.reverse_singleton, dropPrefixes_singleton]

/-- Dropping TABs from the end stops at a character that is not blank. -/
theorem dropTabs_append_cons {c : Char} (h : isBlank c = false) (t u : Text) :
    dropEndWhile (· == '\t') (t ++ c :: u) = t ++ c :: dropEndWhile (· == '\t') u := by
  refine Text.dropEndWhile_append_cons (beq_eq_false_iff_ne.mpr ?_)
  rintro rfl
  exact absurd h (by decide)

/-- White space that goes in front of a comment: all but TAB. -/
def isFiller (c : Char) : Bool := isBlank c && !List.contains ['\t'] c

/-- What holds the fields of a line in front of a comment. -/
def dataOf (d : Text) : Text := dropEndWhile (· == '\t') (dropEndWhile isFiller (trimStart d))

/-- The white space at the end of a line that a comment behind it holds in the fields: all up to the
last character that is no TAB and has a TAB behind it. -/
def heldBlanks (d : Text) : Text :=
  dropEndWhile (· == '\t') (dropEndWhile isFiller (d.rtakeWhile isBlank))

theorem isBlank_of_mem_heldBlanks {d : Text} {c : Char} (h : c ∈ heldBlanks d) :
    isBlank c = true := by
  have hend : c ∈ d.rtakeWhile isBlank :=
    Text.mem_of_mem_dropEndWhile (Text.mem_of_mem_dropEndWhile h)
  exact List.mem_rtakeWhile_imp hend

/-- The data in front of a comment are the trimmed line and the white space that is held. -/
theorem dataOf_eq {d : Text} (h : ∃ c ∈ d, isBlank c = false) :
    dataOf d = trim d ++ heldBlanks d := by
  rcases Text.blank_or_last d with hd | ⟨u, c, v, rfl, hc, hv⟩
  · obtain ⟨c, hmem, hc⟩ := h
    rw [hd c hmem] at hc
    cases hc
  · -- `c` is the last character that is not blank, so only what stands behind it can be dropped
    have hfiller : isFiller c = false := by simp [isFiller, hc]
    have hend : (u ++ c :: v).rtakeWhile isBlank = v := by
      have htake : (v.reverse ++ c :: u.reverse).takeWhile isBlank =
          v.reverse ++ (c :: u.reverse).takeWhile isBlank :=
        List.takeWhile_append_of_pos fun d hd => hv d (List.mem_reverse.mp hd)
      simp [List.rtakeWhile, htake, hc]
    unfold dataOf heldBlanks
    rw [Text.trim_of_last hc hv, hend, Text.trimStart_append_cons hc,
      Text.dropEndWhile_append_cons hfiller, dropTabs_append_cons hc, List.append_assoc]
    rfl

/-- The comment behind its mark, unless it is blank. -/
def commentOf (c : Text) : Option Text := if (trim c).isEmpty then none else some (trim c)

/-- The row of a line with a comment. -/
theorem readRow_commented {d : Text} (h : '#' ∉ d) (c : Text) :
    readRow {} (trim (d ++ '#' :: c)) =
      Row.ofFields (List.splitOn '\t' (dataOf d)) (commentOf c) := by
  have hstart : '#' ∉ trimStart d := fun hm => h ((List.dropWhile_suffix _).subset hm)
  have hcut : cutComment {} (trimStart d ++ '#' :: trimEnd c) =
      (dropEndWhile isFiller (trimStart d), commentOf c) := by
    unfold cutComment commentOf
    rw [Text.cutAt?_append_cons hstart]
    simp only [if_true, Text.trim_trimEnd]
    rfl
  rw [Text.trim_append_cons (by decide), readRow, hcut]
  dsimp only
  rw [dropSuffixes_singleton, ← Text.splitOn_singleton]
  rfl

/-- Where no comment is cut off, no TAB stands at the end of a trimmed line. -/
theorem dropSuffixes_trim (d : Text) : dropSuffixes ['\t'] (trim d) = trim d := by
  rw [dropSuffixes_singleton]
  rcases Text.blank_or_last d with hd | ⟨u, c, v, rfl, hc, hv⟩
  · rw [Text.trim_of_blank hd]
    rfl
  · rw [Text.trim_of_last hc hv]
    exact dropTabs_append_cons hc _ []

/-- The row of a line without a comment. -/
theorem readRow_plain {d : Text} (h : '#' ∉ d) :
    readRow {} (trim d) = Row.ofFields (List.splitOn '\t' (trim d)) none := by
  have hcut : cutComment {} (trim d) = (trim d, none) := by
    unfold cutComment
    rw [Text.cutAt?_of_not_mem fun hm => h (Text.mem_of_mem_trim hm)]
    rfl
  rw [readRow, hcut]
  dsimp only
  rw [dropSuffixes_trim, ← Text.splitOn_singleton]
  rfl

/-! ## Rows -/

/-- The field of a line at a place. -/
def field (i : Nat) (t : Text) : Option Text := (List.splitOn '\t' t)[i]?

section Field

variable {s t : Text} {i : Nat}

theorem field_zero_of_not_mem (h : '\t' ∉ t) : field 0 t = some t := by
  simp [field, List.splitOn_eq_singleton h]

theorem field_succ_of_not_mem (h : '\t' ∉ t) : field (i + 1) t = none := by
  simp [field, List.splitOn_eq_singleton h]

theorem field_zero_append_cons (h : '\t' ∉ s) : field 0 (s ++ '\t' :: t) = some s := by
  simp [field, List.splitOn_append_cons_self_of_not_mem h]

theorem field_succ_append_cons (h : '\t' ∉ s) : field (i + 1) (s ++ '\t' :: t) = field i t := by
  simp [field, List.splitOn_append_cons_self_of_not_mem h]

theorem field_zero_append (h : '\t' ∉ s) : field 0 (s ++ t) = (field 0 t).map (s ++ ·) := by
  obtain ⟨w, ws, hsplit⟩ := List.exists_cons_of_ne_nil (List.splitOn_ne_nil '\t' t)
  simp [field, Text.splitOn_append_of_not_mem h, hsplit]

theorem field_succ_append (h : '\t' ∉ s) : field (i + 1) (s ++ t) = field (i + 1) t := by
  obtain ⟨w, ws, hsplit⟩ := List.exists_cons_of_ne_nil (List.splitOn_ne_nil '\t' t)
  simp [field, Text.splitOn_append_of_not_mem h, hsplit]

theorem mem_of_mem_field {w : Text} {c : Char} (hw : field i t = some w) (hc : c ∈ w) : c ∈ t :=
  Text.mem_of_mem_splitOn (List.mem_of_getElem? hw) hc

/-- A line has no TAB, one, or more. -/
theorem fields_cases (t : Text) :
    '\t' ∉ t ∨ (∃ s r, '\t' ∉ s ∧ '\t' ∉ r ∧ t = s ++ '\t' :: r) ∨
      ∃ s r rest, '\t' ∉ s ∧ '\t' ∉ r ∧ t = s ++ '\t' :: (r ++ '\t' :: rest) := by
  by_cases ht : '\t' ∈ t
  · obtain ⟨s, t, rfl, hs⟩ := List.eq_append_cons_of_mem ht
    by_cases hr : '\t' ∈ t
    · obtain ⟨r, rest, rfl, hfirst⟩ := List.eq_append_cons_of_mem hr
      exact Or.inr (Or.inr ⟨s, r, rest, hs, hfirst, rfl⟩)
    · exact Or.inr (Or.inl ⟨s, t, hs, hr, rfl⟩)
  · exact Or.inl ht

/-- White space behind a line only goes to the end of its fields, where missing fields are empty. -/
theorem trimEnd_field_append {h : Text} (hblank : ∀ c ∈ h, isBlank c = true) (i : Nat) (t : Text) :
    trimEnd ((field i (t ++ h)).getD []) = trimEnd ((field i t).getD []) := by
  have hfield (j : Nat) (c : Char) (hc : c ∈ (field j h).getD []) : isBlank c = true := by
    cases hw : field j h with
    | none => simp [hw] at hc
    | some w => exact hblank c (mem_of_mem_field hw (by simpa [hw] using hc))
  induction i generalizing t with
  | zero =>
    by_cases ht : '\t' ∈ t
    · obtain ⟨s, t, rfl, hs⟩ := List.eq_append_cons_of_mem ht
      rw [List.append_assoc, List.cons_append, field_zero_append_cons hs, field_zero_append_cons hs]
    · obtain ⟨w, hw⟩ : ∃ w, field 0 h = some w := by simp [field, List.length_pos_iff]
      rw [field_zero_append ht, field_zero_of_not_mem ht, hw]
      exact Text.dropEndWhile_append_of_all fun c hc => hfield 0 c (by simpa [hw] using hc)
  | succ i ih =>
    by_cases ht : '\t' ∈ t
    · obtain ⟨s, t, rfl, hs⟩ := List.eq_append_cons_of_mem ht
      rw [List.append_assoc, List.cons_append, field_succ_append_cons hs, field_succ_append_cons hs]
      exact ih t
    · rw [field_succ_append ht, field_succ_of_not_mem ht]
      exact Text.dropEndWhile_eq_nil_iff.mpr (hfield (i + 1))

end Field

/-- The kind that the third field of a line names, if there is one and it is not blank. -/
def kindOf (field : Option Text) : Except RowFault (Option Kind) :=
  match field.map trim with
  | none | some [] => .ok none
  | some word =>
    match Kind.read? word with
    | some kind => .ok (some kind)
    | none => .error (.unknownKind word)

/-- White space around the spelling of a kind does not count. -/
theorem read?_trim (t : Text) : Kind.read? (trim t) = Kind.read? t := by
  simp only [Kind.read?, Text.trim_trim]

/-- White space at the end of a field names no other kind, and a field that is missing is blank. -/
theorem kindOf_congr {a b : Option Text} (h : trimEnd (a.getD []) = trimEnd (b.getD [])) :
    kindOf a = kindOf b := by
  have hgetD (field : Option Text) : kindOf field = kindOf (some (trimEnd (field.getD []))) := by
    cases field with
    | none => rfl
    | some t => simp [kindOf, Text.trim_trimEnd]
  rw [hgetD a, hgetD b, h]

/-- A kind that cannot be read is reported as it is written. -/
theorem exists_of_kindOf_eq_error {third : Option Text} {fault : RowFault}
    (h : kindOf third = .error fault) :
    ∃ word, Kind.read? word = none ∧ fault = .unknownKind word := by
  unfold kindOf at h
  cases hword : third.map trim with
  | none =>
    rw [hword] at h
    cases h
  | some word =>
    rw [hword] at h
    cases word with
    | nil => cases h
    | cons c word =>
      dsimp only at h
      cases hkind : Kind.read? (c :: word) with
      | some kind =>
        rw [hkind] at h
        cases h
      | none =>
        rw [hkind] at h
        cases h
        exact ⟨c :: word, hkind, rfl⟩

/-- **The row of fields** is that of the first two and of the kind in the third. -/
theorem ofFields_eq (fields : List Text) (comment : Option Text) :
    Row.ofFields fields comment =
      (kindOf fields[2]?).map fun kind => ⟨fields[0]?, fields[1]?, kind, comment⟩ := by
  unfold Row.ofFields kindOf
  cases (fields[2]?).map trim with
  | none => rfl
  | some word =>
    cases word with
    | nil => rfl
    | cons c word =>
      dsimp only
      cases Kind.read? (c :: word) <;> rfl

theorem fields_of_ofFields_eq_ok {fields : List Text} {comment : Option Text} {row : Row}
    (h : Row.ofFields fields comment = .ok row) :
    row.search = fields[0]? ∧ row.replacement = fields[1]? := by
  rw [ofFields_eq] at h
  cases hkind : kindOf fields[2]? with
  | error fault =>
    rw [hkind] at h
    cases h
  | ok kind =>
    rw [hkind] at h
    cases h
    exact ⟨rfl, rfl⟩

/-- All that can be wrong with fields is the kind. -/
theorem exists_of_ofFields_eq_error {fields : List Text} {comment : Option Text}
    {fault : RowFault} (h : Row.ofFields fields comment = .error fault) :
    ∃ word, Kind.read? word = none ∧ fault = .unknownKind word := by
  rw [ofFields_eq] at h
  cases hkind : kindOf fields[2]? with
  | error fault' =>
    rw [hkind] at h
    cases h
    exact exists_of_kindOf_eq_error hkind
  | ok kind =>
    rw [hkind] at h
    cases h

/-- The row of a line is that of its fields. -/
theorem ofFields_splitOn (t : Text) (comment : Option Text) :
    Row.ofFields (List.splitOn '\t' t) comment =
      (kindOf (field 2 t)).map fun kind => ⟨field 0 t, field 1 t, kind, comment⟩ :=
  ofFields_eq (List.splitOn '\t' t) comment

/-- A text that can stand in a field of a line. -/
structure IsField (t : Text) : Prop where
  noTab : '\t' ∉ t
  noLineFeed : '\n' ∉ t
  noMark : '#' ∉ t

/-- A text that a line can start with as its search pattern. -/
structure IsSearch (t : Text) : Prop extends IsField t where
  starts : ∃ c u, t = c :: u ∧ isBlank c = false

theorem IsSearch.trimStart_append {s : Text} (hs : IsSearch s) (t : Text) :
    trimStart (s ++ t) = s ++ t := by
  obtain ⟨c, u, rfl, hc⟩ := hs.starts
  exact Text.trimStart_cons hc

/-- A line that holds a rule, and no comment behind it. -/
structure IsRule (line : Text) : Prop where
  notBlank : ∃ c ∈ line, isBlank c = false
  noLineFeed : '\n' ∉ line
  noMark : '#' ∉ line

/-- A text that does not start with the mark of a comment holds a rule. -/
theorem holdsRule_append {t : Text} (ht : t ≠ []) (h : '#' ∉ t) (u : Text) :
    holdsRule (t ++ u) = true := by
  obtain ⟨c, t, rfl⟩ := List.exists_cons_of_ne_nil ht
  have hc : c ≠ '#' := fun e => h (by simp [e])
  simp [holdsRule, hc]

/-- The rows of a text of one line that holds a rule. -/
theorem rows_line {line : Text} (h : '\n' ∉ line) (hrule : holdsRule (trim line) = true) :
    rows {} line =
      match readRow {} (trim line) with
      | .ok row => .ok [(1, row)]
      | .error fault => .error (.row [] 1 fault) := by
  have hne : line ≠ [] := by
    rintro rfl
    exact absurd hrule (by decide)
  unfold rows
  rw [Text.lines_of_not_mem h hne, rowsFrom, if_pos hrule]
  cases readRow {} (trim line) <;> rfl

/-- The rows of a text that is a line with the given data and comment. -/
def lineRows (data : Text) (comment : Option Text) : Except Error (List (Nat × Row)) :=
  match kindOf (field 2 data) with
  | .ok kind => .ok [(1, ⟨field 0 data, field 1 data, kind, comment⟩)]
  | .error fault => .error (.row [] 1 fault)

namespace IsRule

variable {d : Text}

theorem trimStart_ne_nil (h : IsRule d) : trimStart d ≠ [] := by
  obtain ⟨c, hc, hblank⟩ := h.notBlank
  intro hnil
  rw [List.dropWhile_eq_nil_iff.mp hnil c hc] at hblank
  cases hblank

theorem trim_ne_nil (h : IsRule d) : trim d ≠ [] := by
  obtain ⟨c, hc, hblank⟩ := h.notBlank
  rcases Text.blank_or_last d with hall | ⟨u, x, v, rfl, hx, hv⟩
  · rw [hall c hc] at hblank
    cases hblank
  · simp [Text.trim_of_last hx hv]

/-- **The rows of a line with a comment.** -/
theorem rows_commented (h : IsRule d) {c : Text} (hc : '\n' ∉ c) :
    rows {} (d ++ '#' :: c) = lineRows (dataOf d) (commentOf c) := by
  have hline : '\n' ∉ d ++ '#' :: c := by simp [h.noLineFeed, hc]
  have hstart : '#' ∉ trimStart d := fun hm => h.noMark ((List.dropWhile_suffix _).subset hm)
  have hrule : holdsRule (trim (d ++ '#' :: c)) = true := by
    rw [Text.trim_append_cons (by decide)]
    exact holdsRule_append h.trimStart_ne_nil hstart _
  rw [rows_line hline hrule, readRow_commented h.noMark, ofFields_splitOn, lineRows]
  cases kindOf (field 2 (dataOf d)) <;> rfl

/-- **The rows of a line without a comment.** -/
theorem rows_plain (h : IsRule d) : rows {} d = lineRows (trim d) none := by
  have hmark : '#' ∉ trim d := fun hm => h.noMark (Text.mem_of_mem_trim hm)
  have hrule : holdsRule (trim d) = true := by
    simpa using holdsRule_append h.trim_ne_nil hmark []
  rw [rows_line h.noLineFeed hrule, readRow_plain h.noMark, ofFields_splitOn, lineRows]
  cases kindOf (field 2 (trim d)) <;> rfl

/-- A line that holds a rule gives no options. -/
theorem config_eq (h : IsRule d) : config d = {} := by
  have hne : d ≠ [] := by
    rintro rfl
    exact h.trim_ne_nil rfl
  obtain ⟨c, t, ht⟩ := List.exists_cons_of_ne_nil h.trim_ne_nil
  have hc : '#' ≠ c := by
    rintro rfl
    exact h.noMark (Text.mem_of_mem_trim (by simp [ht]))
  unfold config
  rw [Text.lines_of_not_mem h.noLineFeed hne]
  simp [ht, hc]

end IsRule

end Lector.Source
