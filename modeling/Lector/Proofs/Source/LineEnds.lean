import Lector.Proofs.Source.Line

/-!
# White space at the ends of lines

A line is trimmed before its fields are split, but the comment behind a rule is cut off after that,
and what stands in front of it loses its white space only up to a TAB. So a comment may hold white
space in the last field that the line alone would lose, and a delimited row cannot give a
replacement that ends in white space, which an entry of a mapping can.

## Main definitions

* `SameRule`: whether two texts fail alike or give one row each, with the same rule
* `lineEntry`: the entry of a mapping that a line of two fields stands for

## Main results

* `comment_keeps_rule_iff`: when a comment leaves the rule of a line as it is
* `comment_keeps_trimmed`: what a comment leaves as it is for every line
* `parseDelimited_pair`: a line of two fields is the entry of a mapping, trimmed at its end
* `pair_agrees_iff`: when a line of two fields and the entry with these fields agree
-/

namespace Lector.Source

open Rule (Row RowFault Kind Options Operation)
open Text (trim trimStart trimEnd dropEndWhile)

/-! ## Comments behind rules -/

/-- A text is empty, starts with a TAB, or has a first field that is not empty. -/
theorem field_zero_cases (t : Text) :
    t = [] ∨ (∃ u, t = '\t' :: u) ∨
      ∃ c u w, c ≠ '\t' ∧ t = c :: u ∧ field 0 (c :: u) = some (c :: w) := by
  cases t with
  | nil => exact Or.inl rfl
  | cons c u =>
    by_cases hc : c = '\t'
    · exact Or.inr (Or.inl ⟨u, by rw [hc]⟩)
    · obtain ⟨w, ws, hw⟩ := List.exists_cons_of_ne_nil (List.splitOn_ne_nil '\t' u)
      refine Or.inr (Or.inr ⟨c, u, w, hc, rfl, ?_⟩)
      rw [← List.singleton_append, field_zero_append (by simp [Ne.symm hc])]
      simp [field, hw]

/-- What follows a line leaves its first two fields as they are if it is empty, or if it starts
behind two TABs or with the second. -/
theorem fields_append_iff (t h : Text) :
    (field 0 (t ++ h) = field 0 t ∧ field 1 (t ++ h) = field 1 t) ↔
      h = [] ∨ 2 ≤ (t ++ h.take 1).count '\t' := by
  rcases fields_cases t with ht | ⟨s, r, hs, hr, rfl⟩ | ⟨s, r, rest, hs, hr, rfl⟩
  · have hcount : t.count '\t' = 0 := List.count_eq_zero.mpr ht
    rw [field_zero_append ht, field_succ_append ht, field_zero_of_not_mem ht,
      field_succ_of_not_mem ht]
    rcases field_zero_cases h with rfl | ⟨u, rfl⟩ | ⟨c, u, w, hc, rfl, hw⟩
    · simp [field]
    · obtain ⟨w, ws, hw⟩ := List.exists_cons_of_ne_nil (List.splitOn_ne_nil '\t' u)
      simp [field, List.splitOn_cons_eq_if_modifyHead, hcount, hw]
    · simp [hw, hcount, hc]
  · have hcount : (s ++ r).count '\t' = 0 := List.count_eq_zero.mpr (by simp [hs, hr])
    rw [List.count_append, Nat.add_eq_zero_iff] at hcount
    simp only [List.append_assoc, List.cons_append, field_zero_append_cons hs,
      field_succ_append_cons hs, field_zero_append hr, field_zero_of_not_mem hr, true_and]
    rcases field_zero_cases h with rfl | ⟨u, rfl⟩ | ⟨c, u, w, hc, rfl, hw⟩
    · simp [field]
    · simp [field, List.splitOn_cons_eq_if_modifyHead, hcount]
    · simp [hw, hcount, hc]
  · refine iff_of_true ?_ (Or.inr ?_)
    · simp [field_zero_append_cons hs, field_succ_append_cons hs, field_zero_append_cons hr]
    · simp only [List.count_append, List.count_cons_self]
      omega

/-- A line at fault for its third field has two TABs. -/
theorem two_le_count_of_kindOf {t : Text} {fault : RowFault}
    (h : kindOf (field 2 t) = .error fault) : 2 ≤ t.count '\t' := by
  rcases fields_cases t with ht | ⟨s, r, hs, hr, rfl⟩ | ⟨s, r, rest, hs, hr, rfl⟩
  · rw [field_succ_of_not_mem ht] at h
    cases h
  · rw [field_succ_append_cons hs, field_succ_of_not_mem hr] at h
    cases h
  · simp only [List.count_append, List.count_cons_self]
    omega

/-- Whether two texts are both at fault, or give one row each and the rows have the same search
pattern, replacement and kind. -/
def SameRule (a b : Except Error (List (Nat × Row))) : Prop :=
  (∃ e f, a = .error e ∧ b = .error f) ∨
    ∃ m r n s, a = .ok [(m, r)] ∧ b = .ok [(n, s)] ∧
      r.search = s.search ∧ r.replacement = s.replacement ∧ r.kind = s.kind

theorem sameRule_lineRows_iff {t u : Text} (a b : Option Text)
    (hkind : kindOf (field 2 t) = kindOf (field 2 u)) :
    SameRule (lineRows t a) (lineRows u b) ↔
      (∃ fault, kindOf (field 2 u) = .error fault) ∨
        field 0 t = field 0 u ∧ field 1 t = field 1 u := by
  unfold lineRows
  rw [hkind]
  cases kindOf (field 2 u) <;> simp [SameRule]

/-- **When a comment leaves the rule of a line as it is**: it must hold no white space in the fields
of the line, unless these end in front of all of it, as they do behind a second TAB. -/
theorem comment_keeps_rule_iff {d c : Text} (hd : IsRule d) (hc : '\n' ∉ c) :
    SameRule (rows {} (d ++ '#' :: c)) (rows {} d) ↔
      heldBlanks d = [] ∨ 2 ≤ (trim d ++ (heldBlanks d).take 1).count '\t' := by
  have hkind := kindOf_congr (trimEnd_field_append (h := heldBlanks d)
    (fun _ => isBlank_of_mem_heldBlanks) 2 (trim d))
  rw [hd.rows_commented hc, hd.rows_plain, dataOf_eq hd.notBlank,
    sameRule_lineRows_iff _ _ hkind, ← fields_append_iff]
  -- a line at fault has two TABs, so its first two fields are the same all the more
  refine or_iff_right_of_imp ?_
  rintro ⟨fault, hfault⟩
  refine (fields_append_iff (trim d) (heldBlanks d)).mpr (Or.inr ?_)
  exact (two_le_count_of_kindOf hfault).trans (by simp)

/-- Behind white space in front of the last TABs of a line, a comment changes the replacement. -/
theorem comment_changes_replacement :
    IsRule "a\tb \t".toList ∧ '\n' ∉ " c".toList ∧
      ¬ SameRule (rows {} ("a\tb \t".toList ++ '#' :: " c".toList)) (rows {} "a\tb \t".toList) := by
  have hd : IsRule "a\tb \t".toList := ⟨⟨'a', by decide, by decide⟩, by decide, by decide⟩
  have hc : '\n' ∉ " c".toList := by decide
  refine ⟨hd, hc, ?_⟩
  rw [comment_keeps_rule_iff hd hc]
  decide

/-- **What a comment leaves as it is for every line**: the kind, and the search pattern and the
replacement up to white space at their ends. So where a comment does change a rule, white space is
all that it adds. -/
theorem comment_keeps_trimmed {d c : Text} (hd : IsRule d) (hc : '\n' ∉ c) :
    (∃ e, rows {} (d ++ '#' :: c) = .error e ∧ rows {} d = .error e) ∨
      ∃ r s, rows {} (d ++ '#' :: c) = .ok [(1, r)] ∧ rows {} d = .ok [(1, s)] ∧
        trimEnd (r.search.getD []) = trimEnd (s.search.getD []) ∧
        trimEnd (r.replacement.getD []) = trimEnd (s.replacement.getD []) ∧
        r.kind = s.kind ∧ r.comment = commentOf c ∧ s.comment = none := by
  have hfield := trimEnd_field_append (h := heldBlanks d) (fun _ => isBlank_of_mem_heldBlanks)
  rw [hd.rows_commented hc, hd.rows_plain, dataOf_eq hd.notBlank]
  unfold lineRows
  rw [kindOf_congr (hfield 2 (trim d))]
  cases kindOf (field 2 (trim d)) with
  | error fault => exact Or.inl ⟨_, rfl, rfl⟩
  | ok kind => exact Or.inr ⟨_, _, rfl, rfl, hfield 0 _, hfield 1 _, rfl, rfl, rfl⟩

/-! ## Lines of two fields -/

variable {s r : Text}

/-- A line of two fields holds a rule. -/
theorem IsSearch.isRule_pair (hs : IsSearch s) (hr : IsField r) : IsRule (s ++ '\t' :: r) := by
  obtain ⟨c, u, hstart, hc⟩ := hs.starts
  refine ⟨⟨c, by simp [hstart], hc⟩, ?_, ?_⟩
  · simp [hs.noLineFeed, hr.noLineFeed]
  · simp [hs.noMark, hr.noMark]

/-- The entry of a mapping that a line of two fields stands for: the line is trimmed at its end
before it is split, and a replacement that is missing is empty. -/
def lineEntry (s r : Text) : Text × Text :=
  if trimEnd r = [] then (trimEnd s, []) else (s, trimEnd r)

/-- A line of two fields gives the row of its entry. -/
theorem exists_rows_pair (hs : IsSearch s) (hr : IsField r) :
    ∃ replacement, rows {} (s ++ '\t' :: r) =
        .ok [(1, ⟨some (lineEntry s r).1, replacement, none, none⟩)] ∧
      replacement.getD [] = (lineEntry s r).2 := by
  have htrim (t : Text) : trim (s ++ t) = trimEnd (s ++ t) := by rw [trim, hs.trimStart_append]
  rw [(hs.isRule_pair hr).rows_plain, htrim]
  rcases Text.blank_or_last r with hblank | ⟨u, c, v, rfl, hc, hv⟩
  · have hend : trimEnd r = [] := Text.dropEndWhile_eq_nil_iff.mpr hblank
    have hline : trimEnd (s ++ '\t' :: r) = trimEnd s :=
      Text.dropEndWhile_append_of_all (by simpa [show isBlank '\t' = true from rfl] using hblank)
    have htab : '\t' ∉ trimEnd s := fun hm => hs.noTab (Text.mem_of_mem_dropEndWhile hm)
    refine ⟨none, ?_, ?_⟩
    · simp [hline, lineRows, lineEntry, hend, field_zero_of_not_mem htab,
        field_succ_of_not_mem htab, kindOf]
    · simp [lineEntry, hend]
  · have hend : trimEnd (u ++ c :: v) = u ++ [c] := Text.trimEnd_of_last hc hv
    have hline : trimEnd (s ++ '\t' :: (u ++ c :: v)) = s ++ '\t' :: (u ++ [c]) := by
      simpa using Text.trimEnd_of_last (t := s ++ '\t' :: u) hc hv
    have htab : '\t' ∉ u ++ [c] := by
      rw [← hend]
      exact fun hm => hr.noTab (Text.mem_of_mem_dropEndWhile hm)
    refine ⟨some (u ++ [c]), ?_, ?_⟩
    · simp [hline, lineRows, lineEntry, hend, field_zero_append_cons hs.noTab,
        field_succ_append_cons hs.noTab, field_zero_of_not_mem htab, field_succ_of_not_mem htab,
        kindOf]
    · simp [lineEntry, hend]

/-- **A line of two fields is the entry of a mapping**, trimmed at its end. -/
theorem parseDelimited_pair (hs : IsSearch s) (hr : IsField r) (source : Text) :
    (parseDelimited {} source (s ++ '\t' :: r)).map Rules.operations =
      parseMapping source {} [((lineEntry s r).1, .text (lineEntry s r).2)] := by
  obtain ⟨replacement, hrows, hreplacement⟩ := exists_rows_pair hs hr
  have hrow : Row.ofEntry (lineEntry s r).1 (.text (lineEntry s r).2) =
      .ok ⟨some (lineEntry s r).1, some (lineEntry s r).2, none, none⟩ := rfl
  have hbuild : buildAt source {} 1 ⟨some (lineEntry s r).1, replacement, none, none⟩ =
      buildAt source {} 1 ⟨some (lineEntry s r).1, some (lineEntry s r).2, none, none⟩ := by
    have hfilled : replacement.getD ({} : Rule.Defaults).replacement = (lineEntry s r).2 :=
      hreplacement
    simp only [buildAt, Row.build, hfilled, Option.getD_some]
  have hoptions : Options.rowDefaults {} = {} := rfl
  simp only [parseDelimited, readDelimited, (hs.isRule_pair hr).config_eq, ite_self, hrows,
    parseMapping, List.map_cons, List.map_nil, hrow, buildRows, buildRow, hoptions,
    List.mapM_cons, List.mapM_nil, hbuild]
  cases buildAt source {} 1 ⟨some (lineEntry s r).1, some (lineEntry s r).2, none, none⟩ <;> rfl

/-- Whether two readings both fail, or give lists of rules that are alike in all that is written of
them. -/
def Agree (a b : Except Error (List Operation)) : Prop :=
  (∃ e f, a = .error e ∧ b = .error f) ∨ ∃ ops ops', a = .ok ops ∧ b = .ok ops' ∧ ops == ops'

/-- A line of two fields stands for the entry with these fields if nothing is trimmed. -/
theorem lineEntry_eq_iff (s r : Text) : lineEntry s r = (s, r) ↔ trimEnd (s ++ r) = s ++ r := by
  rcases Text.blank_or_last r with hblank | ⟨u, c, v, rfl, hc, hv⟩
  · have hend : trimEnd r = [] := Text.dropEndWhile_eq_nil_iff.mpr hblank
    have hpair : trimEnd (s ++ r) = trimEnd s := Text.dropEndWhile_append_of_all hblank
    rw [lineEntry, if_pos hend, hpair]
    constructor
    · intro h
      obtain ⟨hs, rfl⟩ := Prod.mk.inj h
      simpa using hs
    · intro h
      have hlen : (trimEnd s).length ≤ s.length := (List.rdropWhile_prefix _ _).length_le
      have hr : r = [] := by
        rw [h, List.length_append] at hlen
        exact List.length_eq_zero_iff.mp (by omega)
      simpa [hr] using h
  · have hend : trimEnd (u ++ c :: v) = u ++ [c] := Text.trimEnd_of_last hc hv
    have hpair : trimEnd (s ++ (u ++ c :: v)) = s ++ (u ++ [c]) := by
      simpa using Text.trimEnd_of_last (t := s ++ u) hc hv
    rw [lineEntry, if_neg (by simp [hend]), hend, hpair]
    simp

/-- A rule is like itself. -/
instance : ReflBEq Operation where
  rfl {op} := by
    change op.same op = true
    simp [Operation.same]

/-- A rule has all that it is made of. -/
theorem make_eq_ok {kind : Kind} {comment : Option Text} {op : Operation}
    (h : Operation.make s r kind comment = .ok op) :
    op.search = s ∧ op.replacement = r ∧ op.kind = kind ∧ op.comment = comment := by
  unfold Operation.make at h
  split at h
  next => cases h
  next =>
    split at h
    next action haction =>
      cases h
      refine ⟨rfl, rfl, ?_, rfl⟩
      cases kind with
      | literal =>
        cases haction
        rfl
      | regex =>
        simp only [Operation.makeAction] at haction
        split at haction
        next => cases haction
        next =>
          split at haction
          next =>
            cases haction
            rfl
          next => cases haction
    next => cases h

/-- The rule of an entry alone. -/
theorem parseMapping_pair (source s r : Text) :
    parseMapping source {} [(s, .text r)] =
      match Operation.make s r .regex none with
      | .ok op => .ok [op]
      | .error e => .error (e.atRow source 1) := by
  have hrow : Row.ofEntry s (.text r) = .ok ⟨some s, some r, none, none⟩ := rfl
  have hbuild : Row.build ⟨some s, some r, none, none⟩ {} = Operation.make s r .regex none := rfl
  simp only [parseMapping, List.map_cons, List.map_nil, hrow, buildRows, buildRow, buildAt, hbuild]
  cases Operation.make s r .regex none <;> rfl

/-- Two entries agree if they are the same, or both fail. -/
theorem agree_pairs_iff (source s r s' r' : Text) :
    Agree (parseMapping source {} [(s, .text r)]) (parseMapping source {} [(s', .text r')]) ↔
      (s', r') = (s, r) ∨ ∃ e f, parseMapping source {} [(s, .text r)] = .error e ∧
        parseMapping source {} [(s', .text r')] = .error f := by
  constructor
  · rintro (hfail | ⟨ops, ops', hops, hops', halike⟩)
    · exact Or.inr hfail
    · left
      rw [parseMapping_pair] at hops hops'
      cases hop : Operation.make s r .regex none with
      | error e => simp [hop] at hops
      | ok op =>
        cases hop' : Operation.make s' r' .regex none with
        | error e => simp [hop'] at hops'
        | ok op' =>
          obtain rfl : [op] = ops := by simpa [hop] using hops
          obtain rfl : [op'] = ops' := by simpa [hop'] using hops'
          obtain ⟨rfl, rfl, -⟩ := make_eq_ok hop
          obtain ⟨rfl, rfl, -⟩ := make_eq_ok hop'
          have hbeq : (op == op') = true := by simpa using halike
          have hsame : op.same op' = true := hbeq
          simp only [Operation.same, Bool.and_eq_true, beq_iff_eq] at hsame
          exact Prod.ext hsame.1.1.1.symm hsame.1.1.2.symm
  · rintro (h | hfail)
    · obtain ⟨rfl, rfl⟩ := Prod.mk.inj h
      cases parseMapping source {} [(s', .text r')] with
      | error e => exact Or.inl ⟨e, e, rfl, rfl⟩
      | ok ops => exact Or.inr ⟨ops, ops, rfl, rfl, BEq.refl ops⟩
    · exact Or.inl hfail

/-- **When a line of two fields and the entry with these fields agree**: the fields must not end in
white space, or both fail. -/
theorem pair_agrees_iff (hs : IsSearch s) (hr : IsField r) (source : Text) :
    Agree (parseMapping source {} [(s, .text r)])
        ((parseDelimited {} source (s ++ '\t' :: r)).map Rules.operations) ↔
      trimEnd (s ++ r) = s ++ r ∨
        ∃ e f, parseMapping source {} [(s, .text r)] = .error e ∧
          parseDelimited {} source (s ++ '\t' :: r) = .error f := by
  have hfails (f : Error) : parseDelimited {} source (s ++ '\t' :: r) = .error f ↔
      (parseDelimited {} source (s ++ '\t' :: r)).map Rules.operations = .error f := by
    cases parseDelimited {} source (s ++ '\t' :: r) <;> simp [Except.map]
  rw [← lineEntry_eq_iff]
  simp only [hfails, parseDelimited_pair hs hr]
  exact agree_pairs_iff source s r _ _

/-- A replacement loses the space at its end in a line. -/
theorem pair_loses_space :
    IsSearch ",".toList ∧ IsField ", ".toList ∧
      ¬ Agree (parseMapping "rows".toList {} [(",".toList, .text ", ".toList)])
        ((parseDelimited {} "rows".toList (",".toList ++ '\t' :: ", ".toList)).map
          Rules.operations) := by
  have hs : IsSearch ",".toList := ⟨⟨by decide, by decide, by decide⟩, ⟨',', [], rfl, by decide⟩⟩
  have hr : IsField ", ".toList := ⟨by decide, by decide, by decide⟩
  have hok : (parseMapping "rows".toList {} [(",".toList, .text ", ".toList)]).isOk = true := by
    decide +kernel
  refine ⟨hs, hr, ?_⟩
  rw [pair_agrees_iff hs hr]
  rintro (h | ⟨e, f, h, -⟩)
  · exact absurd h (by decide)
  · rw [h] at hok
    cases hok

end Lector.Source
