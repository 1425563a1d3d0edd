import Mathlib.Data.List.Forall2
import Lector.Proofs.Text.Cutting
import Lector.Source.Delimited

/-!
# The lines that hold rules

All that the reading of delimited text takes from a text is its first line that is not blank, which
may give options, and the lines that hold rules, in their order and with their numbers. The reading
passes over these lines twice: once for the rows, and once for the operations. The number of a line
goes into the error that is reported on it, and into nothing else.

## Main definitions

* `trimmedLines`, `ruleLines`, `firstLine?`: the lines of a text, those that hold rules, and the
  first that is not blank
* `Ended`: the last line of a text is ended
* `lineOptions`, `lineRow`, `lineOperation`: what is read from one line
* `pass`: what is read from numbered items one after another

## Main results

* `config_eq_lineOptions`, `rows_eq_mapM`: options and rows come from these lines
* `pass_renumbered`: items with other numbers are read alike
* `pass_zipIdx_eq_ok_iff`, `pass_eq_error_iff`: what a pass gives, and where it fails
* `readDelimited_eq_passes`: the reading of a text is two passes over its rules
-/

namespace Lector

/-- The source and the row that an error names. -/
def Error.place? : Error → Option (Text × Nat)
  | row source n _ => some (source, n)
  | substitution _ _ place => place
  | _ => none

namespace Source

open Rule (Row RowFault Options Operation Defaults)
open Text (trim)

/-- The lines of a text without the white space around them. -/
def trimmedLines (t : Text) : List Text := (Text.lines t).map trim

/-- The lines of a text that hold rules, with their numbers. -/
def ruleLines (t : Text) : List (Text × Nat) :=
  ((trimmedLines t).zipIdx 1).filter fun line => holdsRule line.1

/-- The first line that is not blank. -/
def firstLine? (t : Text) : Option Text := (trimmedLines t).find? (!·.isEmpty)

/-- Whether a line is a comment that looks like options. -/
def looksLikeOptions (line : Text) : Bool := "# \x7b".toList.isPrefixOf line

/-- What is read as options of a line that looks like them. -/
def optionsBody (line : Text) : Text :=
  Text.trimEnd (line.dropWhile fun c => c = '#' || c = ' ')

/-- The options that the first line of a text gives. -/
def lineOptions (line : Text) : Options :=
  if looksLikeOptions line then (Yaml.readOptions? (optionsBody line)).getD {} else {}

/-- **A text gives the options of its first line.** -/
theorem config_eq_lineOptions (t : Text) : config t = ((firstLine? t).map lineOptions).getD {} := by
  unfold config firstLine? trimmedLines
  cases ((Text.lines t).map trim).find? (!·.isEmpty) <;> rfl

/-- The lines that hold rules, without their numbers. -/
theorem map_fst_ruleLines (t : Text) :
    (ruleLines t).map Prod.fst = (trimmedLines t).filter holdsRule := by
  have hnumbers := List.zipIdx_map_fst 1 (trimmedLines t)
  conv_rhs => rw [← hnumbers, List.filter_map]
  rfl

/-! ## Texts below one another -/

/-- A text ends with the end of a line. -/
def Ended (t : Text) : Prop := t = [] ∨ ∃ u, t = u ++ ['\n']

theorem ended_lineFeed (t : Text) : Ended (t ++ ['\n']) := Or.inr ⟨t, rfl⟩

theorem Ended.trimmedLines_append {t : Text} (h : Ended t) (u : Text) :
    trimmedLines (t ++ u) = trimmedLines t ++ trimmedLines u := by
  obtain rfl | ⟨t, rfl⟩ := h
  · rfl
  · rw [List.append_assoc, trimmedLines, List.singleton_append, Text.lines_append_lineFeed,
      List.map_append]
    rfl

theorem Ended.firstLine?_append {t : Text} (h : Ended t) (u : Text) :
    firstLine? (t ++ u) = (firstLine? t).or (firstLine? u) := by
  unfold firstLine?
  rw [h.trimmedLines_append, List.find?_append]

theorem trimmedLines_lineFeed (t : Text) :
    trimmedLines (t ++ ['\n']) = trimmedLines t ∨
      trimmedLines (t ++ ['\n']) = trimmedLines t ++ [[]] := by
  unfold trimmedLines
  rcases Text.lines_lineFeed t with h | h
  · exact Or.inl (by rw [h])
  · exact Or.inr (by rw [h, List.map_append]; rfl)

theorem firstLine?_lineFeed (t : Text) : firstLine? (t ++ ['\n']) = firstLine? t := by
  unfold firstLine?
  rcases trimmedLines_lineFeed t with h | h
  · rw [h]
  · rw [h, List.find?_append]
    exact Option.or_none

theorem ruleLines_lineFeed (t : Text) : ruleLines (t ++ ['\n']) = ruleLines t := by
  unfold ruleLines
  rcases trimmedLines_lineFeed t with h | h
  · rw [h]
  · rw [h, List.zipIdx_append, List.filter_append]
    exact List.append_nil _

/-! ## Rows -/

/-- The row of a line with its number. -/
def rowAt (layout : Layout) (line : Text × Nat) : Except Error (Nat × Row) :=
  ((readRow layout line.1).map (line.2, ·)).mapError (.row [] line.2)

theorem rowsFrom_eq_mapM (layout : Layout) (n : Nat) (lines : List Text) :
    rowsFrom layout n lines =
      (((lines.map trim).zipIdx n).filter fun line => holdsRule line.1).mapM (rowAt layout) := by
  induction lines generalizing n with
  | nil => rfl
  | cons line lines ih =>
    rw [List.map_cons, List.zipIdx_cons, rowsFrom]
    by_cases hrule : holdsRule (trim line) = true
    · rw [if_pos hrule, List.filter_cons, if_pos hrule, List.mapM_cons, ih, rowAt]
      cases readRow layout (trim line) with
      | error fault => rfl
      | ok row =>
        generalize List.mapM (rowAt layout) _ = rows
        cases rows <;> rfl
    · rw [if_neg hrule, List.filter_cons, if_neg hrule, ih]

/-- **The rows of a text are those of its lines that hold rules.** -/
theorem rows_eq_mapM (layout : Layout) (t : Text) :
    rows layout t = (ruleLines t).mapM (rowAt layout) :=
  rowsFrom_eq_mapM layout 1 (Text.lines t)

/-! ## Passes -/

section Results

variable {ε ε' α β : Type} {f : α → Except ε β}

theorem map_eq_ok_iff {g : α → β} {r : Except ε α} {b : β} :
    r.map g = .ok b ↔ ∃ a, r = .ok a ∧ g a = b := by
  cases r <;> simp [Except.map]

theorem map_eq_error_iff {g : α → β} {r : Except ε α} {e : ε} :
    r.map g = .error e ↔ r = .error e := by
  cases r <;> simp [Except.map]

theorem mapError_eq_ok_iff {g : ε → ε'} {r : Except ε α} {a : α} :
    r.mapError g = .ok a ↔ r = .ok a := by
  cases r <;> simp [Except.mapError]

/-- A list is read if each member is. -/
theorem mapM_eq_ok_iff {xs : List α} {ys : List β} :
    xs.mapM f = .ok ys ↔ List.Forall₂ (fun x y => f x = .ok y) xs ys := by
  induction xs generalizing ys with
  | nil =>
    rw [List.forall₂_nil_left_iff]
    exact ⟨fun h => by cases h; rfl, fun h => by rw [h]; rfl⟩
  | cons x xs ih =>
    rw [List.mapM_cons, List.forall₂_cons_left_iff]
    cases hx : f x with
    | error e =>
      constructor
      · intro h
        cases h
      · rintro ⟨y, rest, hy, -⟩
        cases hy
    | ok y =>
      constructor
      · intro h
        cases hrest : xs.mapM f with
        | error e =>
          rw [hrest] at h
          cases h
        | ok rest =>
          rw [hrest] at h
          cases h
          exact ⟨y, rest, rfl, ih.mp hrest, rfl⟩
      · rintro ⟨y', rest, hy', hrest, rfl⟩
        cases hy'
        rw [ih.mpr hrest]
        rfl

/-- What is read comes from a member. -/
theorem exists_of_mem_mapM {xs : List α} {ys : List β} {y : β} (h : xs.mapM f = .ok ys)
    (hy : y ∈ ys) : ∃ x ∈ xs, f x = .ok y := by
  rw [mapM_eq_ok_iff] at h
  induction h with
  | nil => cases hy
  | @cons x _ xs _ hx _ ih =>
    rcases List.mem_cons.mp hy with rfl | hy
    · exact ⟨x, List.mem_cons_self, hx⟩
    · obtain ⟨z, hz, hread⟩ := ih hy
      exact ⟨z, List.mem_cons_of_mem x hz, hread⟩

/-- A list that is not read has a member that is not. -/
theorem exists_of_mapM_eq_error {xs : List α} {e : ε} (h : xs.mapM f = .error e) :
    ∃ x ∈ xs, f x = .error e := by
  induction xs with
  | nil => cases h
  | cons x xs ih =>
    rw [List.mapM_cons] at h
    cases hx : f x with
    | error e' =>
      rw [hx] at h
      cases h
      exact ⟨x, List.mem_cons_self, hx⟩
    | ok y =>
      have hrest : xs.mapM f = .error e := by
        rw [hx] at h
        cases hrest : xs.mapM f with
        | error e' =>
          rw [hrest] at h
          cases h
          rfl
        | ok ys =>
          rw [hrest] at h
          cases h
      obtain ⟨z, hz, hfails⟩ := ih hrest
      exact ⟨z, List.mem_cons_of_mem x hz, hfails⟩

end Results

/-- What is read from numbered items one after another. An error gets the source and the number of
its item. -/
def pass {α β : Type} (source : Text) (read : α → Except Error β) (items : List (α × Nat)) :
    Except Error (List β) :=
  items.mapM fun item => (read item.1).mapError (·.atRow source item.2)

/-- Whether something has failed. -/
def fails {ε α : Type} : Except ε α → Bool
  | .ok _ => false
  | .error _ => true

theorem fails_iff {ε α : Type} {r : Except ε α} : fails r = true ↔ ∃ e, r = .error e := by
  cases r <;> simp [fails]

theorem not_fails_iff {ε α : Type} {r : Except ε α} : (!fails r) = true ↔ ∃ a, r = .ok a := by
  cases r <;> simp [fails]

/-- A member stands under some number. -/
theorem exists_mem_zipIdx_of_mem {α : Type} {x : α} {xs : List α} (h : x ∈ xs) (n : Nat) :
    ∃ i, (x, i) ∈ xs.zipIdx n := by
  rw [← List.zipIdx_map_fst n xs] at h
  obtain ⟨⟨x, i⟩, hi, rfl⟩ := List.mem_map.mp h
  exact ⟨i, hi⟩

section Pass

variable {α β : Type} {source : Text} {read : α → Except Error β} {x : α} {n : Nat}
  {items : List (α × Nat)} {e : Error}

theorem pass_cons_of_error (h : read x = .error e) :
    pass source read ((x, n) :: items) = .error (e.atRow source n) := by
  rw [pass, List.mapM_cons, h]
  rfl

theorem pass_cons_of_ok {y : β} (h : read x = .ok y) :
    pass source read ((x, n) :: items) = (pass source read items).map (y :: ·) := by
  unfold pass
  rw [List.mapM_cons, h]
  generalize List.mapM (fun item : α × Nat => (read item.1).mapError _) items = rest
  cases rest <;> rfl

theorem pass_append (source : Text) (read : α → Except Error β) (a b : List (α × Nat)) :
    pass source read (a ++ b) =
      (pass source read a).bind fun ys => (pass source read b).map (ys ++ ·) := by
  unfold pass
  rw [List.mapM_append]
  rfl

/-- **Items with other numbers are read alike**: both passes give the same, or both fail at the same
item with errors that are the same but for its number. -/
theorem pass_renumbered (source source' : Text) (read : α → Except Error β)
    {items items' : List (α × Nat)} (h : items.map Prod.fst = items'.map Prod.fst) :
    (∃ ys, pass source read items = .ok ys ∧ pass source' read items' = .ok ys) ∨
      ∃ (k : Nat) (x : α) (m n : Nat) (e : Error),
        items[k]? = some (x, m) ∧ items'[k]? = some (x, n) ∧ read x = .error e ∧
        pass source read items = .error (e.atRow source m) ∧
        pass source' read items' = .error (e.atRow source' n) := by
  induction items generalizing items' with
  | nil =>
    obtain rfl := List.map_eq_nil_iff.mp h.symm
    exact Or.inl ⟨[], rfl, rfl⟩
  | cons first items ih =>
    obtain ⟨first', rest, rfl, hfirst, hrest⟩ := List.map_eq_cons_iff.mp h.symm
    obtain ⟨x, m⟩ := first
    obtain ⟨x', n⟩ := first'
    obtain rfl : x' = x := hfirst
    cases hread : read x' with
    | error e =>
      exact Or.inr ⟨0, x', m, n, e, rfl, rfl, hread, pass_cons_of_error hread,
        pass_cons_of_error hread⟩
    | ok y =>
      rw [pass_cons_of_ok hread, pass_cons_of_ok hread]
      rcases ih hrest.symm with ⟨ys, hys, hys'⟩ | ⟨k, z, i, j, e, hk, hk', he, hp, hp'⟩
      · exact Or.inl ⟨y :: ys, by rw [hys]; rfl, by rw [hys']; rfl⟩
      · exact Or.inr ⟨k + 1, z, i, j, e, hk, hk', he, by rw [hp]; rfl, by rw [hp']; rfl⟩

theorem pass_ok_of_renumbered {source' : Text} {items' : List (α × Nat)} {ys : List β}
    (hpass : pass source read items = .ok ys) (h : items.map Prod.fst = items'.map Prod.fst) :
    pass source' read items' = .ok ys := by
  rcases pass_renumbered source source' read h with
    ⟨zs, hzs, hzs'⟩ | ⟨_, _, _, _, _, _, _, _, he, _⟩
  · rw [hpass] at hzs
    cases hzs
    exact hzs'
  · rw [hpass] at he
    cases he

/-- **A pass comes to an end where each item can be read.** -/
theorem pass_zipIdx_eq_ok_iff {xs : List α} {ys : List β} :
    pass source read (xs.zipIdx n) = .ok ys ↔ List.Forall₂ (fun x y => read x = .ok y) xs ys := by
  conv_rhs => rw [← List.zipIdx_map_fst n xs, List.forall₂_map_left_iff]
  simp only [pass, mapM_eq_ok_iff, mapError_eq_ok_iff]

/-- **A pass reports the first item that cannot be read.** -/
theorem pass_eq_error_iff :
    pass source read items = .error e ↔
      ∃ x n cause, items.find? (fun item => fails (read item.1)) = some (x, n) ∧
        read x = .error cause ∧ e = cause.atRow source n := by
  induction items with
  | nil =>
    constructor
    · intro h
      cases h
    · rintro ⟨x, n, cause, h, -⟩
      cases h
  | cons item items ih =>
    obtain ⟨x, n⟩ := item
    cases hx : read x with
    | error cause =>
      rw [pass_cons_of_error hx, List.find?_cons_of_pos (by simp [hx, fails])]
      constructor
      · intro h
        cases h
        exact ⟨x, n, cause, rfl, hx, rfl⟩
      · rintro ⟨z, m, cause', h, hz, rfl⟩
        cases h
        rw [hx] at hz
        cases hz
        rfl
    | ok y =>
      rw [pass_cons_of_ok hx, List.find?_cons_of_neg (by simp [hx, fails]), ← ih]
      cases pass source read items <;> simp [Except.map]

/-- **A pass fails at the first item that cannot be read**, with the items before it. -/
theorem pass_zipIdx_eq_error_iff {xs : List α} :
    pass source read (xs.zipIdx n) = .error e ↔
      ∃ before x after cause, xs = before ++ x :: after ∧ (∀ z ∈ before, ∃ y, read z = .ok y) ∧
        read x = .error cause ∧ e = cause.atRow source (n + before.length) := by
  rw [pass_eq_error_iff]
  constructor
  · rintro ⟨x, m, cause, hfirst, hcause, rfl⟩
    obtain ⟨-, read', rest, hitems, hread⟩ := List.find?_eq_some_iff_append.mp hfirst
    obtain ⟨before, tail, rfl, rfl, hrest⟩ := List.zipIdx_eq_append_iff.mp hitems
    obtain ⟨z, after, rfl, hz, -⟩ := List.zipIdx_eq_cons_iff.mp hrest.symm
    cases hz
    refine ⟨before, x, after, cause, rfl, fun z hz => ?_, hcause, rfl⟩
    obtain ⟨i, hi⟩ := exists_mem_zipIdx_of_mem hz n
    exact not_fails_iff.mp (hread _ hi)
  · rintro ⟨before, x, after, cause, rfl, hbefore, hcause, rfl⟩
    refine ⟨x, n + before.length, cause, ?_, hcause, rfl⟩
    rw [List.find?_eq_some_iff_append]
    refine ⟨fails_iff.mpr ⟨cause, hcause⟩, before.zipIdx n,
      after.zipIdx (n + before.length + 1), ?_, fun item hitem => ?_⟩
    · rw [List.zipIdx_append, List.zipIdx_cons]
    · exact not_fails_iff.mpr (hbefore item.1 (List.fst_mem_of_mem_zipIdx hitem))

end Pass

/-! ## The reading of a text -/

/-- The row of a line. -/
def lineRow (layout : Layout) (line : Text) : Except Error Row :=
  (readRow layout line).mapError (.row [] 0)

/-- The operation of a row that may be at fault. -/
def rowOperation (d : Defaults) (row : Except RowFault Row) : Except Error Operation :=
  (row.mapError (.row [] 0)).bind (·.build d)

/-- The operation of a line. -/
def lineOperation (layout : Layout) (d : Defaults) (line : Text) : Except Error Operation :=
  rowOperation d (readRow layout line)

variable {layout : Layout} {d : Defaults} {line : Text} {e : Error}

/-- An error of a row names the place that the row is given. -/
theorem place?_of_rowOperation {row : Except RowFault Row} (h : rowOperation d row = .error e)
    (source : Text) (n : Nat) : (e.atRow source n).place? = some (source, n) := by
  cases row with
  | error fault =>
    cases h
    rfl
  | ok row =>
    change row.build d = .error e at h
    unfold Row.build Operation.make at h
    split at h
    next =>
      cases h
      rfl
    next =>
      split at h
      next => cases h
      next =>
        cases h
        rfl

theorem lineOperation_of_lineRow_error (h : lineRow layout line = .error e) :
    lineOperation layout d line = .error e := by
  unfold lineRow at h
  rw [lineOperation, rowOperation, h]
  rfl

/-- Lines whose rows can all be read become operations as their rows do; else the fault of the first
row that cannot is reported. -/
theorem mapM_rowAt_cases (layout : Layout) (source : Text) (d : Defaults)
    (lines : List (Text × Nat)) :
    (∃ e, lines.mapM (rowAt layout) = .error e ∧
        pass source (lineRow layout) lines = .error (e.atSource source)) ∨
      ∃ rows xs, lines.mapM (rowAt layout) = .ok rows ∧
        pass source (lineRow layout) lines = .ok xs ∧
        (rows.mapM fun (n, row) => buildAt source d n row) =
          pass source (lineOperation layout d) lines := by
  induction lines with
  | nil => exact Or.inr ⟨[], [], rfl, rfl, rfl⟩
  | cons first lines ih =>
    obtain ⟨line, n⟩ := first
    -- a row that cannot be read ends both sides before any operation is made
    cases hrow : readRow layout line with
    | error fault =>
      have hline : lineRow layout line = .error (.row [] 0 fault) := by rw [lineRow, hrow]; rfl
      refine Or.inl ⟨.row [] n fault, ?_, pass_cons_of_error hline⟩
      rw [List.mapM_cons, rowAt, hrow]
      rfl
    | ok row =>
      have hline : lineRow layout line = .ok row := by rw [lineRow, hrow]; rfl
      rw [List.mapM_cons, rowAt, hrow, pass_cons_of_ok hline]
      rcases ih with ⟨e, hrows, hpass⟩ | ⟨rows, xs, hrows, hpass, hbuild⟩
      · refine Or.inl ⟨e, ?_, by rw [hpass]; rfl⟩
        rw [hrows]
        rfl
      · refine Or.inr ⟨(n, row) :: rows, row :: xs, by rw [hrows]; rfl, by rw [hpass]; rfl, ?_⟩
        have hoperation : lineOperation layout d line = row.build d := by
          rw [lineOperation, hrow]
          rfl
        rw [List.mapM_cons, hbuild]
        dsimp only
        cases hop : row.build d with
        | error e =>
          rw [pass_cons_of_error (hoperation.trans hop), buildAt, hop]
          rfl
        | ok op =>
          rw [pass_cons_of_ok (hoperation.trans hop), buildAt, hop]
          cases pass source (lineOperation layout d) lines <;> rfl

/-- The options that a text gives in a layout. -/
def givenOptions (layout : Layout) (t : Text) : Options :=
  if layout.readConfig then config t else {}

/-- **The reading of a text is two passes over its rules**, with the options of its first line. -/
theorem readDelimited_eq_passes (layout : Layout) (source t : Text) :
    readDelimited layout source t =
      (pass source (lineRow layout) (ruleLines t)).bind fun _ =>
        (pass source (lineOperation layout (givenOptions layout t).rowDefaults) (ruleLines t)).map
          (givenOptions layout t, ·) := by
  unfold readDelimited
  rw [rows_eq_mapM, ← givenOptions]
  rcases mapM_rowAt_cases layout source (givenOptions layout t).rowDefaults (ruleLines t) with
    ⟨e, hrows, hpass⟩ | ⟨rows, xs, hrows, hpass, hbuild⟩
  · rw [hrows, hpass]
    rfl
  · rw [hrows, hpass]
    exact congrArg (Except.map (givenOptions layout t, ·)) hbuild

theorem parseDelimited_eq_ok_iff {source t : Text} {r : Rules} :
    parseDelimited layout source t = .ok r ↔
      (∃ xs, pass source (lineRow layout) (ruleLines t) = .ok xs) ∧
        pass source (lineOperation layout (givenOptions layout t).rowDefaults) (ruleLines t) =
          .ok r.operations ∧
        r.name = (givenOptions layout t).name.getD source := by
  rw [parseDelimited, readDelimited_eq_passes]
  cases pass source (lineRow layout) (ruleLines t) with
  | error e =>
    constructor
    · intro h
      cases h
    · rintro ⟨⟨xs, hxs⟩, -⟩
      cases hxs
  | ok xs =>
    cases pass source (lineOperation layout (givenOptions layout t).rowDefaults)
        (ruleLines t) with
    | error e =>
      constructor
      · intro h
        cases h
      · rintro ⟨-, h, -⟩
        cases h
    | ok ops =>
      constructor
      · intro h
        cases h
        exact ⟨⟨xs, rfl⟩, rfl, rfl⟩
      · rintro ⟨-, hops, hname⟩
        obtain ⟨name, operations⟩ := r
        cases hops
        cases hname
        rfl

end Source

end Lector
