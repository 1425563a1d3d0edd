import Lector.Proofs.Directive.Composition
import Lector.Proofs.Source.Line
import Lector.Proofs.Source.RuleLines

/-!
# Texts of rules one after another

A text of rules may be put below another, with a line feed between them. The rules of the lower text
move down by the lines of the upper one, and no line of the one changes how a line of the other is
read. So the rows of the two follow one another, and where the options are the same the rules do.

## Main definitions

* `Error.movedDown`, `movedDown`: errors and rows whose lines stand further down
* `beginsWithOptions`: the first line of a text is meant to give options

## Main results

* `ruleLines_joined`: the lines that hold rules follow one another
* `rows_joined`: so do the rows
* `parseDelimited_joined`: so do the rules, where both texts give the same options
* `rows_joined_and_applyAll`: rules from joined texts are applied one text after the other
-/

namespace Lector

/-- The error at a row that stands further down. -/
def Error.movedDown (h : Nat) : Error → Error
  | row source n fault => row source (n + h) fault
  | substitution pattern fault place =>
    substitution pattern fault (place.map fun (source, n) => (source, n + h))
  | e => e

namespace Source

open Rule (Row Operation applyAll)

variable {layout : Layout} {t u : Text}

/-! ## Lines -/

theorem firstLine?_joined (t u : Text) :
    firstLine? (t ++ '\n' :: u) = (firstLine? t).or (firstLine? u) := by
  rw [List.append_cons, (ended_lineFeed t).firstLine?_append, firstLine?_lineFeed]

/-- A numbered line that stands further down. -/
def lineBelow (h : Nat) (line : Text × Nat) : Text × Nat := (line.1, line.2 + h)

/-- **The lines that hold rules follow one another**, those of the lower text further down by the
lines of the upper one. -/
theorem ruleLines_joined (t u : Text) :
    ruleLines (t ++ '\n' :: u) =
      ruleLines t ++ (ruleLines u).map (lineBelow (1 + t.count '\n')) := by
  have hlength : (trimmedLines (t ++ ['\n'])).length = 1 + t.count '\n' := by
    rw [trimmedLines, List.length_map, Text.length_lines_lineFeed]
  have hnumbers : (trimmedLines u).zipIdx (1 + (1 + t.count '\n')) =
      ((trimmedLines u).zipIdx 1).map (lineBelow (1 + t.count '\n')) := by
    rw [Nat.add_comm, ← List.map_snd_add_zipIdx_eq_zipIdx]
    rfl
  -- the line feed between the texts ends an upper line, be it an empty one
  rw [← ruleLines_lineFeed t, List.append_cons]
  unfold ruleLines
  rw [(ended_lineFeed t).trimmedLines_append, List.zipIdx_append, hlength, hnumbers,
    List.filter_append, List.filter_map]
  rfl

/-! ## Rows -/

/-- Rows that stand further down. -/
def movedDown (h : Nat) (rows : List (Nat × Row)) : List (Nat × Row) :=
  rows.map fun (n, row) => (n + h, row)

theorem rowAt_lineBelow (layout : Layout) (h : Nat) (line : Text × Nat) :
    rowAt layout (lineBelow h line) =
      ((rowAt layout line).mapError (·.movedDown h)).map fun (n, row) => (n + h, row) := by
  obtain ⟨line, n⟩ := line
  unfold rowAt lineBelow
  cases readRow layout line <;> rfl

theorem mapM_rowAt_lineBelow (layout : Layout) (h : Nat) (lines : List (Text × Nat)) :
    (lines.map (lineBelow h)).mapM (rowAt layout) =
      ((lines.mapM (rowAt layout)).mapError (·.movedDown h)).map (movedDown h) := by
  induction lines with
  | nil => rfl
  | cons line lines ih =>
    rw [List.map_cons, List.mapM_cons, List.mapM_cons, ih, rowAt_lineBelow]
    cases rowAt layout line with
    | error e => rfl
    | ok row => cases lines.mapM (rowAt layout) <;> rfl

/-- **The rows of joined texts follow one another**, and the first fault of either is reported. -/
theorem rows_joined (layout : Layout) (t u : Text) :
    rows layout (t ++ '\n' :: u) =
      match rows layout t, rows layout u with
      | .error e, _ => .error e
      | .ok _, .error e => .error (e.movedDown (1 + t.count '\n'))
      | .ok above, .ok below => .ok (above ++ movedDown (1 + t.count '\n') below) := by
  rw [rows_eq_mapM, ruleLines_joined, List.mapM_append, mapM_rowAt_lineBelow, ← rows_eq_mapM,
    ← rows_eq_mapM]
  cases rows layout t with
  | error e => rfl
  | ok above => cases rows layout u <;> rfl

/-! ## Rules -/

/-- Whether the first line of a text is meant to give options. -/
def beginsWithOptions (t : Text) : Bool := (firstLine? t).any looksLikeOptions

theorem config_of_not_beginsWithOptions (h : beginsWithOptions t = false) : config t = {} := by
  rw [config_eq_lineOptions]
  unfold beginsWithOptions at h
  cases hfirst : firstLine? t with
  | none => rfl
  | some line =>
    rw [hfirst, Option.any_some] at h
    rw [Option.map_some, lineOptions, h]
    rfl

theorem config_joined (h : config t = config u) : config (t ++ '\n' :: u) = config t := by
  rw [config_eq_lineOptions, firstLine?_joined]
  cases hfirst : firstLine? t with
  | none => rw [h, config_eq_lineOptions u, Option.none_or]
  | some line => rw [config_eq_lineOptions t, hfirst, Option.some_or]

/-- **The rules of joined texts follow one another** where the options are the same. -/
theorem parseDelimited_joined {source upper lower : Text} {r r' : Rules}
    (hconfig : config t = config u) (ht : parseDelimited layout upper t = .ok r)
    (hu : parseDelimited layout lower u = .ok r') :
    parseDelimited layout source (t ++ '\n' :: u) =
      .ok ⟨(givenOptions layout t).name.getD source, r.operations ++ r'.operations⟩ := by
  have hoptions : givenOptions layout u = givenOptions layout t := by
    rw [givenOptions, givenOptions, hconfig]
  have hjoined : givenOptions layout (t ++ '\n' :: u) = givenOptions layout t := by
    rw [givenOptions, givenOptions, config_joined hconfig]
  have hbelow : (ruleLines u).map Prod.fst =
      ((ruleLines u).map (lineBelow (1 + t.count '\n'))).map Prod.fst := by
    rw [List.map_map]
    rfl
  obtain ⟨⟨rows, hrows⟩, hops, -⟩ := parseDelimited_eq_ok_iff.mp ht
  obtain ⟨⟨rows', hrows'⟩, hops', -⟩ := parseDelimited_eq_ok_iff.mp hu
  rw [hoptions] at hops'
  refine parseDelimited_eq_ok_iff.mpr ⟨⟨rows ++ rows', ?_⟩, ?_, by rw [hjoined]⟩
  · rw [ruleLines_joined, pass_append, pass_ok_of_renumbered hrows rfl,
      pass_ok_of_renumbered hrows' hbelow]
    rfl
  · rw [hjoined, ruleLines_joined, pass_append, pass_ok_of_renumbered hops rfl,
      pass_ok_of_renumbered hops' hbelow]
    rfl

/-- **Joined texts of rules.** The rows of two texts with a line feed between them are those of
both, the lower ones further down, and if either has a fault, so has the whole. Where neither text
begins with options and both can be read, the rules of the whole do to any text what the upper rules
do and the lower ones after them. -/
theorem rows_joined_and_applyAll (layout : Layout) (t u : Text) :
    ((∃ e, rows layout (t ++ '\n' :: u) = .error e) ↔
      (∃ e, rows layout t = .error e) ∨ ∃ e, rows layout u = .error e) ∧
    rows layout (t ++ '\n' :: u) =
      (match rows layout t, rows layout u with
      | .error e, _ => .error e
      | .ok _, .error e => .error (e.movedDown (1 + t.count '\n'))
      | .ok above, .ok below => .ok (above ++ movedDown (1 + t.count '\n') below)) ∧
    ∀ (source upper lower : Text) (r r' : Rules),
      beginsWithOptions t = false → beginsWithOptions u = false →
      parseDelimited layout upper t = .ok r → parseDelimited layout lower u = .ok r' →
      ∃ joined, parseDelimited layout source (t ++ '\n' :: u) = .ok joined ∧
        ∀ x, applyAll joined.operations x =
          (applyAll r.operations x).bind (applyAll r'.operations) := by
  refine ⟨?_, rows_joined layout t u, ?_⟩
  · rw [rows_joined]
    cases rows layout t with
    | error e => simp
    | ok above => cases rows layout u <;> simp
  · intro source upper lower r r' ht hu hr hr'
    have hconfig : config t = config u := by
      rw [config_of_not_beginsWithOptions ht, config_of_not_beginsWithOptions hu]
    exact ⟨_, parseDelimited_joined hconfig hr hr', fun x =>
      Rule.applyAll_append r.operations r'.operations x⟩

/-- A line with a rule and no comment is read to the operation of its row. -/
theorem IsRule.parseDelimited_plain {line : Text} (h : IsRule line) {row : Row} {op : Operation}
    (hrow : lineRows (Text.trim line) none = .ok [(1, row)]) (hop : row.build {} = .ok op)
    (source : Text) : parseDelimited {} source line = .ok ⟨source, [op]⟩ := by
  have hbuild : buildAt source {} 1 row = .ok op := by rw [buildAt, hop]
  have hops : ([(1, row)].mapM fun (n, row) => buildAt source {} n row) = .ok [op] := by
    simp only [List.mapM_cons, List.mapM_nil, hbuild]
    rfl
  unfold parseDelimited readDelimited
  rw [h.rows_plain, hrow, h.config_eq]
  exact congrArg (Except.map _ <| Except.map _ ·) hops

/-- Two texts of one line each, the lower one with a carriage return. -/
theorem rows_joined_and_applyAll_two_rules :
    beginsWithOptions "a\tb\t1".toList = false ∧
      beginsWithOptions "b\tcc\tfixed\r".toList = false ∧
      parseDelimited {} "upper".toList "a\tb\t1".toList =
        .ok ⟨"upper".toList, [⟨['a'], ['b'], none, .literal⟩]⟩ ∧
      parseDelimited {} "lower".toList "b\tcc\tfixed\r".toList =
        .ok ⟨"lower".toList, [⟨['b'], ['c', 'c'], none, .literal⟩]⟩ ∧
      ∃ joined, parseDelimited {} [] ("a\tb\t1".toList ++ '\n' :: "b\tcc\tfixed\r".toList) =
          .ok joined ∧
        ∀ x, applyAll joined.operations x =
          (applyAll [⟨['a'], ['b'], none, .literal⟩] x).bind
            (applyAll [⟨['b'], ['c', 'c'], none, .literal⟩]) := by
  have hupper : IsRule "a\tb\t1".toList := ⟨⟨'a', by decide, by decide⟩, by decide, by decide⟩
  have hlower : IsRule "b\tcc\tfixed\r".toList :=
    ⟨⟨'b', by decide, by decide⟩, by decide, by decide⟩
  have hr := hupper.parseDelimited_plain (by rfl) (by rfl) "upper".toList
  have hr' := hlower.parseDelimited_plain (by rfl) (by rfl) "lower".toList
  exact ⟨by decide, by decide, hr, hr', (rows_joined_and_applyAll {} _ _).2.2 [] _ _ _ _
    (by decide) (by decide) hr hr'⟩

end Source

end Lector
