import Lector.Proofs.Rule.Escaping

/-!
# What literal rules replace

A literal rule joins the pieces of a text between the leftmost occurrences of what it looks for by
the replacement. If the replacement has no character of what the rule looks for, no occurrence can
reach over it from one piece to the next, so that the rule finds nothing in what it has made.

## Main results

* `Text.infix_append_of_disjoint`: no occurrence reaches over a text that has none of its characters
* `Rule.Operation.replace?_pieces`: literal rules replace leftmost occurrences, and settle
-/

namespace Lector

namespace Text

variable {s r u v : Text} {ps : List Text}

/-- **No occurrence reaches over a text that has none of its characters.** -/
theorem infix_append_of_disjoint (hr : r ≠ []) (hdisjoint : ∀ c ∈ r, c ∉ s)
    (h : s <:+: u ++ (r ++ v)) : s <:+: u ∨ s <:+: v := by
  have hempty {w : Text} (hw : w ⊆ s) (hwr : w ⊆ r) : w = [] :=
    List.eq_nil_iff_forall_not_mem.mpr fun c hc => hdisjoint c (hwr hc) (hw hc)
  rcases List.infix_append_iff.mp h with hu | hrv | ⟨a, b, rfl, ha, hb⟩
  · exact .inl hu
  · rcases List.infix_append_iff.mp hrv with hsr | hv | ⟨a, b, rfl, ha, hb⟩
    · rw [hempty (List.Subset.refl s) hsr.subset]
      exact .inl (List.nil_infix)
    · exact .inr hv
    · rw [hempty (List.subset_append_left a b) ha.subset]
      exact .inr hb.isInfix
  · cases b with
    | nil =>
      rw [List.append_nil]
      exact .inl ha.isInfix
    | cons c b =>
      obtain ⟨d, r', rfl⟩ := List.exists_cons_of_ne_nil hr
      obtain ⟨rfl, -⟩ := List.cons_prefix_cons.mp hb
      exact absurd (by simp) (hdisjoint c (by simp))

/-- Texts without occurrences have none when they are joined by a text that shares no character. -/
theorem not_infix_join (hs : s ≠ []) (hr : r ≠ []) (hdisjoint : ∀ c ∈ r, c ∉ s)
    (h : ∀ p ∈ ps, ¬ s <:+: p) : ¬ s <:+: join r ps := by
  induction ps with
  | nil => simpa [join] using hs
  | cons p ps ih =>
    obtain ⟨hp, hps⟩ := List.forall_mem_cons.mp h
    cases ps with
    | nil => exact hp
    | cons q ps =>
      intro hinfix
      rw [join, List.append_assoc] at hinfix
      exact (infix_append_of_disjoint hr hdisjoint hinfix).elim hp (ih hps)

end Text

namespace Rule.Operation

variable {s r t : Text} {ps : List Text}

/-- A literal rule joins the pieces of a text by the replacement, if there are more than one. -/
theorem replace?_of_pieces (hs : s ≠ []) (r : Text) (comment : Option Text)
    (h : Text.Pieces s t ps) :
    replace? ⟨s, r, comment, .literal⟩ t =
      .ok (if ps.length = 1 then none else some (Text.join r ps)) := by
  rw [replace?_literal hs, Text.replaced?, ← (Text.pieces_iff hs).mp h]

theorem apply_of_pieces (hs : s ≠ []) (r : Text) (comment : Option Text)
    (h : Text.Pieces s t ps) :
    apply ⟨s, r, comment, .literal⟩ t = .ok (Text.join r ps) := by
  rw [apply, replace?_of_pieces hs r comment h]
  split
  next hone =>
    obtain ⟨p, rfl⟩ := List.length_eq_one_iff.mp hone
    rw [← h.join_eq]
    rfl
  next => rfl

/-- **Literal rules replace the leftmost occurrences, and settle.** A rule can be made of every
search text that is not empty. A text is cut by it into pieces in one way, and the rule joins the
pieces by the replacement. It finds nothing to replace if there is one piece, as there is just if
the search text does not occur. If the replacement is not empty and has no character of the search
text, the rule finds nothing to replace in what it has made. -/
theorem replace?_pieces (hs : s ≠ []) (r : Text) (comment : Option Text) :
    ∃ op, make s r .literal comment = .ok op ∧ ∀ t, (∃! ps, Text.Pieces s t ps) ∧
      ∀ ps, Text.Pieces s t ps → Text.join s ps = t ∧ (ps.length = 1 ↔ ¬ s <:+: t) ∧
        op.replace? t = .ok (if ps.length = 1 then none else some (Text.join r ps)) ∧
        op.apply t = .ok (Text.join r ps) ∧
        (r ≠ [] → (∀ c ∈ r, c ∉ s) → ¬ s <:+: Text.join r ps ∧
          op.replace? (Text.join r ps) = .ok none ∧
          op.apply (Text.join r ps) = .ok (Text.join r ps)) := by
  refine ⟨_, make_literal hs r comment, fun t => ⟨?_, fun ps h => ?_⟩⟩
  · exact ⟨_, Text.pieces_splitOn hs t, fun ps h => (Text.pieces_iff hs).mp h⟩
  refine ⟨h.join_eq, h.length_eq_one_iff, replace?_of_pieces hs r comment h,
    apply_of_pieces hs r comment h, fun hr hdisjoint => ?_⟩
  have hnone : ¬ s <:+: Text.join r ps := Text.not_infix_join hs hr hdisjoint (h.not_infix hs)
  have hlast : Text.Pieces s (Text.join r ps) [Text.join r ps] := .last hnone
  have happly := apply_of_pieces hs r comment hlast
  exact ⟨hnone, replace?_of_pieces hs r comment hlast, happly⟩

/-- Of occurrences that overlap the leftmost is replaced. With a replacement that has no character
of the search text that is all that can be done. -/
theorem replace?_pieces_overlapping :
    ∃ op, make ['a', 'b', 'a'] ['c'] .literal none = .ok op ∧
      op.replace? ['a', 'b', 'a', 'b', 'a', 'b'] = .ok (some ['c', 'b', 'a', 'b']) ∧
      op.replace? ['c', 'b', 'a', 'b'] = .ok none := by
  obtain ⟨op, hop, h⟩ := replace?_pieces (s := ['a', 'b', 'a']) (by decide) ['c'] none
  have hpieces : Text.Pieces ['a', 'b', 'a'] ['a', 'b', 'a', 'b', 'a', 'b'] [[], ['b', 'a', 'b']] :=
    (Text.pieces_iff (by decide)).mpr rfl
  obtain ⟨-, -, hreplace, -, hsettles⟩ := (h _).2 _ hpieces
  exact ⟨op, hop, hreplace, (hsettles (by simp) (by simp)).2.1⟩

end Rule.Operation

end Lector
