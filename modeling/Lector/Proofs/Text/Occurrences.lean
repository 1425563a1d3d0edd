import Lector.Rule.Operation

/-!
# Occurrences of a text in another

A text is split at another by passing from each occurrence to the first one that starts behind it.
What stands in front of the first occurrence is the first piece, and the pieces of what follows it
are the others. The pieces can be told without the splitting: each occurrence is the first one in
what the one before leaves, and behind the last there is none. There is one such cut only.

## Main definitions

* `find?`: where a text first occurs in another
* `replaced?`: a text with the occurrences of another replaced
* `Pieces`: the pieces of a text between the leftmost occurrences of another

## Main results

* `splitOn_of_find?`: a text is split at the first occurrence
* `splitOn_of_find?_eq_none`: a text without occurrences is one piece
* `find?_eq_none_iff`, `exists_find?_append`: a text is found just where it first occurs
* `pieces_iff`: a text is cut into pieces in one way
-/

namespace Lector.Text

variable {s t : Text} {ps : List Text}

/-- What becomes of a text whose occurrences of another are replaced, or nothing if it has none. -/
def replaced? (s r t : Text) : Option Text :=
  if (splitOn s t).length = 1 then none else some (join r (splitOn s t))

/-- Where a text first occurs in another. -/
def find? (s : Text) : Text → Option Nat
  | [] => if s.isEmpty then some 0 else none
  | c :: t => if s.isPrefixOf (c :: t) then some 0 else (find? s t).map (· + 1)

theorem splitFrom_skip (u t : Text) : splitFrom s u.length (u ++ t) = splitFrom s 0 t := by
  induction u with
  | nil => rfl
  | cons c u ih => exact ih

/-- A text that starts with an occurrence has an empty piece in front of it. -/
theorem splitOn_append (hs : s ≠ []) (t : Text) : splitOn s (s ++ t) = [] :: splitOn s t := by
  obtain ⟨c, u, rfl⟩ := List.exists_cons_of_ne_nil hs
  have hprefix : (c :: u).isPrefixOf (c :: (u ++ t)) = true :=
    List.isPrefixOf_iff_prefix.mpr ⟨t, rfl⟩
  unfold splitOn
  rw [List.cons_append, splitFrom, if_pos hprefix]
  exact congrArg _ (splitFrom_skip u t)

theorem splitOn_cons_of_not_starts {c : Char} (h : ¬ s <+: c :: t) :
    splitOn s (c :: t) =
      match splitOn s t with
      | [] => [[c]]
      | piece :: pieces => (c :: piece) :: pieces := by
  have hprefix : ¬ s.isPrefixOf (c :: t) = true := by
    rwa [List.isPrefixOf_iff_prefix]
  unfold splitOn
  cases hsplit : splitFrom s 0 t <;> simp [splitFrom, hprefix, hsplit]

/-- **A text is split at the first occurrence.** -/
theorem splitOn_of_find? (hs : s ≠ []) {n : Nat} (h : find? s t = some n) :
    ∃ a b, t = a ++ s ++ b ∧ a.length = n ∧ splitOn s t = a :: splitOn s b := by
  induction t generalizing n with
  | nil => simp [find?, hs] at h
  | cons c t ih =>
    unfold find? at h
    split at h
    · next hprefix =>
      obtain ⟨b, hb⟩ := List.isPrefixOf_iff_prefix.mp hprefix
      obtain rfl : 0 = n := by simpa using h
      rw [← hb]
      exact ⟨[], b, rfl, rfl, splitOn_append hs b⟩
    · next hprefix =>
      obtain ⟨m, hm, rfl⟩ := Option.map_eq_some_iff.mp h
      obtain ⟨a, b, rfl, rfl, hsplit⟩ := ih hm
      refine ⟨c :: a, b, rfl, rfl, ?_⟩
      rw [splitOn_cons_of_not_starts (by rwa [List.isPrefixOf_iff_prefix] at hprefix), hsplit]

/-- **A text without occurrences is one piece.** -/
theorem splitOn_of_find?_eq_none (h : find? s t = none) : splitOn s t = [t] := by
  induction t with
  | nil => rfl
  | cons c t ih =>
    unfold find? at h
    split at h
    · cases h
    · next hprefix =>
      rw [splitOn_cons_of_not_starts (by rwa [List.isPrefixOf_iff_prefix] at hprefix),
        ih (by simpa using h)]

/-- **A text is found just where it occurs.** -/
theorem find?_eq_none_iff : find? s t = none ↔ ¬ s <:+: t := by
  induction t with
  | nil =>
    cases s with
    | nil => simp [find?]
    | cons c s => simp [find?]
  | cons c t ih =>
    rw [List.infix_cons_iff, ← List.isPrefixOf_iff_prefix]
    by_cases hprefix : s.isPrefixOf (c :: t) = true
    · simp [find?, hprefix]
    · simp [find?, hprefix, ih]

/-- No occurrence is in front of the one that is found. -/
theorem exists_find?_append (s a b : Text) :
    ∃ n, find? s (a ++ s ++ b) = some n ∧ n ≤ a.length := by
  induction a with
  | nil =>
    cases s with
    | nil => exact ⟨0, by cases b <;> simp [find?], Nat.le_refl _⟩
    | cons c s =>
      have hprefix : (c :: s).isPrefixOf (c :: (s ++ b)) = true :=
        List.isPrefixOf_iff_prefix.mpr ⟨b, rfl⟩
      exact ⟨0, if_pos hprefix, Nat.le_refl _⟩
  | cons c a ih =>
    obtain ⟨n, hn, hle⟩ := ih
    by_cases hprefix : s.isPrefixOf (c :: (a ++ s ++ b)) = true
    · exact ⟨0, if_pos hprefix, Nat.zero_le _⟩
    · refine ⟨n + 1, ?_, Nat.succ_le_succ hle⟩
      rw [List.cons_append, List.cons_append, find?, if_neg hprefix, hn]
      rfl

theorem splitOn_ne_nil (hs : s ≠ []) (t : Text) : splitOn s t ≠ [] := by
  cases h : find? s t with
  | none => simp [splitOn_of_find?_eq_none h]
  | some n =>
    obtain ⟨a, b, -, -, hsplit⟩ := splitOn_of_find? hs h
    simp [hsplit]

theorem join_cons_of_ne_nil (sep t : Text) {ts : List Text} (h : ts ≠ []) :
    join sep (t :: ts) = t ++ sep ++ join sep ts := by
  obtain ⟨u, us, rfl⟩ := List.exists_cons_of_ne_nil h
  rfl

/-! ## Pieces -/

/-- The pieces of a text between the leftmost occurrences of another that do not overlap: a piece
ends in front of the first occurrence in what is left of the text, and the last piece has none. -/
inductive Pieces (s : Text) : Text → List Text → Prop
  | last {t : Text} (h : ¬ s <:+: t) : Pieces s t [t]
  | next {p u : Text} {ps : List Text}
      (leftmost : ∀ a b, p ++ s ++ u = a ++ s ++ b → p.length ≤ a.length) (h : Pieces s u ps) :
      Pieces s (p ++ s ++ u) (p :: ps)

/-- A text is split into pieces. -/
theorem pieces_splitOn (hs : s ≠ []) (t : Text) : Pieces s t (splitOn s t) := by
  -- What an occurrence leaves behind it is shorter, since the search text is not empty.
  induction hn : t.length using Nat.strongRecOn generalizing t with
  | ind n ih =>
    cases hfind : find? s t with
    | none =>
      rw [splitOn_of_find?_eq_none hfind]
      exact .last (find?_eq_none_iff.mp hfind)
    | some k =>
      obtain ⟨a, b, rfl, rfl, hsplit⟩ := splitOn_of_find? hs hfind
      have hshorter : b.length < n := by
        have := List.length_pos_iff.mpr hs
        simp only [List.length_append] at hn
        omega
      rw [hsplit]
      refine .next (fun a' b' he => ?_) (ih _ hshorter b rfl)
      obtain ⟨k, hk, hle⟩ := exists_find?_append s a' b'
      obtain rfl : k = a.length := Option.some.inj (hk.symm.trans (he ▸ hfind))
      exact hle

/-- **A text is cut into pieces in one way.** -/
theorem pieces_iff (hs : s ≠ []) : Pieces s t ps ↔ ps = splitOn s t := by
  refine ⟨fun h => ?_, fun h => h ▸ pieces_splitOn hs t⟩
  induction h with
  | last h => rw [splitOn_of_find?_eq_none (find?_eq_none_iff.mpr h)]
  | @next p u ps leftmost _ ih =>
    obtain ⟨n, hfind, hle⟩ := exists_find?_append s p u
    obtain ⟨a, b, he, rfl, hsplit⟩ := splitOn_of_find? hs hfind
    -- The first occurrence is in front of none, so the text is cut at the same place.
    have hlength : p.length = a.length := Nat.le_antisymm (leftmost a b he) hle
    rw [List.append_assoc, List.append_assoc] at he
    obtain ⟨rfl, hrest⟩ := List.append_inj he hlength
    obtain rfl : u = b := List.append_cancel_left hrest
    rw [hsplit, ih]

/-- The pieces are joined again by what stands between them. -/
theorem Pieces.join_eq (h : Pieces s t ps) : join s ps = t := by
  induction h with
  | last h => rfl
  | @next p u ps leftmost h ih =>
    have hmore : ps ≠ [] := by cases h <;> simp
    rw [join_cons_of_ne_nil s p hmore, ih]

/-- The pieces are between occurrences, and none is in a piece. -/
theorem Pieces.not_infix (hs : s ≠ []) (h : Pieces s t ps) : ∀ p ∈ ps, ¬ s <:+: p := by
  induction h with
  | last h => simpa using h
  | @next p u ps leftmost _ ih =>
    refine List.forall_mem_cons.mpr ⟨?_, ih⟩
    rintro ⟨a, b, rfl⟩
    have hle := leftmost a (b ++ s ++ u) (by simp)
    have := List.length_pos_iff.mpr hs
    simp only [List.length_append] at hle
    omega

/-- A text is one piece if it has no occurrence, and only then. -/
theorem Pieces.length_eq_one_iff (h : Pieces s t ps) : ps.length = 1 ↔ ¬ s <:+: t := by
  cases h with
  | last h => simpa using h
  | @next p u ps leftmost h =>
    have hmore : ps ≠ [] := by cases h <;> simp
    simp [hmore]

/-- Every piece is a part of the text. -/
theorem Pieces.infix_of_mem (h : Pieces s t ps) : ∀ p ∈ ps, p <:+: t := by
  induction h with
  | last h => simp
  | @next p u ps leftmost _ ih =>
    refine List.forall_mem_cons.mpr ⟨⟨[], s ++ u, by simp⟩, fun q hq => ?_⟩
    exact (ih q hq).trans (List.suffix_append (p ++ s) u).isInfix

/-- A text that does not start with an occurrence has its first character in the first piece. -/
theorem exists_splitOn_cons {c : Char} (h : ¬ s <+: c :: t) :
    ∃ p ps, splitOn s (c :: t) = (c :: p) :: ps := by
  rw [splitOn_cons_of_not_starts h]
  cases splitOn s t with
  | nil => exact ⟨[], [], rfl⟩
  | cons p ps => exact ⟨p, ps, rfl⟩

end Lector.Text
