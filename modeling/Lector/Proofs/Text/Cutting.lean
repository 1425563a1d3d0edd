import Mathlib.Data.List.DropRight
import Lector.Rule.Operation

/-!
# Texts trimmed and cut

What trimming and cutting make of a text in which one character is singled out: one that is not
dropped, a mark to cut at, a separator or a line feed. All other facts about them follow.

## Main results

* `dropEndWhile_append_cons`, `trim_append_cons`: trimming stops at a character that stays
* `cutAt?_append_cons`, `cutLast?_append_cons`: a text is cut at the first mark or at the last
* `splitOn_singleton`: a text is split at a character as lists are
* `lines_append_cons`, `lines_append_lineFeed`, `lines_join`: a text is split at the end of its
  first line and of any other, and into the lines that it was joined from
-/

namespace Lector.Text

variable {p : Char → Bool} {c : Char} {t u : Text}

/-! ## The ends of a text -/

/-- Characters with `p` at the end are dropped. -/
theorem dropEndWhile_append_of_all (h : ∀ c ∈ u, p c = true) :
    dropEndWhile p (t ++ u) = dropEndWhile p t := by
  unfold dropEndWhile
  rw [List.reverse_append, List.dropWhile_append_of_pos (by simpa using h)]

/-- **Dropping from the end stops at a character that stays.** -/
theorem dropEndWhile_append_cons (h : p c = false) :
    dropEndWhile p (t ++ c :: u) = t ++ c :: dropEndWhile p u := by
  change List.rdropWhile p (t ++ c :: u) = t ++ c :: List.rdropWhile p u
  induction u using List.reverseRecOn with
  | nil => simp [h]
  | append_singleton u d ih =>
    have hsnoc : t ++ c :: (u ++ [d]) = (t ++ c :: u) ++ [d] := by simp
    rw [hsnoc, List.rdropWhile_concat, List.rdropWhile_concat]
    split
    next => exact ih
    next => simp

theorem mem_of_mem_dropEndWhile (h : c ∈ dropEndWhile p t) : c ∈ t :=
  (List.rdropWhile_prefix p t).subset h

theorem dropEndWhile_eq_nil_iff : dropEndWhile p t = [] ↔ ∀ c ∈ t, p c = true :=
  List.rdropWhile_eq_nil_iff

/-- What is left behind a text and its end that is dropped. -/
theorem dropEndWhile_append_rtakeWhile (p : Char → Bool) (t : Text) :
    dropEndWhile p t ++ t.rtakeWhile p = t :=
  List.rdropWhile_append_rtakeWhile

/-- A text is blank, or has a last character that is not. -/
theorem blank_or_last (t : Text) :
    (∀ c ∈ t, isBlank c = true) ∨
      ∃ u c v, t = u ++ c :: v ∧ isBlank c = false ∧ ∀ d ∈ v, isBlank d = true := by
  have hsplit := dropEndWhile_append_rtakeWhile isBlank t
  have hblank (c : Char) (hc : c ∈ t.rtakeWhile isBlank) : isBlank c = true :=
    List.mem_rtakeWhile_imp hc
  rcases List.eq_nil_or_concat (dropEndWhile isBlank t) with hnil | ⟨u, c, hlast⟩
  · exact Or.inl (dropEndWhile_eq_nil_iff.mp hnil)
  · rw [List.concat_eq_append] at hlast
    refine Or.inr ⟨u, c, t.rtakeWhile isBlank, ?_, ?_, hblank⟩
    · rw [List.append_cons, ← hlast, hsplit]
    · have hlast' : List.rdropWhile isBlank t = u ++ [c] := hlast
      have hne : List.rdropWhile isBlank t ≠ [] := by simp [hlast']
      simpa [hlast'] using List.rdropWhile_last_not isBlank t hne

/-- A text is blank, or has a first character that is not. -/
theorem blank_or_first (t : Text) :
    (∀ c ∈ t, isBlank c = true) ∨
      ∃ v c u, t = v ++ c :: u ∧ isBlank c = false ∧ ∀ d ∈ v, isBlank d = true := by
  induction t with
  | nil => exact Or.inl (by simp)
  | cons c t ih =>
    cases hc : isBlank c with
    | false => exact Or.inr ⟨[], c, t, rfl, hc, by simp⟩
    | true =>
      rcases ih with ht | ⟨v, d, u, rfl, hd, hv⟩
      · exact Or.inl (List.forall_mem_cons.mpr ⟨hc, ht⟩)
      · exact Or.inr ⟨c :: v, d, u, rfl, hd, List.forall_mem_cons.mpr ⟨hc, hv⟩⟩

theorem trimStart_cons (h : isBlank c = false) : trimStart (c :: t) = c :: t := by
  simp [trimStart, h]

/-- Trimming at the start stops at a character that is not blank. -/
theorem trimStart_append_cons (h : isBlank c = false) :
    trimStart (t ++ c :: u) = trimStart t ++ c :: u := by
  unfold trimStart
  rw [List.dropWhile_append]
  split
  next he => simp [h, List.isEmpty_iff.mp he]
  next => rfl

/-- **Trimming stops at a character that is not blank.** -/
theorem trim_append_cons (h : isBlank c = false) :
    trim (t ++ c :: u) = trimStart t ++ c :: trimEnd u := by
  unfold trim trimEnd
  rw [trimStart_append_cons h, dropEndWhile_append_cons h]

/-- A text is trimmed up to its last character that is not blank. -/
theorem trimEnd_of_last (h : isBlank c = false) (hu : ∀ d ∈ u, isBlank d = true) :
    trimEnd (t ++ c :: u) = t ++ [c] := by
  rw [trimEnd, dropEndWhile_append_cons h, dropEndWhile_eq_nil_iff.mpr hu]

theorem trim_of_last (h : isBlank c = false) (hu : ∀ d ∈ u, isBlank d = true) :
    trim (t ++ c :: u) = trimStart t ++ [c] := by
  rw [trim, trimStart_append_cons h, trimEnd_of_last h hu]

/-- A text is trimmed from its first character that is not blank on. -/
theorem trim_of_first (h : isBlank c = false) (ht : ∀ d ∈ t, isBlank d = true) :
    trim (t ++ c :: u) = c :: trimEnd u := by
  have hstart : trimStart t = [] := List.dropWhile_eq_nil_iff.mpr ht
  rw [trim_append_cons h, hstart, List.nil_append]

theorem trim_of_blank (h : ∀ c ∈ t, isBlank c = true) : trim t = [] := by
  have hstart : trimStart t = [] := List.dropWhile_eq_nil_iff.mpr h
  rw [trim, hstart]
  rfl

/-- White space at the end is trimmed. -/
theorem trim_append_of_blank (h : ∀ c ∈ u, isBlank c = true) : trim (t ++ u) = trim t := by
  rcases blank_or_last t with ht | ⟨v, c, w, rfl, hc, -⟩
  · rw [trim_of_blank ht, trim_of_blank]
    intro c hc
    rcases List.mem_append.mp hc with hc | hc
    · exact ht c hc
    · exact h c hc
  · rw [List.append_assoc, List.cons_append, trim_append_cons hc, trim_append_cons hc, trimEnd,
      dropEndWhile_append_of_all h, trimEnd]

theorem trim_trimEnd (t : Text) : trim (trimEnd t) = trim t := by
  have hsplit : trimEnd t ++ t.rtakeWhile isBlank = t := dropEndWhile_append_rtakeWhile isBlank t
  conv_rhs => rw [← hsplit]
  exact (trim_append_of_blank fun c hc => List.mem_rtakeWhile_imp hc).symm

theorem trim_trim (t : Text) : trim (trim t) = trim t := by
  rcases blank_or_last t with ht | ⟨u, c, v, rfl, hc, hv⟩
  · rw [trim_of_blank ht]
    rfl
  · have hstart : trimStart (trimStart u) = trimStart u :=
      List.dropWhile_idempotent isBlank u
    rw [trim_of_last hc hv, trim_of_last hc (by simp), hstart]

theorem mem_of_mem_trim (h : c ∈ trim t) : c ∈ t := by
  have hstart : c ∈ trimStart t := mem_of_mem_dropEndWhile h
  exact (List.dropWhile_suffix _).subset hstart

/-! ## Cuts at a mark -/

theorem cutAt?_of_not_mem (h : c ∉ t) : cutAt? c t = none := by
  induction t with
  | nil => rfl
  | cons d t ih =>
    have hd : d ≠ c := fun e => h (by simp [e])
    simp [cutAt?, hd, ih fun hc => h (by simp [hc])]

/-- **A text is cut at the first mark.** -/
theorem cutAt?_append_cons (h : c ∉ t) (u : Text) : cutAt? c (t ++ c :: u) = some (t, u) := by
  induction t with
  | nil => simp [cutAt?]
  | cons d t ih =>
    have hd : d ≠ c := fun e => h (by simp [e])
    simp [cutAt?, hd, ih fun hc => h (by simp [hc])]

theorem cutAt?_eq_none_iff : cutAt? c t = none ↔ c ∉ t := by
  refine ⟨fun h hc => ?_, cutAt?_of_not_mem⟩
  obtain ⟨s, u, rfl, hs⟩ := List.eq_append_cons_of_mem hc
  cases h.symm.trans (cutAt?_append_cons hs u)

/-- A text that is cut has its first mark at the cut. -/
theorem eq_of_cutAt? {v : Text} (h : cutAt? c t = some (u, v)) : c ∉ u ∧ t = u ++ c :: v := by
  by_cases hc : c ∈ t
  · obtain ⟨s, w, rfl, hs⟩ := List.eq_append_cons_of_mem hc
    rw [cutAt?_append_cons hs] at h
    cases h
    exact ⟨hs, rfl⟩
  · rw [cutAt?_of_not_mem hc] at h
    cases h

theorem cutLast?_of_not_mem (h : c ∉ t) : cutLast? c t = none := by
  induction t with
  | nil => rfl
  | cons d t ih =>
    have hd : d ≠ c := fun e => h (by simp [e])
    simp [cutLast?, hd, ih fun hc => h (by simp [hc])]

/-- **A text is cut at the last mark.** -/
theorem cutLast?_append_cons (h : c ∉ u) (t : Text) : cutLast? c (t ++ c :: u) = some (t, u) := by
  induction t with
  | nil => simp [cutLast?, cutLast?_of_not_mem h]
  | cons d t ih => simp [cutLast?, ih]

/-- There is one last mark at most. -/
theorem eq_of_append_cons_eq {t' u' : Text} (h : c ∉ u) (h' : c ∉ u')
    (he : t ++ c :: u = t' ++ c :: u') : t = t' ∧ u = u' := by
  have hcut := cutLast?_append_cons h t
  rw [he, cutLast?_append_cons h' t'] at hcut
  simpa [eq_comm] using hcut

/-- A text has no mark, or a last one. -/
theorem not_mem_or_last (c : Char) (t : Text) : c ∉ t ∨ ∃ u v, t = u ++ c :: v ∧ c ∉ v := by
  by_cases hc : c ∈ t.reverse
  · obtain ⟨v, u, ht, hv⟩ := List.eq_append_cons_of_mem hc
    refine Or.inr ⟨u.reverse, v.reverse, ?_, by simpa using hv⟩
    simpa using congrArg List.reverse ht
  · exact Or.inl (by simpa using hc)

theorem cutLast?_eq_none_iff : cutLast? c t = none ↔ c ∉ t := by
  refine ⟨fun h => ?_, cutLast?_of_not_mem⟩
  rcases not_mem_or_last c t with ht | ⟨u, v, rfl, hv⟩
  · exact ht
  · cases h.symm.trans (cutLast?_append_cons hv u)

theorem cutLast?_eq_some_iff {v : Text} : cutLast? c t = some (u, v) ↔ c ∉ v ∧ t = u ++ c :: v := by
  constructor
  · intro h
    rcases not_mem_or_last c t with ht | ⟨u', v', rfl, hv⟩
    · cases h.symm.trans (cutLast?_of_not_mem ht)
    · cases h.symm.trans (cutLast?_append_cons hv u')
      exact ⟨hv, rfl⟩
  · rintro ⟨hv, rfl⟩
    exact cutLast?_append_cons hv u

/-- A start without the mark is a start of what stands in front of the mark. -/
theorem prefix_of_prefix_append_cons {v : Text} (h : u <+: t ++ c :: v) (hc : c ∉ u) : u <+: t := by
  rcases List.prefix_or_prefix_of_prefix h (List.prefix_append t (c :: v)) with hu | ⟨w, rfl⟩
  · exact hu
  · rw [List.prefix_append_right_inj] at h
    cases w with
    | nil => simp
    | cons d w =>
      obtain ⟨rfl, -⟩ := List.cons_prefix_cons.mp h
      exact absurd (by simp) hc

/-- An end without the mark is an end of what follows the mark. -/
theorem suffix_of_suffix_append_cons {v : Text} (h : u <:+ t ++ c :: v) (hc : c ∉ u) : u <:+ v := by
  rcases List.suffix_or_suffix_of_suffix h (List.suffix_append t (c :: v)) with hu | hv
  · rcases List.suffix_cons_iff.mp hu with rfl | hu
    · exact absurd (by simp) hc
    · exact hu
  · exact absurd (hv.subset (by simp)) hc

/-- What stands in front of an end is what is left without it. -/
theorem dropSuffix?_eq_some_iff {s r : Text} : dropSuffix? s t = some r ↔ t = r ++ s := by
  rw [dropSuffix?, Option.map_eq_some_iff]
  constructor
  · rintro ⟨v, hv, rfl⟩
    simpa using congrArg List.reverse (append_of_dropPrefix? hv)
  · rintro rfl
    exact ⟨r.reverse, by simp, by simp⟩

/-! ## Pieces between separators -/

/-- A separator of one character splits a text as it splits any list. -/
theorem splitOn_singleton (c : Char) (t : Text) : splitOn [c] t = List.splitOn c t := by
  induction t with
  | nil => rfl
  | cons d t ih =>
    rw [List.splitOn_cons_eq_if_modifyHead]
    by_cases h : d = c
    · simp [splitOn, splitFrom, h, ← ih]
    · have hsep : List.isPrefixOf [c] (d :: t) = false := by
        simp [List.isPrefixOf, Ne.symm h]
      obtain ⟨piece, pieces, hpieces⟩ := List.exists_cons_of_ne_nil (List.splitOn_ne_nil c t)
      rw [if_neg (by simp [h]), splitOn, splitFrom, hsep, ← splitOn, ih, hpieces]
      rfl

/-- A text without the separator goes in front of the first piece. -/
theorem splitOn_append_of_not_mem (h : c ∉ t) (u : Text) :
    List.splitOn c (t ++ u) = (List.splitOn c u).modifyHead (t ++ ·) := by
  induction t with
  | nil =>
    rw [List.nil_append]
    cases List.splitOn c u <;> simp
  | cons d t ih =>
    have hd : ¬(d == c) = true := fun e => h (by simp [beq_iff_eq.mp e])
    rw [List.cons_append, List.splitOn_cons_eq_if_modifyHead, if_neg hd,
      ih fun hc => h (by simp [hc]), List.modifyHead_modifyHead]
    rfl

/-- Every piece is a part of the text. -/
theorem mem_of_mem_splitOn {d : Char} {w : Text} (hw : w ∈ List.splitOn c t) (hd : d ∈ w) :
    d ∈ t := by
  induction t generalizing w with
  | nil => simp_all
  | cons e t ih =>
    rw [List.splitOn_cons_eq_if_modifyHead] at hw
    split at hw
    next =>
      rcases List.mem_cons.mp hw with rfl | hw
      · simp at hd
      · exact List.mem_cons_of_mem e (ih hw hd)
    next =>
      obtain ⟨v, vs, hv⟩ := List.exists_cons_of_ne_nil (List.splitOn_ne_nil c t)
      rw [hv] at hw
      rcases List.mem_cons.mp hw with rfl | hw
      · rcases List.mem_cons.mp hd with rfl | hd
        · simp
        · exact List.mem_cons_of_mem e (ih (by simp [hv]) hd)
      · exact List.mem_cons_of_mem e (ih (by simp [hv, hw]) hd)

/-- No piece holds the separator. -/
theorem not_mem_of_mem_splitOn {w : Text} (hw : w ∈ List.splitOn c t) : c ∉ w := by
  induction t generalizing w with
  | nil => simp_all
  | cons d t ih =>
    obtain ⟨v, vs, hv⟩ := List.exists_cons_of_ne_nil (List.splitOn_ne_nil c t)
    rw [List.splitOn_cons_eq_if_modifyHead, hv] at hw
    split at hw
    next =>
      rcases List.mem_cons.mp hw with rfl | hw
      · simp
      · exact ih (hv ▸ hw)
    next hd =>
      rcases List.mem_cons.mp hw with rfl | hw
      · have hd : c ≠ d := fun e => hd (by simp [e])
        simpa [hd] using ih (w := v) (by simp [hv])
      · exact ih (by simp [hv, hw])

/-- What is joined comes from the members and from the separators. -/
theorem mem_of_mem_join {sep : Text} {ts : List Text} (h : c ∈ join sep ts) :
    c ∈ sep ∨ ∃ t ∈ ts, c ∈ t := by
  induction ts with
  | nil => cases h
  | cons t ts ih =>
    cases ts with
    | nil => exact Or.inr ⟨t, by simp, h⟩
    | cons u ts =>
      rw [join, List.mem_append, List.mem_append] at h
      rcases h with (h | h) | h
      · exact Or.inr ⟨t, by simp, h⟩
      · exact Or.inl h
      · rcases ih h with h | ⟨v, hv, hc⟩
        · exact Or.inl h
        · exact Or.inr ⟨v, List.mem_cons_of_mem t hv, hc⟩

/-! ## Lines -/

theorem lines_cons (c : Char) (t : Text) :
    lines (c :: t) =
      if c = '\n' then [] :: lines t
      else match lines t with
        | [] => [[c]]
        | line :: rest => (c :: line) :: rest := rfl

/-- **A text is split at the end of its first line.** -/
theorem lines_append_cons (h : '\n' ∉ t) (u : Text) : lines (t ++ '\n' :: u) = t :: lines u := by
  induction t with
  | nil => rfl
  | cons c t ih =>
    have hc : c ≠ '\n' := fun e => h (by simp [e])
    rw [List.cons_append, lines_cons, if_neg hc, ih fun hc => h (by simp [hc])]

/-- A text without a line feed is one line, if it is none at all. -/
theorem lines_of_not_mem (h : '\n' ∉ t) (hne : t ≠ []) : lines t = [t] := by
  induction t with
  | nil => exact absurd rfl hne
  | cons c t ih =>
    have hc : c ≠ '\n' := fun e => h (by simp [e])
    rw [lines_cons, if_neg hc]
    cases t with
    | nil => rfl
    | cons d t => rw [ih (fun hd => h (by simp [hd])) (by simp)]

/-- **Lines that are joined are split again**, whether the last one is ended or not. -/
theorem lines_join {l : Text} {ls : List Text} (h : ∀ m ∈ l :: ls, '\n' ∉ m ∧ m ≠ [])
    (ended : Bool) :
    lines (join ['\n'] (l :: ls) ++ if ended then ['\n'] else []) = l :: ls := by
  induction ls generalizing l with
  | nil =>
    obtain ⟨hl, hne⟩ := h l (by simp)
    cases ended with
    | false => simpa [join] using lines_of_not_mem hl hne
    | true => simpa [join, lines] using lines_append_cons hl []
  | cons l' ls ih =>
    obtain ⟨hl, -⟩ := h l (by simp)
    have hrest := ih fun m hm => h m (List.mem_cons_of_mem l hm)
    have hjoin : join ['\n'] (l :: l' :: ls) = l ++ '\n' :: join ['\n'] (l' :: ls) := by
      simp [join]
    rw [hjoin, List.append_assoc, List.cons_append, lines_append_cons hl, hrest]

/-- A text is one line that is not ended, or has a first line that is. -/
theorem line_induction {motive : Text → Prop} (last : ∀ t, '\n' ∉ t → motive t)
    (ended : ∀ l t, '\n' ∉ l → motive t → motive (l ++ '\n' :: t)) (t : Text) : motive t := by
  induction hn : t.length using Nat.strong_induction_on generalizing t with
  | _ n ih =>
    by_cases hmem : '\n' ∈ t
    · obtain ⟨l, rest, rfl, hl⟩ := List.eq_append_cons_of_mem hmem
      refine ended l rest hl (ih rest.length ?_ rest rfl)
      simp only [List.length_append, List.length_cons] at hn
      omega
    · exact last t hmem

/-- **A text is split at the end of any of its lines.** -/
theorem lines_append_lineFeed (t u : Text) :
    lines (t ++ '\n' :: u) = lines (t ++ ['\n']) ++ lines u := by
  induction t using line_induction with
  | last t ht => rw [lines_append_cons ht, lines_append_cons ht]; rfl
  | ended l t hl ih =>
    simp only [List.append_assoc, List.cons_append, lines_append_cons hl, ih]

/-- A line feed at the end ends the last line, or is an empty line of its own. -/
theorem lines_lineFeed (t : Text) :
    lines (t ++ ['\n']) = lines t ∨ lines (t ++ ['\n']) = lines t ++ [[]] := by
  induction t using line_induction with
  | last t ht =>
    rw [lines_append_cons ht]
    by_cases hne : t = []
    · exact Or.inr (by simp [hne, lines])
    · exact Or.inl (by rw [lines_of_not_mem ht hne]; rfl)
  | ended l t hl ih =>
    rw [List.append_assoc, List.cons_append, lines_append_cons hl, lines_append_cons hl]
    rcases ih with ih | ih
    · exact Or.inl (by rw [ih])
    · exact Or.inr (by rw [ih]; rfl)

/-- A text whose last line is ended has a line for each line feed. -/
theorem length_lines_lineFeed (t : Text) :
    (lines (t ++ ['\n'])).length = 1 + t.count '\n' := by
  induction t using line_induction with
  | last t ht =>
    rw [lines_append_cons ht, List.count_eq_zero.mpr ht]
    rfl
  | ended l t hl ih =>
    simp only [List.append_assoc, List.cons_append, lines_append_cons hl, List.length_cons, ih,
      List.count_append, List.count_eq_zero.mpr hl, List.count_cons_self]
    omega

theorem mem_of_mem_lines {l : Text} (hl : l ∈ lines t) (hc : c ∈ l) : c ∈ t := by
  induction t using line_induction with
  | last t ht =>
    by_cases hne : t = []
    · simp [hne, lines] at hl
    · rw [lines_of_not_mem ht hne, List.mem_singleton] at hl
      rwa [← hl]
  | ended m t hm ih =>
    rw [lines_append_cons hm] at hl
    rcases List.mem_cons.mp hl with rfl | hl
    · simp [hc]
    · simp [ih hl]

/-- Every character but a line feed stands in a line. -/
theorem exists_mem_lines (hc : c ∈ t) (hne : c ≠ '\n') : ∃ l ∈ lines t, c ∈ l := by
  induction t using line_induction with
  | last t ht => exact ⟨t, by rw [lines_of_not_mem ht (List.ne_nil_of_mem hc)]; simp, hc⟩
  | ended m t hm ih =>
    rw [lines_append_cons hm]
    rw [List.mem_append, List.mem_cons] at hc
    rcases hc with hc | rfl | hc
    · exact ⟨m, by simp, hc⟩
    · exact absurd rfl hne
    · obtain ⟨l, hl, hcl⟩ := ih hc
      exact ⟨l, by simp [hl], hcl⟩

end Lector.Text
