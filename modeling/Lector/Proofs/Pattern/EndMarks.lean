import Mathlib.Algebra.Ring.Parity
import Mathlib.Data.List.DropRight
import Mathlib.Data.List.Infix
import Lector.Pattern.Matcher

/-!
# Marks for the end of the text

Before a pattern is read, `\z` is put in the place of `\Z`. This is done in one pass from left to
right, in which a backslash takes the character behind it along. Whether a `Z` is a mark so depends
on all that stands in front of it. Here it is said at the place itself: a `Z` is a mark if the run
of backslashes right in front of it is of odd length, whatever precedes the run.

## Main definitions

* `backslashes`: how many backslashes a text ends with
* `IsEndMark`: a mark for the end of the text stands at a position
* `translateMarked`: the pass is left out where `\Z` is nowhere to be seen

## Main results

* `translate_eq_mapIdx`: what stands in front of a character decides what becomes of it
* `translate_translate`: the pass leaves nothing for a second one
* `translate_endMarks`: marks are replaced, and nothing else
-/

namespace Lector.Pattern

variable {p u : Text} {i : Nat}

/-- How many backslashes a text ends with. -/
def backslashes (t : Text) : Nat := (t.rtakeWhile (· == '\\')).length

/-- A mark for the end of the text stands at a position. -/
def IsEndMark (p : Text) (i : Nat) : Prop := p[i]? = some 'Z' ∧ Odd (backslashes (p.take i))

/-- The pattern with its marks replaced. If `\Z` does not occur, it is not gone through at all. -/
def translateMarked (p : Text) : Text := if ['\\', 'Z'] <:+: p then translate p else p

/-! ## The pass, seen from each place -/

theorem backslashes_snoc (t : Text) (c : Char) :
    backslashes (t ++ [c]) = if c = '\\' then backslashes t + 1 else 0 := by
  unfold backslashes
  rw [List.rtakeWhile_concat]
  split <;> simp_all

/-- What becomes of a character behind a text. -/
def replaceBehind (u : Text) (c : Char) : Char :=
  if c = 'Z' ∧ Odd (backslashes u) then 'z' else c

theorem replaceBehind_of_even (hu : Even (backslashes u)) (c : Char) : replaceBehind u c = c :=
  if_neg fun h => Nat.not_odd_iff_even.mpr hu h.2

theorem replaceBehind_of_odd (hu : Odd (backslashes u)) (c : Char) :
    replaceBehind u c = if c = 'Z' then 'z' else c := by
  simp only [replaceBehind, hu, and_true]

/-- What becomes of a text behind another. -/
def replaceFrom (u t : Text) : Text := t.mapIdx fun i c => replaceBehind (u ++ t.take i) c

theorem replaceFrom_cons (u : Text) (c : Char) (t : Text) :
    replaceFrom u (c :: t) = replaceBehind u c :: replaceFrom (u ++ [c]) t := by
  simp [replaceFrom, List.mapIdx_cons]

/-- Where no backslash waits for its character, the pass does what is to be done from there on. -/
theorem translate_eq_replaceFrom (hu : Even (backslashes u)) (t : Text) :
    translate t = replaceFrom u t := by
  -- The pass goes on by one character or by two, and the run in front of it stays of even length.
  induction t using translate.induct generalizing u with
  | case1 c t ih =>
    have hodd : Odd (backslashes (u ++ ['\\'])) := by
      rw [backslashes_snoc, if_pos rfl]
      exact hu.add_one
    have heven : Even (backslashes (u ++ ['\\'] ++ [c])) := by
      rw [backslashes_snoc]
      split
      · exact hodd.add_one
      · exact Even.zero
    rw [translate, replaceFrom_cons, replaceFrom_cons, replaceBehind_of_even hu,
      replaceBehind_of_odd hodd, ih heven]
  | case2 c t hpair ih =>
    rw [translate.eq_2 _ _ hpair, replaceFrom_cons, replaceBehind_of_even hu]
    cases t with
    | nil => rfl
    | cons d t =>
      have hc : c ≠ '\\' := fun hc => hpair d t hc rfl
      have heven : Even (backslashes (u ++ [c])) := by
        rw [backslashes_snoc, if_neg hc]
        exact Even.zero
      rw [ih heven]
  | case3 => rfl

/-- **What stands in front of a character decides what becomes of it.** -/
theorem translate_eq_mapIdx (p : Text) :
    translate p = p.mapIdx fun i c => replaceBehind (p.take i) c :=
  translate_eq_replaceFrom (u := []) Even.zero p

theorem getElem?_translate (p : Text) (i : Nat) :
    (translate p)[i]? = p[i]?.map (replaceBehind (p.take i)) := by
  rw [translate_eq_mapIdx, List.getElem?_mapIdx]

/-- A mark is replaced. -/
theorem IsEndMark.getElem?_translate (h : IsEndMark p i) : (translate p)[i]? = some 'z' := by
  obtain ⟨hZ, hodd⟩ := h
  rw [Pattern.getElem?_translate, hZ, Option.map_some, replaceBehind_of_odd hodd, if_pos rfl]

/-- What is no mark stays. -/
theorem getElem?_translate_of_not (h : ¬ IsEndMark p i) : (translate p)[i]? = p[i]? := by
  rw [getElem?_translate]
  cases hc : p[i]? with
  | none => rfl
  | some c =>
    refine congrArg some (if_neg ?_)
    rintro ⟨rfl, hodd⟩
    exact h ⟨hc, hodd⟩

/-! ## Passes that do nothing -/

/-- Where `\Z` does not occur, the pass changes nothing. -/
theorem translate_eq_self (h : ¬ ['\\', 'Z'] <:+: p) : translate p = p := by
  induction p using translate.induct with
  | case1 c t ih =>
    have hc : c ≠ 'Z' := by
      rintro rfl
      exact h ⟨[], t, rfl⟩
    rw [translate, if_neg hc, ih fun ht => h (ht.trans (List.suffix_append ['\\', c] t).isInfix)]
  | case2 c t hpair ih =>
    rw [translate.eq_2 _ _ hpair, ih fun ht => h (ht.trans (List.suffix_cons c t).isInfix)]
  | case3 => rfl

/-- **The pass leaves nothing for a second one.** -/
theorem translate_translate (p : Text) : translate (translate p) = translate p := by
  induction p using translate.induct with
  | case1 c t ih =>
    have hc : (if c = 'Z' then 'z' else c) ≠ 'Z' := by
      split
      · decide
      · assumption
    rw [translate, translate, if_neg hc, ih]
  | case2 c t hpair ih =>
    -- A backslash without a character behind it stands at the end, and still does after the pass.
    have hpair' (d : Char) (v : Text) (hc : c = '\\') (hv : translate t = d :: v) : False := by
      cases t with
      | nil => cases hv
      | cons d t => exact hpair d t hc rfl
    rw [translate.eq_2 _ _ hpair, translate.eq_2 _ _ hpair', ih]
  | case3 => rfl

theorem translateMarked_eq (p : Text) : translateMarked p = translate p := by
  unfold translateMarked
  split
  next => rfl
  next h => exact (translate_eq_self h).symm

/-- **Marks for the end of the text are replaced, and nothing else.** A pattern keeps its length,
and differs just at its marks, where it gets a `z`. The pass may be left out where `\Z` does not
occur, and a second pass changes nothing. -/
theorem translate_endMarks (p : Text) :
    (translate p).length = p.length ∧
      (∀ i, (translate p)[i]? ≠ p[i]? ↔ IsEndMark p i) ∧
      (∀ i, IsEndMark p i → (translate p)[i]? = some 'z') ∧
      translateMarked p = translate p ∧ translate (translate p) = translate p := by
  refine ⟨?_, fun i => ⟨?_, fun h => ?_⟩, fun i h => h.getElem?_translate, translateMarked_eq p,
    translate_translate p⟩
  · rw [translate_eq_mapIdx, List.length_mapIdx]
  · exact fun hne => Classical.byContradiction fun h => hne (getElem?_translate_of_not h)
  · rw [h.getElem?_translate, h.1]
    decide

/-- Of three runs in front of a `Z` the second is of even length. -/
example : translate "\\Z\\\\Z\\\\\\Z\\".toList = "\\z\\\\Z\\\\\\z\\".toList := by decide

end Lector.Pattern
