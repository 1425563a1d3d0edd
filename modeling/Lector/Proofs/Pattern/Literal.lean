import Mathlib
import Lector.Proofs.Text.Occurrences

/-!
# Patterns that are plain texts

A text whose characters with a meaning of their own are escaped is a pattern that matches the text
and nothing else. The program of such a pattern has no splits, so that its threads differ only in
where they started, and the thread that started first is the one that has come furthest. A thread is
dropped at the first character that is not that of the text, and the first thread that has matched
the whole text ends the search. So a search finds the first occurrence.

## Main definitions

* `escape`: a text as it is written in a pattern that matches it
* `Node.literal`, `Program.literal`: the pattern that a text is, and its program
* `Program.Starts`: what is known of the starts of the threads at a position
* `Program.firstStart`: the start of the match that the threads will find

## Main results

* `Plain.compile?_escape`: an escaped text is read as the pattern that the text is
* `Program.search_literal`: a search finds the first occurrence of the text
-/

namespace Lector

/-- The set with one member holds that member alone. -/
theorem CharSet.contains_singleton (c d : Char) : (singleton d).contains c = decide (d = c) := by
  have hempty (lo : Nat) : searchRanges #[(d.toNat, d.toNat)] c.toNat lo lo = false := by
    rw [searchRanges, if_neg (Nat.lt_irrefl lo)]
  have hsearch : searchRanges #[(d.toNat, d.toNat)] c.toNat 0 1 =
      if c.toNat < d.toNat then false else if d.toNat < c.toNat then false else true := by
    rw [searchRanges, if_pos Nat.one_pos]
    simp only [List.getElem?_toArray, Nat.reduceAdd, Nat.reduceDiv, hempty]
    rfl
  change searchRanges #[(d.toNat, d.toNat)] c.toNat 0 1 = _
  rw [hsearch]
  by_cases h : d = c
  · simp [h]
  · have hne : d.toNat ≠ c.toNat := fun he => h (Char.toNat_inj.mp he)
    rcases Nat.lt_or_gt_of_ne hne with hlt | hgt
    · simp [h, hlt]
    · simp [h, hgt]

namespace Pattern

/-- A character as it is written in a pattern that matches it. -/
def escapeChar (c : Char) : Text := if c ∈ Plain.metaChars then ['\\', c] else [c]

/-- A text as it is written in a pattern that matches it: the characters that have a meaning in
patterns stand behind backslashes. -/
def escape (s : Text) : Text := s.flatMap escapeChar

/-- The pattern that a text is. -/
def Node.literal (s : Text) : Node := Node.concat (s.map fun c => .chars (.singleton c))

@[simp] theorem escape_nil : escape [] = [] := rfl

@[simp] theorem escape_cons (c : Char) (s : Text) : escape (c :: s) = escapeChar c ++ escape s :=
  rfl

/-! ## Reading -/

namespace Plain

theorem metaChars_eq : metaChars = ['\\', '.', '+', '*', '?', '(', ')', '|', '[', ']', '\x7b',
    '\x7d', '^', '$', '#', '&', '-', '~'] := by
  decide

/-- The part that a character is. -/
def charPart (c : Char) : Part := ⟨.chars (.singleton c), 0, true⟩

/-- A character behind a backslash is read as itself. -/
theorem readEscape_of_mem {c : Char} (h : c ∈ metaChars) (f : Flags) (t : Text) :
    readEscape f (c :: t) = some (.char c, t) := by
  have hescapable : isEscapable c = true := by simp [isEscapable, h]
  rw [metaChars_eq] at h
  simp only [List.mem_cons, List.not_mem_nil, or_false] at h
  rcases h with rfl | rfl | rfl | rfl | rfl | rfl | rfl | rfl | rfl | rfl | rfl | rfl | rfl | rfl |
    rfl | rfl | rfl | rfl <;> simp [readEscape, hescapable]

/-- An escaped character is read as a part that is the character. -/
theorem readPart_escapeChar (r : Reading) (hr : r.flags = {}) (c : Char) (t : Text) :
    readPart r (escapeChar c ++ t) = some (r.push (charPart c), t) := by
  have hchar : r.flags.char c = .singleton c := by rw [hr]; rfl
  unfold escapeChar
  split
  · next hc => simp [readPart, readEscape_of_mem hc, hchar, charPart]
  · next hc =>
    rw [metaChars_eq] at hc
    simp only [List.mem_cons, List.not_mem_nil, or_false, not_or] at hc
    simp [readPart, hc, hchar, charPart]

theorem escapeChar_ne_nil (c : Char) : escapeChar c ≠ [] := by
  unfold escapeChar
  split <;> simp

/-- An escaped text is read as a part for each of its characters. -/
theorem readParts_escape {rounds : Nat} {s : Text} (h : s.length ≤ rounds) (r : Reading)
    (hr : r.flags = {}) :
    readParts rounds r (escape s) =
      some { r with parts := (s.map charPart).reverse ++ r.parts } := by
  -- without flags nothing is skipped between the characters, and each round reads one of them
  have hskip (t : Text) : r.flags.skip t = t := by
    rw [hr]
    rfl
  induction s generalizing rounds r with
  | nil => cases rounds <;> simp [readParts, hskip]
  | cons c s ih =>
    obtain ⟨rounds, rfl⟩ : ∃ n, rounds = n + 1 := ⟨rounds - 1, by simp at h; omega⟩
    have hrest := ih (by simpa using h) (r.push (charPart c)) hr fun t => by
      rw [show (r.push (charPart c)).flags = r.flags from rfl, hskip]
    obtain ⟨d, t, hd⟩ := List.exists_cons_of_ne_nil (escapeChar_ne_nil c)
    have hpart := readPart_escapeChar r hr c (escape s)
    rw [hd, List.cons_append] at hpart
    rw [escape_cons, hd, List.cons_append, readParts, hskip]
    simp only [hpart, Option.bind_eq_bind, Option.bind_some, hrest]
    simp [Reading.push]

/-- A sequence of parts that do not nest is the sequence of their meanings, and nests little. -/
theorem sequencePart_of_height {ps : List Part} (hne : ps ≠ []) (h : ∀ p ∈ ps, p.height = 0) :
    (sequencePart ps).node = Node.concat (ps.reverse.map Part.node) ∧
      (sequencePart ps).height ≤ 1 := by
  match ps, hne with
  | [p], _ => exact ⟨rfl, by simp [sequencePart, h p (by simp)]⟩
  | p :: q :: ps, _ =>
    have hfold (qs : List Part) (hqs : ∀ p ∈ qs, p.height = 0) :
        qs.foldl (fun n p => max n p.height) 0 = 0 := by
      induction qs with
      | nil => rfl
      | cons q qs ih => simp_all
    exact ⟨rfl, by simp only [sequencePart, hfold _ h]; decide⟩

theorem length_le_length_escape (s : Text) : s.length ≤ (escape s).length := by
  induction s with
  | nil => simp
  | cons c s ih =>
    have hc := List.length_pos_iff.mpr (escapeChar_ne_nil c)
    simp only [escape_cons, List.length_cons, List.length_append]
    omega

/-- An escaped text is the pattern that the text is. -/
theorem readNode_escape {s : Text} (hs : s ≠ []) : readNode (escape s) = some (.literal s) := by
  obtain ⟨hnode, hheight⟩ : (sequencePart (s.map charPart).reverse).node = .literal s ∧
      (sequencePart (s.map charPart).reverse).height ≤ 1 := by
    have hne : (s.map charPart).reverse ≠ [] := by simpa using hs
    have hseq := sequencePart_of_height hne (by simp [charPart])
    rw [List.reverse_reverse, List.map_map] at hseq
    exact hseq
  have hlimit : (sequencePart (s.map charPart).reverse).height ≤ heightLimit :=
    Nat.le_trans hheight (by decide)
  unfold readNode
  rw [readParts_escape (length_le_length_escape s) {} rfl]
  simp [Reading.body, choicePart, hnode, hlimit]

/-- **An escaped text is a pattern that is within the limits if it is not too long.** -/
theorem compile?_escape {s : Text} (hs : s ≠ []) (hw : (Node.literal s).weight ≤ weightLimit) :
    compile? (escape s) = some (.literal s) := by
  simp [compile?, readNode_escape hs, hw]

end Plain

/-- There is no `\Z` in an escaped text. -/
theorem translate_escape (s : Text) : translate (escape s) = escape s := by
  induction s with
  | nil => rfl
  | cons c s ih =>
    rw [escape_cons, escapeChar]
    split
    · next hc =>
      have hZ : c ≠ 'Z' := by
        rintro rfl
        exact absurd hc (by decide)
      simp [translate, hZ, ih]
    · next hc =>
      have hb : c ≠ '\\' := by
        rintro rfl
        exact hc (by decide)
      rw [List.singleton_append, translate, ih]
      exact fun d t h _ => hb h

/-! ## The program -/

namespace Node

theorem literal_singleton (c : Char) : literal [c] = .chars (.singleton c) := rfl

theorem literal_cons_cons (c d : Char) (s : Text) :
    literal (c :: d :: s) = .seq (.chars (.singleton c)) (literal (d :: s)) := rfl

theorem code_literal {s : Text} (hs : s ≠ []) (address : Nat) :
    (literal s).code address = s.map fun c => .take (.singleton c) := by
  induction s generalizing address with
  | nil => exact absurd rfl hs
  | cons c s ih =>
    cases s with
    | nil => rfl
    | cons d s =>
      rw [literal_cons_cons, code, ih (by simp)]
      rfl

theorem groups_literal (s : Text) : (literal s).groups = [] := by
  induction s with
  | nil => rfl
  | cons c s ih =>
    cases s with
    | nil => rfl
    | cons d s =>
      rw [literal_cons_cons, groups, ih]
      rfl

/-- The room that a text takes is in proportion to its bytes. -/
theorem weight_literal {s : Text} (hs : s ≠ []) :
    (literal s).weight = 32 * (s.map fun c => utf8Length c.toNat).sum := by
  induction s with
  | nil => exact absurd rfl hs
  | cons c s ih =>
    have hchar : setWeight (.singleton c) = 32 * utf8Length c.toNat := by
      simp [setWeight, CharSet.singleton]
    cases s with
    | nil => simp [literal_singleton, weight, hchar]
    | cons d s =>
      rw [literal_cons_cons, weight, ih (by simp), weight, hchar, ← Nat.mul_add]
      rfl

end Node

namespace Program

/-- The program that looks for a text. -/
def literal (s : Text) : Program :=
  ⟨(.save 0 :: (s.map (fun c => .take (.singleton c)) ++ [.save 1, .accept])).toArray, 2⟩

theorem ofNode_literal {s : Text} (hs : s ≠ []) : ofNode (.literal s) = literal s := by
  simp [ofNode, literal, Node.groupCount, Node.groups_literal, Node.code_literal hs]

section Searching

variable {s : Text} {p : Program} {before after : Option Char} {position address : Nat}
  {seen : Array Bool} {ready : List Waiting} {slots : Slots} {rest : List Thread}

theorem lt_size_of_unseen (h : seen[address]? = some false) : address < seen.size :=
  (Array.getElem?_eq_some_iff.mp h).1

/-- A thread at an address where none has been goes on by the instruction there. -/
theorem spread_take (h : seen[address]? = some false) {set : CharSet}
    (hi : p.instrs[address]? = some (.take set)) :
    p.spread before after position seen ready (⟨address, slots⟩ :: rest) =
      p.spread before after position (seen.set address true (lt_size_of_unseen h))
        (⟨set, ⟨address + 1, slots⟩⟩ :: ready) rest := by
  rw [spread, dif_pos (Array.getElem?_eq_some_iff.mp h)]
  simp only [hi]

theorem spread_save (h : seen[address]? = some false) {slot : Nat}
    (hi : p.instrs[address]? = some (.save slot)) :
    p.spread before after position seen ready (⟨address, slots⟩ :: rest) =
      p.spread before after position (seen.set address true (lt_size_of_unseen h)) ready
        (⟨address + 1, slots.setIfInBounds slot (some position)⟩ :: rest) := by
  rw [spread, dif_pos (Array.getElem?_eq_some_iff.mp h)]
  simp only [hi]

theorem spread_accept (h : seen[address]? = some false)
    (hi : p.instrs[address]? = some .accept) :
    p.spread before after position seen ready (⟨address, slots⟩ :: rest) =
      (ready.reverse, some slots) := by
  rw [spread, dif_pos (Array.getElem?_eq_some_iff.mp h)]
  simp only [hi]

end Searching

/-! ## Threads that have matched some of the text -/

section Literal

variable {s : Text} {before after : Option Char} {position bound : Nat} {seen : Array Bool}
  {ready : List Waiting} {starts : List Nat}

/-- A thread that started at a position and has matched all characters since. -/
def live (position start : Nat) : Thread := ⟨position - start + 1, #[some start, none]⟩

/-- A thread that is to start. -/
def fresh : Thread := ⟨0, #[none, none]⟩

/-- A thread that waits for the character after those that it has matched. -/
def waiting (s : Text) (position start : Nat) : Waiting :=
  ⟨.singleton (s.getD (position - start) ' '), ⟨position - start + 2, #[some start, none]⟩⟩

theorem size_literal (s : Text) : (literal s).instrs.size = s.length + 3 := by
  simp [literal]

theorem literal_take {k : Nat} (hk : k < s.length) :
    (literal s).instrs[k + 1]? = some (.take (.singleton (s.getD k ' '))) := by
  simp [literal, hk, List.getElem?_append_left]

theorem literal_save : (literal s).instrs[s.length + 1]? = some (.save 1) := by
  simp [literal]

theorem literal_accept : (literal s).instrs[s.length + 2]? = some .accept := by
  simp [literal]

/-- Starts of threads in increasing order, which have matched no more than the whole text. -/
structure Starts (s : Text) (position : Nat) (starts : List Nat) : Prop where
  sorted : starts.Pairwise (· < ·)
  before : ∀ start ∈ starts, start < position
  within : ∀ start ∈ starts, position - start ≤ s.length

/-- Only the thread that started first can have matched the whole text. -/
theorem Starts.complete_or_open (h : Starts s position starts) :
    (∃ start later, starts = start :: later ∧ position - start = s.length) ∨
      ∀ start ∈ starts, position - start < s.length := by
  match starts, h with
  | [], _ => exact Or.inr (by simp)
  | start :: later, ⟨hsorted, hbefore, hwithin⟩ =>
    obtain ⟨hfirst, -⟩ := List.pairwise_cons.mp hsorted
    have hstart := hbefore start (by simp)
    rcases Nat.lt_or_eq_of_le (hwithin start (by simp)) with hlt | heq
    · right
      rintro a ha
      rcases List.mem_cons.mp ha with rfl | ha
      · exact hlt
      · have := hfirst a ha
        omega
    · exact Or.inl ⟨start, later, rfl, heq⟩

/-- Threads that have matched some of the text, and one that starts, all wait for their next
character. No thread has been at an address below `bound`. -/
theorem spread_live (hs : s ≠ []) (h : Starts s position starts)
    (hopen : ∀ start ∈ starts, position - start < s.length) (htwo : 2 ≤ bound)
    (hbound : ∀ start ∈ starts, position - start + 1 < bound)
    (hseen : ∀ a < bound, seen[a]? = some false) :
    (literal s).spread before after position seen ready (starts.map (live position) ++ [fresh]) =
      (ready.reverse ++ (starts ++ [position]).map (waiting s position), none) := by
  -- addresses fall from the front on, so no thread comes to where another has been
  induction starts generalizing seen ready bound with
  | nil =>
    have hzero := hseen 0 (by omega)
    have hone : (seen.set 0 true (lt_size_of_unseen hzero))[1]? = some false := by
      rw [Array.getElem?_set_ne _ (by decide)]
      exact hseen 1 (by omega)
    have hfirst := literal_take (List.length_pos_iff.mpr hs)
    rw [List.map_nil, List.nil_append, fresh, spread_save hzero rfl, spread_take hone hfirst,
      spread]
    simp [waiting]
  | cons start starts ih =>
    obtain ⟨hsorted, hbefore, hwithin⟩ := h
    obtain ⟨hfirst, hsorted⟩ := List.pairwise_cons.mp hsorted
    obtain ⟨hlt, hbefore⟩ := List.forall_mem_cons.mp hbefore
    obtain ⟨-, hwithin⟩ := List.forall_mem_cons.mp hwithin
    obtain ⟨hsome, hopen⟩ := List.forall_mem_cons.mp hopen
    obtain ⟨hstart, -⟩ := List.forall_mem_cons.mp hbound
    have hunseen := hseen _ hstart
    have htake := literal_take hsome
    have htwo : 2 ≤ position - start + 1 := by omega
    rw [List.map_cons, List.cons_append, live, spread_take hunseen htake]
    refine (ih ⟨hsorted, hbefore, hwithin⟩ hopen htwo ?_ ?_).trans (by simp [waiting])
    · -- the threads behind it started later, so they are at smaller addresses
      intro later hlater
      have := hfirst later hlater
      have := hbefore later hlater
      omega
    · intro a ha
      rw [Array.getElem?_set_ne _ (by omega)]
      exact hseen a (by omega)

/-- At a new position no thread has been anywhere. -/
theorem spread_open (hs : s ≠ []) (h : Starts s position starts)
    (hopen : ∀ start ∈ starts, position - start < s.length) :
    (literal s).spread before after position (Array.replicate (s.length + 3) false) []
        (starts.map (live position) ++ [fresh]) =
      ((starts ++ [position]).map (waiting s position), none) := by
  have hseen : ∀ a < s.length + 3, (Array.replicate (s.length + 3) false)[a]? = some false := by
    intro a ha
    simp [ha]
  refine (spread_live hs h hopen (by omega) ?_ hseen).trans (by simp)
  intro start hm
  have := hopen start hm
  omega

/-- A thread that has matched the whole text ends the search at once. -/
theorem spread_complete {start : Nat} {rest : List Thread} (h : position - start = s.length) :
    (literal s).spread before after position (Array.replicate (s.length + 3) false) []
      (live position start :: rest) = ([], some #[some start, some position]) := by
  have hfirst : (Array.replicate (s.length + 3) false)[s.length + 1]? = some false := by simp
  have hsecond : ((Array.replicate (s.length + 3) false).set (s.length + 1) true
      (lt_size_of_unseen hfirst))[s.length + 2]? = some false := by
    rw [Array.getElem?_set_ne _ (by omega)]
    simp
  rw [live, h, spread_save hfirst literal_save, spread_accept hsecond literal_accept]
  rfl

/-- A thread goes on with the character that it waits for. -/
theorem advance_waiting (c : Char) (starts : List Nat) :
    advance c (starts.map (waiting s position)) =
      (starts.filter fun start => s.getD (position - start) ' ' = c).map fun start =>
        ⟨position - start + 2, #[some start, none]⟩ := by
  induction starts with
  | nil => rfl
  | cons start starts ih =>
    have hadvance : advance c (waiting s position start :: starts.map (waiting s position)) =
        (if s.getD (position - start) ' ' = c then [(waiting s position start).thread] else []) ++
          advance c (starts.map (waiting s position)) := by
      unfold advance
      rw [List.filterMap_cons]
      simp only [waiting, CharSet.contains_singleton, decide_eq_true_eq]
      split <;> simp_all
    rw [List.map_cons, hadvance, ih, List.filter_cons]
    simp only [decide_eq_true_eq]
    split <;> rfl

/-- Where the text starts first: with a thread that has matched some of it, or further on. -/
def firstStart (s : Text) (position : Nat) (starts : List Nat) (t : Text) : Option Nat :=
  (starts.find? fun start => (s.drop (position - start)).isPrefixOf t) <|>
    (Text.find? s t).map (position + ·)

theorem isPrefixOf_drop_cons {c : Char} {t : Text} {k : Nat} (hk : k < s.length) :
    (s.drop k).isPrefixOf (c :: t) =
      (decide (s.getD k ' ' = c) && (s.drop (k + 1)).isPrefixOf t) := by
  rw [List.drop_eq_getElem_cons hk, List.isPrefixOf_cons_cons]
  simp only [List.getD_eq_getElem?_getD, List.getElem?_eq_getElem hk, Option.getD_some]
  rfl

/-- The threads that go on with a character. -/
def goOn (s : Text) (position : Nat) (c : Char) (starts : List Nat) : List Nat :=
  (starts ++ [position]).filter fun start => s.getD (position - start) ' ' = c

theorem Starts.goOn (h : Starts s position starts)
    (hopen : ∀ start ∈ starts, position - start < s.length) (hs : s ≠ []) (c : Char) :
    Starts s (position + 1) (goOn s position c starts) := by
  obtain ⟨hsorted, hbefore, -⟩ := h
  have hmem {start : Nat} (hm : start ∈ Program.goOn s position c starts) :
      start ∈ starts ∨ start = position := by
    simpa using (List.mem_filter.mp hm).1
  refine ⟨?_, ?_, ?_⟩
  · refine List.Pairwise.filter _ (List.pairwise_append.mpr ⟨hsorted, by simp, ?_⟩)
    simpa using hbefore
  · intro start hm
    rcases hmem hm with hm | rfl
    · have := hbefore start hm
      omega
    · omega
  · intro start hm
    have := List.length_pos_iff.mpr hs
    rcases hmem hm with hm | rfl
    · have := hopen start hm
      omega
    · omega

/-- The first start is the same one character further on. -/
theorem firstStart_goOn (h : Starts s position starts)
    (hopen : ∀ start ∈ starts, position - start < s.length) (hs : s ≠ []) (c : Char) (t : Text) :
    firstStart s (position + 1) (goOn s position c starts) t =
      firstStart s position starts (c :: t) := by
  have hfind : (goOn s position c starts).find?
        (fun start => (s.drop (position + 1 - start)).isPrefixOf t) =
      (starts ++ [position]).find? fun start =>
        (s.drop (position - start)).isPrefixOf (c :: t) := by
    rw [goOn, List.find?_filter]
    refine List.find?_congr fun start hm => ?_
    obtain ⟨hle, hlt⟩ : start ≤ position ∧ position - start < s.length := by
      rcases List.mem_append.mp hm with hm | hm
      · exact ⟨Nat.le_of_lt (h.before start hm), hopen start hm⟩
      · obtain rfl := List.mem_singleton.mp hm
        exact ⟨Nat.le_refl _, by simpa using List.length_pos_iff.mpr hs⟩
    rw [isPrefixOf_drop_cons hlt, Nat.sub_add_comm hle]
    simp only [decide_eq_true_eq, Bool.decide_and, Bool.decide_eq_true]
  unfold firstStart
  rw [hfind, List.find?_append]
  cases starts.find? fun start => (s.drop (position - start)).isPrefixOf (c :: t) with
  | some start => rfl
  | none =>
    have hshift : (position + 1 + ·) = (position + ·) ∘ (· + 1) := by
      funext n
      simp only [Function.comp_apply]
      omega
    by_cases hprefix : s.isPrefixOf (c :: t) = true
    · simp [Text.find?, hprefix]
    · simp [Text.find?, hprefix, hshift, Function.comp_def]

/-- A search ends at once with a thread that has matched the whole text. -/
theorem scan_complete {start : Nat} {later : List Nat} (h : Starts s position (start :: later))
    (hstart : position - start = s.length) (t : Text) :
    (literal s).scan false before position ((start :: later).map (live position) ++ [fresh]) none
        t =
      (firstStart s position (start :: later) t).map fun start =>
        #[some start, some (start + s.length)] := by
  have hfirst : firstStart s position (start :: later) t = some start := by
    simp [firstStart, hstart]
  have hstop : start + s.length = position := by
    have := h.before start (by simp)
    omega
  rw [hfirst, List.map_cons, List.cons_append, scan, size_literal, spread_complete hstart]
  cases t <;> simp [advance, hstop]

/-- A search goes on with the threads that have not matched the whole text. -/
theorem scan_open (hs : s ≠ []) (h : Starts s position starts)
    (hopen : ∀ start ∈ starts, position - start < s.length) (t : Text) :
    (literal s).scan false before position (starts.map (live position) ++ [fresh]) none t =
      match t with
      | [] => none
      | c :: t =>
        (literal s).scan false (some c) (position + 1)
          ((goOn s position c starts).map (live (position + 1)) ++ [fresh]) none t := by
  rw [scan, size_literal, spread_open hs h hopen]
  cases t with
  | nil => rfl
  | cons c t =>
    have hlive : advance c ((starts ++ [position]).map (waiting s position)) =
        (goOn s position c starts).map (live (position + 1)) := by
      rw [advance_waiting, goOn]
      refine List.map_congr_left fun start hm => ?_
      have hle : start ≤ position := by
        rcases List.mem_append.mp (List.mem_filter.mp hm).1 with hm | hm
        · exact Nat.le_of_lt (h.before start hm)
        · exact Nat.le_of_eq (List.mem_singleton.mp hm)
      rw [live, Nat.sub_add_comm hle]
    simp only [hlive]
    rfl

theorem firstStart_nil (hs : s ≠ []) (hopen : ∀ start ∈ starts, position - start < s.length) :
    firstStart s position starts [] = none := by
  have hnone : starts.find? (fun start => (s.drop (position - start)).isPrefixOf []) = none := by
    rw [List.find?_eq_none]
    intro start hm
    have hlt := hopen start hm
    simp only [List.isPrefixOf_iff_prefix, List.prefix_nil, List.drop_eq_nil_iff]
    omega
  simp [firstStart, hnone, Text.find?, hs]

/-- **The search keeps to the leftmost start.** -/
theorem scan_live (hs : s ≠ []) {t : Text} (h : Starts s position starts) :
    (literal s).scan false before position (starts.map (live position) ++ [fresh]) none t =
      (firstStart s position starts t).map fun start =>
        #[some start, some (start + s.length)] := by
  -- at each position the first thread has the whole text, or all threads wait for a character
  induction t generalizing before position starts with
  | nil =>
    rcases h.complete_or_open with ⟨start, later, rfl, hstart⟩ | hopen
    · exact scan_complete h hstart []
    · rw [scan_open hs h hopen, firstStart_nil hs hopen]
      rfl
  | cons c t ih =>
    rcases h.complete_or_open with ⟨start, later, rfl, hstart⟩ | hopen
    · exact scan_complete h hstart (c :: t)
    · rw [scan_open hs h hopen, ← firstStart_goOn h hopen hs]
      exact ih (h.goOn hopen hs c)

/-- **A search finds the first occurrence of the text.** -/
theorem search_literal (hs : s ≠ []) (before : Option Char) (position : Nat) (t : Text) :
    (literal s).search before position t =
      (Text.find? s t).map fun n => #[some (position + n), some (position + n + s.length)] := by
  have hstarts : Starts s position [] := ⟨.nil, by simp, by simp⟩
  refine (scan_live hs hstarts).trans ?_
  simp [firstStart, Function.comp_def]

end Literal

end Program

end Pattern

end Lector
