import Lector.Proofs.Pattern.Literal
import Lector.Proofs.Rule.Printing

/-!
# Literal rules as rules with patterns

A literal rule replaces the occurrences of a text, and a rule with a pattern what the pattern
matches. A text that is escaped is a pattern whose matches, found one after another, are the
occurrences at which the text is split, and a replacement with its backslashes doubled is put in
their place as it is. So every literal rule can be written with a pattern.

## Main definitions

* `Pattern.Matcher.literal`: the matcher of a text
* `Pattern.Match.literal`: the match of a text at a position

## Main results

* `Pattern.findAll_literal`: the matches of a text are where it is split
* `Rule.Operation.replace?_escape`: a literal rule and the rule with its escaped text do the same in
  every text
-/

namespace Lector

namespace Pattern

variable {s t : Text}

/-- The match of a text at a position. -/
def Match.literal (s : Text) (position : Nat) : Match := ⟨⟨position, position + s.length⟩, []⟩

/-- The matcher of a text. -/
def Matcher.literal (s : Text) : Matcher :=
  ⟨.plain (Program.literal s), { count := 1, names := [] }⟩

/-- An escaped text is made ready as the matcher of the text. -/
theorem Matcher.compile?_escape (hs : s ≠ [])
    (hw : (Node.literal s).weight ≤ Plain.weightLimit) :
    Matcher.compile? (escape s) = some (literal s) := by
  have hcount : (Node.literal s).groupCount = 1 := by
    rw [Node.groupCount, Node.groups_literal]
    rfl
  have hnames : (Node.literal s).names = [] := by
    rw [Node.names, Node.groups_literal]
    rfl
  unfold compile?
  simp only [translate_escape, Plain.compile?_escape hs hw, ofNode, literal, hcount, hnames,
    Program.ofNode_literal hs]

/-- A search finds the first occurrence behind the cursor. -/
theorem Matcher.search_literal (hs : s ≠ []) (subject : Extended.Subject) (c : Cursor) :
    (literal s).search subject c =
      .ok ((Text.find? s c.rest).map fun n => .literal s (c.position + n)) := by
  simp only [search, literal, Program.search_literal hs]
  cases Text.find? s c.rest <;> rfl

/-- A cursor goes on behind the text in front of it. -/
theorem Cursor.exists_forward? (a b : Text) (before : Option Char) (position : Nat) :
    ∃ last, Cursor.forward? a.length ⟨before, position, a ++ b⟩ =
      some ⟨last, position + a.length, b⟩ := by
  induction a generalizing before position with
  | nil => exact ⟨before, rfl⟩
  | cons c a ih =>
    obtain ⟨last, hlast⟩ := ih (some c) (position + 1)
    refine ⟨last, hlast.trans ?_⟩
    rw [List.length_cons, Nat.add_right_comm, Nat.add_assoc]

section FindAll

/-- Behind a match that is not empty the search goes on where the match ends. -/
theorem findAll_of_match {search : Cursor → Except Fault (Option Match)} {last : Option Nat}
    {c d : Cursor} {m : Match} (h : search c = .ok (some m)) (hm : m.whole.start < m.whole.stop)
    (hd : c.forward? (max 1 (m.whole.stop - c.position)) = some d) :
    findAll search last c =
      { findAll search (some m.whole.stop) d with
        found := m :: (findAll search (some m.whole.stop) d).found } := by
  have hnext : (if m.whole.start == m.whole.stop then m.whole.stop + 1 else m.whole.stop) =
      m.whole.stop :=
    if_neg (by simpa using Nat.ne_of_lt hm)
  have hskipped : (m.whole.start == m.whole.stop && last == some m.whole.stop) = false := by
    simp [Nat.ne_of_lt hm]
  rw [findAll]
  simp only [h, hskipped, Bool.false_eq_true, if_false]
  rw [← hnext] at hd
  split
  · next hnone => cases hnone.symm.trans hd
  · next e he =>
    obtain rfl : e = d := Option.some.inj (he.symm.trans hd)
    rfl

variable (subject : Extended.Subject) (last : Option Nat) (before : Option Char) {position : Nat}

theorem findAll_literal_none (hs : s ≠ []) (h : Text.find? s t = none) :
    findAll ((Matcher.literal s).search subject) last ⟨before, position, t⟩ = ⟨[], none⟩ := by
  rw [findAll]
  simp [Matcher.search_literal hs, h]

/-- Behind an occurrence the search goes on with what follows it. -/
theorem findAll_literal_cons (hs : s ≠ []) (position : Nat) {a b : Text}
    (h : Text.find? s (a ++ s ++ b) = some a.length) :
    ∃ c, findAll ((Matcher.literal s).search subject) last ⟨before, position, a ++ s ++ b⟩ =
      let start := position + a.length
      let rest := findAll ((Matcher.literal s).search subject) (some (start + s.length))
        ⟨c, start + s.length, b⟩
      { rest with found := .literal s start :: rest.found } := by
  have hlength : 0 < s.length := List.length_pos_iff.mpr hs
  obtain ⟨c, hc⟩ := Cursor.exists_forward? (a ++ s) b before position
  rw [List.length_append, ← Nat.add_assoc] at hc
  refine ⟨c, findAll_of_match (m := .literal s (position + a.length)) ?_ ?_ ?_⟩
  · rw [Matcher.search_literal hs, h]
    rfl
  · show position + a.length < position + a.length + s.length
    omega
  · have hnext : max 1 (position + a.length + s.length - position) = a.length + s.length := by
      omega
    exact (congrArg (Cursor.forward? · _) hnext).trans hc

/-- **The matches of a text are where it is split**: they lie between the pieces, and with another
text in their place the pieces are joined by it. `u` is the whole text, of which `t` is the part
behind the cursor. -/
theorem findAll_literal (hs : s ≠ []) {t u : Text} (r : Text) (hu : u.drop position = t) :
    (findAll ((Matcher.literal s).search subject) last ⟨before, position, t⟩).fault = none ∧
      (findAll ((Matcher.literal s).search subject) last ⟨before, position, t⟩).found.length + 1 =
        (Text.splitOn s t).length ∧
      Rule.splice u (fun _ => r) position
          (findAll ((Matcher.literal s).search subject) last ⟨before, position, t⟩).found =
        Text.join r (Text.splitOn s t) := by
  -- by the length of what is behind the cursor, which an occurrence shortens
  induction hn : t.length using Nat.strong_induction_on generalizing t last before position with
  | _ n ih =>
    cases hfind : Text.find? s t with
    | none =>
      rw [findAll_literal_none _ _ _ hs hfind, Text.splitOn_of_find?_eq_none hfind]
      exact ⟨rfl, rfl, hu⟩
    | some k =>
      obtain ⟨a, b, rfl, rfl, hsplit⟩ := Text.splitOn_of_find? hs hfind
      obtain ⟨c, hc⟩ := findAll_literal_cons subject last before hs position hfind
      have hshorter : b.length < n := by
        have := List.length_pos_iff.mpr hs
        simp only [List.length_append] at hn
        omega
      have hdrop : u.drop (position + a.length + s.length) = b := by
        rw [Nat.add_assoc, ← List.drop_drop, hu, ← List.length_append, List.drop_left]
      obtain ⟨hfault, hcount, hjoin⟩ :=
        ih _ hshorter (some (position + a.length + s.length)) c hdrop rfl
      rw [hc, hsplit]
      refine ⟨hfault, by simp [hcount], ?_⟩
      rw [Text.join_cons_of_ne_nil _ _ (Text.splitOn_ne_nil hs b), ← hjoin, Rule.splice, hu]
      simp [Match.literal]

end FindAll

end Pattern

namespace Rule.Operation

open Pattern

variable {s : Text}

theorem make_literal (hs : s ≠ []) (r : Text) (comment : Option Text) :
    make s r .literal comment = .ok ⟨s, r, comment, .literal⟩ := by
  simp [make, makeAction, hs]

theorem make_escape (hs : s ≠ []) (hw : (Node.literal s).weight ≤ Plain.weightLimit) (r : Text)
    (comment : Option Text) :
    make (escape s) (Template.quote r) .regex comment =
      .ok ⟨escape s, Template.quote r, comment, .regex (.literal s) (.merge [.text r])⟩ := by
  have hescape : escape s ≠ [] := by
    have := Plain.length_le_length_escape s
    have := List.length_pos_iff.mpr hs
    exact List.ne_nil_of_length_pos (by omega)
  simp [make, makeAction, hescape, Matcher.compile?_escape hs hw, Template.parse_quote]

theorem replaceRun_literal (hs : s ≠ []) (r t : Text) :
    replaceRun t (.merge [.text r]) ((Matcher.literal s).run t) = .ok (Text.replaced? s r t) := by
  have hexpand : (fun m => Template.expand t m (.merge [.text r])) = fun _ => r :=
    funext fun m => Template.expand_merge_text t m r
  obtain ⟨hfault, hcount, hjoin⟩ := findAll_literal (.ofText t) none none hs r
    (List.drop_zero (l := t))
  unfold Matcher.run Cursor.start
  generalize findAll _ none ⟨none, 0, t⟩ = run at hfault hcount hjoin ⊢
  obtain ⟨found, fault⟩ := run
  obtain rfl : fault = none := hfault
  rw [Text.replaced?, ← hjoin, ← hcount, replaceRun, hexpand]
  cases found <;> simp

theorem replace?_regex_literal (hs : s ≠ []) (p q r : Text) (comment : Option Text) (t : Text) :
    replace? ⟨p, q, comment, .regex (.literal s) (.merge [.text r])⟩ t =
      .ok (Text.replaced? s r t) := by
  simp only [replace?, replaceRun_literal hs r t]

theorem replace?_literal (hs : s ≠ []) (r : Text) (comment : Option Text) (t : Text) :
    replace? ⟨s, r, comment, .literal⟩ t = .ok (Text.replaced? s r t) := by
  obtain ⟨piece, pieces, hsplit⟩ := List.exists_cons_of_ne_nil (Text.splitOn_ne_nil hs t)
  cases pieces <;> simp [replace?, Text.replaced?, hsplit]

/-- **A literal rule and the rule with its escaped text do the same**: both can be made, and in
every text they replace the same, or find nothing to replace. The bound on the length is that of
patterns. -/
theorem replace?_escape (hs : s ≠ [])
    (hw : 32 * (s.map fun c => Node.utf8Length c.toNat).sum ≤ Plain.weightLimit) (r : Text)
    (c d : Option Text) :
    ∃ a b, make (escape s) (Template.quote r) .regex c = .ok a ∧ make s r .literal d = .ok b ∧
      ∀ t, a.replace? t = .ok (Text.replaced? s r t) ∧ b.replace? t = .ok (Text.replaced? s r t) ∧
        a.apply t = b.apply t := by
  rw [← Node.weight_literal hs] at hw
  refine ⟨_, _, make_escape hs hw r c, make_literal hs r d, fun t => ?_⟩
  have hregex := replace?_regex_literal hs (escape s) (Template.quote r) r c t
  have hliteral := replace?_literal hs r d t
  exact ⟨hregex, hliteral, by rw [apply, apply, hregex, hliteral]⟩

/-- A search that ends with `\\Z` and has a dot, with a replacement like a reference. -/
theorem replace?_escape_like_reference :
    ∃ a b, make "a\\.\\\\Z".toList "$1\\\\1".toList .regex none = .ok a ∧
      make "a.\\Z".toList "$1\\1".toList .literal none = .ok b ∧
      a.replace? "a.\\Zxa.\\Z".toList = .ok (some "$1\\1x$1\\1".toList) ∧
      b.replace? "a.\\Zxa.\\Z".toList = .ok (some "$1\\1x$1\\1".toList) ∧
      a.replace? "ab\\Z".toList = .ok none := by
  obtain ⟨a, b, ha, hb, hsame⟩ := replace?_escape (s := "a.\\Z".toList) (by decide) (by decide)
    "$1\\1".toList none none
  exact ⟨a, b, ha, hb, (hsame _).1, (hsame _).2.1, (hsame _).1⟩

end Rule.Operation

end Lector
