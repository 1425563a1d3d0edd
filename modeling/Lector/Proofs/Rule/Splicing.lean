import Mathlib
import Lector.Rule.Operation

/-!
# Replacing the matches of a pattern

A rule with a pattern goes over the matches of a text with three things in hand: what it has
written, where the last match stopped, and whether there has been a match. Before each match it
slices the text from where the last one stopped, and behind the last match to the end. The plain
engine hands over matches alone, the extended one results that may end in a fault.

This work is written down here as it is done, with slices that are only taken in range. If the
matches lie in the text one behind another, all slices are in range, and the work comes to what the
rule is defined to make of the text: each match is replaced, and what lies between the matches is
kept.

## Main definitions

* `InOrder`: matches lie in a text one behind another
* `Spliced`: a text with its matches replaced, as a relation
* `Progress`, `overMatches`, `overResults`: the work on the matches of either engine
* `Operation.work?`: the work of a rule on a text

## Main results

* `spliced_iff`: the relation holds of one text, which `splice` gives
* `overResults_map_ok`: both engines give the same for the same matches
* `overResults_eq_replaceRun`: all slices are in range, and the work is what `replaceRun` says
* `Operation.replace?_splices`: the splicing law of rules with patterns
-/

namespace Lector

/-- The part of a text between two positions. These count characters, so that each lies between two
of them; they must be in order and in the text. -/
def Text.slice? (t : Text) (start stop : Nat) : Option Text :=
  if start ≤ stop ∧ stop ≤ t.length then some ((t.drop start).take (stop - start)) else none

theorem Text.slice?_append (a b c : Text) :
    slice? (a ++ b ++ c) a.length (a.length + b.length) = some b := by
  simp [slice?]

theorem Text.slice?_append_end (a b : Text) :
    slice? (a ++ b) a.length (a ++ b).length = some b := by
  simpa using slice?_append a b []

namespace Pattern

/-- Searches that never fault are made without a fault, one after another. -/
theorem fault_findAll {search : Cursor → Except Fault (Option Match)}
    (hsearch : ∀ c fault, search c ≠ .error fault) (last : Option Nat) (c : Cursor) :
    (findAll search last c).fault = none := by
  fun_induction findAll search last c with
  | case1 last c fault hfault => exact absurd hfault (hsearch c fault)
  | case2 => rfl
  | case3 last c m hm isEmpty next skipped stop rest hskipped ih
  | case4 last c m hm isEmpty next skipped stop rest hskipped ih =>
    have hrest : rest.fault = none := by
      unfold rest
      split
      next => rfl
      next d hd => exact ih d hd
    exact hrest

/-- The plain engine hands over matches alone. -/
theorem Matcher.fault_run {matcher : Matcher} {program : Program}
    (h : matcher.engine = .plain program) (t : Text) : (matcher.run t).fault = none := by
  refine fault_findAll (fun c fault => ?_) none (Cursor.start t)
  simp [search, h]

/-- What is handed over one after another: matches, and the fault that ends the search. -/
def Run.results (run : Run) : List (Except Fault Match) :=
  run.found.map .ok ++ run.fault.toList.map .error

end Pattern

namespace Rule

open Pattern (Match Matcher Run)

variable {t before rest result : Text} {f : Match → Text} {m : Match} {ms : List Match}

/-! ## Matches in a text -/

/-- Matches lie in a text one behind another, the first of them at or behind a position. -/
def InOrder (t : Text) : Nat → List Match → Prop
  | _, [] => True
  | last, m :: ms =>
    last ≤ m.whole.start ∧ m.whole.start ≤ m.whole.stop ∧ m.whole.stop ≤ t.length ∧
      InOrder t m.whole.stop ms

instance decidableInOrder (t : Text) :
    (last : Nat) → (ms : List Match) → Decidable (InOrder t last ms)
  | _, [] => isTrue trivial
  | _, m :: ms =>
    have := decidableInOrder t m.whole.stop ms
    inferInstanceAs (Decidable (_ ∧ _ ∧ _ ∧ _))

/-- **A text with its matches replaced**, behind the text before it: what lies in front of a match
is kept, the match is replaced, and behind the last match all is kept. -/
inductive Spliced (f : Match → Text) : Text → Text → List Match → Text → Prop
  | done (before rest : Text) : Spliced f before rest [] rest
  | next {before gap matched rest result : Text} {m : Match} {ms : List Match}
      (hstart : m.whole.start = (before ++ gap).length)
      (hstop : m.whole.stop = (before ++ gap ++ matched).length)
      (h : Spliced f (before ++ gap ++ matched) rest ms result) :
      Spliced f before (gap ++ matched ++ rest) (m :: ms) (gap ++ f m ++ result)

/-- The first match parts the text into what lies in front of it, itself, and what follows it. -/
theorem InOrder.exists_parts (h : InOrder (before ++ rest) before.length (m :: ms)) :
    ∃ gap matched rest', rest = gap ++ matched ++ rest' ∧
      m.whole.start = (before ++ gap).length ∧ m.whole.stop = (before ++ gap ++ matched).length ∧
      InOrder (before ++ gap ++ matched ++ rest') (before ++ gap ++ matched).length ms := by
  obtain ⟨hlast, hspan, hend, htail⟩ := h
  rw [List.length_append] at hend
  let gap := rest.take (m.whole.start - before.length)
  let behind := rest.drop (m.whole.start - before.length)
  let matched := behind.take (m.whole.stop - m.whole.start)
  let rest' := behind.drop (m.whole.stop - m.whole.start)
  have hrest : rest = gap ++ matched ++ rest' := by
    rw [List.append_assoc, List.take_append_drop, List.take_append_drop]
  have hgap : gap.length = m.whole.start - before.length := by
    simp only [gap, List.length_take]
    omega
  have hmatched : matched.length = m.whole.stop - m.whole.start := by
    simp only [matched, behind, List.length_take, List.length_drop]
    omega
  have hstart : m.whole.start = (before ++ gap).length := by
    rw [List.length_append, hgap]
    omega
  have hstop : m.whole.stop = (before ++ gap ++ matched).length := by
    rw [List.length_append, ← hstart, hmatched]
    omega
  refine ⟨gap, matched, rest', hrest, hstart, hstop, ?_⟩
  rw [hstop, hrest] at htail
  simpa using htail

/-- Matches that lie in order can be replaced. -/
theorem InOrder.exists_spliced (h : InOrder (before ++ rest) before.length ms) (f : Match → Text) :
    ∃ result, Spliced f before rest ms result := by
  induction ms generalizing before rest with
  | nil => exact ⟨rest, .done before rest⟩
  | cons m ms ih =>
    obtain ⟨gap, matched, rest', rfl, hstart, hstop, htail⟩ := h.exists_parts
    obtain ⟨result, hresult⟩ := ih htail
    exact ⟨_, .next hstart hstop hresult⟩

theorem Spliced.splice_eq (h : Spliced f before rest ms result) :
    splice (before ++ rest) f before.length ms = result := by
  induction h with
  | done before rest => simp [splice]
  | @next before gap matched rest result m ms hstart hstop h ih =>
    have hgap : m.whole.start - before.length = gap.length := by simp [hstart]
    have htext : before ++ (gap ++ matched ++ rest) = before ++ gap ++ matched ++ rest := by simp
    rw [splice, hgap, List.drop_left, List.append_assoc gap, List.take_left, hstop,
      ← List.append_assoc gap, htext, ih]

/-- **The relation holds of one text**, which `splice` gives. -/
theorem spliced_iff (h : InOrder (before ++ rest) before.length ms) :
    Spliced f before rest ms result ↔ splice (before ++ rest) f before.length ms = result := by
  constructor
  · exact Spliced.splice_eq
  · rintro rfl
    obtain ⟨result, hresult⟩ := h.exists_spliced f
    rwa [hresult.splice_eq]

/-! ## The work on matches -/

/-- What a rule has in hand when it goes over matches. -/
structure Progress where
  written : Text := []
  /-- Where the last match stopped. -/
  last : Nat := 0
  matched : Bool := false

/-- Writes what lies in front of a match, and what takes its place. -/
def Progress.next (t : Text) (f : Match → Text) (p : Progress) (m : Match) : Option Progress :=
  (t.slice? p.last m.whole.start).map fun gap => ⟨p.written ++ gap ++ f m, m.whole.stop, true⟩

/-- Writes what lies behind the last match. Without a match the text is left as it is. -/
def Progress.finish (t : Text) (p : Progress) : Option (Option Text) :=
  if p.matched then (t.slice? p.last t.length).map fun rest => some (p.written ++ rest)
  else some none

/-- The work on matches that are handed over alone. -/
def overMatches (t : Text) (f : Match → Text) : Progress → List Match → Option (Option Text)
  | p, [] => p.finish t
  | p, m :: ms => (p.next t f m).bind fun p => overMatches t f p ms

/-- The work on results. The first fault ends it, and what is written is lost. -/
def overResults (t : Text) (f : Match → Text) :
    Progress → List (Except Pattern.Fault Match) → Option (Except Pattern.Fault (Option Text))
  | p, [] => (p.finish t).map .ok
  | _, .error fault :: _ => some (.error fault)
  | p, .ok m :: results => (p.next t f m).bind fun p => overResults t f p results

/-- **Both engines give the same for the same matches.** -/
theorem overResults_map_ok (t : Text) (f : Match → Text) (p : Progress) (ms : List Match) :
    overResults t f p (ms.map .ok) = (overMatches t f p ms).map .ok := by
  induction ms generalizing p with
  | nil => rfl
  | cons m ms ih =>
    rw [List.map_cons, overResults, overMatches]
    cases p.next t f m with
    | none => rfl
    | some p => exact ih p

theorem Progress.next_append {gap : Text} (hstart : m.whole.start = (before ++ gap).length)
    (written rest : Text) (matched : Bool) :
    Progress.next (before ++ gap ++ rest) f ⟨written, before.length, matched⟩ m =
      some ⟨written ++ gap ++ f m, m.whole.stop, true⟩ := by
  rw [Progress.next, hstart, List.length_append, Text.slice?_append]
  rfl

theorem Progress.finish_append (before rest written : Text) :
    Progress.finish (before ++ rest) ⟨written, before.length, true⟩ =
      some (some (written ++ rest)) := by
  rw [Progress.finish, if_pos rfl, Text.slice?_append_end]
  rfl

/-- **Along matches in order every slice is in range**, and the text with its matches replaced is
written behind what is written already. A text without matches is left as it is, unless there has
been a match before. -/
theorem Spliced.overMatches_eq (h : Spliced f before rest ms result) (written : Text)
    (matched : Bool) :
    overMatches (before ++ rest) f ⟨written, before.length, matched⟩ ms =
      some (if matched || !ms.isEmpty then some (written ++ result) else none) := by
  induction h generalizing written matched with
  | done before rest =>
    cases matched with
    | true => exact Progress.finish_append before rest written
    | false => rfl
  | @next before gap matchedText rest result m ms hstart hstop h ih =>
    have htext : before ++ (gap ++ matchedText ++ rest) =
        before ++ gap ++ (matchedText ++ rest) := by
      simp
    -- the match stops where what is left begins, so the state is one of the same form
    rw [overMatches, htext, Progress.next_append hstart, Option.bind_some, hstop,
      ← List.append_assoc _ matchedText, ih]
    simp

/-- A fault is met behind the matches in front of it, where every slice is in range. -/
theorem Spliced.overResults_fault (h : Spliced f before rest ms result) (fault : Pattern.Fault)
    (written : Text) (matched : Bool) :
    overResults (before ++ rest) f ⟨written, before.length, matched⟩
      (ms.map .ok ++ [.error fault]) = some (.error fault) := by
  induction h generalizing written matched with
  | done before rest => rfl
  | @next before gap matchedText rest result m ms hstart hstop h ih =>
    have htext : before ++ (gap ++ matchedText ++ rest) =
        before ++ gap ++ (matchedText ++ rest) := by
      simp
    rw [List.map_cons, List.cons_append, overResults, htext, Progress.next_append hstart,
      Option.bind_some, hstop, ← List.append_assoc _ matchedText, ih]

/-- **All slices are in range, and the work is what the rule is defined to make of a run.** -/
theorem overResults_eq_replaceRun {run : Run} (h : InOrder t 0 run.found) (template : Template) :
    overResults t (fun m => template.expand t m) {} run.results =
      some (replaceRun t template run) := by
  have hwhole : InOrder ([] ++ t) ([] : Text).length run.found := h
  obtain ⟨result, hresult⟩ := hwhole.exists_spliced fun m => Template.expand t m template
  obtain ⟨found, fault⟩ := run
  cases fault with
  | some fault => exact hresult.overResults_fault fault [] false
  | none =>
    have hwork := hresult.overMatches_eq [] false
    have hsplice := hresult.splice_eq
    simp only [Run.results, Option.toList_none, List.map_nil, List.append_nil]
    rw [overResults_map_ok]
    simp only [List.nil_append, List.length_nil] at hwork hsplice
    rw [hwork]
    cases found with
    | nil => rfl
    | cons m ms => simp [replaceRun, hsplice]

/-! ## Rules with patterns -/

namespace Operation

/-- The work of a rule on a text, as its engine hands over the matches. It comes to nothing where a
slice is out of range. -/
def work? (op : Operation) (t : Text) : Option (Except Error (Option Text)) :=
  match op.action with
  | .literal => some (op.replace? t)
  | .regex matcher template =>
    let expand := fun m => Template.expand t m template
    let outcome : Option (Except Pattern.Fault (Option Text)) :=
      match matcher.engine with
      | .plain _ => (overMatches t expand {} (matcher.run t).found).map .ok
      | .extended _ _ => overResults t expand {} (matcher.run t).results
    outcome.map fun r => r.mapError fun fault => .substitution op.search (.search fault) none

variable {op : Operation} {matcher : Matcher} {template : Template}

theorem replace?_of_regex (h : op.action = .regex matcher template) (t : Text) :
    op.replace? t = (replaceRun t template (matcher.run t)).mapError
      fun fault => .substitution op.search (.search fault) none := by
  simp only [replace?, h]
  cases replaceRun t template (matcher.run t) <;> rfl

theorem work?_of_regex (h : op.action = .regex matcher template) (t : Text) :
    op.work? t = (overResults t (fun m => template.expand t m) {} (matcher.run t).results).map
      fun r => r.mapError fun fault => .substitution op.search (.search fault) none := by
  simp only [work?, h]
  cases hengine : matcher.engine with
  | extended ops slots => rfl
  | plain program =>
    have hresults : (matcher.run t).results = (matcher.run t).found.map .ok := by
      simp [Run.results, Matcher.fault_run hengine]
    rw [hresults, overResults_map_ok]

/-- **The splicing law.** If the matches lie in the text one behind another, the work of a rule
takes every slice in range and comes to what the rule is defined to make of the text. A fault is
reported with the search pattern of the rule, whatever was found before it. Without a fault, a text
without matches is left as it is, and in any other the matches are replaced and all else is kept. A
group that took no part leaves nothing, and one whose span lies in the text the slice of its span.
It makes no difference which engine hands over the matches. -/
theorem replace?_splices (h : op.action = .regex matcher template)
    (horder : InOrder t 0 (matcher.run t).found) :
    op.work? t = some (op.replace? t) ∧
      (∀ fault, (matcher.run t).fault = some fault →
        op.replace? t = .error (.substitution op.search (.search fault) none)) ∧
      ((matcher.run t).fault = none → (matcher.run t).found = [] → op.replace? t = .ok none) ∧
      ((matcher.run t).fault = none → (matcher.run t).found ≠ [] →
        ∃ result, op.replace? t = .ok (some result) ∧
          ∀ u, Spliced (fun m => template.expand t m) [] t (matcher.run t).found u ↔ u = result) ∧
      (∀ m index, m.group? index = none → Template.expandPart t m (.group index) = []) ∧
      (∀ m index span, m.group? index = some span → span.start ≤ span.stop →
        span.stop ≤ t.length →
          t.slice? span.start span.stop = some (Template.expandPart t m (.group index))) ∧
      (∀ f ms, overResults t f {} (ms.map .ok) = (overMatches t f {} ms).map .ok) ∧
      ∀ (other : Operation) (matcher' : Matcher), other.action = .regex matcher' template →
        matcher'.run t = matcher.run t →
          ∀ outcome, other.replace? t = .ok outcome ↔ op.replace? t = .ok outcome := by
  have hreplace := replace?_of_regex h t
  refine ⟨?_, ?_, ?_, ?_, ?_, ?_, ?_, ?_⟩
  · rw [work?_of_regex h, overResults_eq_replaceRun horder, hreplace]
    rfl
  · intro fault hfault
    rw [hreplace, replaceRun, hfault]
    rfl
  · intro hfault hfound
    rw [hreplace, replaceRun, hfault, hfound]
    rfl
  · intro hfault hfound
    obtain ⟨m, ms, hms⟩ := List.exists_cons_of_ne_nil hfound
    refine ⟨splice t (fun m => template.expand t m) 0 (matcher.run t).found, ?_, fun u => ?_⟩
    · rw [hreplace, replaceRun, hfault, hms]
      rfl
    · have hwhole : InOrder ([] ++ t) ([] : Text).length (matcher.run t).found := horder
      exact (spliced_iff hwhole).trans eq_comm
  · intro m index hgroup
    simp [Template.expandPart, hgroup]
  · intro m index span hgroup hspan hstop
    simp [Text.slice?, Template.expandPart, hgroup, Pattern.Span.slice, hspan, hstop]
  · exact fun f ms => overResults_map_ok t f {} ms
  · intro other matcher' hother hrun outcome
    rw [hreplace, replace?_of_regex hother, hrun]
    cases replaceRun t template (matcher.run t) <;> simp [Except.mapError]

/-- The matcher of a pattern with a group in one of its branches, and empty matches in the other. -/
def emptyOrGroup : Matcher :=
  .ofNode (.alt (.group 1 none (.chars (CharSet.singleton 'x')))
    (.repeated 0 none true (.chars (CharSet.singleton 'b')))) []

set_option maxRecDepth 20000 in
theorem run_emptyOrGroup : emptyOrGroup.run "axbc".toList =
    ⟨[⟨⟨0, 0⟩, [none]⟩, ⟨⟨1, 2⟩, [some ⟨1, 2⟩]⟩, ⟨⟨2, 3⟩, [none]⟩, ⟨⟨4, 4⟩, [none]⟩], none⟩ := by
  cbv

/-- Empty matches, matches side by side, and one at the end of the text. -/
theorem replace?_splices_empty_matches :
    ∃ op, make "(x)|b*".toList "<\\1>".toList .regex none = .ok op ∧
      op.action = .regex emptyOrGroup [.text ['<'], .group 1, .text ['>']] ∧
      InOrder "axbc".toList 0 (emptyOrGroup.run "axbc".toList).found ∧
      op.work? "axbc".toList = some (.ok (some "<>a<x><>c<>".toList)) := by
  let op : Operation := ⟨"(x)|b*".toList, "<\\1>".toList, none,
    .regex emptyOrGroup [.text ['<'], .group 1, .text ['>']]⟩
  have horder : InOrder "axbc".toList 0 (emptyOrGroup.run "axbc".toList).found := by
    rw [run_emptyOrGroup]
    decide
  have hcompile : Matcher.compile? "(x)|b*".toList = some emptyOrGroup := rfl
  have hparse : Template.parse emptyOrGroup.groups "<\\1>".toList =
      .ok [.text ['<'], .group 1, .text ['>']] := by cbv
  have haction : op.action = .regex emptyOrGroup [.text ['<'], .group 1, .text ['>']] := rfl
  refine ⟨op, ?_, haction, horder, ?_⟩
  · rw [make, makeAction, hcompile]
    dsimp only
    rw [hparse]
    rfl
  · rw [(replace?_splices haction horder).1, replace?_of_regex haction, run_emptyOrGroup]
    rfl

end Operation

end Rule

end Lector
