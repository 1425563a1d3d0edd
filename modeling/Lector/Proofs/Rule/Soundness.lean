import Lector.Proofs.Rule.Grammar

/-!
# Rules that were made

A rule is made of what is written of it, and no part of it is changed later. So what holds when a
rule is made holds as long as there is the rule: it has something to look for, it has a matcher and
a template just if it is a regular expression, and the template refers only to groups of the
pattern. A match keeps a place for each group of its pattern, whether the group took part in it or
not. An expansion therefore never looks for a group in a match that has no place for it.

## Main definitions

* `Pattern.Match.place?`: the place that a match keeps for a group
* `Template.Fits`: a template in its shortest form that refers only to groups of a pattern
* `Template.scan`: reads a template in one pass, with the text that was gathered so far
* `Template.expand?`: the expansion that fails at a group without a place
* `Operation.Sound`: a rule is what is made of what is written of it

## Main results

* `Template.fits_of_parse`: templates that are read fit
* `Template.scan_eq_parse`: a template is read as in one pass
* `Operation.sound_of_make`: rules that are made are sound
* `Operation.Sound.expand?_eq_some`: no expansion looks for a group without a place
* `Operation.Sound.make_eq_ok_iff`: what a sound rule is made of
* `Operation.Sound.eq_of_same`: sound rules are told apart by what is written of them
-/

namespace Lector

/-! ## The groups of a match -/

namespace Pattern

/-- The place that a match keeps for a group: what the group matched, if it took part. -/
def Match.place? (m : Match) : Nat → Option (Option Span)
  | 0 => some (some m.whole)
  | n + 1 => m.groups[n]?

section

variable {m : Match} {matcher : Matcher} {search : Cursor → Except Fault (Option Match)}

theorem Match.exists_place? {i : Nat} (h : i ≤ m.groups.length) :
    m.place? i = some (m.group? i) := by
  cases i with
  | zero => rfl
  | succ n =>
    have hn : m.groups[n]? = some m.groups[n] := List.getElem?_eq_getElem h
    simp only [place?, group?, hn, Option.join_some]

theorem Match.length_groups_of_ofSlots? {slots : Slots} {count : Nat}
    (h : Match.ofSlots? slots count = some m) : m.groups.length = count - 1 := by
  unfold ofSlots? at h
  obtain ⟨whole, -, rfl⟩ := Option.map_eq_some_iff.mp h
  simp

theorem Matcher.length_groups_of_search {subject : Extended.Subject} {c : Cursor}
    (h : matcher.search subject c = .ok (some m)) :
    m.groups.length = matcher.groups.count - 1 := by
  unfold Matcher.search at h
  split at h
  next program _ =>
    obtain ⟨slots, -, hslots⟩ := Option.bind_eq_some_iff.mp (Except.ok.inj h)
    exact Match.length_groups_of_ofSlots? hslots
  next ops slots _ =>
    cases hsearch : Extended.search ops slots subject c.position with
    | error fault =>
      rw [hsearch] at h
      cases h
    | ok found =>
      rw [hsearch] at h
      obtain ⟨slots, -, hslots⟩ := Option.bind_eq_some_iff.mp (Except.ok.inj h)
      exact Match.length_groups_of_ofSlots? hslots

/-- Whatever is found comes from one of the searches. -/
theorem exists_search_of_mem_findAll {last : Option Nat} {c : Cursor}
    (h : m ∈ (findAll search last c).found) : ∃ d, search d = .ok (some m) := by
  fun_induction findAll search last c with
  | case1 => cases h
  | case2 => cases h
  | case3 last c first hfirst isEmpty next skipped stop rest hskipped ih
  | case4 last c first hfirst isEmpty next skipped stop rest hskipped ih =>
    -- the match that was found here may have been skipped
    have hcases : m = first ∨ m ∈ rest.found := by
      first
      | exact Or.inr h
      | exact List.mem_cons.mp h
    rcases hcases with rfl | hmem
    · exact ⟨c, hfirst⟩
    · unfold rest at hmem
      split at hmem
      next => cases hmem
      next d hd => exact ih d hd hmem

theorem Matcher.length_groups_of_mem_run {t : Text} (h : m ∈ (matcher.run t).found) :
    m.groups.length = matcher.groups.count - 1 := by
  obtain ⟨c, hc⟩ := exists_search_of_mem_findAll h
  exact length_groups_of_search hc

end

end Pattern

namespace Rule

open Pattern (Groups Match Matcher)

/-! ## Templates -/

namespace Template

variable {g : Groups} {n i : Nat} {p : Part} {ps q : Template} {rest source t : Text} {signs : Bool}

/-- A template refers to groups with indices below a bound only. It is in its shortest form: no text
is empty, and none stands right behind another. -/
structure Fits (n : Nat) (ps : Template) : Prop where
  within : ∀ i, .group i ∈ ps → i < n
  nonempty : .text [] ∉ ps
  apart : ∀ t u, ¬ [.text t, .text u] <:+: ps

theorem group_mem_iff : .group i ∈ ps ↔ .inr i ∈ pieces ps := by
  simp only [pieces, List.mem_flatMap]
  constructor
  · exact fun h => ⟨.group i, h, by simp [Part.pieces]⟩
  · rintro ⟨p, hp, hi⟩
    cases p with
    | text t => simp [Part.pieces] at hi
    | group j =>
      obtain rfl : i = j := by simpa [Part.pieces] using hi
      exact hp

/-- Each form of a reference is about a group of the pattern. -/
theorem Form.lt_count (h : Form signs g rest source (.group i)) : i < g.count := by
  cases h with
  | oneDigit _ _ _ hk => exact hk
  | twoDigits _ _ _ hk => exact hk
  | index _ hk => exact hk
  | signed _ _ hk => exact hk
  | name _ _ hk => exact Groups.lt_of_named? hk

theorem Reads.lt_count (h : Reads signs g t ps) (hi : .group i ∈ ps) : i < g.count := by
  induction h with
  | nil => cases hi
  | cons h _ ih =>
    rcases List.mem_cons.mp hi with rfl | hi
    · exact h.lt_count
    · exact ih hi

theorem Merged.nonempty (h : Merged ps) : .text [] ∉ ps := by
  induction ps with
  | nil => simp
  | cons p ps ih =>
    cases p with
    | group j => simpa using ih h
    | text t => simpa [Ne.symm h.1] using ih h.2.2

theorem Merged.apart (h : Merged ps) (t u : Text) : ¬ [.text t, .text u] <:+: ps := by
  induction ps with
  | nil => simp
  | cons p ps ih =>
    rw [List.infix_cons_iff]
    rintro (hfirst | hlater)
    · obtain ⟨rfl, hnext⟩ := List.cons_prefix_cons.mp hfirst
      obtain ⟨rest, rfl⟩ := hnext
      exact h.2.1 u rfl
    · cases p with
      | group j => exact ih h hlater
      | text t => exact ih h.2.2 hlater

/-- **Templates that are read fit.** -/
theorem fits_of_parse (h : parse g t = .ok q) : Fits g.count q := by
  obtain ⟨ps, hreads, rfl⟩ := exists_reads_of_parse h
  refine ⟨fun i hi => hreads.lt_count ?_, (merged_merge ps).nonempty, (merged_merge ps).apart⟩
  rwa [group_mem_iff, pieces_merge, ← group_mem_iff] at hi

/-! ## Templates in one pass

A template can be read in one pass that keeps the parts that are done and the text that was gathered
behind them. Whatever stands for characters is added to this text, and a reference ends it. What is
read is in its shortest form already. -/

/-- The parts that are done, with the text behind them as one more part unless it is empty. -/
def close (done : Template) (pending : Text) : Template :=
  if pending = [] then done else done ++ [.text pending]

/-- A part is gathered: its text is added to the text behind the parts, or a reference ends this. -/
def gather (done : Template) (pending : Text) : Part → Template × Text
  | .text u => (done, pending ++ u)
  | .group index => (close done pending ++ [.group index], [])

/-- Reads a template in one pass, with the parts that are done and the text behind them. -/
def scan (g : Groups) : Template × Text → Text → Except Fault Template
  | (done, pending), [] => .ok (close done pending)
  | (done, pending), c :: t =>
    if c = '\\' then
      match readEscape g t with
      | .error fault => .error fault
      | .ok (part, n) => scan g (gather done pending part) (t.drop n)
    else scan g (gather done pending (.text [c])) t
termination_by _ t => t.length
decreasing_by all_goals simp only [List.length_drop, List.length_cons]; omega

theorem push_text_append (a b : Text) (q : Template) :
    push (.text (a ++ b)) q = push (.text a) (push (.text b) q) := by
  cases a with
  | nil => rfl
  | cons c a =>
    cases b with
    | nil => rw [List.append_nil]; rfl
    | cons d b =>
      cases q with
      | nil => rfl
      | cons p q => cases p <;> simp [push]

theorem close_eq (done : Template) (pending : Text) :
    close done pending = done ++ push (.text pending) [] := by
  cases pending with
  | nil => simp [close, push]
  | cons c t => rfl

theorem close_append_group (done : Template) (pending : Text) (i : Nat) (q : Template) :
    close done pending ++ .group i :: q = done ++ push (.text pending) (.group i :: q) := by
  cases pending with
  | nil => rfl
  | cons c t => simp [close, push]

/-- What is gathered of a part is the part in front of what follows. -/
theorem gather_append_push (done : Template) (pending : Text) (p : Part) (q : Template) :
    (gather done pending p).1 ++ push (.text (gather done pending p).2) q =
      done ++ push (.text pending) (push p q) := by
  cases p with
  | text u => rw [gather, push_text_append]
  | group i =>
    rw [gather, List.append_assoc]
    exact close_append_group done pending i q

theorem map_gather (done : Template) (pending : Text) (p : Part) (read : Except Fault Template) :
    (read.map fun q => (gather done pending p).1 ++ push (.text (gather done pending p).2) q) =
      (read.map (push p)).map fun q => done ++ push (.text pending) q := by
  cases read with
  | error fault => rfl
  | ok q => exact congrArg Except.ok (gather_append_push done pending p q)

/-- The parts that are done, and the text behind them, stand in front of what is still read. -/
theorem scan_eq_map (g : Groups) (s : Template × Text) (t : Text) :
    scan g s t = (parse g t).map fun q => s.1 ++ push (.text s.2) q := by
  fun_induction scan g s t with
  | case1 done pending =>
    rw [parse_nil, close_eq]
    rfl
  | case2 done pending t fault hescape =>
    rw [parse_backslash, hescape]
    rfl
  | case3 done pending t part n hescape ih =>
    rw [ih, parse_backslash, hescape]
    exact map_gather done pending part _
  | case4 done pending c t hc ih =>
    rw [ih, parse_plain hc]
    exact map_gather done pending (.text [c]) _

/-- **A template is read as in one pass.** -/
theorem scan_eq_parse (g : Groups) (t : Text) : scan g ([], []) t = parse g t := by
  rw [scan_eq_map]
  cases parse g t <;> rfl

/-! ## Expansions -/

/-- The text of a part, if the match keeps a place for the group that it refers to. -/
def expandPart? (t : Text) (m : Match) : Part → Option Text
  | .text u => some u
  | .group index => (m.place? index).map fun span => (span.map (·.slice t)).getD []

/-- The text of a template, if the match keeps a place for every group that it refers to. -/
def expand? (t : Text) (m : Match) : Template → Option Text
  | [] => some []
  | p :: ps => do return (← expandPart? t m p) ++ (← expand? t m ps)

/-- Where the match keeps a place for every group, the expansion is that of the template. -/
theorem expand?_eq_some {m : Match} (h : ∀ i, .group i ∈ ps → i ≤ m.groups.length) (t : Text) :
    expand? t m ps = some (expand t m ps) := by
  induction ps with
  | nil => rfl
  | cons p ps ih =>
    have hpart : expandPart? t m p = some (expandPart t m p) := by
      cases p with
      | text u => rfl
      | group i => rw [expandPart?, Match.exists_place? (h i (by simp)), Option.map_some]; rfl
    rw [expand?, hpart, ih fun i hi => h i (List.mem_cons_of_mem p hi)]
    rfl

end Template

/-! ## Rules -/

namespace Operation

variable {op a b : Operation} {s r t : Text} {k : Kind} {c : Option Text} {matcher : Matcher}
  {template : Template}

/-- A rule has something to look for, and is what is made of what is written of it. It has a matcher
and a template just if it is a regular expression, and the template fits the groups of the
matcher. -/
structure Sound (op : Operation) : Prop where
  nonempty : op.search ≠ []
  remade : make op.search op.replacement op.kind op.comment = .ok op
  compiled : op.kind = .regex ↔ ∃ matcher template, op.action = .regex matcher template
  fits : ∀ matcher template, op.action = .regex matcher template →
    template.Fits matcher.groups.count

/-- All that can be made ready: nothing for a literal, and a matcher with a template that was read
for its groups. -/
theorem makeAction_cases {action : Action} (h : makeAction s r k = .ok action) :
    (k = .literal ∧ action = .literal) ∨
      (k = .regex ∧ ∃ matcher template, Matcher.compile? s = some matcher ∧
        Template.parse matcher.groups r = .ok template ∧ action = .regex matcher template) := by
  cases k with
  | literal =>
    cases h
    exact Or.inl ⟨rfl, rfl⟩
  | regex =>
    rw [makeAction] at h
    split at h
    next => cases h
    next matcher hcompile =>
      split at h
      next template hparse =>
        cases h
        exact Or.inr ⟨rfl, matcher, template, hcompile, hparse, rfl⟩
      next => cases h

theorem exists_of_make (h : make s r k c = .ok op) :
    s ≠ [] ∧ ∃ action, makeAction s r k = .ok action ∧ op = ⟨s, r, c, action⟩ := by
  unfold make at h
  split at h
  next => cases h
  next hs =>
    split at h
    next action haction =>
      cases h
      exact ⟨by simpa using hs, action, haction, rfl⟩
    next => cases h

/-- What is ready for use is of the kind that was asked for. -/
theorem kind_eq_of_make (h : make s r k c = .ok op) : op.kind = k := by
  obtain ⟨-, action, haction, rfl⟩ := exists_of_make h
  rcases makeAction_cases haction with ⟨rfl, rfl⟩ | ⟨rfl, _, _, _, _, rfl⟩ <;> rfl

/-- **A sound rule is made of what is written of it, and of nothing else.** The kind that it was
made with is the kind that it has. -/
theorem Sound.make_eq_ok_iff (h : op.Sound) :
    make s r k c = .ok op ↔
      s = op.search ∧ r = op.replacement ∧ k = op.kind ∧ c = op.comment := by
  constructor
  · intro hmake
    have hkind := kind_eq_of_make hmake
    obtain ⟨-, action, -, rfl⟩ := exists_of_make hmake
    exact ⟨rfl, rfl, hkind.symm, rfl⟩
  · rintro ⟨rfl, rfl, rfl, rfl⟩
    exact h.remade

/-- **Rules that are made are sound.** -/
theorem sound_of_make (h : make s r k c = .ok op) : op.Sound := by
  have hkind := kind_eq_of_make h
  obtain ⟨hs, action, haction, rfl⟩ := exists_of_make h
  refine ⟨hs, ?_, ?_, ?_⟩
  · rw [hkind]
    exact h
  · rw [hkind]
    rcases makeAction_cases haction with
      ⟨rfl, rfl⟩ | ⟨rfl, matcher, template, -, -, rfl⟩
    · simp
    · exact iff_of_true rfl ⟨matcher, template, rfl⟩
  · rintro matcher template rfl
    rcases makeAction_cases haction with ⟨-, he⟩ | ⟨-, _, _, -, hparse, he⟩
    · cases he
    · cases he
      exact Template.fits_of_parse hparse

/-- The matcher and the template of a rule are read from its search pattern and its replacement. -/
theorem Sound.read_eq (h : op.Sound) (haction : op.action = .regex matcher template) :
    Matcher.compile? op.search = some matcher ∧
      Template.scan matcher.groups ([], []) op.replacement = .ok template := by
  obtain ⟨-, action, hmade, hop⟩ := exists_of_make h.remade
  have hsame : op.action = action := congrArg Operation.action hop
  rcases makeAction_cases hmade with ⟨-, rfl⟩ | ⟨-, _, _, hcompile, hparse, rfl⟩
  · cases haction.symm.trans hsame
  · cases haction.symm.trans hsame
    exact ⟨hcompile, (Template.scan_eq_parse _ _).trans hparse⟩

/-- **No expansion looks for a group without a place.** -/
theorem Sound.expand?_eq_some (h : op.Sound) (haction : op.action = .regex matcher template)
    {m : Match} (hm : m ∈ (matcher.run t).found) :
    template.expand? t m = some (template.expand t m) := by
  refine Template.expand?_eq_some (fun i hi => ?_) t
  have hcount := (h.fits matcher template haction).within i hi
  rw [Matcher.length_groups_of_mem_run hm]
  omega

/-- **Sound rules are told apart by what is written of them.** The comparison of rules looks at
nothing else, and this loses nothing. -/
theorem Sound.eq_of_same (ha : a.Sound) (hb : b.Sound) (h : a.same b = true) : a = b := by
  simp only [same, Bool.and_eq_true, beq_iff_eq] at h
  obtain ⟨⟨⟨hsearch, hreplacement⟩, hkind⟩, hcomment⟩ := h
  have hmade := ha.remade
  rw [hsearch, hreplacement, hkind, hcomment, hb.remade] at hmade
  exact (Except.ok.inj hmade).symm

end Operation

end Rule

end Lector
