import Mathlib.Data.List.Forall2
import Lector.Output.Name
import Lector.Proofs.Text.Cutting

/-!
# The grammar of output names

The template of an output name is a sequence of forms, each of which stands for a part: a character
that is no brace, a doubled brace, or the name of a placeholder in braces. No form is the start of
another, so that a template is cut into forms in one way at most, whatever the braces side by side.
Reading a template accepts exactly what can be cut into forms. What cannot be cut is read up to the
first place where no form stands, and what is there says what is wrong with it.

## Main definitions

* `Form`: the forms, with the parts that they stand for
* `Cut`: a template cut into forms
* `Stops`: the places where no form stands, with the faults
* `Segment`: a text to be written as it is, or a placeholder

## Main results

* `form_or_stops`: at every place of a template there is a form, or it stops there
* `parse_eq_ok_iff`: which templates are accepted, and what they are read as
* `parse_eq_error_iff`: which fault is found in the others
* `render_by_forms`: what is made of a template
-/

namespace Lector.Output

/-- The forms of a template, with the parts that they stand for. -/
inductive Form : Text → Part → Prop
  /-- A character that is no brace. -/
  | plain {c : Char} (hopening : c ≠ '\x7b') (hclosing : c ≠ '\x7d') : Form [c] (.char c)
  | opening : Form ['\x7b', '\x7b'] (.char '\x7b')
  | closing : Form ['\x7d', '\x7d'] (.char '\x7d')
  | placeholder (p : Placeholder) : Form ('\x7b' :: (p.name.toList ++ ['\x7d'])) (.placeholder p)

/-- A template cut into forms. -/
@[ext]
structure Cut (template : Text) where
  pieces : List Text
  parts : List Part
  forms : List.Forall₂ Form pieces parts
  flatten_pieces : pieces.flatten = template

/-- The places of a template where no form stands, with what is wrong there. All of the template is
`whole`. -/
inductive Stops (whole : Text) : Text → NameFault → Prop
  /-- A closing brace is not doubled. -/
  | loneBrace {t : Text} (ht : t.head? ≠ some '\x7d') : Stops whole ('\x7d' :: t) (.loneBrace whole)
  /-- A brace is opened and not closed. -/
  | unclosed {t : Text} (ht : t.head? ≠ some '\x7b') (hmark : '\x7d' ∉ t) :
      Stops whole ('\x7b' :: t) (.unclosed whole)
  /-- What stands in braces is no placeholder. -/
  | unknown {name t : Text} (hhead : name.head? ≠ some '\x7b') (hmark : '\x7d' ∉ name)
      (hname : ∀ p : Placeholder, p.name.toList ≠ name) :
      Stops whole ('\x7b' :: (name ++ '\x7d' :: t)) (.unknown name)

/-! ## Placeholders -/

namespace Placeholder

theorem not_mem_name (p : Placeholder) : '\x7b' ∉ p.name.toList ∧ '\x7d' ∉ p.name.toList := by
  cases p <;> decide

/-- A placeholder is found by its name, and by nothing else. -/
theorem ofName?_eq_some_iff {name : Text} {p : Placeholder} :
    ofName? name = some p ↔ p.name.toList = name := by
  constructor
  · intro h
    simpa using List.find?_some h
  · rintro rfl
    cases p <;> rfl

theorem ofName?_eq_none {name : Text} (h : ∀ p : Placeholder, p.name.toList ≠ name) :
    ofName? name = none :=
  Option.eq_none_iff_forall_ne_some.mpr fun p hp => h p (ofName?_eq_some_iff.mp hp)

end Placeholder

/-! ## Reading one form -/

section Reading

variable {whole t before rest piece : Text} {part : Part} {parts : List Part} {fault : NameFault}

/-- A name is read up to the first closing brace. -/
theorem parseFrom_name {name : Text} (hhead : name.head? ≠ some '\x7b') (hmark : '\x7d' ∉ name)
    (rest : Text) :
    parseFrom whole ('\x7b' :: (name ++ '\x7d' :: rest)) =
      match Placeholder.ofName? name with
      | none => .error (.unknown name)
      | some p => (parseFrom whole rest).map (.placeholder p :: ·) := by
  have hcut := Text.cutAt?_append_cons hmark rest
  have hnext : (name ++ '\x7d' :: rest).head? ≠ some '\x7b' := by
    cases name with
    | nil => simp
    | cons c name => exact hhead
  rw [parseFrom, if_pos rfl, if_neg hnext]
  split
  · next h => cases h.symm.trans hcut
  · next h =>
    cases h.symm.trans hcut
    rw [← List.drop_drop, List.drop_left]
    cases Placeholder.ofName? name <;> rfl

/-- **A form is read as its part, whatever follows.** -/
theorem Form.parseFrom_append (h : Form piece part) (whole rest : Text) :
    parseFrom whole (piece ++ rest) = (parseFrom whole rest).map (part :: ·) := by
  cases h with
  | plain hopening hclosing =>
    rw [List.singleton_append, parseFrom, if_neg hopening, if_neg hclosing]
  | opening =>
    rw [List.cons_append, parseFrom]
    rfl
  | closing =>
    rw [List.cons_append, parseFrom]
    rfl
  | placeholder p =>
    have hhead : p.name.toList.head? ≠ some '\x7b' :=
      fun h => p.not_mem_name.1 (List.mem_of_mem_head? h)
    rw [List.cons_append, List.append_assoc, List.singleton_append,
      parseFrom_name hhead p.not_mem_name.2, Placeholder.ofName?_eq_some_iff.mpr rfl]

theorem Stops.parseFrom_eq (h : Stops whole t fault) : parseFrom whole t = .error fault := by
  cases h with
  | loneBrace ht => rw [parseFrom, if_neg (by decide), if_pos rfl, if_neg ht]
  | unclosed ht hmark =>
    have hcut := Text.cutAt?_of_not_mem hmark
    rw [parseFrom, if_pos rfl, if_neg ht]
    split
    · rfl
    · next h => cases h.symm.trans hcut
  | unknown hhead hmark hname =>
    rw [parseFrom_name hhead hmark, Placeholder.ofName?_eq_none hname]

/-- **At every place of a template there is a form, or it stops there.** -/
theorem form_or_stops (whole : Text) (c : Char) (t : Text) :
    (∃ piece part rest, Form piece part ∧ c :: t = piece ++ rest) ∨
      ∃ fault, Stops whole (c :: t) fault := by
  by_cases hopening : c = '\x7b'
  · subst hopening
    by_cases ht : t.head? = some '\x7b'
    · obtain ⟨rest, rfl⟩ := List.head?_eq_some_iff.mp ht
      exact Or.inl ⟨_, _, rest, .opening, rfl⟩
    by_cases hmark : '\x7d' ∈ t
    · obtain ⟨name, rest, rfl, hname⟩ := List.eq_append_cons_of_mem hmark
      by_cases hp : ∃ p : Placeholder, p.name.toList = name
      · obtain ⟨p, rfl⟩ := hp
        exact Or.inl ⟨_, _, rest, .placeholder p, by simp⟩
      · have hhead : name.head? ≠ some '\x7b' := by
          cases name with
          | nil => simp
          | cons c name => exact ht
        exact Or.inr ⟨_, .unknown hhead hname fun p h => hp ⟨p, h⟩⟩
    · exact Or.inr ⟨_, .unclosed ht hmark⟩
  by_cases hclosing : c = '\x7d'
  · subst hclosing
    by_cases ht : t.head? = some '\x7d'
    · obtain ⟨rest, rfl⟩ := List.head?_eq_some_iff.mp ht
      exact Or.inl ⟨_, _, rest, .closing, rfl⟩
    · exact Or.inr ⟨_, .loneBrace ht⟩
  · exact Or.inl ⟨_, _, t, .plain hopening hclosing, rfl⟩

/-! ## Reading a template -/

theorem parseFrom_flatten_append {pieces : List Text} (h : List.Forall₂ Form pieces parts)
    (whole rest : Text) :
    parseFrom whole (pieces.flatten ++ rest) = (parseFrom whole rest).map (parts ++ ·) := by
  induction h with
  | nil =>
    rw [List.flatten_nil, List.nil_append]
    cases parseFrom whole rest <;> rfl
  | cons hform _ ih =>
    rw [List.flatten_cons, List.append_assoc, hform.parseFrom_append, ih]
    cases parseFrom whole rest <;> rfl

namespace Cut

/-- Nothing, cut into no forms. -/
def nil : Cut [] := ⟨[], [], .nil, rfl⟩

/-- A form in front of a template that is cut into forms. -/
def cons (h : Form piece part) (cut : Cut t) : Cut (piece ++ t) where
  pieces := piece :: cut.pieces
  parts := part :: cut.parts
  forms := .cons h cut.forms
  flatten_pieces := by rw [List.flatten_cons, cut.flatten_pieces]

/-- What is cut into forms is read as their parts, whatever follows. -/
theorem parseFrom_append (cut : Cut before) (whole rest : Text) :
    parseFrom whole (before ++ rest) = (parseFrom whole rest).map (cut.parts ++ ·) := by
  have h := parseFrom_flatten_append cut.forms whole rest
  rwa [cut.flatten_pieces] at h

theorem parse_eq (cut : Cut t) : parse t = .ok cut.parts := by
  have h := cut.parseFrom_append t []
  rwa [List.append_nil, parseFrom, Except.map, List.append_nil] at h

theorem parse_eq_error (cut : Cut before) (h : Stops (before ++ rest) rest fault) :
    parse (before ++ rest) = .error fault := by
  rw [parse, cut.parseFrom_append, h.parseFrom_eq]
  rfl

/-- Every template is cut into forms up to its end, or up to where it stops. -/
theorem exists_append (whole t : Text) :
    ∃ before rest, t = before ++ rest ∧ Nonempty (Cut before) ∧
      (rest = [] ∨ ∃ fault, Stops whole rest fault) := by
  -- a form takes up at least one character, so that what is behind it is shorter
  induction hn : t.length using Nat.strong_induction_on generalizing t with
  | _ n ih =>
    match t with
    | [] => exact ⟨[], [], rfl, ⟨nil⟩, Or.inl rfl⟩
    | c :: t =>
      rcases form_or_stops whole c t with ⟨piece, part, rest, hform, ht⟩ | hstops
      · have hshorter : rest.length < n := by
          have hlength := congrArg List.length ht
          have hpiece : 0 < piece.length := by cases hform <;> simp
          rw [List.length_append] at hlength
          omega
        obtain ⟨before, rest, rfl, ⟨cut⟩, hrest⟩ := ih _ hshorter rest rfl
        exact ⟨piece ++ before, rest, by rw [ht, List.append_assoc], ⟨cut.cons hform⟩, hrest⟩
      · exact ⟨[], c :: t, rfl, ⟨nil⟩, Or.inr hstops⟩

end Cut

/-- **Exactly the templates that can be cut into forms are accepted**, and read as their parts. -/
theorem parse_eq_ok_iff : parse t = .ok parts ↔ ∃ cut : Cut t, cut.parts = parts := by
  constructor
  · intro h
    obtain ⟨before, rest, rfl, ⟨cut⟩, rfl | ⟨fault, hstops⟩⟩ := Cut.exists_append t t
    · rw [List.append_nil] at h ⊢
      exact ⟨cut, Except.ok.inj (cut.parse_eq.symm.trans h)⟩
    · cases (cut.parse_eq_error hstops).symm.trans h
  · rintro ⟨cut, rfl⟩
    exact cut.parse_eq

/-- **All others stop behind the forms that they start with**, and the fault is the one there. -/
theorem parse_eq_error_iff :
    parse t = .error fault ↔
      ∃ before rest, t = before ++ rest ∧ Nonempty (Cut before) ∧ Stops t rest fault := by
  constructor
  · intro h
    obtain ⟨before, rest, rfl, ⟨cut⟩, rfl | ⟨fault', hstops⟩⟩ := Cut.exists_append t t
    · rw [List.append_nil] at h
      cases cut.parse_eq.symm.trans h
    · cases (cut.parse_eq_error hstops).symm.trans h
      exact ⟨before, rest, rfl, ⟨cut⟩, hstops⟩
  · rintro ⟨before, rest, rfl, ⟨cut⟩, hstops⟩
    exact cut.parse_eq_error hstops

theorem isEmpty_cut_iff : IsEmpty (Cut t) ↔ ∃ fault, parse t = .error fault := by
  constructor
  · intro hempty
    cases hparse : parse t with
    | ok parts =>
      obtain ⟨cut, -⟩ := parse_eq_ok_iff.mp hparse
      exact (hempty.false cut).elim
    | error fault => exact ⟨fault, rfl⟩
  · rintro ⟨fault, h⟩
    exact ⟨fun cut => by cases cut.parse_eq.symm.trans h⟩

end Reading

/-! ## Writing a template -/

section Writing

variable {piece t : Text} {part : Part}

theorem Part.form_print (part : Part) : Form part.print part := by
  cases part with
  | char c =>
    by_cases hopening : c = '\x7b'
    · subst hopening
      exact .opening
    by_cases hclosing : c = '\x7d'
    · subst hclosing
      exact .closing
    · rw [Part.print, if_neg (by simp [hopening, hclosing])]
      exact .plain hopening hclosing
  | placeholder p => exact .placeholder p

/-- There is one form for each part. -/
theorem Form.eq_print (h : Form piece part) : piece = part.print := by
  cases h with
  | plain hopening hclosing => simp [Part.print, hopening, hclosing]
  | opening => rfl
  | closing => rfl
  | placeholder p => rfl

namespace Cut

theorem pieces_eq (cut : Cut t) : cut.pieces = cut.parts.map Part.print := by
  have h := cut.forms.imp fun _ _ => Form.eq_print
  rwa [← List.forall₂_map_right_iff, List.forall₂_eq_eq_eq] at h

/-- **A template is cut into forms in one way at most.** -/
instance : Subsingleton (Cut t) where
  allEq cut cut' := by
    have hparts : cut.parts = cut'.parts :=
      Except.ok.inj (cut.parse_eq.symm.trans cut'.parse_eq)
    refine Cut.ext ?_ hparts
    rw [cut.pieces_eq, cut'.pieces_eq, hparts]

/-- A template that is written part by part is cut into what is written for each. -/
def ofParts (parts : List Part) : Cut (print parts) where
  pieces := parts.map Part.print
  parts := parts
  forms := List.forall₂_map_left_iff.mpr (List.forall₂_same.mpr fun part _ => part.form_print)
  flatten_pieces := rfl

end Cut

end Writing

/-- A piece of an output name: a text that is to stand there, or a placeholder. -/
inductive Segment
  | literal (t : Text)
  | placeholder (p : Placeholder)
  deriving DecidableEq, Repr

namespace Segment

/-- A segment in a template: the braces of a text are doubled, and a placeholder's name is put in
braces. -/
def print : Segment → Text
  | literal t => t.flatMap fun c => if c = '\x7b' ∨ c = '\x7d' then [c, c] else [c]
  | placeholder p => '\x7b' :: p.name.toList ++ ['\x7d']

/-- What a segment stands for. -/
def value (directory path : Text) : Segment → Text
  | literal t => t
  | placeholder p => p.value directory path

/-- The parts of a template that a segment makes. -/
def parts : Segment → List Part
  | literal t => t.map .char
  | placeholder p => [.placeholder p]

theorem print_parts (segment : Segment) : Output.print segment.parts = segment.print := by
  cases segment with
  | literal t => exact List.flatMap_map ..
  | placeholder p => exact List.flatMap_singleton ..

theorem value_parts (directory path : Text) (segment : Segment) :
    segment.parts.flatMap (Part.value directory path) = segment.value directory path := by
  cases segment with
  | literal t => exact (List.flatMap_map ..).trans (List.flatMap_singleton' t)
  | placeholder p => exact List.flatMap_singleton ..

end Segment

/-! ## Making an output name -/

section Rendering

variable {directory path t : Text}

theorem Cut.render_eq (cut : Cut t) :
    render directory t path = .ok (cut.parts.flatMap (Part.value directory path)) := by
  rw [render, cut.parse_eq]

theorem render_eq_ok_iff {out : Text} :
    render directory t path = .ok out ↔
      ∃ cut : Cut t, out = cut.parts.flatMap (Part.value directory path) := by
  constructor
  · intro h
    cases hparse : parse t with
    | ok parts =>
      obtain ⟨cut, rfl⟩ := parse_eq_ok_iff.mp hparse
      exact ⟨cut, Except.ok.inj (h.symm.trans cut.render_eq)⟩
    | error fault =>
      rw [render, hparse] at h
      cases h
  · rintro ⟨cut, rfl⟩
    exact cut.render_eq

theorem render_eq_error_iff {e : Error} :
    render directory t path = .error e ↔
      ∃ fault, parse t = .error fault ∧ e = .outputName fault := by
  rw [render]
  cases parse t <;> simp [eq_comm]

/-- **An output name is made from a template by its grammar.** There is one way at most to cut the
template into forms. If there is one, the output name is made of the values of its parts, one after
the other, and else the template is at fault where the forms that it starts with end. Any texts and
values are made by the template that doubles the braces of the texts. -/
theorem render_by_forms (directory template path : Text) :
    Subsingleton (Cut template) ∧
      (∀ out, render directory template path = .ok out ↔
        ∃ cut : Cut template, out = cut.parts.flatMap (Part.value directory path)) ∧
      (IsEmpty (Cut template) ↔
        ∃ fault, render directory template path = .error (.outputName fault)) ∧
      (∀ fault, render directory template path = .error (.outputName fault) ↔
        ∃ before rest, template = before ++ rest ∧ Nonempty (Cut before) ∧
          Stops template rest fault) ∧
      ∀ segments : List Segment, render directory (segments.flatMap Segment.print) path =
        .ok (segments.flatMap (Segment.value directory path)) := by
  refine ⟨inferInstance, fun out => render_eq_ok_iff, ?_, fun fault => ?_, fun segments => ?_⟩
  · simp only [isEmpty_cut_iff, render_eq_error_iff, Error.outputName.injEq, exists_eq_right']
  · simp only [render_eq_error_iff, Error.outputName.injEq, exists_eq_right', parse_eq_error_iff]
  · have hprint : segments.flatMap Segment.print = print (segments.flatMap Segment.parts) := by
      rw [print, List.flatMap_assoc]
      exact List.flatMap_congr fun segment _ => segment.print_parts.symm
    rw [hprint, (Cut.ofParts _).render_eq, Cut.ofParts, List.flatMap_assoc]
    exact congrArg _ (List.flatMap_congr fun segment _ => segment.value_parts directory path)

/-- Braces side by side are doubled from the left, and those of a value are no template. -/
example : render ['d'] "\x7b\x7b\x7bfnroot\x7d\x7d\x7d".toList "\x7bcwd\x7d.txt".toList =
    .ok "\x7b\x7bcwd\x7d\x7d".toList := by cbv

end Rendering

end Lector.Output
