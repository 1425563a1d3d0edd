import Mathlib
import Lector.Proofs.Text.Cutting

/-!
# The grammar of templates

A written template is a sequence of forms, each of which stands for a part: a plain character, or a
backslash with what belongs to it. Forms with digits overlap, so that a form must be as long as it
can be in front of what follows. Reading a template accepts exactly such sequences and merges what
their forms stand for. One of the forms is not meant to be there: a group is found by its number
with a plus sign, since the number is read like any other.

## Main definitions

* `Template.pieces`, `Template.Merged`: what a template writes piece by piece, and templates that
  cannot be made shorter
* `Template.merge`: a template with its texts side by side made one
* `Template.Form`: the forms, with the parts that they stand for
* `Template.Reads`: texts that are sequences of forms

## Main results

* `Template.Merged.eq_of_pieces`: a merged template is known by its pieces
* `Template.Reads.parse_eq`: a sequence of forms is read as what it stands for
* `Template.exists_reads_of_parse`: what is read is a sequence of forms
* `Template.parse_eq_ok_iff_reads`: which templates are accepted, and what they are read as
-/

namespace Lector.Rule

open Pattern (Groups Match)

/-- What a part writes, piece by piece: characters, or the text of a group. -/
def Part.pieces : Part → List (Char ⊕ Nat)
  | .text t => t.map .inl
  | .group index => [.inr index]

namespace Template

/-! ## Texts side by side -/

section Merging

variable {p : Part} {ps qs : Template} {t : Text}

/-- What a template writes, piece by piece. -/
def pieces (ps : Template) : List (Char ⊕ Nat) := ps.flatMap Part.pieces

/-- No text is empty, and none stands right behind another. -/
def Merged : Template → Prop
  | [] => True
  | .text t :: ps => t ≠ [] ∧ (∀ u, ps.head? ≠ some (.text u)) ∧ Merged ps
  | .group _ :: ps => Merged ps

/-- A template with its texts side by side made one and its empty texts left out. -/
def merge (ps : Template) : Template := ps.foldr push []

@[simp] theorem pieces_nil : pieces [] = [] := rfl

@[simp] theorem pieces_cons (p : Part) (ps : Template) :
    pieces (p :: ps) = p.pieces ++ pieces ps := rfl

@[simp] theorem pieces_push (p : Part) (ps : Template) :
    pieces (push p ps) = p.pieces ++ pieces ps := by
  unfold push
  split <;> simp [Part.pieces]

theorem Merged.push (h : Merged ps) (p : Part) : Merged (push p ps) := by
  match p, ps, h with
  | .text [], _, h => exact h
  | .text (c :: t), [], _ => exact ⟨by simp, by simp, trivial⟩
  | .text (c :: t), .text u :: _, h => exact ⟨by simp, h.2⟩
  | .text (c :: t), .group _ :: _, h => exact ⟨by simp, by simp, h⟩
  | .group _, _, h => exact h

@[simp] theorem merge_cons (p : Part) (ps : Template) : merge (p :: ps) = push p (merge ps) := rfl

theorem merged_merge (ps : Template) : Merged (merge ps) := by
  induction ps with
  | nil => trivial
  | cons p ps ih => exact ih.push p

@[simp] theorem pieces_merge (ps : Template) : pieces (merge ps) = pieces ps := by
  induction ps with
  | nil => rfl
  | cons p ps ih => rw [merge_cons, pieces_push, ih, pieces_cons]

/-- The characters in front are those of the text that comes first. -/
theorem Merged.takeWhile_pieces (h : Merged (.text t :: ps)) :
    (pieces (.text t :: ps)).takeWhile Sum.isLeft = t.map .inl := by
  have hnext : (pieces ps).takeWhile Sum.isLeft = [] := by
    match ps, h with
    | [], _ => rfl
    | .text u :: _, h => exact absurd rfl (h.2.1 u)
    | .group _ :: _, _ => rfl
  rw [pieces_cons, Part.pieces, List.takeWhile_append_of_pos (by simp), hnext, List.append_nil]

/-- **A merged template is known by its pieces.** -/
theorem Merged.eq_of_pieces (hp : Merged ps) (hq : Merged qs) (h : pieces ps = pieces qs) :
    ps = qs := by
  induction ps generalizing qs with
  | nil =>
    match qs, hq with
    | [], _ => rfl
    | .text (_ :: _) :: _, _ => simp [Part.pieces] at h
    | .text [] :: _, hq => exact absurd rfl hq.1
    | .group _ :: _, _ => simp [Part.pieces] at h
  | cons p ps ih =>
    match p, qs, hp, hq with
    | .group i, .group j :: qs, hp, hq =>
      obtain ⟨hij, hrest⟩ : i = j ∧ pieces ps = pieces qs := by simpa [Part.pieces] using h
      have hqs : Merged qs := hq
      rw [hij, ih hp hqs hrest]
    | .text t, .text u :: qs, hp, hq =>
      have hwhile := congrArg (List.takeWhile Sum.isLeft) h
      rw [hp.takeWhile_pieces, hq.takeWhile_pieces] at hwhile
      obtain rfl : t = u := (List.map_injective_iff.mpr Sum.inl_injective) hwhile
      rw [ih hp.2.2 hq.2.2 (List.append_cancel_left h)]
    | .text [], _, hp, _ => exact absurd rfl hp.1
    | .group _, .text [] :: _, _, hq => exact absurd rfl hq.1
    | .text (_ :: _), [], _, _ => simp [Part.pieces] at h
    | .text (_ :: _), .group _ :: _, _, _ => simp [Part.pieces] at h
    | .group _, [], _, _ => simp [Part.pieces] at h
    | .group _, .text (_ :: _) :: _, _, _ => simp [Part.pieces] at h

end Merging

/-! ## Forms -/

/-- Decimal digits that stand for a number of 64 bits. -/
structure IsNumber (ds : Text) (k : Nat) : Prop where
  nonempty : ds ≠ []
  digits : ∀ d ∈ ds, d.isDigit = true
  value : Nat.ofDigitChars 10 ds 0 = k
  small : k < 2 ^ 64

/-- The letters that stand for control characters behind a backslash, and the backslash itself. -/
def controls : List (Char × Char) :=
  [('n', '\n'), ('t', '\t'), ('r', '\r'), ('a', '\x07'), ('b', '\x08'), ('f', '\x0C'),
    ('v', '\x0B'), ('\\', '\\')]

/-- A text does not go on with a character with `p`. -/
def Breaks (p : Char → Bool) (rest : Text) : Prop := ∀ c, rest.head? = some c → p c = false

/-- The forms of a template in front of a text, with the parts that they stand for. If `signs` is
set, there may be a plus sign in front of the number of a group. -/
inductive Form (signs : Bool) (g : Groups) (rest : Text) : Text → Part → Prop
  /-- A character that is no backslash. -/
  | plain {c : Char} (hc : c ≠ '\\') : Form signs g rest [c] (.text [c])
  /-- A zero with up to two more octal digits: the character with this number. -/
  | zero {ds : Text} (hds : ∀ d ∈ ds, isOctal d = true) (hlen : ds.length ≤ 2)
      (hrest : ds.length = 2 ∨ Breaks isOctal rest) :
      Form signs g rest ('\\' :: '0' :: ds) (.text [Char.ofNat (Nat.ofDigitChars 8 ds 0)])
  /-- Three octal digits of which the first is not zero: the character with this number. -/
  | octal {a b c : Char} (ha : a ≠ '0') (hds : ∀ d ∈ [a, b, c], isOctal d = true)
      (hmax : Nat.ofDigitChars 8 [a, b, c] 0 ≤ 0o377) :
      Form signs g rest ['\\', a, b, c] (.text [Char.ofNat (Nat.ofDigitChars 8 [a, b, c] 0)])
  /-- A digit that is not zero: the group with this number. -/
  | oneDigit {a : Char} (ha : a ≠ '0') (hds : a.isDigit = true) (hrest : Breaks Char.isDigit rest)
      (hk : Nat.ofDigitChars 10 [a] 0 < g.count) :
      Form signs g rest ['\\', a] (.group (Nat.ofDigitChars 10 [a] 0))
  /-- Two digits of which the first is not zero, and which are not the first of three octal
  digits: the group with this number. -/
  | twoDigits {a b : Char} (ha : a ≠ '0') (hds : ∀ d ∈ [a, b], d.isDigit = true)
      (hrest : isOctal a = true → isOctal b = true → Breaks isOctal rest)
      (hk : Nat.ofDigitChars 10 [a, b] 0 < g.count) :
      Form signs g rest ['\\', a, b] (.group (Nat.ofDigitChars 10 [a, b] 0))
  /-- The number of a group in brackets. -/
  | index {ds : Text} {k : Nat} (h : IsNumber ds k) (hk : k < g.count) :
      Form signs g rest ('\\' :: 'g' :: '<' :: (ds ++ ['>'])) (.group k)
  /-- The number of a group in brackets, with a plus sign. -/
  | signed {ds : Text} {k : Nat} (hs : signs = true) (h : IsNumber ds k) (hk : k < g.count) :
      Form signs g rest ('\\' :: 'g' :: '<' :: '+' :: (ds ++ ['>'])) (.group k)
  /-- The name of a group in brackets. What can be read as a number is no name. -/
  | name {n : Text} {k : Nat} (hmark : '>' ∉ n)
      (hn : ∀ ds k, IsNumber ds k → n ≠ ds ∧ n ≠ '+' :: ds) (hk : g.named? n = some k) :
      Form signs g rest ('\\' :: 'g' :: '<' :: (n ++ ['>'])) (.group k)
  /-- A letter that stands for a control character, or a second backslash. -/
  | control {c d : Char} (h : (c, d) ∈ controls) : Form signs g rest ['\\', c] (.text [d])
  /-- A character that is neither a letter nor a digit: the backslash stays. -/
  | other {c : Char} (hc : c.isAlphanum = false) (hb : c ≠ '\\') :
      Form signs g rest ['\\', c] (.text ['\\', c])

/-- A text is a sequence of forms, which stand for given parts. -/
inductive Reads (signs : Bool) (g : Groups) : Text → Template → Prop
  | nil : Reads signs g [] []
  | cons {source rest : Text} {p : Part} {ps : Template} (h : Form signs g rest source p)
      (hrest : Reads signs g rest ps) : Reads signs g (source ++ rest) (p :: ps)

/-! ## Numbers -/

section Numbers

variable {c : Char} {t n : Text} {k : Nat}

theorem isDigit_of_isOctal (h : isOctal c = true) : c.isDigit = true := by
  simp only [isOctal, Bool.and_eq_true, decide_eq_true_eq, Char.le_def] at h
  simp only [Char.isDigit, Bool.and_eq_true, decide_eq_true_eq]
  have h7 : '7'.val ≤ '9'.val := by decide
  exact ⟨h.1, UInt32.le_trans h.2 h7⟩

theorem foldDigits_eq (base : Nat) (t : Text) :
    Text.foldDigits base (fun c => c.toNat - '0'.toNat) 0 t = Nat.ofDigitChars base t 0 := by
  simp only [Text.foldDigits, Nat.ofDigitChars, Nat.mul_comm]

theorem octalValue_eq (t : Text) : octalValue t = Nat.ofDigitChars 8 t 0 := foldDigits_eq 8 t

theorem readDigits?_eq_some_iff :
    Text.readDigits? t = some k ↔
      t ≠ [] ∧ (∀ d ∈ t, d.isDigit = true) ∧ Nat.ofDigitChars 10 t 0 = k := by
  unfold Text.readDigits?
  rw [foldDigits_eq]
  cases t <;> simp [and_assoc]

/-- A number is read from its digits, which may follow a plus sign. -/
theorem readNat64?_eq_some_iff :
    Text.readNat64? n = some k ↔ ∃ ds, (n = ds ∨ n = '+' :: ds) ∧ IsNumber ds k := by
  have hread (ds : Text) : (Text.readDigits? ds >>= fun m =>
      if m < Nat.pow 2 64 then some m else none) = some k ↔ IsNumber ds k := by
    simp only [Option.bind_eq_bind, Option.bind_eq_some_iff, readDigits?_eq_some_iff,
      Option.ite_none_right_eq_some, Option.some.injEq]
    constructor
    · rintro ⟨m, ⟨hne, hds, rfl⟩, hsmall, rfl⟩
      exact ⟨hne, hds, rfl, hsmall⟩
    · rintro ⟨hne, hds, rfl, hsmall⟩
      exact ⟨_, ⟨hne, hds, rfl⟩, hsmall, rfl⟩
  unfold Text.readNat64?
  split
  · next ds =>
    refine (hread ds).trans ⟨fun h => ⟨ds, Or.inr rfl, h⟩, ?_⟩
    rintro ⟨ds', rfl | h, hnumber⟩
    · exact absurd (hnumber.digits '+' (by simp)) (by decide)
    · obtain rfl : ds = ds' := (List.cons.inj h).2
      exact hnumber
  · next hplus =>
    refine (hread n).trans ⟨fun h => ⟨n, Or.inl rfl, h⟩, ?_⟩
    rintro ⟨ds, rfl | rfl, hnumber⟩
    · exact hnumber
    · exact absurd rfl (hplus ds)

theorem IsNumber.not_mem (h : IsNumber t k) (hc : c.isDigit = false) : c ∉ t := by
  intro hm
  rw [h.digits c hm] at hc
  cases hc

end Numbers

/-! ## Reading one form -/

section Escapes

variable {signs : Bool} {g : Groups} {rest s t : Text} {p : Part} {a c : Char} {n : Nat}

theorem breaks_of_not {p : Char → Bool} (h : p c = false) : Breaks p (c :: rest) := by
  rintro d ⟨⟩
  exact h

theorem breaks_nil (p : Char → Bool) : Breaks p [] := by
  rintro d ⟨⟩

/-- At most `k` characters with `p` are taken, as many as there are. -/
theorem takeWhile_take_append {p : Char → Bool} {ds : Text} {k : Nat} (hds : ∀ d ∈ ds, p d = true)
    (hlen : ds.length ≤ k) (hrest : ds.length = k ∨ Breaks p rest) :
    ((ds ++ rest).take k).takeWhile p = ds := by
  rw [List.take_append, List.take_of_length_le hlen, List.takeWhile_append_of_pos hds]
  rcases hrest with hfull | hbreak
  · simp [hfull]
  · match rest, k - ds.length, hbreak with
    | [], _, _ => simp
    | _ :: _, 0, _ => simp
    | c :: _, _ + 1, hbreak => simp [hbreak c rfl]

theorem exists_takeWhile_take (p : Char → Bool) (k : Nat) (t : Text) :
    ∃ ds rest, t = ds ++ rest ∧ (t.take k).takeWhile p = ds ∧ (∀ d ∈ ds, p d = true) ∧
      ds.length ≤ k ∧ (ds.length = k ∨ Breaks p rest) := by
  induction k generalizing t with
  | zero => exact ⟨[], t, rfl, rfl, by simp, by simp, Or.inl rfl⟩
  | succ k ih =>
    match t with
    | [] => exact ⟨[], [], rfl, rfl, by simp, by simp, Or.inr (breaks_nil p)⟩
    | c :: t =>
      by_cases hc : p c = true
      · obtain ⟨ds, rest, rfl, htake, hds, hlen, hrest⟩ := ih t
        refine ⟨c :: ds, rest, rfl, ?_, ?_, ?_, ?_⟩
        · simp [hc, htake]
        · simpa [hc] using hds
        · simpa using hlen
        · simpa using hrest
      · have hc : p c = false := by simpa using hc
        exact ⟨[], c :: t, rfl, by simp [hc], by simp, by simp, Or.inr (breaks_of_not hc)⟩

theorem sub_zero_le_of_isOctal (h : isOctal c = true) : c.toNat - '0'.toNat ≤ 7 := by
  simp only [isOctal, Bool.and_eq_true, decide_eq_true_eq, Char.le_def] at h
  have hle : c.toNat ≤ '7'.toNat := h.2
  have h7 : '7'.toNat = 55 := rfl
  have h0 : '0'.toNat = 48 := rfl
  omega

/-- Two octal digits stand for a small number. -/
theorem ofDigitChars_le {ds : Text} (hds : ∀ d ∈ ds, isOctal d = true) (hlen : ds.length ≤ 2) :
    Nat.ofDigitChars 8 ds 0 ≤ 0o377 := by
  match ds, hlen with
  | [], _ => decide
  | [a], _ =>
    have ha := sub_zero_le_of_isOctal (hds a (by simp))
    simp only [Nat.ofDigitChars, List.foldl_cons, List.foldl_nil]
    omega
  | [a, b], _ =>
    have ha := sub_zero_le_of_isOctal (hds a (by simp))
    have hb := sub_zero_le_of_isOctal (hds b (by simp))
    simp only [Nat.ofDigitChars, List.foldl_cons, List.foldl_nil]
    omega

/-- Whether a text starts with three octal digits. -/
theorem octal_take_iff (t : Text) :
    ((t.take 3).length = 3 && (t.take 3).all isOctal) = true ↔
      ∃ a b c rest, t = a :: b :: c :: rest ∧ ∀ d ∈ [a, b, c], isOctal d = true := by
  match t with
  | [] | [_] | [_, _] => simp
  | a :: b :: c :: rest => simp

theorem octalPart_eq (ds : Text) : octalPart ds =
    if Nat.ofDigitChars 8 ds 0 ≤ 0o377 then .ok (.text [Char.ofNat (Nat.ofDigitChars 8 ds 0)])
    else .error (.octalTooLarge (Nat.ofDigitChars 8 ds 0)) := by
  simp only [octalPart, octalValue_eq]

theorem readEscape_group (t : Text) (h : ∀ u, t ≠ '<' :: u) :
    readEscape g ('g' :: t) = .error .noBracket := by
  rw [readEscape]
  exact h

theorem readEscape_bracket (t : Text) : readEscape g ('g' :: '<' :: t) =
    match Text.cutAt? '>' t with
    | some (name, _) => (namedPart g name).map (·, name.length + 3)
    | none => .error (.unclosedName t) := by
  cases hcut : Text.cutAt? '>' t <;> simp [readEscape, hcut]

theorem readEscape_zero (t : Text) : readEscape g ('0' :: t) =
    (octalPart ((t.take 2).takeWhile isOctal)).map
      (·, ((t.take 2).takeWhile isOctal).length + 1) := by
  simp [readEscape]

theorem readEscape_digit (ha : a ≠ '0') (hd : a.isDigit = true) (t : Text) :
    readEscape g (a :: t) =
      if ((a :: t).take 3).length = 3 && ((a :: t).take 3).all isOctal then
        (octalPart ((a :: t).take 3)).map (·, 3)
      else
        (groupPart g (Nat.ofDigitChars 10 (a :: (t.take 1).takeWhile Char.isDigit) 0)).map
          (·, (a :: (t.take 1).takeWhile Char.isDigit).length) := by
  have hg : a ≠ 'g' := by rintro rfl; simp at hd
  rw [readEscape]
  · simp only [hd, if_true, foldDigits_eq]
  · exact hg
  · exact ha

theorem readEscape_other (hg : c ≠ 'g') (hd : c.isDigit = false) (t : Text) :
    readEscape g (c :: t) =
      match controlChar? c with
      | some control => .ok (.text [control], 1)
      | none => if c.isAlpha then .error (.unknownEscape c) else .ok (.text ['\\', c], 1) := by
  -- the equation is the one for a character that is neither the letter nor the zero
  have h0 : c ≠ '0' := by
    rintro rfl
    simp at hd
  have hdigit : ¬ c.isDigit = true := by simp [hd]
  cases hcontrol : controlChar? c <;> simp [readEscape, hdigit, hcontrol]

theorem controlChar?_eq_some_iff {d : Char} : controlChar? c = some d ↔ (c, d) ∈ controls := by
  unfold controlChar? controls
  split <;> simp_all [eq_comm]

theorem of_mem_controls {d : Char} (h : (c, d) ∈ controls) :
    c ≠ 'g' ∧ c.isDigit = false ∧ (c.isAlpha = true ∨ c = '\\') := by
  simp only [controls, List.mem_cons, Prod.mk.injEq, List.not_mem_nil, or_false] at h
  rcases h with ⟨rfl, -⟩ | ⟨rfl, -⟩ | ⟨rfl, -⟩ | ⟨rfl, -⟩ | ⟨rfl, -⟩ | ⟨rfl, -⟩ | ⟨rfl, -⟩ |
    ⟨rfl, -⟩ <;> decide

theorem namedPart_of_number {ds : Text} {k : Nat} {n : Text} (h : IsNumber ds k)
    (hn : n = ds ∨ n = '+' :: ds) (hk : k < g.count) : namedPart g n = .ok (.group k) := by
  have hread : Text.readNat64? n = some k := readNat64?_eq_some_iff.mpr ⟨ds, hn, h⟩
  simp [namedPart, hread, groupPart, hk]

theorem namedPart_of_name {n : Text} {k : Nat} (hn : ∀ ds k, IsNumber ds k → n ≠ ds ∧ n ≠ '+' :: ds)
    (hk : g.named? n = some k) : namedPart g n = .ok (.group k) := by
  have hread : Text.readNat64? n = none := by
    refine Option.eq_none_iff_forall_ne_some.mpr fun m hm => ?_
    obtain ⟨ds, hds, hnumber⟩ := readNat64?_eq_some_iff.mp hm
    obtain ⟨h1, h2⟩ := hn ds m hnumber
    exact hds.elim h1 h2
  simp [namedPart, hread, hk]

/-- What stands in brackets is the number of a group or a name. -/
theorem namedPart_eq_ok {n : Text} (h : namedPart g n = .ok p) :
    ∃ k, p = .group k ∧
      ((∃ ds, (n = ds ∨ n = '+' :: ds) ∧ IsNumber ds k ∧ k < g.count) ∨
        (∀ ds k, IsNumber ds k → n ≠ ds ∧ n ≠ '+' :: ds) ∧ g.named? n = some k) := by
  unfold namedPart at h
  split at h
  · next k hread =>
    obtain ⟨ds, hds, hnumber⟩ := readNat64?_eq_some_iff.mp hread
    unfold groupPart at h
    split at h
    · next hk =>
      cases h
      exact ⟨k, rfl, Or.inl ⟨ds, hds, hnumber, hk⟩⟩
    · cases h
  · next hread =>
    split at h
    · next k hk =>
      cases h
      refine ⟨k, rfl, Or.inr ⟨fun ds m hm => ?_, hk⟩⟩
      have hnone (hn : n = ds ∨ n = '+' :: ds) : False := by
        rw [readNat64?_eq_some_iff.mpr ⟨ds, hn, hm⟩] at hread
        cases hread
      exact ⟨fun hn => hnone (Or.inl hn), fun hn => hnone (Or.inr hn)⟩
    · cases h

/-- **A form behind its backslash is read as what it stands for.** -/
theorem Form.readEscape_eq (h : Form true g rest ('\\' :: s) p) :
    readEscape g (s ++ rest) = .ok (p, s.length) := by
  -- the digit forms are told apart by what `rest` must not go on with
  cases h with
  | plain hc => exact absurd rfl hc
  | @zero ds hds hlen hrest =>
    have hrun := takeWhile_take_append hds hlen hrest
    rw [List.cons_append, readEscape_zero, hrun, octalPart_eq, if_pos (ofDigitChars_le hds hlen)]
    rfl
  | @octal a b c ha hds hmax =>
    have htriple := (octal_take_iff (a :: b :: c :: rest)).mpr ⟨a, b, c, rest, rfl, hds⟩
    have hd := isDigit_of_isOctal (hds a (by simp))
    have htake : (a :: b :: c :: rest).take 3 = [a, b, c] := rfl
    simp only [List.cons_append, List.nil_append]
    rw [readEscape_digit ha hd, if_pos htriple, htake, octalPart_eq, if_pos hmax]
    rfl
  | @oneDigit a ha hds hrest hk =>
    have htriple : ¬ (((a :: rest).take 3).length = 3 &&
        ((a :: rest).take 3).all isOctal) = true := by
      rw [octal_take_iff]
      rintro ⟨a', b, c, u, heq, hoctal⟩
      obtain ⟨rfl, rfl⟩ := List.cons.inj heq
      have hb := hrest b rfl
      rw [isDigit_of_isOctal (hoctal b (by simp))] at hb
      cases hb
    have hrun : (([] ++ rest).take 1).takeWhile Char.isDigit = [] :=
      takeWhile_take_append (by simp) (by simp) (Or.inr hrest)
    rw [List.nil_append] at hrun
    rw [List.singleton_append, readEscape_digit ha hds, if_neg htriple, hrun, groupPart, if_pos hk]
    rfl
  | @twoDigits a b ha hds hrest hk =>
    have htriple : ¬ (((a :: b :: rest).take 3).length = 3 &&
        ((a :: b :: rest).take 3).all isOctal) = true := by
      rw [octal_take_iff]
      rintro ⟨a', b', c, u, heq, hoctal⟩
      simp only [List.cons.injEq] at heq
      obtain ⟨rfl, rfl, rfl⟩ := heq
      have hc := hrest (hoctal a (by simp)) (hoctal b (by simp)) c rfl
      rw [hoctal c (by simp)] at hc
      cases hc
    have hb : (((b :: rest).take 1).takeWhile Char.isDigit) = [b] := by
      simp [hds b (by simp)]
    simp only [List.cons_append, List.nil_append]
    rw [readEscape_digit ha (hds a (by simp)), if_neg htriple, hb, groupPart, if_pos hk]
    rfl
  | @index ds k hnumber hk =>
    have hcut := Text.cutAt?_append_cons (hnumber.not_mem (c := '>') rfl) rest
    simp only [List.cons_append, List.append_assoc, List.nil_append]
    rw [readEscape_bracket, hcut]
    simp [namedPart_of_number hnumber (Or.inl rfl) hk, Except.map]
  | @signed ds k _ hnumber hk =>
    have hmark : '>' ∉ '+' :: ds := by simp [hnumber.not_mem (c := '>') rfl]
    have hcut := Text.cutAt?_append_cons hmark rest
    simp only [List.cons_append, List.append_assoc, List.nil_append] at hcut ⊢
    rw [readEscape_bracket, hcut]
    simp [namedPart_of_number hnumber (Or.inr rfl) hk, Except.map]
  | @name n k hmark hn hk =>
    have hcut := Text.cutAt?_append_cons hmark rest
    simp only [List.cons_append, List.append_assoc, List.nil_append]
    rw [readEscape_bracket, hcut]
    simp [namedPart_of_name hn hk, Except.map]
  | @control c d hcd =>
    obtain ⟨hg, hd, -⟩ := of_mem_controls hcd
    rw [List.singleton_append, readEscape_other hg hd, controlChar?_eq_some_iff.mpr hcd]
    rfl
  | @other c hc hb =>
    have hg : c ≠ 'g' := by rintro rfl; simp at hc
    obtain ⟨halpha, hd⟩ : c.isAlpha = false ∧ c.isDigit = false := by
      simpa [Char.isAlphanum] using hc
    have hnone : controlChar? c = none := by
      refine Option.eq_none_iff_forall_ne_some.mpr fun d hcd => ?_
      obtain ⟨-, -, h | h⟩ := of_mem_controls (controlChar?_eq_some_iff.mp hcd)
      · rw [halpha] at h
        cases h
      · exact hb h
    rw [List.singleton_append, readEscape_other hg hd, hnone]
    simp [halpha]

/-- What is read behind `\g` is the number or the name of a group. -/
theorem exists_form_of_readEscape_bracket (h : readEscape g ('g' :: t) = .ok (p, n)) :
    ∃ s rest, 'g' :: t = s ++ rest ∧ s.length = n ∧ Form true g rest ('\\' :: s) p := by
  obtain ⟨t, rfl⟩ : ∃ u, t = '<' :: u := by
    by_contra hne
    rw [readEscape_group t (fun u hu => hne ⟨u, hu⟩)] at h
    cases h
  rw [readEscape_bracket] at h
  cases hcut : Text.cutAt? '>' t with
  | none => simp [hcut] at h
  | some cut =>
    obtain ⟨name, rest⟩ := cut
    obtain ⟨hmark, rfl⟩ := Text.eq_of_cutAt? hcut
    cases hpart : namedPart g name with
    | error fault => simp [hcut, hpart, Except.map] at h
    | ok q =>
      obtain ⟨rfl, rfl⟩ : q = p ∧ name.length + 3 = n := by simpa [hcut, hpart, Except.map] using h
      refine ⟨'g' :: '<' :: (name ++ ['>']), rest, by simp, by simp, ?_⟩
      obtain ⟨k, rfl, ⟨ds, rfl | rfl, hnumber, hk⟩ | ⟨hn, hk⟩⟩ := namedPart_eq_ok hpart
      · exact .index hnumber hk
      · exact .signed rfl hnumber hk
      · exact .name hmark hn hk

/-- What is read behind a backslash and a zero is an octal number. -/
theorem exists_form_of_readEscape_zero (h : readEscape g ('0' :: t) = .ok (p, n)) :
    ∃ s rest, '0' :: t = s ++ rest ∧ s.length = n ∧ Form true g rest ('\\' :: s) p := by
  obtain ⟨ds, rest, rfl, hrun, hds, hlen, hrest⟩ := exists_takeWhile_take isOctal 2 t
  rw [readEscape_zero, hrun, octalPart_eq, if_pos (ofDigitChars_le hds hlen)] at h
  obtain ⟨rfl, rfl⟩ : _ = p ∧ ds.length + 1 = n := by simpa [Except.map] using h
  exact ⟨'0' :: ds, rest, rfl, rfl, .zero hds hlen hrest⟩

/-- What is read behind a backslash and another digit is an octal number or the number of a
group. -/
theorem exists_form_of_readEscape_digit (ha : a ≠ '0') (hd : a.isDigit = true)
    (h : readEscape g (a :: t) = .ok (p, n)) :
    ∃ s rest, a :: t = s ++ rest ∧ s.length = n ∧ Form true g rest ('\\' :: s) p := by
  rw [readEscape_digit ha hd] at h
  split at h
  · next htriple =>
    obtain ⟨a', b, c, rest, heq, hoctal⟩ := (octal_take_iff _).mp htriple
    obtain ⟨rfl, rfl⟩ := List.cons.inj heq
    have htake : (a :: b :: c :: rest).take 3 = [a, b, c] := rfl
    rw [htake, octalPart_eq] at h
    split at h
    · next hmax =>
      obtain ⟨rfl, rfl⟩ : _ = p ∧ 3 = n := by simpa [Except.map] using h
      exact ⟨[a, b, c], rest, rfl, rfl, .octal ha hoctal hmax⟩
    · cases h
  · next htriple =>
    obtain ⟨ds, rest, rfl, hrun, hds, hlen, hrest⟩ := exists_takeWhile_take Char.isDigit 1 t
    rw [hrun, groupPart] at h
    split at h
    · next hk =>
      obtain ⟨rfl, rfl⟩ : _ = p ∧ ds.length + 1 = n := by simpa [Except.map] using h
      match ds, hlen, hrest with
      | [], _, hrest =>
        exact ⟨[a], rest, rfl, rfl, .oneDigit ha hd (hrest.resolve_left (by simp)) hk⟩
      | [b], _, _ =>
        refine ⟨[a, b], rest, rfl, rfl, .twoDigits ha ?_ ?_ hk⟩
        · simpa [hd] using hds
        · intro hoa hob c hc
          obtain ⟨u, rfl⟩ := List.head?_eq_some_iff.mp hc
          refine Bool.eq_false_iff.mpr fun hoc => htriple ?_
          exact (octal_take_iff _).mpr ⟨a, b, c, u, rfl, by simp [hoa, hob, hoc]⟩
    · cases h

/-- What is read behind a backslash and any other character is that character or what it stands
for. -/
theorem exists_form_of_readEscape_other (hg : c ≠ 'g') (hd : c.isDigit = false)
    (h : readEscape g (c :: t) = .ok (p, n)) :
    ∃ s rest, c :: t = s ++ rest ∧ s.length = n ∧ Form true g rest ('\\' :: s) p := by
  rw [readEscape_other hg hd] at h
  refine ⟨[c], t, rfl, ?_⟩
  cases hcontrol : controlChar? c with
  | some d =>
    obtain ⟨rfl, rfl⟩ : _ = p ∧ 1 = n := by simpa [hcontrol] using h
    exact ⟨rfl, .control (controlChar?_eq_some_iff.mp hcontrol)⟩
  | none =>
    by_cases halpha : c.isAlpha = true
    · simp [hcontrol, halpha] at h
    · obtain ⟨rfl, rfl⟩ : _ = p ∧ 1 = n := by simpa [hcontrol, halpha] using h
      refine ⟨rfl, .other (by simp [Char.isAlphanum, hd, halpha]) ?_⟩
      rintro rfl
      cases hcontrol

/-- **What is read behind a backslash is a form.** -/
theorem exists_form_of_readEscape (h : readEscape g t = .ok (p, n)) :
    ∃ s rest, t = s ++ rest ∧ s.length = n ∧ Form true g rest ('\\' :: s) p := by
  match t with
  | [] => cases h
  | c :: t =>
    by_cases hg : c = 'g'
    · subst hg
      exact exists_form_of_readEscape_bracket h
    · by_cases hd : c.isDigit = true
      · by_cases h0 : c = '0'
        · subst h0
          exact exists_form_of_readEscape_zero h
        · exact exists_form_of_readEscape_digit h0 hd h
      · exact exists_form_of_readEscape_other hg (by simpa using hd) h

end Escapes

/-! ## Reading templates -/

section Reading

variable {signs : Bool} {g : Groups} {rest source s t : Text} {p : Part} {ps q : Template}

@[simp] theorem parse_nil : parse g [] = .ok [] := by
  rw [parse]

theorem parse_plain {c : Char} (hc : c ≠ '\\') (t : Text) :
    parse g (c :: t) = (parse g t).map (push (.text [c])) := by
  rw [parse, if_neg hc]

theorem parse_backslash (t : Text) : parse g ('\\' :: t) =
    match readEscape g t with
    | .error fault => .error fault
    | .ok (part, n) => (parse g (t.drop n)).map (push part) := by
  rcases hescape : readEscape g t with fault | ⟨part, n⟩ <;> simp [parse, hescape]

/-- Only signs tell the two kinds of forms apart. -/
theorem Form.with_signs {signs' : Bool} (h : Form signs g rest source p)
    (hs : signs = true → signs' = true ∨ ¬ "\\g<+".toList <+: source) :
    Form signs' g rest source p := by
  cases h with
  | plain hc => exact .plain hc
  | zero hds hlen hrest => exact .zero hds hlen hrest
  | octal ha hds hmax => exact .octal ha hds hmax
  | oneDigit ha hds hrest hk => exact .oneDigit ha hds hrest hk
  | twoDigits ha hds hrest hk => exact .twoDigits ha hds hrest hk
  | index h hk => exact .index h hk
  | @signed ds k htrue h hk =>
    rcases hs htrue with hs' | hsign
    · exact .signed hs' h hk
    · exact absurd ⟨ds ++ ['>'], rfl⟩ hsign
  | name hmark hn hk => exact .name hmark hn hk
  | control h => exact .control h
  | other hc hb => exact .other hc hb

theorem Reads.with_signs {signs' : Bool} (h : Reads signs g t ps)
    (hs : signs = true → signs' = true ∨ ¬ "\\g<+".toList <:+: t) : Reads signs' g t ps := by
  induction h with
  | nil => exact .nil
  | @cons source rest p ps h _ ih =>
    refine .cons (h.with_signs fun htrue => ?_) (ih fun htrue => ?_)
    · refine (hs htrue).imp_right fun hsign hpre => hsign ?_
      exact (hpre.trans (List.prefix_append source rest)).isInfix
    · refine (hs htrue).imp_right fun hsign hinfix => hsign ?_
      exact hinfix.trans (List.suffix_append source rest).isInfix

/-- A form is a plain character or starts with a backslash. -/
theorem Form.source_cases (h : Form signs g rest source p) :
    (∃ c, c ≠ '\\' ∧ source = [c] ∧ p = .text [c]) ∨ ∃ s, source = '\\' :: s := by
  cases h with
  | plain hc => exact Or.inl ⟨_, hc, rfl, rfl⟩
  | _ => exact Or.inr ⟨_, rfl⟩

/-- A form in front of a text adds the part that it stands for. -/
theorem Form.parse_append (h : Form true g rest source p) :
    parse g (source ++ rest) = (parse g rest).map (push p) := by
  rcases h.source_cases with ⟨c, hc, rfl, rfl⟩ | ⟨s, rfl⟩
  · exact parse_plain hc rest
  · rw [List.cons_append, parse_backslash, h.readEscape_eq]
    simp

/-- **A sequence of forms is read as what it stands for.** -/
theorem Reads.parse_eq (h : Reads true g t ps) : parse g t = .ok (merge ps) := by
  induction h with
  | nil => exact parse_nil
  | cons h _ ih => rw [h.parse_append, ih, merge_cons]; rfl

/-- **What is read is a sequence of forms.** -/
theorem exists_reads_of_parse (h : parse g t = .ok q) : ∃ ps, Reads true g t ps ∧ q = merge ps := by
  -- by the length of what is still to be read, since a form may take several characters
  induction hlen : t.length using Nat.strong_induction_on generalizing t q with
  | _ len ih =>
    subst hlen
    match t with
    | [] =>
      obtain rfl : [] = q := by simpa using h
      exact ⟨[], .nil, rfl⟩
    | c :: t =>
      -- in both cases a form comes first, and the rest is shorter
      obtain ⟨source, rest, p, ht, hne, hform⟩ : ∃ source rest p, c :: t = source ++ rest ∧
          source ≠ [] ∧ Form true g rest source p := by
        by_cases hc : c = '\\'
        · subst hc
          rw [parse_backslash] at h
          cases hread : readEscape g t with
          | error fault => simp [hread] at h
          | ok read =>
            obtain ⟨s, rest, rfl, -, hform⟩ := exists_form_of_readEscape hread
            exact ⟨'\\' :: s, rest, read.1, rfl, by simp, hform⟩
        · exact ⟨[c], t, .text [c], rfl, by simp, .plain hc⟩
      rw [ht] at h ih ⊢
      rw [hform.parse_append] at h
      cases hrest : parse g rest with
      | error fault => simp [hrest, Except.map] at h
      | ok r =>
        obtain rfl : push p r = q := by simpa [hrest, Except.map] using h
        have hlt : rest.length < (source ++ rest).length := by
          have := List.length_pos_iff.mpr hne
          simp only [List.length_append]
          omega
        obtain ⟨ps, hreads, rfl⟩ := ih rest.length hlt hrest rfl
        exact ⟨p :: ps, .cons hform hreads, rfl⟩

/-- **Which templates are accepted, and what they are read as**: the sequences of forms, signs in
front of numbers included, and the parts that they stand for with texts side by side made one. A
template without signs is read as if there were no such form. -/
theorem parse_eq_ok_iff_reads (g : Groups) (t : Text) (q : Template) :
    (parse g t = .ok q ↔ ∃ ps, Reads true g t ps ∧ Merged q ∧ pieces q = pieces ps) ∧
      (¬ "\\g<+".toList <:+: t →
        (parse g t = .ok q ↔ ∃ ps, Reads false g t ps ∧ Merged q ∧ pieces q = pieces ps)) := by
  have haccept (ps : Template) (h : Reads true g t ps) :
      parse g t = .ok q ↔ Merged q ∧ pieces q = pieces ps := by
    rw [h.parse_eq]
    constructor
    · rintro ⟨⟩
      exact ⟨merged_merge ps, pieces_merge ps⟩
    · rintro ⟨hq, hpieces⟩
      rw [hq.eq_of_pieces (merged_merge ps) (hpieces.trans (pieces_merge ps).symm)]
  have hread (h : parse g t = .ok q) :
      ∃ ps, Reads true g t ps ∧ Merged q ∧ pieces q = pieces ps := by
    obtain ⟨ps, hps, -⟩ := exists_reads_of_parse h
    exact ⟨ps, hps, (haccept ps hps).mp h⟩
  refine ⟨⟨hread, ?_⟩, fun hsign => ⟨fun h => ?_, ?_⟩⟩
  · rintro ⟨ps, hps, hq⟩
    exact (haccept ps hps).mpr hq
  · obtain ⟨ps, hps, hq⟩ := hread h
    exact ⟨ps, hps.with_signs fun _ => Or.inr hsign, hq⟩
  · rintro ⟨ps, hps, hq⟩
    exact (haccept ps (hps.with_signs fun _ => Or.inl rfl)).mpr hq

/-- The number of a group is read with a plus sign in front of it. -/
theorem parse_signed_number :
    parse { count := 2, names := [] } "\\g<+1>".toList = .ok [.group 1] ∧
      ¬ ∃ ps, Reads false { count := 2, names := [] } "\\g<+1>".toList ps := by
  have hlist : "\\g<+1>".toList = ['\\', 'g', '<', '+', '1', '>'] := by decide
  have hnumber : IsNumber ['1'] 1 := ⟨by simp, by simp, rfl, by norm_num⟩
  have hform : Form true { count := 2, names := [] } [] ['\\', 'g', '<', '+', '1', '>'] (.group 1) :=
    .signed rfl hnumber (by decide)
  rw [hlist]
  constructor
  · exact (parse_eq_ok_iff_reads _ _ _).1.mpr ⟨_, .cons hform .nil, trivial, rfl⟩
  · rintro ⟨ps, h⟩
    generalize ht : ['\\', 'g', '<', '+', '1', '>'] = t at h
    cases h with
    | nil => cases ht
    | cons h _ =>
      cases h with
      | plain hc => exact hc (List.cons.inj ht).1.symm
      | zero => cases ht
      | octal _ hds => cases ht; exact absurd (hds 'g' (by simp)) (by decide)
      | oneDigit _ hd => cases ht; exact absurd hd (by decide)
      | twoDigits _ hds => cases ht; exact absurd (hds 'g' (by simp)) (by decide)
      | index h =>
        obtain ⟨d, ds, rfl⟩ := List.exists_cons_of_ne_nil h.nonempty
        obtain ⟨rfl, -⟩ : '+' = d ∧ _ := by simpa using ht
        exact absurd (h.digits '+' (by simp)) (by decide)
      | signed hs => cases hs
      | name _ _ hk => simp [Groups.named?] at hk
      | control h => cases ht; simp [controls] at h
      | other hc => cases ht; exact absurd hc (by decide)

end Reading

end Template

end Lector.Rule
