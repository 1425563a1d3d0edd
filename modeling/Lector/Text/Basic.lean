/-!
# Texts

A text is the list of its characters. This module holds the operations on texts that the rest of
the library is written in: trimming, cutting at a character, and comparison up to ASCII case.

## Main definitions

* `Text` - a list of characters.
* `isBlank` - the white space characters.
* `Text.trim` - a text without the white space around it.
* `Text.cutAt?`, `Text.cutLast?` - the parts of a text before and after the first or last occurrence
  of a character.
* `Text.lines` - the lines of a text.
-/

namespace Lector

/-- A text is the list of its characters. -/
abbrev Text := List Char

/-- The white space characters: the controls from TAB to CR, the space, NEL, and the spaces and
separators of the higher planes of writing. -/
def isBlank (c : Char) : Bool :=
  let n := c.toNat
  (9 ≤ n && n ≤ 13) || n == 0x20 || n == 0x85 || n == 0xA0 || n == 0x1680 ||
    (0x2000 ≤ n && n ≤ 0x200A) || n == 0x2028 || n == 0x2029 || n == 0x202F || n == 0x205F ||
    n == 0x3000

/-- The lower case form of an ASCII capital; every other character stands for itself. -/
def lowerAscii (c : Char) : Char := if c.isUpper then c.toLower else c

namespace Text

/-- Drops the longest run of characters with `p` from the end. -/
def dropEndWhile (p : Char → Bool) (t : Text) : Text := (t.reverse.dropWhile p).reverse

def trimStart (t : Text) : Text := t.dropWhile isBlank

def trimEnd (t : Text) : Text := dropEndWhile isBlank t

def trim (t : Text) : Text := trimEnd (trimStart t)

def lower (t : Text) : Text := t.map lowerAscii

/-- What follows the first argument, if the second starts with it. -/
def dropPrefix? : Text → Text → Option Text
  | [], t => some t
  | _ :: _, [] => none
  | p :: ps, c :: t => if p = c then dropPrefix? ps t else none

/-- What comes before the first argument, if the second ends with it. -/
def dropSuffix? (s t : Text) : Option Text := (dropPrefix? s.reverse t.reverse).map List.reverse

/-- The parts before and after the first occurrence of a character, if there is one. -/
def cutAt? (mark : Char) : Text → Option (Text × Text)
  | [] => none
  | c :: t => if c = mark then some ([], t) else (cutAt? mark t).map fun p => (c :: p.1, p.2)

/-- The parts before and after the last occurrence of a character, if there is one. -/
def cutLast? (mark : Char) : Text → Option (Text × Text)
  | [] => none
  | c :: t =>
    match cutLast? mark t with
    | some (before, after) => some (c :: before, after)
    | none => if c = mark then some ([], t) else none

def splitAtChar (mark : Char) : Text → List Text
  | [] => [[]]
  | c :: t =>
    if c = mark then [] :: splitAtChar mark t
    else match splitAtChar mark t with
      | [] => [[c]]
      | piece :: pieces => (c :: piece) :: pieces

/-- The lines of a text. A line feed ends a line, and an empty line at the very end is none. -/
def lines : Text → List Text
  | [] => []
  | c :: t =>
    if c = '\n' then [] :: lines t
    else match lines t with
      | [] => [[c]]
      | line :: rest => (c :: line) :: rest

/-- The members joined, with a separator between each two. -/
def join (sep : Text) : List Text → Text
  | [] => []
  | [t] => t
  | t :: u :: rest => t ++ sep ++ join sep (u :: rest)

/-- Whether a text comes before another or is the same. The first characters that differ decide, by
their code points, and a text comes before those that it starts. -/
def le : Text → Text → Bool
  | [], _ => true
  | _ :: _, [] => false
  | c :: t, d :: u => if c = d then le t u else c.toNat < d.toNat

/-- The ends of a text, from the whole text to the empty one. -/
def ends : Text → List Text
  | [] => [[]]
  | c :: t => (c :: t) :: ends t

theorem eq_of_cutLast? {mark : Char} {t before after : Text}
    (h : cutLast? mark t = some (before, after)) : t = before ++ mark :: after := by
  induction t generalizing before after with
  | nil => simp [cutLast?] at h
  | cons c t ih =>
    unfold cutLast? at h
    split at h
    · next b a hcut =>
      simp only [Option.some.injEq, Prod.mk.injEq] at h
      obtain ⟨rfl, rfl⟩ := h
      simp [ih hcut]
    · split at h
      · simp_all
      · simp at h

theorem length_lt_of_cutLast? {mark : Char} {t before after : Text}
    (h : cutLast? mark t = some (before, after)) : before.length < t.length := by
  have := congrArg List.length (eq_of_cutLast? h)
  simp at this
  omega

@[simp] theorem dropPrefix?_nil (t : Text) : dropPrefix? [] t = some t := by
  cases t <;> rfl

@[simp] theorem dropPrefix?_append (p t : Text) : dropPrefix? p (p ++ t) = some t := by
  induction p with
  | nil => simp
  | cons c p ih => simp [dropPrefix?, ih]

theorem append_of_dropPrefix? {p t r : Text} (h : dropPrefix? p t = some r) : t = p ++ r := by
  induction p generalizing t with
  | nil => simpa using h
  | cons c p ih =>
    cases t with
    | nil => simp [dropPrefix?] at h
    | cons d t =>
      by_cases hcd : c = d
      · subst hcd
        simp only [dropPrefix?, if_true] at h
        simp [ih h]
      · simp [dropPrefix?, hcd] at h

end Text

end Lector
