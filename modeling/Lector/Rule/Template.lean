import Lector.Pattern.Matcher
import Lector.Text.Digits

/-!
# Replacement templates

The replacement of a regular expression is a template: text with references to groups, which are
written `\1`, `\g<1>` or `\g<name>`. A backslash also writes characters by octal numbers and the
usual control characters, and itself when doubled.

## Main definitions

* `Part`, `Template` - templates.
* `Template.Fault` - what can be wrong with a written template.
* `Template.parse` - reads a template.
* `Template.expand` - the text that a template makes of a match.
* `Template.print` - a template as it is written.
-/

namespace Lector.Rule

open Pattern (Groups Match)

/-- A part of a template. -/
inductive Part
  | text (t : Text)
  | group (index : Nat)
  deriving DecidableEq, Repr

/-- A replacement template. -/
abbrev Template := List Part

namespace Template

/-- What can be wrong with a written template. -/
inductive Fault
  | loneBackslash
  /-- An octal number beyond `\377`. -/
  | octalTooLarge (value : Nat)
  | noGroup (index : Nat)
  /-- `\g` without `<`. -/
  | noBracket
  /-- `\g<` without `>`. -/
  | unclosedName (name : Text)
  | unknownName (name : Text)
  | unknownEscape (c : Char)
  deriving DecidableEq, Repr

def Fault.message : Fault → Text
  | loneBackslash => "bad escape (end of replacement)".toList
  | octalTooLarge value =>
    "octal escape value \\".toList ++ Nat.toDigits 8 value ++ " outside of range 0-0o377".toList
  | noGroup index => "invalid group reference ".toList ++ Text.ofNat index
  | noBracket => "missing '<' after \\g".toList
  | unclosedName name => "unterminated group name '".toList ++ name ++ ['\'']
  | unknownName name => "unknown group name '".toList ++ name ++ ['\'']
  | unknownEscape c => "bad escape \\".toList ++ [c]

/-- Puts a part in front of a template. Texts side by side become one, and empty texts vanish. -/
def push : Part → Template → Template
  | .text [], ps => ps
  | .text t, .text u :: ps => .text (t ++ u) :: ps
  | p, ps => p :: ps

def isOctal (c : Char) : Bool := '0' ≤ c && c ≤ '7'

def octalValue (t : Text) : Nat := Text.foldDigits 8 (fun c => c.toNat - '0'.toNat) 0 t

def octalPart (digits : Text) : Except Fault Part :=
  let value := octalValue digits
  if value ≤ 0o377 then .ok (.text [Char.ofNat value]) else .error (.octalTooLarge value)

/-- A reference to a group that must exist. -/
def groupPart (g : Groups) (index : Nat) : Except Fault Part :=
  if index < g.count then .ok (.group index) else .error (.noGroup index)

/-- A reference to a group by what stands between `<` and `>`. -/
def namedPart (g : Groups) (name : Text) : Except Fault Part :=
  match Text.readNat64? name with
  | some index => groupPart g index
  | none =>
    match g.named? name with
    | some index => .ok (.group index)
    | none => .error (.unknownName name)

/-- The control character that a letter behind a backslash stands for. -/
def controlChar? : Char → Option Char
  | 'n' => some '\n'
  | 't' => some '\t'
  | 'r' => some '\r'
  | 'a' => some '\x07'
  | 'b' => some '\x08'
  | 'f' => some '\x0C'
  | 'v' => some '\x0B'
  | '\\' => some '\\'
  | _ => none

/-- Reads what follows a backslash: a part, and the number of characters that it takes. Three octal
digits of which the first is not zero are always a character; else one or two digits name a
group. -/
def readEscape (g : Groups) : Text → Except Fault (Part × Nat)
  | [] => .error .loneBackslash
  | 'g' :: t =>
    match t with
    | '<' :: t =>
      match Text.cutAt? '>' t with
      | some (name, _) => (namedPart g name).map (·, name.length + 3)
      | none => .error (.unclosedName t)
    | _ => .error .noBracket
  | '0' :: t =>
    let digits := (t.take 2).takeWhile isOctal
    (octalPart digits).map (·, digits.length + 1)
  | c :: t =>
    if c.isDigit then
      let digits := c :: (t.take 1).takeWhile Char.isDigit
      let octal := (c :: t).take 3
      if octal.length = 3 && octal.all isOctal then (octalPart octal).map (·, 3)
      else (groupPart g (Text.foldDigits 10 (fun d => d.toNat - '0'.toNat) 0 digits)).map
        (·, digits.length)
    else
      match controlChar? c with
      | some control => .ok (.text [control], 1)
      | none => if c.isAlpha then .error (.unknownEscape c) else .ok (.text ['\\', c], 1)

def parse (g : Groups) : Text → Except Fault Template
  | [] => .ok []
  | c :: t =>
    if c = '\\' then
      match readEscape g t with
      | .error fault => .error fault
      | .ok (part, n) => (parse g (t.drop n)).map (push part)
    else (parse g t).map (push (.text [c]))
termination_by t => t.length
decreasing_by all_goals simp only [List.length_drop, List.length_cons]; omega

/-- The text that a part makes of a match in a text. A group that took no part leaves nothing. -/
def expandPart (t : Text) (m : Match) : Part → Text
  | .text u => u
  | .group index => ((m.group? index).map (·.slice t)).getD []

def expand (t : Text) (m : Match) (ps : Template) : Text := ps.flatMap (expandPart t m)

/-- A text with its backslashes doubled. -/
def quote (t : Text) : Text := t.flatMap fun c => if c = '\\' then ['\\', '\\'] else [c]

def printPart : Part → Text
  | .text t => quote t
  | .group index => "\\g<".toList ++ Text.ofNat index ++ ['>']

def print (ps : Template) : Text := ps.flatMap printPart

end Template

end Lector.Rule
