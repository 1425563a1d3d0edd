import Lector.Pattern.Plain.Flags
import Lector.Unicode.Value

/-!
# Escapes of the plain dialect

What a backslash and the characters behind it stand for: a character, a class of characters or a
condition on the position.

## Main definitions

* `Atom` - what an escape stands for.
* `readEscape` - reads what follows a backslash.
-/

namespace Lector.Pattern.Plain

/-- What an escape stands for. -/
inductive Atom
  | char (c : Char)
  | set (set : CharSet)
  | look (look : Look)

def charWithCode? (code : Nat) : Option Char :=
  if code.isValidChar then some (Char.ofNat code) else none

/-- The characters that a pattern gives a meaning of their own, in some place. -/
def metaChars : List Char := "\\.+*?()|[]\x7b\x7d^$#&-~".toList

/-- Whether a character behind a backslash stands for itself. -/
def isEscapable (c : Char) : Bool :=
  metaChars.contains c || (c.toNat ≤ 0x7F && !c.isAlphanum && c ≠ '<' && c ≠ '>')

/-- Reads a fixed number of hexadecimal digits behind `value`. -/
def readFixedHex (f : Flags) : Nat → Nat → Text → Option (Nat × Text)
  | 0, value, t => some (value, t)
  | n + 1, value, t =>
    match t with
    | [] => none
    | c :: rest => do
      let d ← CharSet.hexDigit? c
      readFixedHex f n (value * 16 + d) (f.skip rest)

/-- Reads hexadecimal digits behind `value?` up to a closing brace. At least one must be there. -/
def readBracedHex (f : Flags) : Option Nat → Text → Option (Nat × Text)
  | _, [] => none
  | value?, c :: rest =>
    if f.spaced && isBlank c then readBracedHex f value? rest
    else if c = '\x7d' then value?.map fun value => (value, f.skip rest)
    else match CharSet.hexDigit? c with
      | none => none
      | some d => readBracedHex f (some (value?.getD 0 * 16 + d)) rest

/-- Reads the code of a character behind `\x`, `\u` or `\U`, whose fixed form has `digits`
digits. -/
def readHex (f : Flags) (digits : Nat) (t : Text) : Option (Atom × Text) := do
  let t := f.skip t
  let (code, rest) ← match t with
    | '\x7b' :: rest => readBracedHex f none rest
    | _ => readFixedHex f digits 0 t
  if digits = 2 && !f.unicode && 0x7F < code && t.head? ≠ some '\x7b' then none
  else return (.char (← charWithCode? code), rest)

/-- Splits the content of `\p` in braces at the sign between a property and its value. The flag
tells whether the sign says that the value is another. -/
def splitProperty (name : Text) : Option (Text × Bool × Text) :=
  let rec unequal : Text → Option (Text × Text)
    | '!' :: '=' :: rest => some ([], rest)
    | c :: rest => (unequal rest).map fun p => (c :: p.1, p.2)
    | [] => none
  match unequal name with
  | some (property, value) => some (property, true, value)
  | none =>
    match Text.cutAt? ':' name <|> Text.cutAt? '=' name with
    | some (property, value) => some (property, false, value)
    | none => none

/-- Reads the name of a class behind `\p` or `\P`. -/
def readProperty (f : Flags) (negated : Bool) (t : Text) : Option (Atom × Text) := do
  let (set, unequal, rest) ← match f.skip t with
    | '\x7b' :: rest =>
      let (content, rest) ← Text.cutAt? '\x7d' rest
      let content := if f.spaced then content.filter (!isBlank ·) else content
      match splitProperty content with
      | some (property, unequal, value) =>
        pure (← Unicode.classWithValue? property value, unequal, rest)
      | none => pure (← Unicode.classNamed? content, false, rest)
    | c :: rest => pure (← Unicode.classNamed? [c], false, f.skip rest)
    | [] => none
  if f.unicode then return (.set (negateIf (negated != unequal) (f.fold set)), rest) else none

/-- The class of a letter `d`, `s` or `w`. -/
def letterClass (f : Flags) : Char → CharSet
  | 'd' => if f.unicode then Unicode.digitChars else CharSet.ofRanges [(0x30, 0x39)]
  | 's' => if f.unicode then Unicode.spaceChars else CharSet.ofRanges [(9, 13), (0x20, 0x20)]
  | _ => if f.unicode then Unicode.wordChars else asciiWordChars

/-- Reads the name of a word edge in braces, if there is one. -/
def readEdge (f : Flags) (t : Text) : Option (Edge × Text) :=
  let isNameChar := fun c : Char => c.isAlpha || c = '-'
  match t with
  | '\x7b' :: rest =>
    match f.skip rest with
    | [] => none
    | c :: rest' =>
      if isNameChar c then
        match Text.cutAt? '\x7d' (c :: rest') with
        | none => none
        | some (name, rest) =>
          let name := if f.spaced then name.filter (!isBlank ·) else name
          if name = "start".toList then some (.start, rest)
          else if name = "end".toList then some (.stop, rest)
          else if name = "start-half".toList then some (.startHalf, rest)
          else if name = "end-half".toList then some (.stopHalf, rest)
          else none
      else some (.either, t)
  | _ => some (.either, t)

def readEscape (f : Flags) : Text → Option (Atom × Text)
  | [] => none
  | c :: t =>
    let edge := fun e : Edge => Atom.look (.word e !f.unicode)
    match c with
    | 'x' => readHex f 2 t
    | 'u' => readHex f 4 t
    | 'U' => readHex f 8 t
    | 'p' => readProperty f false t
    | 'P' => readProperty f true t
    | 'd' | 's' | 'w' => some (.set (letterClass f c), t)
    | 'D' | 'S' | 'W' => (f.negate? true (letterClass f c.toLower)).map fun s => (.set s, t)
    | 'a' => some (.char '\x07', t)
    | 'f' => some (.char '\x0C', t)
    | 't' => some (.char '\t', t)
    | 'n' => some (.char '\n', t)
    | 'r' => some (.char '\r', t)
    | 'v' => some (.char '\x0B', t)
    | 'A' => some (.look .textStart, t)
    | 'z' => some (.look .textEnd, t)
    | 'b' => (readEdge f t).map fun (e, rest) => (edge e, rest)
    | 'B' => some (edge .neither, t)
    | '<' => some (edge .start, t)
    | '>' => some (edge .stop, t)
    | _ => if isEscapable c then some (.char c, t) else none

end Lector.Pattern.Plain
