import Lector.Document.Value
import Lector.Unicode.Lookup

/-!
# Values in messages

How a value is shown in a message: its kind by name, texts in quotes with escapes, and the members
of sequences and mappings in brackets and braces.

## Main definitions

* `Text.quoted` - a text in quotes.
* `Value.describe` - a value as messages show it.
-/

namespace Lector

/-- The characters that are shown by their code: controls, separators, those without a use, and
those that change the character before them. -/
def hiddenChars : CharSet :=
  (Unicode.classes ["C", "Z", "Grapheme_Extend"]).diff (CharSet.singleton ' ')

def quotedChar (c : Char) : Text :=
  if c = '\t' then ['\\', 't']
  else if c = '\n' then ['\\', 'n']
  else if c = '\r' then ['\\', 'r']
  else if c.toNat = 0 then ['\\', '0']
  else if c = '"' ∨ c = '\\' then ['\\', c]
  else if hiddenChars.contains c then
    "\\u\x7b".toList ++ Nat.toDigits 16 c.toNat ++ ['\x7d']
  else [c]

def Text.quoted (t : Text) : Text := '"' :: t.flatMap quotedChar ++ ['"']

namespace Value

def commas (parts : List Text) : Text := Text.join ", ".toList parts

mutual

/-- A value as messages show it. -/
def describe : Value → Text
  | null => "Null".toList
  | bool b => "Bool(".toList ++ boolText b ++ [')']
  | number n => "Number(".toList ++ n.text ++ [')']
  | text t => "String(".toList ++ Text.quoted t ++ [')']
  | sequence items => "Sequence [".toList ++ commas (describeItems items) ++ [']']
  | mapping entries => "Mapping \x7b".toList ++ commas (describeEntries entries) ++ ['\x7d']
  | tagged tag value =>
    "TaggedValue \x7b tag: !".toList ++ tag ++ ", value: ".toList ++ describe value ++
      " \x7d".toList

def describeItems : List Value → List Text
  | [] => []
  | v :: vs => describe v :: describeItems vs

/-- The entries of a mapping as messages show them. Keys that are plain scalars stand alone. -/
def describeEntries : List (Value × Value) → List Text
  | [] => []
  | (k, v) :: rest =>
    let key := match k with
      | bool b => boolText b
      | number n => n.text
      | text t => Text.quoted t
      | _ => describe k
    (key ++ ": ".toList ++ describe v) :: describeEntries rest

end

end Value

end Lector
