import Lector.Text.CharSet
import Lector.Unicode.Category
import Lector.Unicode.Script
import Lector.Unicode.Property

/-!
# Character classes by name

The character database names its classes loosely: case, spaces, hyphens and low lines do not count,
nor does a leading `is`. A class is a binary property, a general category or a script, sought in
this order, or one of the three whole ranges `any`, `assigned` and `ascii`.

## Main definitions

* `looseName` - the form of a name that counts.
* `classNamed?` - the class with a name.
* `wordChars`, `digitChars`, `spaceChars` - the classes that patterns name with one letter.
-/

namespace Lector.Unicode

/-- The form of a name that counts when names are compared. -/
def looseName (name : Text) : Text :=
  let body := match name with
    | a :: b :: rest => if lowerAscii a = 'i' ∧ lowerAscii b = 's' then rest else name
    | _ => name
  let kept := (body.filter fun c => c ≠ ' ' && c ≠ '_' && c ≠ '-' && c.toNat ≤ 0x7F).map lowerAscii
  if body.length < name.length ∧ kept = ['c'] then "isc".toList else kept

/-- Whether one of some names has a given loose form. -/
def hasName (names : List String) (name : Text) : Bool :=
  names.any fun n => looseName n.toList = name

def runsNamed? (table : List (List String × String)) (name : Text) : Option String :=
  (table.find? fun row => hasName row.1 name).map Prod.snd

/-- The union of the general categories with the listed two-letter names. -/
def categories (names : List String) : CharSet :=
  CharSet.ofRanges (names.flatMap fun n =>
    match runsNamed? categoryRuns (looseName n.toList) with
    | some runs => (CharSet.ofRuns runs).ranges.toList
    | none => [])

/-- The groups of general categories: their names and their members. -/
def categoryGroups : List (List String × List String) := [
  (["c", "other"], ["Cc", "Cf", "Cn", "Co"]),
  (["l", "letter"], ["Ll", "Lm", "Lo", "Lt", "Lu"]),
  (["lc", "casedletter"], ["Ll", "Lt", "Lu"]),
  (["m", "mark", "combiningmark"], ["Mc", "Me", "Mn"]),
  (["n", "number"], ["Nd", "Nl", "No"]),
  (["p", "punctuation", "punct"], ["Pc", "Pd", "Pe", "Pf", "Pi", "Po", "Ps"]),
  (["s", "symbol"], ["Sc", "Sk", "Sm", "So"]),
  (["z", "separator"], ["Zl", "Zp", "Zs"])]

/-- The general category, or group of them, with a loose name. -/
def categoryNamed? (name : Text) : Option CharSet :=
  if name = "any".toList then some CharSet.all
  else if name = "ascii".toList then some (CharSet.ofRanges [(0, 0x7F)])
  else if name = "assigned".toList then some (categories ["Cn"]).compl
  else match categoryGroups.find? fun row => row.1.any fun n => n.toList = name with
    | some row => some (categories row.2)
    | none => (runsNamed? categoryRuns name).map CharSet.ofRuns

def scriptNamed? (name : Text) : Option CharSet := (runsNamed? scriptRuns name).map CharSet.ofRuns

/-- The class with a name: a binary property, a general category or a script. -/
def classNamed? (name : Text) : Option CharSet :=
  let n := looseName name
  let property :=
    if n = "cf".toList ∨ n = "sc".toList ∨ n = "lc".toList then none
    else (runsNamed? propertyRuns n).map CharSet.ofRuns
  property <|> categoryNamed? n <|> scriptNamed? n

/-- The union of binary properties and general categories with the listed names. -/
def classes (names : List String) : CharSet :=
  CharSet.ofRanges (names.flatMap fun n =>
    match classNamed? n.toList with
    | some s => s.ranges.toList
    | none => [])

/-- The characters of words: letters, marks, decimal digits, connectors and joiners. -/
def wordChars : CharSet := classes ["Alphabetic", "M", "Nd", "Pc", "Join_Control"]

def digitChars : CharSet := classes ["Nd"]

def spaceChars : CharSet := classes ["White_Space"]

/-- The letters: characters with the property Alphabetic. -/
def letterChars : CharSet := classes ["Alphabetic"]

/-- The letters and numbers: characters with the property Alphabetic, and numbers of any kind. -/
def alphanumericChars : CharSet := classes ["Alphabetic", "N"]

end Lector.Unicode
