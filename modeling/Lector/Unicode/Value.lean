import Lector.Unicode.Age
import Lector.Unicode.Break
import Lector.Unicode.ScriptExtension

/-!
# Character classes by the value of a property

A class may also be named by a property and a value of it: the general category, the script, the
scripts that characters are written in, their age, or one of the breaks. A character is of an age
from the version on that has assigned it.

## Main definitions

* `classWithValue?` - the class of the characters with a value of a property.
-/

namespace Lector.Unicode

/-- The union of the sets of some rows of a table. -/
def unionOfRows (rows : List (List String × String)) : CharSet :=
  CharSet.ofRanges (rows.flatMap fun row => (CharSet.ofRuns row.2).ranges.toList)

/-- The characters that are written in the script with a loose name. -/
def scriptUsersNamed? (name : Text) : Option CharSet := do
  let script ← scriptRuns.find? fun row => hasName row.1 name
  let own := (CharSet.ofRuns script.2).diff (unionOfRows scriptExtensionRuns)
  return own.union (unionOfRows (scriptExtensionRuns.filter fun row =>
    row.1.any script.1.contains))

/-- The characters that the version with a loose name has, those of the versions before included. -/
def ageNamed? (name : Text) : Option CharSet :=
  (ageRuns.findIdx? fun row => hasName row.1 name).map fun i =>
    unionOfRows (ageRuns.take (i + 1))

/-- The class of the characters whose property has a value. -/
def classWithValue? (property value : Text) : Option CharSet :=
  let value := looseName value
  match String.ofList (looseName property) with
  | "gc" | "generalcategory" => categoryNamed? value
  | "sc" | "script" => scriptNamed? value
  | "scx" | "scriptextensions" => scriptUsersNamed? value
  | "age" => ageNamed? value
  | "gcb" | "graphemeclusterbreak" => shareNamed? graphemeBreaks value
  | "wb" | "wordbreak" => shareNamed? wordBreaks value
  | "sb" | "sentencebreak" => shareNamed? sentenceBreaks value
  | _ => none

end Lector.Unicode
