import Lector.Decimal.Shortest

/-!
# Document values

The values that structured rule documents are made of: scalars, sequences, mappings and tagged
values.

## Main definitions

* `Number`, `Value` - numbers and values.
* `Value.get?` - the value under a key of a mapping.
* `Value.scalar?` - the text of a scalar.
-/

namespace Lector

/-- A number of a document. -/
inductive Number
  | int (n : Int)
  | float (x : Double)
  deriving DecidableEq, Repr, Inhabited

def Number.text : Number → Text
  | int n => if n < 0 then '-' :: Text.ofNat n.natAbs else Text.ofNat n.natAbs
  | float x => x.text

def Number.same : Number → Number → Bool
  | int n, int m => n == m
  | float x, float y => x.same y
  | _, _ => false

/-- A value of a document. -/
inductive Value
  | null
  | bool (b : Bool)
  | number (n : Number)
  | text (t : Text)
  | sequence (items : List Value)
  | mapping (entries : List (Value × Value))
  | tagged (tag : Text) (value : Value)
  deriving Repr, Inhabited

namespace Value

mutual

def same : Value → Value → Bool
  | null, null => true
  | bool a, bool b => a == b
  | number a, number b => a.same b
  | text a, text b => a == b
  | sequence as, sequence bs => sameItems as bs
  | mapping as, mapping bs => as.length == bs.length && sameEntries as bs
  | tagged s a, tagged t b => s == t && same a b
  | _, _ => false

def sameItems : List Value → List Value → Bool
  | [], [] => true
  | a :: as, b :: bs => same a b && sameItems as bs
  | _, _ => false

/-- Whether all entries of a mapping are among those of another, in any order. -/
def sameEntries : List (Value × Value) → List (Value × Value) → Bool
  | [], _ => true
  | (k, v) :: as, bs => (bs.any fun e => same k e.1 && same v e.2) && sameEntries as bs

end

def lookup (key : Text) : List (Value × Value) → Option Value
  | [] => none
  | (text k, v) :: rest => if k = key then some v else lookup key rest
  | _ :: rest => lookup key rest

def get? (key : Text) : Value → Option Value
  | mapping entries => lookup key entries
  | _ => none

def untagged : Value → Value
  | tagged _ v => untagged v
  | v => v

def boolText (b : Bool) : Text := (if b then "true" else "false").toList

end Value

end Lector
