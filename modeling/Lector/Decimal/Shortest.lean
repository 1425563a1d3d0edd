import Lector.Decimal.Double
import Lector.Text.Digits

/-!
# The shortest decimal text of a number

A number is written with the fewest digits from which it can be read back, and of these with the
digits nearest to it. From `10 ^ 16` upwards and below `10 ^ (-5)` it is written with an exponent.

## Main definitions

* `shortest` - the digits and the power of ten.
* `Double.text` - the decimal text.
-/

namespace Lector

namespace Decimal

/-- The numbers that are read back as a given one: all fractions over `scale` from `low` to `high`,
the ends included where `ends` is set. The number itself is `value / scale`. -/
structure Range where
  low : Nat
  value : Nat
  high : Nat
  /-- The common denominator. -/
  scale : Nat
  /-- Whether the ends belong to the range. -/
  ends : Bool

/-- The range of a number `mantissa * 2 ^ (power - 1074)`. -/
def rangeOf (mantissa power : Nat) : Range :=
  let unit := Nat.pow 2 power
  let below := if mantissa = Nat.pow 2 52 ∧ power ≠ 0 then 1 else 2
  ⟨(4 * mantissa - below) * unit, 4 * mantissa * unit, (4 * mantissa + 2) * unit, Nat.pow 2 1076,
    mantissa % 2 = 0⟩

/-- Whether `n / scale` belongs to the range. -/
def Range.contains (r : Range) (n : Nat) : Bool :=
  if r.ends then r.low ≤ n && n ≤ r.high else r.low < n && n < r.high

/-- The whole multiple of a step in the range that is nearest to the number, if there is one; a tie
goes to the even multiple. The range and the step count in the same unit. -/
def Range.nearest? (r : Range) (step : Nat) : Option Nat :=
  let down := r.value / step
  let up := down + 1
  let rest := r.value - down * step
  let upFirst := step < 2 * rest ∨ (step = 2 * rest ∧ down % 2 = 1)
  let downFits := r.contains (down * step)
  let upFits := r.contains (up * step)
  if downFits && !(upFits && upFirst) then some down
  else if upFits then some up
  else none

def Range.times (r : Range) (n : Nat) : Range :=
  ⟨r.low * n, r.value * n, r.high * n, r.scale * n, r.ends⟩

/-- Removes zeros from the end of digits, and counts them into the exponent. -/
def dropZeros : Nat → Nat → Int → Nat × Int
  | 0, digits, exponent => (digits, exponent)
  | n + 1, digits, exponent =>
    if digits % 10 = 0 then dropZeros n (digits / 10) (exponent + 1) else (digits, exponent)

/-- The shortest digits in the range among those that end at one of the given decimal places, from
the coarsest on. -/
def firstFit (r : Range) : List Int → Option (Nat × Int)
  | [] => none
  | place :: places =>
    let r' := if place < 0 then r.times (Nat.pow 10 place.natAbs) else r
    let step := if place < 0 then r.scale else r.scale * Nat.pow 10 place.natAbs
    match r'.nearest? step with
    | some digits => if digits = 0 then firstFit r places else some (digits, place)
    | none => firstFit r places

/-- The greatest power of ten, counted from `-400`, that a fraction reaches. -/
def leadingPlace (num den : Nat) : Int :=
  if den ≤ num then ((Nat.toDigits 10 (num / den)).length : Int) - 1
  else
    let scaled := num * Nat.pow 10 400 / den
    ((Nat.toDigits 10 scaled).length : Int) - 401

/-- The shortest digits that are read back as `mantissa * 2 ^ (power - 1074)`, with their power of
ten. -/
def shortest (mantissa power : Nat) : Nat × Int :=
  let r := rangeOf mantissa power
  let top := leadingPlace r.value r.scale
  let places := (List.range 19).map fun n : Nat => top + 1 - n
  match firstFit r places with
  | some (digits, exponent) => dropZeros 20 digits exponent
  | none => (0, 0)

def write (digits : Nat) (exponent : Int) : Text :=
  let ds := Text.ofNat digits
  let point : Int := ds.length + exponent
  let zeros := fun n : Nat => List.replicate n '0'
  if 0 ≤ exponent ∧ point ≤ 16 then ds ++ zeros exponent.natAbs ++ ".0".toList
  else if 0 < point ∧ point ≤ 16 then ds.take point.natAbs ++ '.' :: ds.drop point.natAbs
  else if -5 < point ∧ point ≤ 0 then "0.".toList ++ zeros point.natAbs ++ ds
  else
    let power := point - 1
    let sign := if power < 0 then ['-'] else []
    let fraction := if ds.length ≤ 1 then [] else '.' :: ds.drop 1
    ds.take 1 ++ fraction ++ 'e' :: sign ++ Text.ofNat power.natAbs

end Decimal

def Double.text : Double → Text
  | .finite negative mantissa power =>
    let sign := if negative then ['-'] else []
    if mantissa = 0 then sign ++ "0.0".toList
    else
      let (digits, exponent) := Decimal.shortest mantissa power
      sign ++ Decimal.write digits exponent
  | .infinite negative => (if negative then "-.inf" else ".inf").toList
  | .notANumber => ".nan".toList

end Lector
