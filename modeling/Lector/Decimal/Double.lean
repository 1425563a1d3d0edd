/-!
# Binary numbers of 64 bits

The numbers that can be written as `m * 2 ^ q` with `m < 2 ^ 53` and `-1074 ≤ q ≤ 971`, with a sign,
two infinities and one number that is none. All arithmetic is exact and rounds once, to the nearest
number and in a tie to the one with even `m`.

## Main definitions

* `Double` - the numbers.
* `Double.ofRatio` - the number nearest to a quotient.
* `Double.mul`, `Double.div` - product and quotient.
-/

namespace Lector

/-- A binary number of 64 bits. -/
inductive Double
  /-- The number `± mantissa * 2 ^ (power - 1074)`, where the mantissa has 53 bits unless the power
  is zero. -/
  | finite (negative : Bool) (mantissa power : Nat)
  | infinite (negative : Bool)
  | notANumber
  deriving DecidableEq, Repr, Inhabited

namespace Double

def bitLength (n : Nat) : Nat := if n = 0 then 0 else n.log2 + 1

/-- The whole part of a quotient rounded to the nearest, in a tie to the even. -/
def roundDiv (num den : Nat) : Nat :=
  let quotient := num / den
  let twice := 2 * (num % den)
  if twice < den ∨ (twice = den ∧ quotient % 2 = 0) then quotient else quotient + 1

/-- The number nearest to `num * 2 ^ (power - 1074) / den`, given a power at which the quotient has
at most 53 bits, or one bit more after rounding. -/
def roundAt (negative : Bool) (num den power : Nat) : Double :=
  let mantissa := roundDiv num (den * Nat.pow 2 power)
  let (mantissa, power) :=
    if mantissa = Nat.pow 2 53 then (Nat.pow 2 52, power + 1) else (mantissa, power)
  if 2045 < power then infinite negative else finite negative mantissa power

/-- The number nearest to `num / den`. -/
def ofRatio (negative : Bool) (num den : Nat) : Double :=
  if num = 0 ∨ den = 0 then finite negative 0 0
  else
    let num := num * Nat.pow 2 1074
    let whole := num / den
    roundAt negative num den (bitLength whole - 53)

def ofNat (n : Nat) : Double := ofRatio false n 1

/-- The number nearest to `digits * 10 ^ exponent`. -/
def ofDecimal (negative : Bool) (digits : Nat) (exponent : Int) : Double :=
  if digits = 0 then finite negative 0 0
  else if 400 < exponent then infinite negative
  else if exponent + (Nat.toDigits 10 digits).length < -400 then finite negative 0 0
  else if exponent < 0 then ofRatio negative digits (Nat.pow 10 exponent.natAbs)
  else ofRatio negative (digits * Nat.pow 10 exponent.natAbs) 1

/-- Whether the number is neither infinite nor none. -/
def isFinite : Double → Bool
  | finite _ _ _ => true
  | _ => false

def neg : Double → Double
  | finite negative mantissa power => finite (!negative) mantissa power
  | infinite negative => infinite (!negative)
  | notANumber => notANumber

/-- The product of two finite numbers, rounded. -/
def mul : Double → Double → Double
  | finite s m p, finite t n q => ofRatio (s != t) (m * n * Nat.pow 2 (p + q)) (Nat.pow 2 2148)
  | _, _ => notANumber

/-- The quotient of two finite numbers, rounded. -/
def div : Double → Double → Double
  | finite s m p, finite t n q => ofRatio (s != t) (m * Nat.pow 2 p) (n * Nat.pow 2 q)
  | _, _ => notANumber

/-- Whether two numbers are the same in value; the two zeros are. -/
def same : Double → Double → Bool
  | finite s m p, finite t n q => m == n && p == q && (s == t || m == 0)
  | a, b => a == b

end Double

end Lector
