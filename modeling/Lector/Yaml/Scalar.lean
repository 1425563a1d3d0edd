import Lector.Decimal.Double
import Lector.Text.CharSet
import Lector.Text.Digits

/-!
# Plain scalars

What a plain scalar stands for: null, a truth value, a number or text. Whole numbers may be written
in four bases; digits behind a leading zero are text.

## Main definitions

* `isNull`, `bool?`, `int?`, `float?` - the readings of a scalar.
* `Plain`, `plain` - what a plain scalar stands for.
-/

namespace Lector.Yaml

def isNull (t : Text) : Bool :=
  ["~", "null", "Null", "NULL"].any fun s => s.toList == t

def bool? (t : Text) : Option Bool :=
  if ["true", "True", "TRUE"].any fun s => s.toList == t then some true
  else if ["false", "False", "FALSE"].any fun s => s.toList == t then some false
  else none

/-- Whether a text consists of digits, of which the first of several is zero. -/
def isPadded (t : Text) : Bool :=
  let digits := match t with
    | '-' :: rest | '+' :: rest => rest
    | _ => t
  match digits with
  | '0' :: c :: rest => (c :: rest).all Char.isDigit
  | _ => false

/-- The number that digits of a base stand for; a plus sign may come before them. -/
def digits? (base : Nat) (t : Text) : Option Nat :=
  let t := match t with
    | '+' :: rest => rest
    | _ => t
  let value := fun c => (CharSet.hexDigit? c).filter (· < base)
  if t.isEmpty then none
  else t.foldlM (fun n c => return n * base + (← value c)) 0

/-- The mark of a base, if a text starts with one, and what follows. -/
def base? (t : Text) : Option (Nat × Text) :=
  match t with
  | '0' :: 'x' :: rest => some (16, rest)
  | '0' :: 'o' :: rest => some (8, rest)
  | '0' :: 'b' :: rest => some (2, rest)
  | _ => none

def isSigned (t : Text) : Bool := t.head? == some '+' || t.head? == some '-'

/-- The number without a minus sign that a scalar stands for, up to a limit. -/
def nat? (limit : Nat) (t : Text) : Option Nat :=
  let body := match t with
    | '+' :: rest => rest
    | _ => t
  let based := do
    let (base, rest) ← base? body
    if isSigned rest then none
    (digits? base rest).filter (· < limit)
  match based with
  | some n => some n
  | none =>
    if ((base? body).any fun b => isSigned b.2) || isSigned body || isPadded t then none
    else (digits? 10 body).filter (· < limit)

/-- The absolute value of a negative number that a scalar stands for, up to a limit. -/
def negative? (limit : Nat) (t : Text) : Option Nat := do
  let body ← Text.dropPrefix? ['-'] t
  if isSigned body then none
  let based := do
    let (base, rest) ← base? body
    if isSigned rest then none
    (digits? base rest).filter (· ≤ limit)
  match based with
  | some n => some n
  | none => if isPadded t then none else (digits? 10 body).filter (· ≤ limit)

/-- The digits before and after the point of a decimal number and its exponent. -/
def decimal? (t : Text) : Option Double := do
  let (negative, t) : Bool × Text := match t with
    | '-' :: rest => (true, rest)
    | '+' :: rest => (false, rest)
    | _ => (false, t)
  let whole := t.takeWhile Char.isDigit
  let t := t.dropWhile Char.isDigit
  let (fraction, t) : Text × Text := match t with
    | '.' :: rest => (rest.takeWhile Char.isDigit, rest.dropWhile Char.isDigit)
    | _ => ([], t)
  let digits ← Text.readDigits? (whole ++ fraction)
  let exponent ← match t with
    | [] => some (0 : Int)
    | c :: rest =>
      if c = 'e' ∨ c = 'E' then
        match rest with
        | '-' :: rest => (Text.readDigits? rest).map fun n => -(n : Int)
        | '+' :: rest => (Text.readDigits? rest).map fun n => (n : Int)
        | _ => (Text.readDigits? rest).map fun n => (n : Int)
      else none
  return Double.ofDecimal negative digits (exponent - fraction.length)

/-- The number with a fraction or exponent that a scalar stands for. -/
def float? (t : Text) : Option Double :=
  let body := match t with
    | '+' :: rest => rest
    | _ => t
  let isOneOf := fun (t : Text) (names : List String) => names.any fun s => s.toList == t
  if body.length < t.length && isSigned body then none
  else if isOneOf body [".inf", ".Inf", ".INF"] then some (.infinite false)
  else if isOneOf t ["-.inf", "-.Inf", "-.INF"] then some (.infinite true)
  else if isOneOf t [".nan", ".NaN", ".NAN"] then some .notANumber
  else (decimal? body).filter Double.isFinite

/-- What a plain scalar stands for. -/
inductive Plain
  | null
  | bool (b : Bool)
  | int (n : Int)
  /-- A whole number of more than 64 bits, but not of more than 128. -/
  | wide
  | float (x : Double)
  | text
  deriving DecidableEq, Repr

def int? (t : Text) : Option Plain :=
  match nat? (Nat.pow 2 64) t, negative? (Nat.pow 2 63) t with
  | some n, _ => some (.int n)
  | none, some n => some (.int (-n))
  | none, none =>
    if (nat? (Nat.pow 2 128) t).isSome || (negative? (Nat.pow 2 127) t).isSome then some .wide
    else none

def plain (t : Text) : Plain :=
  if t.isEmpty || isNull t then .null
  else match bool? t, int? t with
    | some b, _ => .bool b
    | none, some n => n
    | none, none =>
      if isPadded t then .text
      else match float? t with
        | some x => .float x
        | none => .text

end Lector.Yaml
