import Lector.Text.Basic

/-!
# Whole numbers in texts

Decimal numbers of bounded size, read from a whole text.

## Main definitions

* `Text.readDigits?` - the number that decimal digits stand for.
* `Text.readNat64?`, `Text.readInt64?` - a number of 64 bits with an optional sign.
* `Text.ofNat` - a number in decimal digits.
-/

namespace Lector.Text

/-- The value of digits behind a number, in a base. -/
def foldDigits (base : Nat) (digit : Char → Nat) (value : Nat) (t : Text) : Nat :=
  t.foldl (fun n c => n * base + digit c) value

/-- The number that a text of decimal digits stands for, of which there is at least one. -/
def readDigits? (t : Text) : Option Nat :=
  if !t.isEmpty && t.all Char.isDigit then
    some (foldDigits 10 (fun c => c.toNat - '0'.toNat) 0 t)
  else none

/-- An unsigned number of 64 bits; a plus sign may come before it. -/
def readNat64? (t : Text) : Option Nat := do
  let n ← readDigits? (match t with
    | '+' :: rest => rest
    | _ => t)
  if n < Nat.pow 2 64 then return n else none

/-- A signed number of 64 bits. -/
def readInt64? (t : Text) : Option Int := do
  match t with
  | '-' :: rest =>
    let n ← readDigits? rest
    if n ≤ Nat.pow 2 63 then return -(n : Int) else none
  | _ =>
    let n ← readDigits? (match t with
      | '+' :: rest => rest
      | _ => t)
    if n < Nat.pow 2 63 then return (n : Int) else none

/-- A number in decimal digits. -/
def ofNat (n : Nat) : Text := Nat.toDigits 10 n

end Lector.Text
