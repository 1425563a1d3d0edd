import Lector.Document.Value
import Lector.Text.CharSet

/-!
# Reading JSON

A JSON text is read into a value. Keys of an object must differ, values may nest `depthLimit` deep
at most, and a number must not be too large.

## Main definitions

* `Json.readNumber` - reads a number.
* `Json.readString` - reads the rest of a string.
* `Json.read?` - reads a whole text.
-/

namespace Lector.Json

def depthLimit : Nat := 127

def skip (t : Text) : Text :=
  t.dropWhile fun c => c = ' ' || c = '\n' || c = '\t' || c = '\r'

/-- `10 ^ n` as a binary number. -/
def powerOfTen (n : Nat) : Double := .ofNat (Nat.pow 10 n)

/-- Scales a number down by powers of ten in steps of at most `10 ^ 308`. -/
def scaleDown (x : Double) (exponent : Nat) : Double :=
  if exponent ≤ 308 then x.div (powerOfTen exponent)
  else if x.same (.finite false 0 0) then x
  else scaleDown (x.div (powerOfTen 308)) (exponent - 308)
termination_by exponent

/-- The number `digits * 10 ^ exponent`, unless it is too large. It is rounded twice: the digits to
a binary number, and then the result. -/
def scaled? (negative : Bool) (digits : Nat) (exponent : Int) : Option Number :=
  let sign := fun x : Double => Number.float (if negative then x.neg else x)
  let x := Double.ofNat digits
  if exponent < 0 then some (sign (scaleDown x exponent.natAbs))
  else if exponent ≤ 308 then
    let y := x.mul (powerOfTen exponent.natAbs)
    if y.isFinite then some (sign y) else none
  else if digits = 0 then some (sign x)
  else none

/-- Takes digits into a number of 64 bits as long as they fit. -/
def takeDigits (value count : Nat) : Text → Nat × Nat × Text
  | c :: t =>
    let next := value * 10 + (c.toNat - '0'.toNat)
    if c.isDigit && next < Nat.pow 2 64 then takeDigits next (count + 1) t
    else (value, count, c :: t)
  | [] => (value, count, [])

/-- Reads the exponent of a number, behind its letter if there is one. -/
def readExponent (negative : Bool) (digits : Nat) (exponent : Int) (t : Text) :
    Option (Number × Text) := do
  let some rest := (match t with
    | 'e' :: rest | 'E' :: rest => some rest
    | _ => none) | return (← scaled? negative digits exponent, t)
  let (down, rest) : Bool × Text := match rest with
    | '+' :: rest => (false, rest)
    | '-' :: rest => (true, rest)
    | _ => (false, rest)
  let power ← Text.readDigits? (rest.takeWhile Char.isDigit)
  let rest := rest.dropWhile Char.isDigit
  if Nat.pow 2 31 ≤ power then
    if digits ≠ 0 ∧ !down then none else return (← scaled? negative 0 0, rest)
  else
    let power : Int := if down then -power else power
    return (← scaled? negative digits (exponent + power), rest)

/-- Reads the fraction and exponent of a number whose whole part ends with `dropped` digits that did
not fit. -/
def readFraction (negative : Bool) (digits dropped : Nat) (t : Text) : Option (Number × Text) :=
  match t with
  | '.' :: rest =>
    if (rest.head?).any Char.isDigit then
      let (digits, count, rest) := takeDigits digits 0 rest
      readExponent negative digits (dropped - count) (rest.dropWhile Char.isDigit)
    else none
  | _ => readExponent negative digits dropped t

/-- Reads a number. Whole numbers of 64 bits are kept exactly. -/
def readNumber (t : Text) : Option (Number × Text) :=
  let (negative, t) : Bool × Text := match t with
    | '-' :: rest => (true, rest)
    | _ => (false, t)
  match t with
  | [] => none
  | c :: rest =>
    if !c.isDigit then none
    else if c = '0' ∧ (rest.head?).any Char.isDigit then none
    else
      let (digits, _, rest) := takeDigits 0 0 t
      let more := rest.takeWhile Char.isDigit
      let rest := rest.dropWhile Char.isDigit
      let isWhole := more.isEmpty && !(rest.head?).any fun c => c = '.' || c = 'e' || c = 'E'
      if !isWhole then readFraction negative digits more.length rest
      else if !negative then some (.int digits, rest)
      else if 0 < digits && digits ≤ Nat.pow 2 63 then some (.int (-digits), rest)
      else (scaled? true digits 0).map (·, rest)

/-- Reads the four digits of an escaped code unit. -/
def readUnit (t : Text) : Option (Nat × Text) := do
  let ds := t.take 4
  if ds.length < 4 then none
  let n ← ds.foldlM (fun n c => return n * 16 + (← CharSet.hexDigit? c)) 0
  return (n, t.drop 4)

def readEscape (t : Text) : Option (Char × Text) :=
  match t with
  | '"' :: rest => some ('"', rest)
  | '\\' :: rest => some ('\\', rest)
  | '/' :: rest => some ('/', rest)
  | 'b' :: rest => some ('\x08', rest)
  | 'f' :: rest => some ('\x0C', rest)
  | 'n' :: rest => some ('\n', rest)
  | 'r' :: rest => some ('\r', rest)
  | 't' :: rest => some ('\t', rest)
  | 'u' :: rest => do
    let (high, rest) ← readUnit rest
    if high < 0xD800 ∨ 0xDFFF < high then return (Char.ofNat high, rest)
    else if high < 0xDC00 then
      let rest ← Text.dropPrefix? "\\u".toList rest
      let (low, rest) ← readUnit rest
      if 0xDC00 ≤ low ∧ low ≤ 0xDFFF then
        return (Char.ofNat (0x10000 + (high - 0xD800) * 0x400 + (low - 0xDC00)), rest)
      else none
    else none
  | _ => none

/-- Reads the rest of a string behind its quote. Each round takes at least one character. -/
def readString : Nat → Text → Text → Option (Text × Text)
  | 0, _, _ => none
  | rounds + 1, done, t =>
    match t with
    | [] => none
    | '"' :: rest => some (done.reverse, rest)
    | '\\' :: rest => do
      let (c, rest) ← readEscape rest
      readString rounds (c :: done) rest
    | c :: rest => if c.toNat < 0x20 then none else readString rounds (c :: done) rest

mutual

/-- Reads a value that may nest `depth` deep. The first argument bounds how far reading goes down in
all. -/
def readValue : Nat → Nat → Text → Option (Value × Text)
  | 0, _, _ => none
  | fuel + 1, depth, t =>
    match skip t with
    | '"' :: rest => (readString (rest.length + 1) [] rest).map fun (s, rest) => (.text s, rest)
    | '[' :: rest =>
      match depth, skip rest with
      | 0, _ => none
      | _, ']' :: rest => some (.sequence [], rest)
      | depth + 1, rest => (readItems fuel depth rest).map fun (vs, rest) => (.sequence vs, rest)
    | '\x7b' :: rest =>
      match depth, skip rest with
      | 0, _ => none
      | _, '\x7d' :: rest => some (.mapping [], rest)
      | depth + 1, rest =>
        (readEntries fuel depth [] rest).map fun (vs, rest) => (.mapping vs, rest)
    | t =>
      match Text.dropPrefix? "null".toList t, Text.dropPrefix? "true".toList t,
          Text.dropPrefix? "false".toList t with
      | some rest, _, _ => some (.null, rest)
      | _, some rest, _ => some (.bool true, rest)
      | _, _, some rest => some (.bool false, rest)
      | _, _, _ => (readNumber t).map fun (n, rest) => (.number n, rest)

def readItems : Nat → Nat → Text → Option (List Value × Text)
  | 0, _, _ => none
  | fuel + 1, depth, t => do
    let (v, t) ← readValue fuel depth t
    match skip t with
    | ',' :: rest => do
      let (vs, rest) ← readItems fuel depth rest
      return (v :: vs, rest)
    | ']' :: rest => return ([v], rest)
    | _ => none

/-- Reads the entries of an object up to its closing brace. No key may be among `seen`, the keys
read before. -/
def readEntries : Nat → Nat → List Text → Text → Option (List (Value × Value) × Text)
  | 0, _, _, _ => none
  | fuel + 1, depth, seen, t => do
    let rest ← Text.dropPrefix? ['"'] (skip t)
    let (key, rest) ← readString (rest.length + 1) [] rest
    if seen.contains key then none
    let rest ← Text.dropPrefix? [':'] (skip rest)
    let (v, t) ← readValue fuel depth rest
    match skip t with
    | ',' :: rest => do
      let (vs, rest) ← readEntries fuel depth (key :: seen) rest
      return ((.text key, v) :: vs, rest)
    | '\x7d' :: rest => return ([(.text key, v)], rest)
    | _ => none

end

def read? (t : Text) : Option Value := do
  let (v, rest) ← readValue (2 * t.length + 2) depthLimit t
  if (skip rest).isEmpty then return v else none

end Lector.Json
