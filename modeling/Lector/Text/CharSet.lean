import Lector.Text.Basic

/-!
# Sets of characters

A set of characters is kept as its ranges of code points, disjoint and in increasing order, so that
membership is a binary search. Tables of the character database are written as *runs*: for each run
of consecutive members its distance from the end of the run before it and its length less one, all
in hexadecimal.

## Main definitions

* `CharSet` - a set of characters.
* `CharSet.contains` - membership.
* `CharSet.ofRanges`, `CharSet.ofRuns` - the set with given ranges or runs.
* `CharSet.union`, `CharSet.inter`, `CharSet.diff`, `CharSet.symmDiff`, `CharSet.compl`.
-/

namespace Lector

def maxCode : Nat := 0x10FFFF

/-- A set of characters, as ranges of code points. -/
structure CharSet where
  /-- The ranges, disjoint and in increasing order. -/
  ranges : Array (Nat × Nat)
  deriving Inhabited, BEq, DecidableEq

namespace CharSet

def empty : CharSet := ⟨#[]⟩

def all : CharSet := ⟨#[(0, maxCode)]⟩

/-- Whether one of the ranges from index `lo` up to `hi` holds the code point. -/
def searchRanges (ranges : Array (Nat × Nat)) (code lo hi : Nat) : Bool :=
  if lo < hi then
    match ranges[(lo + hi) / 2]? with
    | none => false
    | some (first, last) =>
      if code < first then searchRanges ranges code lo ((lo + hi) / 2)
      else if last < code then searchRanges ranges code ((lo + hi) / 2 + 1) hi
      else true
  else false
termination_by hi - lo
decreasing_by all_goals omega

def containsCode (s : CharSet) (code : Nat) : Bool := searchRanges s.ranges code 0 s.ranges.size

def contains (s : CharSet) (c : Char) : Bool := s.containsCode c.toNat

/-- Joins neighbouring ranges that touch or overlap; the ranges come in increasing order. -/
def mergeRanges : List (Nat × Nat) → List (Nat × Nat)
  | [] => []
  | [r] => [r]
  | (a, b) :: (c, d) :: rest =>
    if c ≤ b + 1 then mergeRanges ((a, max b d) :: rest) else (a, b) :: mergeRanges ((c, d) :: rest)
termination_by ranges => ranges.length

def ofRanges (ranges : List (Nat × Nat)) : CharSet :=
  let sorted := (ranges.filter fun r => r.1 ≤ r.2).mergeSort fun a b => a.1 ≤ b.1
  ⟨(mergeRanges sorted).toArray⟩

def singleton (c : Char) : CharSet := ⟨#[(c.toNat, c.toNat)]⟩

def ofChars (cs : List Char) : CharSet := ofRanges (cs.map fun c => (c.toNat, c.toNat))

def union (s t : CharSet) : CharSet := ofRanges (s.ranges.toList ++ t.ranges.toList)

/-- The ranges between the given ones, from a code point on. -/
def gaps (start : Nat) : List (Nat × Nat) → List (Nat × Nat)
  | [] => if start ≤ maxCode then [(start, maxCode)] else []
  | (a, b) :: rest =>
    if start < a then (start, a - 1) :: gaps (b + 1) rest else gaps (b + 1) rest

def compl (s : CharSet) : CharSet := ⟨(gaps 0 s.ranges.toList).toArray⟩

def inter (s t : CharSet) : CharSet := (s.compl.union t.compl).compl

/-- The members of the first set that are not in the second. -/
def diff (s t : CharSet) : CharSet := (s.compl.union t).compl

def symmDiff (s t : CharSet) : CharSet := (s.diff t).union (t.diff s)

def hexDigit? (c : Char) : Option Nat :=
  if c.isDigit then some (c.toNat - '0'.toNat)
  else if 'a' ≤ c ∧ c ≤ 'f' then some (c.toNat - 'a'.toNat + 10)
  else if 'A' ≤ c ∧ c ≤ 'F' then some (c.toNat - 'A'.toNat + 10)
  else none

/-- The hexadecimal numbers of a table, parted by other characters. -/
def readHexNumbers (table : Text) : List Nat :=
  let step := fun (acc : List Nat × Option Nat) (c : Char) =>
    match hexDigit? c, acc.2 with
    | some d, some n => (acc.1, some (n * 16 + d))
    | some d, none => (acc.1, some d)
    | none, some n => (n :: acc.1, none)
    | none, none => acc
  let last := table.foldl step ([], none)
  (match last.2 with
    | some n => n :: last.1
    | none => last.1).reverse

/-- The ranges of a list of runs that starts at a code point. -/
def rangesOfRuns (start : Nat) : List Nat → List (Nat × Nat)
  | gap :: more :: rest =>
    (start + gap, start + gap + more) :: rangesOfRuns (start + gap + more + 1) rest
  | _ => []

/-- The set whose runs a table lists: for each run its distance from the end of the run before it
and its length less one, as hexadecimal numbers. -/
def ofRuns (table : String) : CharSet := ⟨(rangesOfRuns 0 (readHexNumbers table.toList)).toArray⟩

end CharSet

end Lector
