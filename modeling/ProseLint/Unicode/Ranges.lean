/-
Sets of code points as ascending ranges. `RangeTable.ofText` reads a table such as `41-5A 61-7A AA`
(hexadecimal, both ends included); `RangeTable.contains` looks a code point up by halving. Lists of
ranges are joined, turned round and cut by `Ranges.join`, `Ranges.complement` and `Ranges.inter`.
-/
import ProseLint.Text.Digits

namespace ProseLint.Unicode

open Text

/-- Ascending, disjoint ranges of code points, both ends included. -/
abbrev RangeTable := Array (Nat × Nat)

/-- A table under the names it is asked for by, all in loose form. -/
structure NamedRanges where
  names : List String
  ranges : String

namespace RangeTable

/-- One range: `41-5A`, or `AA` for a single code point. -/
def readRange (entry : List Char) : Nat × Nat :=
  let lo := hexNat (entry.takeWhile (· ≠ '-'))
  match entry.dropWhile (· ≠ '-') with
  | [] => (lo, lo)
  | _ :: hi => (lo, hexNat hi)

/-- The ranges of a text, which are separated by blanks and line ends. -/
def ofText (text : String) : RangeTable :=
  ((pieces (fun c => c = ' ' || c = '\n') text.toList).map readRange).toArray

/-- Looks for `n` among the ranges from `lo` up to and without `hi`. -/
def search (t : RangeTable) (n : Nat) : (steps lo hi : Nat) → Bool
  | 0, _, _ => false
  | steps + 1, lo, hi =>
    if lo < hi then
      let mid := (lo + hi) / 2
      match t[mid]? with
      | none => false
      | some (first, last) =>
        if n < first then search t n steps lo mid
        else if last < n then search t n steps (mid + 1) hi
        else true
    else false

def contains (t : RangeTable) (n : Nat) : Bool := t.search n t.size 0 t.size

end RangeTable

/-- Ranges of code points, both ends included. -/
abbrev Ranges := List (Nat × Nat)

namespace Ranges

def maxCodePoint : Nat := 0x10FFFF

/-- The code point after another. There are no characters between D7FF and E000. -/
def next (n : Nat) : Nat := if n = 0xD7FF then 0xE000 else n + 1

def previous (n : Nat) : Nat := if n = 0xE000 then 0xD7FF else n - 1

/-- Joins a range to those of ascending ranges that it overlaps or touches. -/
def joinFrom (first last : Nat) : Ranges → Ranges
  | [] => [(first, last)]
  | (a, b) :: rs =>
    if a ≤ next last then joinFrom first (max last b) rs else (first, last) :: joinFrom a b rs

/-- The same set in ascending ranges that stand apart. -/
def join (rs : Ranges) : Ranges :=
  match rs.mergeSort fun r s => r.1 ≤ s.1 with
  | [] => []
  | (a, b) :: rs => joinFrom a b rs

/-- What lies outside ascending ranges, from a code point on. -/
def gapsFrom (start : Nat) : Ranges → Ranges
  | [] => if start ≤ maxCodePoint then [(start, maxCodePoint)] else []
  | (a, b) :: rs =>
    if start < a then (start, previous a) :: gapsFrom (next b) rs else gapsFrom (next b) rs

def complement (rs : Ranges) : Ranges := gapsFrom 0 rs

def union (rs ss : Ranges) : Ranges := join (rs ++ ss)

def inter (rs ss : Ranges) : Ranges := complement (union (complement rs) (complement ss))

def diff (rs ss : Ranges) : Ranges := inter rs (complement ss)

def symmDiff (rs ss : Ranges) : Ranges := diff (union rs ss) (inter rs ss)

end Ranges

def NamedRanges.find? (tables : List NamedRanges) (name : String) : Option RangeTable :=
  (tables.find? (·.names.contains name)).map (RangeTable.ofText ·.ranges)

end ProseLint.Unicode
