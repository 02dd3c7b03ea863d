/-
# Tables of code points

The data of the character standard is written as text: code points in hexadecimal, either single or as
a range `low-high`, separated by blanks. `RangeTable.read` turns such a text into a table, and
`RangeTable.contains` looks a code point up by halving the part of the table that can hold it.

Key definitions: `RangeTable`, `RangeTable.read`, `RangeTable.contains`, `RangeTable.union`.
-/
import ScopeLexer.Text.Basic

namespace ScopeLexer
namespace Unicode

/-- A set of code points as ranges with both ends included, in increasing order. -/
structure RangeTable where
  ranges : Array (Nat × Nat)
  deriving Inhabited, Repr, DecidableEq

namespace RangeTable

/-- What has been read of a range: its low end if the hyphen has been seen, and the digits so far. -/
structure Reading where
  done : Array (Nat × Nat) := #[]
  low : Option Nat := none
  digits : Option Nat := none

/-- The range that is being read is complete. -/
def Reading.close (r : Reading) : Reading :=
  match r.digits with
  | none => { r with low := none }
  | some high => { done := r.done.push (r.low.getD high, high) }

/-- One more character of the text. -/
def Reading.next (r : Reading) (c : Char) : Reading :=
  match Text.hexDigit? c with
  | some v => { r with digits := some (r.digits.getD 0 * 16 + v) }
  | none => if c = '-' then { r with low := r.digits, digits := none } else r.close

/-- The table that a text of ranges describes. -/
def read (text : String) : RangeTable :=
  ⟨(text.foldl Reading.next {}).close.done⟩

/-- The last range of positions `lo` to `hi` that begins at or before `n`, given that the answer is
among them. -/
def search (t : Array (Nat × Nat)) (n : Nat) : Nat → Nat → Nat → Bool
  | 0, _, _ => false
  | fuel + 1, lo, hi =>
    if hi ≤ lo then false
    else
      let mid := (lo + hi) / 2
      match t[mid]? with
      | none => false
      | some (a, b) =>
        if n < a then search t n fuel lo mid
        else if b < n then search t n fuel (mid + 1) hi
        else true

/-- Whether a code point is in one of the ranges. -/
def contains (t : RangeTable) (n : Nat) : Bool :=
  search t.ranges n (t.ranges.size + 1) 0 t.ranges.size

/-- The ranges of several tables in increasing order, those that meet joined. -/
def union (ts : List RangeTable) : RangeTable :=
  let all := (ts.flatMap fun t => t.ranges.toList).mergeSort fun x y => x.1 ≤ y.1
  ⟨all.foldl (fun acc r =>
    match acc.back? with
    | some (a, b) => if r.1 ≤ b + 1 then acc.pop.push (a, max b r.2) else acc.push r
    | none => acc.push r) #[]⟩

end RangeTable
end Unicode
end ScopeLexer
