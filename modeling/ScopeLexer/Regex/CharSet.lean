/-
# Sets of characters

What a bracket expression or a class escape stands for: a set of code points built from single code
points, ranges and tables by union, intersection and complement. `anyCase s` holds every character
that is like one of `s` apart from case.

Key definitions: `CharSet`, `CharSet.contains`.
-/
import ScopeLexer.Unicode.Letter

namespace ScopeLexer
namespace Regex

/-- A set of code points. -/
inductive CharSet where
  | empty
  | range (low high : Nat)
  | table (t : Unicode.RangeTable)
  | union (a b : CharSet)
  | inter (a b : CharSet)
  | compl (a : CharSet)
  | anyCase (a : CharSet)
  | asciiCase (a : CharSet)
  deriving Inhabited, Repr, DecidableEq

namespace CharSet

/-- The code points that differ from a given one among the first 128 by case at most. -/
def asciiMates (n : Nat) : List Nat :=
  if 0x41 ≤ n ∧ n ≤ 0x5A then [n, n + 32] else if 0x61 ≤ n ∧ n ≤ 0x7A then [n, n - 32] else [n]

/-- Whether a code point is in a set. -/
def contains : CharSet → Nat → Bool
  | empty, _ => false
  | range low high, n => low ≤ n && n ≤ high
  | table t, n => t.contains n
  | union a b, n => a.contains n || b.contains n
  | inter a b, n => a.contains n && b.contains n
  | compl a, n => !a.contains n
  | anyCase a, n => (Unicode.foldMates n).any a.contains
  | asciiCase a, n => (asciiMates n).any a.contains

/-- The set of one code point. -/
def single (n : Nat) : CharSet := range n n

end CharSet
end Regex
end ScopeLexer
