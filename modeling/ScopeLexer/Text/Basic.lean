/-
# Characters and words of a text

White space is the standard's property of that name, twenty-five characters in all. A text is trimmed
of it at both ends and split into the words between it. A word is taken off the head or the end of a text
as often as it stands there.

Key definitions: `isSpace`, `isControl`, `hexValue?`, `trim`, `words`, `dropHeads`, `dropTails`.
Key theorems: `not_isPrefixOf_dropHeads`.
-/

namespace ScopeLexer
namespace Text

/-! ### Characters -/

/-- A character with the property `White_Space`. -/
def isSpace (c : Char) : Bool :=
  let n := c.toNat
  n == 0x20 || (0x09 ≤ n && n ≤ 0x0D) || n == 0x85 || n == 0xA0 || n == 0x1680 ||
    (0x2000 ≤ n && n ≤ 0x200A) || n == 0x2028 || n == 0x2029 || n == 0x202F || n == 0x205F ||
    n == 0x3000

/-- A control character: the general category `Cc`. -/
def isControl (c : Char) : Bool :=
  let n := c.toNat
  n ≤ 0x1F || (0x7F ≤ n && n ≤ 0x9F)

/-- The value of a hexadecimal digit, in letters of either case. -/
def hexDigit? (c : Char) : Option Nat :=
  if c.isDigit then some (c.toNat - 48)
  else if 'a' ≤ c && c ≤ 'f' then some (c.toNat - 87)
  else if 'A' ≤ c && c ≤ 'F' then some (c.toNat - 55)
  else none

/-- The number that the first digits of a text write, if there are so many; `value` is that of the
digits before. -/
def hexValue? : Nat → Nat → List Char → Option Nat
  | 0, value, _ => some value
  | _ + 1, _, [] => none
  | count + 1, value, c :: cs =>
    (hexDigit? c).bind fun d => hexValue? count (16 * value + d) cs

/-! ### White space around words -/

/-- The text without the characters at its end that satisfy `p`. -/
def dropEndWhile (p : Char → Bool) (cs : List Char) : List Char := (cs.reverse.dropWhile p).reverse

/-- The text without white space at either end. -/
def trim (cs : List Char) : List Char :=
  dropEndWhile isSpace (cs.dropWhile isSpace)

/-- The words of a text, in order: the maximal runs of characters that are not white space. -/
def words (cs : List Char) : List (List Char) := (cs.splitOnP isSpace).filter (!·.isEmpty)

/-! ### Copies of a word at either end -/

/-- The text without the copies of a word at its head. -/
def dropHeads (w cs : List Char) : List Char :=
  if _h : w ≠ [] ∧ w.isPrefixOf cs then dropHeads w (cs.drop w.length) else cs
  termination_by cs.length
  decreasing_by
    obtain ⟨hw, hp⟩ := _h
    have hl := (List.isPrefixOf_iff_prefix.mp hp).length_le
    have := List.length_pos_iff.mpr hw
    simp only [List.length_drop]
    omega

/-- The text without the copies of a word at its end. -/
def dropTails (w cs : List Char) : List Char := (dropHeads w.reverse cs.reverse).reverse

/-- The word does not stand at the head any more. -/
theorem not_isPrefixOf_dropHeads (w cs : List Char) (h : w ≠ []) :
    w.isPrefixOf (dropHeads w cs) = false := by
  fun_induction dropHeads w cs with
  | case1 _ _ ih => exact ih
  | case2 cs hn => simpa only [ne_eq, h, not_false_eq_true, true_and, Bool.not_eq_true] using hn

end Text
end ScopeLexer
