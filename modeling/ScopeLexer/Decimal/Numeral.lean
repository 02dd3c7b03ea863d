/-
# Decimal numerals

A numeral is a text of digits. As a whole number it has to fit into a word of 64 bits, with a sign or
without. A real number has a point among its digits and a power of ten behind them, or is the word for
infinity or for what is no number; the nearest double is what it is read as.

Key definitions: `valueOf`, `wordOf?`, `fitsSigned`, `fitsWord`, `Numeral`, `readNumeral?`, `realOf?`.
-/

namespace ScopeLexer
namespace Decimal

/-! ### Words -/

/-- The greatest number that a word holds. -/
def maxWord : Nat := 0xFFFFFFFFFFFFFFFF

/-- The least number that a word with a sign holds. -/
def minSigned : Int := -0x8000000000000000

/-- The greatest number that a word with a sign holds. -/
def maxSigned : Int := 0x7FFFFFFFFFFFFFFF

/-- Whether a number fits into a word with a sign. -/
def fitsSigned (n : Int) : Bool := minSigned ≤ n && n ≤ maxSigned

/-- Whether a number fits into a word with a sign or without. -/
def fitsWord (n : Int) : Bool := minSigned ≤ n && n ≤ maxWord

/-! ### Whole numbers -/

/-- The value of a text of digits. -/
def valueOf (ds : List Char) : Nat := Nat.ofDigitChars 10 ds 0

/-- The number that a text of digits stands for, a plus sign before it allowed, if it fits into a
word. -/
def wordOf? (text : List Char) : Option Nat :=
  let ds := match text with
    | '+' :: ds => ds
    | ds => ds
  if ds.isEmpty || !ds.all Char.isDigit then none
  else if valueOf ds ≤ maxWord then some (valueOf ds) else none

/-! ### Real numbers -/

/-- A decimal number: `digits * 10 ^ exponent`. -/
structure Numeral where
  digits : Nat
  exponent : Int
  deriving Inhabited, Repr, DecidableEq

/-- Whether a sign stands before a text, and the rest. -/
def readSign : List Char → Bool × List Char
  | '-' :: cs => (true, cs)
  | '+' :: cs => (false, cs)
  | cs => (false, cs)

/-- The exponent at the end of a number; zero if there is nothing left. -/
def readExponent? : List Char → Option Int
  | [] => some 0
  | c :: cs =>
    if c = 'e' ∨ c = 'E' then
      let (minus, ds) := readSign cs
      if ds.isEmpty || !ds.all Char.isDigit then none
      else some (if minus then -(valueOf ds : Int) else valueOf ds)
    else none

/-- The number that a text without a sign writes. -/
def readNumeral? (cs : List Char) : Option Numeral :=
  let whole := cs.takeWhile Char.isDigit
  let rest := cs.dropWhile Char.isDigit
  let (part, rest) := match rest with
    | '.' :: rest => (rest.takeWhile Char.isDigit, rest.dropWhile Char.isDigit)
    | rest => ([], rest)
  if whole.isEmpty && part.isEmpty then none
  else (readExponent? rest).map fun e => ⟨valueOf (whole ++ part), e - part.length⟩

/-- The double nearest to a number. -/
def Numeral.toFloat (n : Numeral) : Float :=
  if n.digits = 0 then 0.0
  else
    let size : Int := (Nat.toDigits 10 n.digits).length + n.exponent
    if size < -400 then 0.0
    else if 400 < size then 1.0 / 0.0
    else Float.ofScientific n.digits (decide (n.exponent < 0)) n.exponent.natAbs

/-- Equality of a text with a word in small letters, in letters of either case. -/
def isWordOf (word : String) (cs : List Char) : Bool := cs.map Char.toLower == word.toList

/-- The double that a text writes. -/
def realOf? (cs : List Char) : Option Float :=
  let (minus, cs) := readSign cs
  let signed (f : Float) : Float := if minus then -f else f
  if isWordOf "inf" cs || isWordOf "infinity" cs then some (signed (1.0 / 0.0))
  else if isWordOf "nan" cs then some (0.0 / 0.0)
  else (readNumeral? cs).map fun n => signed n.toFloat

end Decimal
end ScopeLexer
