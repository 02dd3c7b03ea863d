/-
# Numbers as JSON writes and reads them

Reading collects the digits of a number, as far as they fit into a 64-bit word, and a power of ten. A
whole number without a fraction or an exponent that fits is kept as it is; any other is multiplied or
divided once by the power of ten, and is refused if it is too large for a double. Writing gives the
shortest decimal, with an exponent outside of the range that is easy to read.

Key definitions: `readNumber`, `Number.text`.
-/
import ScopeLexer.Decimal.Numeral
import ScopeLexer.Json.Value

namespace ScopeLexer
namespace Json

open Decimal (valueOf maxWord)

/-! ### Reading -/

/-- The digits of a number that fit into a word: their value, how many of the further digits do not,
and the rest. -/
def significandFrom : Nat → List Char → Nat × Nat × List Char
  | value, [] => (value, 0, [])
  | value, c :: cs =>
    if c.isDigit then
      if Nat.ofDigitChars 10 [c] value ≤ maxWord then significandFrom (Nat.ofDigitChars 10 [c] value) cs
      else (value, ((c :: cs).takeWhile Char.isDigit).length, (c :: cs).dropWhile Char.isDigit)
    else (value, 0, c :: cs)

/-- The power of ten as a double. -/
def powerOfTen (n : Nat) : Float := Float.ofScientific 1 false n

/-- A number times a power of ten with a negative exponent. -/
def divideByPower : Nat → Float → Nat → Float
  | 0, f, _ => f
  | fuel + 1, f, e =>
    if e ≤ 308 then f / powerOfTen e
    else if f == 0.0 then f
    else divideByPower fuel (f / powerOfTen 308) (e - 308)

/-- The double that digits and a power of ten make; none if it is too large. -/
def assemble (negative : Bool) (significand : Nat) (exponent : Int) : Option Number :=
  let f := significand.toUInt64.toFloat
  let signed (f : Float) : Number := .double (.ofFloat (if negative then -f else f))
  if 0 ≤ exponent then
    if f == 0.0 then some (signed f)
    else if exponent ≤ 308 then
      let g := f * powerOfTen exponent.toNat
      if g.isInf then none else some (signed g)
    else none
  else some (signed (divideByPower 4 f (-exponent).toNat))

/-- The greatest exponent that is counted. -/
def maxExponent : Nat := 0x7FFFFFFF

/-- The exponent after the letter, added to a given one; none where digits are missing. -/
def readExponent (negative : Bool) (significand : Nat) (exponent : Int) (cs : List Char) :
    Option (Number × List Char) :=
  let (minus, cs) := match cs with
    | '-' :: cs => (true, cs)
    | '+' :: cs => (false, cs)
    | cs => (false, cs)
  let ds := cs.takeWhile Char.isDigit
  let rest := cs.dropWhile Char.isDigit
  if ds.isEmpty then none
  else
    let value := valueOf ds
    if maxExponent < value then
      if significand ≠ 0 ∧ !minus then none
      else some (.double (.ofFloat (if negative then -0.0 else 0.0)), rest)
    else
      let e := if minus then exponent - value else exponent + value
      (assemble negative significand e).map (·, rest)

def isExponentMark (c : Char) : Bool := c == 'e' || c == 'E'

/-- What follows the digits before the point, of which `dropped` did not fit. -/
def readTail (negative : Bool) (significand dropped : Nat) (cs : List Char) :
    Option (Number × List Char) :=
  match cs with
  | '.' :: cs =>
    let ds := cs.takeWhile Char.isDigit
    if ds.isEmpty then none
    else
      let (significand, left, _) := if dropped = 0 then significandFrom significand ds
        else
          match ds with
          | d :: _ =>
            if Nat.ofDigitChars 10 [d] significand ≤ maxWord then significandFrom significand ds
            else (significand, ds.length, [])
          | [] => (significand, 0, [])
      let e : Int := dropped - (ds.length - left : Nat)
      match cs.dropWhile Char.isDigit with
      | c :: rest =>
        if isExponentMark c then readExponent negative significand e rest
        else (assemble negative significand e).map (·, c :: rest)
      | [] => (assemble negative significand e).map (·, [])
  | c :: rest =>
    if isExponentMark c then readExponent negative significand dropped rest
    else if dropped = 0 then some (wholeOr negative significand, c :: rest)
    else (assemble negative significand dropped).map (·, c :: rest)
  | [] =>
    if dropped = 0 then some (wholeOr negative significand, [])
    else (assemble negative significand dropped).map (·, [])
where
  /-- A whole number, or a double if it is negative zero or too far below zero. -/
  wholeOr (negative : Bool) (n : Nat) : Number :=
    if !negative then .whole n
    else if n = 0 ∨ !Decimal.fitsSigned (-(n : Int)) then .double (.ofFloat (-n.toUInt64.toFloat))
    else .whole (-(n : Int))

/-- The number at the head of a text, and the rest; none if there is none or it is too large. -/
def readNumber (cs : List Char) : Option (Number × List Char) :=
  let (negative, cs) := match cs with
    | '-' :: cs => (true, cs)
    | cs => (false, cs)
  match cs with
  | '0' :: c :: rest => if c.isDigit then none else readTail negative 0 0 (c :: rest)
  | ['0'] => readTail negative 0 0 []
  | c :: _ =>
    if c.isDigit then
      let (significand, dropped, rest) := significandFrom 0 cs
      readTail negative significand dropped rest
    else none
  | [] => none

/-! ### Writing -/

/-- The shortest decimal of a finite double in the notation of JSON: between a hundred-thousandth and
ten to the sixteenth without an exponent, and always with a point or an exponent. -/
def doubleText (d : Decimal.Double) : String :=
  let (c, e) := Decimal.shortest d
  let sign := if d.negative then "-" else ""
  let ds := Nat.toDigits 10 c
  let point : Int := ds.length + e
  if c = 0 then sign ++ "0.0"
  else if -5 < point ∧ point ≤ 16 then
    let (whole, part) := Decimal.spread c e
    sign ++ String.ofList whole ++ "." ++ (if part.isEmpty then "0" else String.ofList part)
  else
    let mantissa := match ds with
      | [] => "0"
      | [d] => String.singleton d
      | d :: ds => String.singleton d ++ "." ++ String.ofList ds
    let exponent := point - 1
    sign ++ mantissa ++ "e" ++ (if 0 ≤ exponent then "+" else "-") ++ toString exponent.natAbs

/-- A number as JSON writes it. -/
def Number.text : Number → String
  | .whole n => toString n
  | .double d => doubleText d

end Json
end ScopeLexer
