/-
# The shortest decimal of a double

A finite double other than zero is `m * 2 ^ q`. The reals that round to it form an interval around it;
its ends belong to it if `m` is even. The shortest decimal is the one with the fewest digits within the
interval, the nearest to the double of those, and the one with an even last digit of two as near.

Key definitions: `Double`, `Double.parts`, `Interval`, `shortest`, `Double.positional`.
-/

namespace ScopeLexer
namespace Decimal

/-- A number in the format of doubles, given by its bits. -/
structure Double where
  bits : UInt64
  deriving Inhabited, Repr, DecidableEq

namespace Double

def ofFloat (f : Float) : Double := ⟨f.toBits⟩

def toFloat (d : Double) : Float := Float.ofBits d.bits

/-- The least double that is not finite, without its sign. -/
def infinityBits : Nat := 0x7FF0000000000000

def negative (d : Double) : Bool := 0x8000000000000000 ≤ d.bits.toNat

/-- The bits without the sign. -/
def magnitude (d : Double) : Nat := d.bits.toNat % 0x8000000000000000

def isZero (d : Double) : Bool := d.magnitude == 0

/-- Equality of numbers: the two zeros are equal, and what is no number equals nothing. -/
def same (a b : Double) : Bool :=
  (a.isZero && b.isZero) || (a.bits == b.bits && a.magnitude ≤ infinityBits)

/-- The bit that normal doubles have above their fraction. -/
def hiddenBit : Nat := 0x10000000000000

/-- The exponent field and the fraction of a double. -/
def fields (d : Double) : Nat × Nat := (d.magnitude / hiddenBit, d.magnitude % hiddenBit)

/-- The magnitude of a finite double as `m * 2 ^ q`. -/
def parts (d : Double) : Nat × Int :=
  let (e, f) := d.fields
  if e = 0 then (f, -1074) else (f + hiddenBit, (e : Int) - 1075)

end Double

/-- The reals that round to a double, as fractions of one denominator. -/
structure Interval where
  low : Nat
  value : Nat
  high : Nat
  denominator : Nat
  /-- Whether the ends round to the double too. -/
  closed : Bool
  deriving Repr

/-- Whether a fraction of the same denominator lies in the interval. -/
def Interval.contains (i : Interval) (x : Nat) : Bool :=
  if i.closed then i.low ≤ x && x ≤ i.high else i.low < x && x < i.high

/-- The interval of a finite double. Below a power of two the doubles are twice as dense. -/
def Double.interval (d : Double) : Interval :=
  let (m, q) := d.parts
  let (e, f) := d.fields
  let below := if f = 0 ∧ 1 < e then 1 else 2
  let scale := Nat.pow 2 (q - 2).toNat
  { low := (4 * m - below) * scale
    value := 4 * m * scale
    high := (4 * m + 2) * scale
    denominator := Nat.pow 2 (2 - q).toNat
    closed := m % 2 == 0 }

/-- The interval in units of `10 ^ e`. -/
def Interval.inUnits (i : Interval) (e : Int) : Interval :=
  let up := Nat.pow 10 (-e).toNat
  { i with low := i.low * up, value := i.value * up, high := i.high * up,
           denominator := i.denominator * Nat.pow 10 e.toNat }

/-- The whole number of units in the interval that is nearest to its value, if one is in it. -/
def Interval.nearest? (i : Interval) : Option Nat :=
  let c := i.value / i.denominator
  let down := i.contains (c * i.denominator)
  let up := i.contains ((c + 1) * i.denominator)
  let part := 2 * (i.value % i.denominator)
  if down && up then
    if part < i.denominator then some c
    else if i.denominator < part then some (c + 1)
    else if c % 2 = 0 then some c else some (c + 1)
  else if down then some c
  else if up then some (c + 1)
  else none

/-- A number without the zeros at its end, and how many there were. -/
def stripZeros : Nat → Nat → Nat × Nat
  | 0, n => (n, 0)
  | fuel + 1, n =>
    if n ≠ 0 ∧ n % 10 = 0 then
      let r := stripZeros fuel (n / 10)
      (r.1, r.2 + 1)
    else (n, 0)

/-- How often a number must be multiplied by ten to reach a bound. -/
def tensUpTo (bound : Nat) : Nat → Nat → Nat
  | 0, _ => 0
  | fuel + 1, v => if bound ≤ v then 0 else tensUpTo bound fuel (v * 10) + 1

/-- The exponent of the first digit of a fraction: the greatest `k` with `10 ^ k ≤ value`. -/
def Interval.leading (i : Interval) : Int :=
  let whole := i.value / i.denominator
  if 0 < whole then (Nat.toDigits 10 whole).length - 1
  else -(tensUpTo i.denominator 400 i.value : Int)

/-- The digits and the exponent of the first grid, from `n` digits on, that has a number in the
interval. -/
def shortestFrom (i : Interval) (leading : Int) : Nat → Nat → Nat × Int
  | 0, _ => (0, 0)
  | fuel + 1, n =>
    let e := leading - (n : Int) + 1
    match (i.inUnits e).nearest? with
    | some c =>
      let r := stripZeros 20 c
      (r.1, e + r.2)
    | none => shortestFrom i leading fuel (n + 1)

/-- The digits `c` and the exponent `e` of the shortest decimal `c * 10 ^ e` of a finite double, without
its sign. -/
def shortest (d : Double) : Nat × Int :=
  if d.isZero then (0, 0) else shortestFrom d.interval d.interval.leading 18 1

def zeros (n : Nat) : List Char := List.replicate n '0'

/-- The digits of `c * 10 ^ e` before and after the point, without an exponent. -/
def spread (c : Nat) (e : Int) : List Char × List Char :=
  let ds := Nat.toDigits 10 c
  if 0 ≤ e then (ds ++ zeros e.toNat, [])
  else
    let places := (-e).toNat
    let ds := zeros (places + 1 - ds.length) ++ ds
    (ds.take (ds.length - places), ds.drop (ds.length - places))

/-- A finite double in digits without an exponent; a whole number has no point. -/
def Double.positional (d : Double) : String :=
  let (c, e) := shortest d
  let (whole, part) := spread c e
  let sign := if d.negative then "-" else ""
  sign ++ String.ofList whole ++ (if part.isEmpty then "" else "." ++ String.ofList part)

end Decimal
end ScopeLexer
