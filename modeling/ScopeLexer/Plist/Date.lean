/-
# Dates

A date is written as a day, a time of day and the distance from universal time. It is kept as the
seconds since the year 1970 in universal time and the billionths of a second after them, and written
again in universal time, without zeros at the end of the fraction.

Key definitions: `Date`, `Date.ofText?`, `Date.text`, `dayNumber`, `dayOfNumber`.
-/
import ScopeLexer.Decimal.Numeral

namespace ScopeLexer
namespace Plist

/-- A point in time. -/
structure Date where
  seconds : Int
  billionths : Nat
  deriving Inhabited, Repr, DecidableEq

/-! ### Days -/

/-- The number of a day, counted from the first day of the year 1970. The year is taken to begin in
March, so that the day that some years have more comes last. -/
def dayNumber (year : Int) (month day : Nat) : Int :=
  let y := if month ≤ 2 then year - 1 else year
  let m := if month ≤ 2 then month + 9 else month - 3
  let century := y / 400
  let yearOfCentury := y - century * 400
  let dayOfYear : Int := (153 * m + 2) / 5 + day - 1
  century * 146097 + yearOfCentury * 365 + yearOfCentury / 4 - yearOfCentury / 100 + dayOfYear -
    719468

/-- The year, month and day of a number. -/
def dayOfNumber (n : Int) : Int × Nat × Nat :=
  let z := n + 719468
  let century := z / 146097
  let d := (z - century * 146097).toNat
  let y := (d - d / 1460 + d / 36524 - d / 146096) / 365
  let dayOfYear := d - (365 * y + y / 4 - y / 100)
  let m := (5 * dayOfYear + 2) / 153
  let day := dayOfYear - (153 * m + 2) / 5 + 1
  let month := if m < 10 then m + 3 else m - 9
  let year := (y : Int) + century * 400
  (if month ≤ 2 then year + 1 else year, month, day)

def isLeapYear (year : Nat) : Bool := year % 4 == 0 && (year % 100 != 0 || year % 400 == 0)

def daysInMonth (year month : Nat) : Nat :=
  if month = 2 then if isLeapYear year then 29 else 28
  else if [4, 6, 9, 11].contains month then 30
  else 31

/-! ### Reading -/

/-- A number of so many digits, and the rest. -/
def fixedNumber? (width : Nat) (cs : List Char) : Option (Nat × List Char) :=
  let ds := cs.take width
  if ds.length = width ∧ ds.all Char.isDigit = true then
    some (Decimal.valueOf ds, cs.drop width)
  else none

/-- The rest of a text after a character. -/
def afterChar? (d : Char) : List Char → Option (List Char)
  | c :: cs => if c = d then some cs else none
  | [] => none

/-- A fraction in billionths, and the rest; zero if there is none. -/
def fraction? : List Char → Option (Nat × List Char)
  | '.' :: cs =>
    let ds := cs.takeWhile Char.isDigit
    if ds.isEmpty then none
    else
      let kept := ds.take 9
      some (Decimal.valueOf kept * Nat.pow 10 (9 - kept.length), cs.dropWhile Char.isDigit)
  | cs => some (0, cs)

/-- The distance from universal time in seconds, at the end of a date. -/
def distance? : List Char → Option Int
  | ['Z'] => some 0
  | ['z'] => some 0
  | c :: cs => do
    let minus ← if c = '-' then some true else if c = '+' then some false else none
    let (hours, cs) ← fixedNumber? 2 cs
    let cs ← afterChar? ':' cs
    let (minutes, cs) ← fixedNumber? 2 cs
    if cs.isEmpty ∧ hours ≤ 23 ∧ minutes ≤ 59 then
      let seconds : Int := hours * 3600 + minutes * 60
      some (if minus then -seconds else seconds)
    else none
  | [] => none

/-- The date that a text writes. -/
def Date.ofText? (cs : List Char) : Option Date := do
  let (year, cs) ← fixedNumber? 4 cs
  let cs ← afterChar? '-' cs
  let (month, cs) ← fixedNumber? 2 cs
  let cs ← afterChar? '-' cs
  let (day, cs) ← fixedNumber? 2 cs
  let (hour, cs) ← fixedNumber? 2 (cs.drop 1)
  let cs ← afterChar? ':' cs
  let (minute, cs) ← fixedNumber? 2 cs
  let cs ← afterChar? ':' cs
  let (second, cs) ← fixedNumber? 2 cs
  let (billionths, cs) ← fraction? cs
  let distance ← distance? cs
  if 1 ≤ month ∧ month ≤ 12 ∧ 1 ≤ day ∧ day ≤ daysInMonth year month ∧ hour ≤ 23 ∧ minute ≤ 59 ∧
      second ≤ 59 then
    let inDay : Int := hour * 3600 + minute * 60 + second
    some ⟨dayNumber year month day * 86400 + inDay - distance, billionths⟩
  else none

/-! ### Writing -/

/-- A number with zeros before it. -/
def padded (width n : Nat) : String :=
  let ds := Nat.toDigits 10 n
  String.ofList (List.replicate (width - ds.length) '0' ++ ds)

/-- A fraction of billionths; nothing for zero. -/
def fractionText (billionths : Nat) : String :=
  if billionths = 0 then ""
  else
    let ds := (padded 9 billionths).toList.reverse.dropWhile (· == '0')
    "." ++ String.ofList ds.reverse

def Date.text (d : Date) : String :=
  let days := d.seconds / 86400
  let inDay := (d.seconds % 86400).toNat
  let (year, month, day) := dayOfNumber days
  padded 4 year.toNat ++ "-" ++ padded 2 month ++ "-" ++ padded 2 day ++ "T" ++
    padded 2 (inDay / 3600) ++ ":" ++ padded 2 (inDay / 60 % 60) ++ ":" ++ padded 2 (inDay % 60) ++
    fractionText d.billionths ++ "Z"

end Plist
end ScopeLexer
