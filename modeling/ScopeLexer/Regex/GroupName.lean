/-
# Names of groups

A group is named where it is opened, and referred to by name, by number, or by its distance from the
place of the reference. A name is made of the characters of words and does not begin like a number.

Key definitions: `Reference`, `readName`, `readReference`, `readLeveled`.
-/
import ScopeLexer.Decimal.Numeral
import ScopeLexer.Regex.Escape
import ScopeLexer.Unicode.Property

namespace ScopeLexer
namespace Regex

/-- How a group is referred to. -/
inductive Reference where
  | number (n : Nat)
  | back (n : Nat)
  | forward (n : Nat)
  | name (text : List Char)
  deriving Inhabited, Repr, DecidableEq

/-- The number of the group that a reference by number or distance means, where `opened` groups have
been opened so far; none if it lies before the first one. -/
def Reference.number? (opened : Nat) : Reference → Option Nat
  | .number n => some n
  | .back n => if n ≤ opened then some (opened + 1 - n) else none
  | .forward n => some (opened + n)
  | .name _ => none

def isWord (c : Char) : Bool := Unicode.wordTable.contains c.toNat

/-- The character that closes a name opened by another one. -/
def closerOf (c : Char) : Char :=
  if c = '<' then '>' else if c = '(' then ')' else c

/-- The part of a refused name that its message quotes: up to its end, or to the end of the pattern
if nothing follows. -/
def refusedName (close : Char) (whole rest : List Char) : List Char :=
  match rest.dropWhile fun c => c ≠ close ∧ c ≠ ')' with
  | [] => whole
  | [_] => whole
  | tail => whole.take (whole.length - tail.length)

/-- The characters of a name after the first one, up to its end: the name must go on with characters
that `ok` accepts. -/
def nameEnd (close : Char) (ok : Char → Bool) (whole : List Char) (bad : Char → Error) :
    List Char → List Char → Except Error (List Char × List Char)
  | _, [] => .error (.invalidGroupName whole)
  | seen, c :: cs =>
    if c = close then .ok (seen.reverse, cs)
    else if c = ')' then .error (.invalidGroupName whole)
    else if ok c then nameEnd close ok whole bad (c :: seen) cs
    else .error (bad c)

/-- The name of a group that is being opened, and what follows the closing character. -/
def readName (close : Char) (cs : List Char) : Except Error (List Char × List Char) :=
  match cs with
  | [] => .error .emptyGroupName
  | c :: rest =>
    if c = close then .error .emptyGroupName
    else if c.isDigit || c == '-' || c == '+' then
      .error (.invalidGroupName (refusedName close cs rest))
    else if !isWord c then .error (.invalidGroupNameChar (refusedName close cs rest))
    else nameEnd close isWord cs (fun _ => .invalidGroupNameChar (refusedName close cs rest)) [c] rest

/-- The reference that a sign and digits make. -/
def signed (sign : Option Char) (value : Nat) : Reference :=
  match sign with
  | some '-' => .back value
  | some _ => .forward value
  | none => .number value

/-- The greatest number that a reference may hold. -/
def maxNumber : Nat := 0x7FFFFFFF

/-- A reference by name, number or distance, and what follows the closing character. -/
def readReference (close : Char) (cs : List Char) : Except Error (Reference × List Char) :=
  match cs with
  | [] => .error .emptyGroupName
  | c :: rest =>
    if c = close then .error .emptyGroupName
    else if c.isDigit || c == '-' || c == '+' then do
      let sign := if c.isDigit then none else some c
      let bad d := if isWord d then Error.invalidGroupName (refusedName close cs rest)
        else .invalidGroupNameChar (refusedName close cs rest)
      let (text, after) ← nameEnd close Char.isDigit cs bad (if c.isDigit then [c] else []) rest
      let value := (decimal text).1
      if text.isEmpty then .error (.invalidGroupName (refusedName close cs rest))
      else if maxNumber < value then .error .tooBigNumber
      else if value = 0 ∧ sign.isSome then .error (.invalidGroupName (cs.take (text.length + 1)))
      else .ok (signed sign value, after)
    else if !isWord c then .error (.invalidGroupNameChar (refusedName close cs rest))
    else do
      let bad _ := Error.invalidGroupNameChar (refusedName close cs rest)
      let (text, after) ← nameEnd close isWord cs bad [c] rest
      return (.name text, after)

/-- A scan over the text of a reference that may carry a level. -/
structure LeveledScan where
  number : Bool
  digitCount : Nat
  error : Option (List Char → Error) := none
  seen : List Char := []

/-- The characters of a reference that may carry a level, up to the closing character or a sign. -/
def scanLeveled (close : Char) : LeveledScan → List Char → LeveledScan × List Char
  | s, [] => (s, [])
  | s, c :: cs =>
    if c = close || c = ')' || c = '+' || c = '-' then
      if s.number && s.digitCount == 0 then ({ s with error := some .invalidGroupName }, c :: cs)
      else (s, c :: cs)
    else
      let seen := c :: s.seen
      if s.number then
        if c.isDigit then scanLeveled close { s with digitCount := s.digitCount + 1, seen := seen } cs
        else scanLeveled close { s with number := false, error := some .invalidGroupName,
                                        seen := seen } cs
      else if isWord c then scanLeveled close { s with seen := seen } cs
      else scanLeveled close { s with error := some .invalidGroupNameChar, seen := seen } cs

/-- A reference that may carry a recursion level, and what follows the closing character. -/
def readLeveled (close : Char) (cs : List Char) :
    Except Error (Reference × Option Int × List Char) :=
  match cs with
  | [] => .error .emptyGroupName
  | c :: rest =>
    if c = close then .error .emptyGroupName
    else
      let sign := if c = '-' ∨ c = '+' then some c else none
      let start : LeveledScan :=
        { number := c.isDigit || sign.isSome, digitCount := if c.isDigit then 1 else 0,
          error := if c.isDigit || sign.isSome || isWord c then none else some .invalidGroupNameChar,
          seen := [c] }
      let (scan, after) := scanLeveled close start rest
      let name := scan.seen.reverse
      let finish (level : Option Int) (after : List Char) :
          Except Error (Reference × Option Int × List Char) :=
        if scan.number then
          let value := (decimal (if sign.isSome then name.drop 1 else name)).1
          if maxNumber < value then .error .tooBigNumber
          else if value = 0 then .error (.invalidGroupName name)
          else .ok (signed sign value, level, after)
        else .ok (.name name, level, after)
      match scan.error with
      | some e => .error (e name)
      | none =>
        match after with
        | [] => .error (.invalidGroupName cs)
        | d :: tail =>
          if d = close then finish none tail
          else if d = '+' ∨ d = '-' then
            match tail with
            | [] => .error (.invalidGroupNameChar name)
            | _ =>
              let (v, n, tail) := decimal tail
              if n = 0 then .error (.invalidGroupName cs)
              else if maxNumber < v then .error .tooBigNumber
              else
                match tail with
                | e :: tail =>
                  if e = close then
                    finish (some (if d = '-' then -(v : Int) else v)) tail
                  else .error (.invalidGroupName cs)
                | [] => .error (.invalidGroupName cs)
          else .error (.invalidGroupName cs)

end Regex
end ScopeLexer
