/-
# Characters spelled out in bytes

A character may be named by the bytes of its UTF-8 form, one escape a byte. The first byte tells how
many there are. Bytes that form no character are accepted where their shape is right; the code that
they get is that of no character, so they match nothing.

Key definitions: `formLength`, `codeOfBytes`, `readBytes`.
-/
import ScopeLexer.Regex.Escape

namespace ScopeLexer
namespace Regex

/-- The number of bytes in the form that a byte begins. -/
def formLength (lead : Nat) : Nat :=
  if 0xC2 ≤ lead ∧ lead ≤ 0xDF then 2
  else if 0xE0 ≤ lead ∧ lead ≤ 0xEF then 3
  else if 0xF0 ≤ lead ∧ lead ≤ 0xF4 then 4
  else 1

def isTrail (byte : Nat) : Bool := 0x80 ≤ byte && byte ≤ 0xBF

/-- A number beyond all code points. -/
def noCode : Nat := 0x110000

/-- The code point of a well-formed sequence of bytes, `noCode` where the standard has none. -/
def codeOfBytes (lead : Nat) (trail : List Nat) : Nat :=
  let value := trail.foldl (fun v b => v * 64 + b % 64) (match trail.length with
    | 0 => lead
    | 1 => lead % 32
    | 2 => lead % 16
    | _ => lead % 8)
  let least := match trail.length with
    | 0 => 0
    | 1 => 0x80
    | 2 => 0x800
    | _ => 0x10000
  if trail.isEmpty ∧ 0x80 ≤ lead then noCode
  else if value < least ∨ 0x10FFFF < value ∨ (0xD800 ≤ value ∧ value ≤ 0xDFFF) then noCode
  else value

/-- The byte that an escape at the head of a text names, if it names one. -/
def readByte (cs : List Char) : Except Error (Option (Nat × List Char)) :=
  match cs with
  | '\\' :: 'x' :: '\x7b' :: _ => .ok none
  | '\\' :: 'x' :: rest =>
    let (v, _, rest) := digits 16 2 rest
    .ok (some (v, rest))
  | '\\' :: c :: rest =>
    if '0' ≤ c ∧ c ≤ '7' then do
      let (e, rest) ← readOctal 3 (c :: rest)
      match e with
      | .byte b => return some (b, rest)
      | _ => return none
    else .ok none
  | _ => .ok none

/-- As many bytes as are asked for, each an escape of its own. -/
def readTrail : Nat → List Char → Except Error (List Nat × List Char)
  | 0, cs => .ok ([], cs)
  | n + 1, cs => do
    match ← readByte cs with
    | none => .error .shortBytes
    | some (b, rest) =>
      let (bs, rest) ← readTrail n rest
      return (b :: bs, rest)

/-- The character whose form begins with a byte, the further bytes read from the text. -/
def readBytes (lead : Nat) (cs : List Char) : Except Error (Nat × List Char) := do
  let (trail, rest) ← readTrail (formLength lead - 1) cs
  if isTrail lead || !trail.all isTrail then .error .invalidCode
  else return (codeOfBytes lead trail, rest)

end Regex
end ScopeLexer
