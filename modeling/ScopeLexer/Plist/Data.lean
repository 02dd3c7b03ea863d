/-
# Bytes written as text

Three bytes are written as four characters of an alphabet of sixty-four; one or two bytes at the end as
two or three of them, filled up to four. The bits left over at the end are zero.

Key definitions: `bytesOfText?`.
-/

namespace ScopeLexer
namespace Plist

/-- The six bits that a character of the alphabet stands for. -/
def sixBits? (c : Char) : Option Nat :=
  if 'A' ≤ c ∧ c ≤ 'Z' then some (c.toNat - 65)
  else if 'a' ≤ c ∧ c ≤ 'z' then some (c.toNat - 71)
  else if '0' ≤ c ∧ c ≤ '9' then some (c.toNat + 4)
  else if c = '+' then some 62
  else if c = '/' then some 63
  else none

/-- The bytes that characters write, without white space. -/
def bytesOf? : List Char → Option (List UInt8)
  | [] => some []
  | [a, b, '=', '='] => do
    let a ← sixBits? a
    let b ← sixBits? b
    if b % 16 = 0 then some [UInt8.ofNat (a * 4 + b / 16)] else none
  | [a, b, c, '='] => do
    let a ← sixBits? a
    let b ← sixBits? b
    let c ← sixBits? c
    if c % 4 = 0 then
      some [UInt8.ofNat (a * 4 + b / 16), UInt8.ofNat (b % 16 * 16 + c / 4)]
    else none
  | a :: b :: c :: d :: rest => do
    let a ← sixBits? a
    let b ← sixBits? b
    let c ← sixBits? c
    let d ← sixBits? d
    let bytes ← bytesOf? rest
    return UInt8.ofNat (a * 4 + b / 16) :: UInt8.ofNat (b % 16 * 16 + c / 4) ::
      UInt8.ofNat (c % 4 * 64 + d) :: bytes
  | _ => none

/-- White space that may stand anywhere among the characters. -/
def isFiller (c : Char) : Bool :=
  c == ' ' || c == '\t' || c == '\n' || c == '\x0c' || c == '\r'

/-- The bytes that a text writes. -/
def bytesOfText? (cs : List Char) : Option (List UInt8) := bytesOf? (cs.filter fun c => !isFiller c)

/-- The text that bytes encode. -/
def textOfBytes? (bytes : List UInt8) : Option String := String.fromUTF8? ⟨bytes.toArray⟩

end Plist
end ScopeLexer
