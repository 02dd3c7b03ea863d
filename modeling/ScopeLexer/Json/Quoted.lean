/-
# Quoted text in JSON

Between its quotes a text has a backslash before a quote and a backslash, short escapes for the common
control characters, and four hexadecimal digits for the others. Reading accepts more: every character
may be given by its UTF-16 units, but half of a pair is refused, and so is a bare control character.

Key definitions: `encode`, `readQuoted`.
-/
import ScopeLexer.Unicode.RangeTable

namespace ScopeLexer
namespace Json

/-- The hexadecimal digit of a number below sixteen. -/
def hexDigit (n : Nat) : Char := Nat.digitChar n

/-- A code below `16 ^ 4` as an escape of four digits. -/
def unitEscape (n : Nat) : List Char :=
  ['\\', 'u', hexDigit (n / 4096 % 16), hexDigit (n / 256 % 16), hexDigit (n / 16 % 16),
    hexDigit (n % 16)]

/-- A character as it stands between quotes. -/
def encodeChar (c : Char) : List Char :=
  if c = '"' then ['\\', '"']
  else if c = '\\' then ['\\', '\\']
  else if c = '\n' then ['\\', 'n']
  else if c = '\r' then ['\\', 'r']
  else if c = '\t' then ['\\', 't']
  else if c.toNat = 8 then ['\\', 'b']
  else if c.toNat = 12 then ['\\', 'f']
  else if c.toNat < 32 then unitEscape c.toNat
  else [c]

/-- A text as it stands between quotes. -/
def encode (cs : List Char) : List Char := cs.flatMap encodeChar

/-- A text in quotes. -/
def quoted (cs : List Char) : List Char := '"' :: encode cs ++ ['"']

/-- The UTF-16 unit that four hexadecimal digits give. -/
def unitOf? (a b c d : Char) : Option Nat := do
  let a ← Text.hexDigit? a
  let b ← Text.hexDigit? b
  let c ← Text.hexDigit? c
  let d ← Text.hexDigit? d
  return ((a * 16 + b) * 16 + c) * 16 + d

/-- The character that a letter after a backslash stands for. -/
def shortEscape? : Char → Option Char
  | '"' => some '"'
  | '\\' => some '\\'
  | '/' => some '/'
  | 'b' => some (Char.ofNat 8)
  | 'f' => some (Char.ofNat 12)
  | 'n' => some '\n'
  | 'r' => some '\r'
  | 't' => some '\t'
  | _ => none

/-- The text up to the closing quote, and what follows it; `seen` is read so far, last character
first. None if the text is not closed or malformed. -/
def readBody : List Char → List Char → Option (List Char × List Char)
  | seen, '"' :: rest => some (seen.reverse, rest)
  | seen, '\\' :: 'u' :: a :: b :: c :: d :: '\\' :: 'u' :: e :: f :: g :: h :: rest =>
    match unitOf? a b c d with
    | none => none
    | some u =>
      if 0xD800 ≤ u ∧ u < 0xDC00 then
        match unitOf? e f g h with
        | none => none
        | some v =>
          if 0xDC00 ≤ v ∧ v < 0xE000 then
            readBody (Char.ofNat (0x10000 + (u - 0xD800) * 0x400 + (v - 0xDC00)) :: seen) rest
          else none
      else if 0xDC00 ≤ u ∧ u < 0xE000 then none
      else readBody (Char.ofNat u :: seen) ('\\' :: 'u' :: e :: f :: g :: h :: rest)
  | seen, '\\' :: 'u' :: a :: b :: c :: d :: rest =>
    match unitOf? a b c d with
    | none => none
    | some u => if 0xD800 ≤ u ∧ u < 0xE000 then none else readBody (Char.ofNat u :: seen) rest
  | seen, '\\' :: c :: rest =>
    match shortEscape? c with
    | none => none
    | some d => readBody (d :: seen) rest
  | seen, c :: rest => if c.toNat < 32 then none else readBody (c :: seen) rest
  | _, [] => none
  termination_by _ cs => cs.length

/-- A text in quotes at the head of a text, read after the opening quote, and what follows it. -/
def readQuoted (cs : List Char) : Option (List Char × List Char) := readBody [] cs

end Json
end ScopeLexer
