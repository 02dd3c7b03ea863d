/-
# Quoted texts

A text in quotes for people to read. Control characters, what is not visible, and marks that join with
the character before them are written by their number.

Key definitions: `isVisible`, `quotedChar`, `quoted`.
-/
import ScopeLexer.Unicode.Property

namespace ScopeLexer
namespace Text

/-- The characters without a shape of their own: controls, formats, unassigned ones, separators. -/
def hiddenTable : Unicode.RangeTable :=
  Unicode.categoriesTable [.cc, .cf, .cn, .co, .cs, .zl, .zp, .zs]

/-- The marks that join with the character before them. -/
def joiningTable : Unicode.RangeTable :=
  (Unicode.rangesNamed? Unicode.binaryProperties "graphemeextend").getD ⟨#[]⟩

/-- Whether a character is written as it is. -/
def isVisible (c : Char) : Bool :=
  c == ' ' || ('!' ≤ c && c ≤ '~') ||
    !(hiddenTable.contains c.toNat || joiningTable.contains c.toNat)

/-- A character within quotes. -/
def quotedChar (c : Char) : List Char :=
  match c with
  | '\x00' => ['\\', '0']
  | '\t' => ['\\', 't']
  | '\r' => ['\\', 'r']
  | '\n' => ['\\', 'n']
  | '\\' => ['\\', '\\']
  | '"' => ['\\', '"']
  | c =>
    if isVisible c then [c]
    else ['\\', 'u', '\x7b'] ++ Nat.toDigits 16 c.toNat ++ ['\x7d']

/-- A text as it stands within quotes. -/
def quotedBody (s : String) : String := String.ofList (s.toList.flatMap quotedChar)

/-- A text in quotes. -/
def quoted (s : String) : String := "\"" ++ quotedBody s ++ "\""

end Text
end ScopeLexer
