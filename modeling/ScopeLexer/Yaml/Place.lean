/-
# Places in a YAML text

A place is what is left of a text, with its line and column. A line ends with a line feed, a carriage
return or both, which are all read as a line feed, or with one of the separators of Unicode.

Key definitions: `Place`, `Place.skip`, `Place.readBreak?`.
-/

namespace ScopeLexer
namespace Yaml

/-- A place in a text. -/
structure Place where
  rest : List Char
  /-- At least as many characters as are left. -/
  bound : Nat
  /-- How many characters come before. -/
  index : Nat := 0
  line : Nat := 0
  column : Nat := 0
  deriving Inhabited, Repr

def isBlank (c : Char) : Bool := c == ' ' || c == '\t'

/-- Whether a character ends a line. -/
def isBreak (c : Char) : Bool :=
  c == '\n' || c == '\r' || c == '\u0085' || c == '\u2028' || c == '\u2029'

/-- Whether a text ends or begins with white space. -/
def blankAhead : List Char → Bool
  | [] => true
  | c :: _ => isBlank c || isBreak c

/-- A character of names. -/
def isWord (c : Char) : Bool := c.isAlphanum || c == '_' || c == '-'

/-- Whether a character may stand in a YAML text. -/
def isAllowed (c : Char) : Bool :=
  c == '\t' || c == '\n' || c == '\r' || (' ' ≤ c && c ≤ '~') || c == '\u0085' ||
    ('\u00a0' ≤ c && c != '\ufffe' && c != '\uffff')

namespace Place

/-- The place some characters further in the line. -/
def skip (p : Place) (n : Nat) : Place :=
  { p with rest := p.rest.drop n, index := p.index + n, column := p.column + n }

/-- The place after all characters of a kind. -/
def skipAll (p : Place) (f : Char → Bool) : Place := p.skip (p.rest.takeWhile f).length

/-- The characters of a kind, and the place after them. -/
def take (p : Place) (f : Char → Bool) : List Char × Place :=
  let cs := p.rest.takeWhile f
  (cs, p.skip cs.length)

/-- The end of a line as it is read, and the place after it. -/
def readBreak? (p : Place) : Option (Char × Place) :=
  match p.rest with
  | '\r' :: '\n' :: rest =>
    some ('\n', { p with rest := rest, index := p.index + 2, line := p.line + 1, column := 0 })
  | c :: rest =>
    if isBreak c then
      some (if c == '\u2028' || c == '\u2029' then c else '\n',
        { p with rest := rest, index := p.index + 1, line := p.line + 1, column := 0 })
    else none
  | [] => none

/-- The place in the next line, or the same place if no line ends there. -/
def skipBreak (p : Place) : Place :=
  match p.readBreak? with
  | some (_, q) => q
  | none => p

/-- The end of the line, after blanks and a comment; none if there is anything else. -/
def endOfLine? (p : Place) : Option Place :=
  let p := p.skipAll isBlank
  let p := match p.rest with
    | '#' :: _ => p.skipAll fun c => !isBreak c
    | _ => p
  match p.rest with
  | [] => some p
  | c :: _ => if isBreak c then some p.skipBreak else none

/-- Whether a marker of three characters stands at the beginning of a line. -/
def startsDocument (p : Place) : Bool :=
  p.column == 0 && match p.rest with
    | '-' :: '-' :: '-' :: rest => blankAhead rest
    | _ => false

/-- Whether a document ends at the beginning of a line. -/
def endsDocument (p : Place) : Bool :=
  p.column == 0 && match p.rest with
    | '.' :: '.' :: '.' :: rest => blankAhead rest
    | _ => false

def atMarker (p : Place) : Bool := p.startsDocument || p.endsDocument

end Place
end Yaml
end ScopeLexer
