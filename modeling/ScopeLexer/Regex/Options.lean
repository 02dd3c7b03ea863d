/-
# Options of a pattern

What may be switched on and off inside a pattern, and the classes of characters whose meaning depends
on it. An option that narrows a class to the first 128 code points narrows it before it is negated.

Key definitions: `Options`, `CharClass`, `Options.setOf`.
-/
import ScopeLexer.Regex.CharSet
import ScopeLexer.Regex.Syntax
import ScopeLexer.Unicode.Property

namespace ScopeLexer
namespace Regex

/-- The switches in force at a place of a pattern. -/
structure Options where
  ignoreCase : Bool := false
  extended : Bool := false
  dotAll : Bool := false
  asciiWord : Bool := false
  asciiDigit : Bool := false
  asciiSpace : Bool := false
  asciiClasses : Bool := false
  wordSegments : Bool := false
  /-- Case is ignored among the first 128 code points only. -/
  asciiCase : Bool := false
  /-- Groups without a name do not capture. -/
  plainGroups : Bool := false
  deriving Inhabited, Repr, DecidableEq

/-- The classic classes of characters. -/
inductive CharClass where
  | alnum | alpha | blank | cntrl | digit | graph | lower | print | punct | space | upper | xdigit
  | ascii | word
  deriving Inhabited, Repr, DecidableEq

namespace CharClass

/-- The class that a name within a bracket means. -/
def named? : String → Option CharClass
  | "alnum" => some alnum
  | "alpha" => some alpha
  | "blank" => some blank
  | "cntrl" => some cntrl
  | "digit" => some digit
  | "graph" => some graph
  | "lower" => some lower
  | "print" => some print
  | "punct" => some punct
  | "space" => some space
  | "upper" => some upper
  | "xdigit" => some xdigit
  | "ascii" => some ascii
  | "word" => some word
  | _ => none

/-- The characters of a class. -/
def table : CharClass → Unicode.RangeTable
  | alnum => Unicode.alnumTable
  | alpha => Unicode.alphabeticTable
  | blank => Unicode.blankTable
  | cntrl => Unicode.controlTable
  | digit => Unicode.digitTable
  | graph => Unicode.graphTable
  | lower => Unicode.lowercaseTable
  | print => Unicode.printTable
  | punct => Unicode.punctTable
  | space => Unicode.spaceTable
  | upper => Unicode.uppercaseTable
  | xdigit => Unicode.hexDigitTable
  | ascii => Unicode.asciiTable
  | word => Unicode.wordTable

/-- The class that a letter after a backslash means, and whether it is negated. -/
def escaped? : Char → Option (CharClass × Bool)
  | 'w' => some (word, false)
  | 'W' => some (word, true)
  | 'd' => some (digit, false)
  | 'D' => some (digit, true)
  | 's' => some (space, false)
  | 'S' => some (space, true)
  | 'h' => some (xdigit, false)
  | 'H' => some (xdigit, true)
  | _ => none

end CharClass

namespace Options

/-- Whether a class is narrowed to the first 128 code points. -/
def narrows (o : Options) (k : CharClass) : Bool :=
  match k with
  | .word => o.asciiWord || o.asciiClasses
  | .digit => o.asciiDigit || o.asciiClasses
  | .space => o.asciiSpace || o.asciiClasses
  | .ascii => false
  | _ => o.asciiClasses

/-- The set that a class means, or its complement. -/
def setOf (o : Options) (k : CharClass) (negated : Bool) : CharSet :=
  let all := CharSet.table k.table
  let set := if o.narrows k then .inter all (.table Unicode.asciiTable) else all
  if negated then .compl set else set

/-- How text is compared. -/
def fold (o : Options) : Fold :=
  if o.ignoreCase then (if o.asciiCase then .ascii else .full) else .exact

/-- A set as it is meant where case may not count. -/
def foldSet (o : Options) (s : CharSet) : CharSet :=
  match o.fold with
  | .exact => s
  | .ascii => .asciiCase s
  | .full | .simple => .anyCase s

end Options
end Regex
end ScopeLexer
