/-
# Scopes

A scope is a name of atoms between points, such as `string.quoted.double`. White space around the name
does not count. One scope is a prefix of another if the other one begins with it, up to a point.

Key definitions: `Scope`, `Scope.atoms`, `Scope.isPrefixOf`, `Scope.parseNames`.
-/
import ScopeLexer.Text.Basic

namespace ScopeLexer

/-- The name of a scope, without white space around it. -/
structure Scope where
  text : String
  deriving Inhabited, Repr, DecidableEq

namespace Scope

/-- The scope of a name. -/
def ofChars (cs : List Char) : Scope := ⟨String.ofList (Text.trim cs)⟩

def ofText (s : String) : Scope := ofChars s.toList

def isEmpty (s : Scope) : Bool := s.text.isEmpty

/-- The parts of a scope between points that are not empty. -/
def atoms (s : Scope) : List String :=
  ((s.text.toList.splitOn '.').filter (!·.isEmpty)).map String.ofList

/-- The number of atoms. -/
def length (s : Scope) : Nat := s.atoms.length

/-- Whether a scope is the beginning of another one, up to a point. -/
def isPrefixOf (a b : Scope) : Bool :=
  a.isEmpty ||
    match a.text.toList.isPrefixOf? b.text.toList with
    | some [] => true
    | some (c :: _) => c == '.'
    | none => false

/-- The scopes of a text: names with white space between them. -/
def parseNames (cs : List Char) : List Scope := (Text.words cs).map ofChars

/-- A scope for people to read. -/
def describe (s : Scope) : String := "Scope(\"" ++ s.text ++ "\")"

end Scope
end ScopeLexer
