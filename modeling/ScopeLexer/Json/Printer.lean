/-
# Writing JSON

A value is written without blanks, or over several lines with two blanks for each level; an empty list
or object is written on one line.

Key definitions: `Value.compact`, `Value.pretty`.
-/
import ScopeLexer.Json.Number
import ScopeLexer.Json.Quoted

namespace ScopeLexer
namespace Json

/-- A text in quotes, as a string. -/
def quote (s : String) : String := String.ofList (quoted s.toList)

mutual

/-- A value without blanks. -/
def Value.compact : Value → String
  | .null => "null"
  | .bool true => "true"
  | .bool false => "false"
  | .number n => n.text
  | .string s => quote s
  | .array items => "[" ++ compactItems items ++ "]"
  | .object members => "\x7b" ++ compactMembers members ++ "\x7d"

/-- Items with commas between them. -/
def compactItems : List Value → String
  | [] => ""
  | [v] => v.compact
  | v :: vs => v.compact ++ "," ++ compactItems vs

/-- Members with commas between them. -/
def compactMembers : List (String × Value) → String
  | [] => ""
  | [(k, v)] => quote k ++ ":" ++ v.compact
  | (k, v) :: ms => quote k ++ ":" ++ v.compact ++ "," ++ compactMembers ms

end

/-- The blanks at the head of a line. -/
def indent (level : Nat) : String := String.ofList (List.replicate (2 * level) ' ')

mutual

/-- A value over several lines, where `level` counts the lists and objects around it. -/
def Value.prettyAt (level : Nat) : Value → String
  | .array [] => "[]"
  | .array items => "[\n" ++ prettyItems (level + 1) items ++ "\n" ++ indent level ++ "]"
  | .object [] => "\x7b\x7d"
  | .object members =>
    "\x7b\n" ++ prettyMembers (level + 1) members ++ "\n" ++ indent level ++ "\x7d"
  | .null => "null"
  | .bool true => "true"
  | .bool false => "false"
  | .number n => n.text
  | .string s => quote s

/-- Items on lines of their own. -/
def prettyItems (level : Nat) : List Value → String
  | [] => ""
  | [v] => indent level ++ v.prettyAt level
  | v :: vs => indent level ++ v.prettyAt level ++ ",\n" ++ prettyItems level vs

/-- Members on lines of their own. -/
def prettyMembers (level : Nat) : List (String × Value) → String
  | [] => ""
  | [(k, v)] => indent level ++ quote k ++ ": " ++ v.prettyAt level
  | (k, v) :: ms =>
    indent level ++ quote k ++ ": " ++ v.prettyAt level ++ ",\n" ++ prettyMembers level ms

end

/-- A value over several lines. -/
def Value.pretty (v : Value) : String := v.prettyAt 0

end Json
end ScopeLexer
