/-
# Writing CSON

A JSON value written so that indentation takes the place of braces: the members of an object stand in
lines of their own. Within a list objects keep their braces. Texts and keys stand in single quotes.

Key definitions: `Cson.quoted`, `Cson.value`, `Cson.body`, `Cson.render`.
-/
import ScopeLexer.Json.Number
import ScopeLexer.Text.Basic

namespace ScopeLexer
namespace Cson

open Json (Value)

/-- Digits of base sixteen, at least four. -/
def fourDigits (n : Nat) : List Char :=
  let ds := Nat.toDigits 16 n
  List.replicate (4 - ds.length) '0' ++ ds

/-- A character within quotes. -/
def quotedChar (c : Char) : List Char :=
  match c with
  | '\\' => ['\\', '\\']
  | '\'' => ['\\', '\'']
  | '\n' => ['\\', 'n']
  | '\r' => ['\\', 'r']
  | '\t' => ['\\', 't']
  | c => if Text.isControl c then '\\' :: 'u' :: fourDigits c.toNat else [c]

/-- A text in quotes. -/
def quoted (s : String) : String := String.ofList ('\'' :: s.toList.flatMap quotedChar ++ ['\''])

/-- The beginning of a line. -/
def indent (level : Nat) : String := String.ofList (List.replicate (2 * level) ' ')

mutual

/-- A value in a list or at the top, where an object needs braces. -/
def value (level : Nat) : Value → String
  | .null => "null"
  | .bool b => if b then "true" else "false"
  | .number n => n.text
  | .string s => quoted s
  | .array [] => "[]"
  | .array (v :: vs) => "[\n" ++ items (level + 1) (v :: vs) ++ indent level ++ "]"
  | .object [] => "\x7b\x7d"
  | .object (m :: ms) => "\x7b\n" ++ body (level + 1) (m :: ms) ++ indent level ++ "\x7d"
  termination_by structural v => v

/-- The items of a list, each in a line. -/
def items (level : Nat) : List Value → String
  | [] => ""
  | v :: vs => indent level ++ value level v ++ "\n" ++ items level vs
  termination_by structural vs => vs

/-- The members of an object, each in a line. -/
def body (level : Nat) : List (String × Value) → String
  | [] => ""
  | m :: ms => member level m ++ body level ms
  termination_by structural ms => ms

/-- A member of an object. Only an object with members goes on in the next line. -/
def member (level : Nat) : String × Value → String
  | (key, v) =>
    indent level ++ quoted key ++ ":" ++
      match v with
      | .object (m :: ms) => "\n" ++ body (level + 1) (m :: ms)
      | v => " " ++ value level v ++ "\n"
  termination_by structural m => m

end

/-- The text of a value. -/
def render : Value → String
  | .object ms => body 0 ms
  | v => value 0 v ++ "\n"

end Cson
end ScopeLexer
