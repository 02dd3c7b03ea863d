/-
# Writing property lists

A value is written as elements, one in a line, each level indented by one tab. A list or map without
parts is a single tag. In a text the marks of markup, quotes and carriage returns are written as
references.

Key definitions: `Value`, `escape`, `Value.render`.
-/
import ScopeLexer.Decimal.Shortest

namespace ScopeLexer
namespace Plist

/-- A value that can be written. -/
inductive Value where
  | text (s : String)
  | bool (b : Bool)
  | whole (n : Int)
  | real (d : Decimal.Double)
  | list (items : List Value)
  | map (entries : List (String × Value))
  deriving Inhabited, Repr

/-- A character as it stands in a text. -/
def escapeChar (c : Char) : List Char :=
  match c with
  | '<' => "&lt;".toList
  | '>' => "&gt;".toList
  | '&' => "&amp;".toList
  | '"' => "&quot;".toList
  | '\'' => "&apos;".toList
  | '\r' => "&#13;".toList
  | c => [c]

/-- A text as it stands in an element. -/
def escape (s : String) : String := String.ofList (s.toList.flatMap escapeChar)

/-- An element that holds a text. -/
def element (name content : String) : String := "<" ++ name ++ ">" ++ content ++ "</" ++ name ++ ">"

/-- The beginning of a line. -/
def margin (level : Nat) : String := String.ofList (List.replicate level '\t')

mutual

/-- A value in lines of its own, so many levels deep. -/
def Value.lines (level : Nat) : Value → List String
  | .text s => [margin level ++ element "string" (escape s)]
  | .bool b => [margin level ++ if b then "<true/>" else "<false/>"]
  | .whole n => [margin level ++ element "integer" (toString n)]
  | .real d => [margin level ++ element "real" d.positional]
  | .list [] => [margin level ++ "<array/>"]
  | .list (v :: vs) =>
    (margin level ++ "<array>") :: itemLines (level + 1) (v :: vs) ++ [margin level ++ "</array>"]
  | .map [] => [margin level ++ "<dict/>"]
  | .map (e :: es) =>
    (margin level ++ "<dict>") :: entryLines (level + 1) (e :: es) ++ [margin level ++ "</dict>"]
  termination_by structural v => v

/-- Values one after the other. -/
def itemLines (level : Nat) : List Value → List String
  | [] => []
  | v :: vs => v.lines level ++ itemLines level vs
  termination_by structural vs => vs

/-- Keys and values one after the other. -/
def entryLines (level : Nat) : List (String × Value) → List String
  | [] => []
  | e :: es => keyLines level e ++ entryLines level es
  termination_by structural es => es

/-- A key and its value. -/
def keyLines (level : Nat) : String × Value → List String
  | (key, v) => (margin level ++ element "key" (escape key)) :: v.lines level
  termination_by structural e => e

end

/-- What stands before a value. -/
def head : List String :=
  ["<?xml version=\"1.0\" encoding=\"UTF-8\"?>",
   "<!DOCTYPE plist PUBLIC \"-//Apple//DTD PLIST 1.0//EN\" " ++
     "\"http://www.apple.com/DTDs/PropertyList-1.0.dtd\">",
   "<plist version=\"1.0\">"]

/-- The text of a value, without a line break at its end. -/
def Value.render (v : Value) : String :=
  String.intercalate "\n" (head ++ v.lines 0 ++ ["</plist>"])

end Plist
end ScopeLexer
