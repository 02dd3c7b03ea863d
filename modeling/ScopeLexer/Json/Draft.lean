/-
# JSON text as far as it is well formed

A text is read into a draft: the tree of a value with a mark where the text stops being well formed.
Values may be nested in each other up to a bound.

Key definitions: `Draft`, `Draft.read`, `valueOf?`, `Value.read?`.
-/
import ScopeLexer.Document
import ScopeLexer.Json.Number
import ScopeLexer.Json.Quoted

namespace ScopeLexer
namespace Json

/-- A value without parts. -/
inductive Atom where
  | null
  | bool (b : Bool)
  | number (n : Number)
  | string (s : String)
  deriving Inhabited, Repr, DecidableEq

/-- A value, as far as its text is well formed. -/
abbrev Draft := Document Atom

def isBlank (c : Char) : Bool := c == ' ' || c == '\n' || c == '\t' || c == '\r'

/-- The text without the blanks at its head. -/
def skipBlanks (cs : List Char) : List Char := cs.dropWhile isBlank

namespace Draft

/-- How deep values may be nested. -/
def maxDepth : Nat := 127

mutual

/-- The value at the head of a text, after blanks, and what follows it. Nothing follows a value that is
not whole. `depth` more values may be nested; `fuel` bounds the steps. -/
def readValue (fuel depth : Nat) (cs : List Char) : Draft × List Char :=
  match fuel with
  | 0 => (.broken, [])
  | fuel + 1 =>
    match skipBlanks cs with
    | [] => (.broken, [])
    | '"' :: rest =>
      match readQuoted rest with
      | some (s, rest) => (.scalar (.string (String.ofList s)), rest)
      | none => (.broken, [])
    | '[' :: rest =>
      match depth with
      | 0 => (.list [] false, [])
      | depth + 1 =>
        match skipBlanks rest with
        | ']' :: rest => (.list [] true, rest)
        | rest =>
          let (items, closed, rest) := readItems fuel depth rest
          (.list items closed, rest)
    | '\x7b' :: rest =>
      match depth with
      | 0 => (.map [] false, [])
      | depth + 1 =>
        match skipBlanks rest with
        | '\x7d' :: rest => (.map [] true, rest)
        | rest =>
          let (members, closed, rest) := readMembers fuel depth rest
          (.map members closed, rest)
    | 'n' :: rest =>
      match ['u', 'l', 'l'].isPrefixOf? rest with
      | some rest => (.scalar .null, rest)
      | none => (.broken, [])
    | 't' :: rest =>
      match ['r', 'u', 'e'].isPrefixOf? rest with
      | some rest => (.scalar (.bool true), rest)
      | none => (.broken, [])
    | 'f' :: rest =>
      match ['a', 'l', 's', 'e'].isPrefixOf? rest with
      | some rest => (.scalar (.bool false), rest)
      | none => (.broken, [])
    | cs =>
      match readNumber cs with
      | some (n, rest) => (.scalar (.number n), rest)
      | none => (.broken, [])

/-- The items of a list from one on, whether it is closed, and what follows it. -/
def readItems (fuel depth : Nat) (cs : List Char) : List Draft × Bool × List Char :=
  match fuel with
  | 0 => ([], false, [])
  | fuel + 1 =>
    let (item, rest) := readValue fuel depth cs
    match skipBlanks rest with
    | ']' :: rest => ([item], true, rest)
    | ',' :: rest =>
      match skipBlanks rest with
      | ']' :: _ => ([item], false, [])
      | rest =>
        let (items, closed, rest) := readItems fuel depth rest
        (item :: items, closed, rest)
    | _ => ([item], false, [])

/-- The members of an object from one on, whether it is closed, and what follows it. -/
def readMembers (fuel depth : Nat) (cs : List Char) : List (Option Atom × Draft) × Bool × List Char :=
  match fuel with
  | 0 => ([], false, [])
  | fuel + 1 =>
    match skipBlanks cs with
    | '"' :: rest =>
      match readQuoted rest with
      | none => ([], false, [])
      | some (key, rest) =>
        let key := some (Atom.string (String.ofList key))
        match skipBlanks rest with
        | ':' :: rest =>
          let (value, rest) := readValue fuel depth rest
          match skipBlanks rest with
          | '\x7d' :: rest => ([(key, value)], true, rest)
          | ',' :: rest =>
            let (members, closed, rest) := readMembers fuel depth rest
            ((key, value) :: members, closed, rest)
          | _ => ([(key, value)], false, [])
        | _ => ([(key, .broken)], false, [])
    | _ => ([], false, [])

end

/-- The draft of a text, and whether nothing but blanks follows the value. -/
def read (cs : List Char) : Draft × Bool :=
  let (d, rest) := readValue (2 * cs.length + 2) maxDepth cs
  (d, (skipBlanks rest).isEmpty)

end Draft

/-- An atom as a value. -/
def Atom.value : Atom → Value
  | .null => .null
  | .bool b => .bool b
  | .number n => .number n
  | .string s => .string s

mutual

/-- The value of a draft; none if it is not whole. -/
def valueOf? : Draft → Option Value
  | .scalar a => some a.value
  | .list items closed => do
    let vs ← valuesOf? items
    if closed then some (.array vs) else none
  | .map entries closed => do
    let vs ← membersOf? entries
    if closed then some (.object (Members.ofEntries vs)) else none
  | .typed _ | .broken => none

/-- The values of several drafts. -/
def valuesOf? : List Draft → Option (List Value)
  | [] => some []
  | d :: ds => do
    let v ← valueOf? d
    let vs ← valuesOf? ds
    return v :: vs

/-- The values of the members of an object. -/
def membersOf? : List (Option Atom × Draft) → Option (List (String × Value))
  | [] => some []
  | (k, d) :: ds => do
    let v ← valueOf? d
    let vs ← membersOf? ds
    match k with
    | some (.string s) => return (s, v) :: vs
    | _ => none

end

/-- The value that a text holds; none if it is not well formed. -/
def Value.read? (cs : List Char) : Option Value :=
  let (d, whole) := Draft.read cs
  if whole then valueOf? d else none

end Json
end ScopeLexer
