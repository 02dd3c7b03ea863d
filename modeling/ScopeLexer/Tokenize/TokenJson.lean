/-
# Tokens in JSON

A token is written as an object with its span and its scopes. It is read from such an object or from a
list of the two; the span likewise. An object of a span has no other keys.

Key definitions: `Token.ofDraft`, `Token.readJson`, `Token.toJson`, `Token.describe`.
-/
import ScopeLexer.Source.Json
import ScopeLexer.Tokenize.Token

namespace ScopeLexer
namespace Token

open Json (Atom Draft)
open Source (Fault Notation)

/-! ### Reading -/

/-- An offset: a whole number that fits into a word. -/
def offsetOf : Draft → Except Fault Nat
  | .scalar (.number (.whole n)) => if 0 ≤ n then .ok n.toNat else .error .shape
  | .broken => .error .malformed
  | _ => .error .shape

/-- A value that may stand only once and has to stand. -/
def put {α : Type} (f : Draft → Except Fault α) (old : Option α) (d : Draft) :
    Except Fault (Option α) :=
  match old with
  | some _ => .error .shape
  | none => (f d).map some

/-- Two values in a list. -/
def pairOf {α β : Type} (f : Draft → Except Fault α) (g : Draft → Except Fault β) (closed : Bool) :
    List Draft → Except Fault (α × β)
  | [] => do
    Notation.closing closed
    throw .shape
  | [a] => do
    let _ ← f a
    Notation.closing closed
    throw .shape
  | a :: b :: rest => do
    let x ← f a
    let y ← g b
    Notation.closing (closed && rest.isEmpty)
    return (x, y)

/-- The values of two keys in an object; whether other keys may stand there is for `strict` to say. -/
def membersOf {α β : Type} (first second : String) (f : Draft → Except Fault α)
    (g : Draft → Except Fault β) (strict closed : Bool) (x : Option α) (y : Option β) :
    List (Option Atom × Draft) → Except Fault (α × β)
  | [] => do
    Notation.closing closed
    match x, y with
    | some x, some y => return (x, y)
    | _, _ => throw .shape
  | (k, d) :: rest => do
    let key ← jsonKey k
    if key = first then membersOf first second f g strict closed (← put f x d) y rest
    else if key = second then membersOf first second f g strict closed x (← put g y d) rest
    else if strict then throw .shape
    else
      match Json.valueOf? d with
      | some _ => membersOf first second f g strict closed x y rest
      | none => throw .malformed
where
  /-- The text of a key. -/
  jsonKey : Option Atom → Except Fault String
    | some (.string s) => .ok s
    | _ => .error .shape

/-- Two values under keys or in a list. -/
def bothOf {α β : Type} (first second : String) (f : Draft → Except Fault α)
    (g : Draft → Except Fault β) (strict : Bool) : Draft → Except Fault (α × β)
  | .list items closed => pairOf f g closed items
  | .map members closed => membersOf first second f g strict closed none none members
  | .broken => .error .malformed
  | _ => .error .shape

/-- A span. -/
def spanOf (d : Draft) : Except Fault (Nat × Nat) := bothOf "start" "end" offsetOf offsetOf true d

/-- A token. -/
def ofDraft (d : Draft) : Except Fault Token := do
  let (span, scopes) ← bothOf "span" "scopes" spanOf Source.jsonNotation.texts false d
  return ⟨span.1, span.2, scopes.map Scope.ofText⟩

/-- The token that a JSON text holds. -/
def readJson (cs : List Char) : Except Fault Token := do
  let (draft, whole) := Draft.read cs
  let t ← ofDraft draft
  Notation.closing whole
  return t

/-! ### Writing -/

/-- A token as a JSON value. -/
def toJson (t : Token) : Json.Value :=
  .object [
    ("span", .object [("start", .number (.whole t.start)), ("end", .number (.whole t.stop))]),
    ("scopes", .array (t.scopes.map fun s => .string s.text))]

/-- A token for people to read. -/
def describe (t : Token) : String :=
  "Token \x7b span: " ++ toString t.start ++ ".." ++ toString t.stop ++ ", scopes: [" ++
    String.intercalate ", " (t.scopes.map Scope.describe) ++ "] \x7d"

end Token
end ScopeLexer
