/-
# JSON values

Null, truth values, numbers, texts, lists, and objects. A number is a whole number or a double. The
members of an object keep the order in which their keys were written first; equality does not look at
that order.

Key definitions: `Number`, `Value`, `Value.same`, `Members.insert`.
-/
import ScopeLexer.Decimal.Shortest

namespace ScopeLexer
namespace Json

/-- A number: whole ones are kept exactly within the range of 64-bit words. -/
inductive Number where
  | whole (n : Int)
  | double (d : Decimal.Double)
  deriving Inhabited, Repr, DecidableEq

/-- A JSON value. -/
inductive Value where
  | null
  | bool (b : Bool)
  | number (n : Number)
  | string (s : String)
  | array (items : List Value)
  | object (members : List (String × Value))
  deriving Inhabited, Repr

/-- The members of an object. -/
abbrev Members := List (String × Value)

/-- A list of members with one more. A key that is there keeps its place and gets the new value. -/
def Members.insert (ms : Members) (key : String) (v : Value) : Members :=
  match ms with
  | [] => [(key, v)]
  | (k, w) :: rest => if k = key then (k, v) :: rest else (k, w) :: Members.insert rest key v

/-- The members of a list of entries: of two with one key the later value counts. -/
def Members.ofEntries (entries : List (String × Value)) : Members :=
  entries.foldl (fun ms e => ms.insert e.1 e.2) []

/-- Equality of numbers. -/
def Number.same : Number → Number → Bool
  | .whole a, .whole b => a == b
  | .double a, .double b => a.same b
  | _, _ => false

mutual

/-- Equality of values; the order of members does not count. -/
def Value.same : Value → Value → Bool
  | .null, .null => true
  | .bool a, .bool b => a == b
  | .number a, .number b => a.same b
  | .string a, .string b => a == b
  | .array as, .array bs => sameItems as bs
  | .object as, .object bs => as.length == bs.length && sameMembers as bs
  | _, _ => false

/-- Equality of lists, item by item. -/
def sameItems : List Value → List Value → Bool
  | [], [] => true
  | a :: as, b :: bs => a.same b && sameItems as bs
  | _, _ => false

/-- Whether each member is among others with an equal value. -/
def sameMembers : List (String × Value) → List (String × Value) → Bool
  | [], _ => true
  | (k, a) :: as, bs =>
    (match bs.lookup k with
      | some b => a.same b
      | none => false) && sameMembers as bs

end

end Json
end ScopeLexer
