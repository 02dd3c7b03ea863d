/-
# What plain YAML scalars stand for

Where any value may stand, a plain scalar is read as null, a truth value, a whole number in one of four
bases, or a real number, if it is written as one, and as a text otherwise. Digits after a zero are a
text. A tag of the standard types asks for a type; a tag of another kind is one that a reader of any
value does not know.

Key definitions: `Kind`, `kindOfText`, `Scalar.kind?`.
-/
import ScopeLexer.Decimal.Numeral
import ScopeLexer.Yaml.Event

namespace ScopeLexer
namespace Yaml

/-- What a scalar stands for. -/
inductive Kind where
  | null
  | bool (b : Bool)
  /-- A whole number that fits into 64 bits, with a sign or without. -/
  | whole (n : Int)
  /-- A whole number that fits only into 128 bits. -/
  | wide
  | real (f : Float)
  | text (s : String)

def isNullText (s : String) : Bool := ["null", "Null", "NULL", "~"].contains s

def truthOf? (s : String) : Option Bool :=
  if ["true", "True", "TRUE"].contains s then some true
  else if ["false", "False", "FALSE"].contains s then some false
  else none

/-! ### Whole numbers -/

/-- The value of a digit in a base. -/
def digitIn? (base : Nat) (c : Char) : Option Nat :=
  let v :=
    if c.isDigit then c.toNat - 48
    else if 'a' ≤ c && c ≤ 'z' then c.toNat - 87
    else if 'A' ≤ c && c ≤ 'Z' then c.toNat - 55
    else base
  if v < base then some v else none

/-- The value of digits in a base, at least one. -/
def valueIn? (base : Nat) (cs : List Char) : Option Nat :=
  if cs.isEmpty then none
  else cs.foldl (fun v c => v.bind fun v => (digitIn? base c).map (v * base + ·)) (some 0)

/-- Whether a text is made of digits after a zero, with a sign or without. -/
def isPadded (cs : List Char) : Bool :=
  match (Decimal.readSign cs).2 with
  | '0' :: c :: cs => (c :: cs).all Char.isDigit
  | _ => false

/-- The digits of a number in base sixteen, eight or two, after the mark of the base. -/
def valueWithMark? : List Char → Option Nat
  | '0' :: 'x' :: cs => valueIn? 16 cs
  | '0' :: 'o' :: cs => valueIn? 8 cs
  | '0' :: 'b' :: cs => valueIn? 2 cs
  | _ => none

/-- The value of a number without a sign. -/
def magnitude? (cs : List Char) : Option Nat :=
  match valueWithMark? cs with
  | some n => some n
  | none => if isPadded cs then none else valueIn? 10 cs

/-- The whole number that a text writes. -/
def wholeOf? (cs : List Char) : Option Int :=
  match cs with
  | '-' :: cs => (magnitude? cs).map fun n => -(n : Int)
  | '+' :: cs => (magnitude? cs).map Int.ofNat
  | cs => (magnitude? cs).map Int.ofNat

/-- The least number of two words with a sign. -/
def minWide : Int := -0x80000000000000000000000000000000

/-- The greatest number of two words. -/
def maxWide : Int := 0xFFFFFFFFFFFFFFFFFFFFFFFFFFFFFFFF

/-- A whole number by its size; none if it is too large. -/
def Kind.ofWhole? (n : Int) : Option Kind :=
  if Decimal.fitsWord n then some (.whole n)
  else if minWide ≤ n ∧ n ≤ maxWide then some .wide
  else none

def wholeKind? (cs : List Char) : Option Kind := (wholeOf? cs).bind Kind.ofWhole?

/-! ### Real numbers -/

/-- The real number that a text writes. -/
def floatOf? (s : String) : Option Float :=
  let cs := s.toList
  let unsigned := match cs with
    | '+' :: cs => cs
    | cs => cs
  if ['+', '-'].contains (unsigned.headD ' ') ∧ unsigned ≠ cs then none
  else if [".inf", ".Inf", ".INF"].contains (String.ofList unsigned) then some (1.0 / 0.0)
  else if ["-.inf", "-.Inf", "-.INF"].contains s then some (-1.0 / 0.0)
  else if [".nan", ".NaN", ".NAN"].contains s then some (0.0 / 0.0)
  else (Decimal.realOf? unsigned).bind fun f => if f.isFinite then some f else none

/-! ### Kinds -/

/-- What a plain text stands for. -/
def kindOfText (s : String) : Kind :=
  if s.isEmpty || isNullText s then .null
  else
    match truthOf? s with
    | some b => .bool b
    | none =>
      match wholeKind? s.toList with
      | some k => k
      | none =>
        if isPadded s.toList then .text s
        else
          match floatOf? s with
          | some f => .real f
          | none => .text s

/-- Whether a tag is one of a type that is not standard. -/
def isLocalTag (tag : List Char) : Bool := tag.head? == some '!'

/-- The names of the standard types. -/
def standardTag (name : String) : List Char := ("tag:yaml.org,2002:" ++ name).toList

/-- What a scalar stands for where any value may stand; none if its tag asks for a type that it does
not have. -/
def Scalar.kind? (s : Scalar) : Option Kind :=
  match s.tag with
  | some tag =>
    if tag = standardTag "bool" then (truthOf? s.text).map .bool
    else if tag = standardTag "int" then wholeKind? s.text.toList
    else if tag = standardTag "float" then (floatOf? s.text).map .real
    else if tag = standardTag "null" then if isNullText s.text then some .null else none
    else some (.text s.text)
  | none => if s.style = .plain then some (kindOfText s.text) else some (.text s.text)

end Yaml
end ScopeLexer
