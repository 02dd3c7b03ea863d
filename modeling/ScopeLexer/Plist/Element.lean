/-
# Property lists

A property list is a value: a text, a truth value, a number, a date, bytes, a list, or a map whose keys
and values follow one another. It is written as elements of a marked-up text, or in an older form with
brackets. The parts of the value come one after the other, and a fault stands where they cannot be read.

Key definitions: `Scalar`, `Part`, `elements`, `treeOf`.
-/
import ScopeLexer.Decimal.Numeral
import ScopeLexer.Document
import ScopeLexer.Plist.Data
import ScopeLexer.Plist.Date
import ScopeLexer.Plist.Markup
import ScopeLexer.Text.Basic

namespace ScopeLexer
namespace Plist

/-- A value without parts. -/
inductive Scalar where
  | text (s : String)
  | bool (b : Bool)
  | whole (n : Int)
  | real (f : Float)
  | date (d : Date)
  | data (bytes : List UInt8)
  deriving Inhabited, Repr

/-- A part of a value. -/
inductive Part where
  | scalar (s : Scalar)
  | list | map | stop | fault
  deriving Inhabited, Repr

/-! ### Scalars -/

/-- The rest of a text after all marks of base sixteen at its head. -/
def afterHexMarks : List Char → List Char
  | '0' :: 'x' :: cs => afterHexMarks cs
  | cs => cs

/-- The whole number that a text writes. -/
def wholeOf? (cs : List Char) : Option Int :=
  let found : Option Int := match cs with
    | '0' :: 'x' :: cs =>
      let ds := match afterHexMarks cs with
        | '+' :: ds => ds
        | ds => ds
      if ds.isEmpty then none else (Text.hexValue? ds.length 0 ds).map Int.ofNat
    | cs =>
      let (minus, ds) := Decimal.readSign cs
      if ds.isEmpty || !ds.all Char.isDigit then none
      else some (if minus then -(Decimal.valueOf ds : Int) else Decimal.valueOf ds)
  match found with
  | some n => if Decimal.fitsWord n then some n else none
  | none => none

/-- The scalar of an element with some content. -/
def scalarOf? (name : String) (content : List Char) : Option Scalar :=
  match name with
  | "key" => some (.text (String.ofList content))
  | "string" => some (.text (String.ofList content))
  | "integer" => (wholeOf? content).map .whole
  | "real" => (Decimal.realOf? content).map .real
  | "date" => (Date.ofText? content).map .date
  | "data" => (bytesOfText? content).map .data
  | _ => none

/-! ### Elements -/

/-- The name of an element without what stands before a colon. -/
def localName (name : List Char) : String :=
  match name.dropWhile (· != ':') with
  | _ :: rest => String.ofList rest
  | [] => String.ofList name

/-- Elements whose content is a text. -/
def holdsText (name : String) : Bool :=
  ["key", "string", "integer", "real", "date", "data"].contains name

/-- The parts that an element begins with; a fault for an element of unknown meaning. -/
def opened (name : String) : List Part :=
  match name with
  | "plist" => []
  | "array" => [.list]
  | "dict" => [.map]
  | "true" => [.scalar (.bool true)]
  | "false" => [.scalar (.bool false)]
  | _ => [.fault]

/-- The parts that some markup stands for. Within an element that holds text, `content` is its name and
the text read so far, last character first. -/
def elements : (content : Option (String × List Char)) → List Markup → List Part
  | some _, [] => [.fault]
  | some (name, text), m :: ms =>
    match m with
    | .text cs => elements (some (name, cs.reverse ++ text)) ms
    | .reference r =>
      match resolve? r with
      | some c => elements (some (name, c :: text)) ms
      | none => [.fault]
    | .closing _ =>
      match scalarOf? name text.reverse with
      | some s => .scalar s :: elements none ms
      | none => [.fault]
    | .prolog => elements (some (name, text)) ms
    | .note => elements (some (name, text)) ms
    | .opening _ => [.fault]
    | .fault => [.fault]
  | none, [] => []
  | none, m :: ms =>
    match m with
    | .text cs => if cs.all Text.isSpace then elements none ms else [.fault]
    | .opening name =>
      let name := localName name
      if holdsText name then elements (some (name, [])) ms
      else
        match opened name with
        | [.fault] => [.fault]
        | ps => ps ++ elements none ms
    | .closing name =>
      let name := localName name
      if name = "array" ∨ name = "dict" then .stop :: elements none ms else elements none ms
    | .prolog => elements none ms
    | .note => elements none ms
    | .reference _ => [.fault]
    | .fault => [.fault]

/-! ### Documents -/

/-- What has been read of a value, and the parts after it; none if the value is cut short. -/
abbrev Reading (β : Type) := β × Option (List Part)

/-- The scalar that a tree is. -/
def keyOf : Document Scalar → Option Scalar
  | .scalar s => some s
  | _ => none

mutual

/-- A value. -/
def readValue (fuel : Nat) (ps : List Part) : Reading (Document Scalar) :=
  match fuel with
  | 0 => (.broken, none)
  | fuel + 1 =>
    match ps with
    | .scalar s :: rest => (.scalar s, some rest)
    | .list :: rest =>
      let (items, next) := readItems fuel rest
      (.list items next.isSome, next)
    | .map :: rest =>
      let (entries, next) := readEntries fuel rest
      (.map entries next.isSome, next)
    | .stop :: _ => (.broken, none)
    | .fault :: _ => (.broken, none)
    | [] => (.broken, none)

/-- The items of a list. -/
def readItems (fuel : Nat) (ps : List Part) : Reading (List (Document Scalar)) :=
  match fuel with
  | 0 => ([], none)
  | fuel + 1 =>
    match ps with
    | .stop :: rest => ([], some rest)
    | [] => ([], none)
    | ps =>
      match readValue fuel ps with
      | (t, some rest) =>
        let (items, next) := readItems fuel rest
        (t :: items, next)
      | (t, none) => ([t], none)

/-- The entries of a map. -/
def readEntries (fuel : Nat) (ps : List Part) : Reading (List (Option Scalar × Document Scalar)) :=
  match fuel with
  | 0 => ([], none)
  | fuel + 1 =>
    match ps with
    | .stop :: rest => ([], some rest)
    | [] => ([], none)
    | ps =>
      match readValue fuel ps with
      | (.broken, none) => ([], none)
      | (key, none) => ([(keyOf key, .broken)], none)
      | (key, some rest) =>
        match readValue fuel rest with
        | (t, some rest) =>
          let (entries, next) := readEntries fuel rest
          ((keyOf key, t) :: entries, next)
        | (t, none) => ([(keyOf key, t)], none)

end

/-- The value that some parts make up. -/
def treeOf (ps : List Part) : Document Scalar := (readValue (2 * ps.length + 2) ps).1

end Plist
end ScopeLexer
