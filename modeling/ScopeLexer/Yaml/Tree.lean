/-
# YAML documents

The events of a document are read as a tree, with the value of an anchor wherever an alias stands. An
anchor gets the number of anchor names that came before it, and an alias stands for the last value whose
anchor has the number that was known where the alias is written. So that an alias within its own anchor,
or aliases of aliases, come to an end, lists and maps may be nested only so deep, and so many aliases may
be followed.

Key definitions: `number`, `readNode`, `documentOf`.
-/
import ScopeLexer.Document
import ScopeLexer.Yaml.Kind

namespace ScopeLexer
namespace Yaml

/-! ### Anchors -/

/-- The numbers of names. -/
abbrev Numbers := List (Name × Nat)

/-- A name with its number among the others. -/
def Numbers.add (ns : Numbers) (name : Name) (n : Nat) : Numbers :=
  (name, n) :: ns.filter fun e => e.1 != name

/-- An anchor with its number, and the numbers after it. -/
def Numbers.anchor (ns : Numbers) : Option Name → Option Nat × Numbers
  | none => (none, ns)
  | some name => (some ns.length, ns.add name ns.length)

/-- Events with numbers for names, up to an alias without an anchor, and whether there is none. -/
def number (ns : Numbers) : List (Event Name) → List (Event Nat) × Bool
  | [] => ([], true)
  | .scalar s a :: es =>
    let (a, ns) := ns.anchor a
    let (rest, whole) := number ns es
    (.scalar s a :: rest, whole)
  | .listStart tag a :: es =>
    let (a, ns) := ns.anchor a
    let (rest, whole) := number ns es
    (.listStart tag a :: rest, whole)
  | .mapStart tag a :: es =>
    let (a, ns) := ns.anchor a
    let (rest, whole) := number ns es
    (.mapStart tag a :: rest, whole)
  | .stop :: es =>
    let (rest, whole) := number ns es
    (.stop :: rest, whole)
  | .alias name :: es =>
    match ns.lookup name with
    | some n =>
      let (rest, whole) := number ns es
      (.alias n :: rest, whole)
    | none => ([], false)

/-- The anchor of an event. -/
def Event.anchor? {ν : Type} : Event ν → Option ν
  | .scalar _ a => a
  | .listStart _ a => a
  | .mapStart _ a => a
  | .stop | .alias _ => none

/-- Where the values with anchors begin, last one first. -/
def targetsFrom (found : List (Nat × List (Event Nat))) :
    List (Event Nat) → List (Nat × List (Event Nat))
  | [] => found
  | e :: es =>
    match e.anchor? with
    | some n => targetsFrom ((n, e :: es) :: found) es
    | none => targetsFrom found es

/-! ### Trees -/

/-- What is known while a document is read. -/
structure Reader where
  targets : List (Nat × List (Event Nat))
  /-- How many aliases may be followed. -/
  maxAliases : Nat

/-- A part of a tree with the events after it and the number of aliases followed; the part is cut short
if there are no events after it. -/
abbrev Part (β : Type) := β × Option (List (Event Nat) × Nat)

def maxDepth : Nat := 128

/-- A list or map, marked if its tag names a type of its own. -/
def withTag (tag : Option (List Char)) (t : Document Scalar) : Document Scalar :=
  if tag.any isLocalTag then .typed t else t

/-- The scalar that a tree is. -/
def keyOf : Document Scalar → Option Scalar
  | .scalar s => some s
  | _ => none

mutual

/-- A value, so many levels above the deepest one. -/
def readNode (r : Reader) (fuel depth aliases : Nat) (es : List (Event Nat)) :
    Part (Document Scalar) :=
  match fuel with
  | 0 => (.broken, none)
  | fuel + 1 =>
    match es with
    | .scalar s _ :: rest => (.scalar s, some (rest, aliases))
    | .listStart tag _ :: rest =>
      match depth with
      | 0 => (withTag tag (.list [] false), none)
      | depth + 1 =>
        let (items, next) := readItems r fuel depth aliases rest
        (withTag tag (.list items next.isSome), next)
    | .mapStart tag _ :: rest =>
      match depth with
      | 0 => (withTag tag (.map [] false), none)
      | depth + 1 =>
        let (entries, next) := readEntries r fuel depth aliases rest
        (withTag tag (.map entries next.isSome), next)
    | .alias n :: rest =>
      match r.targets.lookup n with
      | some target =>
        if r.maxAliases ≤ aliases then (.broken, none)
        else
          let (t, next) := readNode r fuel depth (aliases + 1) target
          (t, next.map fun e => (rest, e.2))
      | none => (.broken, none)
    | .stop :: _ => (.broken, none)
    | [] => (.broken, none)

/-- The items of a list. -/
def readItems (r : Reader) (fuel depth aliases : Nat) (es : List (Event Nat)) :
    Part (List (Document Scalar)) :=
  match fuel with
  | 0 => ([], none)
  | fuel + 1 =>
    match es with
    | .stop :: rest => ([], some (rest, aliases))
    | [] => ([], none)
    | es =>
      match readNode r fuel depth aliases es with
      | (t, some (rest, aliases)) =>
        let (items, next) := readItems r fuel depth aliases rest
        (t :: items, next)
      | (t, none) => ([t], none)

/-- The entries of a map. -/
def readEntries (r : Reader) (fuel depth aliases : Nat) (es : List (Event Nat)) :
    Part (List (Option Scalar × Document Scalar)) :=
  match fuel with
  | 0 => ([], none)
  | fuel + 1 =>
    match es with
    | .stop :: rest => ([], some (rest, aliases))
    | [] => ([], none)
    | es =>
      match readNode r fuel depth aliases es with
      | (.broken, none) => ([], none)
      | (key, none) => ([(keyOf key, .broken)], none)
      | (key, some (rest, aliases)) =>
        match readNode r fuel depth aliases rest with
        | (t, some (rest, aliases)) =>
          let (entries, next) := readEntries r fuel depth aliases rest
          ((keyOf key, t) :: entries, next)
        | (t, none) => ([(keyOf key, t)], none)

end

/-- The tree of a text and whether all of the text is well formed. -/
def documentOf (cs : List Char) : Document Scalar × Bool :=
  if cs.all isAllowed then
    let stream := Stream.ofTokens (tokens cs)
    let (es, known) := number [] stream.events
    let size := es.length
    let r : Reader := { targets := targetsFrom [] es, maxAliases := 100 * size }
    let (t, next) := readNode r ((maxDepth + 2) * (size + 3)) maxDepth 0 es
    (t, stream.whole && known && next.isSome)
  else (.broken, false)

/-- The tree of a text that may begin with a mark of its encoding. -/
def readDocument (cs : List Char) : Document Scalar × Bool :=
  match cs with
  | '\ufeff' :: cs => documentOf cs
  | cs => documentOf cs

end Yaml
end ScopeLexer
