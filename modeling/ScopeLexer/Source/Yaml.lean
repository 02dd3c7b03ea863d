/-
# Grammars in YAML

How YAML writes the values of a grammar. Where a text is expected any scalar is one; where any value may
stand, the keys of maps have to be texts.

Key definitions: `yamlNotation`, `readYaml`.
-/
import ScopeLexer.Source.Decode
import ScopeLexer.Yaml.Tree

namespace ScopeLexer
namespace Source

open Yaml (Scalar Kind)

/-- A switch. -/
def yamlFlag (s : Scalar) : Except Fault Flag :=
  if s.tag.any Yaml.isLocalTag then .error .shape
  else
    match s.kind? with
    | some (.bool b) => .ok (.bool b)
    | some (.whole n) => if Decimal.fitsSigned n then .ok (.number n) else .error .shape
    | _ => .error .shape

/-- A truth value. Its tag does not matter, unless it is a block. -/
def yamlTruth (s : Scalar) : Except Fault Bool :=
  let readable := s.style = .plain ||
    (s.style = .literal && s.tag == some (Yaml.standardTag "bool"))
  match readable, Yaml.truthOf? s.text with
  | true, some b => .ok b
  | _, _ => .error .shape

/-- Whether a scalar is an absent value; one whose tag says so has to be written as null. -/
def yamlIsNull (s : Scalar) : Except Fault Bool :=
  if s.style ≠ .plain then .ok false
  else
    match s.tag with
    | some tag =>
      if tag ≠ Yaml.standardTag "null" then .ok false
      else if Yaml.isNullText s.text then .ok true
      else .error .shape
    | none => .ok (s.text.isEmpty || Yaml.isNullText s.text)

/-- The number of a group as a key. -/
def yamlIndex (s : Scalar) : Except Fault Nat :=
  if s.tag.any Yaml.isLocalTag then .error .indexShape
  else
    match s.kind? with
    | some (.whole n) => if 0 ≤ n then .ok n.toNat else .error (.negativeIndex n)
    | some (.text t) => indexOfText t
    | some _ => .error .indexShape
    | none => .error .shape

/-- A scalar where any value may stand. -/
def yamlScalar (s : Scalar) : Except Fault Json.Value :=
  if s.tag.any Yaml.isLocalTag then .error .shape
  else
    match s.kind? with
    | some .null => .ok .null
    | some (.bool b) => .ok (.bool b)
    | some (.whole n) => .ok (.number (.whole n))
    | some .wide => .error .shape
    | some (.real f) => .ok (if f.isFinite then .number (.double (.ofFloat f)) else .null)
    | some (.text t) => .ok (.string t)
    | none => .error .shape

/-- The text of a key where any value may stand; none if it is of another kind. -/
def yamlKey : Option Scalar → Except Fault (Option String)
  | some s =>
    match yamlScalar s with
    | .ok (.string t) => .ok (some t)
    | .ok _ => .ok none
    | .error f => .error f
  | none => .ok none

mutual

/-- Any value; none if a key within it is no text. -/
def yamlValue : Document Scalar → Except Fault (Option Json.Value)
  | .scalar s => (yamlScalar s).map some
  | .list items closed =>
    match yamlItems items with
    | .ok vs => if closed then .ok (vs.map .array) else .error .malformed
    | .error f => .error f
  | .map entries closed =>
    match yamlEntries entries with
    | .ok ms =>
      if closed then .ok (ms.map fun ms => .object (Json.Members.ofEntries ms))
      else .error .malformed
    | .error f => .error f
  | .typed _ => .error .shape
  | .broken => .error .malformed
  termination_by structural t => t

/-- Any values. -/
def yamlItems : List (Document Scalar) → Except Fault (Option (List Json.Value))
  | [] => .ok (some [])
  | t :: ts =>
    match yamlValue t, yamlItems ts with
    | .ok v, .ok vs => .ok (do return (← v) :: (← vs))
    | .error f, _ => .error f
    | _, .error f => .error f
  termination_by structural ts => ts

/-- The entries of any map. -/
def yamlEntries :
    List (Option Scalar × Document Scalar) → Except Fault (Option (List (String × Json.Value)))
  | [] => .ok (some [])
  | e :: es =>
    match yamlEntry e, yamlEntries es with
    | .ok m, .ok ms => .ok (do return (← m) :: (← ms))
    | .error f, _ => .error f
    | _, .error f => .error f
  termination_by structural es => es

/-- An entry of any map. -/
def yamlEntry : Option Scalar × Document Scalar → Except Fault (Option (String × Json.Value))
  | (k, t) =>
    match yamlKey k, yamlValue t with
    | .ok key, .ok v => .ok (do return (← key, ← v))
    | .error f, _ => .error f
    | _, .error f => .error f
  termination_by structural e => e

end

/-- How YAML writes the values of a grammar. -/
def yamlNotation : Notation Scalar where
  text s := .ok s.text
  truth := yamlTruth
  flag := yamlFlag
  index := yamlIndex
  key s := .ok s.text
  isNull := yamlIsNull
  isEmpty s := s.style = .plain && s.text.isEmpty
  wraps := false
  value := yamlValue

/-- The grammar that a YAML text holds. -/
def readYaml (cs : List Char) : Except Fault GrammarSource := do
  let (t, whole) := Yaml.readDocument cs
  let g ← yamlNotation.grammar t
  Notation.closing whole
  return g

end Source
end ScopeLexer
