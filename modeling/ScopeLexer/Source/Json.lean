/-
# Grammars in JSON

How JSON writes the values of a grammar, and a grammar as a JSON value. The keys of a rule are written
in a fixed order, then those without a meaning; a key whose value is absent or empty is left out.

Key definitions: `jsonNotation`, `readJson`, `RuleSource.toJson`, `GrammarSource.toJson`.
-/
import ScopeLexer.Json.Draft
import ScopeLexer.Source.Decode

namespace ScopeLexer
namespace Source

/-! ### Reading -/

/-- How JSON writes the values of a grammar. -/
def jsonNotation : Notation Json.Atom where
  text
    | .string s => .ok s
    | _ => .error .shape
  truth
    | .bool b => .ok b
    | _ => .error .shape
  flag
    | .bool b => .ok (.bool b)
    | .number (.whole n) => if Decimal.fitsSigned n then .ok (.number n) else .error .shape
    | _ => .error .shape
  index
    | .string s => indexOfText s
    | _ => .error .indexShape
  key
    | .string s => .ok s
    | _ => .error .shape
  isNull
    | .null => .ok true
    | _ => .ok false
  isEmpty _ := false
  wraps := false
  value t :=
    match Json.valueOf? t with
    | some v => .ok (some v)
    | none => .error .malformed

/-- The grammar that a JSON text holds. -/
def readJson (cs : List Char) : Except Fault GrammarSource := do
  let (draft, whole) := Json.Draft.read cs
  let g ← jsonNotation.grammar draft
  Notation.closing whole
  return g

/-! ### Writing -/

open Json (Value)

/-- A member for a value that is there. -/
def member (key : String) : Option Value → List (String × Value)
  | some v => [(key, v)]
  | none => []

/-- A member for a text that is there. -/
def textMember (key : String) (s : Option String) : List (String × Value) :=
  member key (s.map .string)

/-- A member for a list that is not empty. -/
def listMember (key : String) : List Value → List (String × Value)
  | [] => []
  | vs => [(key, .array vs)]

/-- A member for an object that is not empty. -/
def objectMember (key : String) : List (String × Value) → List (String × Value)
  | [] => []
  | ms => [(key, .object ms)]

def Flag.toJson : Flag → Value
  | .bool b => .bool b
  | .number n => .number (.whole n)

mutual

/-- A rule as a JSON value. -/
def RuleSource.toJson : RuleSource → Value
  | { reference := rf, name := nm, contentName := cn, matchPattern := mp, beginPattern := bp,
      endPattern := ep, whilePattern := wp, captures := cs, beginCaptures := bcs,
      endCaptures := ecs, whileCaptures := wcs, applyEndPatternLast := al, appliesLineBreak := lb,
      disabled := ds, patterns := ps, repository := rp, extra := ex } =>
    .object (textMember "include" rf ++ textMember "name" nm ++ textMember "contentName" cn ++
      textMember "match" mp ++ textMember "begin" bp ++ textMember "end" ep ++
      textMember "while" wp ++ objectMember "captures" (capturesToJson cs) ++
      objectMember "beginCaptures" (capturesToJson bcs) ++
      objectMember "endCaptures" (capturesToJson ecs) ++
      objectMember "whileCaptures" (capturesToJson wcs) ++
      member "applyEndPatternLast" (al.map Flag.toJson) ++
      member "appliesLineBreak" (lb.map .bool) ++ member "disabled" (ds.map Flag.toJson) ++
      listMember "patterns" (rulesToJson ps) ++
      objectMember "repository" (repositoryToJson rp) ++ ex)
  termination_by structural r => r

/-- Rules as JSON values. -/
def rulesToJson : List RuleSource → List Value
  | [] => []
  | r :: rs => r.toJson :: rulesToJson rs
  termination_by structural rs => rs

/-- Captures as members of an object. -/
def capturesToJson : List (Nat × RuleSource) → List (String × Value)
  | [] => []
  | c :: cs => captureToJson c :: capturesToJson cs
  termination_by structural cs => cs

/-- A capture as a member of an object. -/
def captureToJson : Nat × RuleSource → String × Value
  | (i, r) => (toString i, r.toJson)
  termination_by structural c => c

/-- A repository as members of an object. -/
def repositoryToJson : List (String × RuleSource) → List (String × Value)
  | [] => []
  | e :: es => entryToJson e :: repositoryToJson es
  termination_by structural es => es

/-- An entry of a repository as a member of an object. -/
def entryToJson : String × RuleSource → String × Value
  | (name, r) => (name, r.toJson)
  termination_by structural e => e

end

/-- A grammar as a JSON value. -/
def GrammarSource.toJson (g : GrammarSource) : Value :=
  .object (
    member "information_for_contributors" (g.contributorNotes.map fun ss =>
      .array (ss.map .string)) ++
    textMember "version" g.version ++ textMember "name" g.name ++
    [("scopeName", .string g.scopeName)] ++ listMember "fileTypes" (g.fileTypes.map .string) ++
    textMember "uuid" g.uuid ++ textMember "firstLineMatch" g.firstLineMatch ++
    textMember "foldingStartMarker" g.foldingStartMarker ++
    textMember "foldingStopMarker" g.foldingStopMarker ++
    [("patterns", .array (rulesToJson g.patterns))] ++
    objectMember "repository" (repositoryToJson g.repository) ++ g.extra)

end Source
end ScopeLexer
