/-
# Grammars in property lists

How property lists write the values of a grammar, and a grammar as a property list. An optional value
stands in a map of its own, under a key that tells whether it is there. There is no null: where any value
may stand it is written as an empty text.

Key definitions: `plistNotation`, `readPlist`, `RuleSource.toPlist`, `GrammarSource.toPlist`.
-/
import ScopeLexer.Plist.Plain
import ScopeLexer.Plist.Printer
import ScopeLexer.Source.Decode

namespace ScopeLexer
namespace Source

/-! ### Reading -/

/-- A text: dates are texts, and so are bytes that encode one. -/
def plistText : Plist.Scalar → Except Fault String
  | .text s => .ok s
  | .date d => .ok d.text
  | .data bytes =>
    match Plist.textOfBytes? bytes with
    | some s => .ok s
    | none => .error .shape
  | _ => .error .shape

/-- The number of a group as a key. -/
def plistIndex : Plist.Scalar → Except Fault Nat
  | .text s => indexOfText s
  | .date d => indexOfText d.text
  | .whole n => if 0 ≤ n then .ok n.toNat else .error (.negativeIndex n)
  | _ => .error .indexShape

/-- A scalar where any value may stand; bytes are no value. -/
def plistScalar : Plist.Scalar → Option Json.Value
  | .text s => some (.string s)
  | .bool b => some (.bool b)
  | .whole n => some (.number (.whole n))
  | .real f => some (if f.isFinite then .number (.double (.ofFloat f)) else .null)
  | .date d => some (.string d.text)
  | .data _ => none

/-- The text of a key where any value may stand; none if it is of another kind. -/
def plistKey : Option Plist.Scalar → Option String
  | some s =>
    match plistScalar s with
    | some (.string t) => some t
    | _ => none
  | none => none

mutual

/-- Any value; none if something within it is no value. -/
def plistValue : Document Plist.Scalar → Except Fault (Option Json.Value)
  | .scalar s => .ok (plistScalar s)
  | .list items closed =>
    match plistItems items with
    | .ok vs => if closed then .ok (vs.map .array) else .error .malformed
    | .error f => .error f
  | .map entries closed =>
    match plistEntries entries with
    | .ok ms =>
      if closed then .ok (ms.map fun ms => .object (Json.Members.ofEntries ms))
      else .error .malformed
    | .error f => .error f
  | .typed _ => .error .shape
  | .broken => .error .malformed
  termination_by structural t => t

/-- Any values. -/
def plistItems : List (Document Plist.Scalar) → Except Fault (Option (List Json.Value))
  | [] => .ok (some [])
  | t :: ts =>
    match plistValue t, plistItems ts with
    | .ok v, .ok vs => .ok (do return (← v) :: (← vs))
    | .error f, _ => .error f
    | _, .error f => .error f
  termination_by structural ts => ts

/-- The entries of any map. -/
def plistEntries :
    List (Option Plist.Scalar × Document Plist.Scalar) →
    Except Fault (Option (List (String × Json.Value)))
  | [] => .ok (some [])
  | e :: es =>
    match plistEntry e, plistEntries es with
    | .ok m, .ok ms => .ok (do return (← m) :: (← ms))
    | .error f, _ => .error f
    | _, .error f => .error f
  termination_by structural es => es

/-- An entry of any map. -/
def plistEntry :
    Option Plist.Scalar × Document Plist.Scalar → Except Fault (Option (String × Json.Value))
  | (k, t) =>
    match plistValue t with
    | .ok v => .ok (do return (← plistKey k, ← v))
    | .error f => .error f
  termination_by structural e => e

end

/-- How property lists write the values of a grammar. -/
def plistNotation : Notation Plist.Scalar where
  text := plistText
  truth
    | .bool b => .ok b
    | _ => .error .shape
  flag
    | .bool b => .ok (.bool b)
    | .whole n => if Decimal.fitsSigned n then .ok (.number n) else .error .shape
    | _ => .error .shape
  index := plistIndex
  key := plistText
  isNull _ := .ok false
  isEmpty _ := false
  wraps := true
  value := plistValue

/-- The grammar that a property list holds. What stands after the value does not matter. -/
def readPlist (cs : List Char) : Except Fault GrammarSource :=
  plistNotation.grammar (Plist.readDocument cs)

/-! ### Writing -/

mutual

/-- Any value. -/
def valueToPlist : Json.Value → Plist.Value
  | .null => .text ""
  | .bool b => .bool b
  | .number (.whole n) => .whole n
  | .number (.double d) => .real d
  | .string s => .text s
  | .array items => .list (itemsToPlist items)
  | .object members => .map (membersToPlist members)
  termination_by structural v => v

/-- Any values. -/
def itemsToPlist : List Json.Value → List Plist.Value
  | [] => []
  | v :: vs => valueToPlist v :: itemsToPlist vs
  termination_by structural vs => vs

/-- Members of an object. -/
def membersToPlist : List (String × Json.Value) → List (String × Plist.Value)
  | [] => []
  | m :: ms => memberToPlist m :: membersToPlist ms
  termination_by structural ms => ms

/-- A member of an object. -/
def memberToPlist : String × Json.Value → String × Plist.Value
  | (key, v) => (key, valueToPlist v)
  termination_by structural m => m

end

/-- An entry for an optional value that is there. -/
def someEntry (key : String) : Option Plist.Value → List (String × Plist.Value)
  | some v => [(key, .map [("Some", v)])]
  | none => []

/-- An entry for an optional text that is there. -/
def someText (key : String) (s : Option String) : List (String × Plist.Value) :=
  someEntry key (s.map .text)

/-- An entry for a list that is not empty. -/
def listEntry (key : String) : List Plist.Value → List (String × Plist.Value)
  | [] => []
  | vs => [(key, .list vs)]

/-- An entry for a map that is not empty. -/
def mapEntry (key : String) : List (String × Plist.Value) → List (String × Plist.Value)
  | [] => []
  | es => [(key, .map es)]

def Flag.toPlist : Flag → Plist.Value
  | .bool b => .bool b
  | .number n => .whole n

mutual

/-- A rule as a property list. -/
def RuleSource.toPlist : RuleSource → Plist.Value
  | { reference := rf, name := nm, contentName := cn, matchPattern := mp, beginPattern := bp,
      endPattern := ep, whilePattern := wp, captures := cs, beginCaptures := bcs,
      endCaptures := ecs, whileCaptures := wcs, applyEndPatternLast := al, appliesLineBreak := lb,
      disabled := ds, patterns := ps, repository := rp, extra := ex } =>
    .map (someText "include" rf ++ someText "name" nm ++ someText "contentName" cn ++
      someText "match" mp ++ someText "begin" bp ++ someText "end" ep ++ someText "while" wp ++
      mapEntry "captures" (capturesToPlist cs) ++ mapEntry "beginCaptures" (capturesToPlist bcs) ++
      mapEntry "endCaptures" (capturesToPlist ecs) ++
      mapEntry "whileCaptures" (capturesToPlist wcs) ++
      someEntry "applyEndPatternLast" (al.map Flag.toPlist) ++
      someEntry "appliesLineBreak" (lb.map .bool) ++ someEntry "disabled" (ds.map Flag.toPlist) ++
      listEntry "patterns" (rulesToPlist ps) ++
      mapEntry "repository" (repositoryToPlist rp) ++ membersToPlist ex)
  termination_by structural r => r

/-- Rules as property lists. -/
def rulesToPlist : List RuleSource → List Plist.Value
  | [] => []
  | r :: rs => r.toPlist :: rulesToPlist rs
  termination_by structural rs => rs

/-- Captures as entries of a map. -/
def capturesToPlist : List (Nat × RuleSource) → List (String × Plist.Value)
  | [] => []
  | c :: cs => captureToPlist c :: capturesToPlist cs
  termination_by structural cs => cs

/-- A capture as an entry of a map. -/
def captureToPlist : Nat × RuleSource → String × Plist.Value
  | (i, r) => (toString i, r.toPlist)
  termination_by structural c => c

/-- A repository as entries of a map. -/
def repositoryToPlist : List (String × RuleSource) → List (String × Plist.Value)
  | [] => []
  | e :: es => namedToPlist e :: repositoryToPlist es
  termination_by structural es => es

/-- An entry of a repository as an entry of a map. -/
def namedToPlist : String × RuleSource → String × Plist.Value
  | (name, r) => (name, r.toPlist)
  termination_by structural e => e

end

/-- A grammar as a property list. -/
def GrammarSource.toPlist (g : GrammarSource) : Plist.Value :=
  .map (
    someEntry "information_for_contributors" (g.contributorNotes.map fun ss =>
      .list (ss.map .text)) ++
    someText "version" g.version ++ someText "name" g.name ++
    [("scopeName", .text g.scopeName)] ++ listEntry "fileTypes" (g.fileTypes.map .text) ++
    someText "uuid" g.uuid ++ someText "firstLineMatch" g.firstLineMatch ++
    someText "foldingStartMarker" g.foldingStartMarker ++
    someText "foldingStopMarker" g.foldingStopMarker ++
    [("patterns", .list (rulesToPlist g.patterns))] ++
    mapEntry "repository" (repositoryToPlist g.repository) ++ membersToPlist g.extra)

end Source
end ScopeLexer
