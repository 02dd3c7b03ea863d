/-
# From documents to grammars

A grammar is decoded from a document in the order of its text, so that of two faults the first one is
reported. A format says how it writes texts, truth values, switches and absent values; the shape of
grammars is the same in all of them. A key with a meaning may stand only once.

Key definitions: `Format`, `Fault`, `Notation`, `Notation.rule`, `Notation.grammar`.
-/
import ScopeLexer.Decimal.Numeral
import ScopeLexer.Document
import ScopeLexer.Source.Rule
import ScopeLexer.Text.Basic

namespace ScopeLexer
namespace Source

/-- What a grammar is written in: YAML, JSON, or a property list. -/
inductive Format where
  | yaml
  | json
  | plist
  deriving Inhabited, Repr, DecidableEq

/-- Why a document is no grammar. -/
inductive Fault where
  /-- The text is not well formed. -/
  | malformed
  /-- A value has the wrong shape. -/
  | shape
  /-- The key of a capture is no number. -/
  | captureIndex (text : String)
  /-- The key of a capture is a negative number. -/
  | negativeIndex (n : Int)
  /-- The key of a capture is neither a text nor a number. -/
  | indexShape
  /-- Captures are no map. -/
  | captureShape
  deriving Inhabited, Repr, DecidableEq

/-- What is said about a fault of captures. -/
def Fault.message? : Fault → Option String
  | malformed => none
  | shape => none
  | captureIndex text => some ("invalid capture index '" ++ text ++ "'")
  | negativeIndex n => some ("invalid capture index " ++ toString n)
  | indexShape => some "expected a capture group index"
  | captureShape => some "expected a map of capture index to rule"

/-- How a format writes the values of a grammar. -/
structure Notation (α : Type) where
  text : α → Except Fault String
  truth : α → Except Fault Bool
  flag : α → Except Fault Flag
  /-- The number of a group as a key. -/
  index : α → Except Fault Nat
  key : α → Except Fault String
  /-- Whether a scalar stands for an absent value. -/
  isNull : α → Except Fault Bool
  /-- Whether a scalar stands for a list or map without parts. -/
  isEmpty : α → Bool
  /-- Whether an optional value stands in a map of its own, under a key that tells if it is there. -/
  wraps : Bool
  /-- Any value. What is well formed but no value of any kind is refused only when all that stands
  beside it has been read. -/
  value : Document α → Except Fault (Option Json.Value)

/-- The number of a group written as text, with white space around it. -/
def indexOfText (s : String) : Except Fault Nat :=
  match Decimal.wordOf? (Text.trim s.toList) with
  | some n => .ok n
  | none => .error (.captureIndex s)

namespace Notation

variable {α : Type} (n : Notation α)

/-- A scalar value. -/
def scalarOf {β : Type} (f : α → Except Fault β) : Document α → Except Fault β
  | .scalar s => f s
  | .broken => .error .malformed
  | _ => .error .shape

/-- The end of a list or map. -/
def closing (closed : Bool) : Except Fault Unit := if closed then .ok () else .error .malformed

/-- An optional value. -/
def optional {β : Type} (f : Document α → Except Fault β) (t : Document α) : Except Fault (Option β) :=
  if n.wraps then
    match t with
    | .map ((some k, v) :: rest) closed => do
      let key ← n.key k
      let found ←
        if key = "Some" then (f v).map some
        else if key = "None" then (scalarOf n.text v).map fun _ => none
        else .error .shape
      if !rest.isEmpty then throw .shape
      closing closed
      return found
    | .map [] false => .error .malformed
    | .broken => .error .malformed
    | _ => .error .shape
  else
    match t with
    | .scalar s => do if ← n.isNull s then return none else (f t).map some
    | t => (f t).map some

def optionalText (t : Document α) : Except Fault (Option String) := n.optional (scalarOf n.text) t

/-- A switch. A value of another shape is looked at as a whole before it is refused. -/
def flagOf : Document α → Except Fault Flag
  | .scalar s => n.flag s
  | t => do
    let _ ← n.value t
    throw .shape

/-- Texts one after the other. -/
def textItems : List (Document α) → Except Fault (List String)
  | [] => .ok []
  | t :: ts => do
    let s ← scalarOf n.text t
    let rest ← textItems ts
    return s :: rest

/-- A list of texts. -/
def texts : Document α → Except Fault (List String)
  | .list items closed => do
    let ss ← n.textItems items
    closing closed
    return ss
  | .scalar s => if n.isEmpty s then .ok [] else .error .shape
  | .map _ _ => .error .shape
  | .typed t => texts t
  | .broken => .error .malformed

/-- The text of a key. -/
def keyText : Option α → Except Fault String
  | some k => n.key k
  | none => .error .shape

/-- A key that must not have stood before. -/
def once (seen : List String) (key : String) : Except Fault (List String) :=
  if seen.contains key then .error .shape else .ok (key :: seen)

/-- The number of a group as the key of a capture. -/
def indexOf : Option α → Except Fault Nat
  | some k => n.index k
  | none => .error .indexShape

/-! ### Rules -/

/-- What is being decoded, and the keys that have stood. -/
structure Partial (β : Type) where
  result : β
  seen : List String := []
  /-- Whether a key without a meaning has a value that is refused. -/
  refused : Bool := false

/-- What has been decoded when all entries have been read. -/
def Partial.finish {β : Type} (p : Partial β) (closed : Bool) : Except Fault β := do
  closing closed
  if p.refused then throw .shape
  return p.result

mutual

/-- A rule. -/
def rule : Document α → Except Fault RuleSource
  | .map entries closed => do
    let p ← fields ⟨{}, [], false⟩ entries
    p.finish closed
  | .scalar s => if n.isEmpty s then .ok {} else .error .shape
  | .list _ _ => .error .shape
  | .typed t => rule t
  | .broken => .error .malformed
  termination_by structural t => t

/-- The entries of a rule. -/
def fields (p : Partial RuleSource) :
    List (Option α × Document α) → Except Fault (Partial RuleSource)
  | [] => .ok p
  | e :: es => do
    let p ← field p e
    fields p es
  termination_by structural es => es

/-- An entry of a rule. -/
def field (p : Partial RuleSource) : Option α × Document α → Except Fault (Partial RuleSource)
  | (k, t) => do
    let key ← n.keyText k
    let r := p.result
    match key with
    | "include" =>
      let seen ← once p.seen key
      return { p with result := { r with reference := ← n.optionalText t }, seen := seen }
    | "name" =>
      let seen ← once p.seen key
      return { p with result := { r with name := ← n.optionalText t }, seen := seen }
    | "contentName" =>
      let seen ← once p.seen key
      return { p with result := { r with contentName := ← n.optionalText t }, seen := seen }
    | "match" =>
      let seen ← once p.seen key
      return { p with result := { r with matchPattern := ← n.optionalText t }, seen := seen }
    | "begin" =>
      let seen ← once p.seen key
      return { p with result := { r with beginPattern := ← n.optionalText t }, seen := seen }
    | "end" =>
      let seen ← once p.seen key
      return { p with result := { r with endPattern := ← n.optionalText t }, seen := seen }
    | "while" =>
      let seen ← once p.seen key
      return { p with result := { r with whilePattern := ← n.optionalText t }, seen := seen }
    | "captures" =>
      let seen ← once p.seen key
      return { p with result := { r with captures := ← captures t }, seen := seen }
    | "beginCaptures" =>
      let seen ← once p.seen key
      return { p with result := { r with beginCaptures := ← captures t }, seen := seen }
    | "endCaptures" =>
      let seen ← once p.seen key
      return { p with result := { r with endCaptures := ← captures t }, seen := seen }
    | "whileCaptures" =>
      let seen ← once p.seen key
      return { p with result := { r with whileCaptures := ← captures t }, seen := seen }
    | "applyEndPatternLast" =>
      let seen ← once p.seen key
      return { p with result := { r with applyEndPatternLast := ← n.optional n.flagOf t }, seen := seen }
    | "appliesLineBreak" =>
      let seen ← once p.seen key
      let value ← n.optional (scalarOf n.truth) t
      return { p with result := { r with appliesLineBreak := value }, seen := seen }
    | "disabled" =>
      let seen ← once p.seen key
      return { p with result := { r with disabled := ← n.optional n.flagOf t }, seen := seen }
    | "patterns" =>
      let seen ← once p.seen key
      return { p with result := { r with patterns := ← rules t }, seen := seen }
    | "repository" =>
      let seen ← once p.seen key
      return { p with result := { r with repository := ← repository t }, seen := seen }
    | key =>
      match ← n.value t with
      | some v => return { p with result := { r with extra := Sorted.insert key v r.extra } }
      | none => return { p with refused := true }
  termination_by structural e => e

/-- A list of rules. -/
def rules : Document α → Except Fault (List RuleSource)
  | .list items closed => do
    let rs ← ruleItems items
    closing closed
    return rs
  | .scalar s => if n.isEmpty s then .ok [] else .error .shape
  | .map _ _ => .error .shape
  | .typed t => rules t
  | .broken => .error .malformed
  termination_by structural t => t

/-- Rules one after the other. -/
def ruleItems : List (Document α) → Except Fault (List RuleSource)
  | [] => .ok []
  | t :: ts => do
    let r ← rule t
    let rest ← ruleItems ts
    return r :: rest
  termination_by structural ts => ts

/-- Captures. -/
def captures : Document α → Except Fault (List (Nat × RuleSource))
  | .map entries closed => do
    let cs ← captureEntries [] entries
    closing closed
    return cs
  | .scalar s => if n.isEmpty s then .ok [] else .error .captureShape
  | .list _ _ => .error .captureShape
  | .typed t => captures t
  | .broken => .error .malformed
  termination_by structural t => t

/-- The entries of captures, after those in `done`. -/
def captureEntries (done : List (Nat × RuleSource)) :
    List (Option α × Document α) → Except Fault (List (Nat × RuleSource))
  | [] => .ok done
  | e :: es => do
    let c ← captureEntry e
    captureEntries (Sorted.insert c.1 c.2 done) es
  termination_by structural es => es

/-- An entry of captures. -/
def captureEntry : Option α × Document α → Except Fault (Nat × RuleSource)
  | (k, t) => do
    let i ← n.indexOf k
    let r ← rule t
    return (i, r)
  termination_by structural e => e

/-- A repository. -/
def repository : Document α → Except Fault (List (String × RuleSource))
  | .map entries closed => do
    let rs ← repositoryEntries [] entries
    closing closed
    return rs
  | .scalar s => if n.isEmpty s then .ok [] else .error .shape
  | .list _ _ => .error .shape
  | .typed t => repository t
  | .broken => .error .malformed
  termination_by structural t => t

/-- The entries of a repository, after those in `done`. -/
def repositoryEntries (done : List (String × RuleSource)) :
    List (Option α × Document α) → Except Fault (List (String × RuleSource))
  | [] => .ok done
  | e :: es => do
    let r ← repositoryEntry e
    repositoryEntries (Sorted.insert r.1 r.2 done) es
  termination_by structural es => es

/-- An entry of a repository. -/
def repositoryEntry : Option α × Document α → Except Fault (String × RuleSource)
  | (k, t) => do
    let name ← n.keyText k
    let r ← rule t
    return (name, r)
  termination_by structural e => e

end

/-! ### Grammars -/

/-- An entry of a grammar that is being decoded. -/
def grammarField (p : Partial GrammarSource) (k : Option α) (t : Document α) :
    Except Fault (Partial GrammarSource) := do
  let key ← n.keyText k
  let g := p.result
  match key with
  | "information_for_contributors" =>
    let seen ← once p.seen key
    return { p with result := { g with contributorNotes := ← n.optional n.texts t }, seen := seen }
  | "version" =>
    let seen ← once p.seen key
    return { p with result := { g with version := ← n.optionalText t }, seen := seen }
  | "name" =>
    let seen ← once p.seen key
    return { p with result := { g with name := ← n.optionalText t }, seen := seen }
  | "scopeName" =>
    let seen ← once p.seen key
    return { p with result := { g with scopeName := ← scalarOf n.text t }, seen := seen }
  | "fileTypes" =>
    let seen ← once p.seen key
    return { p with result := { g with fileTypes := ← n.texts t }, seen := seen }
  | "uuid" =>
    let seen ← once p.seen key
    return { p with result := { g with uuid := ← n.optionalText t }, seen := seen }
  | "firstLineMatch" =>
    let seen ← once p.seen key
    return { p with result := { g with firstLineMatch := ← n.optionalText t }, seen := seen }
  | "foldingStartMarker" =>
    let seen ← once p.seen key
    return { p with result := { g with foldingStartMarker := ← n.optionalText t }, seen := seen }
  | "foldingStopMarker" =>
    let seen ← once p.seen key
    return { p with result := { g with foldingStopMarker := ← n.optionalText t }, seen := seen }
  | "patterns" =>
    let seen ← once p.seen key
    return { p with result := { g with patterns := ← n.rules t }, seen := seen }
  | "repository" =>
    let seen ← once p.seen key
    return { p with result := { g with repository := ← n.repository t }, seen := seen }
  | key =>
    match ← n.value t with
    | some v => return { p with result := { g with extra := Sorted.insert key v g.extra } }
    | none => return { p with refused := true }

/-- The entries of a grammar. -/
def grammarFields (p : Partial GrammarSource) :
    List (Option α × Document α) → Except Fault (Partial GrammarSource)
  | [] => .ok p
  | (k, t) :: es => do
    let p ← n.grammarField p k t
    grammarFields p es

/-- A grammar. -/
def grammar : Document α → Except Fault GrammarSource
  | .map entries closed => do
    let p ← n.grammarFields ⟨{}, [], false⟩ entries
    p.finish closed
  | .scalar s => if n.isEmpty s then .ok {} else .error .shape
  | .list _ _ => .error .shape
  | .typed t => grammar t
  | .broken => .error .malformed

end Notation
end Source
end ScopeLexer
