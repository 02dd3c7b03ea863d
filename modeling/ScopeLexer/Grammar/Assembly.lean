/-
# Assembling a grammar

The rules of a source are numbered in the order in which they are met: a rule before its parts, the
repository of a rule before its captures and patterns, the captures of a rule before its patterns. Where
several keys could say what a rule is, a pattern to match counts first, then one that begins a span,
then the name, then what it includes.

Key definitions: `Assembly`, `Assembly.addRule`, `Assembly.ofSource`.
-/
import ScopeLexer.Grammar.Error
import ScopeLexer.Grammar.Rule
import ScopeLexer.Source.Rule

namespace ScopeLexer

open Source (RuleSource GrammarSource)

/-- What an include points to, in a grammar of a given scope name. -/
def Reference.ofText (ownScope : String) (s : String) : Except CompileError Reference :=
  if s = "$self" then .ok .self
  else if s = "$base" then .ok .base
  else
    match s.toList with
    | '#' :: name => .ok (.named (String.ofList name))
    | cs =>
      if s = ownScope then .ok .self
      else
        match ScopeName.splitAt? '#' cs with
        | some (scope, name) =>
          if String.ofList scope = ownScope then .ok (.topLevel (String.ofList name))
          else .error (.externalInclude s)
        | none => .error (.externalInclude s)

/-- A grammar that is being assembled. -/
structure Assembly where
  patterns : Array String := #[]
  rules : Array Rule := #[]
  repositories : Array Repository := #[]
  deriving Inhabited, Repr

namespace Assembly

/-- Work on an assembly that may be refused. -/
abbrev Build := StateT Assembly (Except CompileError)

/-- The next pattern. -/
def addPattern (s : String) : Build PatternId := do
  let a ← get
  set { a with patterns := a.patterns.push s }
  return a.patterns.size

/-- A place for the next rule. -/
def reserveRule : Build RuleId := do
  let a ← get
  set { a with rules := a.rules.push .noop }
  return a.rules.size

/-- A rule in its place. -/
def setRule (id : RuleId) (r : Rule) : Build Unit :=
  modify fun a => { a with rules := a.rules.setIfInBounds id r }

/-- A place for the next repository. -/
def reserveRepository : Build RepositoryId := do
  let a ← get
  set { a with repositories := a.repositories.push [] }
  return a.repositories.size

/-- A repository in its place. -/
def setRepository (id : RepositoryId) (r : Repository) : Build Unit :=
  modify fun a => { a with repositories := a.repositories.setIfInBounds id r }

/-- One more repository in view. -/
def inView (id : RepositoryId) (view : List RepositoryId) : Build (List RepositoryId) :=
  if view.length < CompileError.maxRepositoryDepth then return id :: view
  else throw .repositoriesTooDeep

/-- The rules of captures, by number. -/
def spreadCaptures (cs : List (Nat × RuleId)) : CaptureRules :=
  match cs.getLast? with
  | none => []
  | some last => (List.range (last.1 + 1)).map fun i => cs.lookup i

/-- Captures whose greatest number is not too large. -/
def checkCaptures (cs : List (Nat × RuleSource)) : Build Unit :=
  match cs.getLast? with
  | none => return
  | some last =>
    if CompileError.maxCaptureIndex < last.1 then throw (.captureIndexTooLarge last.1) else return

/-! ### Kinds of rules -/

/-- A span, whose closing pattern comes first and whose parts are added after both patterns. -/
def addSpan (head : RuleHead) (content : Option ScopeName) (closing opening : String)
    (openingCaptures closingCaptures : Build CaptureRules) (items : Build (List Item)) :
    Build SpanRule := do
  let c ← addPattern closing
  let o ← addPattern opening
  let open_ ← openingCaptures
  let close ← closingCaptures
  let items ← items
  return ⟨head, content, o, open_, c, Pattern.hasBackreferences closing.toList, close, items⟩

/-- What a group holds: its patterns, or what it includes if it has none. -/
def addGroupItems (own : String) (r : RuleSource) (items : Build (List Item)) : Build (List Item) :=
  match r.reference, r.patterns.isEmpty with
  | some text, true => do
    let ref ← Reference.ofText own text
    return [.include ref]
  | _, _ => items

/-- The rule that the keys of a source make, where `captures`, `opening`, `ending`, `going` and `items`
add the parts. -/
def addBody (own : String) (head : RuleHead) (r : RuleSource)
    (captures opening ending going : Build CaptureRules) (items : Build (List Item)) : Build Rule :=
  let content := r.contentName.map ScopeName.ofText
  match r.matchPattern, r.beginPattern with
  | some p, _ => do
    let p ← addPattern p
    let cs ← captures
    return .matching ⟨head, some p, cs⟩
  | none, some b =>
    match r.whilePattern, r.endPattern with
    | some w, _ => do
      let span ← addSpan head content w b opening going items
      return .beginWhile span
    | none, some e => do
      let span ← addSpan head content e b opening ending items
      return .beginEnd
        ⟨span, r.applyEndPatternLast.any Source.Flag.isSet, r.appliesLineBreak.getD true⟩
    | none, none => do
      let b ← addPattern b
      let cs ← opening
      return .matching ⟨head, some b, cs⟩
  | none, none =>
    if r.name.isSome && r.patterns.isEmpty && r.reference.isNone then
      return .matching ⟨head, none, []⟩
    else do
      let items ← addGroupItems own r items
      return if items.isEmpty then .noop else .group ⟨head, content, items⟩

/-! ### Rules -/

mutual

/-- The number of a rule that is added with all its parts, where `own` is the scope name of the grammar
and `view` the repositories in view. -/
def addRule (own : String) (view : List RepositoryId) : RuleSource → Build RuleId
  | { reference := rf, name := nm, contentName := cn, matchPattern := mp, beginPattern := bp,
      endPattern := ep, whilePattern := wp, captures := cs, beginCaptures := bcs,
      endCaptures := ecs, whileCaptures := wcs, applyEndPatternLast := al, appliesLineBreak := lb,
      disabled := ds, patterns := ps, repository := rp, extra := ex } => do
    let id ← reserveRule
    let view ← addRepository own view rp
    let captures := addChecked own view cs
    let rule ← addBody own ⟨id, nm.map ScopeName.ofText, view⟩
      { reference := rf, name := nm, contentName := cn, matchPattern := mp, beginPattern := bp,
        endPattern := ep, whilePattern := wp, captures := cs, beginCaptures := bcs,
        endCaptures := ecs, whileCaptures := wcs, applyEndPatternLast := al, appliesLineBreak := lb,
        disabled := ds, patterns := ps, repository := rp, extra := ex }
      captures
      (if bcs.isEmpty then captures else addChecked own view bcs)
      (if ecs.isEmpty then captures else addChecked own view ecs)
      (if wcs.isEmpty then captures else addChecked own view wcs)
      (addItems own view ps)
    setRule id rule
    return id
  termination_by structural r => r

/-- The repositories in view with the entries of one more, if there is one. -/
def addRepository (own : String) (view : List RepositoryId) :
    List (String × RuleSource) → Build (List RepositoryId)
  | [] => return view
  | e :: es => do
    let id ← reserveRepository
    let view ← inView id view
    let first ← addEntry own view e
    let rest ← addEntries own view es
    setRepository id (first :: rest)
    return view
  termination_by structural es => es

/-- The entries of a repository. -/
def addEntries (own : String) (view : List RepositoryId) :
    List (String × RuleSource) → Build Repository
  | [] => return []
  | e :: es => do
    let first ← addEntry own view e
    let rest ← addEntries own view es
    return first :: rest
  termination_by structural es => es

/-- An entry of a repository. -/
def addEntry (own : String) (view : List RepositoryId) :
    String × RuleSource → Build (String × RuleId)
  | (name, r) => do
    let id ← addRule own view r
    return (name, id)
  termination_by structural e => e

/-- The rules of captures whose numbers are not too large. -/
def addChecked (own : String) (view : List RepositoryId) :
    List (Nat × RuleSource) → Build CaptureRules
  | [] => return []
  | c :: cs => do
    checkCaptures (c :: cs)
    let first ← addCapture own view c
    let rest ← addCaptures own view cs
    return spreadCaptures (first :: rest)
  termination_by structural cs => cs

/-- The rules of captures. -/
def addCaptures (own : String) (view : List RepositoryId) :
    List (Nat × RuleSource) → Build (List (Nat × RuleId))
  | [] => return []
  | c :: cs => do
    let first ← addCapture own view c
    let rest ← addCaptures own view cs
    return first :: rest
  termination_by structural cs => cs

/-- The rule of a capture. -/
def addCapture (own : String) (view : List RepositoryId) :
    Nat × RuleSource → Build (Nat × RuleId)
  | (i, r) => do
    let id ← addRule own view r
    return (i, id)
  termination_by structural c => c

/-- The elements of a list of patterns. Those that are disabled are left out; of an include nothing else
counts. -/
def addItems (own : String) (view : List RepositoryId) : List RuleSource → Build (List Item)
  | [] => return []
  | r :: rs => do
    if r.isDisabled then addItems own view rs
    else
      let first ← match r.reference with
        | some s => do
          let r ← Reference.ofText own s
          pure (Item.include r)
        | none => do
          let id ← addRule own view r
          pure (Item.rule id)
      let rest ← addItems own view rs
      return first :: rest
  termination_by structural rs => rs

end

/-- The rules of a grammar, and the number of its repository. The rule that holds its patterns comes
first. -/
def addGrammar (own : String) (s : GrammarSource) : Build (Option RepositoryId) := do
  let root ← reserveRule
  let view ← addRepository own [] s.repository
  let items ← addItems own view s.patterns
  setRule root (.group ⟨⟨root, none, view⟩, none, items⟩)
  return view.head?

/-- The grammar of a source, with references that are not looked at yet. -/
def ofSource (s : GrammarSource) : Except CompileError Grammar := do
  let own := Text.trim s.scopeName.toList
  if own.isEmpty then throw .missingScopeName
  let scopeName := String.ofList own
  let (root, a) ← (addGrammar scopeName s).run {}
  return {
    name := s.name
    scopeName := scopeName
    scope := Scope.ofText scopeName
    fileTypes := s.fileTypes
    patterns := a.patterns.map Pattern.ofText
    rules := a.rules
    repositories := a.repositories
    rootRepository := root }

end Assembly
end ScopeLexer
