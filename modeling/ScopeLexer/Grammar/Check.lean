/-
# Checking a grammar

A grammar is put to use if its patterns are accepted, its references point to rules, and no group comes
back to itself without anything to match on the way.

Key definitions: `Grammar.check`, `Grammar.ofSource`.
-/
import ScopeLexer.Grammar.Assembly
import ScopeLexer.Grammar.Candidates

namespace ScopeLexer
namespace Grammar

/-- The first pattern that is not accepted. -/
def checkPatterns (g : Grammar) : Except CompileError Unit :=
  g.patterns.toList.forM fun p =>
    match p.validate with
    | .ok _ => .ok ()
    | .error e => .error (.invalidPattern p.source e)

/-- The first reference that points to no rule. -/
def checkReferences (g : Grammar) : Except CompileError Unit :=
  g.rules.toList.forM fun r =>
    r.items.forM fun
      | .rule _ => .ok ()
      | .include ref =>
        if (g.resolveReference r.repositories ref).isSome then .ok ()
        else .error (.unresolvedInclude ref.text)

/-- The rules that a group leads to in one step. -/
def targets (g : Grammar) (id : RuleId) : List RuleId :=
  match g.rule id with
  | .group r => r.items.filterMap (g.resolve r.repositories)
  | _ => []

/-- Whether a rule is met on the way through groups from the rules in `todo`; each step is bounded. -/
def meets (g : Grammar) (goal : RuleId) : Nat → List RuleId → List RuleId → Bool
  | 0, _, _ => false
  | _, [], _ => false
  | fuel + 1, id :: todo, met =>
    if met.contains id then meets g goal fuel todo met
    else
      let next := g.targets id
      next.contains goal || meets g goal fuel (next ++ todo) (id :: met)

/-- Whether a group leads back to itself. -/
def includesItself (g : Grammar) (id : RuleId) : Bool :=
  let steps := g.rules.toList.foldl (fun n r => n + r.items.length + 1) 0
  g.meets id (steps + 1) [id] []

/-- How a rule is named in messages. -/
def describe (g : Grammar) (id : RuleId) : String :=
  if id = rootRule then "$self"
  else
    match g.repositories.toList.flatten.find? fun e => e.2 == id with
    | some e => "#" ++ e.1
    | none => "rule " ++ toString id

/-- The first group that leads back to itself and has nothing to match. -/
def checkCycles (g : Grammar) : Except CompileError Unit :=
  (List.range g.rules.size).forM fun id =>
    if (g.rule id).isGroup && (g.candidates id).isEmpty && g.includesItself id then
      .error (.emptyCycle (g.describe id))
    else .ok ()

/-- Whether a grammar may be put to use. -/
def check (g : Grammar) : Except CompileError Unit := do
  g.checkPatterns
  g.checkReferences
  g.checkCycles

/-- The grammar of a source, ready to be used. -/
def ofSource (s : Source.GrammarSource) : Except CompileError Grammar := do
  let g ← Assembly.ofSource s
  g.check
  return g

end Grammar
end ScopeLexer
