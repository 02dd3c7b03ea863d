/-
# Names of repository entries

All names under which a grammar keeps rules in a repository, wherever that stands.

Key definitions: `RuleSource.entryNames`, `GrammarSource.entryNames`.
-/
import ScopeLexer.Source.Rule

namespace ScopeLexer
namespace Source

mutual

/-- The names in the repositories within a rule. -/
def RuleSource.entryNames : RuleSource → List String
  | { reference := _, name := _, contentName := _, matchPattern := _, beginPattern := _,
      endPattern := _, whilePattern := _, captures := cs, beginCaptures := bcs,
      endCaptures := ecs, whileCaptures := wcs, applyEndPatternLast := _, appliesLineBreak := _,
      disabled := _, patterns := ps, repository := rp, extra := _ } =>
    namesOfRules ps ++ namesOfRepository rp ++ namesOfCaptures cs ++ namesOfCaptures bcs ++
      namesOfCaptures ecs ++ namesOfCaptures wcs
  termination_by structural r => r

/-- The names within some rules. -/
def namesOfRules : List RuleSource → List String
  | [] => []
  | r :: rs => r.entryNames ++ namesOfRules rs
  termination_by structural rs => rs

/-- The names within captures. -/
def namesOfCaptures : List (Nat × RuleSource) → List String
  | [] => []
  | c :: cs => namesOfCapture c ++ namesOfCaptures cs
  termination_by structural cs => cs

/-- The names within a capture. -/
def namesOfCapture : Nat × RuleSource → List String
  | (_, r) => r.entryNames
  termination_by structural c => c

/-- The names of a repository and within it. -/
def namesOfRepository : List (String × RuleSource) → List String
  | [] => []
  | e :: es => namesOfEntry e ++ namesOfRepository es
  termination_by structural es => es

/-- The name of an entry and those within it. -/
def namesOfEntry : String × RuleSource → List String
  | (name, r) => name :: r.entryNames
  termination_by structural e => e

end

/-- The names in all repositories of a grammar, sorted, each once. -/
def GrammarSource.entryNames (g : GrammarSource) : List String :=
  ((namesOfRules g.patterns ++ namesOfRepository g.repository).foldl
    (fun es name => Sorted.insert name () es) []).map (·.1)

end Source
end ScopeLexer
