/-
# The candidates of a rule

The patterns that may match next within a rule: those of its own list, with the lists of groups put in
the place of the groups. A rule that is met again is left out, for its first place is the one that
counts.

Key definitions: `Gathering`, `Grammar.candidates`.
-/
import ScopeLexer.Grammar.Rule

namespace ScopeLexer

/-- A rule and the pattern that it is found by. -/
abbrev Entry := RuleId × PatternId

/-- The rules that have been met, and the candidates among them. -/
structure Gathering where
  met : List RuleId := []
  found : List Entry := []
  deriving Inhabited, Repr

namespace Grammar

/-- The gathering after a list of patterns, where `visit` gathers from a rule. -/
def gatherItems (g : Grammar) (visit : RuleId → Gathering → Gathering) (view : List RepositoryId) :
    List Item → Gathering → Gathering
  | [], s => s
  | i :: is, s =>
    let s := match g.resolve view i with
      | some id => visit id s
      | none => s
    gatherItems g visit view is s

/-- The gathering after a rule, through at most `fuel` groups within each other. -/
def gatherRule (g : Grammar) : Nat → RuleId → Gathering → Gathering
  | fuel, id, s =>
    if s.met.contains id then s
    else
      let s := { s with met := id :: s.met }
      match g.rule id with
      | .group r =>
        match fuel with
        | 0 => s
        | fuel + 1 => gatherItems g (gatherRule g fuel) r.repositories r.items s
      | r =>
        match r.entry? with
        | some p => { s with found := (id, p) :: s.found }
        | none => s
  termination_by structural fuel => fuel

/-- The candidates of a rule, in order. Each group within another is met for the first time, so that
there are no more of them than rules. -/
def candidates (g : Grammar) (id : RuleId) : List Entry :=
  let r := g.rule id
  (gatherItems g (gatherRule g (g.rules.size + 1)) r.repositories r.items {}).found.reverse

end Grammar
end ScopeLexer
