/-
# Scopes of captured groups

The groups of a match that have rules get the scopes of these rules, from left to right. A group within
another one gets the scopes of both. A group whose rule has patterns is tokenized on its own, with the
text before it in view. Groups that begin behind the match get nothing.

Key definitions: `Sweep`, `Sweep.tokens`.
-/
import ScopeLexer.Tokenize.Stack
import ScopeLexer.Tokenize.Token

namespace ScopeLexer

open Regex (Captures)

/-- The groups that are open, innermost first, each with its scopes and its end. -/
abbrev OpenGroups := List (List Scope × Nat)

/-- The tokens up to the ends of the groups that end at or before an offset, and the groups left. -/
def closeUpTo (pos : Nat) : OpenGroups → Tokens → Tokens × OpenGroups
  | [], ts => (ts, [])
  | (scopes, stop) :: rest, ts =>
    if stop ≤ pos then closeUpTo pos rest (ts.produce stop scopes)
    else (ts, (scopes, stop) :: rest)

/-- The tokens up to the ends of all groups. -/
def closeAll (groups : OpenGroups) (ts : Tokens) : Tokens :=
  groups.foldl (fun ts g => ts.produce g.2 g.1) ts

/-- The scopes where some groups are open. -/
def scopesWithin (groups : OpenGroups) (outer : List Scope) : List Scope :=
  match groups with
  | [] => outer
  | (scopes, _) :: _ => scopes

/-- Tokenizing a text again: from a stack, the text, the offset to begin at and whether the document
begins there. -/
abbrev Again (m : Type → Type) := Stack → List Char → Nat → Bool → m Tokens

/-- A match whose groups get scopes. -/
structure Sweep (m : Type → Type) where
  grammar : Grammar
  /-- How the texts of groups are tokenized again, if they may be. -/
  again : Option (Again m)
  stack : Stack
  line : List Char
  captures : Captures
  firstLine : Bool

namespace Sweep

variable {m : Type → Type} [Monad m]

/-- The end of the match. -/
def matchEnd (w : Sweep m) : Nat :=
  match w.captures with
  | some (_, stop) :: _ => stop
  | _ => 0

/-- The tokens of a group that is tokenized again. -/
@[specialize] def group (w : Sweep m) (again : Again m) (id : RuleId) (start stop : Nat)
    (ts : Tokens) : m Tokens := do
  let rule := w.grammar.rule id
  let names := w.stack.top.contentScopes ++ rule.nameScopes w.line w.captures
  let contents := names ++ rule.contentScopes w.line w.captures
  let stack := w.stack.push
    { rule := id, nameScopes := names, contentScopes := contents, entered := some start }
  let text := (Text.takeBytes? w.line stop).getD w.line
  let inner ← again stack text start (w.firstLine && start == 0)
  return inner.done.reverse.foldl (fun ts t => ts.produce t.stop t.scopes) ts

/-- The tokens of the groups of a match, each with its rule, from left to right. -/
@[specialize] def run (w : Sweep m) :
    List (Option RuleId × Option (Nat × Nat)) → OpenGroups → Tokens → m Tokens
  | [], groups, ts => return closeAll groups ts
  | (some id, some (start, stop)) :: rest, groups, ts =>
    if w.matchEnd < start then return closeAll groups ts
    else if start = stop then run w rest groups ts
    else do
      let (ts, groups) := closeUpTo start groups ts
      let outer := scopesWithin groups w.stack.top.contentScopes
      let ts := ts.produce start outer
      let rule := w.grammar.rule id
      match w.again, rule.hasItems with
      | some again, true =>
        let ts ← w.group again id start stop ts
        run w rest groups ts
      | _, _ =>
        let scopes := rule.nameScopes w.line w.captures
        let groups := if scopes.isEmpty then groups else (outer ++ scopes, stop) :: groups
        run w rest groups ts
  | _ :: rest, groups, ts => run w rest groups ts

/-- The tokens of the groups of a match that have rules. -/
@[specialize] def tokens (w : Sweep m) (rules : CaptureRules) (ts : Tokens) : m Tokens :=
  w.run (rules.zip w.captures) [] ts

end Sweep
end ScopeLexer
