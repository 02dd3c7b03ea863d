/-
# Compiled grammars

A grammar in use is an arena of rules and patterns, referred to by number. A rule keeps the repositories
that are in view where it is written, innermost first, and the includes among its patterns as
references, to be looked up there.

Key definitions: `Rule`, `Reference`, `Grammar`, `Grammar.resolve`.
-/
import ScopeLexer.Pattern.Basic
import ScopeLexer.ScopeName

namespace ScopeLexer

abbrev RuleId := Nat
abbrev PatternId := Nat
abbrev RepositoryId := Nat

/-- What an include points to. -/
inductive Reference where
  /-- The patterns of the grammar. -/
  | self
  /-- The patterns of the grammar that is being tokenized with, which is the same. -/
  | base
  /-- The nearest entry of that name. -/
  | named (name : String)
  /-- The entry of that name in the repository of the grammar. -/
  | topLevel (name : String)
  deriving Inhabited, Repr, DecidableEq

/-- A reference as it is shown in messages. -/
def Reference.text : Reference → String
  | self => "$self"
  | base => "$base"
  | named name => "#" ++ name
  | topLevel name => "$self#" ++ name

/-- An element of a list of patterns. -/
inductive Item where
  | rule (id : RuleId)
  | include (r : Reference)
  deriving Inhabited, Repr, DecidableEq

/-- The rules for the groups of a match, by number. -/
abbrev CaptureRules := List (Option RuleId)

/-- What all rules with a number of their own have. -/
structure RuleHead where
  id : RuleId
  name : Option ScopeName
  /-- The repositories in view, innermost first. -/
  repositories : List RepositoryId
  deriving Inhabited, Repr, DecidableEq

/-- A pattern that is matched within a line, or none where the rule only gives a scope. -/
structure MatchRule extends RuleHead where
  pattern : Option PatternId
  captures : CaptureRules
  deriving Inhabited, Repr, DecidableEq

/-- A list of patterns without a pattern of its own. -/
structure GroupRule extends RuleHead where
  contentName : Option ScopeName
  items : List Item
  deriving Inhabited, Repr, DecidableEq

/-- What both kinds of spans have. -/
structure SpanRule extends RuleHead where
  contentName : Option ScopeName
  opening : PatternId
  openingCaptures : CaptureRules
  /-- The pattern that ends the span, or the one that continues it. -/
  closing : PatternId
  /-- Whether that pattern refers to the groups of the opening one. -/
  closingRefers : Bool
  closingCaptures : CaptureRules
  items : List Item
  deriving Inhabited, Repr, DecidableEq

/-- A span up to the match of a pattern. -/
structure EndRule extends SpanRule where
  /-- Whether the end is tried after the other patterns. -/
  endLast : Bool
  /-- Whether the span goes on in the next line. -/
  carriesOver : Bool
  deriving Inhabited, Repr, DecidableEq

/-- A rule of a grammar. -/
inductive Rule where
  | matching (r : MatchRule)
  | group (r : GroupRule)
  | beginEnd (r : EndRule)
  | beginWhile (r : SpanRule)
  | noop
  deriving Inhabited, Repr, DecidableEq

namespace Rule

def head? : Rule → Option RuleHead
  | matching r => some r.toRuleHead
  | group r => some r.toRuleHead
  | beginEnd r => some r.toRuleHead
  | beginWhile r => some r.toRuleHead
  | noop => none

def name? (r : Rule) : Option ScopeName := r.head?.bind (·.name)

def contentName? : Rule → Option ScopeName
  | group r => r.contentName
  | beginEnd r => r.contentName
  | beginWhile r => r.contentName
  | matching _ | noop => none

def items : Rule → List Item
  | group r => r.items
  | beginEnd r => r.items
  | beginWhile r => r.items
  | matching _ | noop => []

def repositories (r : Rule) : List RepositoryId :=
  match r.head? with
  | some h => h.repositories
  | none => []

def isGroup : Rule → Bool
  | group _ => true
  | _ => false

/-- Whether the text of a group with this rule is tokenized again. -/
def hasItems : Rule → Bool
  | group r => !r.items.isEmpty
  | _ => false

/-- The pattern that a rule is found by. -/
def entry? : Rule → Option PatternId
  | matching r => r.pattern
  | beginEnd r => some r.opening
  | beginWhile r => some r.opening
  | group _ | noop => none

/-- The scopes of the name of a rule for a match in a line. -/
def nameScopes (r : Rule) (line : List Char) (captures : Regex.Captures) : List Scope :=
  match r.name? with
  | some n => n.resolve line captures
  | none => []

/-- The scopes of the content of a rule for a match in a line. -/
def contentScopes (r : Rule) (line : List Char) (captures : Regex.Captures) : List Scope :=
  match r.contentName? with
  | some n => n.resolve line captures
  | none => []

end Rule

/-- The entries of a repository, sorted by name. -/
abbrev Repository := List (String × RuleId)

/-- A grammar in use. -/
structure Grammar where
  name : Option String
  scopeName : String
  /-- The outermost scope of every token. -/
  scope : Scope
  fileTypes : List String
  patterns : Array Pattern
  rules : Array Rule
  repositories : Array Repository
  rootRepository : Option RepositoryId
  deriving Inhabited

namespace Grammar

/-- The number of the rule that holds the patterns of the grammar. -/
def rootRule : RuleId := 0

def rule (g : Grammar) (id : RuleId) : Rule := g.rules.getD id .noop

def pattern (g : Grammar) (id : PatternId) : Pattern := g.patterns.getD id default

/-- An entry of a repository. -/
def entry? (g : Grammar) (repository : RepositoryId) (name : String) : Option RuleId :=
  (g.repositories.getD repository []).lookup name

/-- An entry of the repository of the grammar. -/
def topLevel? (g : Grammar) (name : String) : Option RuleId :=
  g.rootRepository.bind fun r => g.entry? r name

/-- The rule that a reference points to, looked up in some repositories. -/
def resolveReference (g : Grammar) (repositories : List RepositoryId) : Reference → Option RuleId
  | .self => some rootRule
  | .base => some rootRule
  | .named name => repositories.findSome? fun r => g.entry? r name
  | .topLevel name => g.topLevel? name

/-- The rule that an element of a list of patterns stands for. -/
def resolve (g : Grammar) (repositories : List RepositoryId) : Item → Option RuleId
  | .rule id => some id
  | .include r => g.resolveReference repositories r

end Grammar
end ScopeLexer
