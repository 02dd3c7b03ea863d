/-
# Grammars as they are written

A grammar is a tree of rules. Which keys a rule has decides what it is; here they are only kept. Keys
without a meaning are kept too, sorted, with their values. Captures are sorted by the number of their
group, repositories by name.

Key definitions: `RuleSource`, `GrammarSource`, `GrammarSource.same`.
-/
import ScopeLexer.Json.Value
import ScopeLexer.Sorted

namespace ScopeLexer
namespace Source

/-- A switch, written as a truth value or as a number. -/
inductive Flag where
  | bool (b : Bool)
  | number (n : Int)
  deriving Inhabited, Repr, DecidableEq

/-- A number other than zero switches on. -/
def Flag.isSet : Flag → Bool
  | .bool b => b
  | .number n => n != 0

/-- A rule as it is written. -/
structure RuleSource where
  reference : Option String := none
  name : Option String := none
  contentName : Option String := none
  matchPattern : Option String := none
  beginPattern : Option String := none
  endPattern : Option String := none
  whilePattern : Option String := none
  captures : List (Nat × RuleSource) := []
  beginCaptures : List (Nat × RuleSource) := []
  endCaptures : List (Nat × RuleSource) := []
  whileCaptures : List (Nat × RuleSource) := []
  applyEndPatternLast : Option Flag := none
  appliesLineBreak : Option Bool := none
  disabled : Option Flag := none
  patterns : List RuleSource := []
  repository : List (String × RuleSource) := []
  extra : List (String × Json.Value) := []
  deriving Inhabited, Repr

def RuleSource.isDisabled (r : RuleSource) : Bool := r.disabled.any Flag.isSet

/-- A grammar as it is written. -/
structure GrammarSource where
  contributorNotes : Option (List String) := none
  version : Option String := none
  name : Option String := none
  scopeName : String := ""
  fileTypes : List String := []
  uuid : Option String := none
  firstLineMatch : Option String := none
  foldingStartMarker : Option String := none
  foldingStopMarker : Option String := none
  patterns : List RuleSource := []
  repository : List (String × RuleSource) := []
  extra : List (String × Json.Value) := []
  deriving Inhabited, Repr

/-! ### Equality -/

/-- Equality of the keys without a meaning. -/
def sameExtra : List (String × Json.Value) → List (String × Json.Value) → Bool
  | [], [] => true
  | (j, v) :: as, (k, w) :: bs => j == k && v.same w && sameExtra as bs
  | _, _ => false

mutual

/-- Equality of rules. -/
def RuleSource.same : RuleSource → RuleSource → Bool
  | { reference := rf, name := nm, contentName := cn, matchPattern := mp, beginPattern := bp,
      endPattern := ep, whilePattern := wp, captures := cs, beginCaptures := bcs,
      endCaptures := ecs, whileCaptures := wcs, applyEndPatternLast := al, appliesLineBreak := lb,
      disabled := ds, patterns := ps, repository := rp, extra := ex }, r =>
    rf == r.reference && nm == r.name && cn == r.contentName && mp == r.matchPattern &&
    bp == r.beginPattern && ep == r.endPattern && wp == r.whilePattern &&
    sameCaptures cs r.captures && sameCaptures bcs r.beginCaptures &&
    sameCaptures ecs r.endCaptures && sameCaptures wcs r.whileCaptures &&
    al == r.applyEndPatternLast && lb == r.appliesLineBreak && ds == r.disabled &&
    sameRules ps r.patterns && sameRepository rp r.repository && sameExtra ex r.extra
  termination_by structural a => a

/-- Equality of lists of rules. -/
def sameRules : List RuleSource → List RuleSource → Bool
  | [], [] => true
  | a :: as, b :: bs => a.same b && sameRules as bs
  | _, _ => false
  termination_by structural a => a

/-- Equality of captures. -/
def sameCaptures : List (Nat × RuleSource) → List (Nat × RuleSource) → Bool
  | [], [] => true
  | a :: as, b :: bs => sameCapture a b && sameCaptures as bs
  | _, _ => false
  termination_by structural a => a

/-- Equality of numbered rules. -/
def sameCapture : Nat × RuleSource → Nat × RuleSource → Bool
  | (m, a), (n, b) => m == n && a.same b
  termination_by structural a => a

/-- Equality of repositories. -/
def sameRepository : List (String × RuleSource) → List (String × RuleSource) → Bool
  | [], [] => true
  | a :: as, b :: bs => sameNamed a b && sameRepository as bs
  | _, _ => false
  termination_by structural a => a

/-- Equality of named rules. -/
def sameNamed : String × RuleSource → String × RuleSource → Bool
  | (m, a), (n, b) => m == n && a.same b
  termination_by structural a => a

end

/-- Equality of grammars. -/
def GrammarSource.same (a b : GrammarSource) : Bool :=
  a.contributorNotes == b.contributorNotes && a.version == b.version && a.name == b.name &&
  a.scopeName == b.scopeName && a.fileTypes == b.fileTypes && a.uuid == b.uuid &&
  a.firstLineMatch == b.firstLineMatch && a.foldingStartMarker == b.foldingStartMarker &&
  a.foldingStopMarker == b.foldingStopMarker && sameRules a.patterns b.patterns &&
  sameRepository a.repository b.repository && sameExtra a.extra b.extra

end Source
end ScopeLexer
