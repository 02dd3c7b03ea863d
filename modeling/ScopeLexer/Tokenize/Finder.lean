/-
# Finding what comes next

Within a rule the candidates are searched from a position on, each on its own, and the match that begins
first counts; of several that begin at the same place, the first in order. The end of a span comes first,
or last if its rule asks for it. A finder answers the questions of tokenizing, in a monad in which it may
remember what it has worked out.

Key definitions: `Candidate`, `Found`, `best`, `Finder`, `Means`, `Finder.through`.
-/
import ScopeLexer.Grammar.Candidates
import ScopeLexer.Tokenize.Options
import ScopeLexer.Tokenize.Stack

namespace ScopeLexer

open Regex (Captures Cursor)

/-- What a match was found for. -/
inductive Candidate where
  /-- The end of the span. -/
  | stop
  | rule (id : RuleId)
  deriving Inhabited, Repr, DecidableEq

/-- A match of a candidate. -/
structure Found where
  candidate : Candidate
  start : Nat
  stop : Nat
  captures : Captures
  deriving Inhabited, Repr, DecidableEq

/-- The match of a candidate with some captures, if the pattern took part. -/
def Found.ofCaptures (candidate : Candidate) (captures : Captures) : Option Found :=
  match captures with
  | some (start, stop) :: _ => some ⟨candidate, start, stop, captures⟩
  | _ => none

/-- The best match so far or a new one; the new one only if it begins earlier. -/
def Found.better (found : Option Found) (new : Found) : Found :=
  match found with
  | none => new
  | some old => if old.start ≤ new.start then old else new

/-- The best match among the candidates, from an offset on: nothing begins before it, so a match there
ends the search. -/
def best {α : Type} (search : α → Option Captures) (pos : Nat) :
    Option Found → List (Candidate × α) → Option Found
  | found, [] => found
  | found, (candidate, p) :: rest =>
    match (search p).bind (Found.ofCaptures candidate) with
    | none => best search pos found rest
    | some new =>
      let found := Found.better found new
      if found.start = pos ∧ new.start = pos then some found
      else best search pos (some found) rest

/-- A search: the captures of the first match of a pattern at or after a cursor, with some anchors. -/
abbrev Search := Pattern → Anchors → Cursor → Option Captures

/-- The search of patterns within the limits of a tokenizer. -/
def Options.search (o : Options) : Search := fun p a c => p.search a c o.retryLimit

/-- What tokenizing asks. -/
structure Finder (m : Type → Type) where
  /-- The match that comes next within a frame. -/
  next : Frame → Cursor → Anchors → m (Option Found)
  /-- The first match of the pattern that continues the span of a frame. -/
  continues : Frame → Cursor → Anchors → m (Option Captures)
  /-- Whether the time of the line is over. -/
  timeIsOver : m Bool

/-- The candidates of a frame in the order in which they are tried: `entries` are those of its rule, and
`closing` is the pattern that ends its span. -/
def Grammar.ordered (g : Grammar) (closing : Option Pattern) (endLast : Bool)
    (entries : List Entry) : List (Candidate × Pattern) :=
  let children := entries.map fun e => (Candidate.rule e.1, g.pattern e.2)
  let stop := closing.toList.map fun p => (Candidate.stop, p)
  if endLast then children ++ stop else stop ++ children

/-- Whether the end of the span of a rule is tried last. -/
def Rule.endLast : Rule → Bool
  | .beginEnd r => r.endLast
  | _ => false

/-- The pattern of the grammar that ends the span of a rule. -/
def Rule.closing? : Rule → Option PatternId
  | .beginEnd r => some r.closing
  | _ => none

/-- The rules for the groups of the match that ends the span of a rule. -/
def Rule.endCaptures : Rule → CaptureRules
  | .beginEnd r => r.closingCaptures
  | _ => []

/-- The pattern of the grammar that continues the span of a rule. -/
def Rule.continuing? : Rule → Option PatternId
  | .beginWhile r => some r.closing
  | _ => none

/-- The pattern in force for a frame: the one made from captured text, or else the one of its rule. `made`
gives the pattern of a text. -/
def Frame.inForce {m : Type → Type} [Monad m] (f : Frame) (g : Grammar)
    (made : String → m Pattern) (own : Option PatternId) : m (Option Pattern) :=
  match own with
  | none => return none
  | some id =>
    match f.endPattern with
    | some text => do
      let p ← made text
      return some p
    | none => return some (g.pattern id)

/-- What a finder works with: a search, a clock, and what gives the entries of rules and the patterns of
texts. -/
structure Means (m : Type → Type) where
  search : Search
  /-- Whether the time of the line is over. -/
  timeIsOver : m Bool
  entries : RuleId → m (List Entry)
  made : String → m Pattern

namespace Finder

/-- A finder that works with what it is given. -/
@[specialize] def through {m : Type → Type} [Monad m] (g : Grammar) (w : Means m) : Finder m where
  next f c a := do
    let rule := g.rule f.rule
    let closing ← f.inForce g w.made rule.closing?
    let es ← w.entries f.rule
    return best (fun p => w.search p a c) c.offset none (g.ordered closing rule.endLast es)
  continues f c a := do
    let rule := g.rule f.rule
    match ← f.inForce g w.made rule.continuing? with
    | some p => return w.search p a c
    | none => return none
  timeIsOver := w.timeIsOver

end Finder

/-- Means that work everything out anew. -/
def Means.direct (g : Grammar) (o : Options) : Means Id where
  search := o.search
  timeIsOver := pure o.timeIsOver
  entries id := pure (g.candidates id)
  made text := pure (Pattern.ofText text)

end ScopeLexer
