/-
# Regular expressions

The tree of a regular expression. A node stands for what may be matched at a position; captures,
back references, calls, look-around, atomic groups, conditions and absent ranges are nodes of their
own. Options such as case folding are resolved when the tree is built, so that a node alone decides
what it matches.

Key definitions: `Node`, `Anchor`, `Node.width`, `Node.oneForOne`.
-/
import ScopeLexer.Regex.CharSet
import ScopeLexer.Regex.Error

namespace ScopeLexer
namespace Regex

/-- How letters are compared. -/
inductive Fold where
  /-- Every character as it is. -/
  | exact
  /-- Full case folding: one character may stand for several. -/
  | full
  /-- Case folding of one character for one. -/
  | simple
  /-- Case folding of the first 128 code points. -/
  | ascii
  deriving Inhabited, Repr, DecidableEq

/-- A test on a position. -/
inductive Anchor where
  | textStart
  | textEnd
  | textEndOrLastNewline
  | lineStart
  | lineEnd
  | searchStart
  | wordEdge (ascii : Bool) (negated : Bool)
  | segmentEdge (words : Bool) (negated : Bool)
  deriving Inhabited, Repr, DecidableEq

/-- A directive to the search that matches no text. -/
inductive Directive where
  /-- Go back to the last choice. -/
  | fail
  /-- Give up this start. -/
  | giveUp
  /-- Give up the search. -/
  | stop
  /-- After a failure, search on from here. -/
  | skip
  /-- Succeed at most `limit` times on the current path; `id` tells the counters apart. -/
  | atMost (id limit : Nat)
  /-- Do nothing. -/
  | pass
  deriving Inhabited, Repr, DecidableEq

/-- What a call points to. -/
inductive CallTarget where
  | number (n : Nat) (text : List Char)
  | name (text : List Char)
  deriving Inhabited, Repr, DecidableEq

/-- A regular expression. -/
inductive Node where
  | empty
  | literal (codes : List Nat) (fold : Fold)
  | set (s : CharSet)
  | any (newline : Bool)
  | anchor (a : Anchor)
  | seq (a b : Node)
  | alt (a b : Node)
  | loop (min : Nat) (max : Option Nat) (greedy : Bool) (body : Node)
  | group (number : Nat) (named : Bool) (body : Node)
  | scoped (body : Node)
  | atomic (body : Node)
  | ahead (negative : Bool) (body : Node)
  | behind (negative : Bool) (min : Nat) (max : Option Nat) (body : Node)
  | backref (groups : List Nat) (byName : Bool) (fold : Fold) (level : Option Int)
  | captured (groups : List Nat) (byName : Bool)
  | choose (cond thn els : Node)
  | call (target : CallTarget)
  | keep
  | absent (unwanted body : Node)
  | stopBefore (unwanted : Node)
  | clearStop
  | directive (d : Directive)
  deriving Inhabited, Repr, DecidableEq

namespace Node

/-- One node after the other; text beside text of the same fold is one literal. -/
def join : Node → Node → Node
  | .literal xs f, .literal ys g =>
    if f = g then .literal (xs ++ ys) f else .seq (.literal xs f) (.literal ys g)
  | .literal xs f, .seq (.literal ys g) rest =>
    if f = g then .seq (.literal (xs ++ ys) f) rest
    else .seq (.literal xs f) (.seq (.literal ys g) rest)
  | a, b => .seq a b

/-- The nodes of a list, one after the other. -/
def sequence : List Node → Node
  | [] => .empty
  | [n] => n
  | n :: ns => join n (sequence ns)

/-- The nodes of a list as alternatives, the first one preferred. -/
def alternatives : List Node → Node
  | [] => .empty
  | [n] => n
  | n :: ns => .alt n (alternatives ns)

/-- A number of characters, none for no bound. -/
abbrev Bound := Option Nat

def Bound.add : Bound → Bound → Bound
  | some a, some b => some (a + b)
  | _, _ => none

def Bound.mul : Bound → Bound → Bound
  | some 0, _ => some 0
  | _, some 0 => some 0
  | some a, some b => some (a * b)
  | _, _ => none

def Bound.max : Bound → Bound → Bound
  | some a, some b => some (Nat.max a b)
  | _, _ => none

/-- The least and the greatest number of characters that a node matches, where `called` gives those
of the groups that calls point to. -/
def width (called : CallTarget → Nat × Bound) : Node → Nat × Bound
  | .empty => (0, some 0)
  | .literal codes _ => (codes.length, some codes.length)
  | .set _ => (1, some 1)
  | .any _ => (1, some 1)
  | .anchor _ => (0, some 0)
  | .seq a b =>
    let (x, y) := a.width called
    let (u, v) := b.width called
    (x + u, Bound.add y v)
  | .alt a b =>
    let (x, y) := a.width called
    let (u, v) := b.width called
    (min x u, Bound.max y v)
  | .loop lo hi _ body =>
    let (x, y) := body.width called
    (lo * x, Bound.mul hi y)
  | .group _ _ body => body.width called
  | .scoped body => body.width called
  | .atomic body => body.width called
  | .ahead _ _ => (0, some 0)
  | .behind _ _ _ _ => (0, some 0)
  | .backref _ _ _ _ => (0, none)
  | .captured _ _ => (0, some 0)
  | .choose cond thn els =>
    let (w, m) := cond.width called
    let (x, y) := thn.width called
    let (u, v) := els.width called
    (min (w + x) u, Bound.max (Bound.add m y) v)
  | .call target => called target
  | .keep => (0, some 0)
  | .absent _ body => (0, (body.width called).2)
  | .stopBefore _ => (0, some 0)
  | .clearStop => (0, some 0)
  | .directive _ => (0, some 0)

/-- The node with every literal compared one character for one. -/
def oneForOne : Node → Node
  | .literal codes .full => .literal codes .simple
  | .seq a b => .seq a.oneForOne b.oneForOne
  | .alt a b => .alt a.oneForOne b.oneForOne
  | .loop lo hi g body => .loop lo hi g body.oneForOne
  | .group n named body => .group n named body.oneForOne
  | .scoped body => .scoped body.oneForOne
  | .atomic body => .atomic body.oneForOne
  | .choose c t e => .choose c.oneForOne t.oneForOne e.oneForOne
  | node => node

end Node
end Regex
end ScopeLexer
