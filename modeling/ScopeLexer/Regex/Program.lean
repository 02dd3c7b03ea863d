/-
# Patterns ready to be matched

A pattern that has been read is checked as a whole. Where a group has a name, those without one only
group, and the named ones are numbered anew. References must lead to groups, a call to one group; a
group may call itself only if some way out of it does not, and only after it has consumed something.
A look-behind holds no test that looks ahead. What passes is a program.

Key definitions: `Program`, `Program.ofPattern`, `compile`.
-/
import ScopeLexer.Regex.Parser

namespace ScopeLexer
namespace Regex

/-- A pattern that is ready to be matched: calls name groups by number, and look-behinds know how far
back they reach. -/
structure Program where
  node : Node
  /-- The number of groups that capture. -/
  groups : Nat
  /-- The nodes that calls point to, by number; the whole pattern is number 0. -/
  bodies : List (Nat × Node)
  deriving Inhabited, Repr

namespace Node

/-- The groups within a node, in the order of their opening. -/
def groupsWithin : Node → List (Nat × Node)
  | .seq a b => a.groupsWithin ++ b.groupsWithin
  | .alt a b => a.groupsWithin ++ b.groupsWithin
  | .loop _ _ _ body => body.groupsWithin
  | .group n named body => (n, .group n named body) :: body.groupsWithin
  | .scoped body => body.groupsWithin
  | .atomic body => body.groupsWithin
  | .ahead _ body => body.groupsWithin
  | .behind _ _ _ body => body.groupsWithin
  | .choose c t e => c.groupsWithin ++ t.groupsWithin ++ e.groupsWithin
  | .absent a b => a.groupsWithin ++ b.groupsWithin
  | .stopBefore a => a.groupsWithin
  | _ => []

/-- A node with each node that has no parts replaced; parts are visited in order. -/
def mapLeaves (f : Node → Except Error Node) : Node → Except Error Node
  | .seq a b => do return .seq (← a.mapLeaves f) (← b.mapLeaves f)
  | .alt a b => do return .alt (← a.mapLeaves f) (← b.mapLeaves f)
  | .loop lo hi g body => do return .loop lo hi g (← body.mapLeaves f)
  | .group n named body => do return .group n named (← body.mapLeaves f)
  | .scoped body => do return .scoped (← body.mapLeaves f)
  | .atomic body => do return .atomic (← body.mapLeaves f)
  | .ahead negative body => do return .ahead negative (← body.mapLeaves f)
  | .behind negative lo hi body => do return .behind negative lo hi (← body.mapLeaves f)
  | .choose c t e => do return .choose (← c.mapLeaves f) (← t.mapLeaves f) (← e.mapLeaves f)
  | .absent a b => do return .absent (← a.mapLeaves f) (← b.mapLeaves f)
  | .stopBefore a => do return .stopBefore (← a.mapLeaves f)
  | leaf => f leaf

/-- A node whose groups without a name only group, where `renumber` gives the new numbers. -/
def namedOnly (renumber : Nat → Nat) : Node → Node
  | .seq a b => .seq (a.namedOnly renumber) (b.namedOnly renumber)
  | .alt a b => .alt (a.namedOnly renumber) (b.namedOnly renumber)
  | .loop lo hi g body => .loop lo hi g (body.namedOnly renumber)
  | .group n named body =>
    if named then .group (renumber n) true (body.namedOnly renumber)
    else .scoped (body.namedOnly renumber)
  | .scoped body => .scoped (body.namedOnly renumber)
  | .atomic body => .atomic (body.namedOnly renumber)
  | .ahead negative body => .ahead negative (body.namedOnly renumber)
  | .behind negative lo hi body => .behind negative lo hi (body.namedOnly renumber)
  | .choose c t e =>
    .choose (c.namedOnly renumber) (t.namedOnly renumber) (e.namedOnly renumber)
  | .absent a b => .absent (a.namedOnly renumber) (b.namedOnly renumber)
  | .stopBefore a => .stopBefore (a.namedOnly renumber)
  | .backref ns byName fold level => .backref (ns.map renumber) byName fold level
  | .captured ns byName => .captured (ns.map renumber) byName
  | leaf => leaf

end Node

/-! ### References and calls -/

/-- References by number are refused where groups have names. -/
def namesOnly : Node → Except Error Node
  | .backref _ false _ _ => .error .numberedReference
  | .captured _ false => .error .numberedReference
  | n => .ok n

/-- References must lead to one of `count` groups. -/
def checkReference (count : Nat) : Node → Except Error Node
  | .backref ns byName fold level =>
    if ns.all (· ≤ count) then .ok (.backref ns byName fold level) else .error .invalidReference
  | .captured ns byName =>
    if ns.all (· ≤ count) then .ok (.captured ns byName) else .error .invalidReference
  | n => .ok n

/-- A call with the number of the group that it points to. -/
def resolveCall (g : Groups) (count : Nat) : Node → Except Error Node
  | .call (.number n text) =>
    if !g.names.isEmpty then .error .numberedReference
    else if count < n then .error (.unknownGroup text)
    else .ok (.call (.number n text))
  | .call (.name text) =>
    match g.numbersOf text with
    | [] => .error (.unknownName text)
    | [n] => .ok (.call (.number n text))
    | _ => .error (.ambiguousCall text)
  | n => .ok n

/-- The numbers of the groups that are called. -/
def Node.calls : Node → List Nat
  | .seq a b => a.calls ++ b.calls
  | .alt a b => a.calls ++ b.calls
  | .loop _ _ _ body => body.calls
  | .group _ _ body => body.calls
  | .scoped body => body.calls
  | .atomic body => body.calls
  | .ahead _ body => body.calls
  | .behind _ _ _ body => body.calls
  | .choose c t e => c.calls ++ t.calls ++ e.calls
  | .absent a b => a.calls ++ b.calls
  | .stopBefore a => a.calls
  | .call (.number n _) => [n]
  | _ => []

/-! ### Widths -/

/-- The widths of called groups, followed through at most `fuel` calls. -/
def calledWidth (bodies : List (Nat × Node)) : Nat → CallTarget → Nat × Node.Bound
  | 0, _ => (0, none)
  | fuel + 1, .number n _ =>
    match bodies.lookup n with
    | some body => body.width (calledWidth bodies fuel)
    | none => (0, none)
  | _, .name _ => (0, none)

/-- The widths of a node in a pattern with these groups. -/
def widthIn (bodies : List (Nat × Node)) (n : Node) : Nat × Node.Bound :=
  n.width (calledWidth bodies (bodies.length + 1))

/-! ### Recursion without end -/

/-- What is known of the way through a node to a group that calls itself: whether there is one, whether
there is no way around it, and whether nothing need be consumed before it. -/
structure Recursion where
  exist : Bool := false
  must : Bool := false
  endless : Bool := false
  deriving Inhabited, Repr, DecidableEq

namespace Recursion

/-- One part after the other. -/
def and (a b : Recursion) : Recursion :=
  ⟨a.exist || b.exist, a.must || b.must, a.endless || b.endless⟩

/-- One part or the other. -/
def or (a b : Recursion) : Recursion :=
  ⟨a.exist || b.exist, a.must && b.must, a.endless || b.endless⟩

end Recursion

/-- The ways through a node to the group `target`, where `enter` follows calls, `entered` are the
groups on the way and `head` tells that nothing has been consumed since the target began. -/
def recursionIn (bodies : List (Nat × Node)) (target : Nat)
    (enter : Nat → List Nat → Bool → Recursion) (entered : List Nat) (head : Bool) :
    Node → Recursion
  | .seq a b =>
    let first := recursionIn bodies target enter entered head a
    let head := head && (widthIn bodies a).1 == 0
    first.and (recursionIn bodies target enter entered head b)
  | .alt a b =>
    (recursionIn bodies target enter entered head a).or
      (recursionIn bodies target enter entered head b)
  | .loop lo hi _ body =>
    if hi = some 0 then {}
    else
      let r := recursionIn bodies target enter entered head body
      if lo = 0 then { r with must := false } else r
  | .group n _ body =>
    if entered.contains n then {}
    else if n = target then ⟨true, true, head⟩
    else recursionIn bodies target enter (n :: entered) head body
  | .scoped body => recursionIn bodies target enter entered head body
  | .atomic body => recursionIn bodies target enter entered head body
  | .ahead _ body => recursionIn bodies target enter entered head body
  | .behind _ _ _ body => recursionIn bodies target enter entered head body
  | .choose c t e =>
    let first := recursionIn bodies target enter entered head c
    let afterCond := head && (widthIn bodies c).1 == 0
    let taken := first.and (recursionIn bodies target enter entered afterCond t)
    let other := recursionIn bodies target enter entered head e
    ⟨taken.exist || other.exist, taken.must && other.must, taken.endless || other.endless⟩
  | .absent a b =>
    (recursionIn bodies target enter entered head a).and
      (recursionIn bodies target enter entered head b)
  | .stopBefore a => recursionIn bodies target enter entered head a
  | .call (.number n _) => enter n entered head
  | _ => {}

/-- The ways to a group through a call, followed through at most `fuel` calls. -/
def recursionThrough (bodies : List (Nat × Node)) (target : Nat) :
    Nat → Nat → List Nat → Bool → Recursion
  | 0, _, _, _ => {}
  | fuel + 1, n, entered, head =>
    if entered.contains n then {}
    else if n = target then ⟨true, true, head⟩
    else
      match bodies.lookup n with
      | some (.group _ _ body) =>
        recursionIn bodies target (recursionThrough bodies target fuel) (n :: entered) head body
      | some body =>
        recursionIn bodies target (recursionThrough bodies target fuel) (n :: entered) head body
      | none => {}

/-- Whether a group calls itself without an end. -/
def recursesEndlessly (bodies : List (Nat × Node)) (target : Nat) : Bool :=
  let enter := recursionThrough bodies target (bodies.length + 1)
  let r := match bodies.lookup target with
    | some (.group _ _ body) => recursionIn bodies target enter [] true body
    | some body => recursionIn bodies target enter [] true body
    | none => {}
  r.must || r.endless

/-! ### Look-behind -/

/-- The farthest that a look-behind of bounded width may reach. -/
def maxBehind : Nat := 65535

/-- Whether a test may stand in a look-behind. -/
def Anchor.isBehindSafe : Anchor → Bool
  | .textEnd | .textEndOrLastNewline => false
  | _ => true

/-- Whether a node may stand in a look-behind. A negative one holds no group that captures; only a
negative one holds another negative one. -/
def Node.isBehindSafe (negative : Bool) : Node → Bool
  | .anchor a => a.isBehindSafe
  | .seq a b => a.isBehindSafe negative && b.isBehindSafe negative
  | .alt a b => a.isBehindSafe negative && b.isBehindSafe negative
  | .loop _ _ _ body => body.isBehindSafe negative
  | .group _ _ body => !negative && body.isBehindSafe negative
  | .scoped body => body.isBehindSafe negative
  | .atomic body => body.isBehindSafe negative
  | .ahead _ _ => false
  | .behind inner _ _ body => (negative || !inner) && body.isBehindSafe negative
  | .choose c t e =>
    c.isBehindSafe negative && t.isBehindSafe negative && e.isBehindSafe negative
  | .absent a b => a.isBehindSafe negative && b.isBehindSafe negative
  | .stopBefore _ | .clearStop => false
  | _ => true

/-- A node whose look-behinds know how far back they reach. -/
def placeBehinds (bodies : List (Nat × Node)) : Node → Except Error Node
  | .seq a b => do return .seq (← placeBehinds bodies a) (← placeBehinds bodies b)
  | .alt a b => do return .alt (← placeBehinds bodies a) (← placeBehinds bodies b)
  | .loop lo hi g body => do return .loop lo hi g (← placeBehinds bodies body)
  | .group n named body => do return .group n named (← placeBehinds bodies body)
  | .scoped body => do return .scoped (← placeBehinds bodies body)
  | .atomic body => do return .atomic (← placeBehinds bodies body)
  | .ahead negative body => do return .ahead negative (← placeBehinds bodies body)
  | .behind negative _ _ body =>
    if !body.isBehindSafe negative then .error .lookBehind
    else do
      let body := (← placeBehinds bodies body).oneForOne
      let (lo, hi) := widthIn bodies body
      let tooFar := match hi with
        | some n => maxBehind < n
        | none => false
      if maxBehind < lo ∨ tooFar = true then throw .lookBehind
      return .behind negative lo hi body
  | .choose c t e => do
    return .choose (← placeBehinds bodies c) (← placeBehinds bodies t) (← placeBehinds bodies e)
  | .absent a b => do return .absent (← placeBehinds bodies a) (← placeBehinds bodies b)
  | .stopBefore a => do return .stopBefore (← placeBehinds bodies a)
  | leaf => .ok leaf

/-! ### Programs -/

/-- The groups with the named ones alone, numbered in their order. -/
def Groups.namedOnly (g : Groups) : Groups × (Nat → Nat) :=
  let numbers := g.names.map (·.2)
  let renumber (n : Nat) := (numbers.takeWhile (· ≠ n)).length + 1
  ({ opened := numbers.length, names := g.names.map fun e => (e.1, renumber e.2) }, renumber)

namespace Program

/-- The program of a pattern. -/
def ofPattern (p : Pattern) : Except Error Program := do
  let (node, groups) ←
    if p.groups.names.isEmpty then pure (p.node, p.groups)
    else do
      let node ← p.node.mapLeaves namesOnly
      let (groups, renumber) := p.groups.namedOnly
      pure (node.namedOnly renumber, groups)
  let node ← node.mapLeaves (checkReference groups.opened)
  let node ← node.mapLeaves (resolveCall groups groups.opened)
  let bodies := (0, node) :: node.groupsWithin
  let called := node.calls
  if bodies.any fun entry => called.contains entry.1 && recursesEndlessly bodies entry.1 then
    throw .endlessRecursion
  let node ← placeBehinds bodies node
  return { node := node, groups := groups.opened, bodies := (0, node) :: node.groupsWithin }

end Program

/-- Read a pattern and check it. -/
def compile (cs : List Char) : Except Error Program := do
  Program.ofPattern (← parse cs)

end Regex
end ScopeLexer
