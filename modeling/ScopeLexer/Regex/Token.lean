/-
# Tokens of a pattern

The smallest parts of a pattern outside brackets. What a part means may depend on the options in force
and on the groups opened before it: blanks and comments may or may not count, and a number after a
backslash is a reference only if it is small or so many groups are open.

Key definitions: `Token`, `Groups`, `scan`.
-/
import ScopeLexer.Regex.Bracket
import ScopeLexer.Regex.GroupName

namespace ScopeLexer
namespace Regex

/-- The smallest part of a pattern. -/
inductive Token where
  | stop
  | bar
  | openGroup
  | closeGroup
  | openBracket
  /-- A character that stands for itself. -/
  | char (n : Nat)
  /-- Characters named by their code points. -/
  | codes (ns : List Nat)
  | set (s : CharSet)
  | any (newline : Bool)
  | anchor (a : Anchor)
  | quantifier (min : Nat) (max : Option Nat) (greedy possessive : Bool)
  | backref (groups : List Nat) (byName : Bool) (level : Option Int)
  | call (target : CallTarget)
  | keep
  | lineBreak
  | segment
  deriving Inhabited, Repr

/-- The groups that have been opened so far. -/
structure Groups where
  opened : Nat := 0
  /-- The named ones, in the order of their opening. -/
  names : List (List Char × Nat) := []
  deriving Inhabited, Repr

/-- The numbers of the groups of a name. -/
def Groups.numbersOf (g : Groups) (name : List Char) : List Nat :=
  g.names.filterMap fun entry => if entry.1 = name then some entry.2 else none

/-! ### Blanks and comments -/

/-- What is being skipped. -/
inductive Skipping where
  | none
  | lineComment
  | groupComment
  | escapedComment

def isPatternBlank (c : Char) : Bool :=
  c == ' ' || c == '\t' || c == '\n' || c == '\r' || c == '\x0C'

/-- The text without the comments at its head, and without the blanks if the pattern is extended. -/
def skipIgnored (extended : Bool) : Skipping → List Char → Except Error (List Char)
  | .none, [] => .ok []
  | .none, '(' :: '?' :: '#' :: cs => skipIgnored extended .groupComment cs
  | .none, c :: cs =>
    if extended && isPatternBlank c then skipIgnored extended .none cs
    else if extended && c == '#' then skipIgnored extended .lineComment cs
    else .ok (c :: cs)
  | .lineComment, [] => .ok []
  | .lineComment, c :: cs =>
    if c = '\n' then skipIgnored extended .none cs else skipIgnored extended .lineComment cs
  | .groupComment, [] => .error .endInGroup
  | .groupComment, c :: cs =>
    if c = '\\' then skipIgnored extended .escapedComment cs
    else if c = ')' then skipIgnored extended .none cs
    else skipIgnored extended .groupComment cs
  | .escapedComment, [] => .error .endInGroup
  | .escapedComment, _ :: cs => skipIgnored extended .groupComment cs

/-! ### Quantifiers -/

/-- The greatest count that a quantifier may hold. -/
def maxRepeat : Nat := 100000

/-- A question mark after a quantifier makes it lazy; a plus makes it possessive if `plus` holds. -/
def quantifierTail (min : Nat) (max : Option Nat) (plus : Bool) (cs : List Char) :
    Token × List Char :=
  match cs with
  | '?' :: rest => (.quantifier min max false false, rest)
  | '+' :: rest => if plus then (.quantifier min max true true, rest)
    else (.quantifier min max true false, cs)
  | _ => (.quantifier min max true false, cs)

/-- A quantifier in braces, read after the opening brace; none if it is none. Bounds in the wrong order
are exchanged, and make it possessive. -/
def readInterval (cs : List Char) : Except Error (Option (Token × List Char)) :=
  let (low, lowCount, rest) := decimal cs
  if maxRepeat < low then .error .repeatTooMany
  else
    match rest with
    | ',' :: rest =>
      let (high, highCount, rest) := decimal rest
      if maxRepeat < high then .error .repeatTooMany
      else if lowCount = 0 ∧ highCount = 0 then .ok none
      else
        match rest with
        | '\x7d' :: rest =>
          if highCount = 0 then .ok (some (quantifierTail low none false rest))
          else if high < low then .ok (some (.quantifier high (some low) true true, rest))
          else .ok (some (quantifierTail low (some high) false rest))
        | _ => .ok none
    | '\x7d' :: rest =>
      if lowCount = 0 then .ok none else .ok (some (.quantifier low (some low) true false, rest))
    | _ => .ok none

/-! ### Escapes -/

/-- A reference that a number or a name makes. -/
def backrefToken (g : Groups) (r : Reference) (level : Option Int) : Except Error Token :=
  match r with
  | .name text =>
    match g.numbersOf text with
    | [] => .error (.unknownName text)
    | ns => .ok (.backref ns true level)
  | r =>
    match r.number? g.opened with
    | none => .error .invalidReference
    | some 0 => .error .invalidReference
    | some n => .ok (.backref [n] false level)

/-- A call of a group that a number or a name makes; `text` is how it is written. -/
def callToken (g : Groups) (r : Reference) (text : List Char) : Except Error Token :=
  match r with
  | .name name => .ok (.call (.name name))
  | r =>
    match r.number? g.opened with
    | none => .error (.unknownGroup text)
    | some n => .ok (.call (.number n text))

/-- The text before a rest, without the character that closes it. -/
def textBefore (cs rest : List Char) : List Char := cs.take (cs.length - rest.length - 1)

/-- The anchor that a letter after a backslash means. -/
def escapedAnchor? (o : Options) : Char → Option Anchor
  | 'A' => some .textStart
  | 'Z' => some .textEndOrLastNewline
  | 'z' => some .textEnd
  | 'G' => some .searchStart
  | 'b' => some (.wordEdge (o.narrows .word) false)
  | 'B' => some (.wordEdge (o.narrows .word) true)
  | 'y' => some (.segmentEdge o.wordSegments false)
  | 'Y' => some (.segmentEdge o.wordSegments true)
  | _ => none

/-- Whether a code point can stand in a text. -/
def checkText (ns : List Nat) : Except Error (List Nat) := do
  for n in ns do
    Bracket.checkCode n
  return ns

/-- The token that an escape for characters makes. -/
def escapeToken (e : Escape) (cs : List Char) : Except Error (Token × List Char) :=
  match e with
  | .code n => do return (.codes (← checkText [n]), cs)
  | .codes list => do return (.codes (← checkText (list.map (·.1))), cs)
  | .byte b => do
    let (n, rest) ← readBytes b cs
    return (.codes [n], rest)

/-- The token of a number after a backslash: a reference, a byte in octal, or a digit. -/
def numberToken (g : Groups) (c : Char) (cs : List Char) : Except Error (Token × List Char) :=
  let (n, _, rest) := decimal (c :: cs)
  if c = '0' then do
    let (e, rest) ← readOctal 2 cs
    escapeToken e rest
  else if n ≤ g.opened ∨ n ≤ 9 then .ok (.backref [n] false none, rest)
  else if c = '8' ∨ c = '9' then .ok (.char c.toNat, cs)
  else do
    let (e, rest) ← readOctal 3 (c :: cs)
    escapeToken e rest

/-- The token that a backslash and what follows make. -/
def scanEscape (o : Options) (g : Groups) (c : Char) (cs : List Char) :
    Except Error (Token × List Char) :=
  match CharClass.escaped? c, escapedAnchor? o c with
  | some (k, negated), _ => .ok (.set (o.setOf k negated), cs)
  | none, some a => .ok (.anchor a, cs)
  | none, none =>
    if c.isDigit then numberToken g c cs
    else
      match c, cs with
      | 'K', _ => .ok (.keep, cs)
      | 'R', _ => .ok (.lineBreak, cs)
      | 'X', _ => .ok (.segment, cs)
      | 'N', _ => .ok (.any false, cs)
      | 'O', _ => .ok (.any true, cs)
      | 'p', '\x7b' :: rest => do
        let (s, rest) ← readProperty false rest
        return (.set s, rest)
      | 'P', '\x7b' :: rest => do
        let (s, rest) ← readProperty true rest
        return (.set s, rest)
      | 'k', d :: rest =>
        if d = '<' ∨ d = '\'' then do
          let (r, level, rest) ← readLeveled (closerOf d) rest
          return (← backrefToken g r level, rest)
        else .ok (.char c.toNat, cs)
      | 'g', d :: rest =>
        if d = '<' ∨ d = '\'' then do
          let (r, after) ← readReference (closerOf d) rest
          return (← callToken g r (textBefore rest after), after)
        else .ok (.char c.toNat, cs)
      | _, _ => do
        match ← readEscape false (c :: cs) with
        | none => return (.char c.toNat, cs)
        | some (e, rest) => escapeToken e rest

/-- The first token of a pattern and what follows it. -/
def scan (o : Options) (g : Groups) (cs : List Char) : Except Error (Token × List Char) := do
  match ← skipIgnored o.extended .none cs with
  | [] => return (.stop, [])
  | ['\\'] => throw .endAtEscape
  | '\\' :: c :: cs => scanEscape o g c cs
  | '.' :: cs => return (.any o.dotAll, cs)
  | '*' :: cs => return quantifierTail 0 none true cs
  | '+' :: cs => return quantifierTail 1 none true cs
  | '?' :: cs => return quantifierTail 0 (some 1) true cs
  | '\x7b' :: cs =>
    match ← readInterval cs with
    | some found => return found
    | none => return (.char 0x7b, cs)
  | '|' :: cs => return (.bar, cs)
  | '(' :: cs => return (.openGroup, cs)
  | ')' :: cs => return (.closeGroup, cs)
  | '^' :: cs => return (.anchor .lineStart, cs)
  | '$' :: cs => return (.anchor .lineEnd, cs)
  | '[' :: cs => return (.openBracket, cs)
  | c :: cs => return (.char c.toNat, cs)

end Regex
end ScopeLexer
