/-
# YAML scalars

A scalar is a text in one of five styles. The lines of a plain or quoted scalar are folded: a single
line break is read as a blank, and of several the first is left out. A block scalar keeps its line
breaks, or folds those between lines that are not indented; what becomes of the breaks at its end is
written at its head.

Key definitions: `Style`, `readQuoted`, `readPlain`, `readBlock`.
-/
import ScopeLexer.Text.Basic
import ScopeLexer.Yaml.Place

namespace ScopeLexer
namespace Yaml

/-- How a scalar is written. -/
inductive Style where
  | plain | single | double | literal | folded
  deriving Inhabited, Repr, DecidableEq

/-! ### Folding -/

/-- The white space in a scalar, before it is known what follows. -/
structure Gap where
  /-- The blanks before the first line break, last one first. -/
  blanks : List Char := []
  /-- Whether a line has ended. -/
  broken : Bool := false
  /-- The first line break. -/
  first : Option Char := none
  /-- The other line breaks, last one first. -/
  others : List Char := []

/-- What a gap is read as. -/
def Gap.text (g : Gap) : List Char :=
  if g.broken then
    match g.first with
    | some '\n' => if g.others.isEmpty then [' '] else g.others.reverse
    | some c => c :: g.others.reverse
    | none => g.others.reverse
  else g.blanks.reverse

/-- White space from a place on. Fails at a tab that begins a line left of `margin`. -/
def readGap (margin : Nat) : Nat → Gap → Place → Option (Gap × Place)
  | 0, g, p => some (g, p)
  | fuel + 1, g, p =>
    match p.rest with
    | [] => some (g, p)
    | c :: _ =>
      if isBlank c then
        if g.broken then
          if c = '\t' ∧ p.column < margin then none else readGap margin fuel g (p.skip 1)
        else readGap margin fuel { g with blanks := c :: g.blanks } (p.skip 1)
      else
        match p.readBreak? with
        | some (b, q) =>
          if g.broken then readGap margin fuel { g with others := b :: g.others } q
          else readGap margin fuel { g with blanks := [], broken := true, first := some b } q
        | none => some (g, p)

/-! ### Quoted scalars -/

/-- The character that an escape with a number stands for. -/
def numbered? (digits : Nat) (cs : List Char) : Option (Char × Nat) :=
  match Text.hexValue? digits 0 cs with
  | some n =>
    if n > 0x10ffff ∨ (0xd800 ≤ n ∧ n ≤ 0xdfff) then none else some (Char.ofNat n, 2 + digits)
  | none => none

/-- The character that an escape after a backslash stands for, and its length with the backslash. -/
def escape? : List Char → Option (Char × Nat)
  | '0' :: _ => some ('\x00', 2)
  | 'a' :: _ => some ('\x07', 2)
  | 'b' :: _ => some ('\x08', 2)
  | 't' :: _ => some ('\t', 2)
  | '\t' :: _ => some ('\t', 2)
  | 'n' :: _ => some ('\n', 2)
  | 'v' :: _ => some ('\x0b', 2)
  | 'f' :: _ => some ('\x0c', 2)
  | 'r' :: _ => some ('\r', 2)
  | 'e' :: _ => some ('\x1b', 2)
  | ' ' :: _ => some (' ', 2)
  | '"' :: _ => some ('"', 2)
  | '/' :: _ => some ('/', 2)
  | '\\' :: _ => some ('\\', 2)
  | 'N' :: _ => some ('\u0085', 2)
  | '_' :: _ => some ('\u00a0', 2)
  | 'L' :: _ => some ('\u2028', 2)
  | 'P' :: _ => some ('\u2029', 2)
  | 'x' :: cs => numbered? 2 cs
  | 'u' :: cs => numbered? 4 cs
  | 'U' :: cs => numbered? 8 cs
  | _ => none

/-- What a step within quotes comes to. -/
inductive QuotedStep where
  /-- A character of the scalar. -/
  | char (c : Char) (next : Place)
  /-- A line break that does not count. -/
  | joined (next : Place)
  /-- White space or the closing quote. -/
  | pause

/-- The next step within quotes. -/
def quotedStep (double : Bool) (p : Place) : Option QuotedStep :=
  match p.rest with
  | [] => some .pause
  | c :: cs =>
    if isBlank c || isBreak c then some .pause
    else if double then
      if c = '"' then some .pause
      else if c = '\\' then
        match cs with
        | [] => none
        | d :: _ =>
          if isBreak d then some (.joined (p.skip 1).skipBreak)
          else (escape? cs).map fun e => .char e.1 (p.skip e.2)
      else some (.char c (p.skip 1))
    else
      match c, cs with
      | '\'', '\'' :: _ => some (.char '\'' (p.skip 2))
      | '\'', _ => some .pause
      | _, _ => some (.char c (p.skip 1))

/-- A quoted scalar after its opening quote: `text` is what has been read, last character first. -/
def quotedFrom (double : Bool) : Nat → List Char → Place → Option (List Char × Place)
  | 0, _, _ => none
  | fuel + 1, text, p =>
    if p.atMarker then none
    else
      match quotedStep double p with
      | none => none
      | some (.char c q) => quotedFrom double fuel (c :: text) q
      | some (.joined q) =>
        match readGap 0 (q.bound + 1) { broken := true } q with
        | some (g, q) => quotedFrom double fuel (g.text.reverse ++ text) q
        | none => none
      | some .pause =>
        match p.rest with
        | [] => none
        | c :: _ =>
          if isBlank c || isBreak c then
            match readGap 0 (p.bound + 1) {} p with
            | some (g, q) => quotedFrom double fuel (g.text.reverse ++ text) q
            | none => none
          else some (text.reverse, p.skip 1)

/-- A quoted scalar, from its opening quote on. -/
def readQuoted (double : Bool) (p : Place) : Option (List Char × Place) :=
  quotedFrom double (p.bound + 1) [] (p.skip 1)

/-! ### Plain scalars -/

def isFlowMark (c : Char) : Bool := c == ',' || c == '[' || c == ']' || c == '\x7b' || c == '\x7d'

/-- A plain scalar: its text, the place after it, and whether a line has ended after it. -/
structure Plain where
  text : List Char
  place : Place
  broken : Bool

/-- A plain scalar from a place on: `text` is what has been read, last character first, and `gap` the
white space before the place. -/
def plainFrom (flow : Bool) (margin : Nat) : Nat → List Char → Gap → Place → Option Plain
  | 0, _, _, _ => none
  | fuel + 1, text, gap, p =>
    let done : Option Plain := some ⟨text.reverse, p, gap.broken⟩
    match p.rest with
    | [] => done
    | c :: cs =>
      if isBlank c || isBreak c then
        match readGap margin (p.bound + 1) gap p with
        | none => none
        | some (g, q) =>
          if !flow && q.column < margin then some ⟨text.reverse, q, g.broken⟩
          else if q.atMarker || q.rest.head? == some '#' then some ⟨text.reverse, q, g.broken⟩
          else
            match q.rest with
            | [] => some ⟨text.reverse, q, g.broken⟩
            | _ :: _ => plainFrom flow margin fuel text g q
      else
        let marked := match cs with
          | d :: _ => isFlowMark d || d == '?'
          | [] => false
        if flow && c == ':' && marked then none
        else if (c == ':' && blankAhead cs) || (flow && isFlowMark c) then done
        else plainFrom flow margin fuel (c :: (gap.text.reverse ++ text)) {} (p.skip 1)

/-- A plain scalar. Within flow brackets some marks end it; otherwise its lines begin at `margin` or
further right. -/
def readPlain (flow : Bool) (margin : Nat) (p : Place) : Option Plain :=
  plainFrom flow margin (2 * p.bound + 1) [] {} p

/-! ### Block scalars -/

/-- What becomes of the line breaks at the end of a block scalar. -/
inductive Chomping where
  | strip | clip | keep
  deriving Inhabited, Repr, DecidableEq

/-- The head of a block scalar: how its end is treated, and how far it is indented, if that is
written. -/
def blockHead? (p : Place) : Option (Chomping × Nat × Place) :=
  let chomping? (p : Place) : Option (Chomping × Place) := match p.rest with
    | '+' :: _ => some (.keep, p.skip 1)
    | '-' :: _ => some (.strip, p.skip 1)
    | _ => none
  let digit? (p : Place) : Option (Nat × Place) := match p.rest with
    | c :: _ =>
      if c = '0' then none
      else if c.isDigit then some (c.toNat - 48, p.skip 1)
      else some (0, p)
    | [] => some (0, p)
  match chomping? p with
  | some (c, p) => (digit? p).map fun r => (c, r.1, r.2)
  | none =>
    match digit? p with
    | none => none
    | some (0, p) => some (.clip, 0, p)
    | some (n, p) =>
      match chomping? p with
      | some (c, p) => some (c, n, p)
      | none => some (.clip, n, p)

/-- Indentation and empty lines: the line breaks, last one first, the widest indentation, and the place
of the first line that is not empty. An indentation of zero is not known yet. -/
def readIndentation (indent : Nat) :
    Nat → List Char → Nat → Place → Option (List Char × Nat × Place)
  | 0, breaks, widest, p => some (breaks, widest, p)
  | fuel + 1, breaks, widest, p =>
    let blanks := (p.rest.takeWhile (· == ' ')).length
    let p := p.skip (if indent = 0 then blanks else min blanks (indent - p.column))
    let widest := max widest p.column
    if (indent = 0 ∨ p.column < indent) ∧ p.rest.head? = some '\t' then none
    else
      match p.readBreak? with
      | some (b, q) => readIndentation indent fuel (b :: breaks) widest q
      | none => some (breaks, widest, p)

/-- The lines of a block scalar: `text` is what has been read, `first` the break of the last line and
`others` those of the empty lines after it, each last character first. -/
def blockFrom (folded : Bool) (indent : Nat) :
    Nat → List Char → Option Char → List Char → Bool → Place →
    Option (List Char × Option Char × List Char × Place)
  | 0, text, first, others, _, p => some (text, first, others, p)
  | fuel + 1, text, first, others, blankBefore, p =>
    if p.column = indent ∧ p.rest ≠ [] then
      let blank := match p.rest with
        | c :: _ => isBlank c
        | [] => false
      let joint :=
        if folded && first == some '\n' && !blankBefore && !blank then
          if others.isEmpty then [' '] else []
        else first.toList
      let (line, q) := p.take fun c => !isBreak c
      let text := line.reverse ++ others ++ joint ++ text
      let (first, q) := match q.readBreak? with
        | some (b, q) => (some b, q)
        | none => (none, q)
      match readIndentation indent (q.bound + 1) [] 0 q with
      | some (others, _, q) => blockFrom folded indent fuel text first others blank q
      | none => none
    else some (text, first, others, p)

/-- A block scalar, from its indicator on, in a collection whose content begins at `margin` or further
right. -/
def readBlock (folded : Bool) (margin : Nat) (p : Place) : Option (List Char × Place) := do
  let (chomping, step, p) ← blockHead? (p.skip 1)
  let p ← p.endOfLine?
  let indent := if step = 0 then 0 else if margin = 0 then step else margin - 1 + step
  let (breaks, widest, p) ← readIndentation indent (p.bound + 1) [] 0 p
  let indent := if indent = 0 then max (max widest margin) 1 else indent
  let (text, first, others, p) ← blockFrom folded indent (p.bound + 1) [] none breaks false p
  let text := if chomping = .strip then text else first.toList ++ text
  let text := if chomping = .keep then others ++ text else text
  return (text.reverse, p)

end Yaml
end ScopeLexer
