/-
# YAML tokens

A text is cut into tokens. Indentation gives tokens as brackets do: a block collection begins where its
first entry stands further right than the collection around it, and ends where a line stands further
left. That a token is the key of a map is known only when the colon after it is met, so every token that
could be one is kept as a candidate for a key, one on each level of brackets; the tokens that tell of the
key are put before it then.

A token is handed out when nothing can be put before it any more. Where the text is not well formed, the
tokens handed out so far are what there is.

Key definitions: `Token`, `Scan`, `Scan.fetch?`, `tokens`.
-/
import ScopeLexer.Yaml.Tag

namespace ScopeLexer
namespace Yaml

/-- A token. -/
inductive Token where
  | directive (d : Directive)
  | documentStart | documentEnd | streamEnd
  | blockSequence | blockMapping | blockEnd
  | flowSequence | flowMapping | flowSequenceEnd | flowMappingEnd
  | entry | separator | key | value
  | anchor (name : List Char)
  | alias (name : List Char)
  | tag (t : Tag)
  | scalar (text : List Char) (style : Style)
  deriving Inhabited, Repr, DecidableEq

/-- A token that may be a key: its number, and its place. -/
structure Candidate where
  number : Nat
  index : Nat
  line : Nat
  column : Nat
  /-- Whether nothing but a key can stand there. -/
  required : Bool
  deriving Inhabited, Repr

/-- Where cutting into tokens stands. -/
structure Scan where
  place : Place
  tokens : Array Token := #[]
  /-- The column after that of the innermost block collection; zero outside of all. -/
  margin : Nat := 0
  /-- The margins of the block collections around it, inner ones first. -/
  margins : List Nat := []
  /-- The candidate on the innermost level of brackets. -/
  candidate : Option Candidate := none
  /-- The candidates on the levels around it, inner ones first. -/
  outer : List (Option Candidate) := []
  /-- Whether a key may begin here. -/
  keyAllowed : Bool := true
  deriving Inhabited

namespace Scan

def inFlow (s : Scan) : Bool := !s.outer.isEmpty

def push (s : Scan) (t : Token) : Scan := { s with tokens := s.tokens.push t }

/-- A token of some characters. -/
def mark (s : Scan) (t : Token) (width : Nat) : Scan :=
  { s.push t with place := s.place.skip width }

/-! ### Candidates -/

/-- Whether a candidate has become too long: a key stands in one line and is short. -/
def outlived (p : Place) (c : Candidate) : Bool := c.line < p.line || c.index + 1024 < p.index

/-- Gives up a candidate; one that is required cannot be given up. -/
def drop? (p : Place) : Option Candidate → Option (Option Candidate)
  | none => some none
  | some c => if outlived p c then if c.required then none else some none else some (some c)

/-- Gives up the candidates that have become too long. -/
def refresh? (s : Scan) : Option Scan := do
  let outer ← s.outer.mapM (drop? s.place)
  let candidate ← drop? s.place s.candidate
  return { s with outer := outer, candidate := candidate }

/-- Gives up the candidate of the innermost level. -/
def forget? (s : Scan) : Option Scan :=
  match s.candidate with
  | some c => if c.required then none else some { s with candidate := none }
  | none => some s

/-- Makes the next token a candidate, if a key may begin here. -/
def offer? (s : Scan) : Option Scan :=
  if s.keyAllowed then
    let c : Candidate :=
      { number := s.tokens.size, index := s.place.index, line := s.place.line,
        column := s.place.column, required := !s.inFlow && s.margin == s.place.column + 1 }
    s.forget?.map fun s => { s with candidate := some c }
  else some s

/-- Whether some token that may be a key has a number. -/
def awaits (s : Scan) (number : Nat) : Bool :=
  (s.candidate :: s.outer).any fun c => c.any fun c => c.number == number

/-! ### Indentation -/

/-- Begins a block collection at a column, if that is further right; its token gets a number. -/
def indent (s : Scan) (column number : Nat) (t : Token) : Scan :=
  if s.inFlow || column + 1 ≤ s.margin then s
  else
    { s with tokens := s.tokens.insertIdxIfInBounds number t, margin := column + 1,
             margins := s.margin :: s.margins }

/-- Ends the block collections with a margin further right, given the margins around them. -/
def dedentTo (margin : Nat) : List Nat → Scan → Scan
  | outer :: rest, s =>
    if margin < s.margin then
      dedentTo margin rest { s with tokens := s.tokens.push .blockEnd, margin := outer, margins := rest }
    else s
  | [], s => s

/-- Ends the block collections with a margin further right. -/
def dedent (s : Scan) (margin : Nat) : Scan :=
  if s.inFlow then s else dedentTo margin s.margins s

/-! ### Tokens by their first character -/

/-- Goes on to the next token, past white space and comments. -/
def toToken : Nat → Scan → Scan
  | 0, s => s
  | fuel + 1, s =>
    let p := if s.place.index == 0 && s.place.rest.head? == some '\ufeff' then s.place.skip 1
      else s.place
    let p := p.skipAll fun c => c == ' ' || (c == '\t' && (s.inFlow || !s.keyAllowed))
    let p := match p.rest with
      | '#' :: _ => p.skipAll fun c => !isBreak c
      | _ => p
    match p.readBreak? with
    | some (_, q) => toToken fuel { s with place := q, keyAllowed := s.keyAllowed || !s.inFlow }
    | none => { s with place := p }

/-- The end of the text. -/
def finish? (s : Scan) : Option Scan := do
  let s ← (s.dedent 0).forget?
  return { s with tokens := s.tokens.push .streamEnd, keyAllowed := false }

/-- A marker of a document. -/
def documentMark? (s : Scan) (t : Token) : Option Scan := do
  let s ← (s.dedent 0).forget?
  return { s.mark t 3 with keyAllowed := false }

def directive? (s : Scan) : Option Scan := do
  let s ← (s.dedent 0).forget?
  let (d, p) ← readDirective s.place
  return { s.push (.directive d) with place := p, keyAllowed := false }

/-- An opening bracket. -/
def opening? (s : Scan) (t : Token) : Option Scan := do
  let s ← s.offer?
  return { s.mark t 1 with outer := s.candidate :: s.outer, candidate := none, keyAllowed := true }

/-- A closing bracket. -/
def closing? (s : Scan) (t : Token) : Option Scan := do
  let s ← s.forget?
  let s := match s.outer with
    | c :: rest => { s with candidate := c, outer := rest }
    | [] => s
  return { s.mark t 1 with keyAllowed := false }

/-- A comma. -/
def separator? (s : Scan) : Option Scan := do
  let s ← s.forget?
  return { s.mark .separator 1 with keyAllowed := true }

/-- A hyphen. -/
def entry? (s : Scan) : Option Scan := do
  if !s.inFlow && !s.keyAllowed then none
  else
    let s := s.indent s.place.column s.tokens.size .blockSequence
    let s ← s.forget?
    return { s.mark .entry 1 with keyAllowed := true }

/-- A question mark. -/
def key? (s : Scan) : Option Scan := do
  if !s.inFlow && !s.keyAllowed then none
  else
    let s := s.indent s.place.column s.tokens.size .blockMapping
    let s ← s.forget?
    return { s.mark .key 1 with keyAllowed := !s.inFlow }

/-- A colon: the candidate is a key. -/
def value? (s : Scan) : Option Scan :=
  match s.candidate with
  | some c =>
    let s := { s with tokens := s.tokens.insertIdxIfInBounds c.number .key }
    let s := s.indent c.column c.number .blockMapping
    some { s.mark .value 1 with candidate := none, keyAllowed := false }
  | none =>
    if !s.inFlow && !s.keyAllowed then none
    else
      let s := s.indent s.place.column s.tokens.size .blockMapping
      some { s.mark .value 1 with keyAllowed := !s.inFlow }

/-- A token that may be a key, with the place after it. -/
def node? (s : Scan) (t : Token) (p : Place) : Option Scan := do
  let s ← s.offer?
  return { s.push t with place := p, keyAllowed := false }

/-- A block scalar. -/
def block? (s : Scan) (folded : Bool) : Option Scan := do
  let s ← s.forget?
  let (text, p) ← readBlock folded s.margin s.place
  return { s.push (.scalar text (if folded then .folded else .literal)) with
           place := p, keyAllowed := true }

def quoted? (s : Scan) (double : Bool) : Option Scan := do
  let (text, p) ← readQuoted double s.place
  s.node? (.scalar text (if double then .double else .single)) p

/-- A plain scalar. If a line has ended after it, a key may follow. -/
def plain? (s : Scan) : Option Scan := do
  let r ← readPlain s.inFlow s.margin s.place
  let s ← s.node? (.scalar r.text .plain) r.place
  return { s with keyAllowed := r.broken }

/-- Whether a plain scalar may begin with some characters. -/
def startsPlain (flow : Bool) : List Char → Bool
  | [] => false
  | c :: cs =>
    let nextIsBlank := match cs with
      | d :: _ => isBlank d
      | [] => false
    !(isBlank c || isBreak c || ['-', '?', ':', ',', '[', ']', '\x7b', '\x7d', '#', '&', '*', '!',
      '|', '>', '\'', '"', '%', '@', '\x60'].contains c) ||
    (c == '-' && !nextIsBlank) || (!flow && (c == '?' || c == ':') && !blankAhead cs)

/-- The token at the place, by its first character. -/
def dispatch? (s : Scan) : Option Scan :=
  let p := s.place
  match p.rest with
  | [] => s.finish?
  | c :: cs =>
    if p.column = 0 ∧ c = '%' then s.directive?
    else if p.startsDocument then s.documentMark? .documentStart
    else if p.endsDocument then s.documentMark? .documentEnd
    else
      let blank := blankAhead cs
      match c with
      | '[' => s.opening? .flowSequence
      | '\x7b' => s.opening? .flowMapping
      | ']' => s.closing? .flowSequenceEnd
      | '\x7d' => s.closing? .flowMappingEnd
      | ',' => s.separator?
      | '*' => (readAnchor p).bind fun r => s.node? (.alias r.1) r.2
      | '&' => (readAnchor p).bind fun r => s.node? (.anchor r.1) r.2
      | '!' => (readTag s.inFlow p).bind fun r => s.node? (.tag r.1) r.2
      | '\'' => s.quoted? false
      | '"' => s.quoted? true
      | _ =>
        if c = '-' ∧ blank then s.entry?
        else if c = '?' ∧ (s.inFlow || blank) then s.key?
        else if c = ':' ∧ (s.inFlow || blank) then s.value?
        else if c = '|' ∧ !s.inFlow then s.block? false
        else if c = '>' ∧ !s.inFlow then s.block? true
        else if startsPlain s.inFlow p.rest then s.plain?
        else none

/-- One more token, with those that indentation gives before it. -/
def fetch? (s : Scan) : Option Scan := do
  let s ← (toToken (s.place.bound + 1) s).refresh?
  (s.dedent (s.place.column + 1)).dispatch?

/-! ### All tokens -/

/-- Hands out tokens from a number on: how many have been handed out in the end, and all tokens. -/
def handOut : Nat → Nat → Scan → Nat × Array Token
  | 0, n, s => (n, s.tokens)
  | fuel + 1, n, s =>
    if n = s.tokens.size then
      if s.tokens.back? = some .streamEnd then (n, s.tokens)
      else
        match s.fetch? with
        | some s => handOut fuel n s
        | none => (n, s.tokens)
    else
      match s.refresh? with
      | none => (n, s.tokens)
      | some s =>
        if s.awaits n then
          match s.fetch? with
          | some s => handOut fuel n s
          | none => (n, s.tokens)
        else handOut fuel (n + 1) s

end Scan

/-- The tokens of a text as far as it is well formed. -/
def tokens (cs : List Char) : List Token :=
  let r := Scan.handOut (8 * cs.length + 16) 0 { place := { rest := cs, bound := cs.length } }
  r.2.toList.take r.1

end Yaml
end ScopeLexer
