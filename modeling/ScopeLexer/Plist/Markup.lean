/-
# Marked-up text

A text is cut into tags, texts between tags, and references to characters. An element without content
counts as a tag that opens it and one that closes it. A closing tag names the element that was opened
last. What stands where a text is not well formed is a fault, and nothing comes after it.

Key definitions: `Markup`, `next?`, `markup`.
-/
import ScopeLexer.Decimal.Numeral
import ScopeLexer.Text.Basic

namespace ScopeLexer
namespace Plist

/-- A part of a marked-up text. -/
inductive Markup where
  /-- A tag that opens an element. -/
  | opening (name : List Char)
  /-- A tag that closes an element. -/
  | closing (name : List Char)
  | text (cs : List Char)
  /-- The name between the marks of a reference. -/
  | reference (name : List Char)
  /-- A declaration at the head of the text. -/
  | prolog
  /-- A comment, an instruction, or text kept from being read as markup. -/
  | note
  | fault
  deriving Inhabited, Repr, DecidableEq

def isTagSpace (c : Char) : Bool := c == ' ' || c == '\t' || c == '\n' || c == '\r'

/-! ### Ends of markup -/

/-- The rest of a text after the first place where some characters stand. -/
def after? (mark : List Char) : List Char → Option (List Char)
  | [] => none
  | c :: cs =>
    match mark.isPrefixOf? (c :: cs) with
    | some rest => some rest
    | none => after? mark cs

/-- What stands in a tag up to its end, last character first, and the rest. Between quotes the mark of
the end is an ordinary character. -/
def tagBody : Option Char → List Char → List Char → Option (List Char × List Char)
  | _, _, [] => none
  | some q, done, c :: cs => tagBody (if c = q then none else some q) (c :: done) cs
  | none, done, c :: cs =>
    if c = '>' then some (done, cs)
    else tagBody (if c = '"' ∨ c = '\'' then some c else none) (c :: done) cs

/-- The rest of a text after a declaration with others nested in it. -/
def afterNested : Nat → List Char → Option (List Char)
  | _, [] => none
  | depth, c :: cs =>
    if c = '<' then afterNested (depth + 1) cs
    else if c = '>' then
      match depth with
      | 0 => some cs
      | depth + 1 => afterNested depth cs
    else afterNested depth cs

/-- Whether a text begins with a word in capital letters, in letters of either case. -/
def startsWithWord (word : String) (cs : List Char) : Bool :=
  (cs.take word.length).map Char.toUpper == word.toList

/-! ### Parts -/

/-- A part that begins with an exclamation mark. -/
def declaration? (cs : List Char) : Option (Markup × List Char) :=
  match cs with
  | '-' :: '-' :: rest => (after? ['-', '-', '>'] rest).map fun r => (.note, r)
  | '[' :: rest =>
    match ['C', 'D', 'A', 'T', 'A', '['].isPrefixOf? rest with
    | some rest => (after? [']', ']', '>'] rest).map fun r => (.note, r)
    | none => none
  | _ =>
    if startsWithWord "DOCTYPE" cs then (afterNested 0 cs).map fun r => (.prolog, r) else none

/-- A part that begins with a question mark. -/
def instruction? (cs : List Char) : Option (Markup × List Char) :=
  let isProlog := match cs with
    | 'x' :: 'm' :: 'l' :: c :: _ => isTagSpace c || c == '?'
    | _ => false
  (after? ['?', '>'] cs).map fun r => (if isProlog then .prolog else .note, r)

/-- The parts that a tag stands for, given what is in it, last character first. -/
def tagParts (body : List Char) : List Markup :=
  match body with
  | '/' :: body =>
    let name := body.reverse.takeWhile fun c => !isTagSpace c
    [.opening name, .closing name]
  | body => [.opening (body.reverse.takeWhile fun c => !isTagSpace c)]

/-- A closing tag, and the rest. -/
def closingTag? (cs : List Char) : Option (Markup × List Char) :=
  (after? ['>'] cs).map fun rest =>
    (.closing (Text.dropEndWhile isTagSpace (cs.takeWhile (· != '>'))), rest)

/-- The name of a reference, and the rest. -/
def reference? : List Char → List Char → Option (List Char × List Char)
  | _, [] => none
  | name, c :: cs =>
    if c = ';' then some (name.reverse, cs)
    else if c = '&' ∨ c = '<' then none
    else reference? (c :: name) cs

/-- The parts that come next in a text that is not empty, and the rest. -/
def next? (cs : List Char) : Option (List Markup × List Char) :=
  match cs with
  | '<' :: '!' :: rest => (declaration? rest).map fun r => ([r.1], r.2)
  | '<' :: '?' :: rest => (instruction? rest).map fun r => ([r.1], r.2)
  | '<' :: '/' :: rest => (closingTag? rest).map fun r => ([r.1], r.2)
  | '<' :: rest => (tagBody none [] rest).map fun r => (tagParts r.1, r.2)
  | '&' :: rest => (reference? [] rest).map fun r => ([.reference r.1], r.2)
  | cs =>
    let isText (c : Char) : Bool := c != '<' && c != '&'
    some ([.text (cs.takeWhile isText)], cs.dropWhile isText)

/-! ### Whole texts -/

/-- The parts of a text. -/
def parts : Nat → List Char → List Markup
  | 0, _ => [.fault]
  | fuel + 1, cs =>
    if cs.isEmpty then []
    else
      match next? cs with
      | some (ms, rest) => ms ++ parts fuel rest
      | none => [.fault]

/-- The parts up to a closing tag that does not name the element opened last; `names` are the elements
that are open. -/
def matched : List (List Char) → List Markup → List Markup
  | _, [] => []
  | names, .opening name :: ms => .opening name :: matched (name :: names) ms
  | names, .closing name :: ms =>
    match names with
    | top :: names => if top = name then .closing name :: matched names ms else [.fault]
    | [] => [.fault]
  | names, m :: ms => m :: matched names ms

/-- The parts of a text as far as it is well formed. -/
def markup (cs : List Char) : List Markup :=
  let cs := match cs with
    | '\ufeff' :: cs => cs
    | cs => cs
  matched [] (parts (cs.length + 1) cs)

/-! ### References -/

/-- The character of a number. -/
def charOf? (n : Nat) : Option Char :=
  if n = 0 ∨ 0x10ffff < n ∨ (0xd800 ≤ n ∧ n ≤ 0xdfff) then none else some (Char.ofNat n)

/-- The character that a reference stands for. -/
def resolve? (name : List Char) : Option Char :=
  match name with
  | '#' :: 'x' :: ds =>
    if ds.isEmpty then none else (Text.hexValue? ds.length 0 ds).bind charOf?
  | '#' :: ds =>
    if ds.isEmpty || !ds.all Char.isDigit then none else charOf? (Decimal.valueOf ds)
  | _ =>
    match String.ofList name with
    | "lt" => some '<'
    | "gt" => some '>'
    | "amp" => some '&'
    | "quot" => some '"'
    | "apos" => some '\''
    | _ => none

end Plist
end ScopeLexer
