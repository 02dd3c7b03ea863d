/-
# Characters named by number

A backslash may name a character by its code point in hexadecimal or octal, by a byte of its UTF-8
form, or as a control character. A brace holds one code point or several with blanks between them.

Key definitions: `Escape`, `readEscape`, `readOctal`.
-/
import ScopeLexer.Regex.Error
import ScopeLexer.Unicode.RangeTable

namespace ScopeLexer
namespace Regex

/-- What a numeric escape stands for. -/
inductive Escape where
  | code (n : Nat)
  /-- One byte of the UTF-8 form of a character. -/
  | byte (n : Nat)
  /-- The ranges listed in a brace that holds more than one code point. -/
  | codes (ranges : List (Nat × Nat))
  deriving Inhabited, Repr, DecidableEq

/-- The value of a digit in a base of at most sixteen. -/
def digitValue? (base : Nat) (c : Char) : Option Nat :=
  match Text.hexDigit? c with
  | some v => if v < base then some v else none
  | none => none

/-- At most `limit` digits at the head of a text: their value after `value`, how many there are, and
the rest. -/
def digitsFrom (base value : Nat) : Nat → List Char → Nat × Nat × List Char
  | 0, cs => (value, 0, cs)
  | _, [] => (value, 0, [])
  | limit + 1, c :: cs =>
    match digitValue? base c with
    | none => (value, 0, c :: cs)
    | some d =>
      let r := digitsFrom base (value * base + d) limit cs
      (r.1, r.2.1 + 1, r.2.2)

def digits (base limit : Nat) (cs : List Char) : Nat × Nat × List Char := digitsFrom base 0 limit cs

/-- A number in decimal digits, as many as there are: its value, the digit count and the rest. -/
def decimal (cs : List Char) : Nat × Nat × List Char := digits 10 cs.length cs

def isDivide (c : Char) : Bool := c == ' ' || c == '\n'

/-- The code points after the first one in a brace, up to the closing brace. A range is allowed where
`ranges` holds; `fuel` bounds the number of steps. -/
def braceRest (base limit : Nat) (ranges : Bool) :
    Nat → Nat → List (Nat × Nat) → List Char → Except Error (List (Nat × Nat) × List Char)
  | 0, _, _, _ => .error .invalidCode
  | _, _, _, [] => .error .invalidCode
  | fuel + 1, last, done, c :: cs =>
    if c = '\x7d' then
      if done.isEmpty then .error .invalidCode else .ok (((last, last) :: done).reverse, cs)
    else if isDivide c then
      match cs.dropWhile isDivide with
      | '\x7d' :: rest =>
        if done.isEmpty then .error .invalidCode else .ok (((last, last) :: done).reverse, rest)
      | rest =>
        let (v, n, rest) := digits base limit rest
        if n = 0 then .error .invalidCode
        else braceRest base limit ranges fuel v ((last, last) :: done) rest
    else if c = '-' ∧ ranges then
      let (v, n, rest) := digits base limit cs
      if n = 0 ∨ v < last then .error .invalidCode
      else
        match rest.dropWhile isDivide with
        | '\x7d' :: rest => .ok (((last, v) :: done).reverse, rest)
        | rest =>
          let (w, n, rest) := digits base limit rest
          if n = 0 then .error .invalidCode
          else braceRest base limit ranges fuel w ((last, v) :: done) rest
    else .error .invalidCode

/-- What a brace holds, read after its opening; none if it holds no number or is cut short. -/
def readBraced (base limit : Nat) (ranges : Bool) (cs : List Char) :
    Except Error (Option (Escape × List Char)) :=
  let (v, n, rest) := digits base limit cs
  match rest with
  | [] => .ok none
  | c :: after =>
    if (digitValue? base c).isSome then .error .tooLongCode
    else if n = 0 then .ok none
    else if c = '\x7d' then .ok (some (.code v, after))
    else do
      let (list, rest) ← braceRest base limit ranges (cs.length + 1) v [] (c :: after)
      return some (.codes list, rest)

/-- An octal number of at most `limit` digits that names a byte. -/
def readOctal (limit : Nat) (cs : List Char) : Except Error (Escape × List Char) :=
  let (v, _, rest) := digits 8 limit cs
  if 0xFF < v then .error .tooBigNumber else .ok (.byte v, rest)

/-- The character that a control letter names. -/
def controlLetter? : Char → Option Nat
  | 'n' => some 0x0A
  | 't' => some 0x09
  | 'r' => some 0x0D
  | 'f' => some 0x0C
  | 'a' => some 0x07
  | 'b' => some 0x08
  | 'e' => some 0x1B
  | 'v' => some 0x0B
  | _ => none

/-- The character that control and meta keys make of the key that follows, read after the backslash;
`fuel` bounds the number of keys. -/
def readKey : Nat → List Char → Except Error (Nat × List Char)
  | 0, _ => .error .endAtEscape
  | _, [] => .error .endAtEscape
  | fuel + 1, c :: cs =>
    let control (cs : List Char) : Except Error (Nat × List Char) :=
      match cs with
      | [] => .error .endAtControl
      | '?' :: rest => .ok (0x7F, rest)
      | '\\' :: rest => do
        let (k, rest) ← readKey fuel rest
        return (k &&& 0x9F, rest)
      | k :: rest => .ok (k.toNat &&& 0x9F, rest)
    match c with
    | 'c' => control cs
    | 'C' =>
      match cs with
      | [] => .error .endAtControl
      | '-' :: rest => control rest
      | _ => .error .controlForm
    | 'M' =>
      match cs with
      | [] => .error .endAtMeta
      | ['-'] => .error .endAtMeta
      | '-' :: '\\' :: rest => do
        let (k, rest) ← readKey fuel rest
        return ((k &&& 0xFF) ||| 0x80, rest)
      | '-' :: k :: rest => .ok ((k.toNat &&& 0xFF) ||| 0x80, rest)
      | _ => .error .metaForm
    | c => .ok ((controlLetter? c).getD c.toNat, cs)

/-- The escape that the text after a backslash begins with, if it names a character by number. -/
def readEscape (ranges : Bool) : List Char → Except Error (Option (Escape × List Char))
  | 'x' :: '\x7b' :: cs => readBraced 16 8 ranges cs
  | ['x'] => .ok none
  | 'x' :: cs =>
    let (v, _, rest) := digits 16 2 cs
    .ok (some (.byte v, rest))
  | 'o' :: '\x7b' :: cs => readBraced 8 11 ranges cs
  | ['u'] => .ok none
  | 'u' :: cs =>
    let (v, n, rest) := digits 16 4 cs
    if n < 4 then .error .tooFewDigits else .ok (some (.code v, rest))
  | c :: cs =>
    if c = 'c' ∨ c = 'C' ∨ c = 'M' then do
      let (k, rest) ← readKey (cs.length + 1) (c :: cs)
      return some (.code k, rest)
    else
      match controlLetter? c with
      | some n => .ok (some (.code n, cs))
      | none => .ok none
  | [] => .ok none

end Regex
end ScopeLexer
