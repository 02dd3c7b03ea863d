/-
# Bracket expressions

A set of characters in brackets: single characters, ranges, classes, named classes between colons,
brackets within the brackets, and intersections. A hyphen stands for itself where no range can be
meant, a closing bracket where it comes first and another one follows.

Key definitions: `BracketToken`, `Bracket`, `readBracket`.
-/
import ScopeLexer.Regex.Bytes
import ScopeLexer.Regex.Options

namespace ScopeLexer
namespace Regex

/-- A member of a bracket that may begin or end a range; `short` if its form is one byte. -/
structure Member where
  code : Nat
  short : Bool
  deriving Inhabited, Repr, DecidableEq

def Member.ofCode (n : Nat) : Member := ⟨n, n < 0x80⟩

/-- The set of one member. A byte that is no character belongs to none. -/
def Member.set (m : Member) : CharSet :=
  if m.short ∧ 0x80 ≤ m.code then .empty else .single m.code

/-- The range between two members. -/
def Member.upTo (low high : Member) : Except Error CharSet :=
  if high.code < low.code then .error .emptyRange
  else if low.short ∧ high.short then .ok (.range low.code (min high.code 0x7F))
  else .ok (.range low.code high.code)

/-! ### Tokens -/

/-- What a bracket is made of. -/
inductive BracketToken where
  | stop
  | close
  | dash
  | both
  | nested
  | member (m : Member)
  | ranges (list : List (Nat × Nat))
  | set (s : CharSet)
  | posix (s : CharSet)
  deriving Inhabited, Repr

/-- Whether letters and then `:]` follow, as after the opening of a named class. -/
def namesClass (cs : List Char) : Bool :=
  let name := match cs with
    | '^' :: rest => rest
    | rest => rest
  let tail := name.dropWhile Char.isAlpha
  match tail with
  | ':' :: ']' :: _ => tail.length < cs.length
  | _ => false

/-- The named class at the head of a text, read after the opening colon. -/
def readNamedClass (o : Options) (cs : List Char) : Except Error (CharSet × List Char) :=
  let (negated, cs) := match cs with
    | '^' :: rest => (true, rest)
    | rest => (false, rest)
  match CharClass.named? (String.ofList (cs.takeWhile Char.isAlpha)) with
  | some k => .ok (o.setOf k negated, (cs.dropWhile Char.isAlpha).drop 2)
  | none => .error .unknownBracketName

/-- The name of a property up to the closing brace, and the rest; `whole` is where the name begins. -/
def propertyEnd (whole : List Char) : List Char → List Char → Except Error (List Char × List Char)
  | seen, [] => .error (.unknownProperty ((seen.drop 1).reverse))
  | seen, c :: cs =>
    if c = '\x7d' then .ok (seen.reverse, cs)
    else if c = '(' ∨ c = ')' ∨ c = '\x7b' ∨ c = '|' then .error (.unknownProperty seen.reverse)
    else propertyEnd whole (c :: seen) cs

/-- The set that a property expression means, read after its opening brace. -/
def readProperty (negated : Bool) (cs : List Char) : Except Error (CharSet × List Char) := do
  let (negated, cs) := match cs with
    | '^' :: rest => (!negated, rest)
    | rest => (negated, rest)
  let (name, rest) ← propertyEnd cs [] cs
  match Unicode.propertyNamed? name with
  | none => .error (.unknownProperty name)
  | some t => return (if negated then .compl (.table t) else .table t, rest)

/-- The next token within a bracket. -/
def bracketToken (o : Options) : List Char → Except Error (BracketToken × List Char)
  | [] => .ok (.stop, [])
  | ']' :: cs => .ok (.close, cs)
  | '-' :: cs => .ok (.dash, cs)
  | '&' :: '&' :: cs => .ok (.both, cs)
  | '[' :: ':' :: cs =>
    if namesClass cs then do
      let (s, rest) ← readNamedClass o cs
      return (.posix s, rest)
    else .ok (.nested, ':' :: cs)
  | '[' :: cs => .ok (.nested, cs)
  | ['\\'] => .error .endAtEscape
  | '\\' :: c :: cs =>
    match CharClass.escaped? c with
    | some (k, negated) => .ok (.set (o.setOf k negated), cs)
    | none =>
      if (c = 'p' ∨ c = 'P') ∧ cs.head? = some '\x7b' then do
        let (s, rest) ← readProperty (c == 'P') (cs.drop 1)
        return (.set s, rest)
      else do
        let escape ← if '0' ≤ c ∧ c ≤ '7' then (readOctal 3 (c :: cs)).map some
          else readEscape true (c :: cs)
        match escape with
        | none => return (.member (.ofCode c.toNat), cs)
        | some (.code n, rest) => return (.member (.ofCode n), rest)
        | some (.codes list, rest) => return (.ranges list, rest)
        | some (.byte b, rest) =>
          if formLength b = 1 then return (.member ⟨b, true⟩, rest)
          else
            let (n, rest) ← readBytes b rest
            return (.member ⟨n, false⟩, rest)
  | c :: cs => .ok (.member (.ofCode c.toNat), cs)

/-! ### The set so far -/

/-- Where a bracket stands between its members. -/
inductive BracketPhase where
  | start
  /-- After a member that may begin a range. -/
  | value (m : Member)
  /-- After a class. -/
  | afterClass
  /-- After the hyphen of a range. -/
  | range (low : Member)
  /-- After a range or a bracket within. -/
  | complete
  deriving Inhabited, Repr

/-- A bracket that is being read. -/
structure Bracket where
  set : CharSet := .empty
  /-- What stands before the last intersection. -/
  others : Option CharSet := none
  phase : BracketPhase := .start
  deriving Inhabited, Repr

namespace Bracket

/-- A union without needless empty sets. -/
def also (a b : CharSet) : CharSet :=
  match a with
  | .empty => b
  | a => .union a b

/-- The set with the member that was held back. -/
def settled (b : Bracket) : CharSet :=
  match b.phase with
  | .value m => also b.set m.set
  | _ => b.set

/-- Whether a code point can be written in UTF-8. -/
def checkCode (n : Nat) : Except Error Unit :=
  if 0xD800 ≤ n ∧ n ≤ 0xDFFF then .error .invalidCode
  else if 0x10FFFF < n then .error .tooBigCode
  else .ok ()

/-- One more member. The end of a range may lie beyond all characters. -/
def putMember (b : Bracket) (m : Member) : Except Error Bracket := do
  match b.phase with
  | .range low =>
    let s ← low.upTo m
    return { b with set := also b.set s, phase := .complete }
  | _ =>
    checkCode m.code
    return { b with set := b.settled, phase := .value m }

/-- One more class. -/
def putClass (b : Bracket) (s : CharSet) : Except Error Bracket :=
  match b.phase with
  | .range _ => .error .classEndsRange
  | _ => .ok { b with set := also b.settled s, phase := .afterClass }

/-- One more bracket within this one. -/
def putNested (b : Bracket) (s : CharSet) : Bracket :=
  { b with set := also b.settled s, phase := .complete }

/-- The members listed in a brace. -/
def putRanges (b : Bracket) : List (Nat × Nat) → Except Error Bracket
  | [] => .ok b
  | (low, high) :: rest => do
    let b ← b.putMember (.ofCode low)
    if low = high then putRanges b rest
    else
      let b ← { b with phase := .range (.ofCode low) }.putMember (.ofCode high)
      putRanges b rest

/-- The set of what stands between intersections. -/
def whole (b : Bracket) : CharSet :=
  match b.others with
  | some s => .inter s b.settled
  | none => b.settled

/-- After an intersection sign. -/
def putBoth (b : Bracket) : Bracket := { others := some b.whole }

end Bracket

/-! ### Reading -/

/-- The rest of a bracket up to its closing, and what follows. The bound on the steps is the number of
characters. -/
def bracketRest (o : Options) :
    Nat → Bracket → BracketToken × List Char → Except Error (CharSet × List Char)
  | 0, _, _ => .error .unclosedBracket
  | fuel + 1, b, (token, cs) => do
    match token with
    | .stop => .error .unclosedBracket
    | .close => return (b.whole, cs)
    | .member m => bracketRest o fuel (← b.putMember m) (← bracketToken o cs)
    | .ranges list => bracketRest o fuel (← b.putRanges list) (← bracketToken o cs)
    | .set s => bracketRest o fuel (← b.putClass s) (← bracketToken o cs)
    | .posix s => bracketRest o fuel (← b.putClass s) (← bracketToken o cs)
    | .both => bracketRest o fuel b.putBoth (← bracketToken o cs)
    | .nested =>
      let (first, negated) ← opening o cs
      let (s, rest) ← bracketRest o fuel {} first
      let s := if negated then .compl s else s
      bracketRest o fuel (b.putNested s) (← bracketToken o rest)
    | .dash =>
      let hyphen := Member.ofCode '-'.toNat
      match b.phase with
      | .range _ => bracketRest o fuel (← b.putMember hyphen) (← bracketToken o cs)
      | .start | .complete =>
        let next ← bracketToken o cs
        bracketRest o fuel (← b.putMember hyphen) next
      | .value low =>
        let next ← bracketToken o cs
        match next.1 with
        | .close | .both => bracketRest o fuel (← b.putMember hyphen) next
        | _ => bracketRest o fuel { b with phase := .range low } next
      | .afterClass =>
        let next ← bracketToken o cs
        match next.1 with
        | .close | .both => bracketRest o fuel (← b.putMember hyphen) next
        | _ => .error .strayRange
where
  /-- The first token of a bracket, and whether the bracket is negated. -/
  opening (o : Options) (cs : List Char) :
      Except Error ((BracketToken × List Char) × Bool) := do
    let (negated, cs) := match cs with
      | '^' :: rest => (true, rest)
      | rest => (false, rest)
    let (token, rest) ← bracketToken o cs
    match token with
    | .close =>
      if rest.contains ']' then return ((.member (.ofCode ']'.toNat), rest), negated)
      else .error .emptyBracket
    | _ => return ((token, rest), negated)

/-- A bracket expression, read after its opening: the set without a negation that stands at its head,
whether there is one, and what follows the closing. -/
def readBracket (o : Options) (cs : List Char) : Except Error (CharSet × Bool × List Char) := do
  let (first, negated) ← bracketRest.opening o cs
  let (s, rest) ← bracketRest o (2 * cs.length + 2) {} first
  return (s, negated, rest)

/-- The one character of a set that holds no other, as far as its form shows it. -/
def CharSet.only? : CharSet → Option Nat
  | .range low high => if low = high then some low else none
  | .union a b => if a.only? = b.only? then a.only? else none
  | _ => none

end Regex
end ScopeLexer
