/-
# Reading a pattern

A pattern is a list of alternatives, an alternative a sequence of terms, a term a character, a set, a
test or a group, with the quantifiers that follow it. Options set within a group hold to its end; set
on their own they hold to the end of the group around them, across its further alternatives.

Key definitions: `Reading`, `alternativesOf`, `Pattern`, `parse`.
-/
import ScopeLexer.Regex.Quantifier
import ScopeLexer.Regex.Token

namespace ScopeLexer
namespace Regex

/-- A place in a pattern: the token there, the text after it, and the groups opened before it. -/
structure Reading where
  token : Token
  rest : List Char
  groups : Groups
  /-- How many directives with counters have been read. -/
  counters : Nat := 0
  deriving Inhabited, Repr

/-- What does not change while a pattern is read. -/
structure Frame where
  options : Options
  /-- Whether a closing parenthesis ends the alternatives. -/
  inGroup : Bool
  /-- How deep the groups are nested. -/
  depth : Nat
  /-- The number of characters of the pattern. -/
  total : Nat
  deriving Inhabited, Repr

/-- The deepest nesting of groups. -/
def maxDepth : Nat := 2048

namespace Reading

/-- Whether the token ends an alternative. -/
def ends (r : Reading) (f : Frame) : Bool :=
  match r.token with
  | .stop | .bar => true
  | .closeGroup => f.inGroup
  | _ => false

/-- On to the next token. -/
def next (r : Reading) (o : Options) (rest : List Char) : Except Error Reading := do
  let (token, rest) ← scan o r.groups rest
  return { r with token := token, rest := rest }

/-- One more group is open. -/
def openGroup (r : Reading) (name : Option (List Char)) : Nat × Reading :=
  let n := r.groups.opened + 1
  let names := match name with
    | some text => r.groups.names ++ [(text, n)]
    | none => r.groups.names
  (n, { r with groups := { opened := n, names := names } })

end Reading

/-! ### Terms without parts -/

/-- Any end of a line, as one whole. -/
def lineBreakNode : Node :=
  .atomic (.alt (.literal [0x0D, 0x0A] .exact)
    (.set (.union (.range 0x0A 0x0D) (.union (.single 0x85) (.range 0x2028 0x2029)))))

/-- A text segment: a character and all that is not parted from it. -/
def segmentNode (words : Bool) : Node :=
  .atomic (.seq (.any true)
    (.loop 0 none true (.seq (.anchor (.segmentEdge words true)) (.any true))))

/-- The alternatives that full case folding adds to a set: the characters of it that fold to several. -/
def manyFoldNodes (s : CharSet) : List Node :=
  let members := Unicode.manyFolds.filter fun entry => s.contains entry.1
  let sized (n : Nat) := members.filter fun entry => entry.2.length = n
  (sized 2 ++ sized 3).map fun entry => .literal entry.2 .full

/-- The node of a bracket expression. -/
def bracketNode (o : Options) (s : CharSet) (negated : Bool) : Node :=
  let folded := o.foldSet s
  if negated then .set (.compl folded)
  else if o.fold = .full then Node.alternatives (.set folded :: manyFoldNodes folded)
  else .set folded

/-! ### Options -/

/-- One switch of a group. -/
def setOption (o : Options) (on : Bool) : Char → Option Options
  | 'i' => some { o with ignoreCase := on }
  | 'x' => some { o with extended := on }
  | 'm' => some { o with dotAll := on }
  | 'W' => some { o with asciiWord := on }
  | 'D' => some { o with asciiDigit := on }
  | 'S' => some { o with asciiSpace := on }
  | 'P' => some { o with asciiClasses := on }
  | _ => none

/-- The switches of a group up to the character after them, a colon or a parenthesis. Those for the
whole pattern are allowed where `atHead` holds. -/
def readOptions (atHead : Bool) : Options → Bool → List Char →
    Except Error (Options × Char × List Char)
  | _, _, [] => .error .endInGroup
  | o, on, c :: cs =>
    if c = ')' ∨ c = ':' then .ok (o, c, cs)
    else if c = '-' then readOptions atHead o false cs
    else if c = 'y' then
      if on then
        match cs with
        | '\x7b' :: 'g' :: '\x7d' :: cs => readOptions atHead { o with wordSegments := false } on cs
        | '\x7b' :: 'w' :: '\x7d' :: cs => readOptions atHead { o with wordSegments := true } on cs
        | [] => .error .endInGroup
        | ['\x7b'] => .error .endInGroup
        | ['\x7b', 'g'] => .error .endInGroup
        | ['\x7b', 'w'] => .error .endInGroup
        | _ => .error .unknownGroupOption
      else .error .unknownGroupOption
    else if c = 'C' ∨ c = 'I' ∨ c = 'L' then
      if on && atHead then
        let o := if c = 'C' then { o with plainGroups := true }
          else if c = 'I' then { o with asciiCase := true } else o
        readOptions atHead o on cs
      else .error .misplacedGroupOption
    else
      match setOption o on c with
      | some o => readOptions atHead o on cs
      | none => .error .unknownGroupOption

/-! ### Directives -/

/-- The directives known by name, with the least and the greatest number of arguments. -/
def directiveArity? : String → Option (Nat × Nat)
  | "FAIL" => some (0, 0)
  | "MISMATCH" => some (0, 0)
  | "ERROR" => some (0, 1)
  | "MAX" => some (1, 2)
  | "COUNT" => some (0, 1)
  | "TOTAL_COUNT" => some (0, 1)
  | "CMP" => some (3, 3)
  | "SKIP" => some (0, 0)
  | _ => none

/-- The directive that a name and its arguments mean. -/
def directiveOf (name : String) (args : List (List Char)) (counter : Nat) : Directive :=
  match name, args with
  | "FAIL", _ => .fail
  | "MISMATCH", _ => .giveUp
  | "ERROR", _ => .stop
  | "SKIP", _ => .skip
  | "MAX", limit :: _ => .atMost counter (decimal limit).1
  | _, _ => .pass

/-- Whether a text may name a directive or a tag: a word that begins with a letter. -/
def isDirectiveName : List Char → Bool
  | [] => false
  | c :: cs => (c.isAlpha || c == '_') && cs.all fun d => d.isAlphanum || d == '_'

/-- A directive by name, read after the star. -/
def readDirective (counter : Nat) (cs : List Char) : Except Error (Node × List Char) := do
  let stops (c : Char) := c == ')' || c == '[' || c == '\x7b'
  let name := cs.takeWhile fun c => !stops c
  let after := cs.dropWhile fun c => !stops c
  if after.isEmpty then throw .calloutForm
  if !isDirectiveName name then throw .calloutName
  let after ← match after with
    | '[' :: rest =>
      let tag := rest.takeWhile (· ≠ ']')
      if rest.isEmpty then throw .endInGroup
      else if !isDirectiveName tag then throw .calloutTag
      else
        match rest.dropWhile (· ≠ ']') with
        | _ :: after => if after.isEmpty then throw .endInGroup else pure after
        | [] => throw .endInGroup
    | rest => pure rest
  let (args, after) ← match after with
    | '\x7b' :: rest =>
      match rest.dropWhile (· ≠ '\x7d') with
      | [] => throw .calloutForm
      | _ :: after => pure ((rest.takeWhile (· ≠ '\x7d')).splitOn ',', after)
    | rest => pure ([], rest)
  match directiveArity? (String.ofList name) with
  | none => throw .unknownCallout
  | some (least, most) =>
    if args.length < least ∨ most < args.length then throw .calloutArgument
    match after with
    | ')' :: rest => return (.directive (directiveOf (String.ofList name) args counter), rest)
    | [] => throw .endInGroup
    | _ => throw .calloutForm

/-- A directive that holds a text of its own, read after the opening brace: it does nothing. -/
def readContents (cs : List Char) : Except Error (Node × List Char) := do
  let braces := (cs.takeWhile (· == '\x7b')).length + 1
  let rec find : Nat → List Char → Option (List Char)
    | _, [] => none
    | seen, c :: cs =>
      if c = '\x7d' then (if seen + 1 = braces then some cs else find (seen + 1) cs) else find 0 cs
  match find 0 (cs.drop (braces - 1)) with
  | none => throw .calloutForm
  | some after =>
    let after ← match after with
      | '[' :: rest =>
        if !isDirectiveName (rest.takeWhile (· ≠ ']')) then throw .calloutTag
        else pure ((rest.dropWhile (· ≠ ']')).drop 1)
      | rest => pure rest
    let after := match after with
      | 'X' :: rest => rest
      | '<' :: rest => rest
      | '>' :: rest => rest
      | rest => rest
    match after with
    | ')' :: rest => return (.directive .pass, rest)
    | [] => throw .endInGroup
    | _ => throw .calloutForm

/-! ### Groups -/

/-- What stands between the parentheses of a group. -/
inductive GroupHead where
  /-- The alternatives follow; `wrap` makes the node. -/
  | body (wrap : Node → Node) (plain : Bool) (options : Options)
  /-- An absent range; `withBody` if the first alternative is what must be absent. -/
  | absentGroup (withBody : Bool)
  | condition (test : Node)
  | conditionPattern
  /-- Options on their own. -/
  | options (o : Options)
  /-- The group is complete. -/
  | done (n : Node)

/-- The test that a reference makes in a condition, read after the parenthesis. -/
def readCheck (g : Groups) (cs : List Char) : Except Error (Option (Node × List Char)) := do
  let checker (r : Reference) : Except Error Node := do
    match ← backrefToken g r none with
    | .backref ns byName _ => return .captured ns byName
    | _ => throw .invalidReference
  match cs with
  | c :: rest =>
    if c = '<' ∨ c = '\'' then
      let (r, _, rest) ← readLeveled (closerOf c) rest
      let n ← checker r
      match rest with
      | ')' :: rest => return some (n, rest)
      | _ => throw .endInGroup
    else if c.isDigit || c == '-' || c == '+' then
      match readLeveled ')' cs with
      | .error _ => return none
      | .ok (r, _, rest) => return some (← checker r, rest)
    else return none
  | [] => throw .endInGroup

/-- What a group begins with, read after its opening parenthesis. -/
def readGroupHead (f : Frame) (r : Reading) (cs : List Char) :
    Except Error (GroupHead × Reading × List Char) := do
  let o := f.options
  let capture (name : Option (List Char)) (cs : List Char) :
      Except Error (GroupHead × Reading × List Char) :=
    let (n, r) := r.openGroup name
    .ok (.body (.group n name.isSome) false o, r, cs)
  let named (close : Char) (cs : List Char) : Except Error (GroupHead × Reading × List Char) := do
    let (name, cs) ← readName close cs
    capture (some name) cs
  match cs with
  | [] => throw .unclosedGroup
  | ['?'] => throw .endInGroup
  | '?' :: c :: rest =>
    match c with
    | ':' => return (.body id true o, r, rest)
    | '=' => return (.body (.ahead false) false o, r, rest)
    | '!' => return (.body (.ahead true) false o, r, rest)
    | '>' => return (.body .atomic false o, r, rest)
    | '\'' => named '\'' rest
    | '<' =>
      match rest with
      | [] => throw .unclosedGroup
      | '=' :: rest => return (.body (.behind false 0 none) false o, r, rest)
      | '!' :: rest => return (.body (.behind true 0 none) false o, r, rest)
      | rest => named '>' rest
    | '~' =>
      match rest with
      | [] => throw .endInGroup
      | ['|'] => throw .endInGroup
      | '|' :: ')' :: rest => return (.done .clearStop, r, rest)
      | '|' :: rest => return (.absentGroup true, r, rest)
      | rest => return (.absentGroup false, r, rest)
    | '\x7b' =>
      let (n, rest) ← readContents rest
      return (.done n, r, rest)
    | '(' =>
      match ← readCheck r.groups rest with
      | some (n, rest) => return (.condition n, r, rest)
      | none =>
        match rest with
        | '?' :: '\x7b' :: rest =>
          let (n, rest) ← readContents rest
          return (.condition n, r, rest)
        | '*' :: rest =>
          let (n, rest) ← readDirective r.counters rest
          return (.condition n, { r with counters := r.counters + 1 }, rest)
        | rest => return (.conditionPattern, r, rest)
    | c =>
      let (o, close, after) ← readOptions (rest.length + 3 == f.total) o true (c :: rest)
      if close = ')' then return (.options o, r, after)
      else return (.body .scoped false o, r, after)
  | '*' :: rest =>
    let (n, rest) ← readDirective r.counters rest
    return (.done n, { r with counters := r.counters + 1 }, rest)
  | cs => if o.plainGroups then return (.body id true o, r, cs) else capture none cs

/-- The node of a condition from its alternatives. -/
def conditionNode (test : Node) (noThen : Bool) (branches : List Node) : Node :=
  if noThen then .choose test .empty (Node.alternatives branches)
  else
    match branches with
    | [] => .choose test .empty .empty
    | first :: others => .choose test first (Node.alternatives others)

/-- The node of an absent range from its alternatives. -/
def absentNode (withBody : Bool) (branches : List Node) : Node :=
  if withBody then
    match branches with
    | [] => .empty
    | [n] => .stopBefore n
    | n :: others => .absent n (Node.alternatives others)
  else .absent (Node.alternatives branches) (.loop 0 none true (.any true))

/-! ### Quantifiers of a term -/

/-- A term as it stands before the quantifier that may follow: nodes that are done, the node that a
quantifier applies to, and whether that is a whole group. -/
structure Term where
  done : List Node := []
  last : Node
  whole : Bool := false
  deriving Inhabited, Repr

/-- The term as the nodes it is made of. -/
def Term.nodes (t : Term) : List Node := t.done ++ [t.last]

/-- A quantifier on a term. Of a text only the last character is repeated. -/
def Term.quantified (t : Term) (min : Nat) (max : Option Nat) (greedy possessive : Bool) :
    Except Error Term :=
  if t.last.isTest then .error .repeatPosition
  else
    let wrap (n : Node) := if possessive then Node.atomic n else n
    if min = 1 ∧ max = some 1 then .ok { t with whole := false }
    else
      match t.last with
      | .literal codes fold =>
        match codes.getLast? with
        | some c =>
          if 1 < codes.length ∧ !t.whole then
            .ok { done := t.done ++ [.literal codes.dropLast fold],
                  last := wrap (.loop min max greedy (.literal [c] fold)) }
          else .ok { done := t.done, last := wrap (repeated min max greedy t.last) }
        | none => .ok { done := t.done, last := wrap (repeated min max greedy t.last) }
      | n => .ok { done := t.done, last := wrap (repeated min max greedy n) }

/-! ### The grammar -/

mutual

/-- The alternatives up to the end of the group or of the pattern. The steps are bounded by the number
of characters. -/
def alternativesOf (fuel : Nat) (f : Frame) (r : Reading) : Except Error (List Node × Reading) :=
  match fuel with
  | 0 => .error .nesting
  | fuel + 1 => do
    if maxDepth < f.depth then throw .nesting
    let (ns, r) ← sequenceOf fuel f r
    let first := Node.sequence ns
    match r.token with
    | .bar =>
      let (others, r) ← alternativesOf fuel f (← r.next f.options r.rest)
      return (first :: others, r)
    | .stop => if f.inGroup then throw .unclosedGroup else return ([first], r)
    | _ => return ([first], r)

/-- The terms of one alternative. -/
def sequenceOf (fuel : Nat) (f : Frame) (r : Reading) : Except Error (List Node × Reading) :=
  match fuel with
  | 0 => .error .nesting
  | fuel + 1 =>
    if r.ends f then .ok ([], r)
    else do
      let (ns, r) ← termOf fuel f r
      let (others, r) ← sequenceOf fuel f r
      return (ns ++ others, r)

/-- A term with its quantifiers. -/
def termOf (fuel : Nat) (f : Frame) (r : Reading) : Except Error (List Node × Reading) :=
  match fuel with
  | 0 => .error .nesting
  | fuel + 1 => do
    let o := f.options
    let simple (n : Node) : Except Error (List Node × Reading) := do
      quantifiersOf fuel f { last := n } (← r.next o r.rest)
    match r.token with
    | .stop | .bar => return ([], r)
    | .closeGroup => throw .unopenedGroup
    | .quantifier _ _ _ _ => throw .repeatNothing
    | .char n => textOf fuel f [n] (← r.next o r.rest)
    | .codes ns =>
      quantifiersOf fuel f
        { done := ns.dropLast.map fun n => .literal [n] o.fold,
          last := .literal (ns.getLast?.toList) o.fold } (← r.next o r.rest)
    | .set s => simple (.set s)
    | .any newline => simple (.any newline)
    | .anchor a => simple (.anchor a)
    | .backref ns byName level => simple (.backref ns byName o.fold level)
    | .call target => simple (.call target)
    | .keep => simple .keep
    | .lineBreak => simple lineBreakNode
    | .segment => simple (segmentNode o.wordSegments)
    | .openBracket =>
      let (s, negated, rest) ← readBracket o r.rest
      match if negated then none else s.only? with
      | some n => textOf fuel f [n] (← r.next o rest)
      | none => quantifiersOf fuel f { last := bracketNode o s negated } (← r.next o rest)
    | .openGroup => groupOf fuel f r

/-- A run of characters that stand for themselves, `codes` read so far in reverse. -/
def textOf (fuel : Nat) (f : Frame) (codes : List Nat) (r : Reading) :
    Except Error (List Node × Reading) :=
  match fuel with
  | 0 => .error .nesting
  | fuel + 1 =>
    match r.token with
    | .char n => do textOf fuel f (n :: codes) (← r.next f.options r.rest)
    | _ => quantifiersOf fuel f { last := .literal codes.reverse f.options.fold } r

/-- The quantifiers after a term. -/
def quantifiersOf (fuel : Nat) (f : Frame) (t : Term) (r : Reading) :
    Except Error (List Node × Reading) :=
  match fuel with
  | 0 => .error .nesting
  | fuel + 1 =>
    match r.token with
    | .quantifier min max greedy possessive => do
      quantifiersOf fuel f (← t.quantified min max greedy possessive) (← r.next f.options r.rest)
    | _ => .ok (t.nodes, r)

/-- A group, with the token at its opening. -/
def groupOf (fuel : Nat) (f : Frame) (r : Reading) : Except Error (List Node × Reading) :=
  match fuel with
  | 0 => .error .nesting
  | fuel + 1 => do
    let (head, r, rest) ← readGroupHead f r r.rest
    let inner : Frame := { f with inGroup := true, depth := f.depth + 1 }
    let closed (n : Node) (whole : Bool) (r : Reading) : Except Error (List Node × Reading) := do
      quantifiersOf fuel f { last := n, whole := whole } (← r.next f.options r.rest)
    match head with
    | .done n => closed n false { r with rest := rest }
    | .options o =>
      let (ns, r) ← alternativesOf fuel { f with options := o } (← r.next o rest)
      return ([.scoped (Node.alternatives ns)], r)
    | .body wrap plain o =>
      let (ns, r) ← alternativesOf fuel { inner with options := o } (← r.next o rest)
      closed (wrap (Node.alternatives ns)) plain r
    | .absentGroup withBody =>
      let (ns, r) ← alternativesOf fuel inner (← r.next f.options rest)
      closed (absentNode withBody ns) false r
    | .condition test => conditionOf fuel f inner test true { r with rest := rest }
    | .conditionPattern =>
      let (ns, r) ← alternativesOf fuel inner (← r.next f.options rest)
      conditionOf fuel f inner (Node.alternatives ns) false r

/-- The rest of a group after its condition. -/
def conditionOf (fuel : Nat) (f inner : Frame) (test : Node) (checks : Bool) (r : Reading) :
    Except Error (List Node × Reading) :=
  match fuel with
  | 0 => .error .nesting
  | fuel + 1 => do
    let closed (n : Node) (r : Reading) : Except Error (List Node × Reading) := do
      quantifiersOf fuel f { last := n } (← r.next f.options r.rest)
    let isCheck := match checks, test with
      | true, .captured _ _ => true
      | _, _ => false
    match r.rest with
    | [] => throw .endInGroup
    | ')' :: rest =>
      if isCheck then closed test { r with rest := rest } else throw .conditionForm
    | '|' :: rest =>
      let (ns, r) ← alternativesOf fuel inner (← r.next f.options rest)
      closed (conditionNode test true ns) r
    | rest =>
      let (ns, r) ← alternativesOf fuel inner (← r.next f.options rest)
      closed (conditionNode test false ns) r

end

/-- A pattern as it is written: its tree, and the groups in it. -/
structure Pattern where
  node : Node
  groups : Groups
  deriving Inhabited, Repr

/-- Read a pattern. -/
def parse (cs : List Char) : Except Error Pattern := do
  let f : Frame := { options := {}, inGroup := false, depth := 0, total := cs.length }
  let start : Reading := { token := .stop, rest := cs, groups := {} }
  let (ns, r) ← alternativesOf (8 * cs.length + 8) f (← start.next {} cs)
  return { node := Node.alternatives ns, groups := r.groups }

end Regex
end ScopeLexer
