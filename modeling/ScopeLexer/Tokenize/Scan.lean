/-
# Scanning a line

A line is scanned from left to right. At each step the match that comes next is found within the
innermost frame: the end of the span pops the frame, the beginning of another one pushes a frame, any
other match leaves the stack as it is. A step that stays where it is could repeat for ever; it is given
up when it comes back to where it was, and otherwise after some such steps in a row.

Key definitions: `Scanner`, `Means.scanner`, `ScanState`, `Scanner.step`, `Scanner.scan`.
-/
import ScopeLexer.Tokenize.Captures
import ScopeLexer.Tokenize.Finder

namespace ScopeLexer

open Regex (Captures Cursor)

/-- The frame of a span after its beginning: the content has scopes of its own, and the pattern that ends
the span may refer to captured text. -/
def Frame.opened (f : Frame) (g : Grammar) (line : List Char) (captures : Captures) (rule : Rule)
    (span : SpanRule) : Frame :=
  { f with
    contentScopes := f.nameScopes ++ rule.contentScopes line captures
    endPattern := if span.closingRefers then
        some (String.ofList (Pattern.resolve (g.pattern span.closing).source.toList line captures))
      else none }

/-- What scanning needs. -/
structure Scanner (m : Type → Type) where
  grammar : Grammar
  finder : Finder m
  maxStalled : Nat

/-- A scanner of a grammar that works with some means. -/
def Means.scanner {m : Type → Type} [Monad m] (w : Means m) (g : Grammar) (maxStalled : Nat) :
    Scanner m :=
  { grammar := g, finder := .through g w, maxStalled := maxStalled }

/-- Where a scan stands. -/
structure ScanState where
  tokens : Tokens
  stack : Stack
  pos : Nat
  /-- Where the last span was opened or continued. -/
  anchor : Option Nat
  firstLine : Bool
  /-- How many steps in a row have stayed where they were. -/
  stalled : Nat := 0
  deriving Inhabited, Repr, DecidableEq

/-- What a step comes to. -/
inductive StepResult where
  | goOn (s : ScanState)
  | stop (tokens : Tokens) (stack : Stack)
  deriving Inhabited, Repr

namespace Scanner

variable {m : Type → Type} [Monad m]

/-- The tokens of the groups of a match, where `again` tokenizes the texts of groups. -/
@[specialize] def sweep (sc : Scanner m) (again : Option (Again m)) (stack : Stack)
    (line : List Char) (firstLine : Bool) (rules : CaptureRules) (captures : Captures)
    (ts : Tokens) : m Tokens :=
  if rules.isEmpty then return ts
  else
    let w : Sweep m := { grammar := sc.grammar, again := again, stack := stack, line := line,
                         captures := captures, firstLine := firstLine }
    w.tokens rules ts

/-! ### Spans that continue -/

/-- What is known after the spans that must continue have been looked at. -/
structure Continued where
  tokens : Tokens
  stack : Stack
  pos : Nat
  anchor : Option Nat
  firstLine : Bool

/-- What is known after a span has continued up to an offset. -/
def Continued.upTo (k : Continued) (tokens : Tokens) (stop : Nat) : Continued :=
  let k := { k with tokens := tokens, anchor := some stop }
  if k.pos < stop then { k with pos := stop, firstLine := false } else k

/-- The match that continues the span of a frame, if there is one that begins where the last one
ended. -/
@[specialize] def continuing (sc : Scanner m) (line : List Char) (f : Frame) (k : Continued) :
    m (Option Found) :=
  match Cursor.at? line k.pos with
  | some c => do
    let captures ← sc.finder.continues f c (Anchors.holding k.firstLine k.anchor k.pos)
    return (captures.bind (Found.ofCaptures .stop)).filter (·.start == k.pos)
  | none => return none

/-- The spans that must continue, outermost first, each with the frames around it. The first that does
not is closed with all within it. -/
@[specialize] def continueSpans (sc : Scanner m) (again : Option (Again m)) (line : List Char) :
    List Stack → Continued → m Continued
  | [], k => return k
  | inner :: rest, k =>
    match sc.grammar.rule inner.top.rule with
    | .beginWhile rule => do
      match ← sc.continuing line inner.top k with
      | some found =>
        let ts := k.tokens.produce k.pos inner.top.contentScopes
        let ts ← sc.sweep again inner line k.firstLine rule.closingCaptures found.captures ts
        let ts := ts.produce found.stop inner.top.contentScopes
        continueSpans sc again line rest (k.upTo ts found.stop)
      | none => return { k with stack := inner.pop }
    | _ => continueSpans sc again line rest k

/-- The stacks that end with each frame, outermost first. -/
def prefixes : List Frame → List Stack
  | [] => []
  | f :: fs => prefixes fs ++ [⟨f, fs⟩]

/-- The state at the beginning of a line, after the spans that must continue. -/
@[specialize] def resume (sc : Scanner m) (again : Option (Again m)) (stack : Stack)
    (line : List Char) (pos : Nat) (firstLine : Bool) : m Continued :=
  sc.continueSpans again line (prefixes stack.frames)
    { tokens := ⟨[], pos⟩, stack := stack, pos := pos,
      anchor := if stack.top.reachedEnd then some 0 else none, firstLine := firstLine }

/-- The state where a scan begins. Spans must continue only at the beginning of a line. -/
@[specialize] def enter (sc : Scanner m) (again : Option (Again m)) (stack : Stack)
    (line : List Char) (pos : Nat) (firstLine : Bool) : (continuing : Bool) → m Continued
  | true => sc.resume again stack line pos firstLine
  | false => return ⟨⟨[], pos⟩, stack, pos, none, firstLine⟩

/-! ### Steps -/

/-- The state after a step to an offset; a step that stays where it is counts. -/
def advance (sc : Scanner m) (length : Nat) (s : ScanState) (stop : Nat) : StepResult :=
  if s.pos < stop then .goOn { s with pos := stop, firstLine := false, stalled := 0 }
  else if sc.maxStalled ≤ s.stalled + 1 then
    .stop (s.tokens.produce length s.stack.top.contentScopes) s.stack
  else .goOn { s with stalled := s.stalled + 1 }

/-- The end of a span. -/
@[specialize] def endSpan (sc : Scanner m) (again : Option (Again m)) (line : List Char)
    (length : Nat) (s : ScanState) (found : Found) : m StepResult := do
  let rules := (sc.grammar.rule s.stack.top.rule).endCaptures
  let ts := s.tokens.produce found.start s.stack.top.contentScopes
  let stack := s.stack.withContent s.stack.top.nameScopes
  let ts ← sc.sweep again stack line s.firstLine rules found.captures ts
  let ts := ts.produce found.stop stack.top.contentScopes
  match stack.pop? with
  | none => return .stop ts stack
  | some outer =>
    if found.stop ≤ s.pos ∧ s.stack.top.entered = some s.pos then
      return .stop (ts.produce length stack.top.contentScopes) stack
    else
      return sc.advance length { s with tokens := ts, stack := outer, anchor := s.stack.top.anchor }
        found.stop

/-- The beginning of a span, whose frame has been pushed. -/
@[specialize] def beginSpan (sc : Scanner m) (again : Option (Again m)) (line : List Char)
    (length : Nat) (s : ScanState) (found : Found) (rule : Rule) (span : SpanRule)
    (frame : Frame) (ts : Tokens) : m StepResult := do
  let pushed := s.stack.push frame
  let ts ← sc.sweep again pushed line s.firstLine span.openingCaptures found.captures ts
  let ts := ts.produce found.stop frame.contentScopes
  let frame := frame.opened sc.grammar line found.captures rule span
  if found.stop ≤ s.pos ∧ Stack.entersAgain frame s.stack.frames = true then
    return .stop (ts.produce length s.stack.top.contentScopes) s.stack
  else
    return sc.advance length
      { s with tokens := ts, stack := s.stack.push frame, anchor := some found.stop } found.stop

/-- The tokens of a match within the line, whose frame has been pushed. -/
@[specialize] def matchTokens (sc : Scanner m) (again : Option (Again m)) (line : List Char)
    (s : ScanState) (found : Found) (frame : Frame) (ts : Tokens) : Rule → m Tokens
  | .matching r => do
    let ts ← sc.sweep again (s.stack.push frame) line s.firstLine r.captures found.captures ts
    return ts.produce found.stop frame.contentScopes
  | _ => return ts

/-- A match within the line. -/
@[specialize] def matchRule (sc : Scanner m) (again : Option (Again m)) (line : List Char)
    (length : Nat) (s : ScanState) (found : Found) (rule : Rule) (frame : Frame) (ts : Tokens) :
    m StepResult := do
  let ts ← sc.matchTokens again line s found frame ts rule
  if found.stop ≤ s.pos then
    let stack := s.stack.pop
    return .stop (ts.produce length stack.top.contentScopes) stack
  else return sc.advance length { s with tokens := ts } found.stop

/-- A step with the match that comes next. -/
@[specialize] def take (sc : Scanner m) (again : Option (Again m)) (line : List Char)
    (length : Nat) (s : ScanState) (found : Found) : m StepResult :=
  match found.candidate with
  | .stop => sc.endSpan again line length s found
  | .rule id =>
    let rule := sc.grammar.rule id
    let ts := s.tokens.produce found.start s.stack.top.contentScopes
    let scopes := s.stack.top.contentScopes ++ rule.nameScopes line found.captures
    let frame : Frame :=
      { rule := id, nameScopes := scopes, contentScopes := scopes,
        reachedEnd := found.stop == length, anchor := s.anchor, entered := some s.pos }
    match rule with
    | .beginEnd r => sc.beginSpan again line length s found rule r.toSpanRule frame ts
    | .beginWhile r => sc.beginSpan again line length s found rule r frame ts
    | _ => sc.matchRule again line length s found rule frame ts

/-- The match that comes next in a scan. -/
@[specialize] def next (sc : Scanner m) (line : List Char) (s : ScanState) : m (Option Found) :=
  match Cursor.at? line s.pos with
  | some c => sc.finder.next s.stack.top c (Anchors.holding s.firstLine s.anchor s.pos)
  | none => return none

/-- One step of a scan. -/
@[specialize] def step (sc : Scanner m) (again : Option (Again m)) (line : List Char)
    (length : Nat) (s : ScanState) : m StepResult := do
  if ← sc.finder.timeIsOver then
    return .stop (s.tokens.produce length [sc.grammar.scope]) s.stack
  else
    match ← sc.next line s with
    | none => return .stop (s.tokens.produce length s.stack.top.contentScopes) s.stack
    | some found => sc.take again line length s found

/-- At most so many steps. What is left is given to the innermost frame. -/
@[specialize] def steps (sc : Scanner m) (again : Option (Again m)) (line : List Char)
    (length : Nat) : Nat → ScanState → m (Tokens × Stack)
  | 0, s => return (s.tokens.produce length s.stack.top.contentScopes, s.stack)
  | fuel + 1, s => do
    match ← sc.step again line length s with
    | .stop ts stack => return (ts, stack)
    | .goOn s => steps sc again line length fuel s

/-- How many steps a scan can take: at each offset as many as may stay there. -/
def stepBound (sc : Scanner m) (length pos : Nat) : Nat := (length - pos + 1) * sc.maxStalled

/-! ### Scanning -/

/-- Scanning a text from an offset on, within a stack. -/
@[specialize] def scanWith (sc : Scanner m) (again : Option (Again m)) (stack : Stack)
    (line : List Char) (pos : Nat) (firstLine continuing : Bool) : m (Tokens × Stack) := do
  let length := Text.width line
  let k ← sc.enter again stack line pos firstLine continuing
  sc.steps again line length (sc.stepBound length pos)
    { tokens := k.tokens, stack := k.stack, pos := k.pos, anchor := k.anchor,
      firstLine := k.firstLine }

/-- Scanning a text where groups are tokenized again up to so many times within each other. -/
@[specialize] def scan (sc : Scanner m) : (levels : Nat) → Stack → List Char → Nat → Bool →
    (continuing : Bool) → m (Tokens × Stack)
  | 0, stack, line, pos, firstLine, continuing =>
    sc.scanWith none stack line pos firstLine continuing
  | levels + 1, stack, line, pos, firstLine, continuing =>
    let again : Again m := fun stack text pos firstLine => do
      let r ← scan sc levels stack text pos firstLine false
      return r.1
    sc.scanWith (some again) stack line pos firstLine continuing

/-- How often groups may be tokenized again within each other. -/
def maxLevels : Nat := 32

end Scanner
end ScopeLexer
