/-
# The stack of open spans

The context of a position is a stack of frames: the grammar at the bottom, and above it the spans that
are open. A frame keeps the scopes of the ends of its span and of its content, and the pattern that ends
it if that was made from captured text. What a frame knows of the line it was opened in is forgotten at
the end of the line, and does not count for equality.

Key definitions: `Frame`, `Stack`, `Stack.same`, `Stack.describe`.
-/
import ScopeLexer.Grammar.Rule

namespace ScopeLexer

/-- A context that is open. -/
structure Frame where
  rule : RuleId
  /-- The scopes of the ends of the span. -/
  nameScopes : List Scope
  /-- The scopes of what is between the ends. -/
  contentScopes : List Scope
  /-- The pattern that ends or continues the span, if it was made from captured text. -/
  endPattern : Option String := none
  /-- Whether the beginning of the span reached to the end of the line. -/
  reachedEnd : Bool := false
  /-- Where the last span had been opened or continued. -/
  anchor : Option Nat := none
  /-- Where this one was entered. -/
  entered : Option Nat := none
  deriving Inhabited, Repr, DecidableEq

namespace Frame

/-- Equality apart from what is known of the line. -/
def same (a b : Frame) : Bool :=
  a.rule == b.rule && a.endPattern == b.endPattern && a.nameScopes == b.nameScopes &&
    a.contentScopes == b.contentScopes

/-- A frame that knows nothing of the line. -/
def reset (f : Frame) : Frame := { f with anchor := none, entered := none }

end Frame

/-- A stack: the innermost frame, and the frames around it, inner ones first. -/
structure Stack where
  top : Frame
  below : List Frame := []
  deriving Inhabited, Repr, DecidableEq

namespace Stack

/-- The stack of a grammar where nothing is open. -/
def root (g : Grammar) : Stack :=
  ⟨{ rule := Grammar.rootRule, nameScopes := [g.scope], contentScopes := [g.scope] }, []⟩

/-- How many spans are open. -/
def depth (s : Stack) : Nat := s.below.length

def isRoot (s : Stack) : Bool := s.below.isEmpty

/-- The frames, innermost first. -/
def frames (s : Stack) : List Frame := s.top :: s.below

/-- A stack with one more frame. -/
def push (s : Stack) (f : Frame) : Stack := ⟨f, s.frames⟩

/-- The stack without its innermost frame; the outermost one stays. -/
def pop? (s : Stack) : Option Stack :=
  match s.below with
  | [] => none
  | f :: fs => some ⟨f, fs⟩

/-- The stack without its innermost frame, or the stack itself if that is the outermost one. -/
def pop (s : Stack) : Stack := s.pop?.getD s

def withContent (s : Stack) (scopes : List Scope) : Stack :=
  { s with top := { s.top with contentScopes := scopes } }

/-- The stack of some frames, innermost first. -/
def ofFrames? : List Frame → Option Stack
  | [] => none
  | f :: fs => some ⟨f, fs⟩

/-- The stack with at most so many spans open. -/
def truncate (s : Stack) (depth : Nat) : Stack :=
  (ofFrames? (s.frames.drop (s.depth - depth))).getD s

/-- The stack at the end of a line. -/
def reset (s : Stack) : Stack := ⟨s.top.reset, s.below.map Frame.reset⟩

/-- Whether a frame has the rule of another one that was entered at the same place, or one around it
has, up to the first that was entered elsewhere. -/
def entersAgain (f : Frame) : List Frame → Bool
  | [] => false
  | g :: gs => g.entered == f.entered && (g.rule == f.rule || entersAgain f gs)

/-- Equality of stacks: frame by frame, apart from what is known of the line. -/
def same (a b : Stack) : Bool := a.frames.isEqv b.frames Frame.same

/-! ### Describing a stack -/

/-- Scopes with commas between them, in brackets. -/
def describeScopes (scopes : List Scope) : String :=
  "[" ++ String.intercalate ", " (scopes.map (·.text)) ++ "]"

def describeOffset : Option Nat → String
  | none => "None"
  | some n => "Some(" ++ toString n ++ ")"

def describeBool (b : Bool) : String := if b then "true" else "false"

/-- A frame on a line of its own. -/
def describeFrame (depth : Nat) (f : Frame) : String :=
  let indent := String.ofList (List.replicate (2 * depth) ' ')
  let name := if f.nameScopes.isEmpty then "" else " name=" ++ describeScopes f.nameScopes
  let content := if f.contentScopes.isEmpty then "" else ", content=" ++ describeScopes f.contentScopes
  let endPattern := match f.endPattern with
    | some p => ", end_pattern=\"" ++ p ++ "\""
    | none => ""
  let entered := match f.entered with
    | some n => if f.anchor = some n then "" else ", enter_pos=" ++ toString n
    | none => ""
  indent ++ "rule=" ++ toString f.rule ++ name ++ content ++ endPattern ++ ", anchor_pos=" ++
    describeOffset f.anchor ++ entered ++ ", begin_rule_has_captured_eol=" ++ describeBool f.reachedEnd ++
    "\n"

/-- The frames of a stack, outermost first. -/
def describe (s : Stack) : String :=
  "StateStack:\n" ++
    String.join (s.frames.reverse.zipIdx.map fun e => describeFrame e.2 e.1)

end Stack
end ScopeLexer
