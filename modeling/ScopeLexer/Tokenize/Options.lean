/-
# Limits of tokenizing

Key definitions: `Options`, `Options.withMaxStalled`, `Options.describe`.
-/
import ScopeLexer.Text.Basic

namespace ScopeLexer

/-- The limits of tokenizing a line. -/
structure Options where
  /-- How many steps the search for one pattern may take back. -/
  retryLimit : Option Nat := some 1000000
  /-- How many milliseconds a line may take. -/
  timeLimit : Option Nat := none
  /-- How many steps in a row may stay where they are. -/
  maxStalled : Nat := 64
  deriving Inhabited, Repr, DecidableEq

namespace Options

/-- Limits with at least one step that may stay where it is. -/
def withMaxStalled (o : Options) (n : Nat) : Options := { o with maxStalled := max n 1 }

/-- Whether the time of a line is over before it begins. -/
def timeIsOver (o : Options) : Bool := o.timeLimit == some 0

/-! ### Text -/

/-- A number of milliseconds in the largest unit of which it holds one, with a point. -/
def durationText (n : Nat) : String :=
  if n = 0 then "0ns"
  else if n < 1000 then toString n ++ "ms"
  else
    let digits := (toString (1000 + n % 1000)).toList.drop 1
    match Text.dropEndWhile (· == '0') digits with
    | [] => toString (n / 1000) ++ "s"
    | ds => toString (n / 1000) ++ "." ++ String.ofList ds ++ "s"

/-- A limit that may be absent. -/
def limitText (f : Nat → String) : Option Nat → String
  | some n => "Some(" ++ f n ++ ")"
  | none => "None"

/-- Limits for people to read. -/
def describe (o : Options) : String :=
  "TokenizerOptions \x7b match_retry_limit: " ++ limitText toString o.retryLimit ++
    ", line_time_limit: " ++ limitText durationText o.timeLimit ++
    ", max_stalled_iterations: " ++ toString o.maxStalled ++ " \x7d"

end Options
end ScopeLexer
