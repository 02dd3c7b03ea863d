/-
# Tokens

A token is a span of a line with its scopes. The tokens of a line are produced from left to right: each
begins where the one before it ends, and an empty one is not produced. A line is tokenized with a
newline at its end, which is taken off again.

Key definitions: `Token`, `Tokens.produce`, `Tokens.finish`.
Key theorems: `Tokens.last_produce`.
-/
import ScopeLexer.Scope
import ScopeLexer.Text.Offset

namespace ScopeLexer

/-- A span of a line in bytes, and its scopes, outermost first. -/
structure Token where
  start : Nat
  stop : Nat
  scopes : List Scope
  deriving Inhabited, Repr, DecidableEq

/-- The text of a token in a line; empty if the line has no such span. -/
def Token.text (t : Token) (line : List Char) : List Char :=
  (Text.slice? line t.start t.stop).getD []

/-- The tokens produced so far, last one first, and where the next one begins. -/
structure Tokens where
  done : List Token := []
  last : Nat
  deriving Inhabited, Repr, DecidableEq

namespace Tokens

/-- A token up to an offset, if that is not behind. -/
def produce (ts : Tokens) (stop : Nat) (scopes : List Scope) : Tokens :=
  if stop ≤ ts.last then ts
  else { done := ⟨ts.last, stop, scopes⟩ :: ts.done, last := stop }

/-- The tokens of a line whose length, the newline included, is `length`, without the newline. -/
def finish (ts : Tokens) (length : Nat) : List Token :=
  let done := match ts.done with
    | t :: rest => if t.start = length - 1 then rest else t :: rest
    | [] => []
  let done := match done with
    | t :: rest => if t.stop = length then { t with stop := length - 1 } :: rest else t :: rest
    | [] => []
  done.reverse

/-- After a token the next one begins at its end, or stays where it was. -/
@[simp] theorem last_produce (ts : Tokens) (stop : Nat) (scopes : List Scope) :
    (ts.produce stop scopes).last = max ts.last stop := by
  unfold produce
  split
  · rw [Nat.max_eq_left]; assumption
  · simp only; omega

end Tokens
end ScopeLexer
