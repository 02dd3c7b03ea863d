/-
# The pieces of a pattern

A pattern is cut into single characters and escapes, a backslash with the character after it. What is
done to back references and anchors is done piece by piece, so that an escaped backslash never begins
anything.

Key definitions: `Piece`, `pieces`, `hasBackreferences`.
Key theorems: `flatten_pieces`.
-/

namespace ScopeLexer
namespace Pattern

/-- A part of a pattern. -/
inductive Piece where
  | plain (c : Char)
  /-- A backslash and a character. -/
  | escape (c : Char)
  /-- A backslash at the end. -/
  | lone
  deriving Inhabited, Repr, DecidableEq

/-- A piece as it is written. -/
def Piece.text : Piece → List Char
  | plain c => [c]
  | escape c => ['\\', c]
  | lone => ['\\']

/-- The pieces of a pattern. -/
def pieces : List Char → List Piece
  | [] => []
  | ['\\'] => [.lone]
  | '\\' :: c :: cs => .escape c :: pieces cs
  | c :: cs => .plain c :: pieces cs

/-- The number of the group that a piece refers to. -/
def Piece.reference? : Piece → Option Nat
  | escape c => if '1' ≤ c ∧ c ≤ '9' then some (c.toNat - '0'.toNat) else none
  | _ => none

/-- Whether a pattern refers to groups by a backslash and a digit. -/
def hasBackreferences (cs : List Char) : Bool := (pieces cs).any fun p => p.reference?.isSome

/-- The pieces make up the pattern. -/
theorem flatten_pieces (cs : List Char) : (pieces cs).flatMap Piece.text = cs := by
  induction cs using pieces.induct with
  | case1 => rfl
  | case2 => rfl
  | case3 c cs ih => simp [pieces, Piece.text, ih]
  | case4 c cs h₁ h₂ ih =>
    rw [pieces]
    · simp [Piece.text, ih]
    · exact h₁
    · exact h₂

end Pattern
end ScopeLexer
