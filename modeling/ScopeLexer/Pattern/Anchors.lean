/-
# Anchors that hold

Whether the start of the text and the start of the search count as anchors depends on the context: the
first only in the first line of a document, the second only where the last span was opened or
continued. An anchor that does not hold is replaced by a character that no text has. Where both hold, or
where none is written, a pattern is not cut into its pieces for that.

Key definitions: `Anchors`, `Anchors.replaceEach`, `Anchors.replace`.
Key theorems: `Anchors.replace_eq_replaceEach`.
-/
import ScopeLexer.Pattern.Piece

namespace ScopeLexer

/-- Whether a word stands somewhere in a text. -/
def Text.holds (word : List Char) : List Char → Bool
  | [] => word.isEmpty
  | c :: cs => word.isPrefixOf (c :: cs) || holds word cs

theorem Text.holds_iff_infix {word cs : List Char} : holds word cs = true ↔ word <:+: cs := by
  induction cs with
  | nil => rw [holds, List.isEmpty_iff, List.infix_nil]
  | cons c cs ih => rw [holds, Bool.or_eq_true, List.isPrefixOf_iff_prefix, ih, List.infix_cons_iff]

/-- Which anchors hold. -/
structure Anchors where
  /-- The start of the text. -/
  text : Bool
  /-- The start of the search. -/
  search : Bool
  deriving Inhabited, Repr, DecidableEq

namespace Anchors

open Pattern (Piece)

/-- A character that no text has. -/
def never : Char := Char.ofNat 0xFFFF

/-- The anchors that hold at a position of a line, where `resume` is where the last span was opened or
continued. -/
def holding (firstLine : Bool) (resume : Option Nat) (pos : Nat) : Anchors :=
  ⟨firstLine, resume == some pos⟩

/-- Whether a piece is an anchor that does not hold. -/
def isIdle (a : Anchors) : Piece → Bool
  | .escape 'A' => !a.text
  | .escape 'G' => !a.search
  | _ => false

/-- A piece whose anchor does not hold, replaced. -/
def replacePiece (a : Anchors) (p : Piece) : List Char := if a.isIdle p then [never] else p.text

/-- A pattern with the anchors that do not hold replaced, piece by piece. -/
def replaceEach (a : Anchors) (cs : List Char) : List Char :=
  (Pattern.pieces cs).flatMap a.replacePiece

/-- Whether an anchor is written in a pattern, be it only behind an escaped backslash. -/
def areWrittenIn (cs : List Char) : Bool := Text.holds ['\\', 'A'] cs || Text.holds ['\\', 'G'] cs

/-- A pattern with the anchors that do not hold replaced. -/
def replace (a : Anchors) (cs : List Char) : List Char :=
  if a = ⟨true, true⟩ ∨ areWrittenIn cs = false then cs else a.replaceEach cs

/-- Where both anchors hold a pattern stays as it is. -/
theorem replace_all (cs : List Char) : replace ⟨true, true⟩ cs = cs := if_pos (.inl rfl)

theorem isIdle_eq_true_iff {a : Anchors} {p : Piece} : a.isIdle p = true ↔
    (p = .escape 'A' ∧ a.text = false) ∨ (p = .escape 'G' ∧ a.search = false) := by
  rw [isIdle.eq_def]
  split <;> simp_all

/-- **Where a pattern is not cut into its pieces, nothing of it would be replaced**: not where both anchors hold,
and not where none is written, for then none of the pieces is one. -/
theorem replace_eq_replaceEach (a : Anchors) (cs : List Char) : a.replace cs = a.replaceEach cs := by
  rw [replace]
  split
  · rename_i hspared
    have kept : ∀ p ∈ Pattern.pieces cs, a.replacePiece p = p.text := by
      intro p hp
      refine if_neg fun hidle => ?_
      have hstands : p.text <:+: cs := by
        have hp := List.infix_of_mem_flatten (List.mem_map_of_mem (f := Piece.text) hp)
        rwa [← List.flatMap_def, Pattern.flatten_pieces] at hp
      rcases hspared with rfl | hunwritten
      · simp [isIdle_eq_true_iff] at hidle
      · rw [areWrittenIn, Bool.or_eq_false_iff] at hunwritten
        rcases isIdle_eq_true_iff.mp hidle with ⟨rfl, -⟩ | ⟨rfl, -⟩
        · exact Bool.noConfusion (hunwritten.1.symm.trans (Text.holds_iff_infix.mpr hstands))
        · exact Bool.noConfusion (hunwritten.2.symm.trans (Text.holds_iff_infix.mpr hstands))
    rw [replaceEach, List.flatMap_def, List.map_congr_left kept, ← List.flatMap_def, Pattern.flatten_pieces]
  · rfl

end Anchors
end ScopeLexer
