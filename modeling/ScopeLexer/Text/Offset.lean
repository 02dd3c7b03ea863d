/-
# Byte offsets in a text

A text is a list of characters; positions in it are counted in the bytes of its UTF-8 form. A cut at a
byte offset exists only where a character begins or the text ends, and `slice?` is the text between two
such offsets.

Key definitions: `width`, `dropBytes?`, `takeBytes?`, `slice?`.
Key theorems: `width_append`, `takeBytes?_append`, `dropBytes?_append`.
-/

namespace ScopeLexer
namespace Text

/-- The number of bytes a text takes. -/
def width : List Char → Nat
  | [] => 0
  | c :: cs => c.utf8Size + width cs

/-- The text after the first `n` bytes, if a character ends there. -/
def dropBytes? : List Char → Nat → Option (List Char)
  | cs, 0 => some cs
  | [], _ + 1 => none
  | c :: cs, n => if c.utf8Size ≤ n then dropBytes? cs (n - c.utf8Size) else none

/-- The first `n` bytes of a text, if a character ends there. -/
def takeBytes? : List Char → Nat → Option (List Char)
  | _, 0 => some []
  | [], _ + 1 => none
  | c :: cs, n =>
    if c.utf8Size ≤ n then (takeBytes? cs (n - c.utf8Size)).map (c :: ·) else none

/-- The text between two byte offsets; none if they are out of order, beyond the end or inside a
character. -/
def slice? (cs : List Char) (start stop : Nat) : Option (List Char) :=
  if start ≤ stop then (dropBytes? cs start).bind (takeBytes? · (stop - start)) else none

theorem utf8Size_ne_zero (c : Char) : c.utf8Size ≠ 0 := by
  have := Char.utf8Size_pos c
  omega

@[simp] theorem width_nil : width [] = 0 := rfl

@[simp] theorem width_append (xs ys : List Char) : width (xs ++ ys) = width xs + width ys := by
  induction xs with
  | nil => simp [width]
  | cons c xs ih => simp [width, ih, Nat.add_assoc]

theorem takeBytes?_append (xs ys : List Char) : takeBytes? (xs ++ ys) (width xs) = some xs := by
  induction xs with
  | nil => cases ys <;> rfl
  | cons c xs ih =>
    have hc := Char.utf8Size_pos c
    obtain ⟨n, hn⟩ : ∃ n, width (c :: xs) = n + 1 := ⟨width (c :: xs) - 1, by simp [width]; omega⟩
    rw [hn, List.cons_append, takeBytes?, ← hn]
    · simp [width, ih]
    · omega

theorem dropBytes?_append (xs ys : List Char) : dropBytes? (xs ++ ys) (width xs) = some ys := by
  induction xs with
  | nil => cases ys <;> rfl
  | cons c xs ih =>
    have hc := Char.utf8Size_pos c
    obtain ⟨n, hn⟩ : ∃ n, width (c :: xs) = n + 1 := ⟨width (c :: xs) - 1, by simp [width]; omega⟩
    rw [hn, List.cons_append, dropBytes?, ← hn]
    · simp [width, ih]
    · omega

end Text
end ScopeLexer
