/-
# Where characters begin

A byte offset is a boundary of a text if the text can be cut there: some characters take exactly that
many bytes. Whatever can be taken, dropped or sliced is cut at boundaries, and between two boundaries
there is always a slice.

Key definitions: `Text.Boundary`.
Key theorems: `Text.boundary_of_takeBytes?`, `Text.slice?_append`, `Regex.Cursor.at?_in`.
-/
import ScopeLexer.Regex.Search

namespace ScopeLexer
namespace Text

/-- A character of the text begins at the offset, or the text ends there. -/
def Boundary (cs : List Char) (n : Nat) : Prop :=
  ∃ before after, cs = before ++ after ∧ width before = n

theorem boundary_width (cs : List Char) : Boundary cs (width cs) :=
  ⟨cs, [], (List.append_nil cs).symm, rfl⟩

theorem Boundary.le_width {cs : List Char} {n : Nat} (h : Boundary cs n) : n ≤ width cs := by
  obtain ⟨before, after, rfl, rfl⟩ := h
  rw [width_append]
  exact Nat.le_add_right _ _

/-- A boundary stays one when text follows. -/
theorem Boundary.append {cs : List Char} {n : Nat} (h : Boundary cs n) (ds : List Char) :
    Boundary (cs ++ ds) n := by
  obtain ⟨before, after, rfl, rfl⟩ := h
  exact ⟨before, after ++ ds, List.append_assoc .., rfl⟩

theorem width_reverse (cs : List Char) : width cs.reverse = width cs := by
  induction cs with
  | nil => rfl
  | cons c cs ih => simp [width, ih, Nat.add_comm]

theorem width_eq_zero {cs : List Char} : width cs = 0 ↔ cs = [] := by
  cases cs with
  | nil => simp
  | cons c cs => simp [width, utf8Size_ne_zero]

/-- Of two beginnings of a text the narrower one begins the other. -/
theorem exists_append_of_width_le : ∀ {a b x y : List Char}, a ++ x = b ++ y → width a ≤ width b →
    ∃ m, b = a ++ m ∧ x = m ++ y
  | [], b, x, y, h, _ => ⟨b, rfl, h⟩
  | c :: a, [], x, y, _, hw => by
    have := Char.utf8Size_pos c
    simp only [width] at hw
    omega
  | c :: a, d :: b, x, y, h, hw => by
    simp only [List.cons_append, List.cons.injEq] at h
    obtain ⟨rfl, he⟩ := h
    obtain ⟨m, rfl, hx⟩ := exists_append_of_width_le he (by simpa [width] using hw)
    exact ⟨m, rfl, hx⟩

/-- A boundary of a text that is not beyond some first part of it is a boundary of that part. -/
theorem Boundary.of_append {cs ds : List Char} {n : Nat} (h : Boundary (cs ++ ds) n)
    (hn : n ≤ width cs) : Boundary cs n := by
  obtain ⟨before, after, he, rfl⟩ := h
  obtain ⟨m, rfl, -⟩ := exists_append_of_width_le he.symm hn
  exact ⟨before, m, rfl, rfl⟩

/-! ### Cuts -/

theorem boundary_of_takeBytes? : ∀ {cs ds : List Char} {n : Nat}, takeBytes? cs n = some ds →
    ∃ rest, cs = ds ++ rest ∧ width ds = n
  | cs, ds, 0, h => by
    obtain rfl : [] = ds := by simpa [takeBytes?] using h
    exact ⟨cs, rfl, rfl⟩
  | [], ds, n + 1, h => by simp [takeBytes?] at h
  | c :: cs, ds, n + 1, h => by
    rw [takeBytes?] at h
    · split at h
      · obtain ⟨es, he, rfl⟩ := Option.map_eq_some_iff.mp h
        obtain ⟨rest, rfl, hw⟩ := boundary_of_takeBytes? he
        exact ⟨rest, rfl, by simp only [width]; omega⟩
      · contradiction
    · omega

/-- What lies between two cuts of a text is the slice between them. -/
theorem slice?_append (before mid after : List Char) :
    slice? (before ++ mid ++ after) (width before) (width (before ++ mid)) = some mid := by
  rw [slice?, if_pos (by simp), List.append_assoc, dropBytes?_append]
  simp only [width_append, Nat.add_sub_cancel_left, Option.bind_some]
  exact takeBytes?_append mid after

end Text

namespace Regex
namespace Cursor

/-- A cursor that stands in a text. -/
structure In (c : Cursor) (text : List Char) : Prop where
  text_eq : c.text = text
  offset_eq : c.offset = Text.width c.before

theorem In.boundary {c : Cursor} {text : List Char} (h : c.In text) :
    Text.Boundary text c.offset :=
  ⟨c.before.reverse, c.after, h.text_eq.symm, by rw [Text.width_reverse, h.offset_eq]⟩

/-- The cursor at an offset of a text stands in the text, at that offset. -/
theorem at?_in {text : List Char} {pos : Nat} {c : Cursor} (h : Cursor.at? text pos = some c) :
    c.In text ∧ c.offset = pos := by
  unfold Cursor.at? at h
  split at h
  · rename_i before after hb ha
    obtain rfl := Option.some.inj h
    obtain ⟨rest, rfl, hw⟩ := Text.boundary_of_takeBytes? hb
    have : after = rest := by
      rw [← hw, Text.dropBytes?_append] at ha
      exact (Option.some.inj ha).symm
    subst this
    exact ⟨⟨by simp [Cursor.text], by simp [Text.width_reverse, hw]⟩, rfl⟩
  · contradiction

end Cursor
end Regex
end ScopeLexer
