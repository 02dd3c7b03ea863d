/-
# Prefixes of scopes

A scope is a prefix of another one if its text is that of the other up to a point. Between two points there
may be nothing at all, as in a name where a captured text is empty. The text has such a gap, but the atoms
leave it out. So a scope is a prefix of another one exactly if its atoms are the first atoms of the other
and the gaps stand at the same places; between scopes without gaps the atoms decide.

Key definitions: `Scope.parts`, `Scope.gaps`, `Scope.HasNoGap`.
Key theorems: `splitOn_prefix_iff`, `Scope.isPrefixOf_iff_parts`, `prefix_iff_gaps`,
`Scope.isPrefixOf_iff_atoms`.
-/
import Mathlib.Data.List.Basic
import ScopeLexer.ScopeName

namespace ScopeLexer

/-! ### Texts cut at points -/

section Cuts

variable {α : Type} (x : α)

theorem intercalate_append {ps qs : List (List α)} (hp : ps ≠ []) (hq : qs ≠ []) :
    [x].intercalate (ps ++ qs) = [x].intercalate ps ++ x :: [x].intercalate qs := by
  induction ps with
  | nil => exact absurd rfl hp
  | cons p ps ih =>
    cases ps with
    | nil =>
      obtain ⟨q, qs, rfl⟩ := List.exists_cons_of_ne_nil hq
      simp [List.intercalate_cons_cons]
    | cons p' ps => simpa [List.intercalate_cons_cons] using ih nofun

/-- The parts of a text are the first parts of another one exactly if the text is that of the other, as a
whole or up to a place where the other is cut. -/
theorem splitOn_prefix_iff [BEq α] [LawfulBEq α] (cs ds : List α) :
    cs.splitOn x <+: ds.splitOn x ↔ cs = ds ∨ cs ++ [x] <+: ds := by
  constructor
  · rintro ⟨rest, h⟩
    have hds : [x].intercalate (cs.splitOn x ++ rest) = ds := by rw [h, List.intercalate_splitOn]
    by_cases hrest : rest = []
    · rw [hrest, List.append_nil, List.intercalate_splitOn] at hds
      exact .inl hds
    · rw [intercalate_append x (List.splitOn_ne_nil x cs) hrest, List.intercalate_splitOn] at hds
      exact .inr ⟨[x].intercalate rest, by rw [← hds, List.append_assoc, List.singleton_append]⟩
  · rintro (rfl | ⟨rest, rfl⟩)
    · exact List.prefix_refl _
    · rw [List.append_assoc, List.singleton_append, List.splitOn_append_cons_self]
      exact List.prefix_append _ _

end Cuts

/-- Lists of texts begin alike exactly if their texts that are not empty do, and the empty ones stand at the
same places. -/
theorem prefix_iff_gaps : ∀ xs ys : List (List Char), xs <+: ys ↔
    xs.filter (!·.isEmpty) <+: ys.filter (!·.isEmpty) ∧ xs.map List.isEmpty <+: ys.map List.isEmpty
  | [], ys => by simp
  | x :: xs, [] => by simp
  | x :: xs, y :: ys => by
    have ih := prefix_iff_gaps xs ys
    cases x <;> cases y <;> simp [List.cons_prefix_cons, ih, and_assoc]

namespace Scope

/-! ### Parts of a scope -/

/-- The parts of a scope between its points, those that are empty too. -/
def parts (s : Scope) : List (List Char) := s.text.toList.splitOn '.'

/-- Which parts are empty. -/
def gaps (s : Scope) : List Bool := s.parts.map List.isEmpty

/-- No part is empty, unless there is no text at all. -/
def HasNoGap (s : Scope) : Prop := s.text = "" ∨ [] ∉ s.parts

theorem atoms_prefix_iff (a b : Scope) : a.atoms <+: b.atoms ↔
    a.parts.filter (!·.isEmpty) <+: b.parts.filter (!·.isEmpty) :=
  List.prefix_map_iff_of_injective fun _ _ => String.ofList_inj.mp

/-- A scope is a prefix of another one if the text is that of the other, as a whole or up to a point. -/
theorem isPrefixOf_iff_append (a b : Scope) : a.isPrefixOf b = true ↔
    a.text = "" ∨ a.text.toList = b.text.toList ∨ a.text.toList ++ ['.'] <+: b.text.toList := by
  rw [isPrefixOf, Bool.or_eq_true, isEmpty, String.isEmpty_iff]
  refine or_congr_right ?_
  cases h : a.text.toList.isPrefixOf? b.text.toList with
  | none =>
    have hnot : ∀ rest, a.text.toList ++ rest ≠ b.text.toList := fun rest hrest => by
      rw [List.isPrefixOf?_eq_some_iff_append_eq.mpr hrest] at h
      cases h
    have hwhole : a.text.toList ≠ b.text.toList := fun heq => hnot [] (by rw [heq, List.append_nil])
    have hpoint : ¬a.text.toList ++ ['.'] <+: b.text.toList := fun ⟨rest, hrest⟩ =>
      hnot ('.' :: rest) (by rw [← hrest, List.append_assoc, List.singleton_append])
    simp [hwhole, hpoint]
  | some rest =>
    rw [← List.append_eq_of_isPrefixOf?_eq_some h, List.prefix_append_right_inj]
    cases rest with
    | nil => simp
    | cons c rest => simp [List.cons_prefix_cons, eq_comm (a := '.')]

/-- **A scope is a prefix of another one exactly if its parts are the first parts of the other**, or it has
no text. -/
theorem isPrefixOf_iff_parts (a b : Scope) :
    a.isPrefixOf b = true ↔ a.text = "" ∨ a.parts <+: b.parts := by
  rw [isPrefixOf_iff_append, parts, parts, splitOn_prefix_iff]

/-- A text without gaps has all its parts as atoms. -/
theorem filter_parts {s : Scope} (h : [] ∉ s.parts) : s.parts.filter (!·.isEmpty) = s.parts :=
  List.filter_eq_self.mpr fun p hp => by
    cases p with
    | nil => exact absurd hp h
    | cons c cs => rfl

theorem filter_parts_empty {s : Scope} (h : s.text = "") : s.parts.filter (!·.isEmpty) = [] := by
  rw [parts, h]
  rfl

theorem isPrefixOf_of_hasNoGap {a b : Scope} (ha : a.HasNoGap) (hb : b.HasNoGap)
    (h : a.atoms <+: b.atoms) : a.isPrefixOf b = true := by
  refine (isPrefixOf_iff_parts a b).mpr ?_
  rcases ha with hempty | ha
  · exact .inl hempty
  rw [atoms_prefix_iff, filter_parts ha] at h
  rcases hb with hempty | hb
  · rw [filter_parts_empty hempty, List.prefix_nil] at h
    exact absurd h (List.splitOn_ne_nil '.' a.text.toList)
  · rw [filter_parts hb] at h
    exact .inr h

/-- **When a scope is a prefix of another one**: exactly if its atoms are the first atoms of the other and
its gaps stand where the other has gaps, unless it has no text at all. Between scopes without gaps the atoms
alone decide. -/
theorem isPrefixOf_iff_atoms (a b : Scope) :
    (a.isPrefixOf b = true ↔ a.atoms <+: b.atoms ∧ (a.text = "" ∨ a.gaps <+: b.gaps)) ∧
      (a.HasNoGap → b.HasNoGap → (a.isPrefixOf b = true ↔ a.atoms <+: b.atoms)) := by
  have main : a.isPrefixOf b = true ↔ a.atoms <+: b.atoms ∧ (a.text = "" ∨ a.gaps <+: b.gaps) := by
    rw [isPrefixOf_iff_parts, atoms_prefix_iff]
    by_cases hempty : a.text = ""
    · simp [hempty, filter_parts_empty hempty]
    · simp only [hempty, false_or]
      exact prefix_iff_gaps a.parts b.parts
  exact ⟨main, fun ha hb => ⟨fun h => (main.mp h).1, isPrefixOf_of_hasNoGap ha hb⟩⟩

end Scope

/-- The group of the placeholder has taken part without a text. Its name then has the atoms of the shorter
scope, which is no prefix of it. -/
theorem exists_prefix_apart : ∃ b ∈ (ScopeName.ofText "keyword.$1.cs").resolve [] [none, some (0, 0)],
    (Scope.ofText "keyword.cs").isPrefixOf b = false ∧ (Scope.ofText "keyword.cs").atoms = b.atoms :=
  ⟨Scope.ofText "keyword..cs", by decide +kernel, by decide, by decide⟩

/-- The atoms alone do not decide. -/
theorem not_isPrefixOf_atoms :
    ¬ ∀ a b : Scope, a.isPrefixOf b = true ↔ a.atoms <+: b.atoms := by
  intro decides
  obtain ⟨b, -, apart, same⟩ := exists_prefix_apart
  have h := (decides (Scope.ofText "keyword.cs") b).mpr (same ▸ List.prefix_refl _)
  rw [apart] at h
  cases h

end ScopeLexer
