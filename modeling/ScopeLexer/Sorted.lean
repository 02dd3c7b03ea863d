/-
# Sorted lists of entries

A list of keys and values, sorted by key, with one value for each key. What a key stands for is found
by `lookup`.

Key definitions: `Sorted.insert`, `Sorted.erase`.
Key theorems: `lookup_insert_self`, `lookup_insert_of_ne`, `lookup_erase_self`, `lookup_erase_of_ne`.
-/

namespace ScopeLexer
namespace Sorted

variable {κ β : Type} [DecidableEq κ]

/-- The entries without those of a key. -/
def erase (k : κ) (es : List (κ × β)) : List (κ × β) := es.filter fun e => e.1 ≠ k

/-- A key that was erased has no value. -/
theorem lookup_erase_self [BEq κ] [LawfulBEq κ] (k : κ) (es : List (κ × β)) :
    (erase k es).lookup k = none := by
  induction es with
  | nil => rfl
  | cons e es ih =>
    obtain ⟨j, w⟩ := e
    unfold erase at ih ⊢
    rw [List.filter_cons]
    split
    · rename_i h
      have hk : (k == j) = false := by
        simp only [decide_eq_true_eq] at h
        simpa using fun e => h e.symm
      rw [List.lookup_cons, hk, ih]
    · exact ih

/-- Other keys keep their values. -/
theorem lookup_erase_of_ne [BEq κ] [LawfulBEq κ] {k i : κ} (es : List (κ × β)) (h : i ≠ k) :
    (erase k es).lookup i = es.lookup i := by
  induction es with
  | nil => rfl
  | cons e es ih =>
    obtain ⟨j, w⟩ := e
    unfold erase at ih ⊢
    rw [List.filter_cons]
    split
    · rw [List.lookup_cons, List.lookup_cons, ih]
    · rename_i hj
      have hk : (i == j) = false := by
        simp only [decide_eq_true_eq, Decidable.not_not] at hj
        simpa [hj] using h
      rw [List.lookup_cons, hk, ih]

variable [LT κ] [DecidableRel (α := κ) (· < ·)]

/-- An entry in its place among entries sorted by key; it takes the place of one with its key. -/
def insert (k : κ) (v : β) : List (κ × β) → List (κ × β)
  | [] => [(k, v)]
  | (j, w) :: rest =>
    if k = j then (k, v) :: rest
    else if k < j then (k, v) :: (j, w) :: rest
    else (j, w) :: insert k v rest

/-- The value of the key that was inserted is the one inserted. -/
theorem lookup_insert_self [BEq κ] [LawfulBEq κ] (k : κ) (v : β) (es : List (κ × β)) :
    (insert k v es).lookup k = some v := by
  induction es with
  | nil => simp [insert]
  | cons e es ih =>
    obtain ⟨j, w⟩ := e
    unfold insert
    split
    · simp
    · split
      · simp
      · rename_i h _
        have : (k == j) = false := by simpa using h
        rw [List.lookup_cons, this, ih]

/-- Other keys keep their values. -/
theorem lookup_insert_of_ne [BEq κ] [LawfulBEq κ] {k i : κ} (v : β) (es : List (κ × β))
    (h : i ≠ k) : (insert k v es).lookup i = es.lookup i := by
  have hk : (i == k) = false := by simpa using h
  induction es with
  | nil => simp [insert, List.lookup_cons, hk]
  | cons e es ih =>
    obtain ⟨j, w⟩ := e
    unfold insert
    split
    · rename_i hj
      subst hj
      simp [List.lookup_cons, hk]
    · split
      · simp [List.lookup_cons, hk]
      · simp [List.lookup_cons, ih]

end Sorted
end ScopeLexer
