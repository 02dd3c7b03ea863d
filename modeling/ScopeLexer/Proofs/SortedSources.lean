/-
# Captures are sorted

The captures of a rule are kept sorted by the number of their group, with one rule for each group, and what
is named is kept sorted by name. An entry that is put in its place keeps such a list sorted, and one whose
key is greater than all others comes last.

Key definitions: `Sorted.Ascending`, `Source.SortedKeys`, `RuleSource.Ordered`, `GrammarSource.Ordered`.
Key theorems: `Sorted.Ascending.insert`, `Sorted.foldl_insert`.
-/
import ScopeLexer.Source.Rule

namespace ScopeLexer
namespace Sorted

variable {κ β : Type} [LT κ]

/-- Entries that are sorted by key, with one for each. -/
def Ascending (es : List (κ × β)) : Prop := (es.map (·.1)).Pairwise (· < ·)

variable [DecidableEq κ] [DecidableRel (α := κ) (· < ·)]

/-- What is there after an entry has been put in its place is that entry, or was there before. -/
theorem mem_insert {k : κ} {v : β} {e : κ × β} :
    ∀ {es : List (κ × β)}, e ∈ insert k v es → e = (k, v) ∨ e ∈ es
  | [], h => .inl (List.mem_singleton.mp h)
  | (j, w) :: rest, h => by
    rw [insert] at h
    split at h
    · exact (List.mem_cons.mp h).imp_right (List.mem_cons_of_mem _)
    · split at h
      · exact List.mem_cons.mp h
      · rcases List.mem_cons.mp h with rfl | h
        · exact .inr List.mem_cons_self
        · exact (mem_insert h).imp_right (List.mem_cons_of_mem _)

/-- An entry that is put in its place among others keeps them sorted. -/
theorem Ascending.insert [Trans (α := κ) (β := κ) (γ := κ) (· < ·) (· < ·) (· < ·)]
    [Std.Trichotomous (α := κ) (· < ·)] {k : κ} {v : β} :
    ∀ {es : List (κ × β)}, Ascending es → Ascending (Sorted.insert k v es)
  | [], _ => List.pairwise_singleton _ _
  | (j, w) :: rest, h => by
    obtain ⟨hj, hrest⟩ := List.pairwise_cons.mp h
    rw [Sorted.insert]
    split
    · rename_i heq
      subst heq
      exact h
    · rename_i hne
      split
      · rename_i hlt
        refine List.pairwise_cons.mpr ⟨fun i hi => ?_, h⟩
        rcases List.mem_cons.mp hi with rfl | hi
        · exact hlt
        · exact Trans.trans hlt (hj i hi)
      · rename_i hnlt
        refine List.pairwise_cons.mpr ⟨fun i hi => ?_, Ascending.insert hrest⟩
        obtain ⟨c, hc, rfl⟩ := List.mem_map.mp hi
        rcases mem_insert hc with rfl | hc
        · exact Classical.byContradiction fun h => hne (Std.Trichotomous.trichotomous k j hnlt h)
        · exact hj c.1 (List.mem_map_of_mem hc)

/-- An entry with the greatest key comes last. -/
theorem insert_of_forall_lt [Std.Asymm (α := κ) (· < ·)] {k : κ} {v : β} :
    ∀ {es : List (κ × β)}, (∀ e ∈ es, e.1 < k) → insert k v es = es ++ [(k, v)]
  | [], _ => rfl
  | (j, w) :: rest, h => by
    obtain ⟨hj, hrest⟩ := List.forall_mem_cons.mp h
    have hnlt : ¬k < j := Std.Asymm.asymm j k hj
    have hne : k ≠ j := fun heq => hnlt (heq ▸ hj)
    rw [insert, if_neg hne, if_neg hnlt, insert_of_forall_lt hrest, List.cons_append]

/-- Sorted entries that are put in their places one after the other come out as they are. -/
theorem foldl_insert [Std.Asymm (α := κ) (· < ·)] (es done : List (κ × β)) (h : Ascending (done ++ es)) :
    es.foldl (fun done e => insert e.1 e.2 done) done = done ++ es := by
  induction es generalizing done with
  | nil => simp
  | cons e es ih =>
    have hlast : insert e.1 e.2 done = done ++ [e] := by
      refine insert_of_forall_lt fun d hd => ?_
      rw [Ascending, List.map_append] at h
      exact (List.pairwise_append.mp h).2.2 d.1 (List.mem_map_of_mem hd) e.1 (by simp)
    rw [List.foldl_cons, hlast, ih _ (by simpa using h), List.append_assoc, List.singleton_append]

omit [LT κ] [DecidableEq κ] [DecidableRel (α := κ) (· < ·)] in
/-- Where each key stands once, the value that stands there is found. -/
theorem lookup_of_mem [BEq κ] [LawfulBEq κ] {k : κ} {v : β} {es : List (κ × β)} (h : (k, v) ∈ es)
    (hnodup : (es.map (·.1)).Nodup) : es.lookup k = some v := by
  induction es with
  | nil => cases h
  | cons e es ih =>
    obtain ⟨hnot, hnodup⟩ := List.nodup_cons.mp hnodup
    rcases List.mem_cons.mp h with rfl | h
    · rw [List.lookup_cons, beq_self_eq_true]
    · have hne : k ≠ e.1 := by
        rintro rfl
        exact hnot (List.mem_map.mpr ⟨_, h, rfl⟩)
      rw [List.lookup_cons, beq_false_of_ne hne]
      exact ih h hnodup

omit [LT κ] [DecidableRel (α := κ) (· < ·)] in
theorem erase_eq_self {k : κ} {es : List (κ × β)} (h : k ∉ es.map (·.1)) : erase k es = es := by
  refine List.filter_eq_self.mpr fun e he => decide_eq_true fun heq => h ?_
  exact heq ▸ List.mem_map_of_mem he

omit [LT κ] [DecidableRel (α := κ) (· < ·)] in
/-- An entry and the others. -/
theorem erase_perm [BEq κ] [LawfulBEq κ] {k : κ} {v : β} {es : List (κ × β)} (h : es.lookup k = some v)
    (hnodup : (es.map (·.1)).Nodup) : es.Perm ((k, v) :: erase k es) := by
  induction es with
  | nil => simp at h
  | cons e es ih =>
    obtain ⟨hnot, hnodup⟩ := List.nodup_cons.mp hnodup
    rw [List.lookup_cons] at h
    rw [erase, List.filter_cons]
    by_cases hk : k = e.1
    · subst hk
      obtain rfl : e.2 = v := by simpa using h
      rw [if_neg (by simp)]
      exact .cons _ (.of_eq (erase_eq_self hnot).symm)
    · rw [beq_false_of_ne hk] at h
      rw [if_pos (decide_eq_true (Ne.symm hk))]
      exact ((ih h hnodup).cons e).trans (.swap _ _ _)

/-- An entry that is put in its place is one more. -/
theorem insert_perm {k : κ} {v : β} {es : List (κ × β)}
    (h : k ∉ es.map (·.1)) : (insert k v es).Perm ((k, v) :: es) := by
  induction es with
  | nil => exact .refl _
  | cons e es ih =>
    obtain ⟨hne, hnot⟩ := not_or.mp (mt List.mem_cons.mpr h)
    rw [insert, if_neg hne]
    split
    · exact .refl _
    · exact ((ih hnot).cons e).trans (.swap _ _ _)

end Sorted

namespace Source

/-- Captures that are sorted by group, with one rule for each. -/
def SortedKeys {β : Type} (cs : List (Nat × β)) : Prop := (cs.map (·.1)).Pairwise (· < ·)

instance {β : Type} (cs : List (Nat × β)) : Decidable (SortedKeys cs) :=
  inferInstanceAs (Decidable ((cs.map (·.1)).Pairwise (· < ·)))

namespace RuleSource

/-- The captures of a rule, each under its own key. -/
def captureLists (r : RuleSource) : List (List (Nat × RuleSource)) :=
  [r.captures, r.beginCaptures, r.endCaptures, r.whileCaptures]

/-- The captures of a rule are sorted, and so are those of all rules in it. -/
inductive Ordered : RuleSource → Prop
  | intro {r : RuleSource} (sorted : ∀ cs ∈ r.captureLists, SortedKeys cs)
      (captures : ∀ cs ∈ r.captureLists, ∀ c ∈ cs, Ordered c.2) (patterns : ∀ q ∈ r.patterns, Ordered q)
      (repository : ∀ e ∈ r.repository, Ordered e.2) : Ordered r

theorem ordered_empty : Ordered {} := by
  refine .intro ?_ ?_ nofun nofun
  · intro cs hcs
    obtain rfl : cs = [] := by simpa [captureLists] using hcs
    exact List.Pairwise.nil
  · intro cs hcs
    obtain rfl : cs = [] := by simpa [captureLists] using hcs
    exact nofun

namespace Ordered

variable {r q : RuleSource}

/-- Keys that hold no rules do not matter. -/
theorem of_same (h : r.Ordered) (hcaptures : q.captureLists = r.captureLists)
    (hpatterns : q.patterns = r.patterns) (hrepository : q.repository = r.repository) : q.Ordered := by
  obtain ⟨sorted, captures, patterns, repository⟩ := h
  exact .intro (hcaptures ▸ sorted) (hcaptures ▸ captures) (hpatterns ▸ patterns)
    (hrepository ▸ repository)

end Ordered
end RuleSource

/-- The captures of all rules of a grammar are sorted. -/
structure GrammarSource.Ordered (g : GrammarSource) : Prop where
  patterns : ∀ r ∈ g.patterns, r.Ordered
  repository : ∀ e ∈ g.repository, e.2.Ordered

end Source
end ScopeLexer
