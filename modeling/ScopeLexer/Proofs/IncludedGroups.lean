/-
# Including a group

A rule whose only pattern includes a group offers the candidates of the group, for it leads to the same
rules. Their order need not be the same. Within the included group the group itself is open and left out
wherever it stands; within its own list it is spelled out once more at the first place where it stands, and
what follows there comes later. So the order is the same if the group does not come back to itself through
groups.

Key definitions: `Grammar.within`.
Key theorems: `Grammar.Includes.candidates_eq`, `Grammar.spelledOut_congr`, `Grammar.candidates_include`,
`not_candidates_include`.
-/
import ScopeLexer.Grammar.Check
import ScopeLexer.Proofs.Flattening
import ScopeLexer.Proofs.Outcome

namespace ScopeLexer
namespace Grammar

/-- The list of a group spelled out where the group is open. -/
def within (g : Grammar) (group : RuleId) : List Entry :=
  (g.children group).flatMap (g.spelledOut [group])

/-- The only pattern of a rule includes a group. -/
structure Includes (g : Grammar) (id group : RuleId) : Prop where
  isGroup : (g.rule group).isGroup = true
  only : ∃ ref, (g.rule id).items = [.include ref] ∧
    g.resolveReference (g.rule id).repositories ref = some group

variable {g : Grammar} {id group : RuleId}

namespace Includes

theorem children (h : g.Includes id group) : g.children id = [group] := by
  obtain ⟨ref, hitems, href⟩ := h.only
  rw [Grammar.children, hitems, List.filterMap_cons, resolve, href]
  rfl

/-- What a rule leads to through the group that it includes, it leads to through nothing else. -/
theorem reaches_iff (h : g.Includes id group) {k : RuleId} :
    g.Reaches id k ↔ k = group ∨ g.Reaches group k := by
  have hgroup : g.Reaches id group := .child (h.children ▸ List.mem_singleton_self group)
  constructor
  · intro hk
    induction hk with
    | child hk => exact .inl (List.mem_singleton.mp (h.children ▸ hk))
    | through _ hg hk ih =>
      rcases ih with rfl | hr
      · exact .inr (.child hk)
      · exact .inr (.through hr hg hk)
  · rintro (rfl | hk)
    · exact hgroup
    · induction hk with
      | child hk => exact .through hgroup h.isGroup hk
      | through _ hg hk ih => exact .through ih hg hk

theorem mem_candidates_iff (h : g.Includes id group) {e : Entry} :
    e ∈ g.candidates id ↔ e ∈ g.candidates group := by
  rw [Grammar.mem_candidates_iff, Grammar.mem_candidates_iff, h.reaches_iff, or_and_right,
    or_iff_right_iff_imp]
  rintro ⟨hgroup, hp⟩
  rw [hgroup, entry_eq_none_of_isGroup h.isGroup] at hp
  contradiction

/-- The candidates are those of the list within the group. -/
theorem candidates_eq (h : g.Includes id group) : g.candidates id = (g.within group).eraseDups := by
  rw [candidates_eq_walk, walk_found_reverse (Nat.le_succ _), expansion, h.children,
    List.flatMap_singleton, spelledOut_group h.isGroup List.not_mem_nil, within]

theorem perm (h : g.Includes id group) : (g.candidates id).Perm (g.candidates group) :=
  (List.perm_ext_iff_of_nodup (g.nodup_candidates id).of_map (g.nodup_candidates group).of_map).mpr
    fun _ => h.mem_candidates_iff

end Includes

/-- What is open matters only as far as it is reached. -/
theorem spelledOut_congr {start : RuleId} : ∀ {opened opened' : List RuleId} {k : RuleId},
    g.Reaches start k → (∀ j, g.Reaches start j → (j ∈ opened ↔ j ∈ opened')) →
      g.spelledOut opened k = g.spelledOut opened' k := by
  intro opened opened' k hk same
  by_cases hg : (g.rule k).isGroup = true
  · by_cases ho : k ∈ opened
    · rw [spelledOut, spelledOut, if_pos hg, if_pos hg, if_pos ho, if_pos ((same k hk).mp ho)]
    · have ho' : k ∉ opened' := fun hmem => ho ((same k hk).mpr hmem)
      have inner : ∀ child ∈ g.children k,
          g.spelledOut (k :: opened) child = g.spelledOut (k :: opened') child := by
        intro child hchild
        refine spelledOut_congr (.through hk hg hchild) fun j hj => ?_
        rw [List.mem_cons, List.mem_cons, same j hj]
      rw [spelledOut_group hg ho, spelledOut_group hg ho', List.flatMap_def, List.flatMap_def,
        List.map_congr_left inner]
  · rw [spelledOut_of_not_isGroup hg, spelledOut_of_not_isGroup hg]
  termination_by opened => g.unmet opened
  decreasing_by exact unmet_cons_lt (lt_size_of_isGroup hg) ho

/-- A group that does not come back to itself is not left out anywhere. -/
theorem within_eq_expansion (h : ¬ g.Reaches group group) : g.within group = g.expansion group := by
  have same : ∀ k ∈ g.children group, g.spelledOut [group] k = g.spelledOut [] k := by
    intro k hk
    refine spelledOut_congr (.child hk) fun j hj => ?_
    have hne : j ≠ group := fun heq => h (heq ▸ hj)
    simp [hne]
  rw [within, expansion, List.flatMap_def, List.flatMap_def, List.map_congr_left same]

/-- **Including a group.** A rule whose only pattern includes a group has the candidates of the group, in the
order of the list of the group spelled out where the group is open. That is the order of the candidates of
the group if it does not come back to itself through groups. -/
theorem candidates_include (h : g.Includes id group) :
    (g.candidates id).Perm (g.candidates group) ∧
    g.candidates id = (g.within group).eraseDups ∧
    (¬ g.Reaches group group → g.candidates id = g.candidates group) := by
  refine ⟨h.perm, h.candidates_eq, fun hback => ?_⟩
  rw [h.candidates_eq, within_eq_expansion hback, candidates_eq_walk,
    walk_found_reverse (Nat.le_succ _)]

end Grammar

namespace Source

/-- A text of words in brackets. -/
def nestedWords : GrammarSource where
  scopeName := "source.words"
  patterns := [
    { matchPattern := some "[a-z]+" },
    { beginPattern := some "[(]", endPattern := some "[)]", patterns := [{ reference := some "$self" }] }]

/-- A list that begins with a group in which the whole list is included. -/
def leftRecursive : GrammarSource where
  scopeName := "source.left"
  patterns := [
    { patterns := [{ reference := some "$self" }, { name := some "inner.left", matchPattern := some "a" }] },
    { name := some "outer.left", matchPattern := some "a" },
    { beginPattern := some "[(]", endPattern := some "[)]", patterns := [{ reference := some "$self" }] }]

end Source

/-- Within brackets words and brackets are tried in the order in which they are tried outside. -/
theorem Grammar.candidates_include_nestedWords : ∃ g, ofSource Source.nestedWords = .ok g ∧
    g.Includes 2 rootRule ∧ ¬ g.Reaches rootRule rootRule ∧
      g.candidates 2 = g.candidates rootRule ∧ g.candidates rootRule = [(1, 0), (2, 2)] := by
  have run : (ofSource Source.nestedWords).toOption.any (fun g => decide (
      (g.rule rootRule).isGroup = true ∧ (g.rule 2).items = [.include .self] ∧
        g.children rootRule = [1, 2] ∧ (g.rule 1).isGroup = false ∧ (g.rule 2).isGroup = false ∧
          g.candidates rootRule = [(1, 0), (2, 2)])) = true := by
    decide +kernel
  obtain ⟨g, hg, h⟩ := exists_ok_of_any run
  obtain ⟨hgroup, hitems, hchildren, hone, htwo, hcandidates⟩ := of_decide_eq_true h
  have includes : g.Includes 2 rootRule := ⟨hgroup, .self, hitems, rfl⟩
  have reached : ∀ k, g.Reaches rootRule k → k ∈ [1, 2] := by
    intro k hk
    induction hk with
    | child hk => exact hchildren ▸ hk
    | through _ hgk _ ih => rcases List.mem_pair.mp ih with rfl | rfl <;> simp_all
  have hback : ¬ g.Reaches rootRule rootRule := fun hr => by simpa [rootRule] using reached _ hr
  exact ⟨g, hg, includes, hback, (candidates_include includes).2.2 hback, hcandidates⟩

/-- A rule that includes a group does not always try the candidates of the group in their order. -/
theorem not_candidates_include : ¬ ∀ (source : Source.GrammarSource) (g : Grammar),
    Grammar.ofSource source = .ok g → ∀ id group, g.Includes id group →
      g.candidates id = g.candidates group := by
  intro sameCandidates
  have run : (Grammar.ofSource Source.leftRecursive).toOption.any (fun g => decide (
      (g.rule Grammar.rootRule).isGroup = true ∧ (g.rule 4).items = [.include .self] ∧
        g.candidates Grammar.rootRule = [(3, 1), (4, 3), (2, 0)] ∧
          g.candidates 4 = [(2, 0), (3, 1), (4, 3)])) = true := by
    decide +kernel
  obtain ⟨g, hg, h⟩ := exists_ok_of_any run
  obtain ⟨hgroup, hitems, hroot, hfour⟩ := of_decide_eq_true h
  have includes : g.Includes 4 Grammar.rootRule := ⟨hgroup, .self, hitems, rfl⟩
  have same := sameCandidates _ g hg _ _ includes
  rw [hroot, hfour] at same
  exact absurd same (by decide)

end ScopeLexer
