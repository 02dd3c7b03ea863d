/-
# Groups that come back to themselves

A group may come back to itself through the groups that it includes. If a rule with a pattern is reached on the
way, the group has something to match, and a walk that enters each group once will do. If there is none, the
list of the group spelled out would have no end and hold nothing; such a grammar is not accepted. That is found
by two walks. One gathers the candidates of the group. The other one looks for the group itself; its steps are
bounded, and the bound is never met, as each rule is entered once and adds no more than the length of its list
to what is to be done. In a grammar that is accepted a group without candidates comes back to nothing, and its
list can be spelled out to the end.

Key definitions: `Grammar.EmptyCycle`, `Grammar.Expands`, `Grammar.owed`.
Key theorems: `Grammar.includesItself_iff`, `Grammar.checkCycles_eq`, `Grammar.expands_nil`,
`Grammar.ofSource_emptyCycle_iff`.
-/
import Mathlib.Algebra.BigOperators.Group.Finset.Basic
import Mathlib.Algebra.Order.BigOperators.Group.List
import Mathlib.Algebra.Order.Group.Nat
import Mathlib.Order.Interval.Finset.Nat
import ScopeLexer.Proofs.Flattening
import ScopeLexer.Proofs.Renumbering

namespace ScopeLexer
namespace Grammar

variable {g : Grammar} {id goal start : RuleId} {todo met : List RuleId}

/-- A group comes back to itself through groups, and reaches no rule with a pattern to be found by. -/
structure EmptyCycle (g : Grammar) (id : RuleId) : Prop where
  isGroup : (g.rule id).isGroup = true
  back : g.Reaches id id
  empty : ∀ k, g.Reaches id k → Rule.entry? (g.rule k) = none

/-- The list of a rule spelled out to the end: a group is replaced by the lists of all that it leads to,
wherever it stands, and any other rule is found by its own pattern, if it has one. -/
inductive Expands (g : Grammar) : RuleId → List Entry → Prop
  | own {id : RuleId} (hg : (g.rule id).isGroup = false) : Expands g id (g.ownEntry id).toList
  | group {id : RuleId} (hg : (g.rule id).isGroup = true) (part : RuleId → List Entry)
      (h : ∀ child ∈ g.children id, Expands g child (part child)) :
      Expands g id ((g.children id).flatMap part)

/-! ### Reaching -/

theorem Reaches.trans {k : RuleId} (h : g.Reaches start id) (hg : (g.rule id).isGroup = true)
    (hk : g.Reaches id k) : g.Reaches start k := by
  induction hk with
  | child hk => exact .through h hg hk
  | through _ hg' hk ih => exact .through ih hg' hk

/-- The first step of a way. -/
theorem Reaches.exists_child {k : RuleId} (h : g.Reaches id k) :
    ∃ child ∈ g.children id, child = k ∨ (g.rule child).isGroup = true ∧ g.Reaches child k := by
  induction h with
  | child hk => exact ⟨_, hk, .inl rfl⟩
  | through _ hg hk ih =>
    obtain ⟨child, hchild, rfl | ⟨hg', hr⟩⟩ := ih
    · exact ⟨child, hchild, .inr ⟨hg, .child hk⟩⟩
    · exact ⟨child, hchild, .inr ⟨hg', .through hr hg hk⟩⟩

theorem mem_targets_iff {k : RuleId} :
    k ∈ g.targets id ↔ (g.rule id).isGroup = true ∧ k ∈ g.children id := by
  unfold targets children
  cases hr : g.rule id with
  | group r => simp [Rule.isGroup, Rule.items, Rule.repositories, Rule.head?]
  | _ => simp [Rule.isGroup]

theorem targets_length_le (g : Grammar) (id : RuleId) :
    (g.targets id).length ≤ (g.rule id).items.length := by
  unfold targets
  cases hr : g.rule id with
  | group r => exact List.length_filterMap_le _ _
  | _ => exact Nat.zero_le _

theorem targets_of_size_le (h : g.rules.size ≤ id) : g.targets id = [] := by
  refine List.eq_nil_iff_forall_not_mem.mpr fun k hk => ?_
  exact absurd (lt_size_of_isGroup (mem_targets_iff.mp hk).1) (Nat.not_lt.mpr h)

/-! ### Looking for a rule -/

/-- What a walk may still have to do: the rules in its list, and what the rules that it has not met lead to. -/
def owed (g : Grammar) (todo met : List RuleId) : Nat :=
  todo.length + ∑ k ∈ Finset.range g.rules.size \ met.toFinset, (g.targets k).length

/-- A rule that is met for the first time adds to the list no more than what it was counted with. -/
theorem owed_enter (hid : id ∉ met) :
    g.owed (g.targets id ++ todo) (id :: met) + 1 ≤ g.owed (id :: todo) met := by
  unfold owed
  rw [List.length_append, List.length_cons, List.toFinset_cons, Finset.sdiff_insert]
  by_cases hlt : id < g.rules.size
  · have hmem : id ∈ Finset.range g.rules.size \ met.toFinset := by simp [hlt, hid]
    have hsum := Finset.add_sum_erase (ι := Nat) _ (fun k => (g.targets k).length) hmem
    omega
  · have hout : id ∉ Finset.range g.rules.size \ met.toFinset := by simp [hlt]
    rw [Finset.erase_eq_of_notMem hout, targets_of_size_le (Nat.le_of_not_lt hlt), List.length_nil]
    omega

/-- The bound on the steps of the walk is enough for all rules. -/
theorem owed_le_steps (g : Grammar) (id : RuleId) :
    g.owed [id] [] ≤ g.rules.toList.foldl (fun n r => n + r.items.length + 1) 0 + 1 := by
  have hsum : ∑ k ∈ Finset.range g.rules.size, (g.targets k).length ≤
      ((List.range g.rules.size).map fun k => (g.rule k).items.length + 1).sum := by
    rw [← List.toFinset_range, List.sum_toFinset _ List.nodup_range]
    exact List.sum_le_sum fun k _ => Nat.le_succ_of_le (g.targets_length_le k)
  rw [Renumbers.foldl_steps, toList_eq, List.map_map]
  unfold owed
  rw [List.toFinset_nil, Finset.sdiff_empty, List.length_singleton]
  simp only [Function.comp_def]
  omega

/-- What a walk meets can be reached, if it began with what can be reached. -/
theorem reaches_of_meets (hstart : (g.rule start).isGroup = true) :
    ∀ (fuel : Nat) (todo met : List RuleId), (∀ k ∈ todo, k = start ∨ g.Reaches start k) →
      g.meets goal fuel todo met = true → g.Reaches start goal
  | 0, _, _, _, h => by simp [meets] at h
  | _ + 1, [], _, _, h => by simp [meets] at h
  | fuel + 1, id :: todo, met, hin, h => by
    obtain ⟨hid, htodo⟩ := List.forall_mem_cons.mp hin
    have step : ∀ k ∈ g.targets id, g.Reaches start k := by
      intro k hk
      obtain ⟨hg, hchild⟩ := mem_targets_iff.mp hk
      rcases hid with rfl | hid
      · exact .child hchild
      · exact .through hid hg hchild
    unfold meets at h
    split at h
    · exact reaches_of_meets hstart fuel todo met htodo h
    · rcases Bool.or_eq_true_iff.mp h with hgoal | h
      · exact step goal (List.contains_iff_mem.mp hgoal)
      · refine reaches_of_meets hstart fuel _ _ (fun k hk => ?_) h
        rcases List.mem_append.mp hk with hk | hk
        · exact .inr (step k hk)
        · exact htodo k hk

/-- Some rules lead only to rules among some others, and not to the goal. -/
def LeadsOnlyTo (g : Grammar) (goal : RuleId) (met others : List RuleId) : Prop :=
  ∀ k ∈ met, ∀ target ∈ g.targets k, target ≠ goal ∧ target ∈ others

theorem LeadsOnlyTo.mono {others others' : List RuleId} (h : g.LeadsOnlyTo goal met others)
    (hsub : ∀ k ∈ others, k ∈ others') : g.LeadsOnlyTo goal met others' := by
  intro k hk target htarget
  obtain ⟨hne, hin⟩ := h k hk target htarget
  exact ⟨hne, hsub target hin⟩

/-- A walk that does not meet the goal has met all that it could come to, if it had steps enough. -/
theorem exists_closed_of_not_meets : ∀ (fuel : Nat) (todo met : List RuleId), g.owed todo met ≤ fuel →
    g.LeadsOnlyTo goal met (met ++ todo) → g.meets goal fuel todo met = false →
      ∃ all, (∀ k ∈ met ++ todo, k ∈ all) ∧ g.LeadsOnlyTo goal all all
  | _, [], met, _, hmet, _ => ⟨met ++ [], fun _ hk => hk, by rwa [List.append_nil] at hmet ⊢⟩
  | 0, id :: todo, met, howed, _, _ => by simp [owed] at howed
  | fuel + 1, id :: todo, met, howed, hmet, h => by
    unfold meets at h
    split at h
    · rename_i hcontains
      have hid : id ∈ met := List.contains_iff_mem.mp hcontains
      have hless : g.owed todo met ≤ fuel := by
        simp only [owed, List.length_cons] at howed ⊢
        omega
      have known : ∀ k ∈ met ++ id :: todo, k ∈ met ++ todo := by
        intro k hk
        rcases List.mem_append.mp hk with hk | hk
        · exact List.mem_append_left _ hk
        · rcases List.mem_cons.mp hk with rfl | hk
          · exact List.mem_append_left _ hid
          · exact List.mem_append_right _ hk
      obtain ⟨all, hsub, hall⟩ := exists_closed_of_not_meets fuel todo met hless (hmet.mono known) h
      exact ⟨all, fun k hk => hsub k (known k hk), hall⟩
    · rename_i hcontains
      have hid : id ∉ met := fun hid => hcontains (List.contains_iff_mem.mpr hid)
      obtain ⟨hgoal, h⟩ := Bool.or_eq_false_iff.mp h
      have hless : g.owed (g.targets id ++ todo) (id :: met) ≤ fuel := by
        have henter : g.owed (g.targets id ++ todo) (id :: met) + 1 ≤ g.owed (id :: todo) met :=
          g.owed_enter hid
        omega
      have known : ∀ k ∈ met ++ id :: todo, k ∈ (id :: met) ++ (g.targets id ++ todo) := by
        intro k hk
        simp only [List.mem_append, List.mem_cons] at hk ⊢
        tauto
      have hmet' : g.LeadsOnlyTo goal (id :: met) ((id :: met) ++ (g.targets id ++ todo)) := by
        refine List.forall_mem_cons.mpr ⟨fun target htarget => ⟨?_, ?_⟩, hmet.mono known⟩
        · rintro rfl
          rw [List.contains_iff_mem.mpr htarget] at hgoal
          contradiction
        · exact List.mem_append_right _ (List.mem_append_left _ htarget)
      obtain ⟨all, hsub, hall⟩ := exists_closed_of_not_meets fuel _ _ hless hmet' h
      exact ⟨all, fun k hk => hsub k (known k hk), hall⟩

/-- What is reached from rules that lead only to each other is one of them, and not the goal. -/
theorem LeadsOnlyTo.of_reaches {all : List RuleId} (hall : g.LeadsOnlyTo goal all all)
    (hstart : (g.rule start).isGroup = true) (hmem : start ∈ all) {k : RuleId} (h : g.Reaches start k) :
    k ≠ goal ∧ k ∈ all := by
  induction h with
  | child hk => exact hall start hmem _ (mem_targets_iff.mpr ⟨hstart, hk⟩)
  | through _ hg hk ih => exact hall _ ih.2 _ (mem_targets_iff.mpr ⟨hg, hk⟩)

/-- **The walk tells whether a group comes back to itself.** -/
theorem includesItself_iff (hg : (g.rule id).isGroup = true) :
    g.includesItself id = true ↔ g.Reaches id id := by
  constructor
  · exact reaches_of_meets hg _ [id] [] fun k hk => .inl (List.mem_singleton.mp hk)
  · intro hback
    by_contra h
    obtain ⟨all, hsub, hall⟩ := exists_closed_of_not_meets _ [id] [] (g.owed_le_steps id) nofun
      (Bool.eq_false_iff.mpr h)
    exact (hall.of_reaches hg (hsub id (List.mem_singleton_self id)) hback).1 rfl

theorem candidates_eq_nil_iff :
    g.candidates id = [] ↔ ∀ k, g.Reaches id k → Rule.entry? (g.rule k) = none := by
  rw [List.eq_nil_iff_forall_not_mem]
  constructor
  · intro h k hk
    refine Option.eq_none_iff_forall_not_mem.mpr fun p hp => h (k, p) ?_
    exact mem_candidates_iff.mpr ⟨hk, hp⟩
  · intro h e he
    obtain ⟨hreach, hp⟩ := mem_candidates_iff.mp he
    rw [h e.1 hreach] at hp
    contradiction

theorem emptyCycle_iff : g.EmptyCycle id ↔
    ((g.rule id).isGroup && (g.candidates id).isEmpty && g.includesItself id) = true := by
  rw [Bool.and_eq_true_iff, Bool.and_eq_true_iff, List.isEmpty_iff, candidates_eq_nil_iff]
  constructor
  · rintro ⟨hg, hback, hempty⟩
    exact ⟨⟨hg, hempty⟩, (includesItself_iff hg).mpr hback⟩
  · rintro ⟨⟨hg, hempty⟩, hback⟩
    exact ⟨hg, (includesItself_iff hg).mp hback, hempty⟩

instance (g : Grammar) (id : RuleId) : Decidable (g.EmptyCycle id) := decidable_of_iff _ emptyCycle_iff.symm

/-! ### The check -/

theorem isOk_iff {ε : Type} {x : Except ε Unit} : x.isOk = true ↔ x = .ok () := by
  cases x <;> simp [Except.isOk, Except.toBool]

/-- A check of elements one after the other ends at the first one that is refused. -/
theorem forM_refuse {ε α : Type} (p : α → Bool) (f : α → ε) : ∀ l : List α,
    (l.forM fun x => if p x = true then .error (f x) else .ok ()) =
      (l.find? p).elim (.ok () : Except ε Unit) fun x => .error (f x)
  | [] => rfl
  | x :: l => by
    rw [List.forM, List.find?_cons]
    cases hp : p x with
    | true => rfl
    | false => exact forM_refuse p f l

/-- The check refuses the first group that comes back to itself without anything to match. -/
theorem checkCycles_eq (g : Grammar) : g.checkCycles =
    ((List.range g.rules.size).find? fun id => decide (g.EmptyCycle id)).elim (.ok ())
      fun id => .error (.emptyCycle (g.describe id)) := by
  have hsame : (fun id => decide (g.EmptyCycle id)) = fun id =>
      (g.rule id).isGroup && (g.candidates id).isEmpty && g.includesItself id := by
    funext id
    exact Bool.eq_iff_iff.mpr (decide_eq_true_iff.trans emptyCycle_iff)
  rw [hsame]
  exact forM_refuse _ _ _

theorem checkCycles_error (h : g.EmptyCycle id) (hfirst : ∀ k < id, ¬ g.EmptyCycle k) :
    g.checkCycles = .error (.emptyCycle (g.describe id)) := by
  have hfind : (List.range g.rules.size).find? (fun id => decide (g.EmptyCycle id)) = some id := by
    refine List.find?_range_eq_some.mpr ⟨decide_eq_true h, ?_, fun k hk => ?_⟩
    · exact List.mem_range.mpr (lt_size_of_isGroup h.isGroup)
    · simpa using hfirst k hk
  rw [checkCycles_eq, hfind]
  rfl

theorem checkCycles_ok (h : ∀ id, ¬ g.EmptyCycle id) : g.checkCycles = .ok () := by
  have hfind : (List.range g.rules.size).find? (fun id => decide (g.EmptyCycle id)) = none :=
    List.find?_eq_none.mpr fun id _ => by simpa using h id
  rw [checkCycles_eq, hfind]
  rfl

/-! ### Lists spelled out to the end -/

/-- A group whose list is spelled out to the end does not come back to itself. -/
theorem Expands.not_reaches {es : List Entry} (h : g.Expands id es) :
    (g.rule id).isGroup = true → ¬ g.Reaches id id := by
  induction h with
  | own hno =>
    intro hg
    rw [hno] at hg
    contradiction
  | @group id hg part h ih =>
    intro _ hback
    obtain ⟨child, hchild, rfl | ⟨hgroup, hreach⟩⟩ := hback.exists_child
    · exact ih _ hchild hg hback
    · exact ih child hchild hgroup (.through hreach hg hchild)

/-- Where nothing comes back to itself without anything to match, the list of a group without candidates can be
spelled out to the end, and holds nothing. The groups that are open all lead to the rule. -/
theorem expands_nil_of_reaches (hno : ∀ k, ¬ g.EmptyCycle k) (hempty : ∀ k, g.Reaches start k →
    Rule.entry? (g.rule k) = none) : ∀ (path : List RuleId) {k : RuleId}, g.Reaches start k →
      (∀ j ∈ path, g.Reaches j k) → g.Expands k [] := by
  intro path k hk hpath
  by_cases hg : (g.rule k).isGroup = true
  · have hnew : k ∉ path := fun hmem =>
      hno k ⟨hg, hpath k hmem, fun j hj => hempty j (hk.trans hg hj)⟩
    have parts : ∀ child ∈ g.children k, g.Expands child [] := by
      intro child hchild
      refine expands_nil_of_reaches hno hempty (k :: path) (.through hk hg hchild) ?_
      refine List.forall_mem_cons.mpr ⟨.child hchild, fun j hj => ?_⟩
      exact .through (hpath j hj) hg hchild
    have h := Expands.group hg (fun _ => []) parts
    rwa [List.flatMap_eq_nil_iff.mpr fun _ _ => rfl] at h
  · have hown : g.ownEntry k = none := by
      rw [ownEntry, hempty k hk]
      rfl
    have h := Expands.own (g := g) (Bool.eq_false_iff.mpr hg)
    rwa [hown] at h
  termination_by path => g.unmet path
  decreasing_by exact unmet_cons_lt (lt_size_of_isGroup hg) hnew

theorem expands_nil (hno : ∀ k, ¬ g.EmptyCycle k) (hg : (g.rule id).isGroup = true)
    (h : g.candidates id = []) : g.Expands id [] := by
  have hempty := candidates_eq_nil_iff.mp h
  have parts : ∀ child ∈ g.children id, g.Expands child [] := fun child hchild =>
    expands_nil_of_reaches hno hempty [] (.child hchild) nofun
  have h := Expands.group hg (fun _ => []) parts
  rwa [List.flatMap_eq_nil_iff.mpr fun _ _ => rfl] at h

/-! ### Grammars -/

section

variable {s : Source.GrammarSource} (hs : Assembly.ofSource s = .ok g) (hpatterns : g.checkPatterns = .ok ())
  (hreferences : g.checkReferences = .ok ())

include hs hpatterns hreferences

/-- Where the patterns and the references have passed, only the cycles are left to be checked. -/
theorem ofSource_eq_checkCycles : ofSource s = g.checkCycles.map fun _ => g := by
  have hcheck : g.check = g.checkCycles := by
    unfold check
    rw [hpatterns, hreferences]
    rfl
  unfold ofSource
  rw [hs]
  show (g.check >>= fun _ => .ok g) = _
  rw [hcheck]
  cases g.checkCycles <;> rfl

theorem ofSource_of_emptyCycle (h : g.EmptyCycle id) (hfirst : ∀ k < id, ¬ g.EmptyCycle k) :
    ofSource s = .error (.emptyCycle (g.describe id)) := by
  rw [ofSource_eq_checkCycles hs hpatterns hreferences, checkCycles_error h hfirst]
  rfl

theorem ofSource_of_no_emptyCycle (h : ∀ id, ¬ g.EmptyCycle id) : ofSource s = .ok g := by
  rw [ofSource_eq_checkCycles hs hpatterns hreferences, checkCycles_ok h]
  rfl

/-- **Empty cycles are refused, and nothing else is at this point.** Of a source whose patterns are accepted and
whose references point to rules no grammar is made if and only if a group comes back to itself without anything
to match; the first such group is named. In a grammar that is made the list of every group without candidates
can be spelled out to the end, as the group does not come back to itself. -/
theorem ofSource_emptyCycle_iff :
    ((∃ name, ofSource s = .error (.emptyCycle name)) ↔ ∃ id, g.EmptyCycle id) ∧
    (∀ id, g.EmptyCycle id → (∀ k < id, ¬ g.EmptyCycle k) →
      ofSource s = .error (.emptyCycle (g.describe id))) ∧
    ((∀ id, ¬ g.EmptyCycle id) → ofSource s = .ok g) ∧
    (∀ made, ofSource s = .ok made → ∀ id, (made.rule id).isGroup = true → made.candidates id = [] →
      made.Expands id [] ∧ ¬ made.Reaches id id) := by
  have refused : (∃ id, g.EmptyCycle id) → ∃ name, ofSource s = .error (.emptyCycle name) := by
    intro h
    exact ⟨_, ofSource_of_emptyCycle hs hpatterns hreferences (Nat.find_spec h) fun k hk => Nat.find_min h hk⟩
  have made : (∀ id, ¬ g.EmptyCycle id) → ofSource s = .ok g := ofSource_of_no_emptyCycle hs hpatterns hreferences
  refine ⟨⟨?_, refused⟩, fun id => ofSource_of_emptyCycle hs hpatterns hreferences, made, ?_⟩
  · rintro ⟨name, hname⟩
    by_contra hno
    rw [made (not_exists.mp hno)] at hname
    contradiction
  · intro made' hmade id hg hempty
    have hno : ∀ id, ¬ g.EmptyCycle id := by
      refine not_exists.mp fun hcycle => ?_
      obtain ⟨name, hname⟩ := refused hcycle
      rw [hname] at hmade
      contradiction
    rw [made hno] at hmade
    obtain rfl := Except.ok.inj hmade
    have hexpands : g.Expands id [] := expands_nil hno hg hempty
    exact ⟨hexpands, hexpands.not_reaches hg⟩

end

end Grammar

/-- Two groups that include each other, beside something to match. -/
def Source.ringText : Source.GrammarSource where
  scopeName := "source.ring"
  patterns := [{ reference := some "#left" }, { matchPattern := some "x" }]
  repository := [("left", { patterns := [{ reference := some "#right" }] }),
    ("right", { patterns := [{ reference := some "#left" }, { }] })]

/-- They are refused, by the name of the first one. -/
theorem ofSource_ringText : ∃ g, Assembly.ofSource Source.ringText = .ok g ∧ g.checkPatterns = .ok () ∧
    g.checkReferences = .ok () ∧ g.EmptyCycle 1 ∧
    Grammar.ofSource Source.ringText = .error (.emptyCycle "#left") := by
  have run : (Assembly.ofSource Source.ringText).toOption.any (fun g =>
      decide (g.checkPatterns.isOk = true ∧ g.checkReferences.isOk = true) &&
        decide (g.EmptyCycle 1 ∧ ¬ g.EmptyCycle 0 ∧ g.describe 1 = "#left")) = true := by
    decide +kernel
  obtain ⟨g, hg, h⟩ := exists_ok_of_any run
  obtain ⟨hok, h⟩ := Bool.and_eq_true_iff.mp h
  obtain ⟨hpatterns, hreferences⟩ := of_decide_eq_true hok
  obtain ⟨hcycle, hroot, hname⟩ := of_decide_eq_true h
  have hpatterns := Grammar.isOk_iff.mp hpatterns
  have hreferences := Grammar.isOk_iff.mp hreferences
  refine ⟨g, hg, hpatterns, hreferences, hcycle, ?_⟩
  rw [← hname]
  refine (Grammar.ofSource_emptyCycle_iff hg hpatterns hreferences).2.1 1 hcycle ?_
  intro k hk
  obtain rfl : k = 0 := Nat.lt_one_iff.mp hk
  exact hroot

end ScopeLexer
