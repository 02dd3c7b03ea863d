/-
# Rules by other numbers

Two grammars may hold the same rules by other numbers: a one-to-one map of the numbers leads from each rule
to one that does the same, and what an element of its list stands for is mapped alike. Their candidates are
then gathered in step, and so are the walks that look for groups within themselves. If one of the grammars
may be put to use, the other one may, and they tokenize every document alike.

Key definitions: `Likeness.under`, `SameRule`, `Renumbers`.
Key theorems: `Renumbers.candidates`, `Renumbers.includesItself`, `Renumbers.check_ok`,
`Renumbers.document_eq`.
-/
import Mathlib.Algebra.GroupWithZero.Nat
import Mathlib.Data.List.Nodup
import Mathlib.Data.List.Perm.Subperm
import ScopeLexer.Proofs.Assembling
import ScopeLexer.Proofs.CacheTransparency

namespace ScopeLexer

/-! ### Passing the checks -/

namespace Grammar

theorem toList_eq (g : Grammar) : g.rules.toList = (List.range g.rules.size).map g.rule := by
  refine List.ext_getElem (by simp) fun i hi _ => ?_
  have hi : i < g.rules.size := by simpa using hi
  simp [Grammar.rule, hi]

theorem forM_eq_ok {ε α : Type} {f : α → Except ε Unit} {l : List α} :
    l.forM f = .ok () ↔ ∀ x ∈ l, f x = .ok () := by
  refine ⟨forM_ok, fun h => ?_⟩
  induction l with
  | nil => rfl
  | cons x l ih =>
    rw [List.forM, h x List.mem_cons_self]
    exact ih fun y hy => h y (List.mem_cons_of_mem _ hy)

/-- A grammar passes its checks if it passes each of them. -/
theorem check_eq_ok (g : Grammar) : g.check = .ok () ↔
    g.checkPatterns = .ok () ∧ g.checkReferences = .ok () ∧ g.checkCycles = .ok () := by
  unfold Grammar.check
  cases g.checkPatterns with
  | error e => simp [bind, Except.bind]
  | ok u => cases g.checkReferences <;> simp [bind, Except.bind]

/-- An element of a list is accepted if it stands for a rule. -/
theorem checkItem_eq_ok (g : Grammar) (view : List RepositoryId) : ∀ i : Item,
    (match i with
      | .rule _ => (.ok () : Except CompileError Unit)
      | .include ref =>
        if (g.resolveReference view ref).isSome then .ok () else .error (.unresolvedInclude ref.text)) =
      .ok () ↔ (g.resolve view i).isSome = true
  | .rule _ => ⟨fun _ => rfl, fun _ => rfl⟩
  | .include ref => by
    show (if (g.resolveReference view ref).isSome then _ else _) = _ ↔ (g.resolveReference view ref).isSome
    split <;> simp_all

end Grammar

/-! ### Rules by other numbers -/

/-- Rules correspond by a map of their numbers. -/
def Likeness.under (π : RuleId → RuleId) (hπ : Function.Injective π) : Likeness where
  rule k k' := k' = π k
  flag := Eq
  rule_inj := by
    rintro a _ b _ rfl rfl
    exact hπ.eq_iff.symm
  flag_refl _ := rfl

/-- The rule with the number `k` does the same by its number in another grammar, and what an element of its list
stands for is mapped alike. -/
structure SameRule (π : RuleId → RuleId) (hπ : Function.Injective π) (g g' : Grammar) (k : RuleId) : Prop where
  alike : (g.rule k).Alike (.under π hπ) g g' (g'.rule (π k))
  entry : Option.Rel (fun p p' => g.pattern p = g'.pattern p') ( Rule.entry? (g.rule k))
    ( Rule.entry? (g'.rule (π k)))
  items : List.Forall₂ (fun i i' => g'.resolve (g'.rule (π k)).repositories i' =
    (g.resolve (g.rule k).repositories i).map π) (g.rule k).items (g'.rule (π k)).items

/-- Where neither grammar has a rule there is no difference. -/
theorem SameRule.of_size_le {π : RuleId → RuleId} (hπ : Function.Injective π) {g g' : Grammar} {k : RuleId}
    (h : g.rules.size ≤ k) (h' : g'.rules.size ≤ π k) : SameRule π hπ g g' k := by
  have hnone : g.rule k = .noop := by simp [Grammar.rule, Nat.not_lt.mpr h]
  have hnone' : g'.rule (π k) = .noop := by simp [Grammar.rule, Nat.not_lt.mpr h']
  refine ⟨?_, ?_, ?_⟩
  · rw [hnone, hnone']
    exact .noop
  · rw [hnone, hnone']
    exact .none
  · rw [hnone, hnone']
    exact .nil

/-- The rules of a grammar have other numbers in another one. -/
structure Renumbers (π : RuleId → RuleId) (g g' : Grammar) : Prop where
  injective : Function.Injective π
  scope : g.scope = g'.scope
  root : π Grammar.rootRule = Grammar.rootRule
  size : g.rules.size = g'.rules.size
  within : ∀ k, π k < g'.rules.size ↔ k < g.rules.size
  /-- Each pattern is one of the other grammar. -/
  patterns : ∀ p ∈ g'.patterns, p ∈ g.patterns
  same : ∀ k, SameRule π injective g g' k

namespace Renumbers

variable {π : RuleId → RuleId} {g g' : Grammar}

/-- The numbers of all rules are mapped to each other. -/
theorem perm (h : Renumbers π g g') :
    ((List.range g.rules.size).map π).Perm (List.range g'.rules.size) := by
  have hnodup : ((List.range g.rules.size).map π).Nodup := List.Nodup.map h.injective List.nodup_range
  refine (List.Nodup.subperm hnodup fun k' hk' => ?_).perm_of_length_le (by simp [h.size])
  obtain ⟨k, hk, rfl⟩ := List.mem_map.mp hk'
  exact List.mem_range.mpr ((h.within k).mpr (List.mem_range.mp hk))

/-- Every rule of the second grammar is one of the first. -/
theorem onto (h : Renumbers π g g') {r' : Rule} (hr' : r' ∈ g'.rules) :
    ∃ k, k < g.rules.size ∧ g'.rule (π k) = r' := by
  obtain ⟨k', hk', rfl⟩ := Array.mem_iff_getElem.mp hr'
  obtain ⟨k, hk, rfl⟩ := List.mem_map.mp (h.perm.mem_iff.mpr (List.mem_range.mpr hk'))
  exact ⟨k, List.mem_range.mp hk, by simp [Grammar.rule, hk']⟩

/-! ### Candidates -/

/-- The same has been met and found by other numbers. -/
structure Gathered (π : RuleId → RuleId) (g g' : Grammar) (s s' : Gathering) : Prop where
  met : s'.met = s.met.map π
  found : List.Forall₂ (fun e e' => e'.1 = π e.1 ∧ g.pattern e.2 = g'.pattern e'.2) s.found s'.found

theorem contains_map (h : Renumbers π g g') (ks : List RuleId) (k : RuleId) :
    (ks.map π).contains (π k) = ks.contains k := by
  rw [Bool.eq_iff_iff, List.contains_iff_mem, List.contains_iff_mem]
  exact List.mem_map_of_injective h.injective

theorem gatherItems {visit visit' : RuleId → Gathering → Gathering}
    (hvisit : ∀ k s s', Gathered π g g' s s' → Gathered π g g' (visit k s) (visit' (π k) s'))
    {view view' : List RepositoryId} {is is' : List Item}
    (h : List.Forall₂ (fun i i' => g'.resolve view' i' = (g.resolve view i).map π) is is') :
    ∀ {s s' : Gathering}, Gathered π g g' s s' →
      Gathered π g g' (g.gatherItems visit view is s) (g'.gatherItems visit' view' is' s') := by
  induction h with
  | nil => exact id
  | @cons i i' is is' hi _ ih =>
    intro s s' hs
    unfold Grammar.gatherItems
    rw [hi]
    refine ih ?_
    cases g.resolve view i with
    | none => exact hs
    | some k => exact hvisit k s s' hs

/-- A step of the walk, where the lists of groups are gathered from alike. -/
theorem gatherRule_of (h : Renumbers π g g') (fuel : Nat)
    (hlist : ∀ r r', ∀ k, g.rule k = .group r → g'.rule (π k) = .group r' → ∀ s s',
      Gathered π g g' s s' → Gathered π g g'
        (match fuel with
          | 0 => s
          | fuel + 1 => g.gatherItems (g.gatherRule fuel) r.repositories r.items s)
        (match fuel with
          | 0 => s'
          | fuel + 1 => g'.gatherItems (g'.gatherRule fuel) r'.repositories r'.items s'))
    (k : RuleId) {s s' : Gathering} (hs : Gathered π g g' s s') :
    Gathered π g g' (g.gatherRule fuel k s) (g'.gatherRule fuel (π k) s') := by
  have hmet : Gathered π g g' { s with met := k :: s.met } { s' with met := π k :: s'.met } :=
    ⟨congrArg (π k :: ·) hs.met, hs.found⟩
  have found {p p' : PatternId} (hp : g.pattern p = g'.pattern p') :
      Gathered π g g' { s with met := k :: s.met, found := (k, p) :: s.found }
        { s' with met := π k :: s'.met, found := (π k, p') :: s'.found } :=
    ⟨hmet.met, .cons ⟨rfl, hp⟩ hs.found⟩
  unfold Grammar.gatherRule
  rw [hs.met, h.contains_map]
  split
  · exact hs
  · have alike := (h.same k).alike
    have entry := (h.same k).entry
    have list := fun r r' => hlist r r' k
    rw [hs.met] at hmet found
    generalize g.rule k = r at alike entry list ⊢
    generalize g'.rule (π k) = r' at alike entry list ⊢
    cases alike with
    | group => exact list _ _ rfl rfl _ _ hmet
    | @matching m m' =>
      dsimp only [Rule.entry?] at entry ⊢
      generalize m.pattern = p at entry ⊢
      generalize m'.pattern = p' at entry ⊢
      cases entry with
      | none => exact hmet
      | some hp => exact found hp
    | beginEnd | beginWhile =>
      cases entry with
      | some hp => exact found hp
    | noop => exact hmet

theorem gatherRule (h : Renumbers π g g') : ∀ (fuel : Nat) (k : RuleId) (s s' : Gathering),
    Gathered π g g' s s' → Gathered π g g' (g.gatherRule fuel k s) (g'.gatherRule fuel (π k) s')
  | 0, k, _, _, hs => h.gatherRule_of 0 (fun _ _ _ _ _ _ _ hs => hs) k hs
  | fuel + 1, k, _, _, hs => by
    refine h.gatherRule_of (fuel + 1) (fun r r' k hr hr' s s' hs => ?_) k hs
    have items := (h.same k).items
    rw [hr, hr'] at items
    exact gatherItems (h.gatherRule fuel) items hs

/-- **The candidates** are the same by other numbers. -/
theorem candidates (h : Renumbers π g g') (k : RuleId) :
    List.Forall₂ (fun e e' => e'.1 = π e.1 ∧ g.pattern e.2 = g'.pattern e'.2) (g.candidates k)
      (g'.candidates (π k)) := by
  unfold Grammar.candidates
  rw [← h.size]
  refine List.rel_reverse (gatherItems ?_ (h.same k).items ⟨rfl, .nil⟩).found
  exact fun k s s' hs => h.gatherRule _ k s s' hs

/-! ### Groups within themselves -/

theorem filterMap_resolve {view view' : List RepositoryId} {is is' : List Item}
    (h : List.Forall₂ (fun i i' => g'.resolve view' i' = (g.resolve view i).map π) is is') :
    is'.filterMap (g'.resolve view') = (is.filterMap (g.resolve view)).map π := by
  induction h with
  | nil => rfl
  | @cons i i' is is' hi _ ih =>
    rw [List.filterMap_cons, List.filterMap_cons, hi, ih]
    cases g.resolve view i <;> rfl

theorem targets (h : Renumbers π g g') (k : RuleId) : g'.targets (π k) = (g.targets k).map π := by
  have alike := (h.same k).alike
  have items := filterMap_resolve (h.same k).items
  unfold Grammar.targets
  generalize g.rule k = r at alike items ⊢
  generalize g'.rule (π k) = r' at alike items ⊢
  cases alike with
  | group => exact items
  | _ => rfl

theorem meets (h : Renumbers π g g') (goal : RuleId) : ∀ (fuel : Nat) (todo met : List RuleId),
    g'.meets (π goal) fuel (todo.map π) (met.map π) = g.meets goal fuel todo met
  | 0, _, _ => rfl
  | _ + 1, [], _ => rfl
  | fuel + 1, k :: todo, met => by
    rw [List.map_cons]
    unfold Grammar.meets
    rw [h.contains_map, h.meets goal fuel todo met]
    split
    · rfl
    · have next : (g'.targets (π k)).contains (π goal) = (g.targets k).contains goal := by
        rw [h.targets, h.contains_map]
      have later := h.meets goal fuel (g.targets k ++ todo) (k :: met)
      rw [List.map_append, List.map_cons, ← h.targets] at later
      simp only [next, later]

theorem foldl_steps (rules : List Rule) (n : Nat) :
    rules.foldl (fun n r => n + r.items.length + 1) n = n + (rules.map (·.items.length + 1)).sum := by
  induction rules generalizing n with
  | nil => rfl
  | cons r rules ih =>
    rw [List.foldl_cons, ih, List.map_cons, List.sum_cons]
    omega

/-- The lists of all rules have as many elements. -/
theorem steps_eq (h : Renumbers π g g') :
    g'.rules.toList.foldl (fun n r => n + r.items.length + 1) 0 =
      g.rules.toList.foldl (fun n r => n + r.items.length + 1) 0 := by
  have hlength : ∀ k, (g'.rule (π k)).items.length = (g.rule k).items.length := fun k =>
    (h.same k).items.length_eq.symm
  have hsum := (h.perm.map fun k => (g'.rule k).items.length + 1).sum_nat
  rw [List.map_map] at hsum
  rw [foldl_steps, foldl_steps, Grammar.toList_eq, Grammar.toList_eq, List.map_map, List.map_map]
  simp only [Function.comp_def, hlength] at hsum ⊢
  rw [hsum]

theorem includesItself (h : Renumbers π g g') (k : RuleId) :
    g'.includesItself (π k) = g.includesItself k := by
  unfold Grammar.includesItself
  rw [h.steps_eq]
  exact h.meets k _ [k] []

/-! ### Checks -/

theorem isGroup (h : Renumbers π g g') (k : RuleId) : (g'.rule (π k)).isGroup = (g.rule k).isGroup := by
  have alike := (h.same k).alike
  generalize g.rule k = r at alike ⊢
  generalize g'.rule (π k) = r' at alike ⊢
  cases alike <;> rfl

/-- Every element of the second list is that of an element of the first one. -/
theorem exists_mem_left {α β : Type} {R : α → β → Prop} {as : List α} {bs : List β} {b : β}
    (h : List.Forall₂ R as bs) (hb : b ∈ bs) : ∃ a ∈ as, R a b := by
  induction h with
  | nil => cases hb
  | cons hab _ ih =>
    rcases List.mem_cons.mp hb with rfl | hb
    · exact ⟨_, List.mem_cons_self, hab⟩
    · obtain ⟨a, ha, hR⟩ := ih hb
      exact ⟨a, List.mem_cons_of_mem _ ha, hR⟩

/-- **A grammar passes its checks** with other numbers too. -/
theorem check_ok (h : Renumbers π g g') (hg : g.check = .ok ()) : g'.check = .ok () := by
  obtain ⟨hpatterns, hreferences, hcycles⟩ := (Grammar.check_eq_ok g).mp hg
  refine (Grammar.check_eq_ok g').mpr ⟨?_, ?_, ?_⟩
  · refine Grammar.forM_eq_ok.mpr fun p hp => Grammar.forM_eq_ok.mp hpatterns p ?_
    exact Array.mem_toList_iff.mpr (h.patterns p (Array.mem_toList_iff.mp hp))
  · refine Grammar.forM_eq_ok.mpr fun r' hr' => Grammar.forM_eq_ok.mpr fun i' hi' => ?_
    obtain ⟨k, hk, rfl⟩ := h.onto (Array.mem_toList_iff.mp hr')
    have hr : g.rule k ∈ g.rules.toList := by simp [Grammar.rule, hk]
    obtain ⟨i, hi, hresolve⟩ := exists_mem_left (h.same k).items hi'
    have hitem := (Grammar.checkItem_eq_ok g _ i).mp (Grammar.forM_eq_ok.mp (Grammar.forM_eq_ok.mp hreferences _ hr) i hi)
    refine (Grammar.checkItem_eq_ok g' _ i').mpr ?_
    rw [hresolve, Option.isSome_map]
    exact hitem
  · refine Grammar.forM_eq_ok.mpr fun k' hk' => ?_
    obtain ⟨k, hk, rfl⟩ := List.mem_map.mp (h.perm.mem_iff.mpr hk')
    have hcycle := Grammar.forM_eq_ok.mp hcycles k hk
    have hempty : (g'.candidates (π k)).isEmpty = (g.candidates k).isEmpty := by
      have hlength := (h.candidates k).length_eq
      rw [Bool.eq_iff_iff, List.isEmpty_iff_length_eq_zero, List.isEmpty_iff_length_eq_zero, hlength]
    rw [h.isGroup, h.includesItself, hempty]
    split at hcycle
    · cases hcycle
    · rename_i hno
      exact if_neg hno

/-! ### Tokens -/

theorem grammars (h : Renumbers π g g') : (Likeness.under π h.injective).Grammars g g' where
  scope := h.scope
  root := h.root.symm
  rules := by
    rintro k _ rfl
    exact (h.same k).alike

theorem means (h : Renumbers π g g') (o : Options) :
    Means.Linked Link.identity (.under π h.injective) g g' (.direct g o) (.direct g' o) where
  search := rfl
  timeIsOver := rfl
  entries := by
    rintro k _ rfl
    exact h.candidates k
  made _ := rfl

/-- **Documents** come to the same tokens with other numbers. -/
theorem document_eq (h : Renumbers π g g') (o : Options) (text : List Char) :
    ((Session.mk g o {}).document text).1 = ((Session.mk g' o {}).document text).1 := by
  rw [Session.document_direct (Memory.sound_empty g), Session.document_direct (Memory.sound_empty g')]
  exact Scanner.lines_linked ((h.means o).scanner h.grammars o.maxStalled) id (documentLines text) .none

end Renumbers
end ScopeLexer
