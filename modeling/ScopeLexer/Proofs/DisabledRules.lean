/-
# Only elements are disabled

Each rule of a grammar apart from the root is made of one rule of its source. A rule that is disabled and is an
element of a list is not among these, nor is any rule in it, so that nothing that is collected or used for a
capture comes from there, whatever is included. The flag of an entry and that of a capture are never asked for:
what is made of a source is the same with and without them. So the only rules that are collected although they
are disabled are entries, and they are reached by name.

Key definitions: `RuleSource.added`, `RuleSource.flagEntry`, `RuleSource.flagCapture`, `RuleSource.redraft`,
`Grammar.MadeOf`.
Key theorems: `Assembly.Placed.known`, `Grammar.ofSource_edit`, `Grammar.disabled_in_lists`.
-/
import ScopeLexer.Proofs.Arena
import ScopeLexer.Proofs.DisabledElements
import ScopeLexer.Proofs.Flattening
import ScopeLexer.Proofs.Placement
import ScopeLexer.Proofs.RuleOrder

namespace ScopeLexer

open Source (Flag RuleSource GrammarSource)

namespace Source.RuleSource

/-! ### The rules in a rule -/

/-- The rules in a rule, however deep, as they are added after it, each with where it stands in the one around
it. -/
def added (r : RuleSource) : List (Part × RuleSource) :=
  r.parts.attach.flatMap fun p => p.1 :: added p.1.2
  termination_by sizeOf r
  decreasing_by exact sizeOf_lt_of_mem_parts p.2

/-- Some rules with the rules in them. -/
def addedAll (ps : List (Part × RuleSource)) : List (Part × RuleSource) := ps.flatMap fun p => p :: p.2.added

theorem added_eq (r : RuleSource) : r.added = addedAll r.parts := by
  have hvalues : (r.parts.attach.flatMap fun p => p.1 :: added p.1.2) =
      r.parts.attach.unattach.flatMap fun p => p :: added p.2 := List.flatMap_subtype fun _ _ => rfl
  rw [added, hvalues, List.unattach_attach, addedAll]

theorem length_addedAll {ps : List (Part × RuleSource)} (h : ∀ p ∈ ps, p.2.added.length + 1 = p.2.count) :
    (addedAll ps).length = countAll ps := by
  induction ps with
  | nil => rfl
  | cons p ps ih =>
    have hrest := ih fun q hq => h q (List.mem_cons_of_mem _ hq)
    have hfirst := h p List.mem_cons_self
    have hcons : addedAll (p :: ps) = (p :: p.2.added) ++ addedAll ps := rfl
    rw [hcons, List.length_append, List.length_cons, hrest, hfirst, countAll_cons]

/-- A rule is counted with the rules in it. -/
theorem length_added (r : RuleSource) : r.added.length + 1 = r.count := by
  induction r using RuleSource.induction with
  | h r ih =>
    have hcount : r.count = 1 + countAll r.parts := r.count_eq
    rw [added_eq, length_addedAll ih, hcount, Nat.add_comm]

variable {n k i : Nat} {ps : List (Part × RuleSource)} {p : Part × Nat × RuleSource} {r t : RuleSource}
  {x : Part × RuleSource}

/-- A numbered rule and those in it stand one after the other. -/
theorem getElem?_addedAll (h : p ∈ numbered n ps) : ∃ a, p.2.1 = n + a ∧
    (addedAll ps)[a]? = some (p.1, p.2.2) ∧
      ∀ j x, p.2.2.added[j]? = some x → (addedAll ps)[a + 1 + j]? = some x := by
  induction ps generalizing n with
  | nil => cases h
  | cons q ps ih =>
    have hcons : addedAll (q :: ps) = (q :: q.2.added) ++ addedAll ps := rfl
    have hlength : (q :: q.2.added).length = q.2.count := q.2.length_added
    rcases List.mem_cons.mp h with rfl | h
    · refine ⟨0, rfl, rfl, fun j x hx => ?_⟩
      have hj : j + 1 < (q :: q.2.added).length := Nat.succ_lt_succ (List.getElem?_eq_some_iff.mp hx).1
      rw [hcons, Nat.zero_add, Nat.add_comm, List.getElem?_append_left hj]
      exact hx
    · obtain ⟨a, ha, hself, hparts⟩ := ih h
      have hshift : ∀ m, (addedAll (q :: ps))[q.2.count + m]? = (addedAll ps)[m]? := by
        intro m
        rw [hcons, ← hlength, List.getElem?_append_right (Nat.le_add_right _ _), Nat.add_sub_cancel_left]
      refine ⟨q.2.count + a, by omega, (hshift a).trans hself, fun j x hx => ?_⟩
      rw [Nat.add_assoc, Nat.add_assoc, hshift, ← Nat.add_assoc]
      exact hparts j x hx

/-- What stands somewhere is one of some rules or is in one of them. -/
theorem exists_numbered_of_addedAll (n : Nat) (h : (addedAll ps)[i]? = some x) :
    ∃ p : Part × Nat × RuleSource, p ∈ numbered n ps ∧ ((n + i = p.2.1 ∧ x = (p.1, p.2.2)) ∨
      ∃ j, n + i = p.2.1 + 1 + j ∧ p.2.2.added[j]? = some x) := by
  induction ps generalizing n i with
  | nil => cases h
  | cons q ps ih =>
    have hcons : addedAll (q :: ps) = (q :: q.2.added) ++ addedAll ps := rfl
    have hlength : (q :: q.2.added).length = q.2.count := q.2.length_added
    rw [hcons] at h
    by_cases hi : i < (q :: q.2.added).length
    · rw [List.getElem?_append_left hi] at h
      refine ⟨(q.1, n, q.2), List.mem_cons_self, ?_⟩
      cases i with
      | zero => exact .inl ⟨rfl, (Option.some.inj h).symm⟩
      | succ j => exact .inr ⟨j, by rw [Nat.add_assoc, Nat.add_comm 1], h⟩
    · rw [List.getElem?_append_right (Nat.le_of_not_lt hi), hlength] at h
      obtain ⟨p, hp, hx⟩ := ih (n + q.2.count) h
      refine ⟨p, List.mem_cons_of_mem _ hp, ?_⟩
      have hsum : n + q.2.count + (i - q.2.count) = n + i := by omega
      rwa [hsum] at hx

/-- The rules in the rule `r` stand in `t` behind the number `k`. -/
def Holds (t : RuleSource) (k : Nat) (r : RuleSource) : Prop :=
  ∀ i x, r.added[i]? = some x → t.added[k + i]? = some x

theorem Holds.self (t : RuleSource) : t.Holds 0 t := fun i _ hx => (Nat.zero_add i).symm ▸ hx

/-- What is in a rule stands where its number says. -/
theorem Holds.part (h : t.Holds k r) (hp : p ∈ numbered (k + 1) r.parts) :
    (∃ i, p.2.1 = i + 1 ∧ t.added[i]? = some (p.1, p.2.2)) ∧ t.Holds p.2.1 p.2.2 := by
  obtain ⟨a, ha, hself, hparts⟩ := getElem?_addedAll hp
  rw [← added_eq] at hself hparts
  refine ⟨⟨k + a, by omega, h a _ hself⟩, fun j x hx => ?_⟩
  have hsum : p.2.1 + j = k + (a + 1 + j) := by omega
  exact hsum ▸ h _ _ (hparts j x hx)

/-! ### Parts by their numbers -/

theorem isDisabled_of_mem_memberParts {index : Nat} {p : Part × RuleSource} {ms : List RuleSource}
    (h : p ∈ memberParts index ms) : (∃ i, p.1 = .member i) ∧ p.2.isDisabled = false := by
  induction ms generalizing index with
  | nil => cases h
  | cons m ms ih =>
    rw [memberParts] at h
    split at h
    · exact ih h
    · rename_i hm
      rcases List.mem_cons.mp h with rfl | h
      · exact ⟨⟨index, rfl⟩, by simpa using (Bool.or_eq_false_iff.mp (Bool.not_eq_true _ ▸ hm)).1⟩
      · exact ih h

/-- An element that is added is not disabled. -/
theorem isDisabled_of_mem_parts {p : Part × RuleSource} (h : p ∈ r.parts) {i : Nat} (hi : p.1 = .member i) :
    p.2.isDisabled = false := by
  simp only [parts, innerParts, List.mem_append, List.mem_map] at h
  rcases h with ⟨e, -, rfl⟩ | (⟨c, -, rfl⟩ | ⟨c, -, rfl⟩) | hm
  · cases hi
  · cases hi
  · cases hi
  · exact (isDisabled_of_mem_memberParts hm).2

theorem isDisabled_of_mem_added (t : RuleSource) :
    ∀ x ∈ t.added, ∀ i, x.1 = .member i → x.2.isDisabled = false := by
  induction t using RuleSource.induction with
  | h t ih =>
    intro x hx i hi
    rw [added_eq] at hx
    obtain ⟨p, hp, hx⟩ := List.mem_flatMap.mp hx
    rcases List.mem_cons.mp hx with rfl | hx
    · exact isDisabled_of_mem_parts hp hi
    · exact ih p hp x hx i hi

theorem countAll_append {κ : Type} (ps qs : List (κ × RuleSource)) :
    countAll (ps ++ qs) = countAll ps + countAll qs := by
  simp [countAll]

/-- The numbers of the parts of a rule. -/
theorem numbered_parts (r : RuleSource) (k : Nat) : numbered (k + 1) r.parts =
    (numbered (k + 1) r.repository).map (fun e => (.entry e.1, e.2)) ++
      ((numbered (r.firstOpening k) r.openings).map (fun c => (.opening c.1, c.2)) ++
        (numbered (r.firstClosing k) r.closings).map (fun c => (.closing c.1, c.2)) ++
          numbered (r.firstMember k) (memberParts 0 r.members)) := by
  simp only [parts, innerParts, numbered_append, numbered_map, countAll_map, countAll_append]
  simp only [firstMember, firstClosing, firstOpening, Nat.add_assoc]

/-- A rule in a list is an element of it. -/
theorem Listed.exists_member {own : String} {ms : List RuleSource} {is : List Item} {j : RuleId}
    (h : Listed own n ms is) (hj : .rule j ∈ is) (index : Nat) :
    ∃ i q, (Part.member i, j, q) ∈ numbered n (memberParts index ms) := by
  induction h generalizing index with
  | nil n => cases hj
  | disabled hd _ ih =>
    rw [memberParts, hd]
    exact ih hj (index + 1)
  | reference hd ht _ _ ih =>
    rw [memberParts, hd, ht]
    exact ih (by simpa using hj) (index + 1)
  | @rule n m ms is hd hr _ ih =>
    have hparts : memberParts index (m :: ms) = (.member index, m) :: memberParts (index + 1) ms := by
      simp [memberParts, hd, hr]
    rw [hparts, numbered]
    rcases List.mem_cons.mp hj with hj | hj
    · obtain rfl := Item.rule.inj hj
      exact ⟨index, m, List.mem_cons_self⟩
    · obtain ⟨i, q, hq⟩ := ih hj (index + 1)
      exact ⟨i, q, List.mem_cons_of_mem _ hq⟩

end Source.RuleSource

namespace Assembly

variable {own : String} {view view' : List RepositoryId} {t r : RuleSource} {k : Nat} {b : Assembly}

open Source.RuleSource (Part numbered captureIds)

/-- What is used for a group is a capture. -/
theorem exists_of_mem_captureIds {cs : List (Nat × RuleSource)} {j : RuleId}
    (h : some j ∈ spreadCaptures (captureIds k cs)) : ∃ c q, (c, j, q) ∈ numbered k cs := by
  rw [spreadCaptures] at h
  split at h
  · cases h
  · obtain ⟨i, -, hi⟩ := List.mem_map.mp h
    obtain ⟨before, after, hmem, -⟩ := List.lookup_eq_some_iff.mp hi
    have hij : (i, j) ∈ captureIds k cs := hmem ▸ List.mem_append_right before List.mem_cons_self
    obtain ⟨c, hc, hcij⟩ := List.mem_map.mp hij
    obtain ⟨rfl, rfl⟩ := Prod.mk.inj hcij
    exact ⟨c.1, c.2.2, hc⟩

/-! ### What stands where -/

/-- The names in view are those of entries in the rule `t`. -/
def Entered (b : Assembly) (t : RuleSource) (view : List RepositoryId) : Prop :=
  ∀ name id, b.find? view name = some id → ∃ i q, id = i + 1 ∧ t.added[i]? = some (.entry name, q)

/-- The rule with the number `k` stands for the rule `r` in `t`, with the rules in it behind, and has entries in
view. -/
def Known (b : Assembly) (own : String) (t : RuleSource) (k : RuleId) (r : RuleSource) : Prop :=
  t.Holds k r ∧ ∃ view, b.Stands own view k r ∧ b.Entered t view

/-- The entries of a rule come into view. -/
theorem Entered.sees (h : b.Entered t view) (sees : b.Sees view view' k r) (holds : t.Holds k r) :
    b.Entered t view' := by
  intro name id hid
  rw [sees.find?] at hid
  cases he : (numbered (k + 1) r.repository).lookup name with
  | none => exact h name id (by simpa [he] using hid)
  | some e =>
    obtain rfl : e.1 = id := by simpa [he] using hid
    obtain ⟨before, after, hmem, -⟩ := List.lookup_eq_some_iff.mp (RuleSource.lookup_entry he)
    obtain ⟨⟨i, hi, hx⟩, -⟩ := holds.part (p := (.entry name, e.1, e.2))
      (hmem ▸ List.mem_append_right before List.mem_cons_self)
    exact ⟨i, e.2, hi, hx⟩

/-- If the parts of a rule are known with all rules in them, so are all rules in it. -/
theorem known_of_parts (parts : ∀ p ∈ numbered (k + 1) r.parts, b.Known own t p.2.1 p.2.2 ∧
      ∀ i x, p.2.2.added[i]? = some x → b.Known own t (p.2.1 + 1 + i) x.2) :
    ∀ i x, r.added[i]? = some x → b.Known own t (k + 1 + i) x.2 := by
  intro i x hx
  rw [RuleSource.added_eq] at hx
  obtain ⟨p, hp, ⟨hi, rfl⟩ | ⟨j, hj, hx⟩⟩ := RuleSource.exists_numbered_of_addedAll (k + 1) hx
  · exact hi ▸ (parts p hp).1
  · exact hj ▸ (parts p hp).2 j x hx

/-- **A rule that is placed is known**, with all rules in it. -/
theorem Placed.known (h : b.Placed own view k r) (holds : t.Holds k r) (hview : b.Entered t view) :
    b.Known own t k r ∧ ∀ i x, r.added[i]? = some x → b.Known own t (k + 1 + i) x.2 := by
  induction h with
  | intro sees stands _ ih =>
    have inner := hview.sees sees holds
    exact ⟨⟨holds, _, stands, inner⟩, known_of_parts fun p hp => ih p hp (holds.part hp).2 inner⟩

/-! ### What is made of what -/

/-- The captures of what is made are those that were added. -/
theorem mem_made_captureLists {head : RuleHead} {first : PatternId} {os cs rules : CaptureRules} {is : List Item}
    (h : rules ∈ (r.made head first os cs is).captureLists) : rules = os ∨ rules = cs := by
  rw [RuleSource.made] at h
  cases hk : r.kind with
  | matching p => exact .inl (by simpa [hk, Rule.captureLists] using h)
  | continued p w => simpa [hk, Rule.captureLists] using h
  | ended p e => simpa [hk, Rule.captureLists] using h
  | group => cases is <;> simp [hk, Rule.captureLists] at h

end Assembly

namespace Grammar

open Assembly (Known Entered)
open Source.RuleSource (Part numbered)

variable {g : Grammar} {s : GrammarSource} {root : Option RepositoryId} {b : Assembly} {k j : RuleId}
  {r : RuleSource}

/-- The rule with the number `id` is made of the rule `q`, which stands as `p` in one around it. -/
def MadeOf (g : Grammar) (s : GrammarSource) (id : RuleId) (p : Part) (q : RuleSource) : Prop :=
  ∃ i, id = i + 1 ∧ s.root.added[i]? = some (p, q) ∧ ∃ view first os cs is,
    g.rules[id]? = some (q.made ⟨id, q.name.map ScopeName.ofText, view⟩ first os cs is)

/-- All rules of a source are known in what is assembled from it, and the names in view are those of entries. -/
structure Laying (g : Grammar) (s : GrammarSource) (root : Option RepositoryId) (b : Assembly) : Prop where
  holds : g.Holds b
  top : g.rootRepository = root
  size : g.rules.size = s.root.added.length + 1
  known : ∀ i x, s.root.added[i]? = some x → b.Known g.scopeName s.root (i + 1) x.2
  entered : b.Entered s.root root.toList
  root : ∃ is, b.rules[rootRule]? = some (.group ⟨⟨rootRule, none, root.toList⟩, none, is⟩) ∧
    RuleSource.Listed g.scopeName (s.root.firstMember rootRule) s.root.members is

theorem AssembledFrom.laying (hb : g.AssembledFrom s root b) : g.Laying s root b := by
  obtain ⟨sees, hsize, hroot, parts⟩ := Assembly.addGrammar_placed hb.assembled
  have nothing : b.Entered s.root [] := nofun
  have entered := nothing.sees sees (RuleSource.Holds.self s.root)
  refine ⟨hb.holds, hb.rootRepository, ?_, fun i x hx => ?_, entered, hroot⟩
  · rw [hb.rules, hsize, RuleSource.length_added]
  · have known := Assembly.known_of_parts (k := rootRule) (fun p hp =>
      (parts p hp).known ((RuleSource.Holds.self s.root).part hp).2 entered) i x hx
    have hone : rootRule + 1 + i = i + 1 := by rw [rootRule, Nat.zero_add, Nat.add_comm]
    exact hone ▸ known

theorem lt_size_of_ne_noop (h : g.rule k ≠ .noop) : k < g.rules.size := by
  by_contra hlt
  exact h (by simp [rule, Array.getD_eq_getD_getElem?, Array.getElem?_eq_none (Nat.le_of_not_lt hlt)])

namespace Laying

/-- What is written somewhere is what the rule of that number is made of. -/
theorem madeOf (h : g.Laying s root b) {i : Nat} {p : Part} {q : RuleSource}
    (hi : s.root.added[i]? = some (p, q)) : g.MadeOf s (i + 1) p q := by
  obtain ⟨-, view, ⟨first, is, hrule, -, -⟩, -⟩ := h.known i _ hi
  exact ⟨i, rfl, hi, view, first, _, _, is, h.holds.rules ▸ hrule⟩

/-- A part of a rule is what the rule of its number is made of. -/
theorem madeOf_part (h : g.Laying s root b) {p : Part} {q : RuleSource} (holds : s.root.Holds k r)
    (hp : (p, j, q) ∈ numbered (k + 1) r.parts) : g.MadeOf s j p q := by
  obtain ⟨⟨i, rfl, hi⟩, -⟩ := holds.part hp
  exact h.madeOf hi

/-- A name in view leads to an entry. -/
theorem madeOf_entry (h : g.Laying s root b) {view : List RepositoryId} {name : String}
    (hview : b.Entered s.root view) (hj : b.find? view name = some j) : ∃ q, g.MadeOf s j (.entry name) q := by
  obtain ⟨i, q, rfl, hi⟩ := hview name j hj
  exact ⟨q, h.madeOf hi⟩

/-- What an element of a list stands for is an element of that list, an entry or the root. -/
theorem madeOf_item (h : g.Laying s root b) {view : List RepositoryId} {is : List Item} {item : Item}
    (hview : b.Entered s.root view) (holds : s.root.Holds k r)
    (listed : RuleSource.Listed g.scopeName (r.firstMember k) r.members is) (hitem : item ∈ is)
    (hj : g.resolve view item = some j) :
    j = rootRule ∨ ∃ p q, g.MadeOf s j p q ∧ ((∃ i, p = .member i) ∨ ∃ name, p = .entry name) := by
  cases item with
  | rule id =>
    obtain rfl : id = j := Option.some.inj hj
    obtain ⟨i, q, hq⟩ := listed.exists_member hitem 0
    have hpart : (Part.member i, id, q) ∈ numbered (k + 1) r.parts := by
      rw [RuleSource.numbered_parts]
      exact List.mem_append_right _ (List.mem_append_right _ hq)
    exact .inr ⟨_, q, h.madeOf_part holds hpart, .inl ⟨i, rfl⟩⟩
  | «include» ref =>
    cases ref with
    | self => exact .inl (Option.some.inj hj).symm
    | base => exact .inl (Option.some.inj hj).symm
    | named name =>
      rw [resolve, resolveReference, h.holds.entry?_eq] at hj
      obtain ⟨q, hq⟩ := h.madeOf_entry hview hj
      exact .inr ⟨_, q, hq, .inr ⟨name, rfl⟩⟩
    | topLevel name =>
      rw [resolve, resolveReference, h.holds.topLevel?_eq h.top] at hj
      obtain ⟨q, hq⟩ := h.madeOf_entry h.entered hj
      exact .inr ⟨_, q, hq, .inr ⟨name, rfl⟩⟩

/-- Each rule is the root or one that is written somewhere. -/
theorem exists_known (h : g.Laying s root b) (hk : k < g.rules.size) : k = rootRule ∨
    ∃ x ∈ s.root.added, b.Known g.scopeName s.root k x.2 := by
  cases k with
  | zero => exact .inl rfl
  | succ i =>
    have hi : i < s.root.added.length := Nat.lt_of_succ_lt_succ (Nat.lt_of_lt_of_eq hk h.size)
    exact .inr ⟨_, List.getElem_mem hi, h.known i _ (List.getElem?_eq_getElem hi)⟩

/-- What the list of a rule leads to is an element, an entry or the root. -/
theorem madeOf_child (h : g.Laying s root b) (hj : j ∈ g.children k) :
    j = rootRule ∨ ∃ p q, g.MadeOf s j p q ∧ ((∃ i, p = .member i) ∨ ∃ name, p = .entry name) := by
  obtain ⟨item, hitem, hj⟩ := List.mem_filterMap.mp hj
  have hk : k < g.rules.size := lt_size_of_ne_noop fun hnoop => by
    rw [hnoop] at hitem
    cases hitem
  rcases h.exists_known hk with rfl | ⟨x, -, holds, view, ⟨first, is, hrule, -, listed⟩, hview⟩
  · obtain ⟨is, hrule, listed⟩ := h.root
    rw [h.holds.rule hrule] at hitem hj
    exact h.madeOf_item h.entered (RuleSource.Holds.self s.root) listed hitem hj
  · rw [h.holds.rule hrule] at hitem hj
    have hempty : x.2.members = [] → is = [] := fun hmembers => by
      rw [hmembers] at listed
      cases listed
      rfl
    obtain ⟨hitems, hrepositories⟩ := RuleSource.made_items hempty ⟨k, x.2.name.map ScopeName.ofText, view⟩
      first _ _
    rw [hitems] at hitem
    rw [hrepositories (List.ne_nil_of_mem hitem)] at hj
    exact h.madeOf_item hview holds listed hitem hj

/-- What is collected is an element or an entry. -/
theorem madeOf_candidate (h : g.Laying s root b) {e : Entry} (he : e ∈ g.candidates k) :
    ∃ p q, g.MadeOf s e.1 p q ∧ ((∃ i, p = .member i) ∨ ∃ name, p = .entry name) := by
  obtain ⟨reaches, hentry⟩ := mem_candidates_iff.mp he
  have hroot : e.1 ≠ rootRule := by
    intro hid
    obtain ⟨is, hrule, -⟩ := h.root
    rw [hid, h.holds.rule hrule] at hentry
    cases hentry
  cases reaches with
  | child hj => exact (h.madeOf_child hj).resolve_left hroot
  | through _ _ hj => exact (h.madeOf_child hj).resolve_left hroot

/-- What is used for a group of a match is a capture. -/
theorem madeOf_capture (h : g.Laying s root b) {rules : CaptureRules} (hrules : rules ∈ (g.rule k).captureLists)
    (hj : some j ∈ rules) : ∃ p q, g.MadeOf s j p q ∧ ∃ i, p = .opening i ∨ p = .closing i := by
  have hk : k < g.rules.size := lt_size_of_ne_noop fun hnoop => by
    rw [hnoop] at hrules
    cases hrules
  rcases h.exists_known hk with rfl | ⟨x, -, holds, view, ⟨first, is, hrule, -, -⟩, -⟩
  · obtain ⟨is, hrule, -⟩ := h.root
    rw [h.holds.rule hrule] at hrules
    cases hrules
  · rw [h.holds.rule hrule] at hrules
    rcases Assembly.mem_made_captureLists hrules with rfl | rfl
    · obtain ⟨i, q, hq⟩ := Assembly.exists_of_mem_captureIds hj
      have hpart : (Part.opening i, j, q) ∈ numbered (k + 1) x.2.parts := by
        rw [RuleSource.numbered_parts]
        exact List.mem_append_right _ (List.mem_append_left _ (List.mem_append_left _
          (List.mem_map.mpr ⟨_, hq, rfl⟩)))
      exact ⟨_, q, h.madeOf_part holds hpart, i, .inl rfl⟩
    · obtain ⟨i, q, hq⟩ := Assembly.exists_of_mem_captureIds hj
      have hpart : (Part.closing i, j, q) ∈ numbered (k + 1) x.2.parts := by
        rw [RuleSource.numbered_parts]
        exact List.mem_append_right _ (List.mem_append_left _ (List.mem_append_right _
          (List.mem_map.mpr ⟨_, hq, rfl⟩)))
      exact ⟨_, q, h.madeOf_part holds hpart, i, .inr rfl⟩

end Laying

end Grammar

/-! ### Flags that do not count -/

namespace Source.RuleSource

/-- A rule with another flag. -/
def flagged (flag : Option Flag) (r : RuleSource) : RuleSource := { r with disabled := flag }

/-- A rule with another flag at an entry. -/
def flagEntry (flag : Option Flag) (i : Nat) (r : RuleSource) : RuleSource :=
  { r with repository := r.repository.modify i fun e => (e.1, e.2.flagged flag) }

/-- A rule with another flag at a capture. -/
def flagCapture (flag : Option Flag) (key : CaptureKey) (i : Nat) (r : RuleSource) : RuleSource :=
  r.withCaptures ((r.capturesOf key).modify i fun c => (c.1, c.2.flagged flag)) key

/-- A rule with something else in the place of an element, if that is disabled. -/
def redraft (q : RuleSource) (i : Nat) (r : RuleSource) : RuleSource :=
  { r with patterns := r.patterns.modify i fun m => if m.isDisabled then q else m }

/-- A rule with its own captures under a key is the rule itself. -/
theorem withCaptures_self (r : RuleSource) (key : CaptureKey) : r.withCaptures (r.capturesOf key) key = r := by
  cases r
  cases key <;> rfl

/-- Pairs whose values stay are left as they are. -/
theorem modify_values {κ : Type} {f : RuleSource → RuleSource} (hf : ∀ q, f q = q) (es : List (κ × RuleSource))
    (i : Nat) : (es.modify i fun e => (e.1, f e.2)) = es := by
  have hid : (fun e : κ × RuleSource => (e.1, f e.2)) = id := funext fun e => Prod.ext rfl (hf e.2)
  rw [hid, List.modify_id]

/-- Nothing changes where nothing is replaced. -/
theorem edit_id : ∀ (p : List Step) (r : RuleSource), r.edit id p = r
  | [], _ => rfl
  | .entry i :: p, r => by
    rw [edit, modify_values (edit_id p)]
    cases r
    rfl
  | .capture key i :: p, r => by
    rw [edit, modify_values (edit_id p), withCaptures_self]
  | .element i :: p, r => by
    have hid : edit id p = id := funext (edit_id p)
    rw [edit, hid, List.modify_id]
    cases r
    rfl

end Source.RuleSource

namespace Assembly

/-- The flag of a rule is not looked at when the rule is added. -/
theorem alike_flagged (flag : Option Flag) (q : RuleSource) : Alike (q.flagged flag) q :=
  ⟨fun own view => by rw [addRule_eq, addRule_eq]; rfl, fun _ _ => rfl, fun _ _ => rfl⟩

theorem alike_flagEntry (flag : Option Flag) (i : Nat) (r : RuleSource) : Alike (r.flagEntry flag i) r := by
  have entries : ∀ own view, addRepository own view (r.repository.modify i fun e => (e.1, e.2.flagged flag)) =
      addRepository own view r.repository := fun own view => by
    have same : addRepository own view (r.repository.modify i fun e => (e.1, e.2.flagged flag)) =
        addRepository own view (r.repository.modify i fun e => (e.1, id e.2)) :=
      addRepository_modify fun e _ => alike_flagged flag e.2
    rwa [RuleSource.modify_values (f := id) fun _ => rfl] at same
  have alike := alike_of_lists (r := r) entries (.refl r.captures) (.refl r.beginCaptures) (.refl r.endCaptures)
    (.refl r.whileCaptures) (.refl r.patterns)
  cases r
  exact alike

theorem alike_flagCapture (flag : Option Flag) (key : Source.CaptureKey) (i : Nat) (r : RuleSource) :
    Alike (r.flagCapture flag key i) r := by
  have captures : SameCaptures ((r.capturesOf key).modify i fun c => (c.1, c.2.flagged flag))
      ((r.capturesOf key).modify i fun c => (c.1, id c.2)) := .modify fun c _ => alike_flagged flag c.2
  rw [RuleSource.modify_values (f := id) fun _ => rfl] at captures
  have alike := alike_of_captures (r := r) key captures
  rwa [RuleSource.withCaptures_self] at alike

/-- A disabled element may be any other one that is disabled. -/
theorem alike_redraft {q : RuleSource} (hq : q.isDisabled = true) (i : Nat) (r : RuleSource) :
    Alike (RuleSource.redraft q i r) r := by
  have elements : ∀ own view, addItems own view (r.patterns.modify i fun m => if m.isDisabled then q else m) =
      addItems own view r.patterns := fun own view => by
    have same : addItems own view (r.patterns.modify i fun m => if m.isDisabled then q else m) =
        addItems own view (r.patterns.modify i id) := addItems_modify fun m _ => by
      cases hm : m.isDisabled with
      | true => rw [if_pos rfl, id, addItems_disabled hq, addItems_disabled hm]
      | false => rw [if_neg Bool.false_ne_true, id]
    rwa [List.modify_id] at same
  have alike := alike_of_elements (r := r) ⟨isEmpty_modify _ _ _, elements⟩
  cases r
  exact alike

end Assembly

namespace Grammar

/-- **A source may be changed** where what replaces a rule is added alike. -/
theorem ofSource_edit {f : RuleSource → RuleSource} (hdisabled : ∀ q, (f q).isDisabled = q.isDisabled)
    (hreference : ∀ q, (f q).reference = q.reference) (alike : ∀ q, Assembly.Alike (f q) q)
    (s : GrammarSource) (place : List Source.Step) : ofSource (s.edit f place) = ofSource s := by
  have root : Assembly.Alike (s.root.edit f place) (s.root.edit id place) :=
    Assembly.alike_edit (fun q => ⟨hdisabled q, rfl⟩) (fun q hq => ⟨(hreference q).trans hq, hq⟩) place s.root
      (fun _ q => ⟨hreference q, rfl⟩) fun q _ => alike q
  rw [RuleSource.edit_id] at root
  have assembled : Assembly.ofSource (s.edit f place) = Assembly.ofSource s := by
    have hrepository := fun own view => root.repository own view
    have helements := fun own view => root.elements own view
    simp only [Assembly.ofSource, Assembly.addGrammar, GrammarSource.edit, hrepository, helements]
    rfl
  rw [ofSource, ofSource, assembled]

/-- **Only elements are disabled.** Each rule of a grammar but the root is made of a rule that is written in its
source, and none of one that is disabled and an element of a list. What is collected is an element that is not
disabled, or an entry, and what is used for a group is a capture. What is written in a disabled element does not
count, and neither does the flag of an entry or of a capture. -/
theorem disabled_in_lists (hg : ofSource s = .ok g) :
    (∀ id < g.rules.size, id ≠ rootRule → ∃ p q, g.MadeOf s id p q) ∧
    (∀ id p q, g.MadeOf s id p q → q.isDisabled = true → ∀ i, p ≠ .member i) ∧
    (∀ k, ∀ e ∈ g.candidates k, ∃ p q, g.MadeOf s e.1 p q ∧
      (q.isDisabled = true → ∃ name, p = .entry name)) ∧
    (∀ k, ∀ rules ∈ (g.rule k).captureLists, ∀ id, some id ∈ rules →
      ∃ p q, g.MadeOf s id p q ∧ ∃ i, p = .opening i ∨ p = .closing i) ∧
    (∀ place i q, q.isDisabled = true → ofSource (s.edit (RuleSource.redraft q i) place) = ofSource s) ∧
    ∀ place flag i, ofSource (s.edit (RuleSource.flagEntry flag i) place) = ofSource s ∧
      ∀ key, ofSource (s.edit (RuleSource.flagCapture flag key i) place) = ofSource s := by
  obtain ⟨root, b, hb⟩ := ofSource_ok hg
  have laying := hb.laying
  have element : ∀ id p q, g.MadeOf s id p q → q.isDisabled = true → ∀ i, p ≠ .member i := by
    rintro _ p q ⟨i, rfl, hi, -⟩ hq n rfl
    have hfalse := RuleSource.isDisabled_of_mem_added s.root _ (List.mem_of_getElem? hi) n rfl
    exact absurd (hq.symm.trans hfalse) (by decide)
  refine ⟨fun id hid hne => ?_, element, fun k e he => ?_, fun k rules hrules id hid =>
    laying.madeOf_capture hrules hid, fun place i q hq => ?_, fun place flag i => ⟨?_, fun key => ?_⟩⟩
  · obtain ⟨i, rfl⟩ := Nat.exists_eq_succ_of_ne_zero hne
    have hi : i < s.root.added.length := Nat.lt_of_succ_lt_succ (Nat.lt_of_lt_of_eq hid laying.size)
    exact ⟨_, _, laying.madeOf (List.getElem?_eq_getElem hi)⟩
  · obtain ⟨p, q, hq, ⟨i, rfl⟩ | entry⟩ := laying.madeOf_candidate he
    · exact ⟨_, q, hq, fun hd => absurd rfl (element _ _ q hq hd i)⟩
    · exact ⟨p, q, hq, fun _ => entry⟩
  · exact ofSource_edit (f := RuleSource.redraft q i) (fun _ => rfl) (fun _ => rfl)
      (Assembly.alike_redraft hq i) s place
  · exact ofSource_edit (f := RuleSource.flagEntry flag i) (fun _ => rfl) (fun _ => rfl)
      (Assembly.alike_flagEntry flag i) s place
  · refine ofSource_edit (fun q => ?_) (fun q => ?_) (Assembly.alike_flagCapture flag key i) s place
    · cases key <;> rfl
    · cases key <;> rfl

end Grammar

/-- An entry, a capture and an element that are disabled. -/
def Source.offText : GrammarSource where
  scopeName := "source.off"
  patterns := [
    { matchPattern := some "a", captures := [(0, { name := some "whole.off", disabled := some (.number 1) })] },
    { matchPattern := some "c", disabled := some (.number 1) },
    { reference := some "#word" }]
  repository := [("word", { matchPattern := some "b", disabled := some (.number 1) })]

/-- The entry of such a text is collected although it is disabled, and the capture is used. -/
theorem Grammar.disabled_in_lists_offText : ∃ g, ofSource Source.offText = .ok g ∧
    g.candidates rootRule = [(2, 1), (1, 0)] ∧ g.rules.size = 4 ∧
    (∃ p q, g.MadeOf Source.offText 1 p q ∧ (q.isDisabled = true → ∃ name, p = .entry name)) ∧
    (∃ p q, g.MadeOf Source.offText 3 p q ∧ ∃ i, p = .opening i ∨ p = .closing i) ∧
    ofSource (Source.offText.edit (RuleSource.flagEntry none 0) []) = .ok g := by
  have run : (ofSource Source.offText).toOption.any (fun g => decide (g.candidates rootRule = [(2, 1), (1, 0)] ∧
      g.rules.size = 4 ∧ [some 3] ∈ (g.rule 2).captureLists)) = true := by
    decide +kernel
  obtain ⟨g, hg, h⟩ := exists_ok_of_any run
  obtain ⟨hcandidates, hsize, hcaptures⟩ := of_decide_eq_true h
  obtain ⟨-, -, candidates, captures, -, flags⟩ := disabled_in_lists hg
  refine ⟨g, hg, hcandidates, hsize, candidates rootRule (1, 0) ?_, captures 2 _ hcaptures 3 ?_,
    ((flags [] none 0).1).trans hg⟩
  · simp [hcandidates]
  · exact List.mem_singleton.mpr rfl

/-- What is disabled may be collected, and used for a group. -/
theorem not_disabled_skipped :
    (¬ ∀ (s : GrammarSource) (g : Grammar), Grammar.ofSource s = .ok g →
      ∀ id p q, g.MadeOf s id p q → q.isDisabled = true → ∀ k, ∀ e ∈ g.candidates k, e.1 ≠ id) ∧
    ¬ ∀ (s : GrammarSource) (g : Grammar), Grammar.ofSource s = .ok g →
      ∀ id p q, g.MadeOf s id p q → q.isDisabled = true →
        ∀ k, ∀ rules ∈ (g.rule k).captureLists, some id ∉ rules := by
  have run : (Grammar.ofSource Source.offText).toOption.any (fun g => decide ((1, 0) ∈ g.candidates 0 ∧
      [some 3] ∈ (g.rule 2).captureLists)) = true := by
    decide +kernel
  obtain ⟨g, hg, h⟩ := exists_ok_of_any run
  obtain ⟨hcandidate, hcapture⟩ := of_decide_eq_true h
  obtain ⟨root, b, hb⟩ := Grammar.ofSource_ok hg
  have disabled : ∀ i ∈ [0, 2], (Source.offText.root.added[i]?.any fun x => x.2.isDisabled) = true := by
    decide +kernel
  have made : ∀ i ∈ [0, 2], ∃ p q, g.MadeOf Source.offText (i + 1) p q ∧ q.isDisabled = true := fun i hi => by
    have hq := disabled i hi
    cases hx : Source.offText.root.added[i]? with
    | none => simp [hx] at hq
    | some x => exact ⟨x.1, x.2, hb.laying.madeOf hx, by simpa [hx] using hq⟩
  constructor
  · intro neverCandidate
    obtain ⟨p, q, hmade, hq⟩ := made 0 (by decide)
    exact neverCandidate _ g hg _ p q hmade hq 0 _ hcandidate rfl
  · intro neverCapture
    obtain ⟨p, q, hmade, hq⟩ := made 2 (by decide)
    exact neverCapture _ g hg _ p q hmade hq 2 _ hcapture List.mem_cons_self

end ScopeLexer
