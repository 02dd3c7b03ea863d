/-
# Renaming is invisible

When an entry of the repository of a grammar gets another name, the entries may change their order, and with
them the numbers of all rules. What a rule is does not change, and what an include leads to is the same rule by
its new number: a name is looked up from the inside out, and the new one is met nowhere before the repository of
the grammar. So the grammar is still put to use, and tokenizes every document as before.

Key definitions: `Renaming.Views`, `Renaming.Between`, `GrammarSource.Renames.Carried`.
Key theorems: `Renaming.Views.sees`, `Renaming.Between.placed`, `GrammarSource.Renames.renumbers`,
`Grammar.ofSource_renamed`.
-/
import ScopeLexer.Proofs.Renaming
import ScopeLexer.Proofs.Renumbering
import ScopeLexer.Proofs.RuleOrder

namespace ScopeLexer

open Source (RuleSource GrammarSource Renaming)

/-! ### Rules made of the same source -/

/-- The rules of captures by other numbers. -/
theorem spreadCaptures_map (π : RuleId → RuleId) (cs : List (Nat × RuleId)) :
    Assembly.spreadCaptures (cs.map fun c => (c.1, π c.2)) =
      (Assembly.spreadCaptures cs).map (Option.map π) := by
  unfold Assembly.spreadCaptures
  rw [List.getLast?_map]
  cases cs.getLast? with
  | none => rfl
  | some last => simp [Sorted.lookup_map_values, Function.comp_def]

theorem captures_alike {π : RuleId → RuleId} (hπ : Function.Injective π) : ∀ rules : CaptureRules,
    CaptureRules.Alike (.under π hπ) rules (rules.map (Option.map π))
  | [] => .nil
  | none :: rules => .cons .none (captures_alike hπ rules)
  | some _ :: rules => .cons (.some rfl) (captures_alike hπ rules)

namespace Source.RuleSource

variable {L : Likeness} {g g' : Grammar} {r : RuleSource} {head head' : RuleHead} {first first' : PatternId}
  {os os' cs cs' : CaptureRules} {is is' : List Item}

/-- What is made of a source does the same if its patterns and parts do. -/
theorem made_alike (hname : head.name = head'.name)
    (hpatterns : ∀ i < r.patternTexts.length, g.pattern (first + i) = g'.pattern (first' + i))
    (hos : CaptureRules.Alike L os os') (hcs : CaptureRules.Alike L cs cs')
    (his : is.isEmpty = is'.isEmpty) :
    (r.made head first os cs is).Alike L g g' (r.made head' first' os' cs' is') := by
  rw [patternTexts] at hpatterns
  unfold made
  cases hk : r.kind with
  | matching p => exact .matching hname hos
  | continued b w =>
    rw [hk] at hpatterns
    exact .beginWhile ⟨hname, rfl, hos, hpatterns 0 (by simp), rfl, hcs⟩
  | ended b e =>
    rw [hk] at hpatterns
    exact .beginEnd ⟨hname, rfl, hos, hpatterns 0 (by simp), rfl, hcs⟩ rfl rfl
  | group =>
    simp only [his]
    split
    · exact .noop
    · exact .group hname rfl his

/-- What is made of a source is found by the same pattern. -/
theorem made_entry (hpatterns : ∀ i < r.patternTexts.length, g.pattern (first + i) = g'.pattern (first' + i)) :
    Option.Rel (fun p p' => g.pattern p = g'.pattern p') ( Rule.entry? (r.made head first os cs is))
      ( Rule.entry? (r.made head' first' os' cs' is')) := by
  rw [patternTexts] at hpatterns
  unfold made
  cases hk : r.kind with
  | matching p =>
    rw [hk] at hpatterns
    cases p with
    | none => exact .none
    | some p => exact .some (hpatterns 0 (by simp))
  | continued b w =>
    rw [hk] at hpatterns
    exact .some (hpatterns 1 (by simp))
  | ended b e =>
    rw [hk] at hpatterns
    exact .some (hpatterns 1 (by simp))
  | group =>
    simp only
    split <;> split <;> exact .none

end Source.RuleSource

namespace Source.Renaming

variable {R : Renaming} {π : Nat → Nat} {g g' : Grammar} {b b' : Assembly} {w : Bool}
  {view view' v v' : List RepositoryId} {r : RuleSource} {k k' n n' : Nat}

/-! ### Numbers and names -/

theorem numbered_renamed {κ ι : Type} (f : κ → ι) {ps : List (κ × RuleSource)}
    (h : Carries π n n' (RuleSource.countAll ps)) :
    RuleSource.numbered n' (ps.map fun p => (f p.1, R.rule w p.2)) =
      (RuleSource.numbered n ps).map fun p => (f p.1, π p.2.1, R.rule w p.2.2) := by
  induction ps generalizing n n' with
  | nil => rfl
  | cons p ps ih =>
    rw [RuleSource.countAll_cons] at h
    have hfirst : π n = n' := h.first (Nat.add_pos_left p.2.count_pos _)
    have rest := ih (h.part p.2.count rfl rfl (Nat.le_refl _))
    rw [List.map_cons, RuleSource.numbered, count_rule, rest, ← hfirst]
    rfl

theorem numbered_keyed {κ : Type} {ps : List (κ × RuleSource)}
    (h : Carries π n n' (RuleSource.countAll ps)) :
    RuleSource.numbered n' (R.keyed w ps) =
      (RuleSource.numbered n ps).map fun p => (p.1, π p.2.1, R.rule w p.2.2) :=
  numbered_renamed id h

/-- The captures of a rule are the same by other numbers. -/
theorem captures_keyed (hπ : Function.Injective π) {cs : List (Nat × RuleSource)}
    (h : Carries π n n' (RuleSource.countAll cs)) :
    CaptureRules.Alike (.under π hπ) (Assembly.spreadCaptures (RuleSource.captureIds n cs))
      (Assembly.spreadCaptures (RuleSource.captureIds n' (R.keyed w cs))) := by
  have hids : RuleSource.captureIds n' (R.keyed w cs) =
      (RuleSource.captureIds n cs).map fun c => (c.1, π c.2) := by
    rw [RuleSource.captureIds, numbered_keyed h, RuleSource.captureIds, List.map_map, List.map_map]
    rfl
  rw [hids, spreadCaptures_map]
  exact captures_alike hπ _

/-- What a name leads to is the same under the new name, by its new number. -/
def Views (R : Renaming) (π : Nat → Nat) (b b' : Assembly) (w : Bool) (view view' : List RepositoryId) : Prop :=
  ∀ name id, b.find? view name = some id → b'.find? view' (R.name w name) = some (π id)

/-- **Names are looked up alike within a rule** if they are around it, where it has no entry of the new name. -/
theorem Views.sees (h : Views R π b b' w view view') (hs : b.Sees view v k r)
    (hs' : b'.Sees view' v' k' (R.rule w r))
    (hc : Carries π (k + 1) (k' + 1) (RuleSource.countAll r.repository))
    (hfresh : R.new ∉ r.repository.map (·.1)) : Views R π b b' (R.within w r) v v' := by
  intro name id hid
  have hlookup : ∀ s, ((RuleSource.numbered (k' + 1) (R.rule w r).repository).lookup s).map (·.1) =
      (((RuleSource.numbered (k + 1) r.repository).lookup s).map (·.1)).map π := by
    intro s
    rw [repository_rule, numbered_keyed hc, Sorted.lookup_map_values
      (f := fun e : RuleId × RuleSource => (π e.1, R.rule (R.within w r) e.2)), Option.map_map, Option.map_map]
    rfl
  have hnone : ∀ s, r.repository.lookup s = none →
      ((RuleSource.numbered (k + 1) r.repository).lookup s).map (·.1) = none := by
    intro s hs
    rw [← RuleSource.lookup_numbered (k + 1), Option.map_eq_none_iff] at hs
    rw [hs]
    rfl
  rw [hs.find?] at hid
  rw [hs'.find?, hlookup]
  cases he : (RuleSource.numbered (k + 1) r.repository).lookup name with
  | some e =>
    -- The entry of the rule itself hides any other, also one of the old name.
    have hsome : (r.repository.lookup name).isSome := by
      rw [← RuleSource.lookup_numbered (k + 1), he]
      rfl
    rw [R.name_within_of_isSome hsome, he]
    rw [he] at hid
    obtain rfl : e.1 = id := by simpa using hid
    rfl
  | none =>
    have habsent : r.repository.lookup name = none := by
      rw [← RuleSource.lookup_numbered (k + 1), he]
      rfl
    rw [R.name_within_of_none habsent, hnone _ (R.lookup_name_of_none hfresh habsent)]
    rw [he] at hid
    exact h name id (by simpa using hid)

/-! ### Rules by their new numbers -/

/-- Two grammars are compared that have been assembled before and after an entry got its new name. -/
structure Between (R : Renaming) (π : Nat → Nat) (g g' : Grammar) (b b' : Assembly) : Prop where
  injective : Function.Injective π
  root : π Grammar.rootRule = Grammar.rootRule
  nonempty : R.own.toList ≠ []
  own : '#' ∉ R.own.toList
  before : g.Holds b
  after : g'.Holds b'
  check : g.check = .ok ()
  topLevel : ∀ name id, g.topLevel? name = some id → g'.topLevel? (R.name false name) = some (π id)

namespace Between

/-- What a reference points to is the same, by its new number. -/
theorem resolve (B : Between R π g g' b b') (hv : Views R π b b' w view view') {ref : Reference} {id : RuleId}
    (h : g.resolveReference view ref = some id) :
    g'.resolveReference view' (R.reference w ref) = some (π id) := by
  cases ref with
  | named name =>
    rw [Grammar.resolveReference, B.before.entry?_eq] at h
    rw [reference, Grammar.resolveReference, B.after.entry?_eq]
    exact hv name id h
  | topLevel name => exact B.topLevel name id h
  | self =>
    obtain rfl := Option.some.inj h
    exact congrArg some B.root.symm
  | base =>
    obtain rfl := Option.some.inj h
    exact congrArg some B.root.symm

/-- The elements of a list stand for the same rules, by their new numbers. -/
theorem items (B : Between R π g g' b b') (hv : Views R π b b' w view view') {ms : List RuleSource}
    {is is' : List Item} {index : Nat} (h : RuleSource.Listed R.own n ms is)
    (h' : RuleSource.Listed R.own n' (ms.map (R.element w)) is')
    (hc : Carries π n n' (RuleSource.countAll (RuleSource.memberParts index ms)))
    (hres : ∀ ref, .include ref ∈ is → ∃ id, g.resolveReference view ref = some id) :
    List.Forall₂ (fun i i' => g'.resolve view' i' = (g.resolve view i).map π) is is' := by
  induction h generalizing n' is' index with
  | nil =>
    cases h'
    exact .nil
  | @disabled n m ms is hd _ ih =>
    have hparts : RuleSource.memberParts index (m :: ms) = RuleSource.memberParts (index + 1) ms := by
      rw [RuleSource.memberParts, hd, Bool.true_or, if_pos rfl]
    cases h' with
    | disabled _ rest => exact ih rest (hparts ▸ hc) hres
    | reference hd' => simp [isDisabled_element, hd] at hd'
    | rule hd' => simp [isDisabled_element, hd] at hd'
  | @reference n m ms is text ref hd ht href _ ih =>
    have hparts : RuleSource.memberParts index (m :: ms) = RuleSource.memberParts (index + 1) ms := by
      rw [RuleSource.memberParts, ht, Option.isSome_some, Bool.or_true, if_pos rfl]
    cases h' with
    | disabled hd' => simp [isDisabled_element, hd] at hd'
    | rule _ hr' => simp [reference_element, ht] at hr'
    | reference _ ht' href' rest =>
      rw [reference_element, ht] at ht'
      obtain rfl := Option.some.inj ht'
      obtain rfl := Except.ok.inj ((ofText_text B.nonempty B.own href).symm.trans href')
      obtain ⟨id, hid⟩ := hres ref List.mem_cons_self
      refine .cons ?_ (ih rest (hparts ▸ hc) fun ref h => hres ref (List.mem_cons_of_mem _ h))
      rw [Grammar.resolve, Grammar.resolve, hid, B.resolve hv hid]
      rfl
  | @rule n m ms is hd hr _ ih =>
    have hparts : RuleSource.memberParts index (m :: ms) =
        (.member index, m) :: RuleSource.memberParts (index + 1) ms := by
      rw [RuleSource.memberParts, hd, hr, Option.isSome_none, Bool.or_false, if_neg Bool.false_ne_true]
    rw [hparts, RuleSource.countAll_cons] at hc
    cases h' with
    | disabled hd' => simp [isDisabled_element, hd] at hd'
    | reference _ ht' => simp [reference_element, hr] at ht'
    | rule _ _ rest =>
      have hpos := m.count_pos
      have hcount : (R.element w m).count = m.count := by
        rw [element, hr, Option.isSome_none, if_neg Bool.false_ne_true, count_rule]
      refine .cons ?_ (ih (hcount ▸ rest) (hc.part m.count rfl rfl (Nat.le_refl _))
        fun ref h => hres ref (List.mem_cons_of_mem _ h))
      rw [Grammar.resolve, Grammar.resolve, Option.map_some, hc.first (Nat.add_pos_left hpos _)]

/-- The includes of a rule lead somewhere, as the grammar has passed its checks. -/
theorem resolves (B : Between R π g g' b b') {q : Rule} (hq : b.rules[k]? = some q) {ref : Reference}
    (h : .include ref ∈ q.items) : ∃ id, g.resolveReference q.repositories ref = some id :=
  Grammar.resolves_of_check B.check (Array.mem_of_getElem? (B.before.rules ▸ hq)) h

/-- The patterns of a rule are the same. -/
theorem patterns (B : Between R π g g' b b') {es : List (String × RuleSource)} {first first' : PatternId}
    (h : b.HasPatterns first r) (h' : b'.HasPatterns first' (R.body w es r)) (i : Nat)
    (hi : i < r.patternTexts.length) : g.pattern (first + i) = g'.pattern (first' + i) := by
  have ht := List.getElem?_eq_getElem hi
  have ht' : (R.body w es r).patternTexts[i]? = some r.patternTexts[i] := by rw [patternTexts_body, ht]
  rw [B.before.pattern (h i _ ht), B.after.pattern (h' i _ ht')]

/-- **What stands at a number does the same** by the new number. -/
theorem stands (B : Between R π g g' b b') (hv : Views R π b b' w view view')
    (hs : b.Stands R.own view k r) {es : List (String × RuleSource)}
    (hs' : b'.Stands R.own view' k' (R.body w es r)) (hc : Carries π k k' r.count)
    (hes : RuleSource.countAll es = RuleSource.countAll r.repository) : SameRule π B.injective g g' k := by
  obtain ⟨first, is, hrule, htexts, listed⟩ := hs
  obtain ⟨first', is', hrule', htexts', listed'⟩ := hs'
  obtain rfl : π k = k' := hc.first r.count_pos
  rw [made_body, openings_body, closings_body, firstOpening_body hes, firstClosing_body hes] at hrule'
  rw [members_body, firstMember_body hes] at listed'
  have kept : ∀ {ms is n}, RuleSource.Listed R.own n ms is → ms = [] → is = [] := by
    rintro _ _ _ ⟨⟩ ⟨⟩
    rfl
  obtain ⟨hitems, hview⟩ := RuleSource.made_items (kept listed) _ first _ _
  obtain ⟨hitems', hview'⟩ := RuleSource.made_items (fun h => kept listed' (congrArg _ h)) _ first' _ _
  have alike := B.items hv listed listed' (RuleSource.carries_members hc) fun ref href => by
    obtain ⟨id, hid⟩ := B.resolves hrule (hitems.symm ▸ href)
    rw [hview (List.ne_nil_of_mem href)] at hid
    exact ⟨id, hid⟩
  refine ⟨?_, ?_, ?_⟩
  · rw [B.before.rule hrule, B.after.rule hrule']
    refine RuleSource.made_alike rfl (B.patterns htexts htexts') ?_ ?_ ?_
    · exact captures_keyed B.injective (RuleSource.carries_openings hc)
    · exact captures_keyed B.injective (RuleSource.carries_closings hc)
    · cases alike <;> rfl
  · rw [B.before.rule hrule, B.after.rule hrule']
    exact RuleSource.made_entry (B.patterns htexts htexts')
  · rw [B.before.rule hrule, B.after.rule hrule', hitems, hitems']
    cases alike with
    | nil => exact .nil
    | cons hi his =>
      rw [hview (List.cons_ne_nil _ _), hview' (List.cons_ne_nil _ _)]
      exact .cons hi his

/-- The rule that holds the list of a grammar does the same. -/
theorem group (B : Between R π g g' b b') (hv : Views R π b b' w view view') {is is' : List Item}
    (hrule : b.rules[k]? = some (.group ⟨⟨k, none, view⟩, none, is⟩))
    (hrule' : b'.rules[π k]? = some (.group ⟨⟨π k, none, view'⟩, none, is'⟩))
    {ms : List RuleSource} (listed : RuleSource.Listed R.own n ms is)
    (listed' : RuleSource.Listed R.own n' (ms.map (R.element w)) is')
    (hc : Carries π n n' (RuleSource.countAll (RuleSource.memberParts 0 ms))) :
    SameRule π B.injective g g' k := by
  have alike := B.items hv listed listed' hc fun ref href => B.resolves hrule href
  refine ⟨?_, ?_, ?_⟩
  · rw [B.before.rule hrule, B.after.rule hrule']
    refine .group rfl rfl ?_
    cases alike <;> rfl
  · rw [B.before.rule hrule, B.after.rule hrule']
    exact .none
  · rw [B.before.rule hrule, B.after.rule hrule']
    exact alike

/-- **A source that is placed in both grammars** comes to the same rules, by their new numbers. -/
theorem placed (B : Between R π g g' b b') (hs : b.Placed R.own view k r) : ∀ {w view' k'},
    Views R π b b' w view view' → b'.Placed R.own view' k' (R.rule w r) → Carries π k k' r.count →
      ¬ r.HasEntry R.new → ∀ i : Nat, k ≤ i → i < k + r.count → SameRule π B.injective g g' i := by
  induction hs with
  | @intro view v k r sees stands parts ih =>
    rintro w view' k' hv ⟨sees', stands', parts'⟩ hc hfresh i hi hlt
    have hv' := hv.sees sees sees' (RuleSource.carries_repository hc) fun h => hfresh (.own h)
    rcases Nat.eq_or_lt_of_le hi with rfl | hi
    · rw [rule_eq] at stands'
      exact B.stands hv' stands stands' hc (countAll_keyed _ _ _)
    · have hparts := RuleSource.carries_parts hc
      have hcount : r.count = 1 + RuleSource.countAll r.parts := r.count_eq
      have hin : i < k + 1 + RuleSource.countAll r.parts := by omega
      obtain ⟨p, hp, hle, hlt⟩ := RuleSource.exists_mem_numbered hi hin
      rw [parts_rule, numbered_keyed hparts] at parts'
      exact ih p hp hv' (parts' _ (List.mem_map_of_mem hp)) (RuleSource.carries_of_mem hparts hp)
        (fun h => hfresh (.part (RuleSource.mem_of_mem_numbered hp) h)) i hle hlt

end Between
end Source.Renaming

/-! ### Grammars by their new numbers -/

namespace Source.GrammarSource.Renames

variable {s : GrammarSource} {old new : String} {π : Nat → Nat} {b b' : Assembly}
  {root root' : Option RepositoryId}

/-- The names of the entries are still different from each other. -/
theorem nodup (h : s.Renames old new) : ((s.renamed old new).repository.map (·.1)).Nodup := by
  refine (h.repository.map (·.1)).nodup_iff.mpr ?_
  rw [List.map_map]
  have hkeys := List.Nodup.map_on (f := (s.renamer old new).name false) (fun x hx y hy heq => ?_) h.keys
  · rw [List.map_map] at hkeys
    exact hkeys
  · have hfresh : ∀ z ∈ s.repository.map (·.1), z ≠ new := fun z hz heq => h.fresh (.own (heq ▸ hz))
    have hx := hfresh x hx
    have hy := hfresh y hy
    simp only [Renaming.name, renamer, and_true] at heq
    split_ifs at heq <;> simp_all

/-- A map carries the rules of a grammar over to where they stand under the new name. -/
structure Carried (s : GrammarSource) (old new : String) (π : Nat → Nat) : Prop where
  injective : Function.Injective π
  root : π Grammar.rootRule = Grammar.rootRule
  after : ∀ i, 1 + RuleSource.countAll s.repository ≤ i → π i = i
  entries : ∀ p ∈ RuleSource.numbered 1 s.repository,
    ((s.renamer old new).name false p.1, π p.2.1, (s.renamer old new).rule false p.2.2) ∈
        RuleSource.numbered 1 (s.renamed old new).repository ∧
      Carries π p.2.1 (π p.2.1) p.2.2.count

theorem exists_carried (h : s.Renames old new) : ∃ π, Carried s old new π := by
  obtain ⟨π, hinjective, hbefore, hafter, hentries⟩ := RuleSource.exists_moved h.repository.symm 1
  have hcount : RuleSource.countAll (s.repository.map fun e =>
      ((s.renamer old new).name false e.1, (s.renamer old new).rule false e.2)) =
        RuleSource.countAll s.repository := by
    simp [RuleSource.countAll, Function.comp_def, Renaming.count_rule]
  rw [hcount] at hafter
  refine ⟨π, hinjective, hbefore 0 Nat.one_pos, hafter, fun p hp => ?_⟩
  have hmem : ((s.renamer old new).name false p.1, p.2.1, (s.renamer old new).rule false p.2.2) ∈
      RuleSource.numbered 1 (s.repository.map fun e =>
        ((s.renamer old new).name false e.1, (s.renamer old new).rule false e.2)) := by
    rw [Renaming.numbered_renamed (π := id) (n := 1) ((s.renamer old new).name false) fun _ _ => rfl]
    exact List.mem_map_of_mem hp
  obtain ⟨hmem', hcarries⟩ := hentries _ hmem
  rw [Renaming.count_rule] at hcarries
  exact ⟨hmem', hcarries⟩

/-- The entries are as many rules under the new name. -/
theorem countAll_repository (h : s.Renames old new) :
    RuleSource.countAll (s.renamed old new).repository = RuleSource.countAll s.repository := by
  rw [RuleSource.countAll_perm h.repository]
  simp [RuleSource.countAll, Function.comp_def, Renaming.count_rule]

/-- The rules in a grammar stand where they are carried over to. -/
theorem Carried.parts (hπ : Carried s old new π) (h : s.Renames old new)
    {p : RuleSource.Part × RuleId × RuleSource} (hp : p ∈ RuleSource.numbered 1 s.root.parts) :
    (∃ key, (key, π p.2.1, (s.renamer old new).rule false p.2.2) ∈
        RuleSource.numbered 1 (s.renamed old new).root.parts) ∧
      Carries π p.2.1 (π p.2.1) p.2.2.count := by
  have hroot : (s.renamed old new).root.parts =
      (s.renamed old new).repository.map (fun e => (RuleSource.Part.entry e.1, e.2)) ++
        (s.renamer old new).keyed false s.root.innerParts := by
    rw [renamed_root, RuleSource.parts, Renaming.innerParts_body]
    rfl
  rw [RuleSource.parts, RuleSource.numbered_append, RuleSource.numbered_map, RuleSource.countAll_map] at hp
  rw [hroot, RuleSource.numbered_append, RuleSource.numbered_map, RuleSource.countAll_map,
    h.countAll_repository]
  rcases List.mem_append.mp hp with hp | hp
  · obtain ⟨e, he, rfl⟩ := List.mem_map.mp hp
    obtain ⟨hmem, hcarries⟩ := hπ.entries e he
    exact ⟨⟨_, List.mem_append_left _ (List.mem_map_of_mem hmem)⟩, hcarries⟩
  · have hinner : Carries π (1 + RuleSource.countAll s.repository) (1 + RuleSource.countAll s.repository)
        (RuleSource.countAll s.root.innerParts) := fun j _ => hπ.after _ (Nat.le_add_right _ j)
    rw [Renaming.numbered_keyed hinner]
    exact ⟨⟨p.1, List.mem_append_right _ (List.mem_map_of_mem hp)⟩, RuleSource.carries_of_mem hinner hp⟩

/-- What a name leads to in the repository of a grammar is the same under the new name. -/
theorem Carried.views (hπ : Carried s old new π) (h : s.Renames old new)
    (hs : b.Sees [] root.toList Grammar.rootRule s.root)
    (hs' : b'.Sees [] root'.toList Grammar.rootRule (s.renamed old new).root) :
    Renaming.Views (s.renamer old new) π b b' false root.toList root'.toList := by
  intro name id hid
  have hkeys : ((RuleSource.numbered 1 (s.renamed old new).repository).map (·.1)).Nodup := by
    rw [RuleSource.keys_numbered]
    exact h.nodup
  rw [hs.find?] at hid
  cases he : (RuleSource.numbered (Grammar.rootRule + 1) s.root.repository).lookup name with
  | none => simp [he, Assembly.find?] at hid
  | some e =>
    obtain rfl : e.1 = id := by simpa [he] using hid
    obtain ⟨before, after, hmem, -⟩ := List.lookup_eq_some_iff.mp he
    have hentry := (hπ.entries (name, e) (hmem ▸ List.mem_append_right before List.mem_cons_self)).1
    have hfound := Sorted.lookup_of_mem hentry hkeys
    rw [hs'.find?]
    show (Option.map _ ((RuleSource.numbered 1 (s.renamed old new).repository).lookup _)).or _ = _
    rw [hfound]
    rfl

/-- Only rules of the grammar are carried over to rules of the grammar. -/
theorem Carried.lt_iff (hπ : Carried s old new π) (i : Nat) :
    π i < s.root.count ↔ i < s.root.count := by
  have hlast : ∀ i, s.root.count ≤ i → π i = i := fun i hi => by
    have hparts := s.root.count_parts
    have hrepository : RuleSource.countAll s.root.repository = RuleSource.countAll s.repository := rfl
    exact hπ.after i (by omega)
  refine ⟨fun h => Nat.lt_of_not_le fun hi => ?_, fun h => Nat.lt_of_not_le fun hi => ?_⟩
  · rw [hlast i hi] at h
    exact absurd h (Nat.not_lt.mpr hi)
  · -- A number that is carried over to one that stays is that number.
    rw [hπ.injective (hlast (π i) hi)] at hi
    exact absurd h (Nat.not_lt.mpr hi)

/-- No pattern is new. -/
theorem mem_patterns (h : s.Renames old new) (hb : Assembly.addGrammar s.ownName s {} = .ok (root, b))
    (hb' : Assembly.addGrammar s.ownName (s.renamed old new) {} = .ok (root', b')) {text : String}
    (ht : text ∈ b'.patterns) : text ∈ b.patterns :=
  Assembly.addGrammar_mem_patterns hb (h.writes (Assembly.addGrammar_writes hb' ht))

/-- **The rules of a grammar have other numbers** under the new name. -/
theorem renumbers (h : s.Renames old new) (hown : '#' ∉ s.ownName.toList) (hne : s.ownName.toList ≠ [])
    (hb : Assembly.addGrammar s.ownName s {} = .ok (root, b))
    (hb' : Assembly.addGrammar s.ownName (s.renamed old new) {} = .ok (root', b'))
    (hcheck : (b.grammar s root).check = .ok ()) :
    ∃ π, Renumbers π (b.grammar s root) (b'.grammar (s.renamed old new) root') := by
  obtain ⟨π, hπ⟩ := h.exists_carried
  obtain ⟨sees, hsize, ⟨is, hrule, listed⟩, parts⟩ := Assembly.addGrammar_placed hb
  obtain ⟨sees', hsize', ⟨is', hrule', listed'⟩, parts'⟩ := Assembly.addGrammar_placed hb'
  have hviews := hπ.views h sees sees'
  have before : (b.grammar s root).Holds b := ⟨rfl, rfl, rfl⟩
  have after : (b'.grammar (s.renamed old new) root').Holds b' := ⟨rfl, rfl, rfl⟩
  have B : Renaming.Between (s.renamer old new) π (b.grammar s root) (b'.grammar (s.renamed old new) root')
      b b' := by
    refine ⟨hπ.injective, hπ.root, hne, hown, before, after, hcheck, fun name id hid => ?_⟩
    rw [before.topLevel?_eq rfl] at hid
    rw [after.topLevel?_eq rfl]
    exact hviews name id hid
  have hcount : (s.renamed old new).root.count = s.root.count := by
    rw [renamed_root]
    exact Renaming.count_body _ _ _ _ h.countAll_repository
  rw [hcount] at hsize'
  have hmember : ∀ j, 1 + RuleSource.countAll s.repository ≤ s.root.firstMember Grammar.rootRule + j := by
    intro j
    show 1 + RuleSource.countAll s.repository ≤ 0 + 1 + RuleSource.countAll s.repository + 0 + 0 + j
    omega
  refine ⟨π, hπ.injective, rfl, hπ.root, hsize.trans hsize'.symm, fun k => ?_, fun p hp => ?_, fun k => ?_⟩
  · show π k < b'.rules.size ↔ k < b.rules.size
    rw [hsize, hsize']
    exact hπ.lt_iff k
  · obtain ⟨text, ht, rfl⟩ := Array.mem_map.mp hp
    exact Array.mem_map_of_mem (h.mem_patterns hb hb' ht)
  · by_cases hk : k < s.root.count
    · rcases Nat.eq_zero_or_pos k with rfl | hpos
      · rw [renamed_root, Renaming.members_body, Renaming.firstMember_body h.countAll_repository] at listed'
        exact B.group hviews hrule (hπ.root.symm ▸ hrule') listed listed' fun j _ => hπ.after _ (hmember j)
      · have hin : k < 1 + RuleSource.countAll s.root.parts := s.root.count_eq ▸ hk
        obtain ⟨p, hp, hle, hlt⟩ := RuleSource.exists_mem_numbered (n := 1) hpos hin
        obtain ⟨⟨key, hmem⟩, hcarries⟩ := hπ.parts h hp
        exact B.placed (parts p hp) hviews (parts' _ hmem) hcarries
          (fun hentry => h.fresh (.part (RuleSource.mem_of_mem_numbered hp) hentry)) k hle hlt
    · have hk' := mt (hπ.lt_iff k).mp hk
      exact .of_size_le hπ.injective (hsize.trans_le (Nat.not_lt.mp hk)) (hsize'.trans_le (Nat.not_lt.mp hk'))

end Source.GrammarSource.Renames

namespace Grammar

/-- **Renaming is invisible.** Let a grammar that is put to use have an entry in its repository, no sign in its
scope name, and no entry of another name in any repository. Then the entry may get the other name, together with
the includes that lead to it: the grammar is put to use still, and every document is tokenized as before. -/
theorem ofSource_renamed {s : GrammarSource} {g : Grammar} {old new : String} (hg : ofSource s = .ok g)
    (hscope : '#' ∉ g.scopeName.toList) (hold : (s.repository.lookup old).isSome)
    (hkeys : (s.repository.map (·.1)).Nodup) (hnew : ¬ s.root.HasEntry new) :
    ∃ g', ofSource (s.renamed old new) = .ok g' ∧ ∀ (o : Options) (text : List Char),
      ((Session.mk g o {}).document text).1 = ((Session.mk g' o {}).document text).1 := by
  have h : s.Renames old new := ⟨hold, hkeys, hnew⟩
  obtain ⟨hassembly, hcheck⟩ := ofSource_eq_ok.mp hg
  obtain ⟨hne, root, b, hb, rfl⟩ := Assembly.ofSource_eq_ok.mp hassembly
  obtain ⟨root', b', hb'⟩ := Assembly.addGrammar_succeeds
    (h.accepted hne hscope (Assembly.accepted_of_addGrammar hb)) {}
  obtain ⟨π, hπ⟩ := h.renumbers hscope hne hb hb' hcheck
  have hassembly' : Assembly.ofSource (s.renamed old new) = .ok (b'.grammar (s.renamed old new) root') :=
    Assembly.ofSource_eq_ok.mpr ⟨hne, root', b', hb', rfl⟩
  exact ⟨_, ofSource_eq_ok.mpr ⟨hassembly', hπ.check_ok hcheck⟩, hπ.document_eq⟩

end Grammar

/-- A span with an item of its own, after an item of the grammar. -/
def Source.spanItems : GrammarSource where
  scopeName := "source.span"
  patterns := [{ reference := some "#item" }, { reference := some "#span" }]
  repository := [
    ("item", { matchPattern := some "a" }),
    ("span", {
      beginPattern := some "b"
      endPattern := some "e"
      patterns := [{ reference := some "#item" }, { reference := some "source.span#item" }]
      repository := [("item", { matchPattern := some "c" })] })]

/-- The item of the grammar comes after the span by its new name, and that of the span keeps its name. -/
example : (Source.spanItems.renamed "item" "thing").same {
    scopeName := "source.span"
    patterns := [{ reference := some "#thing" }, { reference := some "#span" }]
    repository := [
      ("span", {
        beginPattern := some "b"
        endPattern := some "e"
        patterns := [{ reference := some "#item" }, { reference := some "source.span#thing" }]
        repository := [("item", { matchPattern := some "c" })] }),
      ("thing", { matchPattern := some "a" })] } = true := by
  decide +kernel

theorem Source.spanItems_fresh : ¬ spanItems.root.HasEntry "thing" := by
  have leaf : ∀ p, ¬ ({ matchPattern := some p } : RuleSource).HasEntry "thing" := by
    rintro p (h | ⟨hp, -⟩)
    · cases h
    · cases hp
  rintro (h | ⟨hp, h⟩)
  · revert h
    decide
  · rcases List.mem_cons.mp hp with rfl | hp
    · exact leaf "a" h
    rcases List.mem_cons.mp hp with rfl | hp
    · rcases h with h | ⟨hp, h⟩
      · revert h
        decide
      · rcases List.mem_cons.mp hp with rfl | hp
        · exact leaf "c" h
        · cases hp
    · cases hp

/-- The span comes first by the new name of the item, and there is no other difference. -/
theorem Grammar.ofSource_renamed_spanItems : ∃ g g', ofSource Source.spanItems = .ok g ∧
    '#' ∉ g.scopeName.toList ∧ (Source.spanItems.repository.lookup "item").isSome = true ∧
      (Source.spanItems.repository.map (·.1)).Nodup ∧ ¬ Source.spanItems.root.HasEntry "thing" ∧
        ofSource (Source.spanItems.renamed "item" "thing") = .ok g' ∧ ∀ (o : Options) (text : List Char),
          ((Session.mk g o {}).document text).1 = ((Session.mk g' o {}).document text).1 := by
  have run : (ofSource Source.spanItems).toOption.any (fun g => decide ('#' ∉ g.scopeName.toList)) = true := by
    decide +kernel
  obtain ⟨g, hg, h⟩ := exists_ok_of_any run
  have hscope := of_decide_eq_true h
  have hold : (Source.spanItems.repository.lookup "item").isSome = true := rfl
  have hkeys : (Source.spanItems.repository.map (·.1)).Nodup := by decide
  obtain ⟨g', hg', same⟩ := ofSource_renamed hg hscope hold hkeys Source.spanItems_fresh
  exact ⟨g, g', hg, hscope, hold, hkeys, Source.spanItems_fresh, hg', same⟩

end ScopeLexer
