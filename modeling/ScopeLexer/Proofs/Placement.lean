/-
# The places of rules

The number of each rule follows from the source alone, and so does what the rule holds, apart from the numbers
of repositories and patterns: its captures and the elements of its list are the rules at the places where they
are written. So two sources of the same shape are compared place by place.

Key definitions: `RuleSource.Listed`, `RuleSource.Writes`, `Assembly.Stands`, `Assembly.Placed`.
Key theorems: `Assembly.addRule_placed`, `Assembly.addGrammar_placed`, `Assembly.addGrammar_writes`.
-/
import ScopeLexer.Proofs.LexicalScope

namespace ScopeLexer

open Source (RuleSource GrammarSource)

namespace Source.RuleSource

/-- The numbers of captures that are added one after the other. -/
def captureIds (n : RuleId) (cs : List (Nat × RuleSource)) : List (Nat × RuleId) :=
  (numbered n cs).map fun c => (c.1, c.2.1)

/-- The first number after the rule itself and its repository. -/
def firstOpening (r : RuleSource) (k : RuleId) : RuleId := k + 1 + countAll r.repository

/-- The first number after the captures of the opening match. -/
def firstClosing (r : RuleSource) (k : RuleId) : RuleId := r.firstOpening k + countAll r.openings

/-- The first number after all captures. -/
def firstMember (r : RuleSource) (k : RuleId) : RuleId := r.firstClosing k + countAll r.closings

/-- A rule is counted with its repository, its captures and its list. -/
theorem count_parts (r : RuleSource) : r.count = 1 + countAll r.repository + countAll r.openings +
    countAll r.closings + countAll (memberParts 0 r.members) := by
  have hparts : (r.parts.map (·.2.count)).sum = countAll r.repository + (countAll r.openings +
      (countAll r.closings + countAll (memberParts 0 r.members))) := by
    simp [parts, innerParts, countAll, Function.comp_def]
  rw [count_eq, hparts]
  omega

/-- The elements of a list, where the first rule among them has the number `n`. -/
inductive Listed (own : String) : RuleId → List RuleSource → List Item → Prop
  | nil (n : RuleId) : Listed own n [] []
  | disabled {n : RuleId} {m : RuleSource} {ms : List RuleSource} {is : List Item}
      (h : m.isDisabled = true) (rest : Listed own n ms is) : Listed own n (m :: ms) is
  | reference {n : RuleId} {m : RuleSource} {ms : List RuleSource} {is : List Item} {text : String}
      {ref : Reference} (h : m.isDisabled = false) (ht : m.reference = some text)
      (href : Reference.ofText own text = .ok ref) (rest : Listed own n ms is) :
      Listed own n (m :: ms) (.include ref :: is)
  | rule {n : RuleId} {m : RuleSource} {ms : List RuleSource} {is : List Item} (h : m.isDisabled = false)
      (hr : m.reference = none) (rest : Listed own (n + m.count) ms is) :
      Listed own n (m :: ms) (.rule n :: is)

/-- A text is a pattern of a rule or of one in it. -/
inductive Writes (text : String) : RuleSource → Prop
  | own {r : RuleSource} (h : text ∈ r.patternTexts) : Writes text r
  | part {r : RuleSource} {p : Part × RuleSource} (hp : p ∈ r.parts) (h : Writes text p.2) :
      Writes text r

end Source.RuleSource

namespace Assembly

variable {own : String} {view view' : List RepositoryId} {r : RuleSource} {k : RuleId} {a b c : Assembly}

/-! ### Parts at their places -/

theorem Chain.numbered {κ : Type} {ps : List (κ × RuleSource)} {ids : List RuleId}
    (h : Chain own view (ps.map (·.2)) ids a b) :
    ids = (RuleSource.numbered a.rules.size ps).map (·.2.1) ∧
      b.rules.size = a.rules.size + RuleSource.countAll ps := by
  obtain ⟨hids, hsize, -⟩ := h.each (P := (Laid · own)) Laid.mono fun p _ => addRule_laid p.2
  exact ⟨hids, hsize⟩

/-- Captures have the numbers of their places. -/
theorem addChecked_placed {cs : List (Nat × RuleSource)} {rules : CaptureRules}
    (h : addChecked own view cs a = .ok (rules, b)) :
    rules = spreadCaptures (RuleSource.captureIds a.rules.size cs) ∧
      b.rules.size = a.rules.size + RuleSource.countAll cs := by
  obtain ⟨-, rs, hkeys, chain, rfl⟩ := addChecked_ok h
  obtain ⟨hids, hsize⟩ := chain.numbered
  exact ⟨congrArg spreadCaptures (eq_numbered_map hkeys hids), hsize⟩

/-- The elements of a list have the numbers of their places. -/
theorem addItems_placed {ms : List RuleSource} {is : List Item}
    (h : addItems own view ms a = .ok (is, b)) : RuleSource.Listed own a.rules.size ms is := by
  induction ms generalizing a is with
  | nil =>
    obtain ⟨rfl, rfl⟩ := pure_ok h
    exact .nil _
  | cons m ms ih =>
    obtain ⟨first, rest, c, hfirst, hrest, rfl⟩ := addItems_cons_ok h
    cases hfirst with
    | disabled hd => exact .disabled hd (ih hrest)
    | reference hd ht href => exact .reference hd ht href (ih hrest)
    | rule hd hr hid =>
      obtain rfl := (addRule_ok hid).1
      exact .rule hd hr ((addRule_laid m _ _ _ _ hid).2 ▸ ih hrest)

/-- What the parts of a rule come to, by their places. -/
theorem AddsParts.placed {os cs : CaptureRules} {is : List Item} (h : AddsParts own view r a b os cs is)
    (hfirst : a.rules.size = r.firstOpening k) :
    os = spreadCaptures (RuleSource.captureIds (r.firstOpening k) r.openings) ∧
      cs = spreadCaptures (RuleSource.captureIds (r.firstClosing k) r.closings) ∧
        RuleSource.Listed own (r.firstMember k) r.members is := by
  obtain ⟨hos, hcs, his⟩ := h
  obtain ⟨openings, hsize⟩ := addChecked_placed hos
  obtain ⟨closings, hsize'⟩ := addChecked_placed hcs
  have listed := addItems_placed his
  have hpatterns : (a.withPatterns r.patternTexts).rules.size = r.firstOpening k := hfirst
  rw [hsize', hsize, hpatterns] at listed
  rw [hsize, hpatterns] at closings
  rw [hpatterns] at openings
  exact ⟨openings, closings, listed⟩

/-- The repository of a rule comes before its captures. -/
theorem addRepository_size (hk : a.rules.size = k + 1)
    (h : addRepository own view r.repository a = .ok (view', b)) : b.rules.size = r.firstOpening k := by
  obtain ⟨-, hsize, -⟩ := addRepository_each (P := (Laid · own)) Laid.mono rfl h hk fun e _ => addRule_laid e.2
  rw [hsize, hk, RuleSource.firstOpening]

/-! ### Rules at their places -/

/-- The rule with the number `k` is exactly what is made of a source there. -/
def Stands (b : Assembly) (own : String) (view : List RepositoryId) (k : RuleId) (r : RuleSource) : Prop :=
  ∃ first is,
    b.rules[k]? = some (r.made ⟨k, r.name.map ScopeName.ofText, view⟩ first
      (spreadCaptures (RuleSource.captureIds (r.firstOpening k) r.openings))
      (spreadCaptures (RuleSource.captureIds (r.firstClosing k) r.closings)) is) ∧
    b.HasPatterns first r ∧ RuleSource.Listed own (r.firstMember k) r.members is

/-- A source is placed from the number `k` on: the rule comes first, and the rules in it at their places. -/
inductive Placed (b : Assembly) (own : String) : List RepositoryId → RuleId → RuleSource → Prop
  | intro {view view' : List RepositoryId} {k : RuleId} {r : RuleSource} (sees : b.Sees view view' k r)
      (stands : b.Stands own view' k r)
      (parts : ∀ p ∈ RuleSource.numbered (k + 1) r.parts, Placed b own view' p.2.1 p.2.2) :
      Placed b own view k r

theorem Stands.mono (h : b.Stands own view k r) (hbc : StaysFrom k b c) : c.Stands own view k r := by
  obtain ⟨first, is, hrule, htexts, listed⟩ := h
  exact ⟨first, is, hbc.rules k _ (Nat.le_refl _) hrule, fun i text ht => hbc.patterns _ _ (htexts i text ht),
    listed⟩

theorem Placed.mono (h : b.Placed own view k r) (hbc : StaysFrom k b c) : c.Placed own view k r := by
  induction h with
  | intro sees stands _ ih =>
    refine .intro (sees.mono hbc) (stands.mono hbc) fun p hp => ih p hp (hbc.mono ?_)
    exact Nat.le_trans (Nat.le_succ _) (RuleSource.le_of_mem_numbered hp)

/-- The parts of a rule that is being added are placed after it. -/
theorem AddsParts.parts_placed {os cs : CaptureRules} {is : List Item} (adds : AddsParts own view' r b c os cs is)
    (hk : a.rules.size = k + 1) (hrepository : addRepository own view r.repository a = .ok (view', b))
    (hrule : ∀ p ∈ r.parts, ∀ view a id b, addRule own view p.2 a = .ok (id, b) → b.Placed own view id p.2) :
    c.Sees view view' k r ∧ (∀ p ∈ RuleSource.numbered (k + 1) r.parts, c.Placed own view' p.2.1 p.2.2) ∧
      c.HasPatterns b.patterns.size r ∧ c.rules.size = a.rules.size + RuleSource.countAll r.parts := by
  obtain ⟨ors, crs, inner, -, -⟩ := adds.inner
  obtain ⟨sees, hsize, parts⟩ := parts_each (P := (Placed · own)) Placed.mono hk hrepository inner
    fun p hp view a id b h => ⟨hrule p hp view a id b h, (addRule_laid p.2 view a id b h).2⟩
  exact ⟨sees, parts, (Extends.tracks.run inner.chain).hasPatterns, hsize⟩

/-- **A rule that is added is placed** from the next number on. -/
theorem addRule_placed (r : RuleSource) :
    ∀ view a id b, addRule own view r a = .ok (id, b) → b.Placed own view id r := by
  induction r using RuleSource.induction with
  | h r ih =>
    intro view a id b h
    obtain ⟨rfl, view', a₁, a₂, os, cs, is, hrepository, adds, rfl⟩ := addRule_parts h
    have hreserved : a.reserved.rules.size = a.rules.size + 1 := by simp [reserved]
    obtain ⟨rfl, rfl, listed⟩ := adds.placed (addRepository_size hreserved hrepository)
    obtain ⟨sees, parts, inner, hsize⟩ := adds.parts_placed hreserved hrepository ih
    have hlt : a.rules.size < a₂.rules.size := by omega
    have stays := StaysFrom.put a₂ a.rules.size
    exact .intro (sees.mono (stays _)) ⟨_, is, Array.getElem?_setIfInBounds_self_of_lt hlt, inner, listed⟩
      fun p hp => (parts p hp).mono ((stays _).mono (RuleSource.le_of_mem_numbered hp))

/-- **Assembling a grammar places its source.** The rule that comes first holds its list. -/
theorem addGrammar_placed {s : GrammarSource} {root : Option RepositoryId}
    (h : addGrammar own s {} = .ok (root, b)) :
    b.Sees [] root.toList Grammar.rootRule s.root ∧ b.rules.size = s.root.count ∧
      (∃ is, b.rules[Grammar.rootRule]? = some (.group ⟨⟨Grammar.rootRule, none, root.toList⟩, none, is⟩) ∧
        RuleSource.Listed own (s.root.firstMember Grammar.rootRule) s.root.members is) ∧
      ∀ p ∈ RuleSource.numbered (Grammar.rootRule + 1) s.root.parts, b.Placed own root.toList p.2.1 p.2.2 := by
  obtain ⟨a₁, a₂, is, hrepository, adds, rfl⟩ := addGrammar_addsParts h
  obtain ⟨-, -, listed⟩ := adds.placed (addRepository_size (k := Grammar.rootRule) rfl hrepository)
  obtain ⟨sees, parts, -, hsize⟩ := adds.parts_placed (k := Grammar.rootRule) rfl hrepository
    fun p _ => addRule_placed p.2
  have stays := StaysFrom.put a₂ Grammar.rootRule (.group ⟨⟨Grammar.rootRule, none, root.toList⟩, none, is⟩)
  have hreserved : (reserved {}).rules.size = 1 := rfl
  have hcount : s.root.count = 1 + RuleSource.countAll s.root.parts := s.root.count_eq
  have hlt : Grammar.rootRule < a₂.rules.size := by
    rw [hsize, hreserved, Nat.add_comm]
    exact Nat.succ_pos _
  refine ⟨sees.mono stays, ?_, ⟨is, Array.getElem?_setIfInBounds_self_of_lt hlt, listed⟩,
    fun p hp => (parts p hp).mono (stays.mono (RuleSource.le_of_mem_numbered hp))⟩
  rw [put, Array.size_setIfInBounds, hsize, hreserved, hcount]

/-! ### Patterns -/

theorem Chain.writes {rs : List RuleSource} {ids : List RuleId} {text : String}
    (h : Chain own view rs ids a b)
    (hrule : ∀ r ∈ rs, ∀ view a id b, addRule own view r a = .ok (id, b) → text ∈ b.patterns →
      text ∈ a.patterns ∨ r.Writes text)
    (ht : text ∈ b.patterns) : text ∈ a.patterns ∨ ∃ r ∈ rs, r.Writes text := by
  induction h with
  | nil => exact .inl ht
  | cons first _ ih =>
    rcases ih (fun r hr => hrule r (List.mem_cons_of_mem _ hr)) ht with ht | ⟨r, hr, hw⟩
    · exact (hrule _ List.mem_cons_self _ _ _ _ first ht).imp_right fun hw => ⟨_, List.mem_cons_self, hw⟩
    · exact .inr ⟨r, List.mem_cons_of_mem _ hr, hw⟩

/-- The patterns that come with a rule and its parts are written in it. -/
theorem Inner.writes {os cs : List (Nat × RuleId)} {is : List Item} {text : String}
    (inner : Inner own view' r b c os cs is)
    (hrepository : addRepository own view r.repository a = .ok (view', b))
    (hrule : ∀ p ∈ r.parts, ∀ view a id b, addRule own view p.2 a = .ok (id, b) → text ∈ b.patterns →
      text ∈ a.patterns ∨ p.2.Writes text)
    (ht : text ∈ c.patterns) : text ∈ a.patterns ∨ r.Writes text := by
  have part : ∀ {q}, (∃ p ∈ r.parts, p.2 = q) → q.Writes text → r.Writes text := by
    rintro _ ⟨p, hp, rfl⟩ hw
    exact .part hp hw
  have second : text ∈ (b.withPatterns r.patternTexts).patterns ∨ r.Writes text := by
    have hparts : ∀ q ∈ r.innerParts.map (·.2), ∃ p ∈ r.parts, p.2 = q := fun q hq => by
      obtain ⟨p, hp, rfl⟩ := List.mem_map.mp hq
      exact ⟨p, List.mem_append_right _ hp, rfl⟩
    refine (inner.chain.writes (fun q hq => ?_) ht).imp_right fun ⟨q, hq, hw⟩ => part (hparts q hq) hw
    obtain ⟨p, hp, rfl⟩ := hparts q hq
    exact hrule p hp
  rcases second with ht | hw
  · rcases Array.mem_append.mp ht with ht | ht
    · rcases addRepository_ok hrepository with ⟨-, -, rfl⟩ | ⟨-, -, c, rs, -, chain, rfl⟩
      · exact .inl ht
      · have hentries : ∀ q ∈ r.repository.map (·.2), ∃ p ∈ r.parts, p.2 = q := fun q hq => by
          obtain ⟨e, he, rfl⟩ := List.mem_map.mp hq
          exact ⟨(.entry e.1, e.2), List.mem_append_left _ (List.mem_map_of_mem he), rfl⟩
        refine (chain.writes (fun q hq => ?_) ht).imp_right fun ⟨q, hq, hw⟩ => part (hentries q hq) hw
        obtain ⟨p, hp, rfl⟩ := hentries q hq
        exact hrule p hp
    · exact .inr (.own (List.mem_toArray.mp ht))
  · exact .inr hw

theorem addRule_writes (text : String) (r : RuleSource) :
    ∀ view a id b, addRule own view r a = .ok (id, b) → text ∈ b.patterns →
      text ∈ a.patterns ∨ r.Writes text := by
  induction r using RuleSource.induction with
  | h r ih =>
    intro view a id b h ht
    obtain ⟨-, view', a₁, a₂, os, cs, is, hrepository, inner, rfl⟩ := addRule_ok h
    have hreserved : text ∈ a.reserved.patterns ∨ r.Writes text := inner.writes hrepository ih ht
    exact hreserved

/-- Every pattern of a grammar is written in its source. -/
theorem addGrammar_writes {s : GrammarSource} {root : Option RepositoryId} {text : String}
    (h : addGrammar own s {} = .ok (root, b)) (ht : text ∈ b.patterns) : s.root.Writes text := by
  obtain ⟨a₁, a₂, is, hrepository, inner, rfl⟩ := addGrammar_parts h
  refine (inner.writes hrepository (fun p _ => addRule_writes text p.2) ht).resolve_left fun ht => ?_
  exact absurd ht (by simp [reserved])

/-- What a source writes is a pattern where it is placed. -/
theorem Placed.mem_patterns {text : String} (h : b.Placed own view k r) (hw : r.Writes text) :
    text ∈ b.patterns := by
  induction hw generalizing view k with
  | own ht =>
    obtain ⟨-, ⟨first, is, -, htexts, -⟩, -⟩ := h
    obtain ⟨i, hi⟩ := List.mem_iff_getElem?.mp ht
    exact Array.mem_of_getElem? (htexts i text hi)
  | part hp _ ih =>
    obtain ⟨-, -, parts⟩ := h
    obtain ⟨id, hid⟩ := RuleSource.mem_numbered (k + 1) hp
    exact ih (parts _ hid)

/-- What is written in a source is a pattern of its grammar. -/
theorem addGrammar_mem_patterns {s : GrammarSource} {root : Option RepositoryId} {text : String}
    (h : addGrammar own s {} = .ok (root, b)) (hw : s.root.Writes text) : text ∈ b.patterns := by
  obtain ⟨-, -, -, parts⟩ := addGrammar_placed h
  rcases hw with ht | ⟨hp, hw⟩
  · cases ht
  · obtain ⟨id, hid⟩ := RuleSource.mem_numbered (Grammar.rootRule + 1) hp
    exact (parts _ hid).mem_patterns hw

end Assembly
end ScopeLexer
