/-
# Other names for entries

An entry of the repository of a grammar may get another name, together with the includes that lead to it. These
are the ones that name the grammar before the sign, and those with the name alone which stand where no
repository in between has an entry of that name. Apart from names nothing changes: the rules keep their shape,
and what was accepted is accepted still.

Key definitions: `Renaming.rule`, `GrammarSource.renamed`, `RuleSource.HasEntry`.
Key theorems: `Renaming.ofText_text`, `Renaming.accepted_rule`, `GrammarSource.Renames.repository`.
-/
import ScopeLexer.Proofs.Acceptance
import ScopeLexer.Proofs.Placement
import ScopeLexer.Proofs.SortedSources

namespace ScopeLexer
namespace Source

/-- A new name for an entry of the repository of a grammar, with the scope name of the grammar. -/
structure Renaming where
  own : String
  old : String
  new : String

/-- A rule or one in it has a repository with an entry. -/
inductive RuleSource.HasEntry (name : String) : RuleSource → Prop
  | own {r : RuleSource} (h : name ∈ r.repository.map (·.1)) : HasEntry name r
  | part {r : RuleSource} {p : RuleSource.Part × RuleSource} (hp : p ∈ r.parts) (h : HasEntry name p.2) :
      HasEntry name r

namespace Renaming

variable (R : Renaming)

/-- The new name of an entry, unless a nearer one of the old name stands before it. -/
def name (shadowed : Bool) (s : String) : String :=
  if s = R.old ∧ shadowed = false then R.new else s

/-- The text of an include. -/
def text (shadowed : Bool) (t : String) : String :=
  if t = "#" ++ R.old ∧ shadowed = false then "#" ++ R.new
  else if t = R.own ++ "#" ++ R.old then R.own ++ "#" ++ R.new
  else t

/-- What an include points to. -/
def reference (shadowed : Bool) : Reference → Reference
  | .named s => .named (R.name shadowed s)
  | .topLevel s => .topLevel (R.name false s)
  | .self => .self
  | .base => .base

mutual

/-- A rule with the new name in its includes and in those of the rules in it. Its own repository may have an
entry of the old name, which then is the nearest. -/
def rule (shadowed : Bool) : RuleSource → RuleSource
  | { reference := rf, name := nm, contentName := cn, matchPattern := mp, beginPattern := bp,
      endPattern := ep, whilePattern := wp, captures := cs, beginCaptures := bcs,
      endCaptures := ecs, whileCaptures := wcs, applyEndPatternLast := al, appliesLineBreak := lb,
      disabled := ds, patterns := ps, repository := rp, extra := ex } =>
    let within := shadowed || (rp.lookup R.old).isSome
    { reference := rf.map (R.text within), name := nm, contentName := cn, matchPattern := mp,
      beginPattern := bp, endPattern := ep, whilePattern := wp, captures := captures within cs,
      beginCaptures := captures within bcs, endCaptures := captures within ecs,
      whileCaptures := captures within wcs, applyEndPatternLast := al, appliesLineBreak := lb,
      disabled := ds, patterns := elements within ps, repository := entries within rp, extra := ex }
  termination_by structural r => r

/-- The elements of a list. Of an include nothing else counts, and it is looked up around itself. -/
def elements (shadowed : Bool) : List RuleSource → List RuleSource
  | [] => []
  | m :: ms =>
    (if m.reference.isSome then { m with reference := m.reference.map (R.text shadowed) }
      else rule shadowed m) :: elements shadowed ms
  termination_by structural ms => ms

def captures (shadowed : Bool) : List (Nat × RuleSource) → List (Nat × RuleSource)
  | [] => []
  | c :: cs => capture shadowed c :: captures shadowed cs
  termination_by structural cs => cs

def capture (shadowed : Bool) : Nat × RuleSource → Nat × RuleSource
  | (i, r) => (i, rule shadowed r)
  termination_by structural c => c

def entries (shadowed : Bool) : List (String × RuleSource) → List (String × RuleSource)
  | [] => []
  | e :: es => entry shadowed e :: entries shadowed es
  termination_by structural es => es

def entry (shadowed : Bool) : String × RuleSource → String × RuleSource
  | (s, r) => (s, rule shadowed r)
  termination_by structural e => e

end

end Renaming

/-- The renaming of an entry of a grammar. -/
def GrammarSource.renamer (s : GrammarSource) (old new : String) : Renaming :=
  ⟨s.ownName, old, new⟩

/-- A grammar with a new name for an entry of its repository and in the includes that lead there. -/
def GrammarSource.renamed (s : GrammarSource) (old new : String) : GrammarSource :=
  let R := s.renamer old new
  { s with
    patterns := R.elements false s.patterns
    repository := match s.repository.lookup old with
      | some r => Sorted.insert new (R.rule false r) (R.entries false (Sorted.erase old s.repository))
      | none => R.entries false s.repository }

/-! ### The shape of rules -/

namespace Renaming

open RuleSource (kind openings closings members patternTexts innerParts parts count countAll orShared
  memberParts)

variable (R : Renaming)

/-- An element of a list. -/
def element (shadowed : Bool) (m : RuleSource) : RuleSource :=
  if m.reference.isSome then { m with reference := m.reference.map (R.text shadowed) }
  else R.rule shadowed m

/-- Rules under their keys. -/
def keyed {κ : Type} (shadowed : Bool) (ps : List (κ × RuleSource)) : List (κ × RuleSource) :=
  ps.map fun p => (p.1, R.rule shadowed p.2)

/-- A rule with new names in its includes and parts, and another repository. -/
def body (shadowed : Bool) (es : List (String × RuleSource)) (r : RuleSource) : RuleSource :=
  { r with
    reference := r.reference.map (R.text shadowed)
    captures := R.keyed shadowed r.captures
    beginCaptures := R.keyed shadowed r.beginCaptures
    endCaptures := R.keyed shadowed r.endCaptures
    whileCaptures := R.keyed shadowed r.whileCaptures
    patterns := r.patterns.map (R.element shadowed)
    repository := es }

/-- Whether there is a nearer entry of the old name for what is in a rule. -/
def within (shadowed : Bool) (r : RuleSource) : Bool := shadowed || (r.repository.lookup R.old).isSome

/-- The entries of a rule keep their names for what is in it. -/
theorem name_within_of_isSome {w : Bool} {r : RuleSource} {s : String} (h : (r.repository.lookup s).isSome) :
    R.name (R.within w r) s = s := by
  refine if_neg fun hold => ?_
  obtain ⟨rfl, hw⟩ := hold
  rw [within, h, Bool.or_true] at hw
  cases hw

/-- Other names are for what is in a rule as they are around it. -/
theorem name_within_of_none {w : Bool} {r : RuleSource} {s : String} (h : r.repository.lookup s = none) :
    R.name (R.within w r) s = R.name w s := by
  by_cases hold : s = R.old
  · rw [within, ← hold, h, Option.isSome_none, Bool.or_false]
  · rw [name, name, if_neg fun h => hold h.1, if_neg fun h => hold h.1]

/-- A rule without an entry of a name has none of what the name becomes, unless it has one of the new name. -/
theorem lookup_name_of_none {w : Bool} {r : RuleSource} {s : String}
    (hfresh : R.new ∉ r.repository.map (·.1)) (h : r.repository.lookup s = none) :
    r.repository.lookup (R.name w s) = none := by
  rw [name]
  split
  · refine List.lookup_eq_none_iff.mpr fun e he => bne_iff_ne.mpr fun heq => hfresh ?_
    exact heq ▸ List.mem_map_of_mem he
  · exact h

theorem elements_eq (w : Bool) (ms : List RuleSource) : R.elements w ms = ms.map (R.element w) := by
  induction ms with
  | nil => rfl
  | cons m ms ih =>
    rw [elements, ih]
    rfl

theorem captures_eq (w : Bool) (cs : List (Nat × RuleSource)) : R.captures w cs = R.keyed w cs := by
  induction cs with
  | nil => rfl
  | cons c cs ih =>
    obtain ⟨i, r⟩ := c
    rw [captures, ih]
    rfl

theorem entries_eq (w : Bool) (es : List (String × RuleSource)) : R.entries w es = R.keyed w es := by
  induction es with
  | nil => rfl
  | cons e es ih =>
    obtain ⟨s, r⟩ := e
    rw [entries, ih]
    rfl

theorem rule_eq (w : Bool) (r : RuleSource) :
    R.rule w r = R.body (R.within w r) (R.keyed (R.within w r) r.repository) r := by
  cases r
  simp only [rule, elements_eq, captures_eq, entries_eq]
  rfl

variable (w : Bool) (es : List (String × RuleSource)) (r : RuleSource)

theorem kind_body : (R.body w es r).kind = r.kind := by
  simp only [kind, body, List.isEmpty_map, Option.isNone_map]

theorem orShared_keyed (cs shared : List (Nat × RuleSource)) :
    orShared (R.keyed w cs) (R.keyed w shared) = R.keyed w (orShared cs shared) := by
  cases cs <;> rfl

theorem openings_body : (R.body w es r).openings = R.keyed w r.openings := by
  rw [openings, openings, kind_body]
  simp only [body, orShared_keyed]
  split
  · rfl
  · rfl
  · split <;> rfl

theorem closings_body : (R.body w es r).closings = R.keyed w r.closings := by
  rw [closings, closings, kind_body]
  simp only [body, orShared_keyed]
  split <;> rfl

theorem members_body : (R.body w es r).members = r.members.map (R.element w) := by
  rw [members, members, kind_body]
  simp only [body, List.isEmpty_map]
  split
  · rfl
  · cases r.reference with
    | none => rfl
    | some t => cases r.patterns.isEmpty <;> rfl
  · rfl

theorem patternTexts_body : (R.body w es r).patternTexts = r.patternTexts := by
  rw [patternTexts, patternTexts, kind_body]

theorem made_body (head : RuleHead) (first : PatternId) (os cs : CaptureRules) (is : List Item) :
    (R.body w es r).made head first os cs is = r.made head first os cs is := by
  rw [RuleSource.made, RuleSource.made, kind_body]
  rfl

theorem isDisabled_element (m : RuleSource) : (R.element w m).isDisabled = m.isDisabled := by
  rw [element]
  split
  · rfl
  · rw [rule_eq]; rfl

theorem reference_element (m : RuleSource) : (R.element w m).reference = m.reference.map (R.text w) := by
  rw [element]
  split
  · rfl
  · rename_i h
    rw [rule_eq]
    simp_all [body]

theorem memberParts_element (index : Nat) (ms : List RuleSource) :
    memberParts index (ms.map (R.element w)) = R.keyed w (memberParts index ms) := by
  induction ms generalizing index with
  | nil => rfl
  | cons m ms ih =>
    rw [List.map_cons, memberParts, memberParts, isDisabled_element, reference_element, Option.isSome_map,
      ih (index + 1)]
    split
    · rfl
    · rename_i h
      have href : m.reference.isSome = false := by simp_all
      rw [keyed, keyed, List.map_cons, element, href]
      rfl

theorem innerParts_body : (R.body w es r).innerParts = R.keyed w r.innerParts := by
  rw [innerParts, innerParts, openings_body, closings_body, members_body, memberParts_element]
  simp [keyed, Function.comp_def]

theorem parts_rule : (R.rule w r).parts = R.keyed (R.within w r) r.parts := by
  rw [rule_eq, parts, parts, innerParts_body]
  simp [keyed, body, Function.comp_def]

theorem repository_rule : (R.rule w r).repository = R.keyed (R.within w r) r.repository := by
  rw [rule_eq]
  rfl

theorem count_rule (w : Bool) (r : RuleSource) : (R.rule w r).count = r.count := by
  induction r using RuleSource.induction generalizing w with
  | h r ih =>
    rw [RuleSource.count_eq, RuleSource.count_eq, parts_rule, keyed, List.map_map]
    congr 2
    exact List.map_congr_left fun p hp => ih p hp _

theorem countAll_keyed {κ : Type} (ps : List (κ × RuleSource)) : countAll (R.keyed w ps) = countAll ps := by
  simp [countAll, keyed, Function.comp_def, count_rule]

theorem count_body (hes : countAll es = countAll r.repository) : (R.body w es r).count = r.count := by
  rw [RuleSource.count_parts, RuleSource.count_parts, openings_body, closings_body, members_body,
    memberParts_element, countAll_keyed, countAll_keyed, countAll_keyed, ← hes]
  rfl

section

variable {R w es r} (hes : countAll es = countAll r.repository) (k : RuleId)
include hes

theorem firstOpening_body : (R.body w es r).firstOpening k = r.firstOpening k := congrArg (k + 1 + ·) hes

theorem firstClosing_body : (R.body w es r).firstClosing k = r.firstClosing k := by
  rw [RuleSource.firstClosing, firstOpening_body hes, openings_body, countAll_keyed, RuleSource.firstClosing]

theorem firstMember_body : (R.body w es r).firstMember k = r.firstMember k := by
  rw [RuleSource.firstMember, firstClosing_body hes, closings_body, countAll_keyed, RuleSource.firstMember]

end

/-- Patterns have no names. -/
theorem writes_of_rule {text : String} : ∀ (r : RuleSource) (w : Bool), (R.rule w r).Writes text →
    r.Writes text := by
  intro r
  induction r using RuleSource.induction with
  | h r ih =>
    rintro w (h | ⟨hp, h⟩)
    · rw [rule_eq, patternTexts_body] at h
      exact .own h
    · rw [parts_rule] at hp
      obtain ⟨p, hmem, rfl⟩ := List.mem_map.mp hp
      exact .part hmem (ih p hmem _ h)

end Renaming

/-! ### Includes -/

end Source

namespace Reference

variable {own text name : String}

theorem eq_of_ofText_named (h : ofText own text = .ok (.named name)) : text = "#" ++ name := by
  rw [ofText] at h
  split at h
  · cases h
  split at h
  · cases h
  split at h
  · rename_i cs hcs
    obtain rfl := Reference.named.inj (Except.ok.inj h)
    simp [← String.toList_inj, hcs]
  · split at h
    · cases h
    split at h
    · split at h <;> cases h
    · cases h

theorem eq_of_ofText_topLevel (h : ofText own text = .ok (.topLevel name)) :
    text = own ++ "#" ++ name := by
  rw [ofText] at h
  split at h
  · cases h
  split at h
  · cases h
  split at h
  · cases h
  · split at h
    · cases h
    split at h
    · rename_i scope rest hsplit
      split at h
      · rename_i hscope
        obtain rfl := Reference.topLevel.inj (Except.ok.inj h)
        rw [← String.toList_inj, ScopeName.text_of_splitAt? hsplit, ← hscope]
        simp
      · cases h
    · cases h

end Reference

namespace Source
namespace Renaming

variable {R : Renaming}

/-- An include without the name of the grammar is told apart by the sign at its start. -/
theorem hash_ne_own (hne : R.own.toList ≠ []) (hown : '#' ∉ R.own.toList) (s t : String) :
    "#" ++ s ≠ R.own ++ "#" ++ t := by
  intro h
  have hlist := congrArg String.toList h
  cases hcs : R.own.toList with
  | nil => exact hne hcs
  | cons c cs =>
    rw [String.toList_append, String.toList_append, String.toList_append, hcs] at hlist
    obtain ⟨rfl, -⟩ := List.cons.inj hlist
    exact hown (hcs ▸ List.mem_cons_self)

theorem text_hash (hne : R.own.toList ≠ []) (hown : '#' ∉ R.own.toList) (w : Bool) (s : String) :
    R.text w ("#" ++ s) = "#" ++ R.name w s := by
  have hold : "#" ++ s = "#" ++ R.old ↔ s = R.old := by simp
  simp only [text, hold, if_neg (hash_ne_own hne hown s R.old), name]
  split <;> rfl

theorem text_own (hne : R.own.toList ≠ []) (hown : '#' ∉ R.own.toList) (w : Bool) (s : String) :
    R.text w (R.own ++ "#" ++ s) = R.own ++ "#" ++ R.name false s := by
  have hold : R.own ++ "#" ++ s = R.own ++ "#" ++ R.old ↔ s = R.old := by simp
  rw [text, if_neg fun h => hash_ne_own hne hown R.old s h.1.symm]
  simp only [hold, name, and_true]
  split <;> rfl

/-- The text of an include leads to the same under the new name. -/
theorem ofText_text (hne : R.own.toList ≠ []) (hown : '#' ∉ R.own.toList) {w : Bool} {t : String}
    {ref : Reference} (h : Reference.ofText R.own t = .ok ref) :
    Reference.ofText R.own (R.text w t) = .ok (R.reference w ref) := by
  have kept : (∀ s, ref ≠ .named s) → (∀ s, ref ≠ .topLevel s) → R.text w t = t := by
    intro hnamed htop
    rw [text, if_neg, if_neg]
    · rintro rfl
      exact htop _ (Except.ok.inj (h.symm.trans (Reference.ofText_own hne hown _)))
    · rintro ⟨rfl, -⟩
      exact hnamed _ (Except.ok.inj (h.symm.trans (Reference.ofText_hash _ _)))
  cases ref with
  | named s =>
    obtain rfl := Reference.eq_of_ofText_named h
    rw [text_hash hne hown, Reference.ofText_hash]
    rfl
  | topLevel s =>
    obtain rfl := Reference.eq_of_ofText_topLevel h
    rw [text_own hne hown, Reference.ofText_own hne hown]
    rfl
  | self => rw [kept nofun nofun, h]; rfl
  | base => rw [kept nofun nofun, h]; rfl

/-! ### Acceptance -/

theorem keys_keyed {κ : Type} (w : Bool) (ps : List (κ × RuleSource)) :
    (R.keyed w ps).map (·.1) = ps.map (·.1) := by
  simp [keyed, Function.comp_def]

/-- A rule is accepted under the new name if its parts are. -/
theorem accepted_body (hne : R.own.toList ≠ []) (hown : '#' ∉ R.own.toList) {w : Bool} {d : Nat}
    {r : RuleSource} {es : List (String × RuleSource)} (h : r.Accepted R.own d)
    (hes : es.length = r.repository.length)
    (hparts : ∀ p ∈ (R.body w es r).parts, p.2.Accepted R.own (r.depthWithin d)) :
    (R.body w es r).Accepted R.own d := by
  obtain ⟨depth, openings, closings, includes, -⟩ := h
  have hdepth : (R.body w es r).depthWithin d = r.depthWithin d := by
    simp only [RuleSource.depthWithin, body, List.isEmpty_iff_length_eq_zero, hes]
  refine .intro (fun hsome => depth ?_) ?_ ?_ ?_ (hdepth ▸ hparts)
  · rintro hnil
    rw [hnil] at hes
    exact hsome (List.length_eq_zero_iff.mp hes)
  · rw [openings_body, RuleSource.CapturesFit, keys_keyed]
    exact openings
  · rw [closings_body, RuleSource.CapturesFit, keys_keyed]
    exact closings
  · rw [members_body]
    intro m' hm' hd text' ht
    obtain ⟨m, hm, rfl⟩ := List.mem_map.mp hm'
    rw [isDisabled_element] at hd
    rw [reference_element] at ht
    obtain ⟨text, htext, rfl⟩ := Option.map_eq_some_iff.mp ht
    obtain ⟨ref, href⟩ := includes m hm hd text htext
    exact ⟨_, ofText_text hne hown href⟩

/-- **What is accepted is accepted under the new name.** -/
theorem accepted_rule (hne : R.own.toList ≠ []) (hown : '#' ∉ R.own.toList) {d : Nat} {r : RuleSource}
    (h : r.Accepted R.own d) : ∀ w, (R.rule w r).Accepted R.own d := by
  induction h with
  | @intro d r depth openings closings includes parts ih =>
    intro w
    have hparts := R.parts_rule w r
    rw [rule_eq] at hparts ⊢
    refine accepted_body hne hown (.intro depth openings closings includes parts) (by simp [keyed]) ?_
    rw [hparts]
    intro p hp
    obtain ⟨q, hq, rfl⟩ := List.mem_map.mp hp
    exact ih q hq _

end Renaming

/-! ### Grammars -/

/-- A grammar has an entry of the old name, and none of the new one anywhere. -/
structure GrammarSource.Renames (s : GrammarSource) (old new : String) : Prop where
  entry : (s.repository.lookup old).isSome
  keys : (s.repository.map (·.1)).Nodup
  fresh : ¬ s.root.HasEntry new

variable {s : GrammarSource} {old new : String}

theorem GrammarSource.renamed_root (s : GrammarSource) (old new : String) :
    (s.renamed old new).root = (s.renamer old new).body false (s.renamed old new).repository s.root := by
  simp only [GrammarSource.root, GrammarSource.renamed, Renaming.elements_eq]
  rfl

namespace GrammarSource.Renames

/-- The entries have the same rules up to names, in another order. -/
theorem repository (h : s.Renames old new) : (s.renamed old new).repository.Perm
    (s.repository.map fun e => ((s.renamer old new).name false e.1, (s.renamer old new).rule false e.2)) := by
  obtain ⟨r, hr⟩ := Option.isSome_iff_exists.mp h.entry
  have herase := Sorted.erase_perm hr h.keys
  have hothers : ∀ e ∈ Sorted.erase old s.repository, (s.renamer old new).name false e.1 = e.1 := by
    intro e he
    have hne := of_decide_eq_true (List.mem_filter.mp he).2
    rw [Renaming.name, if_neg fun h => hne h.1]
  have hmap : (Sorted.erase old s.repository).map (fun e => ((s.renamer old new).name false e.1,
      (s.renamer old new).rule false e.2)) = (s.renamer old new).keyed false (Sorted.erase old s.repository) :=
    List.map_congr_left fun e he => by rw [hothers e he]
  have hentry : (s.renamer old new).name false old = new := if_pos ⟨rfl, rfl⟩
  refine .trans ?_ (herase.map _).symm
  rw [List.map_cons, hmap, hentry]
  simp only [GrammarSource.renamed, hr, Renaming.entries_eq]
  refine Sorted.insert_perm fun hmem => h.fresh (.own ?_)
  rw [Renaming.keys_keyed] at hmem
  obtain ⟨e, he, rfl⟩ := List.mem_map.mp hmem
  exact List.mem_map_of_mem (List.mem_filter.mp he).1

/-- The rules in a grammar with the new name are those in the grammar. -/
theorem mem_parts (h : s.Renames old new) {p : RuleSource.Part × RuleSource}
    (hp : p ∈ (s.renamed old new).root.parts) :
    ∃ q ∈ s.root.parts, p.2 = (s.renamer old new).rule false q.2 := by
  rw [renamed_root, RuleSource.parts, Renaming.innerParts_body] at hp
  rcases List.mem_append.mp hp with hp | hp
  · obtain ⟨e', he', rfl⟩ := List.mem_map.mp hp
    obtain ⟨e, he, rfl⟩ := List.mem_map.mp (h.repository.mem_iff.mp he')
    exact ⟨(.entry e.1, e.2), List.mem_append_left _ (List.mem_map_of_mem he), rfl⟩
  · obtain ⟨q, hq, rfl⟩ := List.mem_map.mp hp
    exact ⟨q, List.mem_append_right _ hq, rfl⟩

/-- A grammar is accepted under the new name. -/
theorem accepted (h : s.Renames old new) (hne : (s.renamer old new).own.toList ≠ [])
    (hown : '#' ∉ (s.renamer old new).own.toList) (hs : s.root.Accepted (s.renamer old new).own 0) :
    (s.renamed old new).root.Accepted (s.renamer old new).own 0 := by
  have hparts := @h.mem_parts
  rw [renamed_root] at hparts ⊢
  refine Renaming.accepted_body hne hown hs (h.repository.length_eq.trans (List.length_map _)) fun p hp => ?_
  obtain ⟨q, hq, hrule⟩ := hparts hp
  obtain ⟨-, -, -, -, parts⟩ := hs
  exact hrule ▸ Renaming.accepted_rule hne hown (parts q hq) false

/-- The patterns of a grammar are the same under the new name. -/
theorem writes (h : s.Renames old new) {text : String} (hw : (s.renamed old new).root.Writes text) :
    s.root.Writes text := by
  rcases hw with hw | ⟨hp, hw⟩
  · rw [renamed_root, Renaming.patternTexts_body] at hw
    exact .own hw
  · obtain ⟨q, hq, hrule⟩ := h.mem_parts hp
    exact .part hq (Renaming.writes_of_rule _ _ _ (hrule ▸ hw))

end GrammarSource.Renames
end Source
end ScopeLexer
