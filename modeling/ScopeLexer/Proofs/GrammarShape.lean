/-
# The shape of compiled grammars

While a grammar is assembled nothing that has been put in is lost, and each span that is put in its place
knows whether its closing pattern refers to groups. So every grammar that comes out has the group of its
patterns for its root, patterns that are those of their texts, and spans that know their closing patterns.

Key definitions: `Rule.span?`, `Assembly.SpansKnow`, `Grammar.Shape`.
Key theorems: `Assembly.spansKnow_tracks`, `Grammar.shape_of_ofSource`.
-/
import ScopeLexer.Proofs.Assembling

namespace ScopeLexer

open Source (RuleSource GrammarSource)

/-- The span that a rule opens, with what begins it and what ends or continues it. -/
def Rule.span? : Rule → Option SpanRule
  | .beginEnd r => some r.toSpanRule
  | .beginWhile r => some r
  | _ => none

namespace Assembly

/-- The span knows whether its closing pattern refers to groups. -/
def Knows (a : Assembly) (span : SpanRule) : Prop :=
  ∃ p, a.patterns[span.closing]? = some p ∧
    span.closingRefers = Pattern.hasBackreferences p.toList

/-- Every span that has been put in its place knows its closing pattern. -/
def SpansKnow (a : Assembly) : Prop :=
  ∀ (r : Rule) (span : SpanRule), r ∈ a.rules → r.span? = some span → a.Knows span

variable {a b : Assembly}

theorem Knows.extend {span : SpanRule} (h : a.Knows span) (hab : a.Extends b) : b.Knows span := by
  obtain ⟨p, hp, hrefers⟩ := h
  exact ⟨p, hab.patterns _ _ hp, hrefers⟩

/-- A span that is made of a rule knows the first of its patterns. -/
theorem HasPatterns.knows {r : RuleSource} {first : PatternId} (h : a.HasPatterns first r)
    {head : RuleHead} {os cs : CaptureRules} {is : List Item} {span : SpanRule}
    (hspan : (r.made head first os cs is).span? = some span) : a.Knows span := by
  have known : ∀ closing opening, r.patternTexts = [closing, opening] →
      a.patterns[first]? = some closing := fun closing opening htexts => h 0 closing (by rw [htexts]; rfl)
  rw [RuleSource.made] at hspan
  cases hk : r.kind with
  | matching p => simp [hk, Rule.span?] at hspan
  | continued opening closing =>
    simp only [hk, Rule.span?] at hspan
    obtain rfl := Option.some.inj hspan
    exact ⟨closing, known closing opening (by rw [RuleSource.patternTexts, hk]), rfl⟩
  | ended opening closing =>
    simp only [hk, Rule.span?] at hspan
    obtain rfl := Option.some.inj hspan
    exact ⟨closing, known closing opening (by rw [RuleSource.patternTexts, hk]), rfl⟩
  | group =>
    simp only [hk] at hspan
    split at hspan
    · simp [Rule.span?] at hspan
    · simp [Rule.span?] at hspan

theorem SpansKnow.reserved (h : a.SpansKnow) : a.reserved.SpansKnow := by
  intro r span hr hs
  rcases Array.mem_push.mp hr with hr | rfl
  · exact h r span hr hs
  · simp [Rule.span?] at hs

theorem SpansKnow.put (h : a.SpansKnow) {i : RuleId} {q : Rule}
    (hq : ∀ span, q.span? = some span → a.Knows span) : (a.put i q).SpansKnow := by
  intro r span hr hs
  rcases Array.mem_or_eq_of_mem_setIfInBounds hr with hr | rfl
  · exact h r span hr hs
  · exact hq span hs

/-- **Spans know their closing patterns**, whatever is added. -/
theorem spansKnow_tracks : Tracks fun a b => a.SpansKnow → b.SpansKnow where
  refl _ h := h
  trans hab hbc h := hbc (hab h)
  patterns a texts h r span hr hs := (h r span hr hs).extend (.withPatterns a texts)
  repository _ h := h
  rule _ _ _ _ _ _ h hps ha := (h ha.reserved).put fun _ => hps.knows

end Assembly

namespace Grammar

/-- The root is the group of the patterns of the grammar. -/
def HasRoot (g : Grammar) : Prop := ∃ r, g.rule rootRule = .group r

/-- What holds of every grammar that has been compiled. -/
structure Shape (g : Grammar) : Prop where
  root : g.HasRoot
  patterns : ∀ p ∈ g.patterns, p = Pattern.ofText p.source
  spans : ∀ id span, (g.rule id).span? = some span →
    span.closingRefers = (g.pattern span.closing).hasReferences

/-- What has been added for a grammar: its root in the first place, and spans that know their closing
patterns. -/
theorem addGrammar_ok {own : String} {s : GrammarSource} {root : Option RepositoryId}
    {a : Assembly} (h : Assembly.addGrammar own s {} = .ok (root, a)) :
    (∃ r, a.rules[rootRule]? = some (.group r)) ∧ a.SpansKnow := by
  obtain ⟨a₁, a₂, is, hrepository, inner, rfl⟩ := Assembly.addGrammar_parts h
  have grows : (Assembly.reserved {}).Extends a₂ :=
    (Assembly.Extends.tracks.addRepository hrepository).trans (Assembly.Extends.tracks.inner inner)
  have know : a₂.SpansKnow := Assembly.spansKnow_tracks.inner inner
    (Assembly.spansKnow_tracks.addRepository hrepository (Assembly.SpansKnow.reserved (by simp [Assembly.SpansKnow])))
  refine ⟨⟨_, Array.getElem?_setIfInBounds_self_of_lt ?_⟩, know.put (by simp [Rule.span?])⟩
  exact (Array.getElem?_eq_some_iff.mp (grows.rules rootRule .noop rfl)).1

/-- **Every compiled grammar is in shape.** -/
theorem shape_of_ofSource {s : GrammarSource} {g : Grammar} (h : ofSource s = .ok g) : g.Shape := by
  obtain ⟨root, b, hb⟩ := ofSource_ok h
  obtain ⟨⟨r, hr⟩, know⟩ := addGrammar_ok hb.assembled
  refine ⟨⟨r, ?_⟩, fun q hq => ?_, fun id span hs => ?_⟩
  · simp [rule, hb.rules, hr]
  · rw [hb.patterns] at hq
    obtain ⟨text, -, rfl⟩ := Array.mem_map.mp hq
    rfl
  · cases hid : b.rules[id]? with
    | none => simp [rule, hb.rules, hid, Rule.span?] at hs
    | some r =>
      obtain ⟨q, hq, hrefers⟩ :=
        know r span (Array.mem_of_getElem? hid) (by simpa [rule, hb.rules, hid] using hs)
      simpa [pattern, hb.patterns, hq, Pattern.hasReferences, Pattern.ofText] using hrefers

end Grammar
end ScopeLexer
