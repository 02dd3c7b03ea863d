/-
# Sources that are read are sound

A grammar that is read, in whichever format, is in order down to its innermost rules: captures are sorted by
groups that are words, what is named is sorted by name, switches that are numbers are words with a sign, and
the keys without a meaning are sorted, are none of those with a meaning, and have sound values.

Key definitions: `RuleSource.Throughout`, `RuleSource.Sound`, `GrammarSource.Sound`,
`GrammarSource.unknownValues`, `Notation.Bounded`.
Key theorems: `Notation.decodes_sound`, `Format.read_sound`, `Format.read_ordered`.
-/
import ScopeLexer.Proofs.DecimalDigits
import ScopeLexer.Proofs.Outcome
import ScopeLexer.Proofs.SortedSources
import ScopeLexer.Proofs.SoundValues
import ScopeLexer.Source.Format

namespace ScopeLexer
namespace Source

open Decimal (maxWord)
open Json (Value)

/-! ### Rules in rules -/

namespace RuleSource

/-- The rules right in a rule. -/
def inner (r : RuleSource) : List RuleSource :=
  r.captureLists.flatten.map (·.2) ++ r.patterns ++ r.repository.map (·.2)

/-- A property of a rule and of all rules in it. -/
inductive Throughout (P : RuleSource → Prop) : RuleSource → Prop
  | intro {r : RuleSource} (here : P r) (inner : ∀ q ∈ r.inner, Throughout P q) : Throughout P r

variable {P Q : RuleSource → Prop} {r : RuleSource}

theorem forall_mem_inner : (∀ q ∈ r.inner, P q) ↔ (∀ cs ∈ r.captureLists, ∀ c ∈ cs, P c.2) ∧
    (∀ q ∈ r.patterns, P q) ∧ ∀ e ∈ r.repository, P e.2 := by
  simp only [inner, List.mem_append, List.mem_map, List.mem_flatten, or_imp, forall_and, and_assoc]
  refine and_congr ⟨fun h cs hcs c hc => h c.2 ⟨c, ⟨cs, hcs, hc⟩, rfl⟩, ?_⟩
    (and_congr_right fun _ => ⟨fun h e he => h e.2 ⟨e, he, rfl⟩, ?_⟩)
  · rintro h _ ⟨c, ⟨cs, hcs, hc⟩, rfl⟩
    exact h cs hcs c hc
  · rintro h _ ⟨e, he, rfl⟩
    exact h e he

namespace Throughout

theorem here (h : r.Throughout P) : P r := by
  obtain ⟨here, -⟩ := h
  exact here

theorem parts (h : r.Throughout P) : ∀ q ∈ r.inner, q.Throughout P := by
  obtain ⟨-, inner⟩ := h
  exact inner

theorem and (hp : r.Throughout P) (hq : r.Throughout Q) : r.Throughout fun q => P q ∧ Q q := by
  induction hp with
  | intro here _ ih => exact .intro ⟨here, hq.here⟩ fun q hmem => ih q hmem (hq.parts q hmem)

end Throughout
end RuleSource

/-! ### What is in order -/

/-- A switch that is a number is a word with a sign. -/
def Flag.Fits : Flag → Prop
  | .bool _ => True
  | .number n => Decimal.fitsSigned n

/-- The keys of a rule that have a meaning. -/
def RuleSource.keys : List String :=
  ["include", "name", "contentName", "match", "begin", "end", "while", "captures", "beginCaptures",
    "endCaptures", "whileCaptures", "applyEndPatternLast", "appliesLineBreak", "disabled", "patterns",
    "repository"]

/-- The keys of a grammar that have a meaning. -/
def GrammarSource.keys : List String :=
  ["information_for_contributors", "version", "name", "scopeName", "fileTypes", "uuid", "firstLineMatch",
    "foldingStartMarker", "foldingStopMarker", "patterns", "repository"]

/-- Keys without a meaning, sorted, with sound values. -/
structure SoundExtra (known : List String) (es : List (String × Value)) : Prop where
  ascending : Sorted.Ascending es
  unknown : ∀ e ∈ es, e.1 ∉ known
  sound : ∀ e ∈ es, e.2.Sound

/-- Captures are sorted, of groups whose numbers are words. -/
structure TidyCaptures (cs : List (Nat × RuleSource)) : Prop where
  ascending : Sorted.Ascending cs
  indices : ∀ c ∈ cs, c.1 ≤ maxWord

/-- All that a rule holds itself is in order. -/
structure RuleSource.Tidy (r : RuleSource) : Prop where
  captures : ∀ cs ∈ r.captureLists, TidyCaptures cs
  applyEndPatternLast : ∀ f ∈ r.applyEndPatternLast, f.Fits
  disabled : ∀ f ∈ r.disabled, f.Fits
  repository : Sorted.Ascending r.repository
  extra : SoundExtra RuleSource.keys r.extra

/-- A rule is in order down to its innermost rules. -/
def RuleSource.Sound (r : RuleSource) : Prop := r.Throughout RuleSource.Tidy

/-- Captures in order, of sound rules. -/
def SoundCaptures (cs : List (Nat × RuleSource)) : Prop := TidyCaptures cs ∧ ∀ c ∈ cs, c.2.Sound

/-- Names in order, of sound rules. -/
def SoundRepository (es : List (String × RuleSource)) : Prop := Sorted.Ascending es ∧ ∀ e ∈ es, e.2.Sound

/-- A grammar is in order down to its innermost rules. -/
structure GrammarSource.Sound (g : GrammarSource) : Prop where
  patterns : ∀ r ∈ g.patterns, r.Sound
  repository : SoundRepository g.repository
  extra : SoundExtra GrammarSource.keys g.extra

/-- The values of keys without a meaning have a property in all their parts, in a rule and in all rules in
it. -/
def RuleSource.ExtraThroughout (P : Value → Prop) (r : RuleSource) : Prop :=
  r.Throughout fun q => ∀ e ∈ q.extra, e.2.Throughout P

/-- The values of keys without a meaning have a property in all their parts, anywhere in a grammar. -/
structure GrammarSource.ExtraThroughout (P : Value → Prop) (g : GrammarSource) : Prop where
  extra : ∀ e ∈ g.extra, e.2.Throughout P
  patterns : ∀ r ∈ g.patterns, r.ExtraThroughout P
  repository : ∀ e ∈ g.repository, e.2.ExtraThroughout P

mutual

/-- All values in the keys without a meaning, in a rule and in all rules in it. -/
def RuleSource.unknownValues : RuleSource → List Value
  | { reference := _, name := _, contentName := _, matchPattern := _, beginPattern := _, endPattern := _,
      whilePattern := _, captures := cs, beginCaptures := bcs, endCaptures := ecs, whileCaptures := wcs,
      applyEndPatternLast := _, appliesLineBreak := _, disabled := _, patterns := ps, repository := rp,
      extra := ex } =>
    Json.membersWithin ex ++ (captureUnknowns cs ++ (captureUnknowns bcs ++ (captureUnknowns ecs ++
      (captureUnknowns wcs ++ (ruleUnknowns ps ++ namedUnknowns rp)))))
  termination_by structural r => r

/-- All values in the keys without a meaning in rules. -/
def ruleUnknowns : List RuleSource → List Value
  | [] => []
  | r :: rs => r.unknownValues ++ ruleUnknowns rs
  termination_by structural rs => rs

/-- All values in the keys without a meaning in captures. -/
def captureUnknowns : List (Nat × RuleSource) → List Value
  | [] => []
  | c :: cs => captureUnknown c ++ captureUnknowns cs
  termination_by structural cs => cs

/-- All values in the keys without a meaning in a capture. -/
def captureUnknown : Nat × RuleSource → List Value
  | (_, r) => r.unknownValues
  termination_by structural c => c

/-- All values in the keys without a meaning in named rules. -/
def namedUnknowns : List (String × RuleSource) → List Value
  | [] => []
  | e :: es => namedUnknown e ++ namedUnknowns es
  termination_by structural es => es

/-- All values in the keys without a meaning in a named rule. -/
def namedUnknown : String × RuleSource → List Value
  | (_, r) => r.unknownValues
  termination_by structural e => e

end

/-- All values in the keys without a meaning, anywhere in a grammar. -/
def GrammarSource.unknownValues (g : GrammarSource) : List Value :=
  Json.membersWithin g.extra ++ (ruleUnknowns g.patterns ++ namedUnknowns g.repository)

theorem forall_mem_ruleUnknowns {P : Value → Prop} {rs : List RuleSource}
    (h : ∀ v ∈ ruleUnknowns rs, P v) : ∀ r ∈ rs, ∀ v ∈ r.unknownValues, P v := by
  induction rs with
  | nil => exact nofun
  | cons r rs ih =>
    rw [ruleUnknowns, List.forall_mem_append] at h
    exact List.forall_mem_cons.mpr ⟨h.1, ih h.2⟩

theorem forall_mem_captureUnknowns {P : Value → Prop} {cs : List (Nat × RuleSource)}
    (h : ∀ v ∈ captureUnknowns cs, P v) : ∀ c ∈ cs, ∀ v ∈ c.2.unknownValues, P v := by
  induction cs with
  | nil => exact nofun
  | cons c cs ih =>
    obtain ⟨i, r⟩ := c
    rw [captureUnknowns, List.forall_mem_append] at h
    exact List.forall_mem_cons.mpr ⟨h.1, ih h.2⟩

theorem forall_mem_namedUnknowns {P : Value → Prop} {es : List (String × RuleSource)}
    (h : ∀ v ∈ namedUnknowns es, P v) : ∀ e ∈ es, ∀ v ∈ e.2.unknownValues, P v := by
  induction es with
  | nil => exact nofun
  | cons e es ih =>
    obtain ⟨name, r⟩ := e
    rw [namedUnknowns, List.forall_mem_append] at h
    exact List.forall_mem_cons.mpr ⟨h.1, ih h.2⟩

/-- What holds of all values in unknown keys of a rule holds throughout the rules in it. -/
theorem RuleSource.Sound.extraThroughout {P : Value → Prop} {r : RuleSource} (hr : r.Sound)
    (h : ∀ v ∈ r.unknownValues, P v) : r.ExtraThroughout P := by
  induction hr with
  | @intro r _ _ ih =>
    obtain ⟨captured, patterns, named⟩ := forall_mem_inner.mp ih
    cases r
    simp only [unknownValues, List.forall_mem_append] at h
    obtain ⟨hextra, hc, hb, he, hw, hp, hn⟩ := h
    simp only [captureLists, List.forall_mem_cons] at captured
    obtain ⟨ihc, ihb, ihe, ihw, -⟩ := captured
    refine .intro (Json.throughout_of_membersWithin _ hextra) (forall_mem_inner.mpr ⟨?_, ?_, ?_⟩)
    · simp only [captureLists, List.forall_mem_cons]
      exact ⟨fun c hmem => ihc c hmem (forall_mem_captureUnknowns hc c hmem),
        fun c hmem => ihb c hmem (forall_mem_captureUnknowns hb c hmem),
        fun c hmem => ihe c hmem (forall_mem_captureUnknowns he c hmem),
        fun c hmem => ihw c hmem (forall_mem_captureUnknowns hw c hmem), List.forall_mem_nil _⟩
    · exact fun q hq => patterns q hq (forall_mem_ruleUnknowns hp q hq)
    · exact fun e hmem => named e hmem (forall_mem_namedUnknowns hn e hmem)

/-- What holds of all values in unknown keys holds throughout the grammar. -/
theorem GrammarSource.Sound.extraThroughout {P : Value → Prop} {g : GrammarSource} (hg : g.Sound)
    (h : ∀ v ∈ g.unknownValues, P v) : g.ExtraThroughout P := by
  simp only [unknownValues, List.forall_mem_append] at h
  obtain ⟨hextra, hp, hn⟩ := h
  exact ⟨Json.throughout_of_membersWithin _ hextra,
    fun r hr => (hg.patterns r hr).extraThroughout (forall_mem_ruleUnknowns hp r hr),
    fun e he => (hg.repository.2 e he).extraThroughout (forall_mem_namedUnknowns hn e he)⟩

/-- What makes a rule sound, key by key. -/
structure RuleSource.SoundKeys (r : RuleSource) : Prop where
  captures : SoundCaptures r.captures
  beginCaptures : SoundCaptures r.beginCaptures
  endCaptures : SoundCaptures r.endCaptures
  whileCaptures : SoundCaptures r.whileCaptures
  applyEndPatternLast : ∀ f ∈ r.applyEndPatternLast, f.Fits
  disabled : ∀ f ∈ r.disabled, f.Fits
  patterns : ∀ q ∈ r.patterns, q.Sound
  repository : SoundRepository r.repository
  extra : SoundExtra RuleSource.keys r.extra

namespace SoundExtra

variable {known : List String} {es : List (String × Value)}

theorem nil : SoundExtra known [] := ⟨List.Pairwise.nil, List.forall_mem_nil _, List.forall_mem_nil _⟩

theorem insert {key : String} {v : Value} (h : SoundExtra known es) (hkey : key ∉ known) (hv : v.Sound) :
    SoundExtra known (Sorted.insert key v es) := by
  refine ⟨h.ascending.insert, fun e he => ?_, fun e he => ?_⟩
  · rcases Sorted.mem_insert he with rfl | he
    · exact hkey
    · exact h.unknown e he
  · rcases Sorted.mem_insert he with rfl | he
    · exact hv
    · exact h.sound e he

end SoundExtra

theorem SoundCaptures.nil : SoundCaptures [] := ⟨⟨List.Pairwise.nil, nofun⟩, nofun⟩

theorem SoundCaptures.insert {cs : List (Nat × RuleSource)} {c : Nat × RuleSource} (h : SoundCaptures cs)
    (hi : c.1 ≤ maxWord) (hc : c.2.Sound) : SoundCaptures (Sorted.insert c.1 c.2 cs) := by
  refine ⟨⟨h.1.ascending.insert, fun d hd => ?_⟩, fun d hd => ?_⟩
  · rcases Sorted.mem_insert hd with rfl | hd
    · exact hi
    · exact h.1.indices d hd
  · rcases Sorted.mem_insert hd with rfl | hd
    · exact hc
    · exact h.2 d hd

theorem SoundRepository.nil : SoundRepository [] := ⟨List.Pairwise.nil, nofun⟩

theorem SoundRepository.insert {es : List (String × RuleSource)} {e : String × RuleSource}
    (h : SoundRepository es) (he : e.2.Sound) : SoundRepository (Sorted.insert e.1 e.2 es) := by
  refine ⟨h.1.insert, fun d hd => ?_⟩
  rcases Sorted.mem_insert hd with rfl | hd
  · exact he
  · exact h.2 d hd

namespace RuleSource

theorem sound_iff {r : RuleSource} : r.Sound ↔ r.SoundKeys := by
  constructor
  · rintro ⟨tidy, parts⟩
    obtain ⟨captured, patterns, named⟩ := forall_mem_inner.mp parts
    have hcaptures : ∀ cs ∈ r.captureLists, SoundCaptures cs := fun cs hcs =>
      ⟨tidy.captures cs hcs, captured cs hcs⟩
    simp only [captureLists, List.forall_mem_cons] at hcaptures
    obtain ⟨hc, hb, he, hw, -⟩ := hcaptures
    exact ⟨hc, hb, he, hw, tidy.applyEndPatternLast, tidy.disabled, patterns, ⟨tidy.repository, named⟩,
      tidy.extra⟩
  · intro h
    have hcaptures : ∀ cs ∈ r.captureLists, SoundCaptures cs := by
      simp only [captureLists, List.forall_mem_cons]
      exact ⟨h.captures, h.beginCaptures, h.endCaptures, h.whileCaptures, List.forall_mem_nil _⟩
    exact .intro ⟨fun cs hcs => (hcaptures cs hcs).1, h.applyEndPatternLast, h.disabled, h.repository.1,
      h.extra⟩ (forall_mem_inner.mpr ⟨fun cs hcs => (hcaptures cs hcs).2, h.patterns, h.repository.2⟩)

theorem soundKeys_empty : SoundKeys {} :=
  ⟨.nil, .nil, .nil, .nil, nofun, nofun, nofun, .nil, .nil⟩

/-- The captures of a sound rule are sorted. -/
theorem Sound.ordered {r : RuleSource} (h : r.Sound) : r.Ordered := by
  induction h with
  | intro tidy _ ih =>
    obtain ⟨captured, patterns, named⟩ := forall_mem_inner.mp ih
    exact .intro (fun cs hcs => (tidy.captures cs hcs).ascending) captured patterns named

end RuleSource

theorem GrammarSource.Sound.ordered {g : GrammarSource} (h : g.Sound) : g.Ordered :=
  ⟨fun r hr => (h.patterns r hr).ordered, fun e he => (h.repository.2 e he).ordered⟩

/-! ### Decoding -/

namespace Notation

variable {α : Type} {n : Notation α} {Fits : α → Prop}

/-- What a notation gives for scalars with a property is in bounds. -/
structure Bounded (n : Notation α) (Fits : α → Prop) : Prop where
  index : ∀ s i, Fits s → n.index s = .ok i → i ≤ maxWord
  flag : ∀ s f, Fits s → n.flag s = .ok f → f.Fits
  value : ∀ t v, t.All Fits → n.value t = .ok (some v) → v.Sound

/-- An entry with a value that is read. -/
theorem entry_ok {ρ β : Type} {p p' : Partial ρ} {key : String} {x : Except Fault β} {f : β → ρ}
    (h : (do
      let seen ← once p.seen key
      let v ← x
      return { p with result := f v, seen := seen }) = Except.ok p') :
    ∃ v, x = .ok v ∧ p'.result = f v := by
  obtain ⟨seen, -, h⟩ := exists_of_bind_ok h
  obtain ⟨v, hv, h⟩ := exists_of_bind_ok h
  obtain rfl := Except.ok.inj h
  exact ⟨v, hv, rfl⟩

/-- An entry whose key has no meaning. -/
theorem other_ok {ρ : Type} {p p' : Partial ρ} {x : Except Fault (Option Value)} {f : Value → ρ}
    (h : (do
      match ← x with
      | some v => return { p with result := f v }
      | none => return { p with refused := true }) = Except.ok p') :
    p'.result = p.result ∨ ∃ v, x = .ok (some v) ∧ p'.result = f v := by
  obtain ⟨v, hv, h⟩ := exists_of_bind_ok h
  cases v with
  | none =>
    obtain rfl := Except.ok.inj h
    exact .inl rfl
  | some v =>
    obtain rfl := Except.ok.inj h
    exact .inr ⟨v, hv, rfl⟩

theorem closing_ok {ρ : Type} {closed : Bool} {r s : ρ}
    (h : (do closing closed; return r) = Except.ok s) : r = s := by
  obtain ⟨u, -, h⟩ := exists_of_bind_ok h
  exact Except.ok.inj h

theorem finish_ok {ρ : Type} {p : Partial ρ} {closed : Bool} {r : ρ} (h : p.finish closed = .ok r) :
    p.result = r := by
  rw [Partial.finish] at h
  obtain ⟨u, -, h⟩ := exists_of_bind_ok h
  split at h
  · cases h
  · exact Except.ok.inj h

/-- An optional value that is there was read from the document or from what it wraps. -/
theorem optional_ok {β : Type} {f : Document α → Except Fault β} {t : Document α} (ht : t.All Fits) {b : β}
    (h : n.optional f t = .ok (some b)) : ∃ u, u.All Fits ∧ f u = .ok b := by
  have map_some : ∀ {u : Document α}, (f u).map some = .ok (some b) → f u = .ok b := by
    intro u hu
    cases hf : f u with
    | error e =>
      rw [hf] at hu
      cases hu
    | ok c =>
      rw [hf] at hu
      obtain rfl := Option.some.inj (Except.ok.inj hu)
      rfl
  rw [optional.eq_def] at h
  split at h
  · split at h
    · rename_i k v rest closed
      obtain ⟨key, -, h⟩ := exists_of_bind_ok h
      cases ht with
      | map _ values =>
        refine ⟨v, values _ List.mem_cons_self, ?_⟩
        by_cases hsome : key = "Some"
        · simp only [hsome, ↓reduceIte] at h
          obtain ⟨found, hfound, h⟩ := exists_of_bind_ok h
          split at h
          · cases h
          · obtain rfl := closing_ok h
            exact map_some hfound
        · by_cases hnone : key = "None"
          · simp only [hnone, String.reduceEq, ↓reduceIte] at h
            obtain ⟨found, hfound, h⟩ := exists_of_bind_ok h
            split at h
            · cases h
            · obtain rfl := closing_ok h
              cases hv : scalarOf n.text v <;> rw [hv] at hfound <;> cases hfound
          · simp only [hsome, hnone, ↓reduceIte] at h
            cases h
    · cases h
    · cases h
    · cases h
  · split at h
    · rename_i s
      obtain ⟨isNull, -, h⟩ := exists_of_bind_ok h
      split at h
      · cases h
      · exact ⟨.scalar s, ht, map_some h⟩
    · exact ⟨t, ht, map_some h⟩

theorem flagOf_fits (hn : n.Bounded Fits) {t : Document α} (ht : t.All Fits) {f : Flag}
    (h : n.flagOf t = .ok f) : f.Fits := by
  cases ht with
  | scalar hs => exact hn.flag _ f hs h
  | list _ | map _ _ | typed _ | broken =>
    obtain ⟨v, -, h⟩ := exists_of_bind_ok h
    cases h

theorem optional_flag_fits (hn : n.Bounded Fits) {t : Document α} (ht : t.All Fits) {o : Option Flag}
    (h : n.optional n.flagOf t = .ok o) : ∀ f ∈ o, f.Fits := by
  rintro f rfl
  obtain ⟨u, hu, h⟩ := optional_ok ht h
  exact flagOf_fits hn hu h

/-! ### Rules -/

/-- All scalars that are keys or in values of entries have a property. -/
def EntriesAll (P : α → Prop) (es : List (Option α × Document α)) : Prop :=
  ∀ e ∈ es, (∀ k ∈ e.1, P k) ∧ e.2.All P

/-- What is decoded from a document is sound, whichever part of a rule is expected there. -/
structure DecodesSound (n : Notation α) (t : Document α) : Prop where
  rule : ∀ r, n.rule t = .ok r → r.Sound
  rules : ∀ rs, n.rules t = .ok rs → ∀ r ∈ rs, r.Sound
  captures : ∀ cs, n.captures t = .ok cs → SoundCaptures cs
  repository : ∀ es, n.repository t = .ok es → SoundRepository es

theorem field_sound (hn : n.Bounded Fits) {k : Option α} {t : Document α} (ht : t.All Fits)
    (hd : DecodesSound n t) {p p' : Partial RuleSource} (h : n.field p (k, t) = .ok p')
    (hp : p.result.SoundKeys) : p'.result.SoundKeys := by
  rw [field] at h
  obtain ⟨key, -, h⟩ := exists_of_bind_ok h
  simp only at h
  split at h
  case h_17 =>
    rcases other_ok h with hresult | ⟨v, hv, hresult⟩
    · exact hresult ▸ hp
    · have hkey : key ∉ RuleSource.keys := by
        simp only [RuleSource.keys, List.mem_cons, List.not_mem_nil, or_false, not_or]
        refine ⟨?_, ?_, ?_, ?_, ?_, ?_, ?_, ?_, ?_, ?_, ?_, ?_, ?_, ?_, ?_, ?_⟩ <;> assumption
      exact hresult ▸ { hp with extra := hp.extra.insert hkey (hn.value t v ht hv) }
  case h_8 =>
    obtain ⟨cs, hcs, hresult⟩ := entry_ok h
    exact hresult ▸ { hp with captures := hd.captures cs hcs }
  case h_9 =>
    obtain ⟨cs, hcs, hresult⟩ := entry_ok h
    exact hresult ▸ { hp with beginCaptures := hd.captures cs hcs }
  case h_10 =>
    obtain ⟨cs, hcs, hresult⟩ := entry_ok h
    exact hresult ▸ { hp with endCaptures := hd.captures cs hcs }
  case h_11 =>
    obtain ⟨cs, hcs, hresult⟩ := entry_ok h
    exact hresult ▸ { hp with whileCaptures := hd.captures cs hcs }
  case h_12 =>
    obtain ⟨f, hf, hresult⟩ := entry_ok h
    exact hresult ▸ { hp with applyEndPatternLast := optional_flag_fits hn ht hf }
  case h_14 =>
    obtain ⟨f, hf, hresult⟩ := entry_ok h
    exact hresult ▸ { hp with disabled := optional_flag_fits hn ht hf }
  case h_15 =>
    obtain ⟨rs, hrs, hresult⟩ := entry_ok h
    exact hresult ▸ { hp with patterns := hd.rules rs hrs }
  case h_16 =>
    obtain ⟨es, hes, hresult⟩ := entry_ok h
    exact hresult ▸ { hp with repository := hd.repository es hes }
  all_goals
    obtain ⟨v, -, hresult⟩ := entry_ok h
    exact hresult ▸ { hp with }

theorem fields_sound (hn : n.Bounded Fits) {es : List (Option α × Document α)} (hes : EntriesAll Fits es)
    (hd : ∀ e ∈ es, DecodesSound n e.2) {p p' : Partial RuleSource} (h : n.fields p es = .ok p')
    (hp : p.result.SoundKeys) : p'.result.SoundKeys := by
  induction es generalizing p with
  | nil =>
    rw [fields] at h
    obtain rfl := Except.ok.inj h
    exact hp
  | cons e es ih =>
    rw [fields] at h
    obtain ⟨q, hq, h⟩ := exists_of_bind_ok h
    obtain ⟨he, hes⟩ := List.forall_mem_cons.mp hes
    obtain ⟨hde, hd⟩ := List.forall_mem_cons.mp hd
    exact ih hes hd h (field_sound hn he.2 hde hq hp)

theorem ruleItems_sound {ts : List (Document α)} (hd : ∀ t ∈ ts, DecodesSound n t) {rs : List RuleSource}
    (h : n.ruleItems ts = .ok rs) : ∀ r ∈ rs, r.Sound := by
  induction ts generalizing rs with
  | nil =>
    rw [ruleItems] at h
    obtain rfl := Except.ok.inj h
    exact nofun
  | cons t ts ih =>
    rw [ruleItems] at h
    obtain ⟨r, hr, h⟩ := exists_of_bind_ok h
    obtain ⟨rest, hrest, h⟩ := exists_of_bind_ok h
    obtain rfl := Except.ok.inj h
    obtain ⟨ht, hd⟩ := List.forall_mem_cons.mp hd
    exact List.forall_mem_cons.mpr ⟨ht.rule r hr, ih hd hrest⟩

theorem captureEntries_sound (hn : n.Bounded Fits) {es : List (Option α × Document α)}
    (hes : EntriesAll Fits es) (hd : ∀ e ∈ es, DecodesSound n e.2) {done cs : List (Nat × RuleSource)}
    (h : n.captureEntries done es = .ok cs) (hdone : SoundCaptures done) : SoundCaptures cs := by
  induction es generalizing done with
  | nil =>
    rw [captureEntries] at h
    obtain rfl := Except.ok.inj h
    exact hdone
  | cons e es ih =>
    obtain ⟨k, t⟩ := e
    rw [captureEntries] at h
    obtain ⟨c, hc, h⟩ := exists_of_bind_ok h
    obtain ⟨⟨hk, -⟩, hes⟩ := List.forall_mem_cons.mp hes
    obtain ⟨ht, hd⟩ := List.forall_mem_cons.mp hd
    rw [captureEntry] at hc
    obtain ⟨i, hi, hc⟩ := exists_of_bind_ok hc
    obtain ⟨r, hr, hc⟩ := exists_of_bind_ok hc
    obtain rfl := Except.ok.inj hc
    have hindex : i ≤ maxWord := by
      cases k with
      | none => cases hi
      | some s => exact hn.index s i (hk s rfl) hi
    exact ih hes hd h (hdone.insert hindex (ht.rule r hr))

theorem repositoryEntries_sound {ts : List (Option α × Document α)} (hd : ∀ e ∈ ts, DecodesSound n e.2)
    {done es : List (String × RuleSource)} (h : n.repositoryEntries done ts = .ok es)
    (hdone : SoundRepository done) : SoundRepository es := by
  induction ts generalizing done with
  | nil =>
    rw [repositoryEntries] at h
    obtain rfl := Except.ok.inj h
    exact hdone
  | cons t ts ih =>
    obtain ⟨k, t⟩ := t
    rw [repositoryEntries] at h
    obtain ⟨e, he, h⟩ := exists_of_bind_ok h
    obtain ⟨ht, hd⟩ := List.forall_mem_cons.mp hd
    rw [repositoryEntry] at he
    obtain ⟨name, -, he⟩ := exists_of_bind_ok he
    obtain ⟨r, hr, he⟩ := exists_of_bind_ok he
    obtain rfl := Except.ok.inj he
    exact ih hd h (hdone.insert (ht.rule r hr))

/-- **Whatever is decoded from a document is sound.** -/
theorem decodes_sound (hn : n.Bounded Fits) {t : Document α} (ht : t.All Fits) : DecodesSound n t := by
  induction ht with
  | @scalar s _ =>
    refine ⟨fun r h => ?_, fun rs h => ?_, fun cs h => ?_, fun es h => ?_⟩
    · rw [rule] at h
      split at h
      · obtain rfl := Except.ok.inj h
        exact RuleSource.sound_iff.mpr RuleSource.soundKeys_empty
      · cases h
    · rw [rules] at h
      split at h
      · obtain rfl := Except.ok.inj h
        exact nofun
      · cases h
    · rw [captures] at h
      split at h
      · obtain rfl := Except.ok.inj h
        exact .nil
      · cases h
    · rw [repository] at h
      split at h
      · obtain rfl := Except.ok.inj h
        exact .nil
      · cases h
  | @list items closed _ ih =>
    refine ⟨nofun, fun rs h => ?_, nofun, nofun⟩
    rw [rules] at h
    obtain ⟨qs, hqs, h⟩ := exists_of_bind_ok h
    exact closing_ok h ▸ ruleItems_sound ih hqs
  | @map entries closed keys values ih =>
    have hentries : EntriesAll Fits entries := fun e he => ⟨keys e he, values e he⟩
    refine ⟨fun r h => ?_, nofun, fun cs h => ?_, fun es h => ?_⟩
    · rw [rule] at h
      obtain ⟨p, hp, h⟩ := exists_of_bind_ok h
      exact finish_ok h ▸ RuleSource.sound_iff.mpr
        (fields_sound hn hentries ih hp RuleSource.soundKeys_empty)
    · rw [captures] at h
      obtain ⟨ds, hds, h⟩ := exists_of_bind_ok h
      exact closing_ok h ▸ captureEntries_sound hn hentries ih hds .nil
    · rw [repository] at h
      obtain ⟨fs, hfs, h⟩ := exists_of_bind_ok h
      exact closing_ok h ▸ repositoryEntries_sound ih hfs .nil
  | typed _ ih =>
    refine ⟨fun r h => ih.rule r ?_, fun rs h => ih.rules rs ?_, fun cs h => ih.captures cs ?_,
      fun es h => ih.repository es ?_⟩
    · rwa [rule] at h
    · rwa [rules] at h
    · rwa [captures] at h
    · rwa [repository] at h
  | broken => exact ⟨nofun, nofun, nofun, nofun⟩

/-! ### Grammars -/

theorem grammarField_sound (hn : n.Bounded Fits) {k : Option α} {t : Document α} (ht : t.All Fits)
    {p p' : Partial GrammarSource} (h : n.grammarField p k t = .ok p') (hp : p.result.Sound) :
    p'.result.Sound := by
  have hd := decodes_sound hn ht
  rw [grammarField] at h
  obtain ⟨key, -, h⟩ := exists_of_bind_ok h
  simp only at h
  split at h
  case h_12 =>
    rcases other_ok h with hresult | ⟨v, hv, hresult⟩
    · exact hresult ▸ hp
    · have hkey : key ∉ GrammarSource.keys := by
        simp only [GrammarSource.keys, List.mem_cons, List.not_mem_nil, or_false, not_or]
        refine ⟨?_, ?_, ?_, ?_, ?_, ?_, ?_, ?_, ?_, ?_, ?_⟩ <;> assumption
      exact hresult ▸ { hp with extra := hp.extra.insert hkey (hn.value t v ht hv) }
  case h_10 =>
    obtain ⟨rs, hrs, hresult⟩ := entry_ok h
    exact hresult ▸ { hp with patterns := hd.rules rs hrs }
  case h_11 =>
    obtain ⟨es, hes, hresult⟩ := entry_ok h
    exact hresult ▸ { hp with repository := hd.repository es hes }
  all_goals
    obtain ⟨v, -, hresult⟩ := entry_ok h
    exact hresult ▸ { hp with }

theorem grammarFields_sound (hn : n.Bounded Fits) {es : List (Option α × Document α)}
    (hes : EntriesAll Fits es) {p p' : Partial GrammarSource} (h : n.grammarFields p es = .ok p')
    (hp : p.result.Sound) : p'.result.Sound := by
  induction es generalizing p with
  | nil =>
    obtain rfl := Except.ok.inj h
    exact hp
  | cons e es ih =>
    rw [grammarFields] at h
    obtain ⟨q, hq, h⟩ := exists_of_bind_ok h
    obtain ⟨he, hes⟩ := List.forall_mem_cons.mp hes
    exact ih hes h (grammarField_sound hn he.2 hq hp)

theorem grammar_sound (hn : n.Bounded Fits) {t : Document α} (ht : t.All Fits) {g : GrammarSource}
    (h : n.grammar t = .ok g) : g.Sound := by
  have hempty : GrammarSource.Sound {} := ⟨nofun, .nil, .nil⟩
  induction ht with
  | scalar _ =>
    rw [grammar] at h
    split at h
    · obtain rfl := Except.ok.inj h
      exact hempty
    · cases h
  | list _ _ => cases h
  | map keys values _ =>
    rw [grammar] at h
    obtain ⟨p, hp, h⟩ := exists_of_bind_ok h
    exact finish_ok h ▸ grammarFields_sound hn (fun e he => ⟨keys e he, values e he⟩) hp hempty
  | typed _ ih =>
    rw [grammar] at h
    exact ih h
  | broken => cases h

end Notation

/-! ### Formats -/

theorem indexOfText_le {s : String} {i : Nat} (h : indexOfText s = .ok i) : i ≤ maxWord := by
  rw [indexOfText] at h
  split at h
  · obtain rfl := Except.ok.inj h
    exact Decimal.wordOf?_le ‹_›
  · cases h

/-- A whole number of 64 bits that is not negative is a word. -/
theorem toNat_le_maxWord {n : Int} (h : Decimal.fitsWord n) : n.toNat ≤ maxWord := by
  simp only [Decimal.fitsWord, Bool.and_eq_true, decide_eq_true_eq] at h
  exact Int.toNat_le.mpr h.2

theorem jsonNotation_bounded : jsonNotation.Bounded Json.Atom.Fits where
  index s i _ h := by
    simp only [jsonNotation] at h
    split at h
    · exact indexOfText_le h
    · cases h
  flag s f _ h := by
    simp only [jsonNotation] at h
    split at h
    · obtain rfl := Except.ok.inj h
      trivial
    · split at h
      · obtain rfl := Except.ok.inj h
        assumption
      · cases h
    · cases h
  value t v ht h := by
    simp only [jsonNotation] at h
    split at h
    · rename_i w hw
      obtain rfl := Option.some.inj (Except.ok.inj h)
      exact Json.valueOf?_sound ht w hw
    · cases h

theorem plistNotation_bounded : plistNotation.Bounded Plist.Scalar.Fits where
  index s i hs h := by
    simp only [plistNotation] at h
    rw [plistIndex.eq_def] at h
    split at h
    · exact indexOfText_le h
    · exact indexOfText_le h
    · split at h
      · obtain rfl := Except.ok.inj h
        exact toNat_le_maxWord hs
      · cases h
    · cases h
  flag s f _ h := by
    simp only [plistNotation] at h
    split at h
    · obtain rfl := Except.ok.inj h
      trivial
    · split at h
      · obtain rfl := Except.ok.inj h
        assumption
      · cases h
    · cases h
  value t v ht h := plistValue_sound ht v h

theorem yamlNotation_bounded : yamlNotation.Bounded fun _ => True where
  index s i _ h := by
    simp only [yamlNotation] at h
    rw [yamlIndex] at h
    split at h
    · cases h
    · split at h
      · rename_i n hn
        split at h
        · obtain rfl := Except.ok.inj h
          exact toNat_le_maxWord (kind?_fits hn)
        · cases h
      · exact indexOfText_le h
      · cases h
      · cases h
  flag s f _ h := by
    simp only [yamlNotation] at h
    rw [yamlFlag] at h
    split at h
    · cases h
    · split at h
      · obtain rfl := Except.ok.inj h
        trivial
      · split at h
        · obtain rfl := Except.ok.inj h
          assumption
        · cases h
      · cases h
  value t v _ h := yamlValue_sound t v h

/-- **Every grammar that is read is sound, in whichever format.** -/
theorem Format.read_sound {format : Format} {text : List Char} {g : GrammarSource}
    (h : format.read text = .ok g) : g.Sound := by
  cases format with
  | yaml =>
    obtain ⟨f, hf, h⟩ := exists_of_bind_ok h
    have hall := (Yaml.readDocument text).1.all_of_forall (P := fun _ => True) fun _ => trivial
    exact Notation.closing_ok h ▸ Notation.grammar_sound yamlNotation_bounded hall hf
  | json =>
    obtain ⟨f, hf, h⟩ := exists_of_bind_ok h
    exact Notation.closing_ok h ▸
      Notation.grammar_sound jsonNotation_bounded (Json.Draft.read_fits text) hf
  | plist => exact Notation.grammar_sound plistNotation_bounded (Plist.readDocument_fits text) h

/-- In every grammar that is read captures are sorted. -/
theorem Format.read_ordered {format : Format} {text : List Char} {g : GrammarSource}
    (h : format.read text = .ok g) : g.Ordered := (read_sound h).ordered

end Source
end ScopeLexer
