/-
# Documents of sources

A grammar is written as a document that a notation decodes to the same grammar. A notation that wraps
optional values gets them wrapped; a key whose value is absent or empty is left out, and so becomes absent or
empty again. The keys without a meaning stand last, and none of them is taken for one with a meaning.

Key definitions: `Notation.Writer`, `Writer.rule`, `Writer.grammar`, `Slot`.
Key theorems: `slots_read`, `Writer.rule_read`, `Writer.grammar_read`, `Writer.grammar_printable`.
-/
import ScopeLexer.Proofs.DecimalDigits
import ScopeLexer.Proofs.SoundSources

namespace ScopeLexer
namespace Source

open Decimal (maxWord)
open Json (Value)

/-- How the values of a grammar are written in a notation, which reads them back. -/
structure Notation.Writer {α : Type} (n : Notation α) where
  text : String → α
  truth : Bool → α
  number : Int → α
  value : Value → Document α
  /-- Values that are read back, if all values in them are such. -/
  Readable : Value → Prop
  /-- Scalars whose text is read back. -/
  Printable : α → Prop
  text_read : ∀ s, n.text (text s) = .ok s
  key_read : ∀ s, n.key (text s) = .ok s
  index_read : ∀ s, n.index (text s) = indexOfText s
  truth_read : ∀ b, n.truth (truth b) = .ok b
  bool_read : ∀ b, n.flag (truth b) = .ok (.bool b)
  number_read : ∀ k, Decimal.fitsSigned k → n.flag (number k) = .ok (.number k)
  value_read : ∀ v, v.Sound → v.Throughout Readable → n.value (value v) = .ok (some v)
  text_there : ∀ s, n.wraps = false → n.isNull (text s) = .ok false
  truth_there : ∀ b, n.wraps = false → n.isNull (truth b) = .ok false
  number_there : ∀ k, n.wraps = false → n.isNull (number k) = .ok false
  text_printable : ∀ s, Printable (text s)
  truth_printable : ∀ b, Printable (truth b)
  number_printable : ∀ k, Decimal.fitsSigned k → Printable (number k)
  value_printable : ∀ v, v.Sound → v.Throughout Readable → (value v).All Printable

namespace Notation.Writer

variable {α : Type} {n : Notation α} (w : n.Writer)

/-! ### Documents -/

/-- A text as a document. -/
def textOf (s : String) : Document α := .scalar (w.text s)

/-- A switch as a document. -/
def flagOf : Flag → Document α
  | .bool b => .scalar (w.truth b)
  | .number k => .scalar (w.number k)

/-- A truth value as a document. -/
def truthOf (b : Bool) : Document α := .scalar (w.truth b)

/-- A list of texts as a document. -/
def texts (ss : List String) : Document α := .list (ss.map w.textOf) true

/-- An entry of a map. -/
def entry (key : String) (t : Document α) : Option α × Document α := (some (w.text key), t)

/-- An optional value that is there. -/
def optional (t : Document α) : Document α := if n.wraps then .map [w.entry "Some" t] true else t

/-- An entry for an optional value that is there. -/
def someEntry (key : String) : Option (Document α) → List (Option α × Document α)
  | some t => [w.entry key (w.optional t)]
  | none => []

/-- An entry for a list that is not empty. -/
def listEntry (key : String) : List (Document α) → List (Option α × Document α)
  | [] => []
  | ts => [w.entry key (.list ts true)]

/-- An entry for a map that is not empty. -/
def mapEntry (key : String) : List (Option α × Document α) → List (Option α × Document α)
  | [] => []
  | es => [w.entry key (.map es true)]

/-- Entries for the keys without a meaning. -/
def extra (es : List (String × Value)) : List (Option α × Document α) :=
  es.map fun e => w.entry e.1 (w.value e.2)

mutual

/-- A rule as a document. -/
def rule : RuleSource → Document α
  | { reference := rf, name := nm, contentName := cn, matchPattern := mp, beginPattern := bp,
      endPattern := ep, whilePattern := wp, captures := cs, beginCaptures := bcs,
      endCaptures := ecs, whileCaptures := wcs, applyEndPatternLast := al, appliesLineBreak := lb,
      disabled := ds, patterns := ps, repository := rp, extra := ex } =>
    .map (w.someEntry "include" (rf.map w.textOf) ++ w.someEntry "name" (nm.map w.textOf) ++
      w.someEntry "contentName" (cn.map w.textOf) ++ w.someEntry "match" (mp.map w.textOf) ++
      w.someEntry "begin" (bp.map w.textOf) ++ w.someEntry "end" (ep.map w.textOf) ++
      w.someEntry "while" (wp.map w.textOf) ++ w.mapEntry "captures" (captures cs) ++
      w.mapEntry "beginCaptures" (captures bcs) ++ w.mapEntry "endCaptures" (captures ecs) ++
      w.mapEntry "whileCaptures" (captures wcs) ++
      w.someEntry "applyEndPatternLast" (al.map w.flagOf) ++
      w.someEntry "appliesLineBreak" (lb.map w.truthOf) ++
      w.someEntry "disabled" (ds.map w.flagOf) ++ w.listEntry "patterns" (rules ps) ++
      w.mapEntry "repository" (repository rp) ++ w.extra ex) true
  termination_by structural r => r

/-- Rules as documents. -/
def rules : List RuleSource → List (Document α)
  | [] => []
  | r :: rs => rule r :: rules rs
  termination_by structural rs => rs

/-- Captures as entries of a map. -/
def captures : List (Nat × RuleSource) → List (Option α × Document α)
  | [] => []
  | c :: cs => capture c :: captures cs
  termination_by structural cs => cs

/-- A capture as an entry of a map. -/
def capture : Nat × RuleSource → Option α × Document α
  | (i, r) => w.entry (toString i) (rule r)
  termination_by structural c => c

/-- A repository as entries of a map. -/
def repository : List (String × RuleSource) → List (Option α × Document α)
  | [] => []
  | e :: es => named e :: repository es
  termination_by structural es => es

/-- An entry of a repository as an entry of a map. -/
def named : String × RuleSource → Option α × Document α
  | (name, r) => w.entry name (rule r)
  termination_by structural e => e

end

/-- A capture as an entry of a map. -/
def captureOf (c : Nat × RuleSource) : Option α × Document α := w.entry (toString c.1) (w.rule c.2)

/-- A named rule as an entry of a map. -/
def namedOf (e : String × RuleSource) : Option α × Document α := w.entry e.1 (w.rule e.2)

/-- A grammar as a document. -/
def grammar (g : GrammarSource) : Document α :=
  .map (w.someEntry "information_for_contributors" (g.contributorNotes.map w.texts) ++
    w.someEntry "version" (g.version.map w.textOf) ++ w.someEntry "name" (g.name.map w.textOf) ++
    [w.entry "scopeName" (w.textOf g.scopeName)] ++
    w.listEntry "fileTypes" (g.fileTypes.map w.textOf) ++ w.someEntry "uuid" (g.uuid.map w.textOf) ++
    w.someEntry "firstLineMatch" (g.firstLineMatch.map w.textOf) ++
    w.someEntry "foldingStartMarker" (g.foldingStartMarker.map w.textOf) ++
    w.someEntry "foldingStopMarker" (g.foldingStopMarker.map w.textOf) ++
    [w.entry "patterns" (.list (w.rules g.patterns) true)] ++
    w.mapEntry "repository" (w.repository g.repository) ++ w.extra g.extra) true

theorem rules_eq_map (rs : List RuleSource) : w.rules rs = rs.map w.rule := by
  induction rs with
  | nil => rfl
  | cons r rs ih => rw [rules, ih, List.map_cons]

theorem captures_eq_map (cs : List (Nat × RuleSource)) :
    w.captures cs = cs.map w.captureOf := by
  induction cs with
  | nil => rfl
  | cons c cs ih => rw [captures, ih, List.map_cons, capture, captureOf]

theorem repository_eq_map (es : List (String × RuleSource)) :
    w.repository es = es.map w.namedOf := by
  induction es with
  | nil => rfl
  | cons e es ih => rw [repository, ih, List.map_cons, named, namedOf]

/-! ### Other ways to the same documents

A grammar is written as values of some kind first, of which each has a document. -/

section Encoded

variable {V : Type} {encode : RuleSource → V} {doc : V → Document α}
  {entryDoc : String × V → Option α × Document α}

theorem rules_encoded {rs : List RuleSource} (h : ∀ r ∈ rs, doc (encode r) = w.rule r) :
    (rs.map encode).map doc = w.rules rs := by
  rw [w.rules_eq_map, List.map_map]
  exact List.map_congr_left h

variable (hentry : ∀ key v, entryDoc (key, v) = w.entry key (doc v))

include hentry

theorem captures_encoded {cs : List (Nat × RuleSource)} (h : ∀ c ∈ cs, doc (encode c.2) = w.rule c.2) :
    (cs.map fun c => (toString c.1, encode c.2)).map entryDoc = w.captures cs := by
  rw [w.captures_eq_map, List.map_map]
  refine List.map_congr_left fun c hc => ?_
  show entryDoc (toString c.1, encode c.2) = _
  rw [hentry, h c hc, captureOf]

theorem repository_encoded {es : List (String × RuleSource)} (h : ∀ e ∈ es, doc (encode e.2) = w.rule e.2) :
    (es.map fun e => (e.1, encode e.2)).map entryDoc = w.repository es := by
  rw [w.repository_eq_map, List.map_map]
  refine List.map_congr_left fun e he => ?_
  show entryDoc (e.1, encode e.2) = _
  rw [hentry, h e he, namedOf]

end Encoded

/-! ### Values that are read back -/

theorem textOf_read (s : String) : scalarOf n.text (w.textOf s) = .ok s := w.text_read s

theorem flagOf_read {f : Flag} (h : f.Fits) : n.flagOf (w.flagOf f) = .ok f := by
  cases f with
  | bool b => exact w.bool_read b
  | number k => exact w.number_read k h

/-- A document that does not stand for an absent value. -/
def There (n : Notation α) (t : Document α) : Prop :=
  ∀ s, t = .scalar s → n.wraps = false → n.isNull s = .ok false

theorem textOf_there (s : String) : There n (w.textOf s) := by
  rintro _ ⟨⟩ h
  exact w.text_there s h

theorem truthOf_there (b : Bool) : There n (w.truthOf b) := by
  rintro _ ⟨⟩ h
  exact w.truth_there b h

theorem flagOf_there (f : Flag) : There n (w.flagOf f) := by
  cases f with
  | bool b => exact w.truthOf_there b
  | number k =>
    rintro _ ⟨⟩ h
    exact w.number_there k h

/-- An optional value that is there is read as such. -/
theorem optional_read {β : Type} {f : Document α → Except Fault β} {t : Document α} {b : β}
    (hthere : There n t) (h : f t = .ok b) : n.optional f (w.optional t) = .ok (some b) := by
  rw [optional, Notation.optional.eq_def]
  by_cases hwraps : n.wraps = true
  · rw [if_pos hwraps, if_pos hwraps, entry]
    simp only [w.key_read, h]
    rfl
  · rw [if_neg hwraps, if_neg hwraps]
    cases t with
    | scalar s =>
      simp only [hthere s rfl (by simpa using hwraps), h]
      rfl
    | list _ _ | map _ _ | typed _ | broken =>
      simp only [h]
      rfl

theorem texts_read (ss : List String) : n.texts (w.texts ss) = .ok ss := by
  have hitems : n.textItems (ss.map w.textOf) = .ok ss := by
    induction ss with
    | nil => rfl
    | cons s ss ih =>
      rw [List.map_cons, textItems, ih, w.textOf_read]
      rfl
  rw [texts, Notation.texts, hitems]
  rfl

/-! ### Entries that are decoded -/

/-- What is written under a key, and what reading it does to the thing that is being decoded. -/
structure Slot (α ρ : Type) where
  key : String
  entries : List (Option α × Document α)
  set : ρ → ρ

section Slots

variable {ρ : Type} (step : Partial ρ → Option α × Document α → Except Fault (Partial ρ))

/-- The entries of a slot are read as they should, if the key has not stood before. -/
def Slot.Reads (s : Slot α ρ) : Prop :=
  ∀ r seen, s.key ∉ seen → ∃ seen', s.entries.foldlM step ⟨r, seen, false⟩ = .ok ⟨s.set r, seen', false⟩ ∧
    ∀ k ∈ seen', k = s.key ∨ k ∈ seen

/-- **Slots of different keys are read one after the other.** -/
theorem slots_read (r : ρ) (seen : List String) {slots : List (Slot α ρ)}
    (hread : ∀ s ∈ slots, s.Reads step) (hkeys : (slots.map Slot.key).Nodup)
    (hseen : ∀ s ∈ slots, s.key ∉ seen) :
    ∃ seen', (slots.flatMap Slot.entries).foldlM step ⟨r, seen, false⟩ =
      .ok ⟨slots.foldl (fun r s => s.set r) r, seen', false⟩ := by
  induction slots generalizing r seen with
  | nil => exact ⟨seen, rfl⟩
  | cons s slots ih =>
    obtain ⟨hs, hslots⟩ := List.forall_mem_cons.mp hread
    obtain ⟨hnew, hkeys⟩ := List.nodup_cons.mp hkeys
    obtain ⟨hfirst, hothers⟩ := List.forall_mem_cons.mp hseen
    obtain ⟨seen₁, hrun, hmem⟩ := hs r seen hfirst
    have hothers₁ : ∀ t ∈ slots, t.key ∉ seen₁ := fun t ht hk =>
      (hmem t.key hk).elim (fun heq => hnew (heq ▸ List.mem_map_of_mem ht)) (hothers t ht)
    obtain ⟨seen₂, hrest⟩ := ih (s.set r) seen₁ hslots hkeys hothers₁
    refine ⟨seen₂, ?_⟩
    rw [List.flatMap_cons, List.foldlM_append, hrun]
    exact hrest

variable {step} {key : String}

theorem Slot.Reads.nil : (Slot.mk key [] fun r => r : Slot α ρ).Reads step :=
  fun _ seen _ => ⟨seen, rfl, fun _ => .inr⟩

theorem Slot.Reads.one {e : Option α × Document α} {set : ρ → ρ}
    (h : ∀ r seen, key ∉ seen → step ⟨r, seen, false⟩ e = .ok ⟨set r, key :: seen, false⟩) :
    (Slot.mk key [e] set).Reads step := by
  intro r seen hseen
  refine ⟨key :: seen, ?_, fun _ => List.mem_cons.mp⟩
  rw [List.foldlM_cons, h r seen hseen]
  rfl

/-- A slot for an optional value. -/
def someSlot {β : Type} (key : String) (doc : β → Document α) (o : Option β) (set : Option β → ρ → ρ) :
    Slot α ρ := ⟨key, w.someEntry key (o.map doc), set o⟩

/-- A slot for a list. -/
def listSlot {β : Type} (key : String) (doc : β → Document α) (l : List β) (set : List β → ρ → ρ) :
    Slot α ρ := ⟨key, w.listEntry key (l.map doc), set l⟩

/-- A slot for a map. -/
def mapSlot {β : Type} (key : String) (doc : β → Option α × Document α) (l : List β)
    (set : List β → ρ → ρ) : Slot α ρ := ⟨key, w.mapEntry key (l.map doc), set l⟩

/-- An optional value that is there is set, and one that is absent is left as it is. -/
theorem someSlot_reads {β : Type} {doc : β → Document α} {o : Option β} {set : Option β → ρ → ρ}
    (hnone : ∀ r, set none r = r)
    (h : ∀ b ∈ o, ∀ r seen, key ∉ seen →
      step ⟨r, seen, false⟩ (w.entry key (w.optional (doc b))) = .ok ⟨set (some b) r, key :: seen, false⟩) :
    (w.someSlot key doc o set).Reads step := by
  cases o with
  | none =>
    rw [someSlot, funext hnone]
    exact .nil
  | some b => exact .one (h b rfl)

/-- A list that is not empty is set, and an empty one is left as it is. -/
theorem listSlot_reads {β : Type} {doc : β → Document α} {l : List β} {set : List β → ρ → ρ}
    (hnil : ∀ r, set [] r = r)
    (h : l ≠ [] → ∀ r seen, key ∉ seen →
      step ⟨r, seen, false⟩ (w.entry key (.list (l.map doc) true)) = .ok ⟨set l r, key :: seen, false⟩) :
    (w.listSlot key doc l set).Reads step := by
  cases l with
  | nil =>
    rw [listSlot, funext hnil]
    exact .nil
  | cons b l => exact .one (h (List.cons_ne_nil b l))

/-- A map that is not empty is set, and an empty one is left as it is. -/
theorem mapSlot_reads {β : Type} {doc : β → Option α × Document α} {l : List β} {set : List β → ρ → ρ}
    (hnil : ∀ r, set [] r = r)
    (h : l ≠ [] → ∀ r seen, key ∉ seen →
      step ⟨r, seen, false⟩ (w.entry key (.map (l.map doc) true)) = .ok ⟨set l r, key :: seen, false⟩) :
    (w.mapSlot key doc l set).Reads step := by
  cases l with
  | nil =>
    rw [mapSlot, funext hnil]
    exact .nil
  | cons b l => exact .one (h (List.cons_ne_nil b l))

end Slots

/-- A key that stands for the first time is decoded by what is expected there. -/
theorem once_read {ρ β : Type} {key : String} {seen : List String} {x : Except Fault β} {b : β} {f : β → ρ}
    (hseen : key ∉ seen) (hx : x = .ok b) :
    (do
      let seen ← once seen key
      let v ← x
      return (⟨f v, seen, false⟩ : Partial ρ)) = Except.ok ⟨f b, key :: seen, false⟩ := by
  rw [once, if_neg (by simpa using hseen), hx]
  rfl

/-- Keys without a meaning are read one after the other, and come out sorted as they are. -/
theorem extra_read {ρ : Type} {step : Partial ρ → Option α × Document α → Except Fault (Partial ρ)}
    (set : List (String × Value) → ρ) (seen : List String) {es : List (String × Value)}
    (hsorted : Sorted.Ascending es)
    (h : ∀ e ∈ es, ∀ done, step ⟨set done, seen, false⟩ (w.entry e.1 (w.value e.2)) =
      .ok ⟨set (Sorted.insert e.1 e.2 done), seen, false⟩) :
    (w.extra es).foldlM step ⟨set [], seen, false⟩ = .ok ⟨set es, seen, false⟩ := by
  have general : ∀ es' done, (∀ e ∈ es', e ∈ es) → (w.extra es').foldlM step ⟨set done, seen, false⟩ =
      .ok ⟨set (es'.foldl (fun done e => Sorted.insert e.1 e.2 done) done), seen, false⟩ := by
    intro es'
    induction es' with
    | nil => exact fun _ _ => rfl
    | cons e es' ih =>
      intro done hmem
      obtain ⟨he, hes⟩ := List.forall_mem_cons.mp hmem
      rw [extra, List.map_cons, List.foldlM_cons, h e he done]
      exact ih _ hes
  rw [general es [] fun _ => id, Sorted.foldl_insert es [] hsorted, List.nil_append]

/-! ### Rules -/

/-- A rule in order, whose keys without a meaning have values that are read back. -/
def Writable (r : RuleSource) : Prop :=
  r.Throughout fun q => q.Tidy ∧ ∀ e ∈ q.extra, e.2.Throughout w.Readable

/-- A rule that is read back. -/
def Reads (r : RuleSource) : Prop := n.rule (w.rule r) = .ok r

theorem fields_eq_foldlM (es : List (Option α × Document α)) (p : Partial RuleSource) :
    n.fields p es = es.foldlM n.field p := by
  induction es generalizing p with
  | nil => rfl
  | cons e es ih =>
    rw [fields, List.foldlM_cons]
    exact bind_congr ih

theorem rules_read {rs : List RuleSource} (h : ∀ r ∈ rs, w.Reads r) :
    n.rules (.list (rs.map w.rule) true) = .ok rs := by
  have hitems : n.ruleItems (rs.map w.rule) = .ok rs := by
    induction rs with
    | nil => rfl
    | cons r rs ih =>
      obtain ⟨hr, hrs⟩ := List.forall_mem_cons.mp h
      rw [List.map_cons, ruleItems, hr, ih hrs]
      rfl
  rw [Notation.rules, hitems]
  rfl

theorem captures_read {cs : List (Nat × RuleSource)} (htidy : TidyCaptures cs)
    (h : ∀ c ∈ cs, w.Reads c.2) :
    n.captures (.map (cs.map w.captureOf) true) = .ok cs := by
  have hentries : ∀ (cs done : List (Nat × RuleSource)), (∀ c ∈ cs, c.1 ≤ maxWord ∧ w.Reads c.2) →
      n.captureEntries done (cs.map w.captureOf) =
        .ok (cs.foldl (fun done c => Sorted.insert c.1 c.2 done) done) := by
    intro cs
    induction cs with
    | nil => exact fun _ _ => rfl
    | cons c cs ih =>
      intro done h
      obtain ⟨⟨hi, hr⟩, hcs⟩ := List.forall_mem_cons.mp h
      have hentry : n.captureEntry (w.captureOf c) = .ok c := by
        rw [captureOf, entry, captureEntry, indexOf, w.index_read, indexOfText_toString hi, hr]
        rfl
      rw [List.map_cons, captureEntries, hentry]
      exact ih _ hcs
  rw [Notation.captures, hentries cs [] fun c hc => ⟨htidy.indices c hc, h c hc⟩,
    Sorted.foldl_insert cs [] htidy.ascending]
  rfl

theorem repository_read {es : List (String × RuleSource)} (hsorted : Sorted.Ascending es)
    (h : ∀ e ∈ es, w.Reads e.2) :
    n.repository (.map (es.map w.namedOf) true) = .ok es := by
  have hentries : ∀ (es done : List (String × RuleSource)), (∀ e ∈ es, w.Reads e.2) →
      n.repositoryEntries done (es.map w.namedOf) =
        .ok (es.foldl (fun done e => Sorted.insert e.1 e.2 done) done) := by
    intro es
    induction es with
    | nil => exact fun _ _ => rfl
    | cons e es ih =>
      intro done h
      obtain ⟨hr, hes⟩ := List.forall_mem_cons.mp h
      have hentry : n.repositoryEntry (w.namedOf e) = .ok e := by
        rw [namedOf, entry, repositoryEntry, keyText, w.key_read, hr]
        rfl
      rw [List.map_cons, repositoryEntries, hentry]
      exact ih _ hes
  rw [Notation.repository, hentries es [] h, Sorted.foldl_insert es [] hsorted]
  rfl

/-- A key without a meaning is put in its place among the others. -/
theorem field_extra {e : String × Value} (hkey : e.1 ∉ RuleSource.keys)
    (hvalue : n.value (w.value e.2) = .ok (some e.2)) (r : RuleSource) (seen : List String) :
    n.field ⟨r, seen, false⟩ (w.entry e.1 (w.value e.2)) =
      .ok ⟨{ r with extra := Sorted.insert e.1 e.2 r.extra }, seen, false⟩ := by
  simp only [RuleSource.keys, List.mem_cons, List.not_mem_nil, or_false, not_or] at hkey
  rw [entry, field, keyText, w.key_read]
  dsimp only [bind, Except.bind]
  split
  case h_17 =>
    rw [hvalue]
    rfl
  all_goals simp_all only [not_true_eq_false, false_and, and_false]

/-- A list that is not empty, or else what there was. -/
def orElse {β : Type} (l old : List β) : List β := if l.isEmpty then old else l

theorem orElse_nil {β : Type} (l : List β) : orElse l [] = l := by
  cases l <;> rfl

theorem orElse_of_ne_nil {β : Type} {l : List β} (h : l ≠ []) (old : List β) : orElse l old = l :=
  if_neg (by simpa using h)

/-- The keys of a rule that have a meaning, in the order in which they are written. -/
def ruleSlots (r : RuleSource) : List (Slot α RuleSource) :=
  [w.someSlot "include" w.textOf r.reference fun o q => { q with reference := o.or q.reference },
    w.someSlot "name" w.textOf r.name fun o q => { q with name := o.or q.name },
    w.someSlot "contentName" w.textOf r.contentName fun o q => { q with contentName := o.or q.contentName },
    w.someSlot "match" w.textOf r.matchPattern fun o q => { q with matchPattern := o.or q.matchPattern },
    w.someSlot "begin" w.textOf r.beginPattern fun o q => { q with beginPattern := o.or q.beginPattern },
    w.someSlot "end" w.textOf r.endPattern fun o q => { q with endPattern := o.or q.endPattern },
    w.someSlot "while" w.textOf r.whilePattern fun o q => { q with whilePattern := o.or q.whilePattern },
    w.mapSlot "captures" w.captureOf r.captures fun l q => { q with captures := orElse l q.captures },
    w.mapSlot "beginCaptures" w.captureOf r.beginCaptures
      fun l q => { q with beginCaptures := orElse l q.beginCaptures },
    w.mapSlot "endCaptures" w.captureOf r.endCaptures
      fun l q => { q with endCaptures := orElse l q.endCaptures },
    w.mapSlot "whileCaptures" w.captureOf r.whileCaptures
      fun l q => { q with whileCaptures := orElse l q.whileCaptures },
    w.someSlot "applyEndPatternLast" w.flagOf r.applyEndPatternLast
      fun o q => { q with applyEndPatternLast := o.or q.applyEndPatternLast },
    w.someSlot "appliesLineBreak" w.truthOf r.appliesLineBreak
      fun o q => { q with appliesLineBreak := o.or q.appliesLineBreak },
    w.someSlot "disabled" w.flagOf r.disabled fun o q => { q with disabled := o.or q.disabled },
    w.listSlot "patterns" w.rule r.patterns fun l q => { q with patterns := orElse l q.patterns },
    w.mapSlot "repository" w.namedOf r.repository fun l q => { q with repository := orElse l q.repository }]

theorem rule_eq (r : RuleSource) :
    w.rule r = .map ((w.ruleSlots r).flatMap Slot.entries ++ w.extra r.extra) true := by
  cases r
  simp only [rule, ruleSlots, someSlot, listSlot, mapSlot, rules_eq_map, captures_eq_map,
    repository_eq_map, List.flatMap_cons, List.flatMap_nil, List.append_nil, List.append_assoc]

/-- Together the slots of a rule set all of it but the keys without a meaning. -/
theorem foldl_ruleSlots (r : RuleSource) :
    (w.ruleSlots r).foldl (fun q s => s.set q) {} = { r with extra := [] } := by
  cases r
  simp only [ruleSlots, someSlot, listSlot, mapSlot, List.foldl_cons, List.foldl_nil, Option.or_none,
    orElse_nil]

theorem ruleSlots_reads {r : RuleSource} (tidy : r.Tidy) (inner : ∀ q ∈ r.inner, w.Reads q) :
    ∀ s ∈ w.ruleSlots r, s.Reads n.field := by
  obtain ⟨captured, patterns, named⟩ := RuleSource.forall_mem_inner.mp inner
  have captures : ∀ cs ∈ r.captureLists,
      n.captures (.map (cs.map w.captureOf) true) = .ok cs := fun cs hcs =>
    w.captures_read (tidy.captures cs hcs) (captured cs hcs)
  simp only [RuleSource.captureLists, List.forall_mem_cons] at captures
  obtain ⟨hcaptures, hbegin, hend, hwhile, -⟩ := captures
  have hpatterns := w.rules_read patterns
  have hrepository := w.repository_read tidy.repository named
  have text : ∀ s : String, n.optionalText (w.optional (w.textOf s)) = .ok (some s) := fun s =>
    w.optional_read (w.textOf_there s) (w.textOf_read s)
  have truth : ∀ b : Bool, n.optional (scalarOf n.truth) (w.optional (w.truthOf b)) = .ok (some b) := fun b =>
    w.optional_read (w.truthOf_there b) (w.truth_read b)
  have flag : ∀ f : Flag, f.Fits → n.optional n.flagOf (w.optional (w.flagOf f)) = .ok (some f) := fun f hf =>
    w.optional_read (w.flagOf_there f) (w.flagOf_read hf)
  simp only [ruleSlots, List.forall_mem_cons]
  refine ⟨?_, ?_, ?_, ?_, ?_, ?_, ?_, ?_, ?_, ?_, ?_, ?_, ?_, ?_, ?_, ?_, List.forall_mem_nil _⟩
  case refine_1 | refine_2 | refine_3 | refine_4 | refine_5 | refine_6 | refine_7 =>
    refine w.someSlot_reads ?_ fun s _ q seen hseen => ?_
    · rintro ⟨⟩
      rfl
    · rw [entry, field, keyText, w.key_read]
      exact once_read hseen (text s)
  case refine_8 =>
    refine w.mapSlot_reads ?_ fun hne q seen hseen => ?_
    · rintro ⟨⟩
      rfl
    · rw [orElse_of_ne_nil hne, entry, field, keyText, w.key_read]
      exact once_read hseen hcaptures
  case refine_9 =>
    refine w.mapSlot_reads ?_ fun hne q seen hseen => ?_
    · rintro ⟨⟩
      rfl
    · rw [orElse_of_ne_nil hne, entry, field, keyText, w.key_read]
      exact once_read hseen hbegin
  case refine_10 =>
    refine w.mapSlot_reads ?_ fun hne q seen hseen => ?_
    · rintro ⟨⟩
      rfl
    · rw [orElse_of_ne_nil hne, entry, field, keyText, w.key_read]
      exact once_read hseen hend
  case refine_11 =>
    refine w.mapSlot_reads ?_ fun hne q seen hseen => ?_
    · rintro ⟨⟩
      rfl
    · rw [orElse_of_ne_nil hne, entry, field, keyText, w.key_read]
      exact once_read hseen hwhile
  case refine_12 =>
    refine w.someSlot_reads ?_ fun f hf q seen hseen => ?_
    · rintro ⟨⟩
      rfl
    · rw [entry, field, keyText, w.key_read]
      exact once_read hseen (flag f (tidy.applyEndPatternLast f hf))
  case refine_13 =>
    refine w.someSlot_reads ?_ fun b _ q seen hseen => ?_
    · rintro ⟨⟩
      rfl
    · rw [entry, field, keyText, w.key_read]
      exact once_read hseen (truth b)
  case refine_14 =>
    refine w.someSlot_reads ?_ fun f hf q seen hseen => ?_
    · rintro ⟨⟩
      rfl
    · rw [entry, field, keyText, w.key_read]
      exact once_read hseen (flag f (tidy.disabled f hf))
  case refine_15 =>
    refine w.listSlot_reads ?_ fun hne q seen hseen => ?_
    · rintro ⟨⟩
      rfl
    · rw [orElse_of_ne_nil hne, entry, field, keyText, w.key_read]
      exact once_read hseen hpatterns
  case refine_16 =>
    refine w.mapSlot_reads ?_ fun hne q seen hseen => ?_
    · rintro ⟨⟩
      rfl
    · rw [orElse_of_ne_nil hne, entry, field, keyText, w.key_read]
      exact once_read hseen hrepository

/-- **A rule in order is read back from its document.** -/
theorem rule_read {r : RuleSource} (h : w.Writable r) : w.Reads r := by
  induction h with
  | @intro r here _ ih =>
    obtain ⟨tidy, readable⟩ := here
    have hkeys : ((w.ruleSlots r).map Slot.key).Nodup := by
      show RuleSource.keys.Nodup
      decide
    obtain ⟨seen, hknown⟩ := slots_read n.field {} [] (w.ruleSlots_reads tidy ih) hkeys
      fun _ _ => List.not_mem_nil
    let set (es : List (String × Value)) : RuleSource := { r with extra := es }
    have hset : set r.extra = r := by
      cases r
      rfl
    have hextra : (w.extra r.extra).foldlM n.field ⟨set [], seen, false⟩ = .ok ⟨r, seen, false⟩ :=
      hset ▸ w.extra_read set seen tidy.extra.ascending fun e he done =>
        w.field_extra (tidy.extra.unknown e he)
          (w.value_read e.2 (tidy.extra.sound e he) (readable e he)) _ seen
    rw [Reads, rule_eq, Notation.rule, fields_eq_foldlM, List.foldlM_append, hknown, foldl_ruleSlots]
    show (do
      let p ← (w.extra r.extra).foldlM n.field ⟨set [], seen, false⟩
      p.finish true) = Except.ok r
    rw [hextra]
    rfl

/-! ### Grammars -/

/-- A grammar in order, whose keys without a meaning have values that are read back. -/
structure WritableGrammar (g : GrammarSource) : Prop where
  sound : g.Sound
  readable : g.ExtraThroughout w.Readable

namespace WritableGrammar

variable {w} {g : GrammarSource}

theorem patterns (h : w.WritableGrammar g) : ∀ r ∈ g.patterns, w.Writable r := fun r hr =>
  (h.sound.patterns r hr).and (h.readable.patterns r hr)

theorem repository (h : w.WritableGrammar g) : ∀ e ∈ g.repository, w.Writable e.2 := fun e he =>
  (h.sound.repository.2 e he).and (h.readable.repository e he)

/-- The values of keys without a meaning are read back. -/
theorem values (h : w.WritableGrammar g) : ∀ e ∈ g.extra, e.2.Sound ∧ e.2.Throughout w.Readable :=
  fun e he => ⟨h.sound.extra.sound e he, h.readable.extra e he⟩

end WritableGrammar

theorem grammarFields_eq_foldlM (es : List (Option α × Document α)) (p : Partial GrammarSource) :
    n.grammarFields p es = es.foldlM (fun p e => n.grammarField p e.1 e.2) p := by
  induction es generalizing p with
  | nil => rfl
  | cons e es ih =>
    rw [grammarFields, List.foldlM_cons]
    exact bind_congr ih

/-- The keys of a grammar that have a meaning, in the order in which they are written. -/
def grammarSlots (g : GrammarSource) : List (Slot α GrammarSource) :=
  [w.someSlot "information_for_contributors" w.texts g.contributorNotes
      fun o q => { q with contributorNotes := o.or q.contributorNotes },
    w.someSlot "version" w.textOf g.version fun o q => { q with version := o.or q.version },
    w.someSlot "name" w.textOf g.name fun o q => { q with name := o.or q.name },
    ⟨"scopeName", [w.entry "scopeName" (w.textOf g.scopeName)], fun q => { q with scopeName := g.scopeName }⟩,
    w.listSlot "fileTypes" w.textOf g.fileTypes fun l q => { q with fileTypes := orElse l q.fileTypes },
    w.someSlot "uuid" w.textOf g.uuid fun o q => { q with uuid := o.or q.uuid },
    w.someSlot "firstLineMatch" w.textOf g.firstLineMatch
      fun o q => { q with firstLineMatch := o.or q.firstLineMatch },
    w.someSlot "foldingStartMarker" w.textOf g.foldingStartMarker
      fun o q => { q with foldingStartMarker := o.or q.foldingStartMarker },
    w.someSlot "foldingStopMarker" w.textOf g.foldingStopMarker
      fun o q => { q with foldingStopMarker := o.or q.foldingStopMarker },
    ⟨"patterns", [w.entry "patterns" (.list (g.patterns.map w.rule) true)],
      fun q => { q with patterns := g.patterns }⟩,
    w.mapSlot "repository" w.namedOf g.repository fun l q => { q with repository := orElse l q.repository }]

theorem grammar_eq (g : GrammarSource) :
    w.grammar g = .map ((w.grammarSlots g).flatMap Slot.entries ++ w.extra g.extra) true := by
  simp only [grammar, grammarSlots, someSlot, listSlot, mapSlot, rules_eq_map, repository_eq_map,
    List.flatMap_cons, List.flatMap_nil, List.append_nil, List.append_assoc]

/-- Together the slots of a grammar set all of it but the keys without a meaning. -/
theorem foldl_grammarSlots (g : GrammarSource) :
    (w.grammarSlots g).foldl (fun q s => s.set q) {} = { g with extra := [] } := by
  simp only [grammarSlots, someSlot, listSlot, mapSlot, List.foldl_cons, List.foldl_nil, Option.or_none,
    orElse_nil]

theorem grammarSlots_reads {g : GrammarSource} (h : w.WritableGrammar g) :
    ∀ s ∈ w.grammarSlots g, s.Reads fun p e => n.grammarField p e.1 e.2 := by
  have hpatterns := w.rules_read fun r hr => w.rule_read (h.patterns r hr)
  have hrepository := w.repository_read h.sound.repository.1 fun e he => w.rule_read (h.repository e he)
  have text : ∀ s : String, n.optionalText (w.optional (w.textOf s)) = .ok (some s) := fun s =>
    w.optional_read (w.textOf_there s) (w.textOf_read s)
  have texts : ∀ ss : List String, n.optional n.texts (w.optional (w.texts ss)) = .ok (some ss) := fun ss =>
    w.optional_read nofun (w.texts_read ss)
  simp only [grammarSlots, List.forall_mem_cons]
  refine ⟨?_, ?_, ?_, ?_, ?_, ?_, ?_, ?_, ?_, ?_, ?_, List.forall_mem_nil _⟩
  case refine_1 =>
    refine w.someSlot_reads (fun _ => rfl) fun ss _ q seen hseen => ?_
    rw [entry, grammarField, keyText, w.key_read]
    exact once_read hseen (texts ss)
  case refine_2 | refine_3 | refine_6 | refine_7 | refine_8 | refine_9 =>
    refine w.someSlot_reads (fun _ => rfl) fun s _ q seen hseen => ?_
    rw [entry, grammarField, keyText, w.key_read]
    exact once_read hseen (text s)
  case refine_4 =>
    refine .one fun q seen hseen => ?_
    rw [entry, grammarField, keyText, w.key_read]
    exact once_read hseen (w.textOf_read g.scopeName)
  case refine_5 =>
    refine w.listSlot_reads (fun _ => rfl) fun hne q seen hseen => ?_
    rw [orElse_of_ne_nil hne, entry, grammarField, keyText, w.key_read]
    exact once_read hseen (w.texts_read g.fileTypes)
  case refine_10 =>
    refine .one fun q seen hseen => ?_
    rw [entry, grammarField, keyText, w.key_read]
    exact once_read hseen hpatterns
  case refine_11 =>
    refine w.mapSlot_reads (fun _ => rfl) fun hne q seen hseen => ?_
    rw [orElse_of_ne_nil hne, entry, grammarField, keyText, w.key_read]
    exact once_read hseen hrepository

/-- A key without a meaning is put in its place among the others. -/
theorem grammarField_extra {e : String × Value} (hkey : e.1 ∉ GrammarSource.keys)
    (hvalue : n.value (w.value e.2) = .ok (some e.2)) (g : GrammarSource) (seen : List String) :
    n.grammarField ⟨g, seen, false⟩ (w.entry e.1 (w.value e.2)).1 (w.entry e.1 (w.value e.2)).2 =
      .ok ⟨{ g with extra := Sorted.insert e.1 e.2 g.extra }, seen, false⟩ := by
  simp only [GrammarSource.keys, List.mem_cons, List.not_mem_nil, or_false, not_or] at hkey
  rw [entry, grammarField, keyText, w.key_read]
  dsimp only [bind, Except.bind]
  split
  case h_12 =>
    rw [hvalue]
    rfl
  all_goals simp_all only [not_true_eq_false, false_and, and_false]

/-- **A grammar in order is read back from its document.** -/
theorem grammar_read {g : GrammarSource} (h : w.WritableGrammar g) : n.grammar (w.grammar g) = .ok g := by
  have hkeys : ((w.grammarSlots g).map Slot.key).Nodup := by
    show GrammarSource.keys.Nodup
    decide
  obtain ⟨seen, hknown⟩ := slots_read _ {} [] (w.grammarSlots_reads h) hkeys fun _ _ => List.not_mem_nil
  have hextra : (w.extra g.extra).foldlM (fun p e => n.grammarField p e.1 e.2)
      ⟨{ g with extra := [] }, seen, false⟩ = .ok ⟨g, seen, false⟩ :=
    w.extra_read (fun es => { g with extra := es }) seen h.sound.extra.ascending fun e he done =>
      w.grammarField_extra (h.sound.extra.unknown e he)
        (w.value_read e.2 (h.values e he).1 (h.values e he).2) _ seen
  rw [grammar_eq, Notation.grammar, grammarFields_eq_foldlM, List.foldlM_append, hknown, foldl_grammarSlots]
  show (do
    let p ← (w.extra g.extra).foldlM (fun p e => n.grammarField p e.1 e.2) ⟨{ g with extra := [] }, seen, false⟩
    p.finish true) = Except.ok g
  rw [hextra]
  rfl

/-! ### Scalars that are read back -/

theorem entry_printable {key : String} {t : Document α} (h : t.All w.Printable) :
    EntriesAll w.Printable [w.entry key t] :=
  List.forall_mem_singleton.mpr ⟨fun _ hk => Option.some.inj hk ▸ w.text_printable key, h⟩

theorem textOf_printable (s : String) : (w.textOf s).All w.Printable := .scalar (w.text_printable s)

theorem truthOf_printable (b : Bool) : (w.truthOf b).All w.Printable := .scalar (w.truth_printable b)

theorem flagOf_printable {f : Flag} (h : f.Fits) : (w.flagOf f).All w.Printable := by
  cases f with
  | bool b => exact w.truthOf_printable b
  | number k => exact .scalar (w.number_printable k h)

theorem texts_printable (ss : List String) : (w.texts ss).All w.Printable :=
  .list (List.forall_mem_map.mpr fun s _ => w.textOf_printable s)

/-- A map is made of what its entries are made of. -/
theorem all_map {P : α → Prop} {es : List (Option α × Document α)} {closed : Bool} (h : EntriesAll P es) :
    (Document.map es closed).All P := .map (fun e he => (h e he).1) fun e he => (h e he).2

theorem optional_printable {t : Document α} (h : t.All w.Printable) : (w.optional t).All w.Printable := by
  rw [optional]
  split
  · exact all_map (w.entry_printable h)
  · exact h

section Slots

variable {ρ β : Type} {key : String}

theorem someSlot_printable {doc : β → Document α} {o : Option β} {set : Option β → ρ → ρ}
    (h : ∀ b ∈ o, (doc b).All w.Printable) : EntriesAll w.Printable (w.someSlot key doc o set).entries := by
  cases o with
  | none => exact nofun
  | some b => exact w.entry_printable (w.optional_printable (h b rfl))

theorem listSlot_printable {doc : β → Document α} {l : List β} {set : List β → ρ → ρ}
    (h : ∀ b ∈ l, (doc b).All w.Printable) : EntriesAll w.Printable (w.listSlot key doc l set).entries := by
  cases l with
  | nil => exact nofun
  | cons b l => exact w.entry_printable (.list (List.forall_mem_map.mpr h))

theorem mapSlot_printable {doc : β → Option α × Document α} {l : List β} {set : List β → ρ → ρ}
    (h : EntriesAll w.Printable (l.map doc)) : EntriesAll w.Printable (w.mapSlot key doc l set).entries := by
  cases l with
  | nil => exact nofun
  | cons b l => exact w.entry_printable (all_map h)

/-- Slots and the keys without a meaning make up a map. -/
theorem slots_printable {slots : List (Slot α ρ)} {es : List (String × Value)}
    (hslots : ∀ s ∈ slots, EntriesAll w.Printable s.entries)
    (hes : ∀ e ∈ es, e.2.Sound ∧ e.2.Throughout w.Readable) :
    (Document.map (slots.flatMap Slot.entries ++ w.extra es) true).All w.Printable := by
  refine all_map fun e he => ?_
  rcases List.mem_append.mp he with he | he
  · obtain ⟨s, hs, he⟩ := List.mem_flatMap.mp he
    exact hslots s hs e he
  · obtain ⟨d, hd, rfl⟩ := List.mem_map.mp he
    exact w.entry_printable (w.value_printable d.2 (hes d hd).1 (hes d hd).2) _ (List.mem_singleton_self _)

end Slots

theorem captures_printable {cs : List (Nat × RuleSource)} (h : ∀ c ∈ cs, (w.rule c.2).All w.Printable) :
    EntriesAll w.Printable (cs.map w.captureOf) :=
  List.forall_mem_map.mpr fun c hc => w.entry_printable (h c hc) _ (List.mem_singleton_self _)

theorem repository_printable {es : List (String × RuleSource)}
    (h : ∀ e ∈ es, (w.rule e.2).All w.Printable) : EntriesAll w.Printable (es.map w.namedOf) :=
  List.forall_mem_map.mpr fun e he => w.entry_printable (h e he) _ (List.mem_singleton_self _)

/-- The scalars of a rule in order are read back. -/
theorem rule_printable {r : RuleSource} (h : w.Writable r) : (w.rule r).All w.Printable := by
  induction h with
  | @intro r here _ ih =>
    obtain ⟨tidy, readable⟩ := here
    obtain ⟨captured, patterns, named⟩ := RuleSource.forall_mem_inner.mp ih
    have captures : ∀ cs ∈ r.captureLists, EntriesAll w.Printable (cs.map w.captureOf) := fun cs hcs =>
      w.captures_printable (captured cs hcs)
    simp only [RuleSource.captureLists, List.forall_mem_cons] at captures
    obtain ⟨hcaptures, hbegin, hend, hwhile, -⟩ := captures
    rw [rule_eq]
    refine w.slots_printable ?_ fun e he => ⟨tidy.extra.sound e he, readable e he⟩
    simp only [ruleSlots, List.forall_mem_cons]
    refine ⟨?_, ?_, ?_, ?_, ?_, ?_, ?_, w.mapSlot_printable hcaptures, w.mapSlot_printable hbegin,
      w.mapSlot_printable hend, w.mapSlot_printable hwhile, ?_, ?_, ?_, w.listSlot_printable patterns,
      w.mapSlot_printable (w.repository_printable named), List.forall_mem_nil _⟩
    case refine_8 =>
      exact w.someSlot_printable fun f hf => w.flagOf_printable (tidy.applyEndPatternLast f hf)
    case refine_9 => exact w.someSlot_printable fun b _ => w.truthOf_printable b
    case refine_10 => exact w.someSlot_printable fun f hf => w.flagOf_printable (tidy.disabled f hf)
    all_goals exact w.someSlot_printable fun s _ => w.textOf_printable s

/-- **The scalars of a grammar in order are read back.** -/
theorem grammar_printable {g : GrammarSource} (h : w.WritableGrammar g) :
    (w.grammar g).All w.Printable := by
  rw [grammar_eq]
  refine w.slots_printable ?_ h.values
  have text : ∀ {ρ : Type} {key : String} {o : Option String} {set : Option String → ρ → ρ},
      EntriesAll w.Printable (w.someSlot key w.textOf o set).entries :=
    w.someSlot_printable fun s _ => w.textOf_printable s
  simp only [grammarSlots, List.forall_mem_cons]
  exact ⟨w.someSlot_printable fun ss _ => w.texts_printable ss, text, text,
    w.entry_printable (w.textOf_printable g.scopeName),
    w.listSlot_printable fun s _ => w.textOf_printable s, text, text, text, text,
    w.entry_printable (.list (List.forall_mem_map.mpr fun r hr => w.rule_printable (h.patterns r hr))),
    w.mapSlot_printable (w.repository_printable fun e he => w.rule_printable (h.repository e he)),
    List.forall_mem_nil _⟩

end Notation.Writer
end Source
end ScopeLexer
