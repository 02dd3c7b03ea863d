/-
# Property lists keep grammars

A grammar that was read, in whichever format, is read back from the property list written for it, unless a key
without a meaning has a null or a double somewhere. Each optional value stands wrapped in a map of its own,
and comes out of it again; what stands under a key without a meaning is not wrapped.

Key definitions: `plistWriter`.
Key theorems: `docOf_rule`, `docOf_grammar`, `GrammarSource.plist_lossless`.
-/
import ScopeLexer.Artifact.Build
import ScopeLexer.Proofs.Outcome
import ScopeLexer.Proofs.PlistText
import ScopeLexer.Proofs.WrittenSources

namespace ScopeLexer

namespace Plist

theorem docsOf_eq_map (vs : List Value) : docsOf vs = vs.map docOf := by
  induction vs with
  | nil => rfl
  | cons v vs ih => rw [docsOf, ih, List.map_cons]

theorem entryDocs_eq_map (es : List (String × Value)) : entryDocs es = es.map entryDoc := by
  induction es with
  | nil => rfl
  | cons e es ih => rw [entryDocs, ih, List.map_cons]

end Plist

namespace Source

open Json (Value Members)
open Plist (docOf docsOf entryDoc entryDocs)

/-! ### Any values -/

theorem itemsToPlist_eq_map (vs : List Value) : itemsToPlist vs = vs.map valueToPlist := by
  induction vs with
  | nil => rfl
  | cons v vs ih => rw [itemsToPlist, ih, List.map_cons]

theorem membersToPlist_eq_map (ms : List (String × Value)) : membersToPlist ms = ms.map memberToPlist := by
  induction ms with
  | nil => rfl
  | cons m ms ih => rw [membersToPlist, ih, List.map_cons]

/-- A value that a property list can hold: no null, and no double. -/
def Held (v : Value) : Prop := ¬v.isNull ∧ ¬v.isDouble

theorem plistItems_read {vs : List Value}
    (h : ∀ v ∈ vs, plistValue (docOf (valueToPlist v)) = .ok (some v)) :
    plistItems (docsOf (itemsToPlist vs)) = .ok (some vs) := by
  induction vs with
  | nil => rfl
  | cons v vs ih =>
    obtain ⟨hv, hvs⟩ := List.forall_mem_cons.mp h
    rw [itemsToPlist, docsOf, plistItems, hv, ih hvs]
    rfl

theorem plistEntries_read {ms : List (String × Value)}
    (h : ∀ m ∈ ms, plistValue (docOf (valueToPlist m.2)) = .ok (some m.2)) :
    plistEntries (entryDocs (membersToPlist ms)) = .ok (some ms) := by
  induction ms with
  | nil => rfl
  | cons m ms ih =>
    obtain ⟨key, v⟩ := m
    obtain ⟨hv, hms⟩ := List.forall_mem_cons.mp h
    rw [membersToPlist, memberToPlist, entryDocs, entryDoc, plistEntries, plistEntry, hv, ih hms]
    rfl

/-- **A value is read back from its document**, if it is one that a property list can hold. -/
theorem plistValue_read {v : Value} (hsound : v.Sound) (hheld : v.Throughout Held) :
    plistValue (docOf (valueToPlist v)) = .ok (some v) := by
  induction hsound with
  | @intro v regular _ ih =>
    obtain ⟨noNull, noDouble⟩ := hheld.here
    cases v with
    | null => exact absurd rfl noNull
    | bool b => rfl
    | string s => rfl
    | number n =>
      cases n with
      | whole n => rfl
      | double d => exact absurd rfl noDouble
    | array vs =>
      have hitems : plistItems (docsOf (itemsToPlist vs)) = .ok (some vs) :=
        plistItems_read fun v hv => ih v hv (hheld.items v hv)
      rw [valueToPlist, docOf, plistValue, hitems]
      rfl
    | object ms =>
      have hmembers := plistEntries_read fun m hm =>
        ih m.2 (List.mem_map_of_mem hm) (hheld.members m hm)
      rw [valueToPlist, docOf, plistValue, hmembers]
      show Except.ok (some (Value.object (Members.ofEntries ms))) = _
      rw [Members.ofEntries_eq regular]

/-- The document of a value that a property list can hold is read back from its text. -/
theorem valueToPlist_exact {v : Value} (h : v.Throughout fun w => w.Regular ∧ Held w) :
    (docOf (valueToPlist v)).All Plist.Scalar.Exact := by
  induction h with
  | @intro v here _ ih =>
    obtain ⟨regular, noNull, noDouble⟩ := here
    cases v with
    | null => exact absurd rfl noNull
    | bool b => exact .scalar trivial
    | string s => exact .scalar trivial
    | number n =>
      cases n with
      | whole n => exact .scalar regular
      | double d => exact absurd rfl noDouble
    | array vs =>
      rw [valueToPlist, docOf, Plist.docsOf_eq_map, itemsToPlist_eq_map, List.map_map]
      exact .list (List.forall_mem_map.mpr ih)
    | object ms =>
      rw [valueToPlist, docOf, Plist.entryDocs_eq_map, membersToPlist_eq_map, List.map_map]
      refine .map (List.forall_mem_map.mpr ?_) (List.forall_mem_map.mpr fun m hm => ?_)
      · rintro ⟨key, v⟩ _ _ ⟨⟩
        trivial
      · obtain ⟨key, v⟩ := m
        exact ih v (List.mem_map_of_mem hm)

/-! ### Documents of grammars -/

theorem flag_whole {k : Int} (hk : Decimal.fitsSigned k) : plistNotation.flag (.whole k) = .ok (.number k) :=
  if_pos hk

/-- Property lists read back what they write. -/
def plistWriter : plistNotation.Writer where
  text := .text
  truth := .bool
  number := .whole
  value v := docOf (valueToPlist v)
  Readable := Held
  Printable := Plist.Scalar.Exact
  text_read _ := rfl
  key_read _ := rfl
  index_read _ := rfl
  truth_read _ := rfl
  bool_read _ := rfl
  number_read _ hk := flag_whole hk
  value_read _ := plistValue_read
  text_there _ := nofun
  truth_there _ := nofun
  number_there _ := nofun
  text_printable _ := trivial
  truth_printable _ := trivial
  number_printable _ hk := Decimal.fitsWord_of_fitsSigned hk
  value_printable _ hsound hheld := valueToPlist_exact (hsound.and hheld)

theorem rulesToPlist_eq_map (rs : List RuleSource) : rulesToPlist rs = rs.map RuleSource.toPlist := by
  induction rs with
  | nil => rfl
  | cons r rs ih => rw [rulesToPlist, ih, List.map_cons]

theorem capturesToPlist_eq_map (cs : List (Nat × RuleSource)) :
    capturesToPlist cs = cs.map fun c => (toString c.1, c.2.toPlist) := by
  induction cs with
  | nil => rfl
  | cons c cs ih => rw [capturesToPlist, ih, List.map_cons, captureToPlist]

theorem repositoryToPlist_eq_map (es : List (String × RuleSource)) :
    repositoryToPlist es = es.map fun e => (e.1, e.2.toPlist) := by
  induction es with
  | nil => rfl
  | cons e es ih => rw [repositoryToPlist, ih, List.map_cons, namedToPlist]

/-- Entries of a map as they stand in its document. -/
abbrev docs (es : List (String × Plist.Value)) : List (Option Plist.Scalar × Document Plist.Scalar) :=
  es.map entryDoc

theorem docs_some {β : Type} {key : String} {value : β → Plist.Value} {doc : β → Document Plist.Scalar}
    (h : ∀ b, docOf (value b) = doc b) (o : Option β) :
    docs (someEntry key (o.map value)) = plistWriter.someEntry key (o.map doc) := by
  cases o with
  | none => rfl
  | some b =>
    show [(_, Document.map [(_, docOf (value b))] true)] = [(_, Document.map [(_, doc b)] true)]
    rw [h]
    rfl

theorem docs_list {key : String} (vs : List Plist.Value) :
    docs (listEntry key vs) = plistWriter.listEntry key (vs.map docOf) := by
  cases vs with
  | nil => rfl
  | cons v vs =>
    show [(_, docOf (.list (v :: vs)))] = _
    rw [docOf, Plist.docsOf_eq_map]
    rfl

theorem docs_map {key : String} (es : List (String × Plist.Value)) :
    docs (mapEntry key es) = plistWriter.mapEntry key (docs es) := by
  cases es with
  | nil => rfl
  | cons e es =>
    show [(_, docOf (.map (e :: es)))] = _
    rw [docOf, Plist.entryDocs_eq_map]
    rfl

theorem docOf_flag (f : Flag) : docOf f.toPlist = plistWriter.flagOf f := by
  cases f <;> rfl

theorem docOf_rules {rs : List RuleSource} (hrs : ∀ r ∈ rs, docOf r.toPlist = plistWriter.rule r) :
    (rulesToPlist rs).map docOf = plistWriter.rules rs := by
  rw [rulesToPlist_eq_map]
  exact plistWriter.rules_encoded hrs

theorem docs_captures {cs : List (Nat × RuleSource)}
    (hcs : ∀ c ∈ cs, docOf c.2.toPlist = plistWriter.rule c.2) :
    docs (capturesToPlist cs) = plistWriter.captures cs := by
  rw [capturesToPlist_eq_map]
  exact plistWriter.captures_encoded (fun _ _ => rfl) hcs

theorem docs_repository {es : List (String × RuleSource)}
    (hes : ∀ e ∈ es, docOf e.2.toPlist = plistWriter.rule e.2) :
    docs (repositoryToPlist es) = plistWriter.repository es := by
  rw [repositoryToPlist_eq_map]
  exact plistWriter.repository_encoded (fun _ _ => rfl) hes

theorem docs_text {key : String} (s : Option String) :
    docs (someText key s) = plistWriter.someEntry key (s.map plistWriter.textOf) :=
  docs_some (fun _ => rfl) s

theorem docs_truth {key : String} (b : Option Bool) :
    docs (someEntry key (b.map .bool)) = plistWriter.someEntry key (b.map plistWriter.truthOf) :=
  docs_some (fun _ => rfl) b

theorem extra_eq_docs (es : List (String × Value)) : plistWriter.extra es = docs (membersToPlist es) := by
  rw [docs, membersToPlist_eq_map, List.map_map]
  exact List.map_congr_left fun (_, _) _ => rfl

/-- The document of a rule's property list is the one that is written for the rule. -/
theorem docOf_rule {r : RuleSource} (h : r.Sound) : docOf r.toPlist = plistWriter.rule r := by
  induction h with
  | @intro r _ _ ih =>
    obtain ⟨captured, patterns, named⟩ := RuleSource.forall_mem_inner.mp ih
    have captures : ∀ cs ∈ r.captureLists, docs (capturesToPlist cs) = plistWriter.captures cs := fun cs hcs =>
      docs_captures (captured cs hcs)
    have hpatterns := docOf_rules patterns
    have hrepository := docs_repository named
    cases r
    simp only [RuleSource.captureLists, List.forall_mem_cons] at captures hpatterns hrepository
    obtain ⟨hcaptures, hbegin, hend, hwhile, -⟩ := captures
    simp only [RuleSource.toPlist, Notation.Writer.rule, docOf, Plist.entryDocs_eq_map, List.map_append,
      docs_text, docs_truth, docs_some docOf_flag, docs_map, docs_list, extra_eq_docs, hcaptures, hbegin, hend,
      hwhile, hpatterns, hrepository]

/-- The document of a grammar's property list is the one that is written for the grammar. -/
theorem docOf_grammar {g : GrammarSource} (h : g.Sound) : docOf g.toPlist = plistWriter.grammar g := by
  have hpatterns := docOf_rules fun r hr => docOf_rule (h.patterns r hr)
  have hrepository := docs_repository fun e he => docOf_rule (h.repository.2 e he)
  have notes : ∀ ss : List String, docOf (.list (ss.map .text)) = plistWriter.texts ss := by
    intro ss
    rw [docOf, Plist.docsOf_eq_map, List.map_map]
    rfl
  have types : (g.fileTypes.map Plist.Value.text).map docOf = g.fileTypes.map plistWriter.textOf := by
    rw [List.map_map]
    rfl
  have scope : docs [("scopeName", .text g.scopeName)] =
      [plistWriter.entry "scopeName" (plistWriter.textOf g.scopeName)] := rfl
  have patterns : docs [("patterns", .list (rulesToPlist g.patterns))] =
      [plistWriter.entry "patterns" (.list (plistWriter.rules g.patterns) true)] := by
    rw [← hpatterns, ← Plist.docsOf_eq_map]
    rfl
  simp only [GrammarSource.toPlist, Notation.Writer.grammar, docOf, Plist.entryDocs_eq_map, List.map_append,
    docs_text, docs_some notes, docs_map, docs_list, extra_eq_docs, types, scope, patterns, hrepository]

/-! ### Grammars -/

/-- **The property list is lossless.** A grammar that is read, with no null and no double in its unknown keys,
is read back from its property list, and making the property list again gives the same text. -/
theorem GrammarSource.plist_lossless {format : Format} {text : List Char} {g : GrammarSource}
    (hread : format.read text = .ok g) (hheld : ∀ v ∈ g.unknownValues, ¬v.isNull ∧ ¬v.isDouble) :
    ∃ artifact g', Target.plist.content g none = .ok artifact ∧
      Format.plist.read artifact.toList = .ok g' ∧ g' = g ∧
      Target.plist.content g' none = .ok artifact := by
  have hsound := Format.read_sound hread
  have hwritable : plistWriter.WritableGrammar g := ⟨hsound, hsound.extraThroughout hheld⟩
  have hdoc := docOf_grammar hsound
  have hexact : (docOf g.toPlist).All Plist.Scalar.Exact := by
    rw [hdoc]
    exact plistWriter.grammar_printable hwritable
  have hback : readPlist (g.toPlist.render ++ "\n").toList = .ok g := by
    rw [readPlist, Plist.readDocument_render hexact, hdoc]
    exact plistWriter.grammar_read hwritable
  exact ⟨_, g, rfl, hback, rfl, rfl⟩

/-- A grammar in YAML with marks that have to be written as references, in patterns and under an unknown
key. -/
def markText : String :=
  "scopeName: t\npatterns:\n- begin: <\n  end: '>'\n  disabled: 1\n  note: ['&', -7]\n"

set_option maxRecDepth 4000 in
theorem GrammarSource.plist_lossless_markText :
    ∃ g, Format.yaml.read markText.toList = .ok g ∧ (∀ v ∈ g.unknownValues, ¬v.isNull ∧ ¬v.isDouble) ∧
      g.unknownValues.length = 3 ∧
      ∃ artifact g', Target.plist.content g none = .ok artifact ∧
        Format.plist.read artifact.toList = .ok g' ∧ g' = g ∧
        Target.plist.content g' none = .ok artifact := by
  have run : (Format.yaml.read markText.toList).toOption.any (fun g =>
      (g.unknownValues.all fun v => !v.isNull && !v.isDouble) && g.unknownValues.length == 3) = true := by
    -- A literal is a list of characters, which need not be decoded from its bytes.
    have hchars : markText.toList = _ := String.toList_ofList
    rw [hchars]
    decide +kernel
  obtain ⟨g, hread, hcheck⟩ := exists_ok_of_any run
  simp only [Bool.and_eq_true, beq_iff_eq, List.all_eq_true, Bool.not_eq_true'] at hcheck
  obtain ⟨hvalues, hlength⟩ := hcheck
  have hheld : ∀ v ∈ g.unknownValues, ¬v.isNull ∧ ¬v.isDouble := fun v hv =>
    ⟨Bool.eq_false_iff.mp (hvalues v hv).1, Bool.eq_false_iff.mp (hvalues v hv).2⟩
  exact ⟨g, hread, hheld, hlength, plist_lossless hread hheld⟩

end Source
end ScopeLexer
