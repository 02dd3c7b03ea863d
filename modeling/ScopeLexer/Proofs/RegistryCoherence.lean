/-
# What a registry answers

A registry is called again and again: grammars are added to it, from files too, they are loaded, and documents
are tokenized with them. Any of the calls may fail, and one that fails leaves the registry as it was. What the
registry answers for a name depends on the calls only through the last grammar of that name that was added:
what is kept of its compilation is what compiling it comes to, and it stays the same until the name is added
again.

Key definitions: `Registry.Call`, `Registry.run`, `Registry.added`, `newest`, `Registry.Coherent`.
Key theorems: `Registry.after_cases`, `Registry.Coherent.run`, `Registry.answers_of_newest`.
-/
import ScopeLexer.Proofs.Outcome
import ScopeLexer.Registry

namespace ScopeLexer

open Source (GrammarSource)

namespace Registry

/-- A call of a registry. A file is read as it is at the time of the call. -/
inductive Call where
  | add (g : GrammarSource)
  | addFile (fs : Files.Operations Id) (path : List Char)
  | load (name : String)
  | tokenize (name : String) (text : List Char)

/-- The grammar that a call is to add. -/
def Call.source : Call → Option GrammarSource
  | add g => some g
  | addFile fs path => (Source.load fs path).run.toOption
  | load _ => none
  | tokenize _ _ => none

variable (r : Registry)

/-- The registry after a call, if the call succeeds. -/
def perform : Call → Except Error Registry
  | .add g => r.add g
  | .addFile fs path => (r.addFile fs path).run
  | .load name => (r.load name).map (·.2)
  | .tokenize name text => (r.tokenize name text).map (·.2)

/-- The registry after a call. One that fails leaves it as it was. -/
def after (call : Call) : Registry :=
  match r.perform call with
  | .ok r' => r'
  | .error _ => r

/-- The registry after some calls. -/
def run (calls : List Call) : Registry := calls.foldl after r

/-- The grammar that a call adds, if it succeeds. -/
def addedBy (call : Call) : Option GrammarSource :=
  match r.perform call with
  | .ok _ => call.source
  | .error _ => none

/-- The grammars that some calls add where they succeed, in the order of the calls. -/
def added (r : Registry) : List Call → List GrammarSource
  | [] => []
  | call :: calls => (r.addedBy call).toList ++ added (r.after call) calls

/-- What is loaded for a name. -/
def loaded (name : String) : Except Error Compiled := (r.load name).map (·.1)

/-- The tokens of a document by the grammar of a name. -/
def tokens (name : String) (text : List Char) : Except Error (List (List Token)) :=
  (r.tokenize name text).map (·.1)

/-- A registry in which a grammar has taken the place of those of its name. -/
def withSource (g : GrammarSource) : Registry :=
  { r with
    sources := Sorted.insert (nameOf g) g r.sources
    compiled := Sorted.erase (nameOf g) r.compiled }

/-- A registry that keeps one more compiled grammar. -/
def withCompiled (name : String) (grammar : Grammar) : Registry :=
  { r with
    compiled := Sorted.insert name ⟨grammar, r.count⟩ r.compiled
    count := r.count + 1 }

end Registry

/-- The last one of some grammars that has a name. -/
def newest (gs : List GrammarSource) (name : String) : Option GrammarSource :=
  gs.reverse.find? fun g => Registry.nameOf g == name

/-! ### The last grammar of a name -/

variable {gs : List GrammarSource} {g : GrammarSource} {name : String}

theorem newest_concat : newest (gs ++ [g]) name =
    if Registry.nameOf g = name then some g else newest gs name := by
  unfold newest
  rw [List.reverse_append, List.reverse_singleton, List.singleton_append]
  by_cases h : Registry.nameOf g = name
  · rw [List.find?_cons_of_pos (by simpa using h), if_pos h]
  · rw [List.find?_cons_of_neg (by simpa using h), if_neg h]

theorem newest_eq_none : newest gs name = none ↔ ∀ g ∈ gs, Registry.nameOf g ≠ name := by
  simp [newest, List.find?_eq_none]

namespace Registry

variable {r r' : Registry} {o : Options} {call : Call} {c : Compiled} {s : String}

/-! ### What a call does -/

theorem add_eq (g : GrammarSource) : r.add g =
    if (nameOf g).isEmpty then .error (.grammar .missingScopeName) else .ok (r.withSource g) := rfl

/-- Only a grammar with a name is added. -/
theorem add_ok {g : GrammarSource} (h : r.add g = .ok r') :
    (nameOf g).isEmpty = false ∧ r' = r.withSource g := by
  rw [add_eq] at h
  split at h
  · cases h
  · rename_i hname
    cases h
    exact ⟨by simpa using hname, rfl⟩

/-- A grammar from a file is added as it is read. -/
theorem addFile_eq (fs : Files.Operations Id) (path : List Char) : (r.addFile fs path).run =
    match (Source.load fs path).run with
    | .ok g => r.add g
    | .error e => .error e := by
  have hrun : (r.addFile fs path).run = (Source.load fs path >>= fun g =>
      (MonadExcept.ofExcept (r.add g) : ExceptT Error Id Registry)).run := rfl
  rw [hrun, ExceptT.run_bind]
  cases (Source.load fs path).run with
  | error e => rfl
  | ok g =>
    show (MonadExcept.ofExcept (r.add g) : ExceptT Error Id Registry).run = r.add g
    cases r.add g <;> rfl

/-- A grammar that is loaded has been kept, or it is compiled and kept from then on. -/
theorem load_ok (h : r.load name = .ok (c, r')) :
    (r.compiled.lookup name = some c ∧ r' = r) ∨
      ∃ g grammar, r.compiled.lookup name = none ∧ r.sources.lookup name = some g ∧
        Grammar.ofSource g = .ok grammar ∧ c = ⟨grammar, r.count⟩ ∧ r' = r.withCompiled name grammar := by
  unfold load at h
  split at h
  · rename_i kept hkept
    cases h
    exact .inl ⟨hkept, rfl⟩
  · rename_i hkept
    split at h
    · cases h
    · rename_i g hg
      split at h
      · cases h
      · rename_i grammar hgrammar
        cases h
        exact .inr ⟨g, grammar, hkept, hg, hgrammar, rfl, rfl⟩

/-- Loading keeps a grammar that it has compiled, or leaves the registry as it was. -/
theorem load_keeps (h : r.load name = .ok (c, r')) :
    (∃ name g grammar, r.compiled.lookup name = none ∧ r.sources.lookup name = some g ∧
      Grammar.ofSource g = .ok grammar ∧ r' = r.withCompiled name grammar) ∨ r' = r := by
  rcases load_ok h with ⟨-, rfl⟩ | ⟨g, grammar, hkept, hg, hgrammar, -, rfl⟩
  · exact .inr rfl
  · exact .inl ⟨name, g, grammar, hkept, hg, hgrammar, rfl⟩

/-- Tokenizing takes what is loaded, and leaves the registry as loading does. -/
theorem tokenize_eq (text : List Char) : r.tokenize name text =
    (r.load name).map fun p =>
      (((Session.mk p.1.grammar p.2.options {}).document text).1, p.2) := by
  unfold tokenize
  split <;> rename_i h <;> rw [h] <;> rfl

/-- **The effects of a call**: it adds a grammar with a name, it keeps a grammar that it has compiled, or it
leaves the registry as it was. -/
theorem after_cases (r : Registry) (call : Call) :
    (∃ g, r.addedBy call = some g ∧ (nameOf g).isEmpty = false ∧ r.after call = r.withSource g) ∨
    (r.addedBy call = none ∧ ∃ name g grammar, r.compiled.lookup name = none ∧
      r.sources.lookup name = some g ∧ Grammar.ofSource g = .ok grammar ∧
      r.after call = r.withCompiled name grammar) ∨
    (r.addedBy call = none ∧ r.after call = r) := by
  unfold after addedBy
  cases hperform : r.perform call with
  | error e => exact .inr (.inr ⟨rfl, rfl⟩)
  | ok r' =>
    cases call with
    | add g => exact .inl ⟨g, rfl, add_ok hperform⟩
    | addFile fs path =>
      simp only [perform, addFile_eq] at hperform
      cases hload : (Source.load fs path).run with
      | error e => rw [hload] at hperform; cases hperform
      | ok g =>
        rw [hload] at hperform
        refine .inl ⟨g, ?_, add_ok hperform⟩
        simp only [Call.source, hload]
        rfl
    | load name =>
      simp only [perform] at hperform
      cases hload : r.load name with
      | error e => rw [hload] at hperform; cases hperform
      | ok p =>
        rw [hload] at hperform
        cases hperform
        exact .inr ((load_keeps hload).imp (⟨rfl, ·⟩) (⟨rfl, ·⟩))
    | tokenize name text =>
      simp only [perform, tokenize_eq] at hperform
      cases hload : r.load name with
      | error e => rw [hload] at hperform; cases hperform
      | ok p =>
        rw [hload] at hperform
        cases hperform
        exact .inr ((load_keeps hload).imp (⟨rfl, ·⟩) (⟨rfl, ·⟩))

/-- A call that fails leaves the registry as it was. -/
theorem after_of_error {e : Error} (h : r.perform call = .error e) : r.after call = r := by
  unfold after
  rw [h]

theorem run_append (r : Registry) (before later : List Call) :
    r.run (before ++ later) = (r.run before).run later := List.foldl_append

/-- A property that every call keeps is kept by a run. -/
theorem run_induction {P : Registry → Prop} (hstep : ∀ r call, P r → P (r.after call)) :
    ∀ (calls : List Call) {r : Registry}, P r → P (r.run calls)
  | [], _, h => h
  | call :: calls, r, h => run_induction hstep calls (hstep r call h)

/-! ### Coherence -/

/-- A registry keeps the last grammar of each name, and what it has compiled is what that comes to. -/
structure Coherent (o : Options) (gs : List GrammarSource) (r : Registry) : Prop where
  options : r.options = o
  sources : ∀ name, r.sources.lookup name = newest gs name
  compiled : ∀ name c, r.compiled.lookup name = some c →
    ∃ g, newest gs name = some g ∧ Grammar.ofSource g = .ok c.grammar
  serials : ∀ name c, r.compiled.lookup name = some c → c.serial < r.count

namespace Coherent

theorem new (o : Options) : Coherent o [] { options := o } :=
  ⟨rfl, fun _ => rfl, nofun, nofun⟩

theorem withSource (h : Coherent o gs r) (g : GrammarSource) : Coherent o (gs ++ [g]) (r.withSource g) := by
  -- What is kept for another name was there before, and nothing is kept for the name of the grammar.
  have kept : ∀ name c, (r.withSource g).compiled.lookup name = some c →
      nameOf g ≠ name ∧ r.compiled.lookup name = some c := by
    intro name c hc
    have hne : nameOf g ≠ name := by
      rintro rfl
      simp [Registry.withSource, Sorted.lookup_erase_self] at hc
    exact ⟨hne, by rwa [Registry.withSource, Sorted.lookup_erase_of_ne _ hne.symm] at hc⟩
  refine ⟨h.options, fun name => ?_, fun name c hc => ?_, fun name c hc => ?_⟩
  · rw [newest_concat]
    split
    · rename_i hname
      subst hname
      exact Sorted.lookup_insert_self _ _ _
    · rename_i hname
      exact (Sorted.lookup_insert_of_ne _ _ (Ne.symm hname)).trans (h.sources name)
  · obtain ⟨hne, hc⟩ := kept name c hc
    rw [newest_concat, if_neg hne]
    exact h.compiled name c hc
  · exact h.serials name c (kept name c hc).2

theorem withCompiled {grammar : Grammar} (h : Coherent o gs r) (hg : r.sources.lookup s = some g)
    (hgrammar : Grammar.ofSource g = .ok grammar) : Coherent o gs (r.withCompiled s grammar) := by
  have kept : ∀ name c, (r.withCompiled s grammar).compiled.lookup name = some c →
      (name = s ∧ c = ⟨grammar, r.count⟩) ∨ r.compiled.lookup name = some c := by
    intro name c hc
    by_cases hname : name = s
    · subst hname
      rw [Registry.withCompiled, Sorted.lookup_insert_self] at hc
      exact .inl ⟨rfl, (Option.some.inj hc).symm⟩
    · rw [Registry.withCompiled, Sorted.lookup_insert_of_ne _ _ hname] at hc
      exact .inr hc
  refine ⟨h.options, h.sources, fun name c hc => ?_, fun name c hc => ?_⟩
  · rcases kept name c hc with ⟨rfl, rfl⟩ | hc
    · exact ⟨g, (h.sources _).symm.trans hg, hgrammar⟩
    · exact h.compiled name c hc
  · rcases kept name c hc with ⟨-, rfl⟩ | hc
    · exact Nat.lt_succ_self r.count
    · exact Nat.lt_succ_of_lt (h.serials name c hc)

/-- A call keeps a registry coherent, with what it adds. -/
theorem after (h : Coherent o gs r) (call : Call) :
    Coherent o (gs ++ (r.addedBy call).toList) (r.after call) := by
  rcases r.after_cases call with
    ⟨g, hadded, -, hafter⟩ | ⟨hadded, name, g, grammar, -, hg, hgrammar, hafter⟩ | ⟨hadded, hafter⟩
  · rw [hadded, hafter]
    exact h.withSource g
  · rw [hadded, hafter, Option.toList_none, List.append_nil]
    exact h.withCompiled hg hgrammar
  · rwa [hadded, hafter, Option.toList_none, List.append_nil]

/-- **Calls keep a registry coherent**, with all that they add. -/
theorem run : ∀ {gs : List GrammarSource} {r : Registry}, Coherent o gs r → ∀ calls : List Call,
    Coherent o (gs ++ r.added calls) (r.run calls)
  | gs, r, h, [] => by
    rw [added, List.append_nil]
    exact h
  | gs, r, h, call :: calls => by
    have later := (h.after call).run calls
    rwa [List.append_assoc] at later

/-- What is loaded for a name is what compiling the last grammar of that name comes to. -/
theorem loaded_eq (h : Coherent o gs r) (name : String) : (r.loaded name).map (·.grammar) =
    match newest gs name with
    | none => .error (.unknownScope name)
    | some g => (Grammar.ofSource g).mapError .grammar := by
  unfold loaded load
  cases hkept : r.compiled.lookup name with
  | some c =>
    obtain ⟨g, hg, hgrammar⟩ := h.compiled name c hkept
    simp only [hg, hgrammar]
    rfl
  | none =>
    simp only [h.sources name]
    cases newest gs name with
    | none => rfl
    | some g => cases hgrammar : Grammar.ofSource g <;> simp only [hgrammar] <;> rfl

/-- A name is unknown exactly if no grammar of that name has been added. -/
theorem unknownScope_iff (h : Coherent o gs r) (name : String) :
    r.loaded name = .error (.unknownScope name) ↔ newest gs name = none := by
  have hloaded := h.loaded_eq name
  constructor
  · intro hr
    rw [hr] at hloaded
    cases hnewest : newest gs name with
    | none => rfl
    | some g =>
      have hfound : .error (.unknownScope name) = (Grammar.ofSource g).mapError Error.grammar := by
        rwa [hnewest] at hloaded
      cases hgrammar : Grammar.ofSource g <;> rw [hgrammar] at hfound <;> cases hfound
  · intro hnewest
    rw [hnewest] at hloaded
    cases hr : r.loaded name with
    | error e =>
      rw [hr] at hloaded
      exact congrArg _ (Except.error.inj hloaded)
    | ok c =>
      rw [hr] at hloaded
      cases hloaded

/-- A document is tokenized by a session of its own with what is loaded. -/
theorem tokens_eq (h : Coherent o gs r) (name : String) (text : List Char) : r.tokens name text =
    (r.loaded name).map fun c => ((Session.mk c.grammar o {}).document text).1 := by
  unfold tokens loaded
  rw [tokenize_eq]
  cases hload : r.load name with
  | error e => rfl
  | ok p =>
    have hoptions : p.2.options = o := by
      rcases load_ok hload with ⟨-, hp⟩ | ⟨_, _, -, -, -, -, hp⟩ <;> rw [hp] <;> exact h.options
    rw [← hoptions]
    rfl

end Coherent

/-! ### The same object -/

/-- What has been loaded is kept. -/
theorem lookup_of_load (h : r.load s = .ok (c, r')) : r'.compiled.lookup s = some c := by
  rcases load_ok h with ⟨hkept, rfl⟩ | ⟨g, grammar, -, -, -, rfl, rfl⟩
  · exact hkept
  · exact Sorted.lookup_insert_self _ _ _

theorem loaded_of_lookup (h : r.compiled.lookup s = some c) : r.loaded s = .ok c := by
  unfold loaded load
  rw [h]
  rfl

/-- A compiled grammar is kept until its name is added again. -/
theorem lookup_after (h : r.compiled.lookup s = some c) (hadded : ∀ g ∈ r.addedBy call, nameOf g ≠ s) :
    (r.after call).compiled.lookup s = some c := by
  rcases r.after_cases call with
    ⟨g, hg, -, hafter⟩ | ⟨-, name, g, grammar, hnone, -, -, hafter⟩ | ⟨-, hafter⟩
  · rw [hafter, withSource, Sorted.lookup_erase_of_ne _ (hadded g hg).symm]
    exact h
  · have hne : s ≠ name := by
      rintro rfl
      simp [hnone] at h
    rw [hafter, withCompiled, Sorted.lookup_insert_of_ne _ _ hne]
    exact h
  · rwa [hafter]

theorem lookup_run : ∀ {calls : List Call} {r : Registry}, r.compiled.lookup s = some c →
    (∀ g ∈ r.added calls, nameOf g ≠ s) → (r.run calls).compiled.lookup s = some c
  | [], _, h, _ => h
  | call :: calls, r, h, hadded => by
    have first : ∀ g ∈ r.addedBy call, nameOf g ≠ s := fun g hg =>
      hadded g (List.mem_append_left _ (Option.mem_toList.mpr hg))
    have kept : (r.after call).compiled.lookup s = some c := lookup_after h first
    exact lookup_run (r := r.after call) kept fun g hg => hadded g (List.mem_append_right _ hg)

/-- All that a registry keeps or will keep for a name has been compiled after so many others. -/
def Later (n : Nat) (s : String) (r : Registry) : Prop :=
  n ≤ r.count ∧ ∀ c, r.compiled.lookup s = some c → n ≤ c.serial

theorem Later.after {n : Nat} (h : Later n s r) (call : Call) : Later n s (r.after call) := by
  rcases r.after_cases call with
    ⟨g, -, -, hafter⟩ | ⟨-, name, g, grammar, -, -, -, hafter⟩ | ⟨-, hafter⟩
  · rw [hafter]
    refine ⟨h.1, fun c hc => h.2 c ?_⟩
    by_cases hs : s = nameOf g
    · subst hs
      simp [withSource, Sorted.lookup_erase_self] at hc
    · rwa [withSource, Sorted.lookup_erase_of_ne _ hs] at hc
  · rw [hafter]
    refine ⟨Nat.le_succ_of_le h.1, fun c hc => ?_⟩
    by_cases hs : s = name
    · subst hs
      rw [withCompiled, Sorted.lookup_insert_self] at hc
      obtain rfl := Option.some.inj hc
      exact h.1
    · rw [withCompiled, Sorted.lookup_insert_of_ne _ _ hs] at hc
      exact h.2 c hc
  · rwa [hafter]

theorem count_le_after (r : Registry) (call : Call) : r.count ≤ (r.after call).count := by
  rcases r.after_cases call with ⟨_, -, -, hafter⟩ | ⟨-, _, _, _, -, -, -, hafter⟩ | ⟨-, hafter⟩
  · rw [hafter]
    exact Nat.le_refl r.count
  · rw [hafter]
    exact Nat.le_succ r.count
  · exact Nat.le_of_eq (by rw [hafter])

/-- Once a name has been added again, all that is kept for it is new. -/
theorem later_run {n : Nat} : ∀ {calls : List Call} {r : Registry}, n ≤ r.count →
    (∃ g ∈ r.added calls, nameOf g = s) → Later n s (r.run calls)
  | [], _, _, ⟨_, hg, _⟩ => absurd hg List.not_mem_nil
  | call :: calls, r, hn, ⟨g, hg, hname⟩ => by
    rcases List.mem_append.mp hg with hg | hg
    · -- This call adds the name: nothing is kept for it now, and the calls to come keep that in mind.
      refine run_induction (fun r call h => h.after call) calls ?_
      rcases r.after_cases call with ⟨g', hadded, -, hafter⟩ | ⟨hadded, -⟩ | ⟨hadded, -⟩
      · obtain rfl : g = g' := by simpa [hadded] using hg
        rw [hafter]
        refine ⟨hn, fun c hc => ?_⟩
        rw [← hname, withSource, Sorted.lookup_erase_self] at hc
        cases hc
      · simp [hadded] at hg
      · simp [hadded] at hg
    · exact later_run (r := r.after call) (Nat.le_trans hn (r.count_le_after call)) ⟨g, hg, hname⟩

theorem Later.le_serial {n : Nat} (h : Later n s r) (hc : r.loaded s = .ok c) : n ≤ c.serial := by
  unfold loaded at hc
  cases hload : r.load s with
  | error e => rw [hload] at hc; cases hc
  | ok p =>
    rw [hload] at hc
    cases hc
    rcases load_ok hload with ⟨hkept, -⟩ | ⟨_, grammar, -, -, -, hc, -⟩
    · exact h.2 p.1 hkept
    · have hserial : p.1.serial = r.count := congrArg Compiled.serial hc
      exact hserial ▸ h.1

/-! ### Answers -/

/-- **The answers of a registry** after some calls. Nothing is found for a name exactly if no grammar of that
name has been added; otherwise loading comes to what compiling the last one of them comes to. What is loaded
stays the same object until the name is added again, and is another one after that. A call that fails changes
no later answer. A document is tokenized as by a session of its own with what is loaded. -/
theorem answers_of_newest (o : Options) (calls : List Call) (s : String) :
    let start : Registry := { options := o }
    let r := start.run calls
    let gs := start.added calls
    (r.loaded s = .error (.unknownScope s) ↔ ∀ g ∈ gs, nameOf g ≠ s) ∧
    (∀ g, newest gs s = some g → (r.loaded s).map (·.grammar) = (Grammar.ofSource g).mapError .grammar) ∧
    (∀ c r', r.load s = .ok (c, r') → ∀ more : List Call,
      ((∀ g ∈ r'.added more, nameOf g ≠ s) → (r'.run more).loaded s = .ok c) ∧
      ((∃ g ∈ r'.added more, nameOf g = s) → ∀ c', (r'.run more).loaded s = .ok c' →
        c.serial < c'.serial)) ∧
    (∀ call e, r.perform call = .error e → ∀ more : List Call, ∀ text,
      (start.run (calls ++ call :: more)).loaded s = (start.run (calls ++ more)).loaded s ∧
      (start.run (calls ++ call :: more)).tokens s text = (start.run (calls ++ more)).tokens s text) ∧
    ∀ text, r.tokens s text =
      (r.loaded s).map fun c => ((Session.mk c.grammar o {}).document text).1 := by
  intro start r gs
  have coherent : Coherent o gs r := (Coherent.new o).run calls
  refine ⟨(coherent.unknownScope_iff s).trans newest_eq_none, fun g hg => ?_,
    fun c r' hload more => ⟨fun h => ?_, fun h c' hc' => ?_⟩, fun call e h more text => ?_, coherent.tokens_eq s⟩
  · rw [coherent.loaded_eq, hg]
  · exact loaded_of_lookup (lookup_run (lookup_of_load hload) h)
  · have hr' : r.after (.load s) = r' := by
      simp only [after, perform, hload]
      rfl
    have hserial : c.serial < r'.count :=
      hr' ▸ (coherent.after (.load s)).serials s c (hr' ▸ lookup_of_load hload)
    exact Nat.lt_of_lt_of_le hserial ((later_run (Nat.le_refl _) h).le_serial hc')
  · have hrun : start.run (calls ++ call :: more) = start.run (calls ++ more) := by
      rw [run_append, run_append]
      show (r.after call).run more = r.run more
      rw [after_of_error h]
    rw [hrun]
    exact ⟨rfl, rfl⟩

/-- A grammar with space around its name, and one without a pattern that takes its place. -/
def spacedSources : GrammarSource × GrammarSource :=
  ({ scopeName := " source.x\n", patterns := [{ matchPattern := some "a", name := some "letter" }] },
    { scopeName := "source.x" })

/-- The grammar is found by its name without the space, and is replaced by the other one. -/
theorem answers_of_newest_spaced :
    let r := ({} : Registry).run [.load "source.x", .add {}, .add spacedSources.1]
    ∃ c r', r.load "source.x" = .ok (c, r') ∧ (r'.run [.add {}]).loaded "source.x" = .ok c ∧
      ∃ c', (r'.run [.add spacedSources.2]).loaded "source.x" = .ok c' ∧ c.serial < c'.serial := by
  intro r
  have run : (r.load "source.x").toOption.any (fun p => decide (p.2.added [.add {}] = [] ∧
      ((p.2.added [.add spacedSources.2]).any fun g => nameOf g == "source.x") = true ∧
      ((p.2.run [.add spacedSources.2]).loaded "source.x").toOption.isSome = true)) = true := by
    decide +kernel
  obtain ⟨⟨c, r'⟩, hload, h⟩ := exists_ok_of_any run
  obtain ⟨hnone, hadded, hsome⟩ := of_decide_eq_true h
  have answers := (answers_of_newest {} [.load "source.x", .add {}, .add spacedSources.1] "source.x").2.2.1
    c r' hload
  refine ⟨c, r', hload, (answers [.add {}]).1 (by simp [hnone]), ?_⟩
  obtain ⟨g, hg, hname⟩ := List.any_eq_true.mp hadded
  have hname : nameOf g = "source.x" := by simpa using hname
  cases hlater : (r'.run [.add spacedSources.2]).loaded "source.x" with
  | error e => simp [hlater, Except.toOption] at hsome
  | ok c' => exact ⟨c', rfl, (answers [.add spacedSources.2]).2 ⟨g, hg, hname⟩ c' hlater⟩

end Registry
end ScopeLexer
