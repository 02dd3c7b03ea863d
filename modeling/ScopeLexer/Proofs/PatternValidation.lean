/-
# Patterns that are refused

When a grammar is loaded, each of its patterns is compiled with its references left out, whatever the pattern
is for; the first one that is not accepted is reported. For a pattern without references that is the pattern
as it is written, so that loading decides exactly about it. A pattern with references that is to be matched
or to begin a span is used as it is written, and loading looks at another one.

Key definitions: `Pattern.withoutReferences`, `CompileError.isPattern`, `Assembly.SparesPatterns`.
Key theorems: `Pattern.validate_eq`, `Assembly.addRule_sparesPatterns`, `Grammar.ofSource_invalidPattern_iff`,
`Grammar.patterns_accepted`, `not_patterns_accepted`.
-/
import ScopeLexer.Proofs.GrammarShape
import ScopeLexer.Proofs.Outcome

namespace ScopeLexer

open Source (RuleSource GrammarSource)

/-! ### Patterns without references -/

namespace Pattern

/-- A pattern with its references left out. -/
def withoutReferences (cs : List Char) : List Char :=
  ((pieces cs).filter fun p => p.reference?.isNone).flatMap Piece.text

/-- Where nothing was captured, nothing takes the place of a reference. -/
theorem resolve_nil (cs : List Char) : resolve cs [] [] = withoutReferences cs := by
  rw [resolve, withoutReferences]
  induction pieces cs with
  | nil => rfl
  | cons p ps ih =>
    rw [List.flatMap_cons, ih, List.filter_cons]
    cases hp : p.reference? with
    | none => simp [resolvePiece, hp]
    | some n => simp [resolvePiece, hp, captured, escapeText]

theorem withoutReferences_eq_self {cs : List Char} (h : hasBackreferences cs = false) :
    withoutReferences cs = cs := by
  rw [← resolve_nil, resolve_eq_self h]

/-- A pattern is looked at without its references. -/
theorem validate_eq (p : Pattern) :
    p.validate = (Regex.compile (withoutReferences p.source.toList)).map fun _ => () := by
  have looked : (if p.hasReferences then resolve p.source.toList [] [] else p.source.toList) =
      withoutReferences p.source.toList := by
    cases h : p.hasReferences with
    | true => rw [if_pos rfl, resolve_nil]
    | false => rw [if_neg Bool.false_ne_true, withoutReferences_eq_self h]
  rw [validate, looked]
  cases Regex.compile (withoutReferences p.source.toList) <;> rfl

/-- Where both anchors hold, the program of a pattern is that of its text. -/
theorem program_both (s : String) :
    (ofText s).program ⟨true, true⟩ = (Regex.compile s.toList).toOption := by
  rw [program_ofText, programFor, Anchors.replace_all]
  cases Regex.compile s.toList <;> rfl

end Pattern

/-! ### What assembling refuses -/

/-- Whether a grammar is refused for a pattern. -/
def CompileError.isPattern : CompileError → Bool
  | invalidPattern _ _ => true
  | _ => false

namespace Assembly

/-- Whatever the work refuses, it is no pattern. -/
def SparesPatterns {α : Type} (x : Build α) : Prop :=
  ∀ a e, x a = .error e → e.isPattern = false

namespace SparesPatterns

variable {α β : Type} {x : Build α}

theorem pure (v : α) : SparesPatterns (Pure.pure v : Build α) := fun _ _ h => by cases h

theorem bind {f : α → Build β} (hx : SparesPatterns x) (hf : ∀ v, SparesPatterns (f v)) :
    SparesPatterns (x >>= f) := by
  intro a e h
  cases hxa : x a with
  | error e' =>
    obtain rfl : e' = e := by simpa [Bind.bind, StateT.bind, Except.bind, hxa] using h
    exact hx a e' hxa
  | ok r => exact hf r.1 r.2 e (by simpa [Bind.bind, StateT.bind, Except.bind, hxa] using h)

theorem ite {c : Prop} [Decidable c] {y : Build α} (hx : SparesPatterns x) (hy : SparesPatterns y) :
    SparesPatterns (if c then x else y) := by
  split
  · exact hx
  · exact hy

end SparesPatterns

open SparesPatterns

theorem addPattern_sparesPatterns (s : String) : SparesPatterns (addPattern s) := fun _ _ h => by cases h

theorem setRule_sparesPatterns (id : RuleId) (r : Rule) : SparesPatterns (setRule id r) :=
  fun _ _ h => by cases h

theorem inView_sparesPatterns (id : RepositoryId) (view : List RepositoryId) :
    SparesPatterns (inView id view) := by
  refine SparesPatterns.ite (.pure _) fun a e h => ?_
  obtain rfl := Except.error.inj h
  rfl

theorem checkCaptures_sparesPatterns (cs : List (Nat × RuleSource)) :
    SparesPatterns (checkCaptures cs) := by
  rw [checkCaptures]
  split
  · exact .pure _
  · refine SparesPatterns.ite (fun a e h => ?_) (.pure _)
    obtain rfl := Except.error.inj h
    rfl

/-- A reference that points outside of the grammar is refused. -/
theorem reference_sparesPatterns (own text : String) :
    SparesPatterns (liftM (Reference.ofText own text) : Build Reference) := by
  intro a e h
  have herror : Reference.ofText own text = .error e := by
    cases hr : Reference.ofText own text with
    | error e' =>
      rw [hr] at h
      exact congrArg _ (Except.error.inj h)
    | ok r =>
      rw [hr] at h
      cases h
  rw [Reference.ofText] at herror
  repeat' split at herror
  all_goals cases herror <;> rfl

theorem addSpan_sparesPatterns {head : RuleHead} {content : Option ScopeName} {closing opening : String}
    {os cs : Build CaptureRules} {items : Build (List Item)} (hos : SparesPatterns os)
    (hcs : SparesPatterns cs) (hitems : SparesPatterns items) :
    SparesPatterns (addSpan head content closing opening os cs items) :=
  .bind (addPattern_sparesPatterns _) fun _ => .bind (addPattern_sparesPatterns _) fun _ =>
    .bind hos fun _ => .bind hcs fun _ => .bind hitems fun _ => .pure _

theorem addGroupItems_sparesPatterns {own : String} {r : RuleSource} {items : Build (List Item)}
    (hitems : SparesPatterns items) : SparesPatterns (addGroupItems own r items) := by
  rw [addGroupItems]
  split
  · exact .bind (reference_sparesPatterns _ _) fun _ => .pure _
  · exact hitems

theorem addBody_sparesPatterns {own : String} {head : RuleHead} {r : RuleSource}
    {captures opening ending going : Build CaptureRules} {items : Build (List Item)}
    (hcaptures : SparesPatterns captures) (hopening : SparesPatterns opening)
    (hending : SparesPatterns ending) (hgoing : SparesPatterns going) (hitems : SparesPatterns items) :
    SparesPatterns (addBody own head r captures opening ending going items) := by
  rw [addBody]
  split
  · exact .bind (addPattern_sparesPatterns _) fun _ => .bind hcaptures fun _ => .pure _
  · split
    · exact .bind (addSpan_sparesPatterns hopening hgoing hitems) fun _ => .pure _
    · exact .bind (addSpan_sparesPatterns hopening hending hitems) fun _ => .pure _
    · exact .bind (addPattern_sparesPatterns _) fun _ => .bind hopening fun _ => .pure _
  · exact .ite (.pure _) (.bind (addGroupItems_sparesPatterns hitems) fun _ => .pure _)

mutual

/-- **Patterns are not looked at while a rule is added.** -/
theorem addRule_sparesPatterns (own : String) (view : List RepositoryId) :
    ∀ r : RuleSource, SparesPatterns (addRule own view r)
  | { reference := rf, name := nm, contentName := cn, matchPattern := mp, beginPattern := bp,
      endPattern := ep, whilePattern := wp, captures := cs, beginCaptures := bcs,
      endCaptures := ecs, whileCaptures := wcs, applyEndPatternLast := al, appliesLineBreak := lb,
      disabled := ds, patterns := ps, repository := rp, extra := ex } => by
    rw [addRule]
    have captures := fun view => addChecked_sparesPatterns own view cs
    refine .bind (fun _ _ h => by cases h) fun id =>
      .bind (addRepository_sparesPatterns own view rp) fun view => ?_
    refine .bind (addBody_sparesPatterns (captures view) ?_ ?_ ?_
      (addItems_sparesPatterns own view ps)) fun rule =>
        .bind (setRule_sparesPatterns id rule) fun _ => .pure _
    · exact .ite (captures view) (addChecked_sparesPatterns own view bcs)
    · exact .ite (captures view) (addChecked_sparesPatterns own view ecs)
    · exact .ite (captures view) (addChecked_sparesPatterns own view wcs)
  termination_by structural r => r

theorem addRepository_sparesPatterns (own : String) (view : List RepositoryId) :
    ∀ es : List (String × RuleSource), SparesPatterns (addRepository own view es)
  | [] => .pure _
  | e :: es => by
    rw [addRepository]
    refine .bind (fun _ _ h => by cases h) fun id => .bind (inView_sparesPatterns id view) fun view => ?_
    exact .bind (addEntry_sparesPatterns own view e) fun _ =>
      .bind (addEntries_sparesPatterns own view es) fun _ => .bind (fun _ _ h => by cases h) fun _ => .pure _
  termination_by structural es => es

theorem addEntries_sparesPatterns (own : String) (view : List RepositoryId) :
    ∀ es : List (String × RuleSource), SparesPatterns (addEntries own view es)
  | [] => .pure _
  | e :: es => .bind (addEntry_sparesPatterns own view e) fun _ =>
      .bind (addEntries_sparesPatterns own view es) fun _ => .pure _
  termination_by structural es => es

theorem addEntry_sparesPatterns (own : String) (view : List RepositoryId) :
    ∀ e : String × RuleSource, SparesPatterns (addEntry own view e)
  | (_, r) => .bind (addRule_sparesPatterns own view r) fun _ => .pure _
  termination_by structural e => e

theorem addChecked_sparesPatterns (own : String) (view : List RepositoryId) :
    ∀ cs : List (Nat × RuleSource), SparesPatterns (addChecked own view cs)
  | [] => .pure _
  | c :: cs => .bind (checkCaptures_sparesPatterns _) fun _ =>
      .bind (addCapture_sparesPatterns own view c) fun _ =>
        .bind (addCaptures_sparesPatterns own view cs) fun _ => .pure _
  termination_by structural cs => cs

theorem addCaptures_sparesPatterns (own : String) (view : List RepositoryId) :
    ∀ cs : List (Nat × RuleSource), SparesPatterns (addCaptures own view cs)
  | [] => .pure _
  | c :: cs => .bind (addCapture_sparesPatterns own view c) fun _ =>
      .bind (addCaptures_sparesPatterns own view cs) fun _ => .pure _
  termination_by structural cs => cs

theorem addCapture_sparesPatterns (own : String) (view : List RepositoryId) :
    ∀ c : Nat × RuleSource, SparesPatterns (addCapture own view c)
  | (_, r) => .bind (addRule_sparesPatterns own view r) fun _ => .pure _
  termination_by structural c => c

theorem addItems_sparesPatterns (own : String) (view : List RepositoryId) :
    ∀ rs : List RuleSource, SparesPatterns (addItems own view rs)
  | [] => .pure _
  | r :: rs => by
    rw [addItems]
    have rest := addItems_sparesPatterns own view rs
    have more : ∀ i, SparesPatterns (do return i :: (← addItems own view rs)) :=
      fun _ => .bind rest fun _ => .pure _
    refine .ite rest ?_
    dsimp only
    split
    · exact .bind (reference_sparesPatterns _ _) fun _ => .bind (.pure _) more
    · exact .bind (addRule_sparesPatterns own view r) fun _ => .bind (.pure _) more
  termination_by structural rs => rs

end

theorem addGrammar_sparesPatterns (own : String) (s : GrammarSource) :
    SparesPatterns (addGrammar own s) :=
  .bind (fun _ _ h => by cases h) fun root => .bind (addRepository_sparesPatterns own [] s.repository)
    fun view => .bind (addItems_sparesPatterns own view s.patterns) fun _ =>
      .bind (setRule_sparesPatterns root _) fun _ => .pure _

end Assembly

/-! ### What checking refuses -/

/-- A check of several things fails with what the first one of them that fails does. -/
theorem forM_eq_error {ε α : Type} {f : α → Except ε Unit} {e : ε} {xs : List α} :
    xs.forM f = .error e ↔ ∃ before x after, xs = before ++ x :: after ∧
      (∀ y ∈ before, f y = .ok ()) ∧ f x = .error e := by
  induction xs with
  | nil =>
    constructor
    · rintro ⟨⟩
    · rintro ⟨before, x, after, hxs, -⟩
      simp at hxs
  | cons x xs ih =>
    rw [List.forM]
    cases hx : f x with
    | error e' =>
      constructor
      · intro h
        obtain rfl : e' = e := Except.error.inj h
        exact ⟨[], x, xs, rfl, List.forall_mem_nil _, hx⟩
      · rintro ⟨before, y, after, hxs, hbefore, hy⟩
        cases before with
        | nil =>
          obtain ⟨rfl, rfl⟩ := List.cons.inj hxs
          exact hx.symm.trans hy
        | cons z before =>
          obtain ⟨rfl, rfl⟩ := List.cons.inj hxs
          cases hx.symm.trans (hbefore _ List.mem_cons_self)
    | ok u =>
      refine ih.trans ⟨?_, ?_⟩
      · rintro ⟨before, y, after, rfl, hbefore, hy⟩
        exact ⟨x :: before, y, after, rfl, List.forall_mem_cons.mpr ⟨hx, hbefore⟩, hy⟩
      · rintro ⟨before, y, after, hxs, hbefore, hy⟩
        cases before with
        | nil =>
          obtain ⟨rfl, rfl⟩ := List.cons.inj hxs
          cases hx.symm.trans hy
        | cons z before =>
          obtain ⟨rfl, rfl⟩ := List.cons.inj hxs
          exact ⟨before, y, after, rfl, (List.forall_mem_cons.mp hbefore).2, hy⟩

/-- A check that never comes to a cause. -/
theorem forM_ne_error {ε α : Type} {f : α → Except ε Unit} {e : ε} (h : ∀ x, f x ≠ .error e)
    (xs : List α) : xs.forM f ≠ .error e := fun hxs =>
  have ⟨_, x, _, _, _, hx⟩ := forM_eq_error.mp hxs
  h x hx

namespace Grammar

variable {g : Grammar} {s : GrammarSource} {text : String} {cause : Regex.Error}

/-- Only the check of the patterns refuses one. -/
theorem check_invalidPattern_iff : g.check = .error (.invalidPattern text cause) ↔
    g.checkPatterns = .error (.invalidPattern text cause) := by
  have references : g.checkReferences ≠ .error (.invalidPattern text cause) := by
    refine forM_ne_error (fun r => forM_ne_error (fun i => ?_) _) _
    rcases i with id | ref
    · rintro ⟨⟩
    · dsimp only
      split <;> rintro ⟨⟩
  have cycles : g.checkCycles ≠ .error (.invalidPattern text cause) := by
    refine forM_ne_error (fun id => ?_) _
    split <;> rintro ⟨⟩
  rw [check]
  cases g.checkPatterns with
  | error e => exact Iff.rfl
  | ok u =>
    constructor
    · intro h
      cases hr : g.checkReferences with
      | error e => exact absurd (by simpa [bind, Except.bind, hr] using h) (hr ▸ references)
      | ok u => exact absurd (by simpa [bind, Except.bind, hr] using h) cycles
    · rintro ⟨⟩

theorem checkPatterns_invalidPattern_iff : g.checkPatterns = .error (.invalidPattern text cause) ↔
    ∃ before p after, g.patterns.toList = before ++ p :: after ∧
      (∀ q ∈ before, ∃ program, Regex.compile (Pattern.withoutReferences q.source.toList) = .ok program) ∧
        p.source = text ∧ Regex.compile (Pattern.withoutReferences text.toList) = .error cause := by
  rw [checkPatterns, forM_eq_error]
  refine exists_congr fun before => exists_congr fun p => exists_congr fun after =>
    and_congr_right fun _ => and_congr (forall₂_congr fun q _ => ?_) ?_
  · rw [Pattern.validate_eq]
    cases Regex.compile (Pattern.withoutReferences q.source.toList) with
    | ok program => exact ⟨fun _ => ⟨program, rfl⟩, fun _ => rfl⟩
    | error e => exact ⟨nofun, fun ⟨_, h⟩ => nomatch h⟩
  · rw [Pattern.validate_eq]
    constructor
    · intro h
      cases hc : Regex.compile (Pattern.withoutReferences p.source.toList) with
      | ok program =>
        rw [hc] at h
        cases h
      | error e =>
        rw [hc] at h
        obtain ⟨rfl, rfl⟩ := CompileError.invalidPattern.inj (Except.error.inj h)
        exact ⟨rfl, hc⟩
    · rintro ⟨rfl, hc⟩
      rw [hc]
      rfl

/-- **Which pattern is refused**: of those of a grammar that could be assembled, the first one that is not
accepted with its references left out. -/
theorem ofSource_invalidPattern_iff : ofSource s = .error (.invalidPattern text cause) ↔
    ∃ g, Assembly.ofSource s = .ok g ∧ ∃ before p after, g.patterns.toList = before ++ p :: after ∧
      (∀ q ∈ before, ∃ program, Regex.compile (Pattern.withoutReferences q.source.toList) = .ok program) ∧
        p.source = text ∧ Regex.compile (Pattern.withoutReferences text.toList) = .error cause := by
  have assembled : Assembly.ofSource s ≠ .error (.invalidPattern text cause) := by
    unfold Assembly.ofSource
    intro h
    simp only [bind, Except.bind] at h
    split at h
    · cases h
    · split at h
      · rename_i e he
        obtain rfl := Except.error.inj h
        exact Bool.noConfusion (Assembly.addGrammar_sparesPatterns _ s _ _ he)
      · cases h
  unfold ofSource
  cases ha : Assembly.ofSource s with
  | error e =>
    refine ⟨fun h => absurd (ha.trans h) assembled, fun ⟨_, h, _⟩ => nomatch h⟩
  | ok g =>
    have hcheck : (do g.check; return g : Except CompileError Grammar) =
        .error (.invalidPattern text cause) ↔ g.check = .error (.invalidPattern text cause) := by
      cases g.check with
      | error e => simp [bind, Except.bind]
      | ok u => exact ⟨nofun, nofun⟩
    refine hcheck.trans (check_invalidPattern_iff.trans (checkPatterns_invalidPattern_iff.trans ?_))
    exact ⟨fun h => ⟨g, rfl, h⟩, fun ⟨g', hg', h⟩ => Except.ok.inj hg' ▸ h⟩

/-- A pattern of a grammar in use is accepted with its references left out. -/
theorem pattern_accepted (h : ofSource s = .ok g) (p : PatternId) :
    ∃ program, Regex.compile (Pattern.withoutReferences (g.pattern p).source.toList) = .ok program := by
  obtain ⟨root, b, hb⟩ := ofSource_ok h
  have hpatterns : g.checkPatterns = .ok () := by
    have hcheck := hb.check
    rw [check] at hcheck
    cases hc : g.checkPatterns with
    | error e => simp [hc, bind, Except.bind] at hcheck
    | ok u => rfl
  cases hp : g.patterns[p]? with
  | none =>
    have hdefault : g.pattern p = default := by simp [pattern, hp]
    rw [hdefault]
    have accepted : (Regex.compile (Pattern.withoutReferences (default : Pattern).source.toList)).toOption.any
        (fun _ => true) = true := by
      decide +kernel
    exact (exists_ok_of_any accepted).imp fun _ h => h.1
  | some q =>
    have hq : g.pattern p = q := by simp [pattern, hp]
    have accepted := forM_ok hpatterns q (Array.mem_toList_iff.mpr (Array.mem_of_getElem? hp))
    rw [Pattern.validate_eq] at accepted
    rw [hq]
    cases hc : Regex.compile (Pattern.withoutReferences q.source.toList) with
    | ok program => exact ⟨program, rfl⟩
    | error e =>
      rw [hc] at accepted
      cases accepted

/-- **What loading knows about patterns.** Every pattern that a rule of a grammar in use is found by is
accepted with its references left out, so that one without references is accepted as it is written and has a
program for when both anchors hold. A grammar is refused for the first of its patterns that is not accepted
with its references left out, so that one without references is refused only if it is not accepted as it is
written. -/
theorem patterns_accepted (s : GrammarSource) :
    (∀ g, ofSource s = .ok g → ∀ id p, Rule.entry? (g.rule id) = some p →
      let text := (g.pattern p).source.toList
      (∃ program, Regex.compile (Pattern.withoutReferences text) = .ok program) ∧
      (Pattern.hasBackreferences text = false → ∃ program, Regex.compile text = .ok program ∧
        (g.pattern p).program ⟨true, true⟩ = some program)) ∧
    ∀ text cause,
      (ofSource s = .error (.invalidPattern text cause) ↔ ∃ g, Assembly.ofSource s = .ok g ∧
        ∃ before p after, g.patterns.toList = before ++ p :: after ∧
          (∀ q ∈ before, ∃ program,
            Regex.compile (Pattern.withoutReferences q.source.toList) = .ok program) ∧
          p.source = text ∧ Regex.compile (Pattern.withoutReferences text.toList) = .error cause) ∧
      (ofSource s = .error (.invalidPattern text cause) → Pattern.hasBackreferences text.toList = false →
        Regex.compile text.toList = .error cause) := by
  refine ⟨fun g hg id p _ => ?_, fun text cause => ⟨ofSource_invalidPattern_iff, fun h hplain => ?_⟩⟩
  · obtain ⟨program, hprogram⟩ := pattern_accepted hg p
    refine ⟨⟨program, hprogram⟩, fun hplain => ⟨program, ?_, ?_⟩⟩
    · rwa [Pattern.withoutReferences_eq_self hplain] at hprogram
    · rw [Pattern.withoutReferences_eq_self hplain] at hprogram
      have htext : g.pattern p = Pattern.ofText (g.pattern p).source := by
        cases hp : g.patterns[p]? with
        | none =>
          have hdefault : g.pattern p = default := by simp [pattern, hp]
          rw [hdefault]
          rfl
        | some q =>
          have hq : g.pattern p = q := by simp [pattern, hp]
          rw [hq]
          exact (shape_of_ofSource hg).patterns q (Array.mem_of_getElem? hp)
      rw [htext, Pattern.program_both, hprogram]
      rfl
  · obtain ⟨_, _, _, _, _, _, _, _, hcause⟩ := ofSource_invalidPattern_iff.mp h
    rwa [Pattern.withoutReferences_eq_self hplain] at hcause

end Grammar

/-! ### Patterns with references -/

namespace Source

/-- A pattern that refers to a group it does not have. -/
def strayReference : GrammarSource where
  scopeName := "source.stray"
  patterns := [{ name := some "again.stray", matchPattern := some "\\1" }]

/-- A pattern that repeats the text of its own group. -/
def ownReference : GrammarSource where
  scopeName := "source.own"
  patterns := [{ name := some "again.own", matchPattern := some "(a)(?:\\1+)" }]

end Source

/-- Loading does not decide about patterns as they are written: neither is every pattern that a rule is found
by accepted, nor is every pattern to be matched that is refused one that is not accepted. -/
theorem not_patterns_accepted :
    (¬ ∀ (s : GrammarSource) (g : Grammar), Grammar.ofSource s = .ok g →
      ∀ id p, Rule.entry? (g.rule id) = some p → ((g.pattern p).program ⟨true, true⟩).isSome = true) ∧
    ¬ ∀ (s : GrammarSource) (text : String) (cause : Regex.Error),
      Grammar.ofSource s = .error (.invalidPattern text cause) →
        (∃ r ∈ s.patterns, r.matchPattern = some text) → (Regex.compile text.toList).toOption = none := by
  constructor
  · intro compiles
    have run : (Grammar.ofSource Source.strayReference).toOption.any (fun g => decide (
        Rule.entry? (g.rule 1) = some 0 ∧ ((g.pattern 0).program ⟨true, true⟩).isSome = false)) = true := by
      decide +kernel
    obtain ⟨g, hg, h⟩ := exists_ok_of_any run
    obtain ⟨hentry, hnone⟩ := of_decide_eq_true h
    exact Bool.noConfusion (hnone.symm.trans (compiles _ g hg 1 0 hentry))
  · intro uncompilable
    have run : (match Grammar.ofSource Source.ownReference with
        | .error e => decide (e = .invalidPattern "(a)(?:\\1+)" .repeatNothing)
        | .ok _ => false) = true := by
      decide +kernel
    have accepted : (Regex.compile "(a)(?:\\1+)".toList).toOption.isSome = true := by decide +kernel
    split at run
    · rename_i e he
      obtain rfl := of_decide_eq_true run
      have refused := uncompilable _ _ _ he ⟨_, List.mem_cons_self, rfl⟩
      rw [refused] at accepted
      cases accepted
    · cases run

end ScopeLexer
