/-
# Groups behind the match

A group within a lookahead may begin behind the match, and then it has no scopes. Groups have the order of
their brackets and not of their places, so that the groups after such a one may lie within the match again.
The sweep ends with the first group that has a rule and begins behind the match: of the rules from there on
nothing is used, wherever their groups lie. So a match can do without its groups that begin behind it, as long
as none of those after the first of them would have had a token of its own.

Key definitions: `groupsUpTo`, `Sweep.Idle`.
Key theorems: `Sweep.run_reached`, `Sweep.run_groupsUpTo`, `Scanner.sweep_groupsUpTo`.
-/
import ScopeLexer.Proofs.CarriedStacks
import ScopeLexer.Proofs.SweepSteps

namespace ScopeLexer

open Regex (Captures)

/-- The groups of a match without those that begin behind an offset. -/
def groupsUpTo (n : Nat) (captures : Captures) : Captures :=
  captures.map fun group => group.filter fun span => decide (span.1 ≤ n)

theorem groupsUpTo_cons_of_le {n : Nat} {span : Nat × Nat} {captures : Captures} (h : span.1 ≤ n) :
    groupsUpTo n (some span :: captures) = some span :: groupsUpTo n captures := by
  simp [groupsUpTo, h]

namespace Sweep

variable {m : Type → Type} (w : Sweep m)

/-- A group that has no scopes wherever it stands: it has no rule or no part in the match, it is empty, or it
begins behind the match. -/
def Idle (e : GroupEntry) : Prop :=
  ∀ id start stop, e = (some id, some (start, stop)) → w.matchEnd < start ∨ start = stop

variable [Monad m]

/-- The groups that have no scopes are as good as none. -/
theorem run_idle : ∀ {entries : List GroupEntry} (groups : OpenGroups) (ts : Tokens),
    (∀ e ∈ entries, w.Idle e) → w.run entries groups ts = pure (closeAll groups ts)
  | [], _, _, _ => rfl
  | (none, _) :: rest, groups, ts, h => by
    unfold run
    exact run_idle groups ts fun e he => h e (List.mem_cons_of_mem _ he)
  | (some _, none) :: rest, groups, ts, h => by
    unfold run
    exact run_idle groups ts fun e he => h e (List.mem_cons_of_mem _ he)
  | (some id, some (start, stop)) :: rest, groups, ts, h => by
    unfold run
    split
    · rfl
    · rename_i hin
      rcases h _ List.mem_cons_self id start stop rfl with hbehind | hempty
      · exact absurd hbehind hin
      · rw [if_pos hempty]
        exact run_idle groups ts fun e he => h e (List.mem_cons_of_mem _ he)

/-- What a sweep makes of the first group is told apart from the others. -/
theorem run_cons_congr {e : GroupEntry} {rest rest' : List GroupEntry}
    (h : ∀ groups ts, w.run rest groups ts = w.run rest' groups ts) (groups : OpenGroups) (ts : Tokens) :
    w.run (e :: rest) groups ts = w.run (e :: rest') groups ts := by
  obtain ⟨_ | id, _ | ⟨start, stop⟩⟩ := e
  · exact h groups ts
  · exact h groups ts
  · exact h groups ts
  · unfold run
    simp only [h]

/-- **A sweep is one over the groups that it comes to.** -/
theorem run_reached (entries : List GroupEntry) : ∀ (groups : OpenGroups) (ts : Tokens),
    w.run entries groups ts = w.run (w.reached entries) groups ts := by
  induction entries with
  | nil => exact fun _ _ => rfl
  | cons e rest ih =>
    intro groups ts
    cases hends : w.endsWith e with
    | true =>
      rw [reached_cons_end hends]
      obtain ⟨_ | id, _ | ⟨start, stop⟩⟩ := e <;> simp only [endsWith, reduceCtorEq] at hends
      unfold run
      exact if_pos (of_decide_eq_true hends)
    | false =>
      rw [reached_cons hends]
      exact w.run_cons_congr ih groups ts

/-- **A sweep can do without the groups that begin behind the match**, if those that it does not come to have
no scopes in any case. -/
theorem run_groupsUpTo : ∀ {entries : List GroupEntry} (groups : OpenGroups) (ts : Tokens),
    (∀ e ∈ w.unreached entries, w.Idle e) → w.run entries groups ts =
      w.run (entries.map fun e => (e.1, e.2.filter fun span => decide (span.1 ≤ w.matchEnd))) groups ts := by
  intro entries
  induction entries with
  | nil => exact fun _ _ _ => rfl
  | cons e rest ih =>
    intro groups ts hidle
    cases hends : w.endsWith e with
    | true =>
      rw [unreached_cons_end hends] at hidle
      rw [run_idle w groups ts hidle, run_idle w groups ts]
      intro e' he' id start stop heq
      obtain ⟨e, he, rfl⟩ := List.mem_map.mp he'
      obtain ⟨hrule, hspan⟩ := Prod.mk.inj heq
      obtain ⟨hspan, -⟩ := Option.filter_eq_some_iff.mp hspan
      exact hidle e he id start stop (Prod.ext hrule hspan)
    | false =>
      rw [unreached_cons hends] at hidle
      have ih := fun groups ts => ih groups ts hidle
      obtain ⟨_ | id, _ | ⟨start, stop⟩⟩ := e
      · exact ih groups ts
      · unfold run
        exact ih groups ts
      · exact ih groups ts
      · have hin : ¬ w.matchEnd < start := of_decide_eq_false hends
        rw [List.map_cons, Option.filter_some_pos (by simpa using hin)]
        exact w.run_cons_congr ih groups ts

/-- The groups of a match matter to the names of rules only, if those that are swept stay what they are. -/
theorem run_withCaptures {captures : Captures}
    (hend : Sweep.matchEnd { w with captures := captures } = w.matchEnd) :
    ∀ {entries : List GroupEntry} (groups : OpenGroups) (ts : Tokens),
      (∀ id span, (some id, span) ∈ entries →
        (w.grammar.rule id).nameScopes w.line captures = (w.grammar.rule id).nameScopes w.line w.captures ∧
        (w.grammar.rule id).contentScopes w.line captures =
          (w.grammar.rule id).contentScopes w.line w.captures) →
        run { w with captures := captures } entries groups ts = w.run entries groups ts := by
  intro entries
  induction entries with
  | nil => exact fun _ _ _ => rfl
  | cons e rest ih =>
    intro groups ts hnames
    have ih := fun groups ts => ih groups ts fun id span he => hnames id span (List.mem_cons_of_mem _ he)
    obtain ⟨_ | id, _ | ⟨start, stop⟩⟩ := e
    · exact ih groups ts
    · exact ih groups ts
    · exact ih groups ts
    · obtain ⟨hname, hcontent⟩ := hnames id _ List.mem_cons_self
      unfold run
      simp only [hend, group, hname, hcontent, ih]

end Sweep

/-! ### Matches -/

theorem take_zip_left : ∀ (n : Nat) (rules : CaptureRules) (captures : Captures),
    (rules.zip captures).take n = (rules.take n).zip captures
  | 0, _, _ => rfl
  | _ + 1, [], _ => rfl
  | _ + 1, _ :: _, [] => rfl
  | n + 1, _ :: rules, _ :: captures => congrArg _ (take_zip_left n rules captures)

namespace Scanner

variable {m : Type → Type} [Monad m] (sc : Scanner m) (again : Option (Again m)) (stack : Stack)
  (line : List Char) (firstLine : Bool)

/-- **Groups behind the match.** A sweep uses no rule from the first group on that has one and begins behind the
match. If of these groups none has scopes in any case, the sweep comes to the same tokens over the groups of
the match without those that begin behind it; and so it does where the match itself is without them, as long
as the names of the rules are built from none of their texts. -/
theorem sweep_groupsUpTo (rules : CaptureRules) (captures : Captures) (ts : Tokens) :
    let w := sc.sweepOver again stack line firstLine captures
    let near := groupsUpTo w.matchEnd captures
    sc.sweep again stack line firstLine rules captures ts =
        sc.sweep again stack line firstLine (rules.take (w.reached (rules.zip captures)).length) captures ts ∧
    ((∀ e ∈ w.unreached (rules.zip captures), w.Idle e) →
      sc.sweep again stack line firstLine rules captures ts = w.run (rules.zip near) [] ts ∧
      ((∀ span, captures.head? = some (some span) → span.1 ≤ span.2) →
        (∀ id, some id ∈ rules →
          (sc.grammar.rule id).nameScopes line near = (sc.grammar.rule id).nameScopes line captures ∧
          (sc.grammar.rule id).contentScopes line near = (sc.grammar.rule id).contentScopes line captures) →
        sc.sweep again stack line firstLine rules near ts =
          sc.sweep again stack line firstLine rules captures ts)) := by
  intro w near
  have hreached : w.reached (rules.zip captures) =
      (rules.take (w.reached (rules.zip captures)).length).zip captures := by
    rw [← take_zip_left]
    exact List.prefix_iff_eq_take.mp (List.takeWhile_prefix _)
  have hzip : (rules.zip captures).map
      (fun e => (e.1, e.2.filter fun span => decide (span.1 ≤ w.matchEnd))) = rules.zip near :=
    (List.zip_map_right ..).symm
  refine ⟨?_, fun hidle => ?_⟩
  · rw [sweep_eq_run, sweep_eq_run, ← hreached]
    exact w.run_reached _ [] ts
  · have hnear : sc.sweep again stack line firstLine rules captures ts = w.run (rules.zip near) [] ts := by
      rw [sweep_eq_run, ← hzip]
      exact w.run_groupsUpTo [] ts hidle
    refine ⟨hnear, fun hmatch hnames => ?_⟩
    have hend : Sweep.matchEnd { w with captures := near } = w.matchEnd := by
      show (sc.sweepOver again stack line firstLine (groupsUpTo w.matchEnd captures)).matchEnd = w.matchEnd
      cases captures with
      | nil => rfl
      | cons whole others =>
        cases whole with
        | none => rfl
        | some span =>
          have hin : span.1 ≤ w.matchEnd := hmatch span rfl
          rw [groupsUpTo_cons_of_le hin]
          rfl
    rw [hnear, sweep_eq_run]
    refine w.run_withCaptures hend [] ts fun id span he => ?_
    exact hnames id (List.of_mem_zip he).1

end Scanner

/-! ### An example -/

/-- A letter with a letter that stands further on, which has the first pair of brackets. -/
def Source.farText : Source.GrammarSource where
  scopeName := "source.far"
  patterns := [{
    matchPattern := some "(?=.*(c))(a)"
    captures := [(1, { name := some "far.far" }), (2, { name := some "near.far" })] }]

/-- Where the group further on is the last one, the match can do without it. -/
theorem sweep_groupsUpTo_farText : ∃ g, Grammar.ofSource Source.farText = .ok g ∧
    let sc := (Means.direct g {}).scanner g 64
    let rules : CaptureRules := [none, some 3, some 2]
    let captures : Captures := [some (0, 1), some (0, 1), some (2, 3)]
    let line := ['a', 'b', 'c']
    let w := sc.sweepOver none (.root g) line true captures
    (∀ e ∈ w.unreached (rules.zip captures), w.Idle e) ∧
    (∀ span, captures.head? = some (some span) → span.1 ≤ span.2) ∧
    (∀ id, some id ∈ rules →
      (g.rule id).nameScopes line [some (0, 1), some (0, 1), none] = (g.rule id).nameScopes line captures ∧
      (g.rule id).contentScopes line [some (0, 1), some (0, 1), none] =
        (g.rule id).contentScopes line captures) ∧
    sc.sweep none (.root g) line true rules [some (0, 1), some (0, 1), none] ⟨[], 0⟩ =
      sc.sweep none (.root g) line true rules captures ⟨[], 0⟩ := by
  have run : (Grammar.ofSource Source.farText).toOption.any (fun g => [2, 3].all fun id => decide (
      (g.rule id).nameScopes ['a', 'b', 'c'] [some (0, 1), some (0, 1), none] =
        (g.rule id).nameScopes ['a', 'b', 'c'] [some (0, 1), some (0, 1), some (2, 3)] ∧
      (g.rule id).contentScopes ['a', 'b', 'c'] [some (0, 1), some (0, 1), none] =
        (g.rule id).contentScopes ['a', 'b', 'c'] [some (0, 1), some (0, 1), some (2, 3)])) = true := by
    decide +kernel
  obtain ⟨g, hg, h⟩ := exists_ok_of_any run
  refine ⟨g, hg, ?_⟩
  intro sc rules captures line w
  have hidle : ∀ e ∈ w.unreached (rules.zip captures), w.Idle e := by
    intro e he id start stop heq
    obtain rfl : e = (some 2, some (2, 3)) := List.mem_singleton.mp he
    cases heq
    exact .inl (show 1 < 2 by decide)
  have hmatch : ∀ span, captures.head? = some (some span) → span.1 ≤ span.2 := by
    rintro span ⟨⟩
    decide
  have hnames : ∀ id, some id ∈ rules →
      (g.rule id).nameScopes line [some (0, 1), some (0, 1), none] = (g.rule id).nameScopes line captures ∧
      (g.rule id).contentScopes line [some (0, 1), some (0, 1), none] =
        (g.rule id).contentScopes line captures := by
    intro id hid
    have hmem : id ∈ [2, 3] := by simpa [rules, or_comm] using hid
    exact of_decide_eq_true (List.all_eq_true.mp h id hmem)
  refine ⟨hidle, hmatch, hnames, ?_⟩
  exact ((sc.sweep_groupsUpTo none (.root g) line true rules captures ⟨[], 0⟩).2 hidle).2 hmatch hnames

/-- A match cannot always do without its groups that begin behind it, even if no name is built from them. -/
theorem not_sweep_groupsUpTo : ¬ ∀ (source : Source.GrammarSource) (g : Grammar),
    Grammar.ofSource source = .ok g → ∀ (stack : Stack) (line : List Char) (firstLine : Bool)
      (rules : CaptureRules) (captures : Captures) (ts : Tokens) (start stop : Nat),
      captures.head? = some (some (start, stop)) → start ≤ stop →
      (∀ id, some id ∈ rules → ∀ n, (g.rule id).name? = some n → n.hasPlaceholders = false) →
        ((Means.direct g {}).scanner g 64).sweep none stack line firstLine rules captures ts =
          ((Means.direct g {}).scanner g 64).sweep none stack line firstLine rules
            (groupsUpTo stop captures) ts := by
  intro dispensable
  have run : (Grammar.ofSource Source.farText).toOption.any (fun g =>
      let sc := (Means.direct g {}).scanner g 64
      let rules : CaptureRules := [none, some 2, some 3]
      let captures : Captures := [some (0, 1), some (2, 3), some (0, 1)]
      decide (([2, 3].all fun id => (g.rule id).name?.all (!·.hasPlaceholders)) = true ∧
        Id.run (sc.sweep none (.root g) ['a', 'b', 'c'] true rules captures ⟨[], 0⟩) ≠
          Id.run (sc.sweep none (.root g) ['a', 'b', 'c'] true rules (groupsUpTo 1 captures) ⟨[], 0⟩))) =
        true := by
    decide +kernel
  obtain ⟨g, hg, h⟩ := exists_ok_of_any run
  obtain ⟨hplain, hne⟩ := of_decide_eq_true h
  refine hne (dispensable _ g hg (.root g) _ true _ _ ⟨[], 0⟩ 0 1 rfl (Nat.zero_le _) fun id hid n hn => ?_)
  have hmem : id ∈ [2, 3] := by simpa using hid
  simpa [hn] using List.all_eq_true.mp hplain id hmem

end ScopeLexer
