/-
# Spans that continue

At the beginning of a line the spans that must continue are asked one after the other, from the root upward.
Each has to match where the one before it has ended, the first one at the beginning of the line; what matches
where depends on this offset, for the anchors of a pattern hold or not by where the last match ended and
whether anything has been passed. The stack is kept if all match. Otherwise it is cut off below the first one
that does not, whatever is above it. The tokens cover what the matches have passed, as long as no group of a
match reaches beyond it.

A session remembers what it has worked out. That changes nothing, so all this is told of a scanner that
remembers nothing, and holds for every session in use.

Key definitions: `Grammar.scanner`, `Frame.goesOn?`, `Stack.toContinue`, `Continues`.
Key theorems: `Session.enter_direct`, `Grammar.sweep_direct`, `Scanner.continueSpans_continues`,
`Session.resume_continues`.
-/
import ScopeLexer.Proofs.CacheTransparency
import ScopeLexer.Proofs.MatchReach

namespace ScopeLexer

open Regex (Captures Cursor)
open Text (width)

/-! ### A scanner that remembers nothing -/

/-- The scanner of a grammar that works everything out anew. -/
def Grammar.scanner (g : Grammar) (o : Options) : Scanner Id :=
  (Means.direct g o).scanner g o.maxStalled

namespace Scanner

theorem againAt_linked {m n : Type → Type} [Monad m] [Monad n] {K : Link m n} {L : Likeness}
    {sc : Scanner m} {sc' : Scanner n} (hs : Linked K L sc sc') (levels : Nat) :
    Option.Rel (Again.Linked K L) (sc.againAt levels) (sc'.againAt levels) := by
  cases levels with
  | zero => exact .none
  | succ levels =>
    refine .some fun h text pos firstLine => ?_
    exact K.bind (scan_linked hs levels text pos firstLine h nofun) fun _ _ hr => K.pure hr.1

theorem Continued.Alike.eq {k k' : Continued} (h : k.Alike .same k') : k = k' := by
  obtain ⟨tokens, stack, pos, anchor, firstLine⟩ := k
  obtain ⟨tokens', stack', pos', anchor', firstLine'⟩ := k'
  obtain ⟨htokens, hstack, hpos, hanchor, hfirst⟩ := h
  obtain rfl : stack = stack' := hstack.eq
  obtain rfl : tokens = tokens' := htokens
  obtain rfl : pos = pos' := hpos
  obtain rfl : anchor = anchor' := hanchor
  obtain rfl : firstLine = firstLine' := hfirst
  rfl

end Scanner

/-- Whatever lines there have been, a session remembers only what would be worked out. -/
theorem Session.sound_used (g : Grammar) (o : Options) (calls : List (List Char × Option Stack)) :
    let s := (Session.mk g o {}).after calls
    s.memory.Sound s.grammar := by
  intro s
  rw [Session.grammar_after]
  exact Session.after_sound (s := Session.mk g o {}) (Memory.sound_empty g) calls

/-- Where a line begins within a stack, a session with a sound memory stands where it would without one. -/
theorem Session.enter_direct {s : Session} (hs : s.memory.Sound s.grammar) (levels : Nat) (stack : Stack)
    (line : List Char) (pos : Nat) (firstLine continuing : Bool) :
    (s.scanner.enter (s.scanner.againAt levels) stack line pos firstLine continuing s.memory).1 =
      s.direct.enter (s.direct.againAt levels) stack line pos firstLine continuing :=
  Scanner.Continued.Alike.eq (Scanner.enter_linked s.scanner_linked
    (Scanner.againAt_linked s.scanner_linked levels) line (Stack.Alike.refl stack) pos firstLine
    (fun _ => rfl) s.memory hs).1

section

variable {source : Source.GrammarSource} {g : Grammar} {o : Options} {levels : Nat} {stack : Stack}
  {line : List Char} {firstLine : Bool} {captures : Captures} {rules : CaptureRules} {ts : Tokens}

/-- The groups of a match with rules end where the match does, or before. -/
def GroupsWithin (rules : CaptureRules) (captures : Captures) (stop : Nat) : Prop :=
  ∀ id start last, (some id, some (start, last)) ∈ rules.zip captures → last ≤ stop

theorem groupsWithin_nil (captures : Captures) (stop : Nat) : GroupsWithin [] captures stop := nofun

theorem GroupsWithin.endsBy {m : Type → Type} {w : Sweep m} {n : Nat} (h : GroupsWithin rules captures n) :
    w.EndsBy (rules.zip captures) n := by
  intro e he last hlast
  have hmem : e ∈ rules.zip captures := List.takeWhile_subset _ he
  obtain ⟨_ | id, _ | ⟨start, stop⟩⟩ := e
  · contradiction
  · contradiction
  · contradiction
  · have hstop : stop = last := by
      unfold Sweep.scopedEnd? at hlast
      simp only at hlast
      split at hlast
      · contradiction
      · split at hlast
        · exact Option.some.inj hlast
        · contradiction
    exact hstop ▸ h id start stop hmem

/-- The tokens of the groups of a match abut with those before them, and end with the match if its groups do. -/
theorem Grammar.sweep_direct (hg : Grammar.ofSource source = .ok g) (hl : stack.InLayers g)
    (hin : InText line captures) {start stop : Nat}
    (hwhole : captures.head? = some (some (start, stop))) :
    let sc := g.scanner o
    let us := sc.sweep (sc.againAt levels) stack line firstLine rules captures ts
    ts.Grows (Good g line) us ∧ (GroupsWithin rules captures stop → ts.last ≤ stop → us.last ≤ stop) := by
  intro sc us
  let s : Session := { grammar := g, options := o }
  have hs : s.scanner.FindsInText := Means.scanner_findsInText (Options.search_staysInText o) g _
  have hroot : g.HasRoot := (Grammar.shape_of_ofSource hg).root
  have hcovers := Scanner.coversAgain hs hroot levels
  have hlinked : (s.scanner.sweep (s.scanner.againAt levels) stack line firstLine rules captures ts {}).1 =
      us :=
    (Scanner.sweep_linked s.scanner_linked (Scanner.againAt_linked s.scanner_linked levels)
      (Stack.Alike.refl stack) (CaptureRules.Alike.refl (fun _ => rfl) rules) ts {}
      (Memory.sound_empty g)).1
  constructor
  · rw [← hlinked]
    exact Scanner.sweep_grows hcovers.grows hl hin {}
  · intro hwithin hts
    have hend : (s.scanner.sweepOver (s.scanner.againAt levels) stack line firstLine captures).matchEnd ≤ stop := by
      rw [Scanner.matchEnd_sweepOver hwhole]
    have hlast : Always (s.scanner.sweep (s.scanner.againAt levels) stack line firstLine rules captures ts) _ :=
      Scanner.sweep_last hl hcovers hin firstLine rules hend
    exact hlinked ▸ (hlast {}).mpr ⟨hts, hwithin.endsBy⟩

end

/-! ### Spans in order -/

/-- The pattern that continues the span of a frame: the one made from captured text, or that of its rule. -/
def Frame.continuing? (f : Frame) (g : Grammar) : Option Pattern :=
  (g.rule f.rule).continuing?.map fun id =>
    match f.endPattern with
    | some text => Pattern.ofText text
    | none => g.pattern id

/-- The match by which the span of a frame continues at an offset of a line, if there is one that begins
there. -/
def Frame.goesOn? (f : Frame) (g : Grammar) (o : Options) (line : List Char) (firstLine : Bool)
    (anchor : Option Nat) (pos : Nat) : Option Found := do
  let p ← f.continuing? g
  let c ← Cursor.at? line pos
  let captures ← o.search p (Anchors.holding firstLine anchor pos) c
  (Found.ofCaptures .stop captures).filter (·.start == pos)

/-- The rules for the groups of the match by which a span continues. -/
def Rule.continuingCaptures : Rule → CaptureRules
  | .beginWhile r => r.closingCaptures
  | _ => []

/-- Whether the innermost span of a stack must continue on each line. -/
def Stack.mustContinue (s : Stack) (g : Grammar) : Bool := (g.rule s.top.rule).continuing?.isSome

/-- The spans of a stack that must continue, outermost first, each with the frames around it. -/
def Stack.toContinue (s : Stack) (g : Grammar) : List Stack :=
  (Scanner.prefixes s.frames).filter (Stack.mustContinue · g)

/-- Spans that must continue, asked in order from an offset on: each match begins where the one before it has
ended, and the first span without a match ends it. -/
inductive Continues (g : Grammar) (o : Options) (line : List Char) (firstLine : Bool) :
    Option Nat → Nat → List Stack → List (Stack × Found) → Option Stack → Prop
  | all {anchor : Option Nat} {pos : Nat} : Continues g o line firstLine anchor pos [] [] none
  | fails {anchor : Option Nat} {pos : Nat} {inner : Stack} {rest : List Stack}
      (h : inner.top.goesOn? g o line (firstLine && pos == 0) anchor pos = none) :
      Continues g o line firstLine anchor pos (inner :: rest) [] (some inner)
  | passes {anchor : Option Nat} {pos : Nat} {inner : Stack} {x : Found} {rest : List Stack}
      {passed : List (Stack × Found)} {failed : Option Stack}
      (h : inner.top.goesOn? g o line (firstLine && pos == 0) anchor pos = some x)
      (hrest : Continues g o line firstLine (some x.stop) x.stop rest passed failed) :
      Continues g o line firstLine anchor pos (inner :: rest) ((inner, x) :: passed) failed

/-- Where the last of some matches ends. -/
def lastStop (pos : Nat) (passed : List (Stack × Found)) : Nat := passed.foldl (fun _ e => e.2.stop) pos

namespace Continues

variable {g : Grammar} {o : Options} {line : List Char} {firstLine : Bool} {anchor : Option Nat} {pos : Nat}
  {inners : List Stack} {passed passed' : List (Stack × Found)} {failed failed' : Option Stack}

/-- What is asked in order comes to one thing only. -/
theorem unique (h : Continues g o line firstLine anchor pos inners passed failed)
    (h' : Continues g o line firstLine anchor pos inners passed' failed') :
    passed = passed' ∧ failed = failed' := by
  induction h generalizing passed' failed' with
  | all =>
    cases h'
    exact ⟨rfl, rfl⟩
  | fails hnone =>
    cases h' with
    | fails => exact ⟨rfl, rfl⟩
    | passes hsome => exact absurd (hnone.symm.trans hsome) nofun
  | passes hsome _ ih =>
    cases h' with
    | fails hnone => exact absurd (hnone.symm.trans hsome) nofun
    | passes hsome' hrest =>
      obtain rfl := Option.some.inj (hsome.symm.trans hsome')
      obtain ⟨rfl, rfl⟩ := ih hrest
      exact ⟨rfl, rfl⟩

theorem failed_mem (h : Continues g o line firstLine anchor pos inners passed failed) :
    ∀ inner ∈ failed, inner ∈ inners := by
  induction h with
  | all => nofun
  | fails => exact fun inner hinner => Option.some.inj hinner ▸ List.mem_cons_self
  | passes _ _ ih => exact fun inner hinner => List.mem_cons_of_mem _ (ih inner hinner)

end Continues

/-- A span that must continue is within others, for the root is none. -/
theorem Stack.frames_pop_of_mustContinue {g : Grammar} {s : Stack} (hroot : g.HasRoot) (hl : s.InLayers g)
    (h : s.mustContinue g = true) : s.pop.frames = s.below := by
  have hgroup : ∀ r, g.rule s.top.rule ≠ .group r := by
    intro r hr
    rw [mustContinue, hr] at h
    contradiction
  obtain ⟨f, fs, hbelow⟩ := List.exists_cons_of_ne_nil (hl.below_ne_nil hroot hgroup)
  rw [pop, pop?, hbelow]
  rfl

namespace Scanner

variable {source : Source.GrammarSource} {g : Grammar} {o : Options} {levels : Nat} {stack inner : Stack}
  {line : List Char} {firstLine : Bool} {f : Frame} {k k' : Continued} {x : Found} {ts : Tokens}

/-- The scanner asks a span as it is to be asked. -/
theorem continuing_direct : (g.scanner o).continuing line f k =
    f.goesOn? g o line k.firstLine k.anchor k.pos := by
  have asks : ∀ c a, (g.scanner o).finder.continues f c a = (f.continuing? g).bind fun p => o.search p a c := by
    intro c a
    simp only [Grammar.scanner, Means.scanner, Finder.through, Frame.inForce, Frame.continuing?]
    cases (g.rule f.rule).continuing? with
    | none => rfl
    | some id => cases f.endPattern <;> rfl
  unfold continuing Frame.goesOn?
  cases Cursor.at? line k.pos with
  | none => cases f.continuing? g <;> rfl
  | some c =>
    show (((g.scanner o).finder.continues f c _).bind _).filter _ = _
    rw [asks]
    cases f.continuing? g with
    | none => rfl
    | some p =>
      cases hs : o.search p (Anchors.holding k.firstLine k.anchor k.pos) c with
      | none => simp [hs]
      | some captures => simp [hs]

/-- A match by which a span continues begins where it is asked for, and lies in the line. -/
theorem goesOn?_match {anchor : Option Nat} {pos : Nat}
    (h : f.goesOn? g o line firstLine anchor pos = some x) :
    x.In line ∧ x.start = pos ∧ x.start ≤ x.stop ∧ x.captures.head? = some (some (x.start, x.stop)) := by
  obtain ⟨p, -, h⟩ := Option.bind_eq_some_iff.mp h
  obtain ⟨c, hc, h⟩ := Option.bind_eq_some_iff.mp h
  obtain ⟨captures, hs, h⟩ := Option.bind_eq_some_iff.mp h
  obtain ⟨hx, hstart⟩ := Option.filter_eq_some_iff.mp h
  obtain ⟨hin, -⟩ := Cursor.at?_in hc
  obtain ⟨start, stop, hspan, hle⟩ := Options.search_span hs
  refine ⟨(Found.ofCaptures_in (Options.search_staysInText o _ _ _ _ _ hin hs) hx).1, by simpa using hstart, ?_⟩
  obtain ⟨rest, rfl⟩ := List.head?_eq_some_iff.mp hspan
  obtain rfl := Option.some.inj hx
  exact ⟨hle, rfl⟩

/-- After a match from where it stands on a line stands at the end of the match. The line is still at its
beginning only if nothing has been passed. -/
theorem upTo_of_le {stop : Nat} (hle : k.pos ≤ stop) (hfirst : k.firstLine = (firstLine && k.pos == 0)) :
    k.upTo ts stop = ⟨ts, k.stack, stop, some stop, firstLine && stop == 0⟩ := by
  unfold Continued.upTo
  simp only
  split
  · have hne : (stop == 0) = false := beq_false_of_ne (by omega)
    rw [hne, Bool.and_false]
  · obtain rfl : k.pos = stop := by omega
    rw [hfirst]

/-- What is known after some spans have been asked, from what was known before. -/
structure Continued.Follows (g : Grammar) (line : List Char) (firstLine : Bool) (k : Continued)
    (passed : List (Stack × Found)) (failed : Option Stack) (k' : Continued) : Prop where
  stack : k'.stack = (failed.map Stack.pop).getD k.stack
  pos : k'.pos = lastStop k.pos passed
  unmoved : passed = [] → k'.anchor = k.anchor
  moved : passed ≠ [] → k'.anchor = some k'.pos
  firstLine : k'.firstLine = (firstLine && k'.pos == 0)
  tokens : (∀ e ∈ passed, GroupsWithin (g.rule e.1.top.rule).continuingCaptures e.2.captures e.2.stop) →
    k.tokens.last = k.pos → k.tokens.Grows (Good g line) k'.tokens ∧ k'.tokens.last = k'.pos
  bare : (∀ e ∈ passed, (g.rule e.1.top.rule).continuingCaptures = []) → k.tokens.last = k.pos →
    k'.tokens = passed.foldl (fun ts e => ts.produce e.2.stop e.1.top.contentScopes) k.tokens

/-- The tokens of a match by which a span continues go on to its end. -/
theorem passed_grows (hg : Grammar.ofSource source = .ok g) (hl : inner.InLayers g) {anchor : Option Nat}
    {pos : Nat} (hx : inner.top.goesOn? g o line firstLine anchor pos = some x) {rules : CaptureRules}
    (hwithin : GroupsWithin rules x.captures x.stop) {atStart : Bool} (hlast : ts.last = pos) :
    let sc := g.scanner o
    let begun := ts.produce pos inner.top.contentScopes
    let us := sc.sweep (sc.againAt levels) inner line atStart rules x.captures begun
    let done := Tokens.produce us x.stop inner.top.contentScopes
    ts.Grows (Good g line) done ∧ done.last = x.stop := by
  intro sc begun us done
  obtain ⟨hin, hstart, hle, hwhole⟩ := goesOn?_match hx
  have hbegun : begun = ts := if_pos (Nat.le_of_eq hlast.symm)
  obtain ⟨grows, hstops⟩ : begun.Grows (Good g line) us ∧ _ :=
    Grammar.sweep_direct hg hl hin.captures hwhole
  have hus : us.last ≤ x.stop := hstops hwithin (by rw [hbegun]; omega)
  constructor
  · rw [← hbegun]
    exact grows.produce ⟨hin.stop, hl.top_scope⟩
  · rw [Tokens.last_produce]
    exact Nat.max_eq_right hus

/-- Where no span has been asked with success, nothing but the stack has changed. -/
theorem Continued.Follows.of_none_passed {failed : Option Stack} {stack : Stack}
    (hstack : stack = (failed.map Stack.pop).getD k.stack) (hfirst : k.firstLine = (firstLine && k.pos == 0)) :
    k.Follows g line firstLine [] failed { k with stack := stack } :=
  ⟨hstack, rfl, fun _ => rfl, fun h => absurd rfl h, hfirst, fun _ hlast => ⟨.refl, hlast⟩, fun _ _ => rfl⟩

/-- What follows after a first span that continues. -/
theorem Continued.Follows.cons {passed : List (Stack × Found)} {failed : Option Stack}
    (hgrows : GroupsWithin (g.rule inner.top.rule).continuingCaptures x.captures x.stop →
      k.tokens.last = k.pos → k.tokens.Grows (Good g line) ts ∧ ts.last = x.stop)
    (hbare : (g.rule inner.top.rule).continuingCaptures = [] → k.tokens.last = k.pos →
      ts = k.tokens.produce x.stop inner.top.contentScopes)
    (h : Follows g line firstLine ⟨ts, k.stack, x.stop, some x.stop, firstLine && x.stop == 0⟩ passed failed k') :
    k.Follows g line firstLine ((inner, x) :: passed) failed k' where
  stack := h.stack
  pos := h.pos
  unmoved := nofun
  moved _ := by
    by_cases hpassed : passed = []
    · have hpos : k'.pos = x.stop := by
        rw [h.pos, hpassed]
        rfl
      rw [h.unmoved hpassed, hpos]
    · exact h.moved hpassed
  firstLine := h.firstLine
  tokens hwithin hlast := by
    obtain ⟨hfirst, hrest⟩ := List.forall_mem_cons.mp hwithin
    obtain ⟨grows, hstop⟩ := hgrows hfirst hlast
    obtain ⟨later, hlater⟩ := h.tokens hrest hstop
    exact ⟨grows.trans later, hlater⟩
  bare hnone hlast := by
    obtain ⟨hfirst, hrest⟩ := List.forall_mem_cons.mp hnone
    obtain ⟨-, hstop⟩ := hgrows (hfirst ▸ groupsWithin_nil _ _) hlast
    have hlater : k'.tokens = passed.foldl (fun ts e => ts.produce e.2.stop e.1.top.contentScopes) ts :=
      h.bare hrest hstop
    rw [hlater, hbare hfirst hlast, List.foldl_cons]

/-- **The spans are asked in order**, and what is known in the end follows from those that have continued and
the first one that has not. -/
theorem continueSpans_continues (hg : Grammar.ofSource source = .ok g) (o : Options) (levels : Nat)
    (line : List Char) (firstLine : Bool) : ∀ {inners : List Stack} {k : Continued},
      (∀ inner ∈ inners, inner.InLayers g) → k.firstLine = (firstLine && k.pos == 0) →
      ∃ passed failed, Continues g o line firstLine k.anchor k.pos (inners.filter (Stack.mustContinue · g))
          passed failed ∧
        k.Follows g line firstLine passed failed
          ((g.scanner o).continueSpans ((g.scanner o).againAt levels) line inners k)
  | [], k, _, hfirst =>
    ⟨[], none, .all, .of_none_passed rfl hfirst⟩
  | inner :: rest, k, hl, hfirst => by
    obtain ⟨hinner, hrest⟩ := List.forall_mem_cons.mp hl
    cases hr : g.rule inner.top.rule with
    | beginWhile rule =>
      have hasked : (inner :: rest).filter (Stack.mustContinue · g) =
          inner :: rest.filter (Stack.mustContinue · g) :=
        List.filter_cons_of_pos (by rw [Stack.mustContinue, hr]; rfl)
      unfold continueSpans
      rw [hasked, show (g.scanner o).grammar.rule inner.top.rule = .beginWhile rule from hr]
      simp only [continuing_direct]
      cases hx : inner.top.goesOn? g o line k.firstLine k.anchor k.pos with
      | none =>
        rw [hfirst] at hx
        exact ⟨[], some inner, .fails hx, .of_none_passed rfl hfirst⟩
      | some x =>
        obtain ⟨-, hstart, hle, -⟩ := goesOn?_match hx
        have hpos : k.pos ≤ x.stop := hstart ▸ hle
        let again := (g.scanner o).againAt levels
        let us : Tokens := (g.scanner o).sweep again inner line k.firstLine rule.closingCaptures x.captures
          (k.tokens.produce k.pos inner.top.contentScopes)
        let done := us.produce x.stop inner.top.contentScopes
        have hup : k.upTo done x.stop = ⟨done, k.stack, x.stop, some x.stop, firstLine && x.stop == 0⟩ :=
          upTo_of_le hpos hfirst
        obtain ⟨passed, failed, hrun, hfollows⟩ :=
          continueSpans_continues hg o levels line firstLine hrest (k := k.upTo done x.stop) (by rw [hup])
        rw [hup] at hrun hfollows
        refine ⟨(inner, x) :: passed, failed, .passes (hfirst ▸ hx) hrun, ?_⟩
        show k.Follows g line firstLine _ _ ((g.scanner o).continueSpans again line rest (k.upTo done x.stop))
        rw [hup]
        refine .cons (fun hwithin hlast => ?_) (fun hnone hlast => ?_) hfollows
        · rw [hr] at hwithin
          exact passed_grows hg hinner hx hwithin hlast
        · -- Nothing is swept, and up to where the match begins nothing is produced.
          have hrules : rule.closingCaptures = [] := by rwa [hr] at hnone
          have hbegun : k.tokens.produce k.pos inner.top.contentScopes = k.tokens :=
            if_pos (Nat.le_of_eq hlast.symm)
          have hus : us = k.tokens.produce k.pos inner.top.contentScopes := by
            show (g.scanner o).sweep _ _ _ _ rule.closingCaptures _ _ = _
            rw [hrules]
            rfl
          show us.produce x.stop _ = _
          rw [hus, hbegun]
    | _ =>
      have hnot : (inner :: rest).filter (Stack.mustContinue · g) = rest.filter (Stack.mustContinue · g) :=
        List.filter_cons_of_neg (by rw [Stack.mustContinue, hr]; exact Bool.false_ne_true)
      unfold continueSpans
      rw [hnot, show (g.scanner o).grammar.rule inner.top.rule = _ from hr]
      exact continueSpans_continues hg o levels line firstLine hrest hfirst

end Scanner

/-- **Spans that continue.** At the beginning of a line, after whatever lines, the spans of a stack that must
continue are asked from the root upward, each where the one before it has ended. The stack is kept if all
continue, and otherwise consists of the frames below the first one that does not. The line goes on where the
last match has ended, and that is the anchor if there is a match; it is at its beginning no more once something
has been passed. If the groups of these matches lie within them, the tokens tile what has been passed. -/
theorem Session.resume_continues {source : Source.GrammarSource} {g : Grammar}
    (hg : Grammar.ofSource source = .ok g) (o : Options) (calls : List (List Char × Option Stack))
    {stack : Stack} (hl : stack.InLayers g) (line : List Char) (firstLine : Bool) (levels : Nat) :
    let s := (Session.mk g o {}).after calls
    let anchor := if stack.top.reachedEnd then some 0 else none
    let k := (s.scanner.resume (s.scanner.againAt levels) stack line 0 firstLine s.memory).1
    (∃ passed failed, Continues g o line firstLine anchor 0 (stack.toContinue g) passed failed) ∧
    ∀ passed failed, Continues g o line firstLine anchor 0 (stack.toContinue g) passed failed →
      (failed = none → k.stack = stack) ∧
      (∀ inner, failed = some inner → k.stack.frames = inner.below) ∧
      k.pos = lastStop 0 passed ∧
      (passed = [] → k.anchor = anchor) ∧
      (passed ≠ [] → k.anchor = some k.pos) ∧
      k.firstLine = (firstLine && k.pos == 0) ∧
      ((∀ e ∈ passed, GroupsWithin (g.rule e.1.top.rule).continuingCaptures e.2.captures e.2.stop) →
        Abut 0 k.tokens.done.reverse k.pos) := by
  intro s anchor k
  have hdirect : s.direct = g.scanner o := Session.direct_after _ calls
  have hk : k = (g.scanner o).resume ((g.scanner o).againAt levels) stack line 0 firstLine := by
    rw [← hdirect]
    exact Session.enter_direct (Session.sound_used g o calls) levels stack line 0 firstLine true
  have hlayers : ∀ inner ∈ Scanner.prefixes stack.frames, inner.InLayers g := fun inner h =>
    hl.of_suffix (Scanner.frames_suffix_of_mem_prefixes h)
  obtain ⟨passed, failed, hrun, hfollows⟩ := Scanner.continueSpans_continues hg o levels line firstLine
    (k := ⟨⟨[], 0⟩, stack, 0, anchor, firstLine⟩) hlayers (Bool.and_true firstLine).symm
  refine ⟨⟨passed, failed, hrun⟩, fun passed' failed' hrun' => ?_⟩
  obtain ⟨rfl, rfl⟩ := hrun'.unique hrun
  have hfollows : Scanner.Continued.Follows g line firstLine ⟨⟨[], 0⟩, stack, 0, anchor, firstLine⟩ passed'
      failed' k :=
    hk ▸ hfollows
  refine ⟨?_, ?_, hfollows.pos, hfollows.unmoved, hfollows.moved, hfollows.firstLine, fun hwithin => ?_⟩
  · rintro rfl
    exact hfollows.stack
  · rintro inner rfl
    have hmem := hrun.failed_mem inner rfl
    obtain ⟨hinner, hmust⟩ := List.mem_filter.mp hmem
    have hstack : k.stack = inner.pop := hfollows.stack
    rw [hstack]
    exact Stack.frames_pop_of_mustContinue (Grammar.shape_of_ofSource hg).root (hlayers inner hinner) hmust
  · obtain ⟨grows, hlast⟩ := hfollows.tokens hwithin rfl
    have abut : Abut 0 k.tokens.done.reverse k.tokens.last := grows.abut rfl
    rwa [hlast] at abut

/-- Quotes within each other, with a mark at the beginning of each line for each of them. -/
def Source.quoteText : Source.GrammarSource where
  scopeName := "source.quote"
  patterns := [
    { name := some "markup.quote", beginPattern := some "(?:^|\\G)>", whilePattern := some "(?:^|\\G)>"
      patterns := [{ reference := some "$self" }] }]

/-- Of two quotes the outer one continues, and the inner one does not. -/
theorem resume_continues_quoteText : ∃ g stack, Grammar.ofSource Source.quoteText = .ok g ∧
    Stack.InLayers g stack ∧
    let s := (Session.mk g {} {}).after [(['>', '>', 'a'], none)]
    let line := ['>', 'b', '\n']
    let k := (s.scanner.resume (s.scanner.againAt 32) stack line 0 false s.memory).1
    stack.depth = 2 ∧ k.stack.depth = 1 ∧ ∃ passed failed,
      Continues g {} line false none 0 (stack.toContinue g) passed failed ∧
        passed ≠ [] ∧ failed ≠ none ∧ k.anchor = some 1 := by
  have run : (Grammar.ofSource Source.quoteText).toOption.any (fun g =>
      let stack := ((Session.mk g {} {}).line ['>', '>', 'a'] none).1.stack
      let s := (Session.mk g {} {}).after [(['>', '>', 'a'], none)]
      let k := (s.scanner.resume (s.scanner.againAt 32) stack ['>', 'b', '\n'] 0 false s.memory).1
      decide (stack.depth = 2 ∧ stack.top.reachedEnd = false ∧ k.stack.depth = 1 ∧ k.pos = 1)) = true := by
    decide +kernel
  obtain ⟨g, hg, h⟩ := exists_ok_of_any run
  obtain ⟨hdepth, hend, hleft, hpos⟩ := of_decide_eq_true h
  have hreturned : g.Returned ((Session.mk g {} {}).line ['>', '>', 'a'] none).1.stack :=
    Session.returned_line (Session.mk g {} {}) rfl _ none nofun
  have hl : Stack.InLayers g ((Session.mk g {} {}).line ['>', '>', 'a'] none).1.stack := hreturned.inLayers
  obtain ⟨⟨passed, failed, hrun⟩, hall⟩ :=
    Session.resume_continues hg {} [(['>', '>', 'a'], none)] hl ['>', 'b', '\n'] false 32
  obtain ⟨hkept, -, hstop, -, hanchor, -⟩ := hall passed failed hrun
  have hpassed : passed ≠ [] := by
    rintro rfl
    exact absurd (hpos.symm.trans hstop) (by decide)
  refine ⟨g, _, hg, hl, hdepth, hleft, passed, failed, ?_, hpassed, ?_, (hanchor hpassed).trans ?_⟩
  · rw [hend] at hrun
    exact hrun
  · intro hnone
    rw [hkept hnone, hdepth] at hleft
    contradiction
  · rw [hpos]

end ScopeLexer
