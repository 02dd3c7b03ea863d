/-
# What a line does to the stack

A step of a scan does one of four things to the stack: it leaves it as it is, pops the innermost frame,
strips that frame of the scopes of its content, or pushes the frame of a span. Before the first step the
spans that do not continue have been taken off the top, and after the last one those that end with the
line. What a stack is like after a line is derived from this alone.

Key definitions: `Stack.Opened`, `Stack.Move`, `Stack.Plain`, `Stack.LineMove`.
Key theorems: `Scanner.step_moves`, `Scanner.steps_moves`, `Scanner.line_moves`.
-/
import Mathlib.Logic.Relation
import ScopeLexer.Proofs.GrammarShape
import ScopeLexer.Proofs.Outcome
import ScopeLexer.Tokenize.Line

namespace ScopeLexer

open Regex (Captures)
open Relation (ReflTransGen)

/-- Where a step of a scan has come to. -/
def StepResult.stack : StepResult → Stack
  | .goOn s => s.stack
  | .stop _ stack => stack

namespace Stack

/-- A frame as it is pushed where a span begins, for a match in a line. -/
structure Opened (g : Grammar) (line : List Char) (s : Stack) (f : Frame) (span : SpanRule)
    (captures : Captures) : Prop where
  rule : (g.rule f.rule).span? = some span
  nameScopes : f.nameScopes =
    s.top.contentScopes ++ (g.rule f.rule).nameScopes line captures
  contentScopes : f.contentScopes = f.nameScopes ++ (g.rule f.rule).contentScopes line captures
  endPattern : f.endPattern = if span.closingRefers then
      some (String.ofList (Pattern.resolve (g.pattern span.closing).source.toList line captures))
    else none

/-- What one step of a scan does to the stack. -/
inductive Move (g : Grammar) (line : List Char) : Stack → Stack → Prop
  | stay (s : Stack) : Move g line s s
  | pop (s : Stack) : Move g line s s.pop
  | strip (s : Stack) : Move g line s (s.withContent s.top.nameScopes)
  | push (s : Stack) {f : Frame} {span : SpanRule} {captures : Captures}
      (h : Opened g line s f span captures) : Move g line s (s.push f)

/-- A move that strips no frame. -/
inductive Plain (g : Grammar) (line : List Char) : Stack → Stack → Prop
  | stay (s : Stack) : Plain g line s s
  | pop (s : Stack) : Plain g line s s.pop
  | push (s : Stack) {f : Frame} {span : SpanRule} {captures : Captures}
      (h : Opened g line s f span captures) : Plain g line s (s.push f)

theorem Plain.move {g : Grammar} {line : List Char} {s t : Stack} (h : Plain g line s t) :
    Move g line s t := by
  cases h with
  | stay => exact .stay s
  | pop => exact .pop s
  | push h => exact .push s h

/-- What a line does to the stack that it is tokenized within. -/
def LineMove (g : Grammar) (line : List Char) (s t : Stack) : Prop :=
  ∃ s₁ s₂, s₁.frames <:+ s.frames ∧ ReflTransGen (Move g line) s₁ s₂ ∧ t = (s₂.closeLine g).reset

theorem pop_of_pop? {s outer : Stack} (h : s.pop? = some outer) : s.pop = outer := by
  rw [pop, h]
  rfl

theorem frames_pop_suffix (s : Stack) : s.pop.frames <:+ s.frames := by
  obtain ⟨top, below⟩ := s
  cases below with
  | nil => exact List.suffix_rfl
  | cons f fs => exact List.suffix_cons top (f :: fs)

end Stack

namespace Scanner

open Stack (Move Plain Opened LineMove)

variable {σ : Type} {sc : Scanner (StateM σ)} {again : Option (Again (StateM σ))} {line : List Char}
  {length : Nat} {s : ScanState} {found : Found}

/-! ### Steps -/

theorem advance_stack (sc : Scanner (StateM σ)) (length : Nat) (s : ScanState) (stop : Nat) :
    (sc.advance length s stop).stack = s.stack := by
  unfold advance
  split
  · rfl
  · split <;> rfl

theorem endSpan_moves :
    Always (sc.endSpan again line length s found) fun r => Move sc.grammar line s.stack r.stack := by
  unfold endSpan
  refine .bind' fun ts => ?_
  split
  · exact .pure (.strip s.stack)
  · rename_i outer h
    split
    · exact .pure (.strip s.stack)
    · refine .pure ?_
      rw [advance_stack]
      have : s.stack.pop = outer := Stack.pop_of_pop? (by simpa [Stack.pop?, Stack.withContent] using h)
      exact this ▸ .pop s.stack

theorem beginSpan_plain {rule : Rule} {span : SpanRule} {frame : Frame} {ts : Tokens}
    (hr : sc.grammar.rule frame.rule = rule) (hs : rule.span? = some span)
    (hn : frame.nameScopes = s.stack.top.contentScopes ++ rule.nameScopes line found.captures) :
    Always (sc.beginSpan again line length s found rule span frame ts)
      fun r => Plain sc.grammar line s.stack r.stack := by
  subst hr
  unfold beginSpan
  refine .bind' fun ts => ?_
  simp only
  split
  · exact .pure (Plain.stay s.stack)
  · refine .pure ?_
    rw [advance_stack]
    have opened : Opened sc.grammar line s.stack
        (frame.opened sc.grammar line found.captures (sc.grammar.rule frame.rule) span) span
        found.captures := ⟨hs, hn, rfl, rfl⟩
    exact .push s.stack opened

theorem matchRule_plain {rule : Rule} {frame : Frame} {ts : Tokens} :
    Always (sc.matchRule again line length s found rule frame ts)
      fun r => Plain sc.grammar line s.stack r.stack := by
  unfold matchRule
  refine .bind' fun ts => ?_
  split
  · exact .pure (.pop s.stack)
  · refine .pure ?_
    rw [advance_stack]
    exact .stay s.stack

/-- A match that is not the end of a span strips no frame. -/
theorem take_plain {id : RuleId} (h : found.candidate = .rule id) :
    Always (sc.take again line length s found) fun r => Plain sc.grammar line s.stack r.stack := by
  simp only [take, h]
  split
  · rename_i r hr
    exact beginSpan_plain rfl (by rw [hr]; rfl) rfl
  · rename_i r hr
    exact beginSpan_plain rfl (by rw [hr]; rfl) rfl
  · exact matchRule_plain

theorem take_moves :
    Always (sc.take again line length s found) fun r => Move sc.grammar line s.stack r.stack := by
  cases h : found.candidate with
  | stop =>
    simp only [take, h]
    exact endSpan_moves
  | rule id => exact (take_plain h).mono fun r hr => hr.move

/-- **A step makes one move.** -/
theorem step_moves :
    Always (sc.step again line length s) fun r => Move sc.grammar line s.stack r.stack := by
  unfold step
  refine .bind' fun late => ?_
  split
  · exact .pure (.stay s.stack)
  · refine .bind' fun found => ?_
    split
    · exact .pure (.stay s.stack)
    · exact take_moves

/-- The steps of a scan make moves one after the other. -/
theorem steps_moves (fuel : Nat) :
    Always (sc.steps again line length fuel s)
      fun r => ReflTransGen (Move sc.grammar line) s.stack r.2 := by
  induction fuel generalizing s with
  | zero => exact .pure .refl
  | succ fuel ih =>
    unfold steps
    refine .bind step_moves fun r hr => ?_
    cases r with
    | stop ts stack => exact .pure (.single hr)
    | goOn t => exact ih.mono fun r h => h.head hr

/-! ### Spans that continue -/

theorem frames_suffix_of_mem_prefixes : ∀ {fs : List Frame} {inner : Stack},
    inner ∈ prefixes fs → inner.frames <:+ fs
  | [], inner, h => by simp [prefixes] at h
  | f :: fs, inner, h => by
    rcases List.mem_append.mp h with h | h
    · exact (frames_suffix_of_mem_prefixes h).trans (List.suffix_cons f fs)
    · obtain rfl := List.mem_singleton.mp h
      exact List.suffix_rfl

theorem Continued.upTo_stack (k : Continued) (ts : Tokens) (stop : Nat) :
    (k.upTo ts stop).stack = k.stack := by
  unfold Continued.upTo
  simp only
  split <;> rfl

theorem continueSpans_suffix {all : List Frame} : ∀ {inners : List Stack} {k : Continued},
    (∀ inner ∈ inners, inner.frames <:+ all) → k.stack.frames <:+ all →
      Always (sc.continueSpans again line inners k) fun k => k.stack.frames <:+ all
  | [], k, _, hk => .pure hk
  | inner :: rest, k, hs, hk => by
    have hi : inner.pop.frames <:+ all :=
      (Stack.frames_pop_suffix inner).trans (hs inner List.mem_cons_self)
    have hrest : ∀ inner ∈ rest, inner.frames <:+ all :=
      fun i h => hs i (List.mem_cons_of_mem _ h)
    unfold continueSpans
    split
    · refine .bind' fun found => ?_
      split
      · refine .bind' fun ts => ?_
        exact continueSpans_suffix hrest (by rwa [Continued.upTo_stack])
      · exact .pure hi
    · exact continueSpans_suffix hrest hk

/-- Spans that do not continue are taken off with all within them. -/
theorem resume_suffix {stack : Stack} {pos : Nat} {firstLine : Bool} :
    Always (sc.resume again stack line pos firstLine) fun k => k.stack.frames <:+ stack.frames :=
  continueSpans_suffix (fun _ h => frames_suffix_of_mem_prefixes h) List.suffix_rfl

/-! ### Lines -/

theorem scanWith_moves {stack : Stack} {pos : Nat} {firstLine : Bool} :
    Always (sc.scanWith again stack line pos firstLine true) fun r =>
      ∃ s₁, s₁.frames <:+ stack.frames ∧ ReflTransGen (Move sc.grammar line) s₁ r.2 := by
  unfold scanWith
  refine .bind resume_suffix fun k hk => ?_
  exact (steps_moves _).mono fun r hr => ⟨k.stack, hk, hr⟩

theorem scan_moves (levels : Nat) {stack : Stack} {pos : Nat} {firstLine : Bool} :
    Always (sc.scan levels stack line pos firstLine true) fun r =>
      ∃ s₁, s₁.frames <:+ stack.frames ∧ ReflTransGen (Move sc.grammar line) s₁ r.2 := by
  cases levels <;> exact scanWith_moves

/-- **What a line does to the stack**: spans come off the top, steps are made, and spans that end with
the line come off the top again. -/
theorem line_moves (sc : Scanner (StateM σ)) (text : List Char) (prior : Option Stack) :
    Always (sc.line text prior) fun r =>
      LineMove sc.grammar (withoutNewline text ++ ['\n']) (prior.getD (.root sc.grammar)) r.stack := by
  unfold Scanner.line
  refine .bind (scan_moves maxLevels) fun r hr => ?_
  obtain ⟨s₁, hs, hm⟩ := hr
  exact .pure ⟨s₁, r.2, hs, hm, rfl⟩

end Scanner
end ScopeLexer
