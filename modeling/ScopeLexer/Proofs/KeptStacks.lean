/-
# Matches within the line

A match of a rule that is neither that of a span nor the end of one leaves the stack as it is, whatever its groups
do: their texts are tokenized within stacks of their own. The exception is a match that takes nothing. It would be
found again and again, so that the line is given up, and with it the innermost frame is closed. So a line of such
matches alone hands on the stack that it was given, unless its last match takes nothing; then the stack has lost
its innermost frame.

Of the frames of the stack that the line is given none may have to continue.

Key definitions: `Found.isWithinLine`, `Selected.advances`, `Scanner.selected`, `Scanner.selectedIn`.
Key theorems: `Scanner.steps_selected`, `Scanner.resume_of_noWhile`, `Grammar.line_keeps`.
-/
import ScopeLexer.Proofs.CarriedStacks
import ScopeLexer.Proofs.ContentScopes
import ScopeLexer.Proofs.ScanEnds

namespace ScopeLexer

open Text (width)
open Source (GrammarSource)

/-- Whether a match is of a rule that is matched within the line. -/
def Found.isWithinLine (g : Grammar) (x : Found) : Bool :=
  match x.candidate with
  | .stop => false
  | .rule id =>
    match g.rule id with
    | .matching _ => true
    | _ => false

/-- The rule of such a match is not that of a span. -/
theorem Found.exists_of_isWithinLine {g : Grammar} {x : Found} (h : x.isWithinLine g = true) :
    ∃ id, x.candidate = .rule id ∧ (g.rule id).span? = none := by
  unfold isWithinLine at h
  split at h
  · contradiction
  · rename_i id hid
    refine ⟨id, hid, ?_⟩
    split at h
    · rename_i r hr
      rw [hr]
      rfl
    · contradiction

/-- A match with the state in which it was found. -/
abbrev Selected := ScanState × Found

/-- Whether a match takes something. -/
def Selected.advances (e : Selected) : Bool := e.1.pos < e.2.stop

namespace Scanner

section

variable {σ : Type} (sc : Scanner (StateM σ)) (again : Option (Again (StateM σ))) (line : List Char)

/-- The matches that a scan goes by, in at most so many steps. -/
def selected : Nat → ScanState → σ → List Selected
  | 0, _, _ => []
  | fuel + 1, s, state =>
    match (sc.found? line s state).1 with
    | none => []
    | some x =>
      (s, x) ::
        match sc.step again line (width line) s state with
        | (.goOn t, state) => selected fuel t state
        | (.stop _ _, _) => []

/-- The matches that the scan of a line goes by. -/
def selectedIn (text : List Char) (prior : Option Stack) (state : σ) : List Selected :=
  let line := withoutNewline text ++ ['\n']
  let again := sc.againAt maxLevels
  let k := sc.resume again (prior.getD (.root sc.grammar)) line 0 prior.isNone state
  sc.selected again line (sc.stepBound (width line) 0) k.1.start k.2

variable {sc again line} {s t : ScanState} {state : σ} {x : Found}

/-! ### Steps -/

/-- Without a match a scan stops where it is. -/
theorem step_stack_of_not_found (again : Option (Again (StateM σ))) (h : (sc.found? line s state).1 = none) :
    ∃ ts state', sc.step again line (width line) s state = (.stop ts s.stack, state') := by
  have hbind : ∀ {α β : Type} (y : StateM σ α) (f : α → StateM σ β) (state : σ),
      (y >>= f) state = f (y state).1 (y state).2 := fun _ _ _ => rfl
  unfold found? at h
  unfold step
  simp only [hbind] at h ⊢
  cases hlate : (sc.finder.timeIsOver state).1 with
  | true => exact ⟨_, _, rfl⟩
  | false =>
    rw [hlate] at h
    simp only [Bool.false_eq_true, if_false, hbind] at h ⊢
    rw [h]
    exact ⟨_, _, rfl⟩

/-- **A match within the line keeps the stack** if it takes something. Otherwise the line is given up, and the
innermost frame is closed. -/
theorem step_of_isWithinLine (again : Option (Again (StateM σ))) (h : (sc.found? line s state).1 = some x)
    (hx : x.isWithinLine sc.grammar = true) :
    (s.pos < x.stop → ∃ t, (sc.step again line (width line) s state).1 = .goOn t ∧ t.stack = s.stack) ∧
      (x.stop ≤ s.pos → ∃ ts, (sc.step again line (width line) s state).1 = .stop ts s.stack.pop) := by
  obtain ⟨id, hid, hspan⟩ := Found.exists_of_isWithinLine hx
  have hsettle : ∀ ts, sc.settle line s x ts = sc.settleMatch line s x ts := fun ts => by
    simp only [settle, hid, hspan]
  rw [step_of_found h]
  show (_ → ∃ t, sc.settle line s x _ = _ ∧ _) ∧ (_ → ∃ ts, sc.settle line s x _ = _)
  rw [hsettle, settleMatch]
  refine ⟨fun hlt => ?_, fun hle => ?_⟩
  · rw [if_neg (Nat.not_le.mpr hlt), advance, if_pos hlt]
    exact ⟨_, rfl, rfl⟩
  · rw [if_pos hle]
    exact ⟨_, rfl⟩

/-- **Matches within the line keep the stack**, unless the last one takes nothing. -/
theorem steps_selected (fuel : Nat) (s : ScanState) (state : σ)
    (h : ∀ e ∈ sc.selected again line fuel s state, e.2.isWithinLine sc.grammar = true) :
    (sc.steps again line (width line) fuel s state).1.2 =
      if (sc.selected again line fuel s state).all Selected.advances then s.stack else s.stack.pop := by
  induction fuel generalizing s state with
  | zero => rfl
  | succ fuel ih =>
    cases hfound : (sc.found? line s state).1 with
    | none =>
      obtain ⟨ts, state', hstep⟩ := step_stack_of_not_found again hfound
      rw [steps_of_stop hstep, selected, hfound]
      rfl
    | some x =>
      rw [selected, hfound] at h ⊢
      have hx := h (s, x) List.mem_cons_self
      obtain ⟨on, off⟩ := step_of_isWithinLine again hfound hx
      cases hstep : sc.step again line (width line) s state with
      | mk result state' =>
        rw [hstep] at on off
        rcases Nat.lt_or_ge s.pos x.stop with hlt | hge
        · obtain ⟨t, rfl, hstack⟩ := on hlt
          simp only [hstep] at h ⊢
          have hadvances : Selected.advances (s, x) = true := decide_eq_true hlt
          rw [steps_of_goOn hstep, ih t state' fun e he => h e (List.mem_cons_of_mem _ he), hstack,
            List.all_cons, hadvances, Bool.true_and]
        · obtain ⟨ts, rfl⟩ := off hge
          have hstays : Selected.advances (s, x) = false := decide_eq_false (Nat.not_lt.mpr hge)
          rw [steps_of_stop hstep, List.all_cons, hstays, Bool.false_and, if_neg Bool.false_ne_true]

end

/-! ### Lines -/

section

variable {m : Type → Type} [Monad m] {sc : Scanner m} {again : Option (Again m)} {line : List Char}

theorem continueSpans_of_noWhile : ∀ {inners : List Stack} {k : Continued},
    (∀ inner ∈ inners, ∀ r, sc.grammar.rule inner.top.rule ≠ .beginWhile r) →
      sc.continueSpans again line inners k = pure k
  | [], k, _ => rfl
  | inner :: rest, k, h => by
    have hrest := continueSpans_of_noWhile (k := k) fun i hi => h i (List.mem_cons_of_mem _ hi)
    rw [continueSpans]
    split
    · rename_i r hr
      exact absurd hr (h inner List.mem_cons_self r)
    · exact hrest

theorem top_mem_of_mem_prefixes {fs : List Frame} {inner : Stack} (h : inner ∈ prefixes fs) :
    inner.top ∈ fs :=
  (frames_suffix_of_mem_prefixes h).subset List.mem_cons_self

/-- Where nothing has to continue, a line begins with the stack that it is given. -/
theorem resume_of_noWhile {stack : Stack} (h : ∀ f ∈ stack.frames, ∀ r, sc.grammar.rule f.rule ≠ .beginWhile r)
    (pos : Nat) (firstLine : Bool) : sc.resume again stack line pos firstLine =
      pure ⟨⟨[], pos⟩, stack, pos, if stack.top.reachedEnd then some 0 else none, firstLine⟩ :=
  continueSpans_of_noWhile fun _ hi => h _ (top_mem_of_mem_prefixes hi)

end

end Scanner

namespace Stack

variable {g : Grammar} {s : Stack}

/-- A stack whose frames all go on is left as it is at the end of a line. -/
theorem closeLine_of_goesOn (h : ∀ f ∈ s.frames, f.endsWithLine g = false) : s.closeLine g = s := by
  have hnone : s.frames.reverse.findIdx? (Frame.endsWithLine g) = none :=
    List.findIdx?_eq_none_iff.mpr fun f hf => h f (List.mem_reverse.mp hf)
  rw [closeLine, hnone]

theorem reset_of_clean (h : ∀ f ∈ s.frames, f.anchor = none ∧ f.entered = none) : s.reset = s := by
  have same : ∀ f ∈ s.frames, f.reset = f := fun f hf => by
    obtain ⟨hanchor, hentered⟩ := h f hf
    rw [Frame.reset, ← hanchor]
    cases f
    simp_all
  have htop := same s.top List.mem_cons_self
  have hbelow : s.below.map Frame.reset = s.below :=
    (List.map_congr_left fun f hf => same f (List.mem_cons_of_mem _ hf)).trans (List.map_id _)
  rw [reset, htop, hbelow]

end Stack

/-- The stack that a line leaves is what its steps come to, without what ends with the line. -/
theorem Scanner.line_stack {σ : Type} (sc : Scanner (StateM σ)) (text : List Char) (prior : Option Stack)
    (state : σ) :
    let line := withoutNewline text ++ ['\n']
    let again := sc.againAt maxLevels
    let k := sc.resume again (prior.getD (.root sc.grammar)) line 0 prior.isNone state
    (sc.line text prior state).1.stack =
      ((sc.steps again line (width line) (sc.stepBound (width line) 0) k.1.start k.2).1.2.closeLine
        sc.grammar).reset := by
  intro line again k
  rw [Scanner.line]
  simp only [scan_eq]
  rfl

/-- A line that begins with the stack that it is given, and goes by matches within the line alone. -/
theorem Scanner.line_of_selected {σ : Type} {sc : Scanner (StateM σ)} {text : List Char} {prior : Option Stack}
    {state : σ}
    (hstart : (sc.resume (sc.againAt maxLevels) (prior.getD (.root sc.grammar)) (withoutNewline text ++ ['\n'])
      0 prior.isNone state).1.stack = prior.getD (.root sc.grammar))
    (hwithin : ∀ e ∈ sc.selectedIn text prior state, e.2.isWithinLine sc.grammar = true) :
    (sc.line text prior state).1.stack =
      ((if (sc.selectedIn text prior state).all Selected.advances then prior.getD (.root sc.grammar)
        else (prior.getD (.root sc.grammar)).pop).closeLine sc.grammar).reset := by
  have hsteps := Scanner.steps_selected _ _ _ hwithin
  have hstack : ∀ k : Continued, k.start.stack = k.stack := fun _ => rfl
  rw [hstack, hstart] at hsteps
  rw [Scanner.line_stack, hsteps]
  rfl

namespace Grammar

variable {g : Grammar}

/-- The frames that a line begins with go on at its end, and know nothing of a line. -/
theorem goesOn_of_prior {source : GrammarSource} (hg : ofSource source = .ok g) {prior : Option Stack}
    (hp : ∀ p, prior = some p → g.Returned p) : ∀ f ∈ (prior.getD (.root g)).frames,
      f.endsWithLine g = false ∧ f.anchor = none ∧ f.entered = none := by
  have shape := shape_of_ofSource hg
  cases prior with
  | some p => exact fun f hf => ⟨(hp p rfl).goesOn shape f hf, (hp p rfl).clean f hf⟩
  | none =>
    intro f hf
    obtain rfl := List.mem_singleton.mp hf
    exact ⟨Layered.goesOn_of_root shape ⟨rfl, rfl, rfl, rfl⟩, rfl, rfl⟩

/-- **Matches within the line keep the stack.** Where no span has to continue and every match that the scan of a
line goes by is of a rule that is matched within the line, the line leaves the stack that it was given if every
match takes something. If not, the line has been given up and the innermost frame has been closed. -/
theorem line_keeps {source : GrammarSource} (hg : ofSource source = .ok g) {σ : Type} (w : Means (StateM σ))
    (maxStalled : Nat) (text : List Char) (prior : Option Stack) (hp : ∀ p, prior = some p → g.Returned p)
    (hwhile : ∀ p, prior = some p → ∀ f ∈ p.frames, ∀ r, g.rule f.rule ≠ .beginWhile r) (state : σ)
    (hwithin : ∀ e ∈ (w.scanner g maxStalled).selectedIn text prior state, e.2.isWithinLine g = true) :
    ((w.scanner g maxStalled).line text prior state).1.stack =
      if ((w.scanner g maxStalled).selectedIn text prior state).all Selected.advances then prior.getD (.root g)
      else (prior.getD (.root g)).pop := by
  have hnone : ∀ f ∈ (prior.getD (.root g)).frames, ∀ r, g.rule f.rule ≠ .beginWhile r := by
    cases prior with
    | some p => exact hwhile p rfl
    | none =>
      intro f hf r hr
      obtain rfl := List.mem_singleton.mp hf
      obtain ⟨q, hq⟩ := (shape_of_ofSource hg).root
      exact absurd (hr.symm.trans hq) nofun
  have rests : ∀ t : Stack, t.frames <:+ (prior.getD (.root g)).frames → (t.closeLine g).reset = t :=
    fun t ht => by
      have hf := fun f hf => goesOn_of_prior hg hp f (ht.subset hf)
      rw [Stack.closeLine_of_goesOn fun f h => (hf f h).1, Stack.reset_of_clean fun f h => (hf f h).2]
  let sc := w.scanner g maxStalled
  have hresume : sc.resume (sc.againAt Scanner.maxLevels) (prior.getD (.root g)) (withoutNewline text ++ ['\n']) 0
      prior.isNone = _ := Scanner.resume_of_noWhile hnone 0 prior.isNone
  have hstart : (sc.resume (sc.againAt Scanner.maxLevels) (prior.getD (.root g))
      (withoutNewline text ++ ['\n']) 0 prior.isNone state).1.stack = prior.getD (.root g) := by
    rw [hresume]
    rfl
  rw [Scanner.line_of_selected hstart hwithin]
  split
  · exact rests _ List.suffix_rfl
  · exact rests _ (Stack.frames_pop_suffix _)

end Grammar

namespace Source

/-- Brackets around places before an `x` and the letter `a`. -/
def keepText : GrammarSource where
  scopeName := "source.keep"
  patterns := [{
    beginPattern := some "[(]"
    endPattern := some "[)]"
    patterns := [{ matchPattern := some "(?=x)" }, { matchPattern := some "a" }] }]

end Source

theorem Rule.ne_beginWhile {r : Rule} (h : (r matches .beginWhile _) = false) : ∀ q, r ≠ .beginWhile q := by
  rintro q rfl
  exact Bool.noConfusion h

/-- Within a bracket a line of letters keeps the stack. The place before an `x` closes the bracket. -/
theorem line_keeps_keepText : ∃ g p, Grammar.ofSource Source.keepText = .ok g ∧ g.Returned p ∧ p.depth = 1 ∧
    (∀ f ∈ p.frames, ∀ r, g.rule f.rule ≠ .beginWhile r) ∧
    let sc := (Memory.means g {}).scanner g 64
    (∀ text ∈ [['a', 'a'], ['a', 'x']],
      ∀ e ∈ sc.selectedIn text (some p) {}, e.2.isWithinLine g = true) ∧
    (sc.line ['a', 'a'] (some p) {}).1.stack = p ∧ (sc.line ['a', 'x'] (some p) {}).1.stack = p.pop := by
  have run : (Grammar.ofSource Source.keepText).toOption.any (fun g =>
      let p := ((Session.mk g {} {}).line ['('] none).1.stack
      let selected := fun text => ((Memory.means g {}).scanner g 64).selectedIn text (some p) {}
      decide (p.depth = 1 ∧ (∀ f ∈ p.frames, (g.rule f.rule matches .beginWhile _) = false) ∧
        (∀ text ∈ [['a', 'a'], ['a', 'x']], ∀ e ∈ selected text, e.2.isWithinLine g = true) ∧
        (selected ['a', 'a']).all Selected.advances = true ∧
        (selected ['a', 'x']).all Selected.advances = false)) = true := by
    decide +kernel
  obtain ⟨g, hg, h⟩ := exists_ok_of_any run
  obtain ⟨hdepth, hwhile, hwithin, hall, hnot⟩ := of_decide_eq_true h
  have returned := Session.returned_line (Session.mk g {} {}) rfl ['('] none nofun
  have hnone := fun f hf => Rule.ne_beginWhile (hwhile f hf)
  have keeps := fun text htext => Grammar.line_keeps hg (Memory.means g {}) 64 text (some _)
    (by rintro _ ⟨⟩; exact returned) (by rintro _ ⟨⟩; exact hnone) {} (hwithin text htext)
  refine ⟨g, _, hg, returned, hdepth, hnone, hwithin, ?_, ?_⟩
  · exact (keeps _ (by decide)).trans (if_pos hall)
  · exact (keeps _ (by decide)).trans (if_neg (Bool.eq_false_iff.mp hnot))

/-- Matches within the line do not always keep the stack. -/
theorem not_line_keeps : ¬ ∀ (source : GrammarSource) (g : Grammar), Grammar.ofSource source = .ok g →
    ∀ (o : Options) (text : List Char) (p : Stack), g.Returned p →
      (∀ f ∈ p.frames, ∀ r, g.rule f.rule ≠ .beginWhile r) →
      (∀ e ∈ ((Memory.means g o).scanner g o.maxStalled).selectedIn text (some p) {},
        e.2.isWithinLine g = true) →
      ((Session.mk g o {}).line text (some p)).1.stack = p := by
  intro keeps
  have run : (Grammar.ofSource Source.keepText).toOption.any (fun g =>
      let p := ((Session.mk g {} {}).line ['('] none).1.stack
      decide ((∀ f ∈ p.frames, (g.rule f.rule matches .beginWhile _) = false) ∧
        (∀ e ∈ ((Memory.means g {}).scanner g 64).selectedIn ['x'] (some p) {}, e.2.isWithinLine g = true) ∧
        ((Session.mk g {} {}).line ['x'] (some p)).1.stack ≠ p)) = true := by
    decide +kernel
  obtain ⟨g, hg, h⟩ := exists_ok_of_any run
  obtain ⟨hwhile, hwithin, hne⟩ := of_decide_eq_true h
  have returned := Session.returned_line (Session.mk g {} {}) rfl ['('] none nofun
  have hnone := fun f hf => Rule.ne_beginWhile (hwhile f hf)
  exact hne (keeps _ g hg {} ['x'] _ returned hnone hwithin)

end ScopeLexer
