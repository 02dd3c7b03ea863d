/-
# What a step of a scan does

A step that finds a match does two things. It makes the tokens of the match, by a sweep over its groups within
some stack, and then it settles where the scan goes on, or that it ends. Only the first has effects; the second
is a function of the match and of its tokens. Taken apart like this a step need not be unfolded again: what it
does to the tokens is told by the sweep, and all the rest by `settle`.

Key definitions: `ScanState.frameFor`, `Scanner.matched`, `Scanner.settle`, `Scanner.Stepped`,
`Scanner.GoesOn`.
Key theorems: `Scanner.take_eq`, `Scanner.step_stepped`, `Scanner.settle_goOn`.
-/
import ScopeLexer.Proofs.ScanCovers

namespace ScopeLexer

open Text (width)

/-- The rules for the groups of the match that a rule is found by. -/
def Rule.matchRules? : Rule → Option CaptureRules
  | .matching r => some r.captures
  | .beginEnd r => some r.openingCaptures
  | .beginWhile r => some r.openingCaptures
  | _ => none

/-- The frame for a match of a rule. -/
def ScanState.frameFor (s : ScanState) (g : Grammar) (line : List Char) (x : Found) (id : RuleId) :
    Frame :=
  let scopes := s.stack.top.contentScopes ++ (g.rule id).nameScopes line x.captures
  { rule := id, nameScopes := scopes, contentScopes := scopes,
    reachedEnd := x.stop == width line, anchor := s.anchor, entered := some s.pos }

/-- Where a step goes on. -/
def StepResult.next? : StepResult → Option ScanState
  | .goOn s => some s
  | .stop _ _ => none

theorem StepResult.next?_eq_some {r : StepResult} {s : ScanState} : r.next? = some s ↔ r = .goOn s := by
  cases r <;> simp [StepResult.next?]

namespace Scanner

section

variable {m : Type → Type} [Monad m] (sc : Scanner m) (again : Option (Again m)) (line : List Char)
  (s : ScanState) (x : Found)

/-- The stack within which the groups of a match are swept: the content of a span has no scopes at its end, and
any other match has a frame of its own. -/
def around : Stack :=
  match x.candidate with
  | .stop => s.stack.withContent s.stack.top.nameScopes
  | .rule id => s.stack.push (s.frameFor sc.grammar line x id)

/-- The rules for the groups of a match. -/
def rulesFor? : Option CaptureRules :=
  match x.candidate with
  | .stop => some (sc.grammar.rule s.stack.top.rule).endCaptures
  | .rule id => (sc.grammar.rule id).matchRules?

/-- The tokens up to the end of a match. -/
def matched : m Tokens :=
  let ts := s.tokens.produce x.start s.stack.top.contentScopes
  match sc.rulesFor? s x with
  | some rules => do
    let ts ← sc.sweep again (sc.around line s x) line s.firstLine rules x.captures ts
    return ts.produce x.stop (sc.around line s x).top.contentScopes
  | none => return ts

/-- Where a scan goes on after the end of a span. -/
def settleEnd (ts : Tokens) : StepResult :=
  let bare := s.stack.withContent s.stack.top.nameScopes
  match bare.pop? with
  | none => .stop ts bare
  | some outer =>
    if x.stop ≤ s.pos ∧ s.stack.top.entered = some s.pos then
      .stop (ts.produce (width line) bare.top.contentScopes) bare
    else
      sc.advance (width line) { s with tokens := ts, stack := outer, anchor := s.stack.top.anchor } x.stop

/-- Where a scan goes on after the beginning of a span, whose frame is still to be opened. -/
def settleBegin (rule : Rule) (span : SpanRule) (frame : Frame) (ts : Tokens) : StepResult :=
  let frame := frame.opened sc.grammar line x.captures rule span
  if x.stop ≤ s.pos ∧ Stack.entersAgain frame s.stack.frames = true then
    .stop (ts.produce (width line) s.stack.top.contentScopes) s.stack
  else
    sc.advance (width line) { s with tokens := ts, stack := s.stack.push frame, anchor := some x.stop }
      x.stop

/-- Where a scan goes on after any other match. -/
def settleMatch (ts : Tokens) : StepResult :=
  if x.stop ≤ s.pos then .stop (ts.produce (width line) s.stack.pop.top.contentScopes) s.stack.pop
  else sc.advance (width line) { s with tokens := ts } x.stop

/-- Where a scan goes on after a match with its tokens, or that it ends. -/
def settle (ts : Tokens) : StepResult :=
  match x.candidate with
  | .stop => sc.settleEnd line s x ts
  | .rule id =>
    match (sc.grammar.rule id).span? with
    | some span =>
      sc.settleBegin line s x (sc.grammar.rule id) span (s.frameFor sc.grammar line x id) ts
    | none => sc.settleMatch line s x ts

/-- The match that a scan goes by, if there is one and the time is not over. -/
def found? : m (Option Found) := do
  if ← sc.finder.timeIsOver then return none
  else sc.next line s

variable {sc again line s x}

theorem endSpan_eq [LawfulMonad m] (hx : x.candidate = .stop) :
    sc.endSpan again line (width line) s x = sc.settleEnd line s x <$> sc.matched again line s x := by
  simp only [endSpan, matched, rulesFor?, around, hx, settleEnd, map_bind, map_pure]
  congr 1
  funext ts
  cases (s.stack.withContent s.stack.top.nameScopes).pop? with
  | none => rfl
  | some outer =>
    simp only
    split <;> rfl

theorem beginSpan_eq [LawfulMonad m] {id : RuleId} {rule : Rule} {span : SpanRule}
    (hx : x.candidate = .rule id) (hr : sc.grammar.rule id = rule) (hspan : rule.span? = some span) :
    sc.beginSpan again line (width line) s x rule span (s.frameFor sc.grammar line x id)
        (s.tokens.produce x.start s.stack.top.contentScopes) =
      sc.settleBegin line s x rule span (s.frameFor sc.grammar line x id) <$>
        sc.matched again line s x := by
  have hrules : rule.matchRules? = some span.openingCaptures := by
    cases rule with
    | beginEnd r => exact congrArg some (congrArg SpanRule.openingCaptures (Option.some.inj hspan))
    | beginWhile r => exact congrArg some (congrArg SpanRule.openingCaptures (Option.some.inj hspan))
    | _ => contradiction
  simp only [beginSpan, matched, rulesFor?, around, hx, hr, hrules, settleBegin, map_bind, map_pure]
  congr 1
  funext ts
  split <;> rfl

theorem matchRule_eq [LawfulMonad m] {id : RuleId} {rule : Rule} (hx : x.candidate = .rule id)
    (hr : sc.grammar.rule id = rule) (hspan : rule.span? = none) :
    sc.matchRule again line (width line) s x rule (s.frameFor sc.grammar line x id)
        (s.tokens.produce x.start s.stack.top.contentScopes) =
      sc.settleMatch line s x <$> sc.matched again line s x := by
  have htokens : sc.matchTokens again line s x (s.frameFor sc.grammar line x id)
      (s.tokens.produce x.start s.stack.top.contentScopes) rule = sc.matched again line s x := by
    simp only [matched, rulesFor?, around, hx, hr]
    cases rule with
    | beginEnd r => contradiction
    | beginWhile r => contradiction
    | _ => rfl
  rw [matchRule, htokens, map_eq_pure_bind]
  congr 1
  funext ts
  unfold settleMatch
  split <;> rfl

/-- **A match is swept, and then it is settled where the scan goes on.** -/
theorem take_eq [LawfulMonad m] :
    sc.take again line (width line) s x = sc.settle line s x <$> sc.matched again line s x := by
  cases hx : x.candidate with
  | stop =>
    have hsettle : sc.settle line s x = sc.settleEnd line s x := by
      funext ts
      simp only [settle, hx]
    rw [hsettle, ← endSpan_eq hx, take]
    simp only [hx]
  | rule id =>
    cases hspan : (sc.grammar.rule id).span? with
    | some span =>
      have hsettle : sc.settle line s x = sc.settleBegin line s x (sc.grammar.rule id) span
          (s.frameFor sc.grammar line x id) := by
        funext ts
        simp only [settle, hx, hspan]
      rw [hsettle, ← beginSpan_eq hx rfl hspan, take]
      simp only [hx]
      split
      · rename_i r hr
        obtain rfl : r.toSpanRule = span := by simpa [hr, Rule.span?] using hspan
        rfl
      · rename_i r hr
        obtain rfl : r = span := by simpa [hr, Rule.span?] using hspan
        rfl
      · rename_i hend hwhile
        cases hr : sc.grammar.rule id with
        | beginEnd r => exact absurd hr (hend r)
        | beginWhile r => exact absurd hr (hwhile r)
        | _ => simp [hr, Rule.span?] at hspan
    | none =>
      have hsettle : sc.settle line s x = sc.settleMatch line s x := by
        funext ts
        simp only [settle, hx, hspan]
      rw [hsettle, ← matchRule_eq hx rfl hspan, take]
      simp only [hx]
      split
      · rename_i r hr
        simp [hr, Rule.span?] at hspan
      · rename_i r hr
        simp [hr, Rule.span?] at hspan
      · rfl

end

/-! ### Going on -/

variable {m : Type → Type} {sc : Scanner m} {line : List Char} {s s' : ScanState} {x : Found} {ts : Tokens}
  {length stop : Nat}

/-- A scan that goes on has moved, or has stayed where it is once more, which is not too often. -/
theorem advance_goOn (h : sc.advance length s stop = .goOn s') :
    s'.tokens = s.tokens ∧ s'.stack = s.stack ∧
      (s.pos < stop ∧ s'.pos = stop ∧ s'.stalled = 0 ∨
        stop ≤ s.pos ∧ s'.pos = s.pos ∧ s'.stalled = s.stalled + 1 ∧ s'.stalled < sc.maxStalled) := by
  unfold advance at h
  split at h
  · rename_i hlt
    obtain rfl := StepResult.goOn.inj h
    exact ⟨rfl, rfl, .inl ⟨hlt, rfl, rfl⟩⟩
  · rename_i hge
    split at h
    · contradiction
    · rename_i hfew
      obtain rfl := StepResult.goOn.inj h
      exact ⟨rfl, rfl, .inr ⟨Nat.le_of_not_lt hge, rfl, rfl, Nat.lt_of_not_le hfew⟩⟩

/-- A scan that goes on after a match goes on from its tokens. -/
theorem settle_goOn (h : sc.settle line s x ts = .goOn s') :
    s'.tokens = ts ∧
      (s.pos < x.stop ∧ s'.pos = x.stop ∧ s'.stalled = 0 ∨
        x.stop ≤ s.pos ∧ s'.pos = s.pos ∧ s'.stalled = s.stalled + 1 ∧ s'.stalled < sc.maxStalled) := by
  obtain ⟨t, hadvance, rfl, hpos, hstalled⟩ : ∃ t : ScanState,
      sc.advance (width line) t x.stop = .goOn s' ∧ t.tokens = ts ∧ t.pos = s.pos ∧
        t.stalled = s.stalled := by
    simp only [settle, settleEnd, settleBegin, settleMatch] at h
    repeat' split at h
    all_goals first
      | contradiction
      | exact ⟨_, h, rfl, rfl, rfl⟩
  rw [← hpos, ← hstalled]
  obtain ⟨htokens, -, hmoved⟩ := advance_goOn hadvance
  exact ⟨htokens, hmoved⟩

theorem settle_pos (h : sc.settle line s x ts = .goOn s') : s'.pos = max s.pos x.stop := by
  obtain ⟨-, ⟨hlt, hpos, -⟩ | ⟨hle, hpos, -⟩⟩ := settle_goOn h <;> omega

/-! ### Steps -/

section

variable {σ : Type} (sc : Scanner (StateM σ)) (again : Option (Again (StateM σ))) (line : List Char)

/-- What a step can come to: the time is over, nothing matches, or a match is taken. -/
inductive Stepped (s : ScanState) : StepResult → Prop
  | late (state : σ) (h : (sc.finder.timeIsOver state).1 = true) :
      Stepped s (.stop (s.tokens.produce (width line) [sc.grammar.scope]) s.stack)
  | unmatched : Stepped s (.stop (s.tokens.produce (width line) s.stack.top.contentScopes) s.stack)
  | taken (state state' : σ) {x : Found} (hx : (sc.next line s state).1 = some x) :
      Stepped s (sc.settle line s x (sc.matched again line s x state').1)

/-- A scan goes on with a match from one state to another. -/
structure GoesOn (x : Found) (a b : ScanState × σ) : Prop where
  found : (sc.found? line a.1 a.2).1 = some x
  step : sc.step again line (width line) a.1 a.2 = (.goOn b.1, b.2)

variable {sc again line} {a b : ScanState × σ}

theorem GoesOn.of_next? {s' : ScanState} (h : (sc.found? line a.1 a.2).1 = some x)
    (hnext : (sc.step again line (width line) a.1 a.2).1.next? = some s') :
    sc.GoesOn again line x a (s', (sc.step again line (width line) a.1 a.2).2) :=
  ⟨h, Prod.ext (StepResult.next?_eq_some.mp hnext) rfl⟩

/-- **What a step does**, from any state of what it works with. -/
theorem step_stepped (s : ScanState) :
    Always (sc.step again line (width line) s) (sc.Stepped again line s) := by
  have outcome : ∀ {α : Type} (y : StateM σ α), Always y fun a => ∃ state, (y state).1 = a :=
    fun y state => ⟨state, rfl⟩
  unfold step
  refine .bind (outcome _) ?_
  rintro late ⟨state, hlate⟩
  split
  · exact .pure (.late state (hlate.trans ‹_›))
  · refine .bind (outcome _) ?_
    rintro found ⟨state₁, hfound⟩
    split
    · exact .pure .unmatched
    · rw [take_eq]
      exact fun state₂ => .taken state₁ state₂ hfound

/-- A step with a match takes the match. -/
theorem step_of_found {state : σ} (h : (sc.found? line s state).1 = some x) :
    sc.step again line (width line) s state =
      (sc.settle line s x <$> sc.matched again line s x) (sc.found? line s state).2 := by
  have hbind : ∀ {α β : Type} (y : StateM σ α) (f : α → StateM σ β) (state : σ),
      (y >>= f) state = f (y state).1 (y state).2 := fun _ _ _ => rfl
  rw [← take_eq]
  unfold found? at h ⊢
  unfold step
  simp only [hbind] at h ⊢
  cases hlate : (sc.finder.timeIsOver state).1 with
  | true =>
    rw [hlate] at h
    exact absurd (show none = some x from h) nofun
  | false =>
    rw [hlate] at h
    simp only [Bool.false_eq_true, if_false, hbind] at h ⊢
    rw [h]

/-- The match that a scan goes by is the one that comes next. -/
theorem exists_next_of_found {state : σ} (h : (sc.found? line s state).1 = some x) :
    ∃ state', (sc.next line s state').1 = some x := by
  have hfound : Always (sc.found? line s) fun found =>
      ∀ y, found = some y → ∃ state', (sc.next line s state').1 = some y := by
    unfold found?
    refine .bind' fun late => ?_
    split
    · exact .pure nofun
    · exact fun state y hy => ⟨state, hy⟩
  exact hfound state x h

theorem GoesOn.found_in (hs : sc.FindsInText) (h : sc.GoesOn again line x a b) :
    x.In line ∧ (x.candidate = .stop → ∃ r, sc.grammar.rule a.1.stack.top.rule = .beginEnd r) := by
  obtain ⟨state, hnext⟩ := exists_next_of_found h.found
  exact next_in hs a.1 state x hnext

/-- The tokens of the match are settled to the state that the scan goes on from. -/
theorem GoesOn.settled (h : sc.GoesOn again line x a b) : ∃ state,
    sc.settle line a.1 x (sc.matched again line a.1 x state).1 = .goOn b.1 := by
  refine ⟨(sc.found? line a.1 a.2).2, ?_⟩
  have hstep := h.step
  rw [step_of_found h.found] at hstep
  exact congrArg Prod.fst hstep

end

end Scanner
end ScopeLexer
