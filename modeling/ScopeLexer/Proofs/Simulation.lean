/-
# Two tokenizers side by side

Tokenizing is written for any monad, so two of them can be compared while they work: with grammars and
stacks that are alike, and in monads whose computations are related step by step, a line comes to tokens
that are the same and a stack that is alike.

Key definitions: `Link`, `Means.Linked`, `Scanner.Linked`.
Key theorems: `Scanner.step_linked`, `Scanner.steps_linked`, `Scanner.line_linked`.
-/
import ScopeLexer.Proofs.Likeness

namespace ScopeLexer

open Regex (Captures Cursor)

/-- A relation between the computations of two monads that is passed on from step to step. -/
structure Link (m n : Type → Type) [Monad m] [Monad n] where
  rel : ∀ {α β : Type}, (α → β → Prop) → m α → n β → Prop
  pure : ∀ {α β : Type} {R : α → β → Prop} {a : α} {b : β}, R a b → rel R (Pure.pure a) (Pure.pure b)
  bind : ∀ {α β γ δ : Type} {R : α → β → Prop} {S : γ → δ → Prop} {x : m α} {y : n β} {f : α → m γ}
    {h : β → n δ}, rel R x y → (∀ a b, R a b → rel S (f a) (h b)) → rel S (x >>= f) (y >>= h)

/-- Computations without effects are related by what they come to. -/
def Link.identity : Link Id Id where
  rel R x y := R x y
  pure h := h
  bind hx hf := hf _ _ hx

variable {m n : Type → Type} [Monad m] [Monad n] {K : Link m n} {L : Likeness} {g g' : Grammar}

/-! ### Finding -/

/-- Means that give the same answers. -/
structure Means.Linked (K : Link m n) (L : Likeness) (g g' : Grammar) (w : Means m) (w' : Means n) :
    Prop where
  search : w.search = w'.search
  timeIsOver : K.rel Eq w.timeIsOver w'.timeIsOver
  entries : ∀ {id id'}, L.rule id id' →
    K.rel (List.Forall₂ fun e e' => L.rule e.1 e'.1 ∧ g.pattern e.2 = g'.pattern e'.2) (w.entries id)
      (w'.entries id')
  made : ∀ text, K.rel Eq (w.made text) (w'.made text)

/-- Scanners that find the same. -/
structure Scanner.Linked (K : Link m n) (L : Likeness) (sc : Scanner m) (sc' : Scanner n) :
    Prop where
  grammars : L.Grammars sc.grammar sc'.grammar
  maxStalled : sc.maxStalled = sc'.maxStalled
  timeIsOver : K.rel Eq sc.finder.timeIsOver sc'.finder.timeIsOver
  next : ∀ {f f'} c a, Frame.Alike L f f' →
    K.rel (Option.Rel (Found.Alike L)) (sc.finder.next f c a) (sc'.finder.next f' c a)
  continues : ∀ {f f'} c a, Frame.Alike L f f' →
    K.rel Eq (sc.finder.continues f c a) (sc'.finder.continues f' c a)

theorem Frame.inForce_linked {f f' : Frame} (hf : f.Alike L f') {made : String → m Pattern}
    {made' : String → n Pattern} (hm : ∀ text, K.rel Eq (made text) (made' text))
    {own own' : Option PatternId}
    (ho : Option.Rel (fun p p' => g.pattern p = g'.pattern p') own own') :
    K.rel Eq (f.inForce g made own) (f'.inForce g' made' own') := by
  unfold inForce
  cases ho with
  | none => exact K.pure rfl
  | some ho =>
    rw [hf.endPattern]
    simp only
    split
    · refine K.bind (hm _) ?_
      rintro p _ rfl
      exact K.pure rfl
    · exact K.pure (congrArg some ho)

theorem Means.Linked.scanner {w : Means m} {w' : Means n} (hw : Means.Linked K L g g' w w')
    (hg : L.Grammars g g') (maxStalled : Nat) :
    Scanner.Linked K L (w.scanner g maxStalled) (w'.scanner g' maxStalled) where
  grammars := hg
  maxStalled := rfl
  timeIsOver := hw.timeIsOver
  next := by
    intro f f' c a hf
    have hrule := hg.rules hf.rule
    refine K.bind (Frame.inForce_linked hf hw.made hrule.closing) fun closing closing' hc => ?_
    refine K.bind (hw.entries hf.rule) fun entries entries' he => ?_
    rw [hw.search, hrule.endLast]
    exact K.pure (best_alike _ _ (Grammar.ordered_alike hc _ he) .none)
  continues := by
    intro f f' c a hf
    refine K.bind (Frame.inForce_linked hf hw.made (hg.rules hf.rule).continuing) ?_
    rintro p _ rfl
    split
    · rw [hw.search]
      exact K.pure rfl
    · exact K.pure rfl

/-! ### Groups -/

/-- Texts of groups that come to the same tokens when they are tokenized again. -/
def Again.Linked (K : Link m n) (L : Likeness) (again : Again m) (again' : Again n) : Prop :=
  ∀ {stack stack' : Stack}, stack.Alike L stack' → ∀ text pos firstLine,
    K.rel Eq (again stack text pos firstLine) (again' stack' text pos firstLine)

namespace Sweep

/-- Sweeps over the same match. -/
structure Linked (K : Link m n) (L : Likeness) (w : Sweep m) (w' : Sweep n) : Prop where
  grammars : L.Grammars w.grammar w'.grammar
  again : Option.Rel (Again.Linked K L) w.again w'.again
  stack : w.stack.Alike L w'.stack
  line : w.line = w'.line
  captures : w.captures = w'.captures
  firstLine : w.firstLine = w'.firstLine

variable {w : Sweep m} {w' : Sweep n}

theorem group_linked (hw : Linked K L w w') {again : Again m} {again' : Again n}
    (ha : Again.Linked K L again again') {id id' : RuleId} (hid : L.rule id id') (start stop : Nat)
    (ts : Tokens) : K.rel Eq (w.group again id start stop ts) (w'.group again' id' start stop ts) := by
  have hrule := hw.grammars.rules hid
  unfold group
  simp only [hw.line, hw.captures, hw.firstLine, hw.stack.top.contentScopes, hrule.nameScopes,
    hrule.contentScopes]
  refine K.bind (ha (hw.stack.push ?_) _ _ _) ?_
  · exact ⟨hid, rfl, rfl, rfl, L.flag_refl _, rfl, rfl⟩
  · rintro inner _ rfl
    exact K.pure rfl

theorem run_linked (hw : Linked K L w w') {entries entries' : List (Option RuleId × Option (Nat × Nat))}
    (h : List.Forall₂ (fun e e' => Option.Rel L.rule e.1 e'.1 ∧ e.2 = e'.2) entries entries') :
    ∀ (groups : OpenGroups) (ts : Tokens),
      K.rel Eq (w.run entries groups ts) (w'.run entries' groups ts) := by
  have hend : w.matchEnd = w'.matchEnd := by rw [matchEnd, matchEnd, hw.captures]
  induction h with
  | nil =>
    intro groups ts
    exact K.pure rfl
  | @cons e e' _ _ he _ ih =>
    intro groups ts
    obtain ⟨id, span⟩ := e
    obtain ⟨id', span'⟩ := e'
    obtain ⟨hid, rfl : span = span'⟩ := he
    cases hid with
    | none =>
      unfold run
      exact ih groups ts
    | @some id id' hid =>
      cases span with
      | none =>
        unfold run
        exact ih groups ts
      | some span =>
        have hrule := hw.grammars.rules hid
        unfold run
        rw [hend]
        split
        · exact K.pure rfl
        · split
          · exact ih groups ts
          · simp only [hrule.hasItems, hrule.nameScopes, hw.line, hw.captures,
              hw.stack.top.contentScopes]
            have hagain := hw.again
            generalize w.again = again at hagain ⊢
            generalize w'.again = again' at hagain ⊢
            cases hagain with
            | none => exact ih _ _
            | some ha =>
              cases (w'.grammar.rule id').hasItems with
              | false => exact ih _ _
              | true =>
                refine K.bind (group_linked hw ha hid _ _ _) ?_
                rintro ts _ rfl
                exact ih _ _

theorem tokens_linked (hw : Linked K L w w') {rules rules' : CaptureRules}
    (hr : CaptureRules.Alike L rules rules') (ts : Tokens) :
    K.rel Eq (w.tokens rules ts) (w'.tokens rules' ts) := by
  have hzip : ∀ (captures : Captures) {rules rules' : CaptureRules},
      CaptureRules.Alike L rules rules' →
        List.Forall₂ (fun e e' => Option.Rel L.rule e.1 e'.1 ∧ e.2 = e'.2) (rules.zip captures)
          (rules'.zip captures) := by
    intro captures rules rules' hr
    induction hr generalizing captures with
    | nil => exact .nil
    | cons h _ ih =>
      cases captures with
      | nil => exact .nil
      | cons span captures => exact .cons ⟨h, rfl⟩ (ih captures)
  unfold tokens
  rw [hw.captures]
  exact run_linked hw (hzip w'.captures hr) [] ts

end Sweep

/-! ### Scans -/

structure ScanState.Alike (L : Likeness) (s s' : ScanState) : Prop where
  tokens : s.tokens = s'.tokens
  stack : s.stack.Alike L s'.stack
  pos : s.pos = s'.pos
  anchor : s.anchor = s'.anchor
  firstLine : s.firstLine = s'.firstLine
  stalled : s.stalled = s'.stalled

inductive StepResult.Alike (L : Likeness) : StepResult → StepResult → Prop
  | goOn {s s' : ScanState} (h : s.Alike L s') : Alike L (.goOn s) (.goOn s')
  | stop (ts : Tokens) {stack stack' : Stack} (h : stack.Alike L stack') :
      Alike L (.stop ts stack) (.stop ts stack')

namespace Scanner

structure Continued.Alike (L : Likeness) (k k' : Continued) : Prop where
  tokens : k.tokens = k'.tokens
  stack : k.stack.Alike L k'.stack
  pos : k.pos = k'.pos
  anchor : k.anchor = k'.anchor
  firstLine : k.firstLine = k'.firstLine

variable {sc : Scanner m} {sc' : Scanner n} {again : Option (Again m)} {again' : Option (Again n)}
  {s s' : ScanState} {found found' : Found} {frame frame' : Frame}

theorem sweep_linked (hs : Linked K L sc sc') (ha : Option.Rel (Again.Linked K L) again again')
    {stack stack' : Stack} (hst : stack.Alike L stack') {line : List Char} {firstLine : Bool}
    {rules rules' : CaptureRules} (hr : CaptureRules.Alike L rules rules') {captures : Captures}
    (ts : Tokens) :
    K.rel Eq (sc.sweep again stack line firstLine rules captures ts)
      (sc'.sweep again' stack' line firstLine rules' captures ts) := by
  have hempty : rules.isEmpty = rules'.isEmpty := by cases hr <;> rfl
  unfold sweep
  rw [hempty]
  split
  · exact K.pure rfl
  · refine Sweep.tokens_linked ?_ hr ts
    exact ⟨hs.grammars, ha, hst, rfl, rfl, rfl⟩

theorem advance_linked (hs : Linked K L sc sc') (h : s.Alike L s') (length stop : Nat) :
    (sc.advance length s stop).Alike L (sc'.advance length s' stop) := by
  unfold advance
  rw [hs.maxStalled, h.pos, h.stalled, h.tokens, h.stack.top.contentScopes]
  split
  · exact .goOn { h with tokens := rfl, pos := rfl, firstLine := rfl, stalled := rfl }
  · split
    · exact .stop _ h.stack
    · exact .goOn { h with tokens := rfl, pos := rfl, stalled := rfl }

theorem endSpan_linked (hs : Linked K L sc sc') (ha : Option.Rel (Again.Linked K L) again again')
    (line : List Char) (length : Nat) (h : s.Alike L s') (hf : found.Alike L found') :
    K.rel (StepResult.Alike L) (sc.endSpan again line length s found)
      (sc'.endSpan again' line length s' found') := by
  have hrules := (hs.grammars.rules h.stack.top.rule).endCaptures
  have hstrip := h.stack.withContent s'.stack.top.nameScopes
  unfold endSpan
  simp only [h.tokens, h.stack.top.contentScopes, h.stack.top.nameScopes, h.stack.top.entered,
    h.stack.top.anchor, h.pos, h.firstLine, hf.start, hf.stop, hf.captures]
  refine K.bind (sweep_linked hs ha hstrip hrules _) ?_
  rintro ts _ rfl
  rw [hstrip.top.contentScopes]
  have hpop := hstrip.pop?
  generalize (s.stack.withContent _).pop? = outer at hpop ⊢
  generalize (s'.stack.withContent _).pop? = outer' at hpop ⊢
  cases hpop with
  | none => exact K.pure (.stop _ hstrip)
  | some hpop =>
    simp only
    split
    · exact K.pure (.stop _ hstrip)
    · refine K.pure (advance_linked hs ?_ length _)
      exact { h with tokens := rfl, stack := hpop, pos := rfl, anchor := rfl, firstLine := rfl }

theorem opened_alike (hf : frame.Alike L frame') {rule rule' : Rule}
    (hr : rule.Alike L g g' rule') {span span' : SpanRule} (hspan : span.Alike L g g' span')
    (line : List Char) (captures : Captures) :
    (frame.opened g line captures rule span).Alike L
      (frame'.opened g' line captures rule' span') := by
  refine { hf with contentScopes := ?_, endPattern := ?_ }
  · simp only [Frame.opened, hf.nameScopes, hr.contentScopes]
  · simp only [Frame.opened, hspan.closingRefers, hspan.closing]

theorem beginSpan_linked (hs : Linked K L sc sc') (ha : Option.Rel (Again.Linked K L) again again')
    (line : List Char) (length : Nat) (h : s.Alike L s') (hf : found.Alike L found')
    {rule rule' : Rule} (hr : rule.Alike L sc.grammar sc'.grammar rule') {span span' : SpanRule}
    (hspan : span.Alike L sc.grammar sc'.grammar span') (hframe : frame.Alike L frame')
    (ts : Tokens) :
    K.rel (StepResult.Alike L) (sc.beginSpan again line length s found rule span frame ts)
      (sc'.beginSpan again' line length s' found' rule' span' frame' ts) := by
  have hopened := opened_alike hframe hr hspan line found'.captures
  have hagain := Stack.entersAgain_eq hopened h.stack.frames
  unfold beginSpan
  simp only [h.firstLine, hf.captures, hf.stop, h.pos, hagain, hframe.contentScopes,
    h.stack.top.contentScopes]
  refine K.bind (sweep_linked hs ha (h.stack.push hframe) hspan.openingCaptures _) ?_
  rintro ts _ rfl
  split
  · exact K.pure (.stop _ h.stack)
  · refine K.pure (advance_linked hs ?_ length _)
    exact { h with tokens := rfl, stack := h.stack.push hopened, pos := rfl, anchor := rfl,
                   firstLine := rfl }

theorem matchTokens_linked (hs : Linked K L sc sc')
    (ha : Option.Rel (Again.Linked K L) again again') (line : List Char) (h : s.Alike L s')
    (hf : found.Alike L found') {rule rule' : Rule}
    (hr : rule.Alike L sc.grammar sc'.grammar rule') (hframe : frame.Alike L frame') (ts : Tokens) :
    K.rel Eq (sc.matchTokens again line s found frame ts rule)
      (sc'.matchTokens again' line s' found' frame' ts rule') := by
  unfold matchTokens
  cases hr with
  | matching _ captures =>
    simp only [h.firstLine, hf.captures, hf.stop, hframe.contentScopes]
    refine K.bind (sweep_linked hs ha (h.stack.push hframe) captures _) ?_
    rintro ts _ rfl
    exact K.pure rfl
  | _ => exact K.pure rfl

theorem matchRule_linked (hs : Linked K L sc sc')
    (ha : Option.Rel (Again.Linked K L) again again') (line : List Char) (length : Nat)
    (h : s.Alike L s') (hf : found.Alike L found') {rule rule' : Rule}
    (hr : rule.Alike L sc.grammar sc'.grammar rule') (hframe : frame.Alike L frame') (ts : Tokens) :
    K.rel (StepResult.Alike L) (sc.matchRule again line length s found rule frame ts)
      (sc'.matchRule again' line length s' found' rule' frame' ts) := by
  unfold matchRule
  refine K.bind (matchTokens_linked hs ha line h hf hr hframe ts) ?_
  rintro ts _ rfl
  simp only [hf.stop, h.pos, h.stack.pop.top.contentScopes]
  split
  · exact K.pure (.stop _ h.stack.pop)
  · refine K.pure (advance_linked hs ?_ length _)
    exact { h with tokens := rfl, pos := rfl }

theorem take_linked (hs : Linked K L sc sc') (ha : Option.Rel (Again.Linked K L) again again')
    (line : List Char) (length : Nat) (h : s.Alike L s') (hf : found.Alike L found') :
    K.rel (StepResult.Alike L) (sc.take again line length s found)
      (sc'.take again' line length s' found') := by
  obtain ⟨candidate, start, stop, captures⟩ := found
  obtain ⟨candidate', start', stop', captures'⟩ := found'
  obtain ⟨hc, rfl : start = start', rfl : stop = stop', rfl : captures = captures'⟩ := hf
  have hf : Found.Alike L ⟨candidate, start, stop, captures⟩ ⟨candidate', start, stop, captures⟩ :=
    ⟨hc, rfl, rfl, rfl⟩
  cases hc with
  | stop => exact endSpan_linked hs ha line length h hf
  | @rule id id' hid =>
    have hr := hs.grammars.rules hid
    unfold take
    simp only [h.tokens, h.stack.top.contentScopes, hr.nameScopes, h.anchor, h.pos]
    -- The frame for the match, the same in both but for the number of its rule.
    have hframe : ∀ scopes, Frame.Alike L
        ⟨id, scopes, scopes, none, stop == length, s'.anchor, some s'.pos⟩
        ⟨id', scopes, scopes, none, stop == length, s'.anchor, some s'.pos⟩ := fun scopes =>
      ⟨hid, rfl, rfl, rfl, L.flag_refl _, rfl, rfl⟩
    generalize sc.grammar.rule id = rule at hr ⊢
    generalize sc'.grammar.rule id' = rule' at hr ⊢
    cases hr with
    | beginEnd span endLast carriesOver =>
      exact beginSpan_linked hs ha line length h hf (.beginEnd span endLast carriesOver) span (hframe _) _
    | beginWhile span =>
      exact beginSpan_linked hs ha line length h hf (.beginWhile span) span (hframe _) _
    | matching name captures =>
      exact matchRule_linked hs ha line length h hf (.matching name captures) (hframe _) _
    | group name contentName items =>
      exact matchRule_linked hs ha line length h hf (.group name contentName items) (hframe _) _
    | noop => exact matchRule_linked hs ha line length h hf .noop (hframe _) _

/-- **A step comes to what is alike.** -/
theorem step_linked (hs : Linked K L sc sc') (ha : Option.Rel (Again.Linked K L) again again')
    (line : List Char) (length : Nat) (h : s.Alike L s') :
    K.rel (StepResult.Alike L) (sc.step again line length s) (sc'.step again' line length s') := by
  have hnext : K.rel (Option.Rel (Found.Alike L)) (sc.next line s) (sc'.next line s') := by
    unfold next
    rw [h.pos, h.firstLine, h.anchor]
    split
    · exact hs.next _ _ h.stack.top
    · exact K.pure .none
  unfold step
  refine K.bind hs.timeIsOver ?_
  rintro late _ rfl
  rw [h.tokens, hs.grammars.scope, h.stack.top.contentScopes]
  split
  · exact K.pure (.stop _ h.stack)
  · refine K.bind hnext fun found found' hf => ?_
    cases hf with
    | none => exact K.pure (.stop _ h.stack)
    | some hf => exact take_linked hs ha line length h hf

theorem steps_linked (hs : Linked K L sc sc') (ha : Option.Rel (Again.Linked K L) again again')
    (line : List Char) (length fuel : Nat) : ∀ {s s' : ScanState}, s.Alike L s' →
      K.rel (fun r r' => r.1 = r'.1 ∧ r.2.Alike L r'.2) (sc.steps again line length fuel s)
        (sc'.steps again' line length fuel s') := by
  induction fuel with
  | zero =>
    intro s s' h
    refine K.pure ⟨?_, h.stack⟩
    simp only [h.tokens, h.stack.top.contentScopes]
  | succ fuel ih =>
    intro s s' h
    unfold steps
    refine K.bind (step_linked hs ha line length h) fun r r' hr => ?_
    cases hr with
    | stop ts hst => exact K.pure ⟨rfl, hst⟩
    | goOn h => exact ih h

/-! ### Spans that continue -/

theorem continuing_linked (hs : Linked K L sc sc') (line : List Char) {f f' : Frame}
    (hf : f.Alike L f') {k k' : Continued} (h : k.Alike L k') :
    K.rel Eq (sc.continuing line f k) (sc'.continuing line f' k') := by
  unfold continuing
  rw [h.pos, h.firstLine, h.anchor]
  split
  · refine K.bind (hs.continues _ _ hf) ?_
    rintro captures _ rfl
    exact K.pure rfl
  · exact K.pure rfl

theorem upTo_alike {k k' : Continued} (h : k.Alike L k') (ts : Tokens) (stop : Nat) :
    (k.upTo ts stop).Alike L (k'.upTo ts stop) := by
  unfold Continued.upTo
  simp only [h.pos]
  split
  · exact ⟨rfl, h.stack, rfl, rfl, rfl⟩
  · exact ⟨rfl, h.stack, rfl, rfl, h.firstLine⟩

theorem continueSpans_linked (hs : Linked K L sc sc')
    (ha : Option.Rel (Again.Linked K L) again again') (line : List Char) {inners inners' : List Stack}
    (hi : List.Forall₂ (Stack.Alike L) inners inners') : ∀ {k k' : Continued}, k.Alike L k' →
      K.rel (Continued.Alike L) (sc.continueSpans again line inners k)
        (sc'.continueSpans again' line inners' k') := by
  induction hi with
  | nil =>
    intro k k' h
    exact K.pure h
  | @cons inner inner' _ _ hinner _ ih =>
    intro k k' h
    have hrule := hs.grammars.rules hinner.top.rule
    unfold continueSpans
    generalize sc.grammar.rule inner.top.rule = rule at hrule ⊢
    generalize sc'.grammar.rule inner'.top.rule = rule' at hrule ⊢
    cases hrule with
    | beginWhile span =>
      simp only [h.tokens, h.pos, h.firstLine, hinner.top.contentScopes]
      refine K.bind (continuing_linked hs line hinner.top h) ?_
      rintro found _ rfl
      split
      · refine K.bind (sweep_linked hs ha hinner span.closingCaptures _) ?_
        rintro ts _ rfl
        exact ih (upTo_alike h _ _)
      · exact K.pure ⟨rfl, hinner.pop, rfl, h.anchor, rfl⟩
    | _ => exact ih h

theorem prefixes_alike {fs fs' : List Frame} (h : List.Forall₂ (Frame.Alike L) fs fs') :
    List.Forall₂ (Stack.Alike L) (prefixes fs) (prefixes fs') := by
  induction h with
  | nil => exact .nil
  | cons hf hfs ih => exact List.rel_append ih (.cons ⟨hf, hfs⟩ .nil)

/-- Where the innermost frame was opened at the end of its line matters only where spans must continue. -/
theorem enter_linked (hs : Linked K L sc sc') (ha : Option.Rel (Again.Linked K L) again again')
    (line : List Char) {stack stack' : Stack} (h : stack.Alike L stack') (pos : Nat) (firstLine : Bool)
    {continuing : Bool}
    (hflag : continuing = true → stack.top.reachedEnd = stack'.top.reachedEnd) :
    K.rel (Continued.Alike L) (sc.enter again stack line pos firstLine continuing)
      (sc'.enter again' stack' line pos firstLine continuing) := by
  cases continuing with
  | false => exact K.pure ⟨rfl, h, rfl, rfl, rfl⟩
  | true =>
    unfold enter resume
    rw [hflag rfl]
    exact continueSpans_linked hs ha line (prefixes_alike h.frames) ⟨rfl, h, rfl, rfl, rfl⟩

/-! ### Lines -/

theorem stepBound_eq (hs : Linked K L sc sc') (length pos : Nat) :
    sc.stepBound length pos = sc'.stepBound length pos := by
  rw [stepBound, stepBound, hs.maxStalled]

theorem scanWith_linked (hs : Linked K L sc sc') (ha : Option.Rel (Again.Linked K L) again again')
    (line : List Char) (pos : Nat) (firstLine : Bool) {continuing : Bool} {stack stack' : Stack}
    (h : stack.Alike L stack')
    (hflag : continuing = true → stack.top.reachedEnd = stack'.top.reachedEnd) :
    K.rel (fun r r' => r.1 = r'.1 ∧ r.2.Alike L r'.2)
      (sc.scanWith again stack line pos firstLine continuing)
      (sc'.scanWith again' stack' line pos firstLine continuing) := by
  unfold scanWith
  refine K.bind (enter_linked hs ha line h pos firstLine hflag) fun k k' hk => ?_
  rw [stepBound_eq hs]
  exact steps_linked hs ha line _ _ ⟨hk.tokens, hk.stack, hk.pos, hk.anchor, hk.firstLine, rfl⟩

theorem scan_linked (hs : Linked K L sc sc') (levels : Nat) :
    ∀ {stack stack' : Stack} (line : List Char) (pos : Nat) (firstLine : Bool) {continuing : Bool},
      stack.Alike L stack' →
      (continuing = true → stack.top.reachedEnd = stack'.top.reachedEnd) →
        K.rel (fun r r' => r.1 = r'.1 ∧ r.2.Alike L r'.2)
          (sc.scan levels stack line pos firstLine continuing)
          (sc'.scan levels stack' line pos firstLine continuing) := by
  induction levels with
  | zero =>
    intro stack stack' line pos firstLine continuing h hflag
    exact scanWith_linked hs .none line pos firstLine h hflag
  | succ levels ih =>
    intro stack stack' line pos firstLine continuing h hflag
    refine scanWith_linked hs (.some fun h text pos firstLine => ?_) line pos firstLine h hflag
    exact K.bind (ih text pos firstLine h nofun) fun r r' hr => K.pure hr.1

/-- Stacks that a line cannot tell apart. -/
def Carried (L : Likeness) (s s' : Stack) : Prop :=
  s.Alike L s' ∧ s.top.reachedEnd = s'.top.reachedEnd

/-- **A line comes to the same tokens, and to a stack that is alike.** -/
theorem line_linked (hs : Linked K L sc sc') (text : List Char) {prior prior' : Option Stack}
    (hp : Option.Rel (Carried L) prior prior') :
    K.rel (fun r r' => r.tokens = r'.tokens ∧ r.stack.Alike L r'.stack) (sc.line text prior)
      (sc'.line text prior') := by
  have hfirst : prior.isNone = prior'.isNone := by cases hp <;> rfl
  have hstack : Carried L (prior.getD (.root sc.grammar)) (prior'.getD (.root sc'.grammar)) := by
    cases hp with
    | none => exact ⟨.root hs.grammars, rfl⟩
    | some hp => exact hp
  unfold line
  rw [hfirst]
  refine K.bind (scan_linked hs maxLevels _ 0 _ hstack.1 fun _ => hstack.2) fun r r' hr => ?_
  obtain ⟨hts, hst⟩ := hr
  exact K.pure ⟨congrArg (Tokens.finish · _) hts, (hst.closeLine hs.grammars).reset⟩

/-- Lines one after the other come to the same tokens, if no flags differ. -/
theorem lines_linked (hs : Linked K L sc sc') (hflag : ∀ {b b'}, L.flag b b' → b = b')
    (texts : List (List Char)) : ∀ {prior prior' : Option Stack},
      Option.Rel (Carried L) prior prior' →
        K.rel Eq (sc.lines texts prior) (sc'.lines texts prior') := by
  induction texts with
  | nil =>
    intro prior prior' hp
    exact K.pure rfl
  | cons text texts ih =>
    intro prior prior' hp
    unfold lines
    refine K.bind (line_linked hs text hp) fun r r' hr => ?_
    refine K.bind (ih (.some ⟨hr.2, hflag hr.2.top.reachedEnd⟩)) ?_
    rintro others _ rfl
    exact K.pure (congrArg (· :: others) hr.1)

end Scanner
end ScopeLexer
