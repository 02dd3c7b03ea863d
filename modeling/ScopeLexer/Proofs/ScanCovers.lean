/-
# A scan covers its text

If a search finds only what lies in the text, then whatever a scan produces ends where a character begins
and has the scope of the grammar, and every way in which a scan can end reaches to the end of the text:
no match, a step that would repeat, the end of the time, too many steps that stay. Texts of groups are
scanned again within this, level by level.

Key definitions: `Search.StaysInText`, `Scanner.FindsInText`, `StepResult.Grows`.
Key theorems: `Scanner.step_grows`, `Scanner.steps_grows`, `Scanner.scan_grows`.
-/
import ScopeLexer.Proofs.MatchInText
import ScopeLexer.Proofs.TokenGrowth

namespace ScopeLexer

open Regex (Captures Cursor)
open Text (Boundary width)

variable {σ : Type}

/-! ### Finding -/

/-- What is found lies in the text, whatever is searched for. -/
def Search.StaysInText (search : Search) : Prop :=
  ∀ p a c text captures, c.In text → search p a c = some captures → InText text captures

theorem Options.search_staysInText (o : Options) : o.search.StaysInText := by
  intro p a c text captures hc h start stop hmem
  obtain ⟨program, -, h⟩ := Option.bind_eq_some_iff.mp h
  exact Regex.boundary_of_searchAt hc h hmem

/-- The whole match of a pattern is the first of its groups, and ends where it begins or further on. -/
theorem Options.search_span {o : Options} {p : Pattern} {a : Anchors} {c : Cursor} {captures : Captures}
    (h : o.search p a c = some captures) :
    ∃ start stop, captures.head? = some (some (start, stop)) ∧ start ≤ stop := by
  obtain ⟨program, -, h⟩ := Option.bind_eq_some_iff.mp h
  exact Regex.exists_span_of_searchAt h

/-- A match in a text. -/
structure Found.In (x : Found) (text : List Char) : Prop where
  start : Boundary text x.start
  stop : Boundary text x.stop
  captures : InText text x.captures

theorem Found.ofCaptures_in {candidate : Candidate} {captures : Captures} {x : Found}
    {text : List Char} (hc : InText text captures) (h : ofCaptures candidate captures = some x) :
    x.In text ∧ x.candidate = candidate := by
  unfold ofCaptures at h
  split at h
  · rename_i start stop rest
    obtain rfl := Option.some.inj h
    obtain ⟨hstart, hstop⟩ := hc start stop List.mem_cons_self
    exact ⟨⟨hstart, hstop, hc⟩, rfl⟩
  · contradiction

theorem Found.better_eq (found : Option Found) (new : Found) :
    found = some (better found new) ∨ better found new = new := by
  unfold better
  split
  · exact .inr rfl
  · split
    · exact .inl rfl
    · exact .inr rfl

/-- A match of one of the candidates. -/
def Matched {α : Type} (search : α → Option Captures) (candidates : List (Candidate × α))
    (x : Found) : Prop :=
  ∃ e ∈ candidates, ∃ captures, search e.2 = some captures ∧
    Found.ofCaptures e.1 captures = some x

theorem Matched.cons {α : Type} {search : α → Option Captures} {e : Candidate × α}
    {rest : List (Candidate × α)} {x : Found} : Matched search rest x → Matched search (e :: rest) x
  | ⟨e', he', hx⟩ => ⟨e', List.mem_cons_of_mem _ he', hx⟩

/-- The best match is one that there was before, or one of the candidates'. -/
theorem best_matched {α : Type} {search : α → Option Captures} {pos : Nat} {x : Found} :
    ∀ {candidates : List (Candidate × α)} {found : Option Found},
      best search pos found candidates = some x → found = some x ∨ Matched search candidates x
  | [], found, h => .inl h
  | (candidate, p) :: rest, found, h => by
    unfold best at h
    split at h
    · exact (best_matched h).imp_right .cons
    · rename_i new hnew
      have chosen : found = some (Found.better found new) ∨
          Matched search ((candidate, p) :: rest) (Found.better found new) := by
        rcases Found.better_eq found new with hold | heq
        · exact .inl hold
        · obtain ⟨captures, hs, hc⟩ := Option.bind_eq_some_iff.mp hnew
          exact .inr ⟨(candidate, p), List.mem_cons_self, captures, hs, heq.symm ▸ hc⟩
      simp only at h
      split at h
      · exact Option.some.inj h ▸ chosen
      · rcases best_matched h with h | h
        · exact Option.some.inj h ▸ chosen
        · exact .inr h.cons

/-- A pattern is in force only for a frame whose rule has one. -/
theorem Frame.inForce_own (f : Frame) (g : Grammar) (made : String → StateM σ Pattern)
    (own : Option PatternId) :
    Always (f.inForce g made own) fun p => p.isSome = true → own.isSome = true := by
  unfold inForce
  split
  · exact .pure id
  · exact .of_forall fun _ _ => rfl

namespace Scanner

/-- What a scanner finds lies in the text, and the end of a span is found only within one. -/
structure FindsInText (sc : Scanner (StateM σ)) : Prop where
  next : ∀ f c a text, c.In text → Always (sc.finder.next f c a) fun found => ∀ x ∈ found,
    x.In text ∧ (x.candidate = .stop → ∃ r, sc.grammar.rule f.rule = .beginEnd r)
  continues : ∀ f c a text, c.In text → Always (sc.finder.continues f c a) fun captures =>
    ∀ x ∈ captures, InText text x

theorem closes_of_mem_ordered {g : Grammar} {closing : Option Pattern} {endLast : Bool}
    {entries : List Entry} {p : Pattern}
    (h : (Candidate.stop, p) ∈ g.ordered closing endLast entries) : closing.isSome = true := by
  have : (Candidate.stop, p) ∈ closing.toList.map (fun p => (Candidate.stop, p)) := by
    unfold Grammar.ordered at h
    simp only at h
    split at h <;> simpa using h
  cases closing with
  | none => simp at this
  | some q => rfl

end Scanner

theorem Means.scanner_findsInText {w : Means (StateM σ)} (hw : w.search.StaysInText) (g : Grammar)
    (maxStalled : Nat) : (w.scanner g maxStalled).FindsInText where
  next := by
    intro f c a text hc
    refine .bind (f.inForce_own g w.made _) fun closing hclosing => ?_
    refine .bind' fun entries => .pure fun x hx => ?_
    rcases best_matched hx with hx | ⟨e, he, captures, hs, hx⟩
    · contradiction
    · obtain ⟨hin, hcandidate⟩ := Found.ofCaptures_in (hw _ _ _ _ _ hc hs) hx
      refine ⟨hin, fun hstop => ?_⟩
      have hsome := hclosing (Scanner.closes_of_mem_ordered (p := e.2) (by rwa [← hstop, hcandidate]))
      show ∃ r, g.rule f.rule = .beginEnd r
      cases hr : g.rule f.rule with
      | beginEnd r => exact ⟨r, rfl⟩
      | _ => simp [hr, Rule.closing?] at hsome
  continues := by
    intro f c a text hc
    refine .bind' fun p => ?_
    split
    · exact .pure fun x hx => hw _ _ _ _ _ hc hx
    · exact .pure nofun

/-! ### Steps -/

/-- What a step makes of the tokens; where the scan ends, they reach to the end of the text. -/
def StepResult.Grows (g : Grammar) (line : List Char) (ts : Tokens) : StepResult → Prop
  | .goOn s => ts.Grows (Good g line) s.tokens
  | .stop us _ => ts.Grows (Good g line) us ∧ width line ≤ us.last

/-- What is left goes to the end of the text. -/
theorem StepResult.stop_grows {g : Grammar} {line : List Char} {ts us : Tokens}
    {scopes : List Scope} {stack : Stack} (h : ts.Grows (Good g line) us)
    (hs : scopes.head? = some g.scope) :
    (StepResult.stop (us.produce (width line) scopes) stack).Grows g line ts := by
  refine ⟨h.produce ⟨Text.boundary_width line, hs⟩, ?_⟩
  rw [Tokens.last_produce]
  exact Nat.le_max_right _ _

namespace Scanner

variable {sc : Scanner (StateM σ)} {again : Option (Again (StateM σ))} {line : List Char}
  {s : ScanState} {found : Found} {ts us : Tokens}

theorem sweep_grows (ha : GrowsAgain sc.grammar again) {stack : Stack}
    (hl : stack.InLayers sc.grammar) {firstLine : Bool} {rules : CaptureRules} {captures : Captures}
    (hc : InText line captures) :
    Always (sc.sweep again stack line firstLine rules captures ts)
      (ts.Grows (Good sc.grammar line)) := by
  unfold sweep
  split
  · exact .pure .refl
  · exact Sweep.tokens_grows ⟨hl, ha⟩ hc rules

theorem advance_grows (hl : s.stack.InLayers sc.grammar) (h : ts.Grows (Good sc.grammar line) s.tokens)
    (stop : Nat) : (sc.advance (width line) s stop).Grows sc.grammar line ts := by
  unfold advance
  split
  · exact h
  · split
    · exact StepResult.stop_grows h hl.top_scope
    · exact h

/-- The end of a span. There is always a frame around it, for the root is no span. -/
theorem endSpan_grows (ha : GrowsAgain sc.grammar again)
    (hroot : sc.grammar.HasRoot) (hl : s.stack.InLayers sc.grammar)
    (hf : found.In line) (hspan : ∃ r, sc.grammar.rule s.stack.top.rule = .beginEnd r) :
    Always (sc.endSpan again line (width line) s found)
      (StepResult.Grows sc.grammar line s.tokens) := by
  have hstrip := hl.strip
  have begun : s.tokens.Grows (Good sc.grammar line)
      (s.tokens.produce found.start s.stack.top.contentScopes) :=
    .single ⟨hf.start, hl.top_scope⟩
  unfold endSpan
  refine .bind (sweep_grows ha hstrip hf.captures) fun ts hts => ?_
  have ended := (begun.trans hts).produce (Good.mk hf.stop hstrip.top_scope)
  split
  · rename_i hpop
    obtain ⟨r, hr⟩ := hspan
    obtain ⟨f, fs, hbelow⟩ := List.exists_cons_of_ne_nil (hl.below_ne_nil hroot (by simp [hr]))
    simp [Stack.pop?, Stack.withContent, hbelow] at hpop
  · rename_i outer hpop
    split
    · exact .pure (StepResult.stop_grows ended hstrip.top_scope)
    · have houter : outer.InLayers sc.grammar := by
        rw [← Stack.pop_of_pop? hpop]
        exact hstrip.pop
      exact .pure (advance_grows houter ended _)

theorem beginSpan_grows (ha : GrowsAgain sc.grammar again)
    (hl : s.stack.InLayers sc.grammar) (hf : found.In line) {rule : Rule} {span : SpanRule}
    {frame : Frame} (hn : s.stack.top.contentScopes <+: frame.nameScopes)
    (hc : frame.contentScopes = frame.nameScopes) (hts : s.tokens.Grows (Good sc.grammar line) ts) :
    Always (sc.beginSpan again line (width line) s found rule span frame ts)
      (StepResult.Grows sc.grammar line s.tokens) := by
  have hpush : (s.stack.push frame).InLayers sc.grammar :=
    hl.push hn (hc ▸ List.prefix_rfl)
  unfold beginSpan
  refine .bind (sweep_grows ha hpush hf.captures) fun ts' hts' => ?_
  have begun := (hts.trans hts').produce (Good.mk hf.stop hpush.top_scope)
  have hopened : (s.stack.push (frame.opened sc.grammar line found.captures rule span)).InLayers
      sc.grammar := hl.push hn (List.prefix_append _ _)
  simp only
  split
  · exact .pure (StepResult.stop_grows begun hl.top_scope)
  · exact .pure (advance_grows hopened begun _)

theorem matchTokens_grows (ha : GrowsAgain sc.grammar again) {frame : Frame}
    (hl : (s.stack.push frame).InLayers sc.grammar) (hf : found.In line) (rule : Rule) :
    Always (sc.matchTokens again line s found frame ts rule) (ts.Grows (Good sc.grammar line)) := by
  unfold matchTokens
  split
  · exact .bind (sweep_grows ha hl hf.captures) fun ts' hts' =>
      .pure (hts'.produce ⟨hf.stop, hl.top_scope⟩)
  · exact .pure .refl

theorem matchRule_grows (ha : GrowsAgain sc.grammar again)
    (hl : s.stack.InLayers sc.grammar) (hf : found.In line) {rule : Rule} {frame : Frame}
    (hn : s.stack.top.contentScopes <+: frame.nameScopes)
    (hc : frame.contentScopes = frame.nameScopes) (hts : s.tokens.Grows (Good sc.grammar line) ts) :
    Always (sc.matchRule again line (width line) s found rule frame ts)
      (StepResult.Grows sc.grammar line s.tokens) := by
  have hpush : (s.stack.push frame).InLayers sc.grammar :=
    hl.push hn (hc ▸ List.prefix_rfl)
  unfold matchRule
  refine .bind (matchTokens_grows ha hpush hf rule) fun ts' hts' => ?_
  split
  · exact .pure (StepResult.stop_grows (hts.trans hts') hl.pop.top_scope)
  · exact .pure (advance_grows (s := { s with tokens := ts' }) hl (hts.trans hts') _)

theorem take_grows (ha : GrowsAgain sc.grammar again)
    (hroot : sc.grammar.HasRoot) (hl : s.stack.InLayers sc.grammar)
    (hf : found.In line)
    (hspan : found.candidate = .stop → ∃ r, sc.grammar.rule s.stack.top.rule = .beginEnd r) :
    Always (sc.take again line (width line) s found) (StepResult.Grows sc.grammar line s.tokens) := by
  have begun : s.tokens.Grows (Good sc.grammar line)
      (s.tokens.produce found.start s.stack.top.contentScopes) :=
    .single ⟨hf.start, hl.top_scope⟩
  unfold take
  split
  · rename_i hstop
    exact endSpan_grows ha hroot hl hf (hspan hstop)
  · simp only
    split
    · exact beginSpan_grows ha hl hf (List.prefix_append _ _) rfl begun
    · exact beginSpan_grows ha hl hf (List.prefix_append _ _) rfl begun
    · exact matchRule_grows ha hl hf (List.prefix_append _ _) rfl begun

/-- What comes next lies in the text, and is the end of a span only within one. -/
theorem next_in (hs : sc.FindsInText) (s : ScanState) :
    Always (sc.next line s) fun found => ∀ x ∈ found,
      x.In line ∧ (x.candidate = .stop → ∃ r, sc.grammar.rule s.stack.top.rule = .beginEnd r) := by
  unfold next
  split
  · rename_i c hc
    exact hs.next _ _ _ _ (Cursor.at?_in hc).1
  · exact .pure nofun

/-- **A step produces what may be produced.** -/
theorem step_grows (hs : sc.FindsInText) (ha : GrowsAgain sc.grammar again)
    (hroot : sc.grammar.HasRoot)
    (hl : s.stack.InLayers sc.grammar) :
    Always (sc.step again line (width line) s) (StepResult.Grows sc.grammar line s.tokens) := by
  unfold step
  refine .bind' fun late => ?_
  split
  · exact .pure (StepResult.stop_grows .refl rfl)
  · refine .bind (next_in hs s) fun found hfound => ?_
    split
    · exact .pure (StepResult.stop_grows .refl hl.top_scope)
    · obtain ⟨hf, hspan⟩ := hfound _ rfl
      exact take_grows ha hroot hl hf hspan

/-- The steps of a scan produce what may be produced, up to the end of the text. -/
theorem steps_grows (hs : sc.FindsInText) (ha : GrowsAgain sc.grammar again)
    (hroot : sc.grammar.HasRoot) (fuel : Nat) :
    ∀ {s : ScanState}, s.stack.InLayers sc.grammar →
      Always (sc.steps again line (width line) fuel s) fun r =>
        s.tokens.Grows (Good sc.grammar line) r.1 ∧ width line ≤ r.1.last := by
  induction fuel with
  | zero =>
    intro s hl
    exact .pure (StepResult.stop_grows .refl hl.top_scope : (StepResult.stop _ s.stack).Grows _ _ _)
  | succ fuel ih =>
    intro s hl
    unfold steps
    refine .bind ((step_grows hs ha hroot hl).and step_moves) fun r hr => ?_
    obtain ⟨grows, moved⟩ := hr
    cases r with
    | stop ts stack => exact .pure grows
    | goOn t =>
      exact (ih (hl.move moved)).mono fun r h => ⟨Tokens.Grows.trans grows h.1, h.2⟩

/-! ### Spans that continue -/

theorem continuing_in (hs : sc.FindsInText) (f : Frame) (k : Continued) :
    Always (sc.continuing line f k) fun found => ∀ x ∈ found, Boundary line k.pos ∧ x.In line := by
  unfold continuing
  split
  · rename_i c hc
    obtain ⟨hin, hpos⟩ := Cursor.at?_in hc
    refine .bind (hs.continues f c _ line hin) fun captures hcaptures => .pure fun x hx => ?_
    obtain ⟨hx, -⟩ := Option.filter_eq_some_iff.mp hx
    obtain ⟨captures', hmem, hx⟩ := Option.bind_eq_some_iff.mp hx
    exact ⟨hpos ▸ hin.boundary, (Found.ofCaptures_in (hcaptures captures' hmem) hx).1⟩
  · exact .pure nofun

theorem Continued.upTo_tokens (k : Continued) (ts : Tokens) (stop : Nat) :
    (k.upTo ts stop).tokens = ts := by
  unfold Continued.upTo
  simp only
  split <;> rfl

theorem continueSpans_grows (hs : sc.FindsInText)
    (ha : GrowsAgain sc.grammar again) :
    ∀ {inners : List Stack} {k : Continued}, (∀ inner ∈ inners, inner.InLayers sc.grammar) →
      Always (sc.continueSpans again line inners k) fun k' =>
        k.tokens.Grows (Good sc.grammar line) k'.tokens
  | [], k, _ => .pure .refl
  | inner :: rest, k, hl => by
    have hinner : inner.InLayers sc.grammar := hl inner List.mem_cons_self
    have hrest : ∀ inner ∈ rest, inner.InLayers sc.grammar :=
      fun i h => hl i (List.mem_cons_of_mem _ h)
    unfold continueSpans
    split
    · refine .bind (continuing_in hs _ _) fun found hfound => ?_
      split
      · rename_i x
        obtain ⟨hpos, hx⟩ := hfound x rfl
        refine .bind (sweep_grows ha hinner hx.captures) fun ts hts => ?_
        refine (continueSpans_grows hs ha hrest).mono fun k' hk' => ?_
        rw [Continued.upTo_tokens] at hk'
        have begun := (Tokens.Grows.single (Good.mk hpos hinner.top_scope)).trans hts
        exact (begun.produce ⟨hx.stop, hinner.top_scope⟩).trans hk'
      · exact .pure .refl
    · exact continueSpans_grows hs ha hrest

/-! ### Scanning -/

theorem enter_grows (hs : sc.FindsInText) (ha : GrowsAgain sc.grammar again)
    {stack : Stack} (hl : stack.InLayers sc.grammar) {pos : Nat} {firstLine continuing : Bool} :
    Always (sc.enter again stack line pos firstLine continuing) fun k =>
      Tokens.Grows (Good sc.grammar line) ⟨[], pos⟩ k.tokens ∧ k.stack.InLayers sc.grammar := by
  cases continuing with
  | false => exact .pure ⟨.refl, hl⟩
  | true =>
    refine .and ?_ (resume_suffix.mono fun k hk => hl.of_suffix hk)
    exact continueSpans_grows hs ha fun inner h =>
      hl.of_suffix (frames_suffix_of_mem_prefixes h)

theorem scanWith_grows (hs : sc.FindsInText) (ha : GrowsAgain sc.grammar again)
    (hroot : sc.grammar.HasRoot) {stack : Stack} (hl : stack.InLayers sc.grammar) {pos : Nat}
    {firstLine continuing : Bool} :
    Always (sc.scanWith again stack line pos firstLine continuing) fun r =>
      Tokens.Grows (Good sc.grammar line) ⟨[], pos⟩ r.1 ∧ width line ≤ r.1.last := by
  unfold scanWith
  refine .bind (enter_grows hs ha hl) fun k hk => ?_
  exact (steps_grows hs ha hroot _ hk.2).mono fun r h => ⟨hk.1.trans h.1, h.2⟩

/-- **A scan produces what may be produced, up to the end of the text.** Texts of groups are scanned one
level below. -/
theorem scan_grows (hs : sc.FindsInText) (hroot : sc.grammar.HasRoot) (levels : Nat) :
    ∀ {stack : Stack} {line : List Char} {pos : Nat} {firstLine continuing : Bool},
      stack.InLayers sc.grammar →
        Always (sc.scan levels stack line pos firstLine continuing) fun r =>
          Tokens.Grows (Good sc.grammar line) ⟨[], pos⟩ r.1 ∧ width line ≤ r.1.last := by
  induction levels with
  | zero =>
    intro stack line pos firstLine continuing hl
    exact scanWith_grows hs (growsAgain_none _) hroot hl
  | succ levels ih =>
    intro stack line pos firstLine continuing hl
    refine scanWith_grows hs ?_ hroot hl
    rintro a ⟨⟩ stack text pos firstLine hl
    exact .bind (ih hl) fun r h => .pure h.1

end Scanner
end ScopeLexer
