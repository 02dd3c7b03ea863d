/-
# The scopes of contents

Between the ends of a span stand the scopes of its name and those of its content name. At the end of a span
the scopes of the content are taken off before the span is closed, for they do not count for the ends. If the
span was entered where it ends and nothing was matched in between, it is put back, for else the scan could go
round for ever; and it is put back as it is by then, without the scopes of its content. So a span that is open
after a line has the scopes of its content name except when it has been put back. To tell which ones have
been, a line is recorded with the frame that it puts back.

Key definitions: `ScanState.putBack?`, `Scanner.recordLine`, `Grammar.Leaves`, `Frame.Scoped`.
Key theorems: `Scanner.fst_recordLine`, `Grammar.Leaves.content_scopes`.
-/
import ScopeLexer.Proofs.Assembling
import ScopeLexer.Proofs.CarriedStacks
import ScopeLexer.Proofs.Placeholders

namespace ScopeLexer

open Regex (Captures)
open Relation (ReflTransGen)
open Source (RuleSource GrammarSource)

/-! ### Recording a line -/

/-- A frame without the scopes of its content. -/
def Frame.bare (f : Frame) : Frame := { f with contentScopes := f.nameScopes }

/-- The frame that a match puts back: the end of a span that was entered where the scan stands, if the match
does not go on from there. -/
def ScanState.putBack? (s : ScanState) (found : Found) : Option Frame :=
  if found.candidate = .stop ∧ found.stop ≤ s.pos ∧ s.stack.top.entered = some s.pos ∧
      s.stack.isRoot = false then
    some s.stack.top.bare.reset
  else none

namespace Scanner

section

variable {m : Type → Type} [Monad m] (sc : Scanner m) (again : Option (Again m)) (line : List Char)
  (length : Nat)

/-- A step, with the frame that it puts back. -/
def recordStep (s : ScanState) : m (StepResult × Option Frame) := do
  if ← sc.finder.timeIsOver then
    return (.stop (s.tokens.produce length [sc.grammar.scope]) s.stack, none)
  else
    match ← sc.next line s with
    | none => return (.stop (s.tokens.produce length s.stack.top.contentScopes) s.stack, none)
    | some found => do
      let r ← sc.take again line length s found
      return (r, s.putBack? found)

/-- Steps, with the frame that the last one puts back. -/
def recordSteps : Nat → ScanState → m ((Tokens × Stack) × Option Frame)
  | 0, s => return ((s.tokens.produce length s.stack.top.contentScopes, s.stack), none)
  | fuel + 1, s => do
    match ← sc.recordStep again line length s with
    | (.stop ts stack, back) => return ((ts, stack), back)
    | (.goOn s, _) => recordSteps fuel s

/-- What tokenizes the texts of groups within a line. -/
def againAt : (levels : Nat) → Option (Again m)
  | 0 => none
  | levels + 1 => some fun stack text pos firstLine => do
    let r ← sc.scan levels stack text pos firstLine false
    return r.1

/-- A line, with the frame that it puts back. -/
def recordLine (text : List Char) (prior : Option Stack) : m (LineTokens × Option Frame) := do
  let text := withoutNewline text ++ ['\n']
  let again := sc.againAt maxLevels
  let length := Text.width text
  let k ← sc.resume again (prior.getD (.root sc.grammar)) text 0 prior.isNone
  let r ← sc.recordSteps again text length (sc.stepBound length 0)
    { tokens := k.tokens, stack := k.stack, pos := k.pos, anchor := k.anchor, firstLine := k.firstLine }
  return (⟨r.1.1.finish length, (r.1.2.closeLine sc.grammar).reset⟩, r.2)

variable {sc again line length}

theorem fst_recordStep [LawfulMonad m] (s : ScanState) :
    Prod.fst <$> sc.recordStep again line length s = sc.step again line length s := by
  rw [recordStep, step, map_bind]
  congr 1
  funext late
  split
  · simp
  · rw [map_bind]
    congr 1
    funext found
    split <;> simp

theorem fst_recordSteps [LawfulMonad m] (fuel : Nat) (s : ScanState) :
    Prod.fst <$> sc.recordSteps again line length fuel s = sc.steps again line length fuel s := by
  induction fuel generalizing s with
  | zero => simp [recordSteps, steps]
  | succ fuel ih =>
    rw [recordSteps, steps, ← fst_recordStep, map_bind, bind_map_left]
    congr 1
    funext r
    obtain ⟨r, back⟩ := r
    cases r with
    | stop ts stack => simp
    | goOn t => exact ih t

theorem scan_eq (levels : Nat) (stack : Stack) (pos : Nat) (firstLine continuing : Bool) :
    sc.scan levels stack line pos firstLine continuing =
      sc.scanWith (sc.againAt levels) stack line pos firstLine continuing := by
  cases levels <;> rfl

/-- **A recorded line is the line.** -/
theorem fst_recordLine [LawfulMonad m] (text : List Char) (prior : Option Stack) :
    Prod.fst <$> sc.recordLine text prior = sc.line text prior := by
  simp only [recordLine, Scanner.line, scan_eq, scanWith, enter, map_bind, bind_assoc, map_pure]
  congr 1
  funext k
  rw [← fst_recordSteps, bind_map_left]

end

end Scanner

/-! ### Content names -/

theorem Source.RuleSource.contentName?_made {r : RuleSource} {head : RuleHead} {first : PatternId}
    {os cs : CaptureRules} {is : List Item} {n : ScopeName}
    (h : (r.made head first os cs is).contentName? = some n) : n = .ofText n.source := by
  have hmade : some n = r.contentName.map ScopeName.ofText := by
    revert h
    rw [made]
    cases r.kind with
    | matching p => exact fun h => absurd h.symm (Option.some_ne_none n)
    | continued b w => exact fun h => h.symm
    | ended b e => exact fun h => h.symm
    | group =>
      cases is with
      | nil => exact fun h => absurd h.symm (Option.some_ne_none n)
      | cons i is => exact fun h => h.symm
  obtain ⟨text, -, rfl⟩ := Option.map_eq_some_iff.mp hmade.symm
  rfl

/-- The content name of every rule is what its text stands for. -/
def Assembly.NamesKnown (a : Assembly) : Prop :=
  ∀ r ∈ a.rules, ∀ n, r.contentName? = some n → n = .ofText n.source

/-- Content names come from texts, whatever is added. -/
theorem Assembly.namesKnown_tracks : Tracks fun a b => a.NamesKnown → b.NamesKnown where
  refl _ h := h
  trans hab hbc h := hbc (hab h)
  patterns _ _ h := h
  repository _ h := h
  rule := by
    intro a b r view first os cs is h _ ha q hq n hn
    have hreserved : a.reserved.NamesKnown := by
      intro p hp
      rcases Array.mem_push.mp hp with hp | rfl
      · exact ha p hp
      · exact fun n hn => absurd hn.symm (Option.some_ne_none n)
    rcases Array.mem_or_eq_of_mem_setIfInBounds hq with hq | rfl
    · exact h hreserved q hq n hn
    · exact RuleSource.contentName?_made hn

theorem Grammar.namesKnown {g : Grammar} {source : GrammarSource} (h : ofSource source = .ok g) :
    ∀ id n, (g.rule id).contentName? = some n → n = .ofText n.source := by
  obtain ⟨root, b, hb⟩ := ofSource_ok h
  obtain ⟨a₁, a₂, is, hrepository, inner, rfl⟩ := Assembly.addGrammar_parts hb.assembled
  have tracks := Assembly.namesKnown_tracks
  have hstart : (Assembly.reserved {}).NamesKnown := by
    intro r hr
    obtain rfl : r = .noop := by simpa [Assembly.reserved] using hr
    exact fun n hn => absurd hn.symm (Option.some_ne_none n)
  have hparts : a₂.NamesKnown :=
    tracks.inner inner (tracks.addRepository hrepository hstart)
  intro id n hn
  cases hr : g.rules[id]? with
  | none => simp [rule, hr, Rule.contentName?] at hn
  | some r =>
    have hmem : r ∈ a₂.rules.setIfInBounds rootRule (.group ⟨⟨rootRule, none, root.toList⟩, none, is⟩) :=
      Array.mem_of_getElem? (hb.rules ▸ hr)
    have hrule : g.rule id = r := by simp [rule, hr]
    rw [hrule] at hn
    rcases Array.mem_or_eq_of_mem_setIfInBounds hmem with hmem | rfl
    · exact hparts r hmem n hn
    · cases hn

namespace Stack

/-- How a scan ends from the stack that it has come to, with the frame that is put back. -/
inductive Ends (s : Stack) : Stack → Option Frame → Prop
  | asIs : Ends s s none
  | bottom (h : s.isRoot = true) : Ends s (s.withContent s.top.nameScopes) none
  | back : Ends s (s.withContent s.top.nameScopes) (some s.top.bare.reset)

/-- What a step that is recorded does to the stack. -/
inductive Comes (g : Grammar) (line : List Char) (s : Stack) : StepResult → Option Frame → Prop
  | plain {r : StepResult} (h : Plain g line s r.stack) : Comes g line s r none
  | ends {ts : Tokens} {t : Stack} {back : Option Frame} (h : s.Ends t back) :
      Comes g line s (.stop ts t) back

end Stack

namespace Scanner

open Stack (Plain Comes Ends)

variable {σ : Type} {sc : Scanner (StateM σ)} {again : Option (Again (StateM σ))} {line : List Char}
  {length : Nat} {s : ScanState} {found : Found}

theorem endSpan_comes (hstop : found.candidate = .stop) :
    Always (sc.endSpan again line length s found) fun r =>
      Comes sc.grammar line s.stack r (s.putBack? found) := by
  unfold endSpan
  refine .bind' fun ts => ?_
  split
  · rename_i hpop
    have hroot : s.stack.isRoot = true := by
      cases hb : s.stack.below with
      | nil => simp [Stack.isRoot, hb]
      | cons f fs => simp [Stack.pop?, Stack.withContent, hb] at hpop
    have hnone : s.putBack? found = none := if_neg (by simp [hroot])
    rw [hnone]
    exact .pure (.ends (.bottom hroot))
  · rename_i outer hpop
    have hroot : s.stack.isRoot = false := by
      cases hb : s.stack.below with
      | nil => simp [Stack.pop?, Stack.withContent, hb] at hpop
      | cons f fs => simp [Stack.isRoot, hb]
    split
    · rename_i hback
      have hsome : s.putBack? found = some s.stack.top.bare.reset :=
        if_pos ⟨hstop, hback.1, hback.2, hroot⟩
      rw [hsome]
      exact .pure (.ends .back)
    · rename_i hback
      have hnone : s.putBack? found = none := if_neg fun h => hback ⟨h.2.1, h.2.2.1⟩
      rw [hnone]
      refine .pure (.plain ?_)
      rw [advance_stack]
      have houter : s.stack.pop = outer :=
        Stack.pop_of_pop? (by simpa [Stack.pop?, Stack.withContent] using hpop)
      exact houter ▸ .pop s.stack

theorem take_comes :
    Always (sc.take again line length s found) fun r =>
      Comes sc.grammar line s.stack r (s.putBack? found) := by
  cases h : found.candidate with
  | stop =>
    simp only [take, h]
    exact endSpan_comes h
  | rule id =>
    have hnone : s.putBack? found = none := if_neg (by simp [h])
    rw [hnone]
    exact (take_plain h).mono fun r hr => .plain hr

/-- **A step that puts back a frame ends the scan**, and any other one strips no frame above the root. -/
theorem recordStep_comes :
    Always (sc.recordStep again line length s) fun r => Comes sc.grammar line s.stack r.1 r.2 := by
  unfold recordStep
  refine .bind' fun late => ?_
  split
  · exact .pure (.ends .asIs)
  · refine .bind' fun found => ?_
    split
    · exact .pure (.ends .asIs)
    · exact .bind take_comes fun r hr => .pure hr

/-- The steps of a scan, up to its end. -/
theorem recordSteps_ends (fuel : Nat) :
    Always (sc.recordSteps again line length fuel s) fun r =>
      ∃ t, ReflTransGen (Plain sc.grammar line) s.stack t ∧ t.Ends r.1.2 r.2 := by
  induction fuel generalizing s with
  | zero => exact .pure ⟨s.stack, .refl, .asIs⟩
  | succ fuel ih =>
    unfold recordSteps
    refine .bind recordStep_comes fun r hr => ?_
    obtain ⟨r, back⟩ := r
    cases hr with
    | ends h => exact .pure ⟨s.stack, .refl, h⟩
    | plain h =>
      cases r with
      | stop ts t => exact .pure ⟨t, .single h, .asIs⟩
      | goOn t =>
        refine ih.mono fun r hr => ?_
        obtain ⟨u, hu, hends⟩ := hr
        exact ⟨u, hu.head h, hends⟩

/-- **What a recorded line does to the stack.** -/
theorem recordLine_ends (sc : Scanner (StateM σ)) (text : List Char) (prior : Option Stack) :
    Always (sc.recordLine text prior) fun r =>
      ∃ s t u, s.frames <:+ (prior.getD (.root sc.grammar)).frames ∧
        ReflTransGen (Plain sc.grammar (withoutNewline text ++ ['\n'])) s t ∧ t.Ends u r.2 ∧
          r.1.stack = (u.closeLine sc.grammar).reset := by
  unfold recordLine
  refine .bind resume_suffix fun k hk => .bind (recordSteps_ends _) fun r hr => ?_
  obtain ⟨t, ht, hends⟩ := hr
  exact .pure ⟨k.stack, t, r.1.2, hk, ht, hends, rfl⟩

end Scanner

/-! ### Frames and what they keep -/

/-- The scopes of the content of a frame: those of its name, and those of the content name of its rule if it
has one and the frame has not been put back. -/
structure Frame.Scoped (g : Grammar) (back : List Frame) (f : Frame) : Prop where
  without : (g.rule f.rule).contentName? = none → f.contentScopes = f.nameScopes
  within : ∀ n, (g.rule f.rule).contentName? = some n → n.IsPlain →
    f.contentScopes = f.nameScopes ++ if f.reset ∈ back then [] else Scope.parseNames n.source.toList

/-- Frames without scopes of their content. -/
def Bare (back : List Frame) : Prop := ∀ f ∈ back, f.contentScopes = f.nameScopes

namespace Frame.Scoped

variable {g : Grammar} {back : List Frame} {f : Frame}

/-- A frame is opened with the scopes of its content. -/
theorem of_opened {line : List Char} {s : Stack} {span : SpanRule} {captures : Captures}
    (hg : ∀ id n, (g.rule id).contentName? = some n → n = .ofText n.source) (hback : Bare back)
    (h : Stack.Opened g line s f span captures) : f.Scoped g back := by
  have hcontent := h.contentScopes
  constructor
  · intro hnone
    rw [hcontent, Rule.contentScopes, hnone, List.append_nil]
  · intro n hn hplain
    simp only [Rule.contentScopes, hn] at hcontent
    rw [ScopeName.resolve_of_isPlain (hg f.rule n hn) hplain] at hcontent
    split
    · rename_i hmem
      have hbare : f.contentScopes = f.nameScopes := hback f.reset hmem
      rw [hbare, List.append_nil]
    · exact hcontent

/-- Another frame that is put back makes no difference to one that is still in place. -/
theorem more {b : Frame} (h : f.Scoped g back) (hb : b.contentScopes = b.nameScopes) :
    f.Scoped g (b :: back) := by
  refine ⟨h.without, fun n hn hplain => ?_⟩
  by_cases hf : f.reset = b
  · have hbare : f.contentScopes = f.nameScopes := by
      subst hf
      exact hb
    rw [if_pos (hf ▸ List.mem_cons_self), hbare, List.append_nil]
  · have hiff : f.reset ∈ b :: back ↔ f.reset ∈ back := by simp [hf]
    rw [h.within n hn hplain]
    simp only [hiff]

/-- A frame that is put back has lost the scopes of its content. -/
theorem bare (f : Frame) : f.bare.Scoped g (f.bare.reset :: back) := by
  refine ⟨fun _ => rfl, fun n _ _ => ?_⟩
  rw [if_pos List.mem_cons_self, List.append_nil]
  rfl

theorem reset (h : f.Scoped g back) : f.reset.Scoped g back := ⟨h.without, h.within⟩

end Frame.Scoped

namespace Layered

variable {g : Grammar} {back : List Frame} {line : List Char} {s t : Stack}

theorem plain (hg : ∀ id n, (g.rule id).contentName? = some n → n = .ofText n.source)
    (hback : Bare back) (h : Layered g (Frame.Scoped g back) s.frames) (hm : Stack.Plain g line s t) :
    Layered g (Frame.Scoped g back) t.frames := by
  cases hm with
  | stay => exact h
  | pop => exact h.suffix s.frames_pop_suffix (List.cons_ne_nil _ _)
  | push ho =>
    exact h.push (.of_opened hg hback ho) (ho.nameScopes ▸ List.prefix_append _ _)
      (ho.contentScopes ▸ List.prefix_append _ _)

theorem plains (hg : ∀ id n, (g.rule id).contentName? = some n → n = .ofText n.source)
    (hback : Bare back) (h : Layered g (Frame.Scoped g back) s.frames)
    (hm : ReflTransGen (Stack.Plain g line) s t) : Layered g (Frame.Scoped g back) t.frames := by
  induction hm with
  | refl => exact h
  | tail _ hm ih => exact ih.plain hg hback hm

/-- At the end of a scan no frame but the one that is put back loses anything. -/
theorem ends {b : Option Frame} (h : Layered g (Frame.Scoped g back) s.frames) (hm : s.Ends t b) :
    Layered g (Frame.Scoped g (b.toList ++ back)) t.frames := by
  cases hm with
  | asIs => exact h
  | bottom hroot =>
    obtain ⟨top, below⟩ := s
    obtain rfl : below = [] := by simpa [Stack.isRoot] using hroot
    exact ⟨h.rule, h.nameScopes, h.nameScopes, h.endPattern⟩
  | back =>
    obtain ⟨top, below⟩ := s
    cases below with
    | nil => exact ⟨h.rule, h.nameScopes, h.nameScopes, h.endPattern⟩
    | cons outer rest =>
      exact ⟨.bare top, h.2.1, List.prefix_rfl, mono (fun f hf => hf.more rfl) h.2.2.2⟩

end Layered

/-! ### Stacks and the frames that have been put back -/

/-- The stacks that lines leave, with the frames that have been put back in these lines. -/
inductive Grammar.Leaves (g : Grammar) : List Frame → Stack → Prop
  | first {σ : Type} (w : Means (StateM σ)) (maxStalled : Nat) (text : List Char) (state : σ) :
      Leaves g ((w.scanner g maxStalled).recordLine text none state).1.2.toList
        ((w.scanner g maxStalled).recordLine text none state).1.1.stack
  | next {back : List Frame} {p : Stack} (h : Leaves g back p) {σ : Type} (w : Means (StateM σ))
      (maxStalled : Nat) (text : List Char) (state : σ) :
      Leaves g (((w.scanner g maxStalled).recordLine text (some p) state).1.2.toList ++ back)
        ((w.scanner g maxStalled).recordLine text (some p) state).1.1.stack

namespace Grammar

variable {g : Grammar} {back : List Frame} {s : Stack}

theorem recordLine_fst {σ : Type} (sc : Scanner (StateM σ)) (text : List Char) (prior : Option Stack)
    (state : σ) : (sc.recordLine text prior state).1.1 = (sc.line text prior state).1 := by
  rw [← Scanner.fst_recordLine]
  rfl

/-- The stacks that lines leave are those, each with some such frames. -/
theorem returned_iff_leaves : g.Returned s ↔ ∃ back, g.Leaves back s := by
  constructor
  · intro h
    induction h with
    | line w maxStalled text prior hp state ih =>
      rw [← recordLine_fst]
      cases prior with
      | none => exact ⟨_, .first w maxStalled text state⟩
      | some p =>
        obtain ⟨back, h⟩ := ih p rfl
        exact ⟨_, h.next w maxStalled text state⟩
  · rintro ⟨back, h⟩
    induction h with
    | first w maxStalled text state =>
      rw [recordLine_fst]
      exact .line w maxStalled text none nofun state
    | next _ w maxStalled text state ih =>
      rw [recordLine_fst]
      exact .line w maxStalled text (some _) (by rintro _ ⟨⟩; exact ih) state

/-- A line keeps the scopes of all frames but the one that it puts back. -/
theorem scoped_recordLine (hg : ∀ id n, (g.rule id).contentName? = some n → n = .ofText n.source)
    (hback : Bare back) {σ : Type} (w : Means (StateM σ)) (maxStalled : Nat) (text : List Char)
    (prior : Option Stack) (state : σ)
    (h : Layered g (Frame.Scoped g back) (prior.getD (.root g)).frames) :
    let r := ((w.scanner g maxStalled).recordLine text prior state).1
    Bare (r.2.toList ++ back) ∧ Layered g (Frame.Scoped g (r.2.toList ++ back)) r.1.stack.frames := by
  intro r
  obtain ⟨s, t, u, hs, hm, hends, hstack⟩ :=
    (w.scanner g maxStalled).recordLine_ends text prior state
  have ht := (h.suffix hs s.frames_ne_nil).plains hg hback hm
  have hu := ht.ends hends
  refine ⟨fun f hf => ?_, ?_⟩
  · rcases List.mem_append.mp hf with hf | hf
    · have hr : t.Ends u (some f) := Option.mem_toList.mp hf ▸ hends
      cases hr
      rfl
    · exact hback f hf
  · rw [hstack]
    exact (hu.suffix (u.closeLine_suffix g) (Stack.frames_ne_nil _)).reset fun f hf => hf.reset

namespace Leaves

theorem layered (hg : ∀ id n, (g.rule id).contentName? = some n → n = .ofText n.source)
    (h : g.Leaves back s) : Bare back ∧ Layered g (Frame.Scoped g back) s.frames := by
  induction h with
  | first w maxStalled text state =>
    have hline := scoped_recordLine hg (nofun : Bare []) w maxStalled text none state (.root g _)
    simpa using hline
  | next _ w maxStalled text state ih =>
    exact scoped_recordLine hg ih.1 w maxStalled text (some _) state ih.2

/-- **Content names are kept except in spans that have been put back.** After any lines of a compiled
grammar, a frame whose rule has no content name has the scopes of its name for its content. A frame above the
root whose rule has one without placeholders has the scopes of that after those of its name, unless it is
among the frames that have been put back; and these have none. -/
theorem content_scopes {source : GrammarSource} (hg : ofSource source = .ok g) :
    (g.Returned s ↔ ∃ back, g.Leaves back s) ∧
    ∀ back, g.Leaves back s →
      (∀ f ∈ s.frames, (g.rule f.rule).contentName? = none → f.contentScopes = f.nameScopes) ∧
      (∀ f ∈ s.frames.dropLast, ∀ n, (g.rule f.rule).contentName? = some n → n.IsPlain →
        f.contentScopes =
          f.nameScopes ++ if f ∈ back then [] else Scope.parseNames n.source.toList) ∧
      ∀ f ∈ back, f.contentScopes = f.nameScopes := by
  refine ⟨returned_iff_leaves, fun back h => ?_⟩
  obtain ⟨bare, layers⟩ := h.layered (namesKnown hg)
  have clean := (returned_iff_leaves.mpr ⟨back, h⟩).clean
  have hreset : ∀ f ∈ s.frames, f.reset = f := by
    intro f hf
    obtain ⟨hanchor, hentered⟩ := clean f hf
    obtain ⟨_, _, _, _, _, anchor, entered⟩ := f
    obtain rfl : anchor = none := hanchor
    obtain rfl : entered = none := hentered
    rfl
  refine ⟨fun f hf hnone => ?_, fun f hf n hn hplain => ?_, bare⟩
  · rcases Stack.mem_dropLast_or_getLast hf with hf | hf
    · exact (layers.of_mem_dropLast f hf).without hnone
    · obtain ⟨bottom, hlast, hroot⟩ := layers.getLast
      obtain rfl := Option.some.inj (hf.symm.trans hlast)
      exact hroot.contentScopes.trans hroot.nameScopes.symm
  · have hcontent := (layers.of_mem_dropLast f hf).within n hn hplain
    rwa [hreset f (List.dropLast_subset _ hf)] at hcontent

end Leaves
end Grammar

namespace Source

/-- Brackets around lines. At the end of a line a span begins and ends at once. -/
def lineEnd : GrammarSource where
  scopeName := "source.end"
  patterns := [{
    contentName := some "outer.end"
    beginPattern := some "[(]"
    endPattern := some "[)]"
    patterns := [{
      contentName := some "inner.end"
      beginPattern := some "$"
      endPattern := some "$" }] }]

end Source

/-- After an opening bracket two spans are open: the outer one has the scope of its content, and the inner one
has been put back without it. -/
theorem content_scopes_lineEnd : ∃ g back inner outer bottom, Grammar.ofSource Source.lineEnd = .ok g ∧
    g.Leaves back ⟨inner, [outer, bottom]⟩ ∧ inner.contentScopes = inner.nameScopes ∧
      outer.contentScopes = outer.nameScopes ++ Scope.parseNames "outer.end".toList := by
  have run : (Grammar.ofSource Source.lineEnd).toOption.any (fun g =>
      let r := (((Memory.means g {}).scanner g 64).recordLine ['('] none {}).1
      decide (r.1.stack.below.length = 2 ∧ r.1.stack.top ∈ r.2.toList ∧
        (g.rule r.1.stack.top.rule).contentName? = some (.ofText "inner.end") ∧
          ∀ f ∈ r.1.stack.below.head?, f ∉ r.2.toList ∧
            (g.rule f.rule).contentName? = some (.ofText "outer.end"))) = true := by
    decide +kernel
  obtain ⟨g, hg, h⟩ := exists_ok_of_any run
  have leaves := Grammar.Leaves.first (g := g) (Memory.means g {}) 64 ['('] {}
  obtain ⟨htwo, hback, hname, hbelow⟩ := of_decide_eq_true h
  generalize (((Memory.means g {}).scanner g 64).recordLine ['('] none {}).1 = r at *
  obtain ⟨outer, bottom, hframes⟩ := List.length_eq_two.mp htwo
  rw [hframes] at hbelow
  obtain ⟨hkept, hname'⟩ := hbelow outer rfl
  have hstack : r.1.stack = ⟨r.1.stack.top, [outer, bottom]⟩ := by rw [← hframes]
  have plain : ∀ text, ScopeName.marksPlaceholder text.toList = false →
      (ScopeName.ofText text).IsPlain := fun text h => ScopeName.isPlain_of_marks h
  rw [hstack] at leaves
  obtain ⟨-, hcontent, -⟩ := (Grammar.Leaves.content_scopes hg).2 _ leaves
  have first := hcontent _ List.mem_cons_self _ hname (plain _ (by decide))
  have second := hcontent outer (List.mem_cons_of_mem _ List.mem_cons_self) _ hname'
    (plain _ (by decide))
  rw [if_pos hback, List.append_nil] at first
  rw [if_neg hkept] at second
  exact ⟨g, _, _, outer, bottom, hg, leaves, first, second⟩

/-- Not every span that is open after a line has the scopes of its content. -/
theorem not_contentNames_kept : ¬ ∀ (source : GrammarSource) (g : Grammar),
    Grammar.ofSource source = .ok g → ∀ s, g.Returned s →
      (∀ f ∈ s.frames.dropLast, ∀ n, (g.rule f.rule).contentName? = some n → n.hasPlaceholders = false →
        f.contentScopes = f.nameScopes ++ n.scopes) ∧
      ∀ f ∈ s.frames, (g.rule f.rule).contentName? = none → f.contentScopes = f.nameScopes := by
  intro kept
  have run : (Grammar.ofSource Source.lineEnd).toOption.any (fun g =>
      let f := ((Session.mk g {} {}).line ['('] none).1.stack.top
      let name := ScopeName.ofText "inner.end"
      decide (f ∈ ((Session.mk g {} {}).line ['('] none).1.stack.frames.dropLast ∧
        (g.rule f.rule).contentName? = some name ∧ name.hasPlaceholders = false ∧
          f.contentScopes ≠ f.nameScopes ++ name.scopes)) = true := by
    decide +kernel
  obtain ⟨g, hg, h⟩ := exists_ok_of_any run
  obtain ⟨hf, hname, hplain, hne⟩ := of_decide_eq_true h
  have returned := Session.returned_line (Session.mk g {} {}) rfl ['('] none nofun
  exact hne ((kept _ g hg _ returned).1 _ hf _ hname hplain)

end ScopeLexer
