/-
# The stacks that are carried from line to line

A line may be tokenized after any stack that a line of the same grammar has left, whatever the search, the
limits, the clock and the memory were. Such a stack is at rest: it has the grammar at its bottom, above it
spans that go on, each over the scopes of the one around it, and no frame knows an offset of the line it
was opened in.

Key definitions: `Grammar.Returned`, `Frame.OfSpan`, `Stack.Rests`.
Key theorems: `Grammar.Returned.layered`, `Grammar.Returned.rests`.
-/
import ScopeLexer.Proofs.StackLayers
import ScopeLexer.Tokenize.Session

namespace ScopeLexer

open Source (GrammarSource)

/-- The stacks that lines leave, each after none or one that a line has left. -/
inductive Grammar.Returned (g : Grammar) : Stack → Prop
  | line {σ : Type} (w : Means (StateM σ)) (maxStalled : Nat) (text : List Char)
      (prior : Option Stack) (hp : ∀ p, prior = some p → Returned g p) (state : σ) :
      Returned g ((w.scanner g maxStalled).line text prior state).1.stack

/-- A session leaves such stacks. -/
theorem Session.returned_line {g : Grammar} (s : Session) (hs : s.grammar = g) (text : List Char)
    (prior : Option Stack) (hp : ∀ p, prior = some p → g.Returned p) :
    g.Returned (s.line text prior).1.stack := by
  subst hs
  exact .line (Memory.means s.grammar s.options) s.options.maxStalled text prior hp s.memory

/-- The frame of a span, with a pattern of its own exactly if the closing pattern of its rule refers to
groups. -/
def Frame.OfSpan (g : Grammar) (f : Frame) : Prop :=
  ∃ span, (g.rule f.rule).span? = some span ∧ f.endPattern.isSome = span.closingRefers

theorem Frame.ofSpan_kept (g : Grammar) (line : List Char) : Layered.Kept g line (Frame.OfSpan g) where
  opened := by
    intro s f span captures h
    refine ⟨span, h.rule, ?_⟩
    rw [h.endPattern]
    cases span.closingRefers <;> rfl
  content := fun _ _ h => h

/-! ### Closing and resetting -/

namespace Stack

variable {g : Grammar} {s t : Stack}

theorem frames_truncate (s : Stack) (n : Nat) :
    (s.truncate n).frames = s.frames.drop (s.depth - n) := by
  have hlt : s.depth - n < s.frames.length := by
    simp only [depth, frames, List.length_cons]
    omega
  unfold truncate
  cases h : s.frames.drop (s.depth - n) with
  | nil =>
    have := List.drop_eq_nil_iff.mp h
    omega
  | cons f fs => rfl

theorem frames_ne_nil (s : Stack) : s.frames ≠ [] := List.cons_ne_nil _ _

theorem closeLine_suffix (s : Stack) (g : Grammar) : (s.closeLine g).frames <:+ s.frames := by
  unfold closeLine
  split
  · rw [frames_truncate]
    exact List.drop_suffix _ _
  · exact List.suffix_rfl

/-- What is left of a stack at the end of a line goes on, if its bottom does. -/
theorem closeLine_goesOn {bottom : Frame} (hb : s.frames.getLast? = some bottom)
    (hg : bottom.endsWithLine g = false) :
    ∀ f ∈ (s.closeLine g).frames, f.endsWithLine g = false := by
  unfold closeLine
  cases h : s.frames.reverse.findIdx? (Frame.endsWithLine g) with
  | none => simpa using h
  | some index =>
    obtain ⟨hlt, hends, hbefore⟩ := List.findIdx?_eq_some_iff_getElem.mp h
    rw [List.length_reverse] at hlt
    -- The outermost frame is not the first that ends, so there is one more to keep.
    have hpos : index ≠ 0 := by
      rintro rfl
      have : s.frames.reverse[0]? = some bottom := by
        rw [← List.head?_eq_getElem?, List.head?_reverse, hb]
      rw [List.getElem?_eq_getElem (by simpa using hlt)] at this
      rw [Option.some.inj this, hg] at hends
      contradiction
    have hdrop : s.depth - (index - 1) = s.frames.length - index := by
      simp only [depth, frames, List.length_cons] at hlt ⊢
      omega
    intro f hf
    simp only [frames_truncate, hdrop] at hf
    rw [← List.mem_reverse, ← List.take_reverse, List.mem_take_iff_getElem] at hf
    obtain ⟨j, hj, rfl⟩ := hf
    exact Bool.eq_false_iff.mpr (hbefore j (by omega))

theorem mem_dropLast_or_getLast {f : Frame} (h : f ∈ s.frames) :
    f ∈ s.frames.dropLast ∨ s.frames.getLast? = some f := by
  rw [← List.dropLast_append_getLast s.frames_ne_nil, List.mem_append, List.mem_singleton] at h
  exact h.imp_right fun h => by rw [List.getLast?_eq_getLast_of_ne_nil s.frames_ne_nil, h]

theorem mem_frames_reset {f : Frame} (h : f ∈ s.reset.frames) : ∃ f' ∈ s.frames, f = f'.reset := by
  obtain ⟨f', hf', rfl⟩ := List.mem_map.mp (show f ∈ s.frames.map Frame.reset from h)
  exact ⟨f', hf', rfl⟩

end Stack

namespace Layered

variable {g : Grammar} {P : Frame → Prop} {line : List Char} {s t : Stack}

/-- A line keeps the layers. -/
theorem lineMove (hP : Kept g line P) (hr : ∀ f, P f → P f.reset) (h : Layered g P s.frames)
    (hm : Stack.LineMove g line s t) : Layered g P t.frames := by
  obtain ⟨s₁, s₂, hs, hm, rfl⟩ := hm
  have h₂ : Layered g P s₂.frames := (h.suffix hs s₁.frames_ne_nil).moves hP hm
  exact (h₂.suffix (s₂.closeLine_suffix g) (Stack.frames_ne_nil _)).reset hr

theorem goesOn_of_root (hg : g.Shape) {f : Frame} (h : f.IsRoot g) : f.endsWithLine g = false := by
  obtain ⟨r, hr⟩ := hg.root
  rw [Frame.endsWithLine, h.rule, hr]

end Layered

/-! ### Stacks at rest -/

/-- A stack between two lines. -/
structure Stack.Rests (g : Grammar) (s : Stack) : Prop where
  bottom : ∃ f, s.frames.getLast? = some f ∧ f.rule = Grammar.rootRule ∧
    f.nameScopes = [g.scope] ∧ f.contentScopes = [g.scope]
  depth : s.frames.length = s.depth + 1
  /-- Above the bottom there are spans only. -/
  spans : ∀ f ∈ s.frames.dropLast,
    (∃ r, g.rule f.rule = .beginEnd r ∧ r.carriesOver = true) ∨ ∃ r, g.rule f.rule = .beginWhile r
  clean : ∀ f ∈ s.frames, f.anchor = none ∧ f.entered = none
  /-- A pattern is made from captured text exactly where the one of the rule refers to it. -/
  endPattern : ∀ f ∈ s.frames, f.endPattern.isSome =
    (g.rule f.rule).span?.any fun span => (g.pattern span.closing).hasReferences
  /-- The scopes of a frame lie over those around it. -/
  names : s.frames.IsChain fun inner outer => outer.contentScopes <+: inner.nameScopes
  contents : ∀ f ∈ s.frames, f.nameScopes <+: f.contentScopes

namespace Grammar.Returned

variable {g : Grammar} {s : Stack}

/-- The moves that a returned stack has come from. -/
theorem exists_lineMove (h : g.Returned s) : ∃ line prior,
    (∀ p, prior = some p → g.Returned p) ∧ Stack.LineMove g line (prior.getD (.root g)) s := by
  cases h with
  | line w maxStalled text prior hp state =>
    exact ⟨_, prior, hp, (w.scanner g maxStalled).line_moves text prior state⟩

/-- **The frames of a returned stack lie over one another, and those above the root are of spans.** -/
theorem layered (h : g.Returned s) : Layered g (Frame.OfSpan g) s.frames := by
  induction h with
  | line w maxStalled text prior hp state ih =>
    refine Layered.lineMove (Frame.ofSpan_kept g _) (fun _ h => h) ?_
      ((w.scanner g maxStalled).line_moves text prior state)
    cases prior with
    | none => exact .root g _
    | some p => exact ih p rfl

theorem inLayers (h : g.Returned s) : s.InLayers g := h.layered.mono fun _ _ => trivial

theorem goesOn (hg : g.Shape) (h : g.Returned s) : ∀ f ∈ s.frames, f.endsWithLine g = false := by
  obtain ⟨line, prior, hp, s₁, s₂, hs, hm, rfl⟩ := h.exists_lineMove
  have hprior : Layered g (Frame.OfSpan g) (prior.getD (.root g)).frames := by
    cases prior with
    | none => exact .root g _
    | some p => exact (hp p rfl).layered
  have h₂ := (hprior.suffix hs s₁.frames_ne_nil).moves (Frame.ofSpan_kept g line) hm
  obtain ⟨bottom, hb, hroot⟩ := h₂.getLast
  intro f hf
  obtain ⟨f', hf', rfl⟩ := Stack.mem_frames_reset hf
  exact Stack.closeLine_goesOn hb (Layered.goesOn_of_root hg hroot) f' hf'

theorem clean (h : g.Returned s) : ∀ f ∈ s.frames, f.anchor = none ∧ f.entered = none := by
  obtain ⟨line, prior, hp, s₁, s₂, hs, hm, rfl⟩ := h.exists_lineMove
  intro f hf
  obtain ⟨f', -, rfl⟩ := Stack.mem_frames_reset hf
  exact ⟨rfl, rfl⟩

/-- **Every stack that a line leaves is at rest**, after however many lines of a compiled grammar. -/
theorem rests {source : GrammarSource} (hg : Grammar.ofSource source = .ok g) (h : g.Returned s) :
    s.Rests g := by
  have shape := Grammar.shape_of_ofSource hg
  have layers := h.layered
  have goesOn := h.goesOn shape
  obtain ⟨bottom, hlast, hbottom⟩ := layers.getLast
  refine ⟨⟨bottom, hlast, hbottom.rule, hbottom.nameScopes, hbottom.contentScopes⟩, rfl, ?_, h.clean,
    ?_, layers.isChain, layers.name_prefix_content⟩
  · intro f hf
    obtain ⟨span, hspan, -⟩ := layers.of_mem_dropLast f hf
    have hon := goesOn f (List.dropLast_subset _ hf)
    cases hr : g.rule f.rule with
    | beginEnd r => exact .inl ⟨r, rfl, by simpa [Frame.endsWithLine, hr] using hon⟩
    | beginWhile r => exact .inr ⟨r, rfl⟩
    | matching r => simp [hr, Rule.span?] at hspan
    | group r => simp [hr, Rule.span?] at hspan
    | noop => simp [hr, Rule.span?] at hspan
  · intro f hf
    rcases Stack.mem_dropLast_or_getLast hf with hf | hf
    · obtain ⟨span, hspan, hend⟩ := layers.of_mem_dropLast f hf
      rw [hend, shape.spans _ _ hspan, hspan]
      rfl
    · obtain rfl := Option.some.inj (hf.symm.trans hlast)
      obtain ⟨r, hr⟩ := shape.root
      rw [hbottom.endPattern, hbottom.rule, hr]
      rfl

end Grammar.Returned

/-! ### An example -/

namespace Source

/-- Texts that go on over lines up to the word that they were begun with. -/
def hereText : GrammarSource :=
  { scopeName := "source.here"
    patterns := [
      { name := some "string.here"
        contentName := some "text.here"
        beginPattern := some "<<([a-z]+)\\n"
        endPattern := some "^\\1$"
        patterns := [{ name := some "variable.here", matchPattern := some "\\$[a-z]+" }] }] }

end Source

/-- After two lines of such a text it is still open. -/
theorem exists_begun_hereText : ∃ g s, Grammar.ofSource Source.hereText = .ok g ∧ g.Returned s ∧
    s.depth = 1 := by
  have run : (Grammar.ofSource Source.hereText).toOption.any (fun g =>
      let first := (Session.mk g {} {}).line "<<end".toList none
      let second := first.2.line "a $b".toList (some first.1.stack)
      second.1.stack.depth == 1) = true := by
    decide +kernel
  obtain ⟨g, hg, hdepth⟩ := exists_ok_of_any run
  have first : g.Returned ((Session.mk g {} {}).line "<<end".toList none).1.stack :=
    Session.returned_line (Session.mk g {} {}) rfl _ none nofun
  have second := Session.returned_line ((Session.mk g {} {}).line "<<end".toList none).2 rfl
    "a $b".toList (some _) (by rintro _ ⟨⟩; exact first)
  exact ⟨g, _, hg, second, by simpa using hdepth⟩

theorem rests_in_hereText : ∃ g s, Grammar.ofSource Source.hereText = .ok g ∧ g.Returned s ∧
    s.depth = 1 ∧ s.Rests g := by
  obtain ⟨g, s, hg, hs, hdepth⟩ := exists_begun_hereText
  exact ⟨g, s, hg, hs, hdepth, hs.rests hg⟩

end ScopeLexer
