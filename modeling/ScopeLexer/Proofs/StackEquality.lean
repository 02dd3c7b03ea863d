/-
# Equal stacks

Equality of stacks leaves out what frames know of the line they were opened in. Of the stacks that lines
leave that is nothing but the flag whether the beginning of a span reached to the end of its line, and the
next line looks at this flag of the innermost frame only: it decides whether the beginning of the line
counts as the place where a span has just been opened. So stacks that are equal go on in the same way
exactly if this flag is the same too.

Key theorems: `Stack.alike_of_same`, `Session.line_congr`, `same_stacks_agree_iff`.
-/
import ScopeLexer.Proofs.CacheTransparency

namespace ScopeLexer

namespace Stack

variable {g : Grammar} {s t : Stack}

theorem isEqv_same_iff : ∀ {fs gs : List Frame}, fs.isEqv gs Frame.same = true ↔
    List.Forall₂ (fun f f' => f.same f' = true) fs gs
  | [], [] => by simp
  | [], _ :: _ => by simp
  | _ :: _, [] => by simp
  | f :: fs, f' :: gs => by simp [List.isEqv, isEqv_same_iff]

theorem frame_same_iff {f f' : Frame} : f.same f' = true ↔ f.rule = f'.rule ∧
    f.endPattern = f'.endPattern ∧ f.nameScopes = f'.nameScopes ∧
      f.contentScopes = f'.contentScopes := by
  simp [Frame.same, and_assoc]

theorem same_symm (h : s.same t = true) : t.same s = true := by
  refine isEqv_same_iff.mpr (List.Forall₂.flip ((isEqv_same_iff.mp h).imp fun f f' hf => ?_))
  obtain ⟨rule, endPattern, names, contents⟩ := frame_same_iff.mp hf
  exact frame_same_iff.mpr ⟨rule.symm, endPattern.symm, names.symm, contents.symm⟩

/-- Stacks that are alike up to flags are equal. -/
theorem Alike.same (h : s.Alike .upToFlags t) : s.same t = true :=
  isEqv_same_iff.mpr (h.frames.imp fun _ _ hf =>
    frame_same_iff.mpr ⟨hf.rule, hf.endPattern, hf.nameScopes, hf.contentScopes⟩)

/-- Between lines, equal stacks are alike up to flags: no frame knows an offset of its line. -/
theorem alike_of_same (hs : g.Returned s) (ht : g.Returned t) (h : s.same t = true) :
    s.Alike .upToFlags t := by
  have clean : ∀ {fs gs : List Frame}, List.Forall₂ (fun f f' => f.same f' = true) fs gs →
      (∀ f ∈ fs, f.anchor = none ∧ f.entered = none) →
      (∀ f ∈ gs, f.anchor = none ∧ f.entered = none) →
        List.Forall₂ (Frame.Alike .upToFlags) fs gs := by
    intro fs gs h
    induction h with
    | nil =>
      intro _ _
      exact .nil
    | cons hf _ ih =>
      intro hfs hgs
      -- Offsets are not compared, but there are none.
      obtain ⟨rule, endPattern, names, contents⟩ := frame_same_iff.mp hf
      obtain ⟨hanchor, hentered⟩ := hfs _ List.mem_cons_self
      obtain ⟨hanchor', hentered'⟩ := hgs _ List.mem_cons_self
      refine .cons ⟨rule, names, contents, endPattern, trivial, ?_, ?_⟩ ?_
      · rw [hanchor, hanchor']
      · rw [hentered, hentered']
      · exact ih (fun f hf => hfs f (List.mem_cons_of_mem _ hf))
          fun f hf => hgs f (List.mem_cons_of_mem _ hf)
  exact .of_frames (clean (isEqv_same_iff.mp h) hs.clean ht.clean)

end Stack

/-! ### Lines after equal stacks -/

/-- Means that work everything out anew do not look at flags. -/
theorem Means.direct_linked (g : Grammar) (o : Options) :
    Means.Linked Link.identity .upToFlags g g (Means.direct g o) (Means.direct g o) where
  search := rfl
  timeIsOver := rfl
  entries := by
    rintro id _ rfl
    exact List.forall₂_same.mpr fun _ _ => ⟨rfl, rfl⟩
  made _ := rfl

/-- **Equal stacks with the same flag go on in the same way.** -/
theorem Session.line_congr {g : Grammar} {s t : Stack} (o : Options) (hs : g.Returned s)
    (ht : g.Returned t) (h : s.same t = true) (hflag : s.top.reachedEnd = t.top.reachedEnd)
    (line : List Char) :
    let fresh : Session := { grammar := g, options := o }
    (fresh.line line (some s)).1.tokens = (fresh.line line (some t)).1.tokens ∧
      (fresh.line line (some s)).1.stack.same (fresh.line line (some t)).1.stack = true := by
  intro fresh
  have hfresh : fresh.memory.Sound g := Memory.sound_empty g
  have linked : Scanner.Linked Link.identity .upToFlags fresh.direct fresh.direct :=
    (Means.direct_linked g o).scanner (Likeness.grammars_refl Iff.rfl g) _
  obtain ⟨tokens, stack⟩ : (fresh.direct.line line (some s)).tokens =
      (fresh.direct.line line (some t)).tokens ∧ (fresh.direct.line line (some s)).stack.Alike
        .upToFlags (fresh.direct.line line (some t)).stack :=
    Scanner.line_linked linked line (.some ⟨Stack.alike_of_same hs ht h, hflag⟩)
  rw [(line_direct hfresh line (some s)).1, (line_direct hfresh line (some t)).1]
  exact ⟨tokens, stack.same⟩

/-! ### Equal stacks with different flags -/

namespace Source

/-- A span that may begin with the end of a line, and a match only where it has just begun. -/
def justBegun : GrammarSource :=
  { scopeName := "source.t"
    patterns := [
      { beginPattern := some "a\\n?"
        endPattern := some "z"
        patterns := [{ name := some "start.t", matchPattern := some "\\Gb" }] }] }

end Source

/-- The span is open after either line, and the stacks are equal, but only the first one began it with its
newline: the next line is tokenized differently. -/
theorem exists_same_apart : ∃ g s t, Grammar.ofSource Source.justBegun = .ok g ∧ g.Returned s ∧
    g.Returned t ∧ s.same t = true ∧ s.top.reachedEnd = true ∧ t.top.reachedEnd = false ∧
      ((Session.mk g {} {}).line ['b'] (some s)).1.tokens ≠
        ((Session.mk g {} {}).line ['b'] (some t)).1.tokens := by
  have run : (Grammar.ofSource Source.justBegun).toOption.any (fun g =>
      let fresh := Session.mk g {} {}
      let s := (fresh.line ['a'] none).1.stack
      let t := (fresh.line ['a', 'c'] none).1.stack
      decide (s.same t = true ∧ s.top.reachedEnd = true ∧ t.top.reachedEnd = false ∧
        (fresh.line ['b'] (some s)).1.tokens ≠ (fresh.line ['b'] (some t)).1.tokens)) = true := by
    decide +kernel
  obtain ⟨g, hg, h⟩ := exists_ok_of_any run
  exact ⟨g, _, _, hg, Session.returned_line (Session.mk g {} {}) rfl _ none nofun,
    Session.returned_line (Session.mk g {} {}) rfl _ none nofun, of_decide_eq_true h⟩

/-- Equality of stacks alone is not enough. -/
theorem not_same_stacks_agree : ¬ ∀ (source : Source.GrammarSource) (g : Grammar),
    Grammar.ofSource source = .ok g → ∀ (o : Options), o.timeLimit = none → ∀ s t : Stack,
      g.Returned s → g.Returned t → s.same t = true → ∀ line : List Char,
        let fresh : Session := { grammar := g, options := o }
        (fresh.line line (some s)).1.tokens = (fresh.line line (some t)).1.tokens ∧
          (fresh.line line (some s)).1.stack.same (fresh.line line (some t)).1.stack = true := by
  intro agree
  obtain ⟨g, s, t, hg, hs, ht, hsame, -, -, apart⟩ := exists_same_apart
  exact apart (agree _ g hg {} rfl s t hs ht hsame ['b']).1

/-- **When equal stacks go on in the same way**: for two values of the flag of the innermost frame, a line
comes to the same tokens and to equal stacks after any two equal stacks with these flags, in every grammar
and whatever the limits, exactly if the two values are the same. -/
theorem same_stacks_agree_iff (b c : Bool) :
    (∀ (source : Source.GrammarSource) (g : Grammar), Grammar.ofSource source = .ok g →
      ∀ (o : Options) (s t : Stack), g.Returned s → g.Returned t → s.same t = true →
        s.top.reachedEnd = b → t.top.reachedEnd = c → ∀ line : List Char,
          let fresh : Session := { grammar := g, options := o }
          (fresh.line line (some s)).1.tokens = (fresh.line line (some t)).1.tokens ∧
            (fresh.line line (some s)).1.stack.same (fresh.line line (some t)).1.stack = true) ↔
      b = c := by
  constructor
  · intro agree
    obtain ⟨g, s, t, hg, hs, ht, hsame, htrue, hfalse, apart⟩ := exists_same_apart
    cases b <;> cases c
    · rfl
    · exact absurd (agree _ g hg {} t s ht hs (Stack.same_symm hsame) hfalse htrue ['b']).1.symm apart
    · exact absurd (agree _ g hg {} s t hs ht hsame htrue hfalse ['b']).1 apart
    · rfl
  · rintro rfl source g - o s t hs ht hsame hb hc line
    exact Session.line_congr o hs ht hsame (hb.trans hc.symm) line

end ScopeLexer
