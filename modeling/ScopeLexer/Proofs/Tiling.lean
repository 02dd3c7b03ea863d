/-
# Tokens tile their lines

The tokens of a line abut: the first begins where the line begins, each of the others where the one
before it ends, and the last ends where the line ends, its newline not counted. So the texts of the tokens
make up the line again, and those of a document make up the document.

Key definitions: `Abut`, `Tiled`.
Key theorems: `Scanner.line_tiled`, `Scanner.document_tiled`, `Grammar.tokens_tile`.
-/
import Mathlib.Data.List.Forall2
import ScopeLexer.Proofs.CarriedStacks
import ScopeLexer.Proofs.ScanCovers

namespace ScopeLexer

open Text (Boundary width)

/-! ### Tokens that abut -/

/-- Tokens from an offset to another one: each begins where the one before it ends, and none is empty. -/
def Abut : Nat → List Token → Nat → Prop
  | start, [], stop => start = stop
  | start, t :: ts, stop => t.start = start ∧ t.start < t.stop ∧ Abut t.stop ts stop

theorem abut_append : ∀ {start stop : Nat} {ts us : List Token},
    Abut start (ts ++ us) stop ↔ ∃ mid, Abut start ts mid ∧ Abut mid us stop
  | start, stop, [], us => by simp [Abut]
  | start, stop, t :: ts, us => by simp [Abut, abut_append, and_assoc]

theorem Abut.le : ∀ {start stop : Nat} {ts : List Token}, Abut start ts stop → start ≤ stop
  | _, _, [], h => Nat.le_of_eq h
  | _, _, t :: ts, ⟨hs, hlt, h⟩ => by
    have := h.le
    omega

theorem Abut.stop_le : ∀ {start stop : Nat} {ts : List Token}, Abut start ts stop →
    ∀ t ∈ ts, t.stop ≤ stop
  | _, _, [], _, _, ht => absurd ht List.not_mem_nil
  | _, _, t :: ts, ⟨_, _, h⟩, t', ht => by
    rcases List.mem_cons.mp ht with rfl | ht
    · exact h.le
    · exact h.stop_le t' ht

/-- There are tokens exactly if there is something between the offsets. -/
theorem Abut.eq_nil_iff {start stop : Nat} {ts : List Token} (h : Abut start ts stop) :
    ts = [] ↔ start = stop := by
  cases ts with
  | nil => exact ⟨fun _ => h, fun _ => rfl⟩
  | cons t ts =>
    obtain ⟨hs, hlt, h⟩ := h
    have := h.le
    constructor
    · intro h
      contradiction
    · omega

namespace Tokens

/-- The tokens that have been produced, from the first one on. -/
theorem Grows.exists_new {Q : Nat → List Scope → Prop} {ts us : Tokens} (h : Grows Q ts us) :
    ∃ new, us.done = new.reverse ++ ts.done ∧ Abut ts.last new us.last ∧ ∀ t ∈ new, Q t.stop t.scopes := by
  induction h with
  | refl => exact ⟨[], rfl, rfl, nofun⟩
  | @produce us stop scopes _ hq ih =>
    obtain ⟨new, hdone, abut, hnew⟩ := ih
    unfold Tokens.produce
    split
    · exact ⟨new, hdone, abut, hnew⟩
    · rename_i hlt
      refine ⟨new ++ [⟨us.last, stop, scopes⟩], ?_, ?_, fun t ht => ?_⟩
      · simp [hdone]
      · exact abut_append.mpr ⟨us.last, abut, rfl, Nat.lt_of_not_le hlt, rfl⟩
      · rcases List.mem_append.mp ht with ht | ht
        · exact hnew t ht
        · obtain rfl := List.mem_singleton.mp ht
          exact hq

theorem Grows.le {Q : Nat → List Scope → Prop} {ts us : Tokens} (h : Grows Q ts us) : ts.last ≤ us.last := by
  obtain ⟨new, -, abut, -⟩ := h.exists_new
  exact abut.le

/-- What is produced abuts. -/
theorem Grows.abut {Q : Nat → List Scope → Prop} {ts us : Tokens} {start : Nat} (h : Grows Q ts us)
    (hs : Abut start ts.done.reverse ts.last) : Abut start us.done.reverse us.last := by
  obtain ⟨new, hdone, abut, -⟩ := h.exists_new
  rw [hdone, List.reverse_append, List.reverse_reverse, abut_append]
  exact ⟨ts.last, hs, abut⟩

/-- Without the newline the tokens still abut. Of the last one only the end may have been moved. -/
theorem finish_abut {ts : Tokens} {length : Nat} (h : Abut 0 ts.done.reverse ts.last)
    (hl : ts.last = length + 1) : Abut 0 (ts.finish (length + 1)) length ∧
      ∀ t ∈ ts.finish (length + 1), ∃ t' ∈ ts.done, t.scopes = t'.scopes ∧
        (t.stop = t'.stop ∨ t.stop = length) := by
  obtain ⟨done, last⟩ := ts
  obtain rfl : last = length + 1 := hl
  cases done with
  | nil => cases h
  | cons t rest =>
    simp only [List.reverse_cons, abut_append] at h
    obtain ⟨mid, hrest, rfl, hlt, hstop : t.stop = length + 1⟩ := h
    unfold finish
    simp only [Nat.add_sub_cancel]
    by_cases hstart : t.start = length
    · rw [if_pos hstart]
      cases rest with
      | nil => exact ⟨hstart ▸ hrest, nofun⟩
      | cons u rest =>
        -- The last token is the newline, and the one before it ends where the newline begins.
        have := hrest.stop_le u (by simp)
        simp only
        rw [if_neg (by omega)]
        refine ⟨hstart ▸ hrest, fun v hv => ⟨v, ?_, rfl, .inl rfl⟩⟩
        exact List.mem_cons_of_mem _ (List.mem_reverse.mp hv)
    · rw [if_neg hstart]
      simp only [hstop, if_pos, List.reverse_cons]
      refine ⟨abut_append.mpr ⟨t.start, hrest, rfl, by simp only; omega, rfl⟩, fun u hu => ?_⟩
      rcases List.mem_append.mp hu with hu | hu
      · exact ⟨u, List.mem_cons_of_mem _ (List.mem_reverse.mp hu), rfl, .inl rfl⟩
      · obtain rfl := List.mem_singleton.mp hu
        exact ⟨t, List.mem_cons_self, rfl, .inr rfl⟩

end Tokens

/-! ### Lines -/

/-- Tokens that tile a text, in the scope of a grammar. -/
structure Tiled (g : Grammar) (text : List Char) (tokens : List Token) : Prop where
  abut : Abut 0 tokens (width text)
  boundary : ∀ t ∈ tokens, Boundary text t.stop
  scope : ∀ t ∈ tokens, t.scopes.head? = some g.scope

/-- The texts of tokens that tile a text make it up again. -/
theorem flatMap_text_of_abut {text : List Char} : ∀ {tokens : List Token} (before after : List Char),
    Abut (width before) tokens (width text) → (∀ t ∈ tokens, Boundary text t.stop) →
      text = before ++ after → tokens.flatMap (·.text text) = after
  | [], before, after, h, _, ht => by
    have hw : width before = width text := h
    rw [ht, Text.width_append] at hw
    exact (Text.width_eq_zero.mp (by omega)).symm
  | t :: ts, before, after, ⟨hstart, hlt, h⟩, hb, ht => by
    obtain ⟨upTo, rest, hcut, hw⟩ := hb t List.mem_cons_self
    obtain ⟨mid, rfl, rfl⟩ := Text.exists_append_of_width_le (ht.symm.trans hcut) (by omega)
    have hmid : t.text text = mid := by
      rw [Token.text, hstart, ← hw, hcut, Text.slice?_append]
      rfl
    rw [List.flatMap_cons, hmid]
    congr 1
    exact flatMap_text_of_abut _ _ (hw ▸ h) (fun u hu => hb u (List.mem_cons_of_mem _ hu)) hcut

theorem Tiled.flatMap_text {g : Grammar} {text : List Char} {tokens : List Token}
    (h : Tiled g text tokens) : tokens.flatMap (·.text text) = text :=
  flatMap_text_of_abut [] text h.abut h.boundary rfl

namespace Scanner

variable {σ : Type} {sc : Scanner (StateM σ)}

/-- **The tokens of a line tile it**, and the stack that it leaves is in layers again. -/
theorem line_tiled (hs : sc.FindsInText) (hroot : sc.grammar.HasRoot)
    (text : List Char) {prior : Option Stack}
    (hp : (prior.getD (.root sc.grammar)).InLayers sc.grammar) :
    Always (sc.line text prior) fun r =>
      Tiled sc.grammar (withoutNewline text) r.tokens ∧ r.stack.InLayers sc.grammar := by
  refine .and ?_ ((sc.line_moves text prior).mono fun r hr =>
    Layered.lineMove (Stack.InLayers.kept _ _) (fun _ h => h) hp hr)
  unfold line
  refine .bind (scan_grows hs hroot maxLevels hp) fun r hr => .pure ?_
  obtain ⟨grows, reaches⟩ := hr
  generalize withoutNewline text = body at grows reaches ⊢
  have hwidth : width (body ++ ['\n']) = width body + 1 := by
    rw [Text.width_append]
    rfl
  -- What was produced last ends in the line, and not before its end.
  have hlast : r.1.last = width body + 1 := by
    rcases grows.of_last with h | ⟨scopes, h⟩
    · simp only at h
      omega
    · have := h.boundary.le_width
      omega
  have habut : Abut 0 r.1.done.reverse r.1.last := grows.abut rfl
  have good : ∀ t ∈ r.1.done, Good sc.grammar (body ++ ['\n']) t.stop t.scopes :=
    fun t ht => (grows.of_mem t ht).resolve_left List.not_mem_nil
  rw [hwidth]
  obtain ⟨hfinish, hmem⟩ := Tokens.finish_abut habut hlast
  refine ⟨hfinish, fun t ht => ?_, fun t ht => ?_⟩
  · obtain ⟨t', ht', -, hstop | hstop⟩ := hmem t ht
    · have hle := hfinish.stop_le t ht
      rw [hstop] at hle ⊢
      exact (good t' ht').boundary.of_append hle
    · rw [hstop]
      exact Text.boundary_width body
  · obtain ⟨t', ht', hscopes, -⟩ := hmem t ht
    rw [hscopes]
    exact (good t' ht').scope

end Scanner

/-! ### Documents -/

theorem withoutNewline_of_not_mem : ∀ {cs : List Char}, '\n' ∉ cs → withoutNewline cs = cs
  | [], _ => rfl
  | c :: cs, h => by
    rw [withoutNewline]
    · rw [withoutNewline_of_not_mem (List.not_mem_of_not_mem_cons h)]
    · rintro rfl rfl
      exact List.ne_of_not_mem_cons h rfl

theorem newline_not_mem_documentLines {text : List Char} : ∀ l ∈ documentLines text, '\n' ∉ l := by
  intro l hl h
  have hmem : '\n' ∈ (documentLines text).flatten := List.mem_flatten.mpr ⟨l, hl, h⟩
  rw [flatten_documentLines] at hmem
  simp at hmem

theorem intercalate_documentLines {text : List Char} (h : text ≠ []) :
    ['\n'].intercalate (documentLines text) = text := by
  rw [documentLines, if_neg (by simpa using h), List.intercalate_splitOn]

/-- Tokens that tile lines without newlines make them up again. -/
theorem zipWith_text_of_tiled {g : Grammar} {lines : List (List Char)} {tokens : List (List Token)}
    (h : List.Forall₂ (fun line ts => Tiled g (withoutNewline line) ts) lines tokens)
    (hn : ∀ l ∈ lines, '\n' ∉ l) :
    List.zipWith (fun line ts => ts.flatMap (·.text line)) lines tokens = lines := by
  induction h with
  | nil => rfl
  | @cons line ts lines tokens htiled _ ih =>
    rw [withoutNewline_of_not_mem (hn line List.mem_cons_self)] at htiled
    rw [List.zipWith_cons_cons, htiled.flatMap_text, ih fun l hl => hn l (List.mem_cons_of_mem _ hl)]

namespace Scanner

variable {σ : Type} {sc : Scanner (StateM σ)}

theorem lines_tiled (hs : sc.FindsInText)
    (hroot : sc.grammar.HasRoot) :
    ∀ (lines : List (List Char)) (prior : Option Stack),
      (prior.getD (.root sc.grammar)).InLayers sc.grammar →
        Always (sc.lines lines prior) fun r =>
          List.Forall₂ (fun line ts => Tiled sc.grammar (withoutNewline line) ts) lines r
  | [], _, _ => .pure .nil
  | line :: rest, prior, hp => by
    unfold lines
    refine .bind (line_tiled hs hroot line hp) fun r hr => ?_
    refine .bind (lines_tiled hs hroot rest (some r.stack) hr.2) fun others ho => ?_
    exact .pure (.cons hr.1 ho)

/-- **The tokens of a document tile its lines.** -/
theorem document_tiled (hs : sc.FindsInText)
    (hroot : sc.grammar.HasRoot) (text : List Char) :
    Always (sc.document text) fun r =>
      List.Forall₂ (fun line ts => Tiled sc.grammar (withoutNewline line) ts) (documentLines text) r :=
  lines_tiled hs hroot _ none (Layered.root sc.grammar _)

end Scanner

/-- **Tokens tile.** In a compiled grammar, with any search that finds only what lies in the text, any
clock and any limits, the tokens of a line after any stack that may be carried to it go from its beginning
to its end without its newline, none of them empty and all of them in the scope of the grammar. The texts
of the tokens of a document make it up again. -/
theorem Grammar.tokens_tile {source : Source.GrammarSource} {g : Grammar}
    (hg : Grammar.ofSource source = .ok g) {σ : Type} {w : Means (StateM σ)}
    (hw : w.search.StaysInText) (maxStalled : Nat) (state : σ) :
    (∀ (line : List Char) (prior : Option Stack), (∀ p, prior = some p → g.Returned p) →
      let tokens := ((w.scanner g maxStalled).line line prior state).1.tokens
      Abut 0 tokens (width (withoutNewline line)) ∧
        (tokens = [] ↔ withoutNewline line = []) ∧
        ∀ t ∈ tokens, t.scopes.head? = some g.scope) ∧
    ∀ text : List Char, text ≠ [] →
      let tokens := ((w.scanner g maxStalled).document text state).1
      tokens.length = (documentLines text).length ∧
        ['\n'].intercalate
          (List.zipWith (fun line ts => ts.flatMap (·.text line)) (documentLines text) tokens) =
            text := by
  have hs := Means.scanner_findsInText hw g maxStalled
  have hroot := (Grammar.shape_of_ofSource hg).root
  constructor
  · intro line prior hp
    have layers : (prior.getD (.root g)).InLayers g := by
      cases prior with
      | none => exact .root g _
      | some p => exact (hp p rfl).layered.mono fun _ _ => trivial
    obtain ⟨tiled, -⟩ := Scanner.line_tiled hs hroot line layers state
    refine ⟨tiled.abut, ?_, tiled.scope⟩
    rw [tiled.abut.eq_nil_iff, eq_comm, Text.width_eq_zero]
  · intro text ht
    have tiled := Scanner.document_tiled hs hroot text state
    refine ⟨tiled.length_eq.symm, ?_⟩
    rw [zipWith_text_of_tiled tiled newline_not_mem_documentLines, intercalate_documentLines ht]

/-- A line within a text that goes on. -/
theorem tokens_tile_hereText : ∃ g prior, Grammar.ofSource Source.hereText = .ok g ∧
    g.Returned prior ∧
      Abut 0 (((Memory.means g {}).scanner g 64).line ['a', ' ', '$', 'b', '\n'] (some prior)
        {}).1.tokens 4 := by
  obtain ⟨g, s, hg, hs, -⟩ := exists_begun_hereText
  have tile := Grammar.tokens_tile hg (w := Memory.means g {}) (Options.search_staysInText {}) 64 {}
  exact ⟨g, s, hg, hs, (tile.1 _ (some s) (by rintro _ ⟨⟩; exact hs)).1⟩

end ScopeLexer
