/-
# A text that stands for itself

A captured text is put into a pattern with a backslash before each character that may have a meaning there. None
of these characters is a letter or a digit, so that the backslash gives it no other meaning, whatever follows;
and as only letters are anchors, the choice of anchors leaves such a text as it is. Each character is then read
as itself, all of them as one literal, and to search for it is to look for the first place where the text stands.

Key definitions: `Text.Leftmost`, `Regex.literalProgram`.
Key theorems: `Regex.scan_escapeChar`, `Regex.compile_escapeText`, `Regex.searchFrom_literal`,
`Pattern.search_escapeText`, `Pattern.search_captured`.
-/
import ScopeLexer.Proofs.Boundary
import ScopeLexer.Proofs.PatternPieces

namespace ScopeLexer

/-! ### The first place of a text -/

/-- The first place where the text `t` stands in another one is between `passed` and `rest`. -/
structure Text.Leftmost (t text passed rest : List Char) : Prop where
  stands : text = passed ++ (t ++ rest)
  first : ∀ before after, text = before ++ (t ++ after) → passed.length ≤ before.length

namespace Text.Leftmost

variable {t text passed rest : List Char} {c : Char}

theorem nil (rest : List Char) : Leftmost t (t ++ rest) [] rest := ⟨rfl, fun _ _ _ => Nat.zero_le _⟩

/-- Where a text does not begin here it is looked for behind the next character. -/
theorem cons (h : ¬ t <+: c :: text) (hl : Leftmost t text passed rest) :
    Leftmost t (c :: text) (c :: passed) rest := by
  refine ⟨congrArg (c :: ·) hl.stands, fun before after hba => ?_⟩
  cases before with
  | nil => exact absurd ⟨after, hba.symm⟩ h
  | cons d before => exact Nat.succ_le_succ (hl.first before after (List.cons.inj hba).2)

/-- There is one first place. -/
theorem unique {passed' rest' : List Char} (h : Leftmost t text passed rest) (h' : Leftmost t text passed' rest') :
    passed = passed' ∧ rest = rest' := by
  have hlength : passed.length = passed'.length :=
    Nat.le_antisymm (h.first _ _ h'.stands) (h'.first _ _ h.stands)
  obtain ⟨hpassed, hrest⟩ := List.append_inj (h.stands.symm.trans h'.stands) hlength
  exact ⟨hpassed, (List.append_inj hrest rfl).2⟩

end Text.Leftmost

namespace Pattern

/-- A reference alone gives way to the text of its group. -/
theorem resolve_reference (line : List Char) (captures : Regex.Captures) :
    resolve ['\\', '1'] line captures = escapeText (captured line captures 1) := by
  have hone : pieces ['\\', '1'] = [.escape '1'] := rfl
  rw [resolve, hone, List.flatMap_singleton]
  rfl

end Pattern

open Pattern (escapeChar escapeText)

namespace Regex

/-! ### Characters read as themselves -/

section

variable {c : Char} (hc : c.isAlphanum = false)
include hc

theorem escaped?_of_plain : CharClass.escaped? c = none := by
  rw [CharClass.escaped?.eq_def]
  split <;> first | rfl | exact absurd hc (by decide)

theorem escapedAnchor?_of_plain (o : Options) : escapedAnchor? o c = none := by
  rw [escapedAnchor?.eq_def]
  split <;> first | rfl | exact absurd hc (by decide)

theorem controlLetter?_of_plain : controlLetter? c = none := by
  rw [controlLetter?.eq_def]
  split <;> first | rfl | exact absurd hc (by decide)

/-- Only letters begin the number of a character. -/
theorem readEscape_of_plain (ranges : Bool) (cs : List Char) : readEscape ranges (c :: cs) = .ok none := by
  have hkey : ¬ (c = 'c' ∨ c = 'C' ∨ c = 'M') := by
    rintro (rfl | rfl | rfl) <;> exact absurd hc (by decide)
  rw [readEscape.eq_def]
  split
  all_goals
    rename_i heq
    first
      | obtain ⟨rfl, -⟩ := List.cons.inj heq
        exact absurd hc (by decide)
      | obtain ⟨rfl, rfl⟩ := List.cons.inj heq
        rw [if_neg hkey, controlLetter?_of_plain hc]
      | cases heq

/-- **A backslash before what is no letter and no digit makes it stand for itself**, whatever follows. -/
theorem scanEscape_of_plain (o : Options) (g : Groups) (cs : List Char) :
    scanEscape o g c cs = .ok (.char c.toNat, cs) := by
  have hdigit : c.isDigit = false := (Bool.or_eq_false_iff.mp hc).2
  have letter : ∀ d : Char, d.isAlphanum = true → c ≠ d := by
    rintro d hd rfl
    exact absurd (hc.symm.trans hd) (by decide)
  rw [scanEscape, escaped?_of_plain hc, escapedAnchor?_of_plain hc]
  · simp only [hdigit, Bool.false_eq_true, if_false, readEscape_of_plain hc]
    rfl
  · exact letter 'K' rfl
  · exact letter 'R' rfl
  · exact letter 'X' rfl
  · exact letter 'N' rfl
  · exact letter 'O' rfl
  · exact fun _ h _ => letter 'p' rfl h
  · exact fun _ h _ => letter 'P' rfl h
  · exact fun _ _ h _ => letter 'k' rfl h
  · exact fun _ _ h _ => letter 'g' rfl h

end

/-- A character without a meaning is read as itself. -/
theorem scan_of_not_special {c : Char} (hc : Pattern.specials.contains c = false) (g : Groups) (cs : List Char) :
    scan {} g (c :: cs) = .ok (.char c.toNat, cs) := by
  have other : ∀ d ∈ Pattern.specials, c ≠ d := by
    rintro d hd rfl
    exact absurd (hc.symm.trans (List.contains_iff_mem.mpr hd)) (by decide)
  have hskip : skipIgnored false .none (c :: cs) = .ok (c :: cs) := by
    rw [skipIgnored]
    · rfl
    · exact fun _ h _ => other '(' (by decide) h
  rw [scan, hskip]
  simp only [bind, Except.bind]
  split
  case h_1 heq => cases heq
  case h_15 heq =>
    obtain ⟨rfl, rfl⟩ := List.cons.inj heq
    rfl
  all_goals
    rename_i heq
    exact absurd (List.cons.inj heq).1 (other _ (by decide))

/-- **An escaped character is read as itself**, whatever follows. -/
theorem scan_escapeChar (c : Char) (g : Groups) (cs : List Char) :
    scan {} g (escapeChar c ++ cs) = .ok (.char c.toNat, cs) := by
  rw [escapeChar]
  split
  · rename_i hc
    exact scanEscape_of_plain (Pattern.isAlphanum_of_escaped hc) {} g cs
  · rename_i hc
    rw [Bool.not_eq_true, Bool.or_eq_false_iff] at hc
    exact scan_of_not_special hc.1 g cs

/-! ### Literals -/

/-- The node of a text that stands for itself. -/
def literalNode (t : List Char) : Node := if t.isEmpty then .empty else .literal (t.map Char.toNat) .exact

/-- The program of a text that stands for itself. -/
def literalProgram (t : List Char) : Program := ⟨literalNode t, 0, [(0, literalNode t)]⟩

/-- The place in a pattern before an escaped text, where nothing has been opened. -/
def readingAt : List Char → Reading
  | [] => { token := .stop, rest := [], groups := {} }
  | c :: t => { token := .char c.toNat, rest := escapeText t, groups := {} }

theorem next_escapeText (r : Reading) (hr : r.groups = {} ∧ r.counters = 0) (t : List Char) :
    r.next {} (escapeText t) = .ok (readingAt t) := by
  obtain ⟨token, rest, groups, counters⟩ := r
  obtain ⟨rfl, rfl⟩ := hr
  cases t with
  | nil => rfl
  | cons c t =>
    have hscan : scan {} {} (escapeText (c :: t)) = .ok (.char c.toNat, escapeText t) :=
      scan_escapeChar c {} (escapeText t)
    rw [Reading.next, hscan]
    rfl

variable {f : Frame}

/-- A run of escaped characters is one literal, up to the end. -/
theorem textOf_escapeText (hf : f.options = {}) : ∀ (t : List Char) (fuel : Nat) (codes : List Nat),
    t.length + 2 ≤ fuel → textOf fuel f codes (readingAt t) =
      .ok ([.literal (codes.reverse ++ t.map Char.toNat) .exact], readingAt [])
  | [], fuel + 2, codes, _ => by
    rw [textOf, hf, List.map_nil, List.append_nil]
    rfl
  | c :: t, fuel + 1, codes, h => by
    have hread : textOf (fuel + 1) f codes (readingAt (c :: t)) = (do
        let r ← (readingAt (c :: t)).next f.options (escapeText t)
        textOf fuel f (c.toNat :: codes) r) := by
      rw [textOf]
      rfl
    have hrest := textOf_escapeText hf t fuel (c.toNat :: codes) (Nat.le_of_succ_le_succ h)
    rw [hread, hf, next_escapeText _ ⟨rfl, rfl⟩ t]
    simpa [bind, Except.bind] using hrest

/-- An escaped text is one term. -/
theorem sequenceOf_escapeText (hf : f.options = {}) (t : List Char) {fuel : Nat} (hfuel : t.length + 3 ≤ fuel) :
    sequenceOf fuel f (readingAt t) =
      .ok (if t.isEmpty then [] else [literalNode t], readingAt []) := by
  obtain ⟨fuel, rfl⟩ : ∃ n, fuel = n + 2 := ⟨fuel - 2, by omega⟩
  cases t with
  | nil =>
    rw [sequenceOf]
    rfl
  | cons c t =>
    have hterm : termOf (fuel + 1) f (readingAt (c :: t)) = (do
        let r ← (readingAt (c :: t)).next f.options (escapeText t)
        textOf fuel f [c.toNat] r) := by
      rw [termOf]
      rfl
    have htext := textOf_escapeText hf t fuel [c.toNat] (by simpa using hfuel)
    have hsequence : sequenceOf (fuel + 2) f (readingAt (c :: t)) = (do
        let e ← termOf (fuel + 1) f (readingAt (c :: t))
        let others ← sequenceOf (fuel + 1) f e.2
        return (e.1 ++ others.1, others.2)) := by
      rw [sequenceOf]
      rfl
    have hends : sequenceOf (fuel + 1) f (readingAt []) = .ok ([], readingAt []) := by
      rw [sequenceOf]
      rfl
    rw [hsequence, hterm, hf, next_escapeText _ ⟨rfl, rfl⟩ t]
    simp only [bind, Except.bind, htext, hends]
    rfl

theorem length_le_escapeText (t : List Char) : t.length ≤ (escapeText t).length := by
  induction t with
  | nil => exact Nat.le_refl _
  | cons c t ih =>
    have hcons : escapeText (c :: t) = escapeChar c ++ escapeText t := rfl
    have hone : 1 ≤ (escapeChar c).length := by
      rw [escapeChar]
      split <;> exact Nat.le_add_left 1 _
    rw [hcons, List.length_append, List.length_cons]
    omega

/-- **An escaped text is read as one literal.** -/
theorem parse_escapeText (t : List Char) : parse (escapeText t) = .ok ⟨literalNode t, {}⟩ := by
  have hlength := length_le_escapeText t
  obtain ⟨fuel, hfuel⟩ : ∃ n, 8 * (escapeText t).length + 8 = n + 1 := ⟨_, rfl⟩
  let f : Frame := { options := {}, inGroup := false, depth := 0, total := (escapeText t).length }
  have halternatives : alternativesOf (fuel + 1) f (readingAt t) =
      .ok ([literalNode t], readingAt []) := by
    rw [alternativesOf, sequenceOf_escapeText rfl t (by omega)]
    cases t <;> rfl
  have hparse : parse (escapeText t) = (do
      let start : Reading := { token := .stop, rest := escapeText t, groups := {} }
      let e ← alternativesOf (8 * (escapeText t).length + 8) f (← start.next {} (escapeText t))
      return { node := Node.alternatives e.1, groups := e.2.groups }) := rfl
  have hstart : ({ token := .stop, rest := escapeText t, groups := {} } : Reading).next {} (escapeText t) =
      .ok (readingAt t) := next_escapeText _ ⟨rfl, rfl⟩ t
  rw [hparse, hfuel]
  simp only [hstart, bind, Except.bind, halternatives]
  rfl

/-- A literal is put to use as it is. -/
theorem compile_escapeText (t : List Char) : compile (escapeText t) = .ok (literalProgram t) := by
  rw [compile, parse_escapeText, literalProgram]
  cases t <;> rfl

/-! ### Searching for a literal -/

/-- A literal steps over its text. -/
theorem stepAll_append (rest : List Char) : ∀ (t before : List Char) (offset : Nat),
    stepAll (fun n d => d.toNat == n) none (t.map Char.toNat) ⟨before, offset, t ++ rest⟩ =
      some ⟨t.reverse ++ before, offset + Text.width t, rest⟩
  | [], before, offset => rfl
  | c :: t, before, offset => by
    have hstep : Cursor.step? (fun d => d.toNat == c.toNat) none ⟨before, offset, c :: (t ++ rest)⟩ =
        some ⟨c :: before, offset + c.utf8Size, t ++ rest⟩ := by
      simp [Cursor.step?, Cursor.within]
    rw [List.map_cons, List.cons_append, stepAll, hstep, Option.bind_some, stepAll_append rest t, Text.width,
      List.reverse_cons, List.append_assoc, Nat.add_assoc]
    rfl

/-- A literal steps over nothing else. -/
theorem stepAll_of_not_prefix : ∀ {t : List Char} {c : Cursor}, ¬ t <+: c.after →
    stepAll (fun n d => d.toNat == n) none (t.map Char.toNat) c = none
  | [], c, h => absurd c.after.nil_prefix h
  | d :: t, ⟨before, offset, []⟩, h => rfl
  | d :: t, ⟨before, offset, e :: after⟩, h => by
    rw [List.map_cons, stepAll]
    by_cases hde : e = d
    · subst hde
      have hstep : Cursor.step? (fun x => x.toNat == e.toNat) none ⟨before, offset, e :: after⟩ =
          some ⟨e :: before, offset + e.utf8Size, after⟩ := by
        simp [Cursor.step?, Cursor.within]
      have hrest : ¬ t <+: after := fun hp => h (List.cons_prefix_cons.mpr ⟨rfl, hp⟩)
      rw [hstep, Option.bind_some]
      exact stepAll_of_not_prefix hrest
    · have hne : (e.toNat == d.toNat) = false := beq_eq_false_iff_ne.mpr fun h => hde (Char.toNat_inj.mp h)
      simp [Cursor.step?, hne]

/-- A literal matches where its text begins. -/
theorem matchAt_append (t rest before : List Char) (start offset : Nat) (e : Effort) :
    matchAt (literalProgram t) start ⟨before, offset, t ++ rest⟩ e =
      .matched { cursor := ⟨t.reverse ++ before, offset + Text.width t, rest⟩, slots := #[{}] } e := by
  have hstep := stepAll_append rest t before offset
  rw [matchAt, literalProgram, literalNode]
  cases t with
  | nil => rfl
  | cons c t =>
    simp only [List.isEmpty_cons, Bool.false_eq_true, if_false, run, stepText, hstep]
    rfl

/-- A literal fails anywhere else. -/
theorem matchAt_of_not_prefix {t : List Char} {c : Cursor} (h : ¬ t <+: c.after) (start : Nat) (e : Effort) :
    matchAt (literalProgram t) start c e = .failed e := by
  have hstep := stepAll_of_not_prefix h
  rw [matchAt, literalProgram, literalNode]
  cases t with
  | nil => exact absurd c.after.nil_prefix h
  | cons d t => simp only [List.isEmpty_cons, Bool.false_eq_true, if_false, run, stepText, hstep]

/-- A search for a literal ends where its text begins. -/
theorem searchFrom_append (t rest before : List Char) (start offset : Nat) (limit : Option Nat) :
    searchFrom (literalProgram t) start limit (t ++ rest) ⟨before, offset, t ++ rest⟩ 0 =
      some [some (offset, offset + Text.width t)] := by
  rw [searchFrom.eq_def]
  simp only [Nat.not_lt_zero, if_false, matchAt_append, State.captures, Option.getD_none]
  rw [Nat.min_eq_left (Nat.le_add_right _ _)]
  rfl

/-- **A search for a literal finds its first place**, or nothing if there is none, whatever the limit. -/
theorem searchFrom_literal (t : List Char) (start : Nat) (limit : Option Nat) :
    ∀ (after before : List Char) (offset : Nat),
    (∃ passed rest, Text.Leftmost t after passed rest ∧
      searchFrom (literalProgram t) start limit after ⟨before, offset, after⟩ 0 =
        some [some (offset + Text.width passed, offset + Text.width (passed ++ t))]) ∨
    ¬ t <:+: after ∧ searchFrom (literalProgram t) start limit after ⟨before, offset, after⟩ 0 = none := by
  intro after
  induction after with
  | nil =>
    intro before offset
    by_cases ht : t <+: []
    · obtain rfl := List.prefix_nil.mp ht
      exact .inl ⟨[], [], .nil [], searchFrom_append [] [] before start offset limit⟩
    · refine .inr ⟨fun hi => ht (List.infix_nil.mp hi ▸ List.nil_prefix), ?_⟩
      rw [searchFrom, if_neg (Nat.not_lt_zero _), matchAt_of_not_prefix ht]
  | cons c after ih =>
    intro before offset
    by_cases ht : t <+: c :: after
    · obtain ⟨rest, hrest⟩ := ht
      rw [← hrest]
      exact .inl ⟨[], rest, .nil rest, searchFrom_append t rest before start offset limit⟩
    · have hnext : searchFrom (literalProgram t) start limit (c :: after) ⟨before, offset, c :: after⟩ 0 =
          searchFrom (literalProgram t) start limit after ⟨c :: before, offset + c.utf8Size, after⟩ 0 := by
        rw [searchFrom, if_neg (Nat.not_lt_zero _), matchAt_of_not_prefix ht]
      rcases ih (c :: before) (offset + c.utf8Size) with ⟨passed, rest, hl, hfound⟩ | ⟨hno, hnone⟩
      · refine .inl ⟨c :: passed, rest, hl.cons ht, ?_⟩
        rw [hnext, hfound, List.cons_append, Text.width, Text.width, Nat.add_assoc, Nat.add_assoc]
      · refine .inr ⟨fun hi => ?_, hnext.trans hnone⟩
        exact (List.infix_cons_iff.mp hi).elim ht hno

end Regex

namespace Pattern

open Regex (Captures Cursor)

/-- The anchors do not count for an escaped text. -/
theorem program_escapeText (t : List Char) (a : Anchors) :
    (ofText (String.ofList (escapeText t))).program a = some (Regex.literalProgram t) := by
  rw [program_ofText, String.toList_ofList, programFor, replace_escapeText, Regex.compile_escapeText]

/-- An escaped text is found at its first place. -/
theorem search_escapeText (t : List Char) (a : Anchors) (limit : Option Nat) (before after : List Char)
    (offset : Nat) :
    (∃ passed rest, Text.Leftmost t after passed rest ∧
      (ofText (String.ofList (escapeText t))).search a ⟨before, offset, after⟩ limit =
        some [some (offset + Text.width passed, offset + Text.width (passed ++ t))]) ∨
    ¬ t <:+: after ∧ (ofText (String.ofList (escapeText t))).search a ⟨before, offset, after⟩ limit = none := by
  rw [search, program_escapeText]
  exact Regex.searchFrom_literal t offset (limit.filter (· ≠ 0)) after before offset

/-- **A captured text is looked for as it is.** Whatever it holds and whichever anchors hold, a search with it in
the place of a reference finds the first place of the text at or after an offset, and nothing if there is none. -/
theorem search_captured (line : List Char) (captures : Captures) (a : Anchors) (limit : Option Nat)
    (before after : List Char) :
    ∃ c, Cursor.at? (before ++ after) (Text.width before) = some c ∧
      let t := captured line captures 1
      let found := (ofText (String.ofList (resolve ['\\', '1'] line captures))).search a c limit
      (∀ cs, found = some cs ↔ ∃ passed rest, Text.Leftmost t after passed rest ∧
        cs = [some (Text.width (before ++ passed), Text.width (before ++ passed ++ t))]) ∧
      (found = none ↔ ¬ t <:+: after) := by
  refine ⟨⟨before.reverse, Text.width before, after⟩, ?_, ?_⟩
  · rw [Cursor.at?, Text.takeBytes?_append, Text.dropBytes?_append]
  rw [resolve_reference]
  intro t found
  have stands : ∀ {passed rest}, Text.Leftmost t after passed rest → t <:+: after := fun {passed rest} hl =>
    ⟨passed, rest, by rw [List.append_assoc, hl.stands]⟩
  rcases search_escapeText t a limit before.reverse after (Text.width before) with
    ⟨passed, rest, hl, hsome⟩ | ⟨hno, hnone⟩
  · have hfound : found = some [some (Text.width (before ++ passed), Text.width (before ++ passed ++ t))] := by
      simpa only [Text.width_append, Nat.add_assoc] using hsome
    rw [hfound]
    refine ⟨fun cs => ⟨fun h => ⟨passed, rest, hl, (Option.some.inj h).symm⟩, ?_⟩, by simp [stands hl]⟩
    rintro ⟨passed', rest', hl', rfl⟩
    obtain ⟨rfl, rfl⟩ := hl.unique hl'
    rfl
  · have hfound : found = none := hnone
    rw [hfound]
    refine ⟨fun cs => ⟨nofun, ?_⟩, by simp [hno]⟩
    rintro ⟨passed, rest, hl, -⟩
    exact absurd (stands hl) hno

end Pattern

/-- A captured backslash and letter is no anchor. -/
example : ((Pattern.ofText (String.ofList (Pattern.resolve ['\\', '1'] ['<', '\\', 'A', '>']
    [some (0, 4), some (1, 3)]))).search ⟨false, false⟩ ⟨[], 0, ['A', '\\', 'A']⟩ none) =
      some [some (1, 3)] := by
  decide +kernel

end ScopeLexer
