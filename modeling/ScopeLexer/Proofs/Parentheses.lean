/-
# Parentheses within each other

The smallest grammar that nests has one span, from an opening to a closing parenthesis, with all of the grammar in
it again. Whatever its names are, it counts: a line leaves as many frames over that of the grammar as there are
opening parentheses without a closing one, where a closing one counts only if one is open. This ties the scan to
a counter. Within the grammar alone only the opening parenthesis is looked for; within a span both are, the
closing one first. What a step goes by is the first parenthesis that counts, wherever it stands, for each of the
two patterns is found where its character stands first, and no two of them stand at one place. As such a match
takes a byte, a step never stays where it is, and no guard against that comes into play.

What a scan keeps from step to step is that it stands between two parts of its line with so many parentheses
open, and that all tokens so far end there.

Key definitions: `Text.Nests`, `Text.unclosed`, `Text.Balanced`, `Source.parentheses`, `Stack.HasOpen`,
`ScanState.Stands`.
Key theorems: `Grammar.ofSource_parentheses`, `Scanner.next_of_nests`, `Scanner.step_of_nests`,
`Scanner.steps_nest`, `Scanner.line_nests`, `Session.parentheses_counted`.
-/
import ScopeLexer.Proofs.BestMatch
import ScopeLexer.Proofs.ByteScopes
import ScopeLexer.Proofs.KeptStacks
import ScopeLexer.Proofs.LiteralSearch

namespace ScopeLexer

open Regex (Captures Cursor)
open Text (width)
open Source (GrammarSource)

/-! ### Counting -/

namespace Text

/-- Whether a character opens a parenthesis, or closes one where so many are open. -/
def Nests (n : Nat) (c : Char) : Prop := c = '(' ∨ c = ')' ∧ 0 < n

instance (n : Nat) (c : Char) : Decidable (Nests n c) := inferInstanceAs (Decidable (_ ∨ _))

/-- How many parentheses are open after a character. A closing one counts only where one is open. -/
def nest (n : Nat) (c : Char) : Nat := if c = '(' then n + 1 else if c = ')' then n - 1 else n

/-- How many parentheses are open after a text where so many are open before it. -/
def unclosed (n : Nat) (text : List Char) : Nat := text.foldl nest n

/-- A text where each parenthesis has its counterpart. -/
inductive Balanced : List Char → Prop
  | nil : Balanced []
  | other {c : Char} {t : List Char} (hopen : c ≠ '(') (hclose : c ≠ ')') (ht : Balanced t) : Balanced (c :: t)
  | nested {t u : List Char} (ht : Balanced t) (hu : Balanced u) : Balanced ('(' :: (t ++ ')' :: u))

variable {n : Nat} {c : Char} {t : List Char}

/-- Only parentheses count. -/
theorem Nests.eq (h : Nests n c) : c = '(' ∨ c = ')' := h.imp_right And.left

theorem nest_of_not_nests (h : ¬ Nests n c) : nest n c = n := by
  obtain ⟨hopen, hclose⟩ := not_or.mp h
  rw [nest, if_neg hopen]
  split
  · rename_i hc
    have hn : ¬ 0 < n := fun hn => hclose ⟨hc, hn⟩
    omega
  · rfl

theorem unclosed_append (n : Nat) (t u : List Char) : unclosed n (t ++ u) = unclosed (unclosed n t) u :=
  List.foldl_append

/-- Characters that open and close nothing are not counted. -/
theorem unclosed_of_not_nests : ∀ {t : List Char}, (∀ c ∈ t, ¬ Nests n c) → unclosed n t = n
  | [], _ => rfl
  | c :: t, h => by
    obtain ⟨hc, ht⟩ := List.forall_mem_cons.mp h
    rw [unclosed, List.foldl_cons, nest_of_not_nests hc]
    exact unclosed_of_not_nests ht

theorem Balanced.unclosed {t : List Char} (h : Balanced t) : ∀ n, unclosed n t = n := by
  induction h with
  | nil => exact fun _ => rfl
  | @other c t hopen hclose ht ih =>
    intro n
    have hc : ¬ Nests n c := fun h => h.elim hopen fun h => hclose h.1
    rw [Text.unclosed, List.foldl_cons, nest_of_not_nests hc]
    exact ih n
  | @nested t u ht hu iht ihu =>
    intro n
    have hsplit : Text.unclosed n ('(' :: (t ++ ')' :: u)) =
        Text.unclosed (nest (Text.unclosed (n + 1) t) ')') u := by
      rw [Text.unclosed, List.foldl_cons, List.foldl_append]
      rfl
    rw [hsplit, iht]
    exact ihu n

/-- The first parenthesis that counts is counted first. -/
theorem unclosed_of_first {passed : List Char} (hpassed : ∀ d ∈ passed, ¬ Nests n d) (c : Char) (t : List Char) :
    unclosed n (passed ++ c :: t) = unclosed (nest n c) t := by
  rw [unclosed_append, unclosed_of_not_nests hpassed]
  rfl

/-- A parenthesis that counts is the first one, or it stands behind that. -/
theorem first_cases {passed rest left right : List Char} {c d : Char} (hpassed : ∀ e ∈ passed, ¬ Nests n e)
    (h : passed ++ c :: rest = left ++ d :: right) (hd : Nests (unclosed n left) d) :
    left = passed ∨ ∃ between, left = passed ++ c :: between ∧ rest = between ++ d :: right := by
  rcases List.append_eq_append_iff.mp h with ⟨mid, rfl, hrest⟩ | ⟨mid, rfl, hright⟩
  · cases mid with
    | nil => exact .inl (List.append_nil _)
    | cons e mid =>
      obtain ⟨rfl, htail⟩ := List.cons.inj hrest
      exact .inr ⟨mid, rfl, htail⟩
  · cases mid with
    | nil => exact .inl (List.append_nil _).symm
    | cons e mid =>
      obtain ⟨rfl, -⟩ := List.cons.inj hright
      have hleft : unclosed n left = n := unclosed_of_not_nests fun e he => hpassed e (List.mem_append_left _ he)
      exact absurd (hleft ▸ hd) (hpassed d (List.mem_append_right _ List.mem_cons_self))

/-- The newlines between the lines of a text are not counted. -/
theorem unclosed_documentLines (n : Nat) (text : List Char) :
    unclosed n (documentLines text).flatten = unclosed n text := by
  have skips : (fun n c => if (c != '\n') = true then nest n c else n) = nest := by
    funext n c
    by_cases hc : c = '\n'
    · rw [hc]
      rfl
    · rw [if_pos (bne_iff_ne.mpr hc)]
  rw [flatten_documentLines, unclosed, List.foldl_filter, skips, unclosed]

/-- A text up to its first parenthesis that opens or closes, if there is one. -/
theorem nests_cases (n : Nat) (t : List Char) : (∀ c ∈ t, ¬ Nests n c) ∨
    ∃ passed c rest, t = passed ++ c :: rest ∧ (∀ d ∈ passed, ¬ Nests n d) ∧ Nests n c := by
  cases h : t.find? (fun c => decide (Nests n c)) with
  | none => exact .inl fun c hc => of_decide_eq_false (by simpa using List.find?_eq_none.mp h c hc)
  | some c =>
    obtain ⟨hc, passed, rest, rfl, hpassed⟩ := List.find?_eq_some_iff_append.mp h
    exact .inr ⟨passed, c, rest, rfl, fun d hd => by simpa using hpassed d hd, of_decide_eq_true hc⟩

end Text

open Text (Nests nest unclosed)

/-! ### The grammar -/

/-- Parentheses within each other. -/
def Source.parentheses (scopeName : String) (name contentName : Option String) : GrammarSource where
  scopeName := scopeName
  patterns := [{
    name := name
    contentName := contentName
    beginPattern := some "\\("
    endPattern := some "\\)"
    patterns := [{ reference := some "$self" }] }]

namespace Grammar

/-- The rule of parentheses. -/
def parenthesis (name contentName : Option String) : EndRule where
  id := 1
  name := name.map .ofText
  repositories := []
  contentName := contentName.map .ofText
  opening := 1
  openingCaptures := []
  closing := 0
  closingRefers := false
  closingCaptures := []
  items := [.include .self]
  endLast := false
  carriesOver := true

/-- The grammar of parentheses. -/
def parentheses (scopeName : String) (name contentName : Option String) : Grammar where
  name := none
  scopeName := scopeName
  scope := Scope.ofText scopeName
  fileTypes := []
  patterns := #[.ofText "\\)", .ofText "\\("]
  rules := #[.group ⟨⟨0, none, []⟩, none, [.rule 1]⟩, .beginEnd (parenthesis name contentName)]
  repositories := #[]
  rootRepository := none

variable (scopeName : String) (name contentName : Option String)

theorem addGrammar_parentheses (own : String) :
    Assembly.addGrammar own (Source.parentheses scopeName name contentName) {} =
      .ok (none, { patterns := #["\\)", "\\("]
                   rules := (parentheses own name contentName).rules
                   repositories := #[] }) := rfl

theorem check_parentheses : (parentheses scopeName name contentName).check = .ok () := by
  have hpatterns : (parentheses scopeName name contentName).checkPatterns = .ok () := rfl
  have hreferences : (parentheses scopeName name contentName).checkReferences = .ok () := rfl
  have hcycles : (parentheses scopeName name contentName).checkCycles = .ok () := rfl
  rw [check, hpatterns, hreferences, hcycles]
  rfl

/-- The grammar is accepted. -/
theorem ofSource_parentheses (h : Text.trim scopeName.toList ≠ []) :
    ofSource (Source.parentheses scopeName name contentName) =
      .ok (parentheses (Source.parentheses scopeName name contentName).ownName name contentName) := by
  refine ofSource_eq_ok.mpr ⟨Assembly.ofSource_eq_ok.mpr ⟨?_, ?_⟩, check_parentheses _ name contentName⟩
  · exact fun hown => h (String.toList_ofList.symm.trans hown)
  · exact ⟨none, _, addGrammar_parentheses scopeName name contentName _, by
      simp [Assembly.grammar, parentheses, Source.parentheses]⟩

/-- A grammar of parentheses, whatever the names. -/
def OfParentheses (g : Grammar) : Prop :=
  ∃ scopeName name contentName, g = parentheses scopeName name contentName

theorem OfParentheses.withoutCaptures {g : Grammar} (hg : g.OfParentheses) : g.WithoutCaptures := by
  obtain ⟨scopeName, name, contentName, rfl⟩ := hg
  intro r hr
  have hcases : r = .group ⟨⟨0, none, []⟩, none, [.rule 1]⟩ ∨ r = .beginEnd (parenthesis name contentName) := by
    simpa [parentheses] using hr
  rcases hcases with rfl | rfl
  · exact nofun
  · simp [Rule.captureLists, parenthesis]

end Grammar

/-! ### Stacks -/

/-- A stack where so many parentheses are open: that many frames of their rule over the frame of the grammar. -/
def Stack.HasOpen (g : Grammar) (s : Stack) (n : Nat) : Prop :=
  ∃ opened, s.frames = opened ++ (Stack.root g).frames ∧ opened.length = n ∧
    ∀ f ∈ opened, f.rule = 1 ∧ f.endPattern = none

namespace Stack.HasOpen

variable {g : Grammar} {s : Stack} {n : Nat}

theorem root (g : Grammar) : (Stack.root g).HasOpen g 0 := ⟨[], rfl, rfl, nofun⟩

theorem depth (h : s.HasOpen g n) : s.depth = n := by
  obtain ⟨opened, hframes, hlength, -⟩ := h
  have hdepth : s.frames.length = s.depth + 1 := rfl
  have htotal : s.frames.length = n + 1 := by
    rw [hframes, List.length_append, hlength]
    rfl
  omega

theorem eq_root (h : s.HasOpen g 0) : s = Stack.root g := by
  obtain ⟨opened, hframes, hlength, -⟩ := h
  rw [List.length_eq_zero_iff.mp hlength] at hframes
  obtain ⟨htop, hbelow⟩ := List.cons.inj hframes
  cases s
  exact congrArg₂ Stack.mk htop hbelow

theorem push (h : s.HasOpen g n) {f : Frame} (hrule : f.rule = 1) (hend : f.endPattern = none) :
    (s.push f).HasOpen g (n + 1) := by
  obtain ⟨opened, hframes, hlength, hall⟩ := h
  exact ⟨f :: opened, congrArg (f :: ·) hframes, congrArg (· + 1) hlength,
    List.forall_mem_cons.mpr ⟨⟨hrule, hend⟩, hall⟩⟩

/-- The innermost of the open parentheses, and what is around it. -/
theorem inner (h : s.HasOpen g (n + 1)) :
    s.top.rule = 1 ∧ s.top.endPattern = none ∧ ∃ outer, s.pop? = some outer ∧ outer.HasOpen g n := by
  obtain ⟨_ | ⟨f, opened⟩, hframes, hlength, hall⟩ := h
  · contradiction
  · obtain ⟨htop, hbelow⟩ := List.cons.inj hframes
    obtain ⟨hf, hrest⟩ := List.forall_mem_cons.mp hall
    rw [← htop] at hf
    refine ⟨hf.1, hf.2, ?_⟩
    cases opened with
    | nil =>
      refine ⟨Stack.root g, by simp [pop?, hbelow, Stack.root, frames], ?_⟩
      obtain rfl := Nat.succ.inj hlength
      exact root g
    | cons f' opened =>
      refine ⟨⟨f', opened ++ (Stack.root g).frames⟩, by simp [pop?, hbelow], f' :: opened, rfl, ?_, hrest⟩
      exact Nat.succ.inj hlength

theorem reset (h : s.HasOpen g n) : s.reset.HasOpen g n := by
  obtain ⟨opened, hframes, hlength, hall⟩ := h
  refine ⟨opened.map Frame.reset, ?_, by rw [List.length_map, hlength], ?_⟩
  · have hreset : s.reset.frames = s.frames.map Frame.reset := rfl
    rw [hreset, hframes, List.map_append]
    rfl
  · exact List.forall_mem_map.mpr hall

/-- Each frame is that of a parenthesis or that of the grammar. -/
theorem rule_of_mem (h : s.HasOpen g n) : ∀ f ∈ s.frames, f.rule = 1 ∨ f.rule = 0 := by
  obtain ⟨opened, hframes, -, hall⟩ := h
  intro f hf
  rw [hframes] at hf
  rcases List.mem_append.mp hf with hf | hf
  · exact .inl (hall f hf).1
  · obtain rfl := List.mem_singleton.mp hf
    exact .inr rfl

end Stack.HasOpen

/-! ### What comes next -/

/-- The candidate that a parenthesis is a match of, with its pattern. -/
def Candidate.parenthesis (c : Char) : Candidate × Pattern :=
  (if c = '(' then .rule 1 else .stop, .ofText (String.ofList (Pattern.escapeText [c])))

/-- A parenthesis behind some text as a match. -/
def Found.parenthesis (before : List Char) (c : Char) : Found :=
  ⟨(Candidate.parenthesis c).1, width before, width before + 1, [some (width before, width before + 1)]⟩

/-- The parentheses that count where so many are open, in the order in which they are tried. -/
def Text.counting (n : Nat) : List Char := if 0 < n then [')', '('] else ['(']

theorem Text.mem_counting {n : Nat} {c : Char} : c ∈ counting n ↔ Nests n c := by
  unfold counting Nests
  split
  · simp [*, or_comm]
  · simp [*]

/-- Of two places in a text the first one that holds some character is not behind the other. -/
theorem Text.prefix_of_first {passed rest passed' rest' : List Char} {c d : Char}
    (h : passed ++ c :: rest = passed' ++ d :: rest') (hd : d ∉ passed) : passed <+: passed' := by
  rcases List.append_eq_append_iff.mp h with ⟨mid, hmid, -⟩ | ⟨mid, hmid, hrest⟩
  · exact ⟨mid, hmid.symm⟩
  · cases mid with
    | nil => exact ⟨[], by rw [hmid, List.append_nil, List.append_nil]⟩
    | cons e mid =>
      obtain ⟨rfl, -⟩ := List.cons.inj hrest
      exact absurd (hmid ▸ List.mem_append_right _ List.mem_cons_self) hd

theorem Text.leftmost_singleton_iff {c : Char} {t passed rest : List Char} :
    Leftmost [c] t passed rest ↔ t = passed ++ c :: rest ∧ c ∉ passed := by
  constructor
  · refine fun h => ⟨h.stands, fun hc => ?_⟩
    obtain ⟨before, after, rfl⟩ := List.append_of_mem hc
    have hfirst := h.first before (after ++ c :: rest) (by rw [h.stands]; simp)
    rw [List.length_append, List.length_cons] at hfirst
    omega
  · rintro ⟨rfl, hc⟩
    exact ⟨rfl, fun _ _ h => (prefix_of_first h hc).length_le⟩

namespace Scanner

variable {o : Options} {a : Anchors} {before after : List Char} {c : Char}

/-- A parenthesis is found where it stands first. -/
theorem isOf_parenthesis_iff (hc : c = '(' ∨ c = ')') {y : Found} :
    y.IsOf (fun p => o.search p a ⟨before.reverse, width before, after⟩) (Candidate.parenthesis c) ↔
      ∃ passed rest, after = passed ++ c :: rest ∧ c ∉ passed ∧ y = .parenthesis (before ++ passed) c := by
  have hwidth : width [c] = 1 := by rcases hc with rfl | rfl <;> rfl
  rw [Found.isOf_iff]
  rcases Pattern.search_escapeText [c] a o.retryLimit before.reverse after (width before) with
    ⟨passed, rest, hl, hfound⟩ | ⟨hno, hnone⟩
  · obtain ⟨hstands, hfirst⟩ := Text.leftmost_singleton_iff.mp hl
    have hsearch : o.search (Candidate.parenthesis c).2 a ⟨before.reverse, width before, after⟩ =
        some [some (width (before ++ passed), width (before ++ passed) + 1)] := by
      rw [← hwidth, ← Text.width_append, List.append_assoc, Text.width_append, Text.width_append before]
      exact hfound
    rw [hsearch]
    refine ⟨fun h => ⟨passed, rest, hstands, hfirst, (Option.some.inj h).symm⟩, ?_⟩
    rintro ⟨passed', rest', hstands', hfirst', rfl⟩
    obtain ⟨rfl, -⟩ := hl.unique (Text.leftmost_singleton_iff.mpr ⟨hstands', hfirst'⟩)
    rfl
  · have hsearch : o.search (Candidate.parenthesis c).2 a ⟨before.reverse, width before, after⟩ = none := hnone
    rw [hsearch]
    refine ⟨nofun, ?_⟩
    rintro ⟨passed, rest, rfl, -, -⟩
    exact absurd ⟨passed, rest, by rw [List.append_assoc]; rfl⟩ hno

section

variable {g : Grammar} {n : Nat} {s : ScanState} {line : List Char} (hg : g.OfParentheses)
include hg

/-- What a scan goes by within parentheses. -/
theorem next_parentheses (hs : s.stack.HasOpen g n)
    (hline : line = before ++ after) (hpos : s.pos = width before) :
    (g.scanner o).next line s =
      best (fun p => o.search p (Anchors.holding s.firstLine s.anchor s.pos)
          ⟨before.reverse, width before, after⟩)
        (width before) none ((Text.counting n).map Candidate.parenthesis) := by
  have hcursor : Cursor.at? line s.pos = some ⟨before.reverse, width before, after⟩ := by
    rw [hline, hpos, Cursor.at?, Text.takeBytes?_append, Text.dropBytes?_append]
  rw [next, hcursor]
  obtain ⟨scopeName, name, contentName, rfl⟩ := hg
  cases n with
  | zero =>
    rw [hs.eq_root]
    rfl
  | succ n =>
    obtain ⟨hrule, hend, -⟩ := hs.inner
    generalize s.stack.top = f at hrule hend
    cases f
    cases hrule
    cases hend
    rfl

/-- **The first parenthesis that counts is what a scan goes by.** -/
theorem next_of_nests {passed rest : List Char}
    (hs : s.stack.HasOpen g n)
    (hline : line = before ++ (passed ++ c :: rest)) (hpos : s.pos = width before)
    (hpassed : ∀ d ∈ passed, ¬ Nests n d) (hc : Nests n c) :
    (g.scanner o).next line s =
      some (.parenthesis (before ++ passed) c) := by
  rw [next_parentheses hg hs hline hpos]
  let a := Anchors.holding s.firstLine s.anchor s.pos
  let search := fun p => o.search p a ⟨before.reverse, width before, passed ++ c :: rest⟩
  have hmem : Candidate.parenthesis c ∈ (Text.counting n).map Candidate.parenthesis :=
    List.mem_map_of_mem (Text.mem_counting.mpr hc)
  have hx : (Found.parenthesis (before ++ passed) c).IsOf search (Candidate.parenthesis c) :=
    (isOf_parenthesis_iff hc.eq).mpr ⟨passed, rest, rfl, fun h => hpassed c h hc, rfl⟩
  cases hbest : best search (width before) none ((Text.counting n).map Candidate.parenthesis) with
  | none => exact absurd hx (best_eq_none_iff.mp hbest _ hmem _)
  | some y =>
    have hy : y.IsFirst search ((Text.counting n).map Candidate.parenthesis) := by
      refine best_isFirst (fun e he z hz => ?_) hbest
      obtain ⟨d, hd, rfl⟩ := List.mem_map.mp he
      obtain ⟨passed', rest', -, -, rfl⟩ := (isOf_parenthesis_iff (Text.mem_counting.mp hd).eq).mp hz
      exact Nat.le_trans (Nat.le_add_right _ _) (Nat.le_of_eq (Text.width_append before passed').symm)
    obtain ⟨e, he, hye⟩ := hy.exists_isOf
    obtain ⟨d, hd, rfl⟩ := List.mem_map.mp he
    have hd := Text.mem_counting.mp hd
    obtain ⟨passed', rest', hstands, hfirst, rfl⟩ := (isOf_parenthesis_iff hd.eq).mp hye
    -- What comes first does not stand before the first parenthesis that counts, nor behind it.
    have hle : width (before ++ passed') ≤ width (before ++ passed) := hy.le hmem hx
    obtain ⟨mid, rfl⟩ := Text.prefix_of_first hstands fun h => hpassed d h hd
    cases mid with
    | nil =>
      rw [List.append_nil] at hstands ⊢
      rw [(List.cons.inj (List.append_cancel_left hstands)).1]
    | cons e mid =>
      rw [← List.append_assoc, Text.width_append _ (e :: mid), Text.width] at hle
      have := Text.utf8Size_ne_zero e
      omega

/-- Where no parenthesis counts a scan goes by nothing. -/
theorem next_of_not_nests (hs : s.stack.HasOpen g n)
    (hline : line = before ++ after) (hpos : s.pos = width before) (hafter : ∀ c ∈ after, ¬ Nests n c) :
    (g.scanner o).next line s = none := by
  rw [next_parentheses hg hs hline hpos]
  refine best_eq_none_iff.mpr fun e he y hy => ?_
  obtain ⟨c, hc, rfl⟩ := List.mem_map.mp he
  have hc := Text.mem_counting.mp hc
  obtain ⟨passed, rest, rfl, -, -⟩ := (isOf_parenthesis_iff hc.eq).mp hy
  exact hafter c (List.mem_append_right _ List.mem_cons_self) hc

end

end Scanner

/-! ### Steps -/

namespace Tokens

theorem done_subset_produce (ts : Tokens) (stop : Nat) (scopes : List Scope) :
    ts.done ⊆ (ts.produce stop scopes).done := by
  unfold produce
  split
  · exact List.Subset.refl _
  · exact List.subset_cons_self _ _

/-- What lies before a byte is produced, and then the byte as a token of its own. -/
theorem produce_one {ts : Tokens} {start : Nat} (h : ts.last ≤ start) (outer inner : List Scope) :
    let us := (ts.produce start outer).produce (start + 1) inner
    us.last = start + 1 ∧ ts.done ⊆ us.done ∧ ⟨start, start + 1, inner⟩ ∈ us.done := by
  intro us
  have hlast : (ts.produce start outer).last = start := by
    rw [last_produce, Nat.max_eq_right h]
  have hus : us = ⟨⟨start, start + 1, inner⟩ :: (ts.produce start outer).done, start + 1⟩ := by
    show (ts.produce start outer).produce (start + 1) inner = _
    rw [produce, hlast, if_neg (Nat.not_succ_le_self start)]
  rw [hus]
  exact ⟨rfl, fun t ht => List.mem_cons_of_mem _ (done_subset_produce ts start outer ht), List.mem_cons_self⟩

end Tokens

/-- A scan stands between two parts of its line, with so many parentheses open. -/
structure ScanState.Stands (g : Grammar) (line before after : List Char) (n : Nat) (s : ScanState) : Prop where
  line : line = before ++ after
  pos : s.pos = width before
  last : s.tokens.last = width before
  stack : s.stack.HasOpen g n

/-- A parenthesis behind some text is a token of its own. -/
def Text.IsToken (before : List Char) (ts : List Token) : Prop :=
  ∃ scopes, ⟨width before, width before + 1, scopes⟩ ∈ ts

theorem Text.IsToken.mono {before : List Char} {ts us : List Token} (h : IsToken before ts) (hts : ts ⊆ us) :
    IsToken before us :=
  h.imp fun _ ht => hts ht

namespace Scanner

section

variable {m : Type → Type} {sc : Scanner m} {line : List Char} {s : ScanState} {x : Found}

/-- A beginning that takes something opens its span. -/
theorem settleBegin_of_lt (h : s.pos < x.stop) (rule : Rule) (span : SpanRule) (frame : Frame) (ts : Tokens) :
    sc.settleBegin line s x rule span frame ts =
      .goOn ⟨ts, s.stack.push (frame.opened sc.grammar line x.captures rule span), x.stop, some x.stop,
        false, 0⟩ := by
  rw [settleBegin, if_neg fun hx => Nat.not_lt.mpr hx.1 h]
  exact if_pos h

/-- An end that takes something closes its span. -/
theorem settleEnd_of_lt (h : s.pos < x.stop) {outer : Stack} (houter : s.stack.pop? = some outer) (ts : Tokens) :
    sc.settleEnd line s x ts = .goOn ⟨ts, outer, x.stop, s.stack.top.anchor, false, 0⟩ := by
  have hbare : (s.stack.withContent s.stack.top.nameScopes).pop? = some outer := houter
  simp only [settleEnd, hbare]
  rw [if_neg fun hx => Nat.not_lt.mpr hx.1 h]
  exact if_pos h

end

section

variable {g : Grammar} {o : Options} {n : Nat} {s : ScanState} {line before after passed rest : List Char}
  {c : Char} {again : Option (Again Id)} (hg : g.OfParentheses)
include hg

/-- A parenthesis that counts is opened or closed. -/
theorem settle_nests (o : Options) (line : List Char) (hs : s.stack.HasOpen g n)
    (hlt : s.pos < width before + 1) (hc : Nests n c) (ts : Tokens) :
    ∃ t, (g.scanner o).settle line s (.parenthesis before c) ts = .goOn t ∧ t.tokens = ts ∧
      t.pos = width before + 1 ∧ t.stack.HasOpen g (nest n c) := by
  obtain ⟨scopeName, name, contentName, rfl⟩ := hg
  rcases hc with rfl | ⟨rfl, hn⟩
  · exact ⟨_, settleBegin_of_lt (x := .parenthesis before '(') hlt _ _ _ ts, rfl, rfl, hs.push rfl rfl⟩
  · obtain ⟨n, rfl⟩ := Nat.exists_eq_succ_of_ne_zero (Nat.pos_iff_ne_zero.mp hn)
    obtain ⟨-, -, outer, hpop, houter⟩ := hs.inner
    exact ⟨_, settleEnd_of_lt (x := .parenthesis before ')') hlt hpop ts, rfl, rfl, houter⟩

/-- Where no parenthesis counts a scan ends. -/
theorem step_of_not_nests (ho : o.timeLimit = none) (hs : s.Stands g line before after n)
    (hafter : ∀ c ∈ after, ¬ Nests n c) :
    (g.scanner o).step again line (width line) s =
      .stop (s.tokens.produce (width line) s.stack.top.contentScopes) s.stack := by
  refine step_of_not_found ho ?_
  rw [found?_direct ho]
  exact next_of_not_nests hg hs.stack hs.line hs.pos hafter

/-- **A step takes the first parenthesis that counts**, and makes a token of it. -/
theorem step_of_nests (again : Option (Again Id)) (ho : o.timeLimit = none)
    (hs : s.Stands g line before (passed ++ c :: rest) n)
    (hpassed : ∀ d ∈ passed, ¬ Nests n d) (hc : Nests n c) :
    ∃ t, (g.scanner o).step again line (width line) s = .goOn t ∧
      t.Stands g line (before ++ passed ++ [c]) rest (nest n c) ∧
      s.tokens.done ⊆ t.tokens.done ∧ Text.IsToken (before ++ passed) t.tokens.done := by
  let sc := g.scanner o
  let x := Found.parenthesis (before ++ passed) c
  have hnext : sc.next line s = some x := next_of_nests hg hs.stack hs.line hs.pos hpassed hc
  have hlt : s.pos < width (before ++ passed) + 1 := by
    rw [hs.pos, Text.width_append]
    omega
  have hmatched : sc.matched again line s x = s.tokens.produceAll (sc.stretches line (s, x)) :=
    matched_bare hg.withoutCaptures (next_direct hnext).2.2
  obtain ⟨t, ht, htokens, hpos, hstack⟩ := settle_nests hg o line hs.stack hlt hc (sc.matched again line s x)
  have hstep : sc.step again line (width line) s = .goOn t := by
    rw [step_direct ho, found?_direct ho, hnext]
    exact ht
  have hwidth : width (before ++ passed ++ [c]) = width (before ++ passed) + 1 := by
    rcases hc.eq with rfl | rfl <;> exact Text.width_append _ _
  have hlast : s.tokens.last ≤ width (before ++ passed) := by
    rw [hs.last, Text.width_append]
    exact Nat.le_add_right _ _
  obtain ⟨hend, hkept, htoken⟩ := Tokens.produce_one hlast s.stack.top.contentScopes
    (sc.around line s x).top.contentScopes
  have htokens : t.tokens = _ := htokens.trans hmatched
  refine ⟨t, hstep, ⟨?_, ?_, ?_, hstack⟩, ?_, ?_⟩
  · rw [hs.line]
    simp
  · rw [hpos, hwidth]
  · rw [htokens, hwidth]
    exact hend
  · rw [htokens]
    exact hkept
  · rw [htokens]
    exact ⟨_, htoken⟩

/-- **A scan counts parentheses**: it ends with as many open as there are unclosed, and each one that counts is a
token. -/
theorem steps_nest (again : Option (Again Id)) (ho : o.timeLimit = none) :
    ∀ (fuel : Nat) {before after : List Char} {n : Nat} {s : ScanState},
      s.Stands g line before after n → after.length < fuel →
      let r : Tokens × Stack := (g.scanner o).steps again line (width line) fuel s
      r.2.HasOpen g (unclosed n after) ∧ s.tokens.done ⊆ r.1.done ∧
        ∀ left c right, after = left ++ c :: right → Nests (unclosed n left) c →
          Text.IsToken (before ++ left) r.1.done
  | fuel + 1, before, after, n, s, hs, hfuel => by
    intro r
    -- Each step takes at least one character of what is left, so that there is fuel for all of them.
    rcases Text.nests_cases n after with hafter | ⟨passed, c, rest, rfl, hpassed, hc⟩
    · have hr : r = _ := steps_direct_of_stop (step_of_not_nests hg ho hs hafter)
      rw [hr, Text.unclosed_of_not_nests hafter]
      refine ⟨hs.stack, Tokens.done_subset_produce _ _ _, fun left c right h hc => ?_⟩
      have hleft : unclosed n left = n := Text.unclosed_of_not_nests fun d hd =>
        hafter d (h ▸ List.mem_append_left _ hd)
      exact absurd (hleft ▸ hc) (hafter c (h ▸ List.mem_append_right _ List.mem_cons_self))
    · obtain ⟨t, hstep, ht, hkept, htoken⟩ := step_of_nests hg again ho hs hpassed hc
      have hr : r = (g.scanner o).steps again line (width line) fuel t := steps_direct_of_goOn hstep
      have hshort : rest.length < fuel := by
        rw [List.length_append, List.length_cons] at hfuel
        omega
      obtain ⟨hopen, hsubset, htokens⟩ := steps_nest again ho fuel ht hshort
      rw [hr, Text.unclosed_of_first hpassed]
      refine ⟨hopen, fun u hu => hsubset (hkept hu), fun left d right h hd => ?_⟩
      -- It is the one that has been taken, or one that is taken later.
      rcases Text.first_cases hpassed h hd with rfl | ⟨left, rfl, hrest⟩
      · exact htoken.mono hsubset
      · rw [Text.unclosed_of_first hpassed] at hd
        have htoken := htokens left d right hrest hd
        rwa [show before ++ passed ++ [c] ++ left = before ++ (passed ++ c :: left) by simp] at htoken

end

end Scanner

/-! ### Lines -/

theorem withoutNewline_cases (text : List Char) :
    withoutNewline text = text ∨ withoutNewline text ++ ['\n'] = text := by
  induction text using withoutNewline.induct with
  | case1 => exact .inl rfl
  | case2 => exact .inr rfl
  | case3 c cs h ih =>
    rw [withoutNewline]
    · exact ih.imp (congrArg (c :: ·)) (congrArg (c :: ·))
    · exact h

/-- A line with a newline at its end is longer than what stands before another character of the line. -/
theorem exists_behind {text before after : List Char} {c : Char} (h : text = before ++ c :: after)
    (hc : c ≠ '\n') : ∃ behind, behind ≠ [] ∧ withoutNewline text ++ ['\n'] = before ++ c :: behind := by
  rcases withoutNewline_cases text with htext | htext
  · exact ⟨after ++ ['\n'], by simp, by rw [htext, h]; simp⟩
  · refine ⟨after, ?_, htext.trans h⟩
    rintro rfl
    exact hc (List.singleton_inj.mp (List.append_inj' (h.symm.trans htext.symm) rfl).2)

theorem Text.unclosed_withoutNewline (n : Nat) (text : List Char) :
    unclosed n (withoutNewline text ++ ['\n']) = unclosed n text := by
  rcases withoutNewline_cases text with htext | htext
  · rw [htext, unclosed_append]
    rfl
  · rw [htext]

theorem Text.length_le_width : ∀ t : List Char, t.length ≤ width t
  | [] => Nat.le_refl 0
  | c :: t => by
    have := length_le_width t
    have := utf8Size_ne_zero c
    rw [List.length_cons, width]
    omega

/-- A token before the newline is kept as it is. -/
theorem Tokens.mem_finish_of_lt {ts : Tokens} {t : Token} {length : Nat} (h : t ∈ ts.done)
    (hlt : t.start < t.stop ∧ t.stop < length) : t ∈ ts.finish length := by
  have behind : ∀ {u : Token} {us : List Token}, t ∈ u :: us → u.start = length - 1 ∨ u.stop = length → t ∈ us := by
    intro u us hmem hu
    refine (List.mem_cons.mp hmem).resolve_left ?_
    rintro rfl
    omega
  unfold finish
  refine List.mem_reverse.mpr ?_
  cases hdone : ts.done with
  | nil => exact absurd (hdone ▸ h) List.not_mem_nil
  | cons u us =>
    rw [hdone] at h
    by_cases hu : u.start = length - 1
    · have hus := behind h (.inl hu)
      simp only [if_pos hu]
      cases us with
      | nil => exact hus
      | cons v vs =>
        by_cases hv : v.stop = length
        · simp only [if_pos hv]
          exact List.mem_cons_of_mem _ (behind hus (.inr hv))
        · simp only [if_neg hv]
          exact hus
    · simp only [if_neg hu]
      by_cases hstop : u.stop = length
      · simp only [if_pos hstop]
        exact List.mem_cons_of_mem _ (behind h (.inr hstop))
      · simp only [if_neg hstop]
        exact h

namespace Scanner

variable {g : Grammar} {o : Options} {n : Nat}

/-- A line without spans that have to continue is what its steps come to. -/
theorem line_of_noWhile {text : List Char} {prior : Option Stack}
    (h : ∀ f ∈ (prior.getD (.root g)).frames, ∀ r, g.rule f.rule ≠ .beginWhile r) :
    let sc := g.scanner o
    let stack := prior.getD (.root g)
    let line := withoutNewline text ++ ['\n']
    let r : Tokens × Stack := sc.steps (sc.againAt maxLevels) line (width line) (sc.stepBound (width line) 0)
      ⟨⟨[], 0⟩, stack, 0, if stack.top.reachedEnd then some 0 else none, prior.isNone, 0⟩
    sc.line text prior = (⟨r.1.finish (width line), (r.2.closeLine g).reset⟩ : LineTokens) := by
  intro sc stack line r
  have hresume : sc.resume (sc.againAt maxLevels) (prior.getD (.root sc.grammar))
      (withoutNewline text ++ ['\n']) 0 prior.isNone = _ := resume_of_noWhile h 0 prior.isNone
  unfold Scanner.line
  simp only [scan_eq, scanWith, enter]
  rw [hresume]
  rfl

/-- Neither parentheses nor the grammar have to continue, and both go on at the end of a line. -/
theorem rule_of_hasOpen (hg : g.OfParentheses) {s : Stack} (h : s.HasOpen g n) :
    ∀ f ∈ s.frames, (∀ r, g.rule f.rule ≠ .beginWhile r) ∧
      f.endsWithLine g = false := by
  obtain ⟨scopeName, name, contentName, rfl⟩ := hg
  intro f hf
  unfold Frame.endsWithLine
  rcases h.rule_of_mem f hf with hrule | hrule <;> rw [hrule] <;> exact ⟨nofun, rfl⟩

/-- **A line counts parentheses**, and each one that counts is a token. -/
theorem line_nests (hg : g.OfParentheses) (ho : o.timeLimit = none) (hsome : 0 < o.maxStalled)
    (text : List Char) (prior : Option Stack) (hprior : (prior.getD (.root g)).HasOpen g n) :
    let r : LineTokens := (g.scanner o).line text prior
    r.stack.HasOpen g (unclosed n text) ∧
      ∀ before c after, text = before ++ c :: after → Nests (unclosed n before) c →
        Text.IsToken before r.tokens := by
  let sc := g.scanner o
  let stack := prior.getD (.root g)
  let line := withoutNewline text ++ ['\n']
  let start : ScanState := ⟨⟨[], 0⟩, stack, 0, if stack.top.reachedEnd then some 0 else none, prior.isNone, 0⟩
  let fuel := sc.stepBound (width line) 0
  let r : Tokens × Stack := sc.steps (sc.againAt maxLevels) line (width line) fuel start
  have hline : sc.line text prior = (⟨r.1.finish (width line), (r.2.closeLine g).reset⟩ : LineTokens) :=
    line_of_noWhile fun f hf => (rule_of_hasOpen hg hprior f hf).1
  have hfuel : line.length < fuel :=
    calc
      line.length < width line + 1 := Nat.lt_succ_of_le (Text.length_le_width line)
      _ ≤ (width line + 1) * o.maxStalled := Nat.le_mul_of_pos_right _ hsome
  have hstart : start.Stands g line [] line n := ⟨rfl, rfl, rfl, hprior⟩
  obtain ⟨hopen, -, htokens⟩ : r.2.HasOpen g (unclosed n line) ∧ _ :=
    steps_nest hg (sc.againAt maxLevels) ho fuel hstart hfuel
  rw [show unclosed n line = unclosed n text from Text.unclosed_withoutNewline n text] at hopen
  rw [show (g.scanner o).line text prior = _ from hline]
  refine ⟨?_, fun before c after h hc => ?_⟩
  · show ((r.2.closeLine g).reset).HasOpen g _
    rw [Stack.closeLine_of_goesOn fun f hf => (rule_of_hasOpen hg hopen f hf).2]
    exact hopen.reset
  · have hnewline : c ≠ '\n' := by rcases hc.eq with rfl | rfl <;> decide
    obtain ⟨behind, hne, hbehind⟩ := exists_behind h hnewline
    obtain ⟨scopes, ht⟩ := htokens before c behind hbehind hc
    refine ⟨scopes, Tokens.mem_finish_of_lt ht ⟨Nat.lt_succ_self _, ?_⟩⟩
    have hlong : 0 < width behind := Nat.lt_of_lt_of_le (List.length_pos_iff.mpr hne) (Text.length_le_width behind)
    have hsize := Text.utf8Size_ne_zero c
    show width ([] ++ before) + 1 < width (withoutNewline text ++ ['\n'])
    rw [hbehind, List.nil_append, Text.width_append, Text.width]
    omega

/-- Lines one after the other count on from what is open before them. -/
theorem left_nests (hg : g.OfParentheses) (ho : o.timeLimit = none) (hsome : 0 < o.maxStalled) :
    ∀ (lines : List (List Char)) {prior : Option Stack} {n : Nat}, (prior.getD (.root g)).HasOpen g n →
      ((lines.foldl (fun prior line => some (Id.run ((g.scanner o).line line prior)).stack) prior).getD
        (.root g)).HasOpen g (unclosed n lines.flatten)
  | [], _, _, h => h
  | line :: lines, prior, n, h => by
    rw [List.flatten_cons, Text.unclosed_append]
    have hline : ((some (Id.run ((g.scanner o).line line prior)).stack).getD (.root g)).HasOpen g
        (unclosed n line) := (line_nests hg ho hsome line prior h).1
    exact left_nests hg ho hsome lines hline

end Scanner

namespace Session

/-- The lines of a document are tokenized like single lines, each after the stack that those before it leave. -/
theorem getElem?_document {s : Session} (hs : s.memory.Sound s.grammar) (text : List Char) (k : Nat) :
    (s.document text).1[k]? = (documentLines text)[k]?.map fun line =>
      (s.line line (s.left ((documentLines text).take k))).1.tokens := by
  rw [document_direct hs]
  refine (Scanner.getElem?_lines s.direct _ none k).trans ?_
  congr 1
  funext line
  rw [(line_direct hs line _).1, left_direct hs]

/-- The stack that some lines leave is as deep as there are unclosed parentheses. -/
theorem left_hasOpen {g : Grammar} (hg : g.OfParentheses) {o : Options} (ho : o.timeLimit = none)
    (hsome : 0 < o.maxStalled) (calls : List (List Char × Option Stack)) (lines : List (List Char)) :
    ((((Session.mk g o {}).after calls).left lines).getD (.root g)).HasOpen g (unclosed 0 lines.flatten) := by
  rw [left_direct (sound_used g o calls), direct_after]
  have hroot : (Option.getD none (Stack.root g)).HasOpen g 0 := .root g
  exact Scanner.left_nests hg ho hsome lines hroot

/-- **Parentheses are counted.** The grammar of parentheses is accepted under any name that is not blank. Without a
limit of time and whatever lines there have been before, the depth after some lines is the number of parentheses
that are then open, where a closing one counts only if one is open. So lines that together are balanced lead back
to the stack of the grammar, however the text is cut, and so does a document. And each parenthesis that opens or
closes one is a token of its own, in a line after others and in the lines of a document. -/
theorem parentheses_counted (scopeName : String) (hname : Text.trim scopeName.toList ≠ [])
    (name contentName : Option String) :
    ∃ g, Grammar.ofSource (Source.parentheses scopeName name contentName) = .ok g ∧
      ∀ o : Options, o.timeLimit = none → 0 < o.maxStalled → ∀ calls,
        let s := (Session.mk g o {}).after calls
        let after := fun lines => (s.left lines).getD (.root g)
        (∀ lines, (after lines).depth = unclosed 0 lines.flatten) ∧
        (∀ lines, Text.Balanced lines.flatten → after lines = .root g) ∧
        (∀ text, Text.Balanced text → after (documentLines text) = .root g) ∧
        (∀ lines before c rest, Nests (unclosed 0 (lines.flatten ++ before)) c →
          Text.IsToken before (s.line (before ++ c :: rest) (s.left lines)).1.tokens) ∧
        ∀ text k before c rest, (documentLines text)[k]? = some (before ++ c :: rest) →
          Nests (unclosed 0 (((documentLines text).take k).flatten ++ before)) c →
            ∃ ts, (s.document text).1[k]? = some ts ∧ Text.IsToken before ts := by
  have hok := Grammar.ofSource_parentheses scopeName name contentName hname
  generalize hnamed : Grammar.parentheses (Source.parentheses scopeName name contentName).ownName name
    contentName = g at hok
  have hg : g.OfParentheses := ⟨_, _, _, hnamed.symm⟩
  refine ⟨g, hok, fun o ho hsome calls => ?_⟩
  intro s after
  have hopen : ∀ lines, (after lines).HasOpen g (unclosed 0 lines.flatten) := left_hasOpen hg ho hsome calls
  have htokens : ∀ lines before c rest, Nests (unclosed 0 (lines.flatten ++ before)) c →
      Text.IsToken before (s.line (before ++ c :: rest) (s.left lines)).1.tokens := by
    intro lines before c rest hc
    rw [Text.unclosed_append] at hc
    rw [line_used]
    exact (Scanner.line_nests hg ho hsome _ _ (hopen lines)).2 before c rest rfl hc
  refine ⟨fun lines => (hopen lines).depth, fun lines h => ?_, fun text h => ?_, htokens, ?_⟩
  · have hroot := hopen lines
    rw [h.unclosed] at hroot
    exact hroot.eq_root
  · have hroot := hopen (documentLines text)
    rw [Text.unclosed_documentLines, h.unclosed] at hroot
    exact hroot.eq_root
  · intro text k before c rest hk hc
    refine ⟨_, ?_, htokens ((documentLines text).take k) before c rest hc⟩
    rw [getElem?_document (sound_used g o calls), hk]
    rfl

end Session

/-- Two parentheses that are opened in a line and closed in the next one. -/
theorem parentheses_counted_twoLines :
    ∃ g, Grammar.ofSource (Source.parentheses "source.test" (some "meta.group") none) = .ok g ∧
      let s := Session.mk g {} {}
      ((s.left [['a', '(', '(']]).getD (.root g)).depth = 2 ∧
      (s.left [['a', '(', '('], [')', 'b', ')']]).getD (.root g) = .root g ∧
      Text.IsToken [')', 'b'] (s.line [')', 'b', ')'] (s.left [['a', '(', '(']])).1.tokens := by
  obtain ⟨g, hg, h⟩ := Session.parentheses_counted "source.test" (by decide) (some "meta.group") none
  have hafter : (Session.mk g {} {}).after [] = Session.mk g {} {} := rfl
  have used := h {} rfl (by decide) []
  rw [hafter] at used
  obtain ⟨hdepth, hbalanced, -, htokens, -⟩ := used
  have hinner : Text.Balanced ['(', ')', 'b'] := .nested .nil (.other (by decide) (by decide) .nil)
  have hall : Text.Balanced ['a', '(', '(', ')', 'b', ')'] :=
    .other (by decide) (by decide) (.nested hinner .nil)
  have htoken := htokens [['a', '(', '(']] [')', 'b'] ')' [] (by decide)
  have hline : [')', 'b'] ++ [')'] = [')', 'b', ')'] := rfl
  rw [hline] at htoken
  refine ⟨g, hg, (hdepth [['a', '(', '(']]).trans (by decide), ?_, htoken⟩
  exact hbalanced [['a', '(', '('], [')', 'b', ')']] hall

end ScopeLexer
