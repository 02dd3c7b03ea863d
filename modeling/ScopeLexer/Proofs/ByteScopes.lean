/-
# The scopes of every byte

Where no rule has rules for groups, the scopes of a byte can be told from the matches alone. A match of a rule
has the scopes of the content around it and then those of the rule's name; the end of a span has the scopes of
the span without its content; a match by which a span continues has the scopes of its content. What is passed
over has the scopes of the content it is passed over in, and what is left when the line is given up those of
the content in which it is given up.

A scan does not keep the tokens of its matches apart. It knows where the last one ends, and produces what lies
up to an offset, if anything does. So all that a line is made of is written down first, the empty stretches with
the others: each begins where everything before it ends. That the tokens and the scan stand at the same offset
is what each step keeps.

Key definitions: `Consecutive`, `Grammar.WithoutCaptures`, `Scanner.taken`, `Gives`.
Key theorems: `Consecutive.mem_of_produceAll`, `Scanner.steps_produce`, `gives_iff`, `Session.line_byteScopes`.
-/
import ScopeLexer.Proofs.Arena
import ScopeLexer.Proofs.ContinuedSpans

namespace ScopeLexer

open Regex (Captures Cursor)
open Text (width)

/-! ### Stretches of a line -/

/-- A token reaches over a byte. -/
def Token.Covers (t : Token) (byte : Nat) : Prop := t.start ≤ byte ∧ byte < t.stop

instance (t : Token) (byte : Nat) : Decidable (t.Covers byte) := inferInstanceAs (Decidable (_ ∧ _))

/-- Stretches of a line from an offset to another one: each begins where all before it end. They may be empty,
and then nothing is produced for them. -/
def Consecutive : Nat → List Token → Nat → Prop
  | pos, [], last => pos = last
  | pos, t :: ts, last => t.start = pos ∧ Consecutive (max pos t.stop) ts last

/-- Tokens after some stretches have been produced one after the other. -/
def Tokens.produceAll (ts : Tokens) (stretches : List Token) : Tokens :=
  stretches.foldl (fun ts t => ts.produce t.stop t.scopes) ts

theorem Tokens.produceAll_append (ts : Tokens) (l l' : List Token) :
    ts.produceAll (l ++ l') = (ts.produceAll l).produceAll l' :=
  List.foldl_append

namespace Consecutive

variable {pos mid last n byte : Nat} {l l' : List Token} {t u : Token} {ts : Tokens}

theorem append : ∀ {pos : Nat} {l : List Token}, Consecutive pos l mid → Consecutive mid l' last →
    Consecutive pos (l ++ l') last
  | _, [], rfl, h' => h'
  | _, _ :: _, ⟨hstart, h⟩, h' => ⟨hstart, h.append h'⟩

theorem le : ∀ {pos : Nat} {l : List Token}, Consecutive pos l last → pos ≤ last
  | _, [], h => Nat.le_of_eq h
  | _, _ :: _, ⟨_, h⟩ => Nat.le_trans (Nat.le_max_left _ _) h.le

theorem le_start : ∀ {pos : Nat} {l : List Token}, Consecutive pos l last → ∀ t ∈ l, pos ≤ t.start
  | pos, u :: l, ⟨hstart, h⟩, t, ht => by
    rcases List.mem_cons.mp ht with rfl | ht
    · exact Nat.le_of_eq hstart.symm
    · exact Nat.le_trans (Nat.le_max_left _ _) (h.le_start t ht)

theorem stop_le : ∀ {pos : Nat} {l : List Token}, Consecutive pos l last → ∀ t ∈ l, t.stop ≤ last
  | pos, u :: l, ⟨_, h⟩, t, ht => by
    rcases List.mem_cons.mp ht with rfl | ht
    · exact Nat.le_trans (Nat.le_max_right _ _) h.le
    · exact h.stop_le t ht

/-- Stretches that all end by an offset lead no further. -/
theorem last_le (hpos : pos ≤ n) (h : Consecutive pos l last) (hl : ∀ t ∈ l, t.stop ≤ n) : last ≤ n := by
  induction l generalizing pos with
  | nil =>
    obtain rfl : pos = last := h
    exact hpos
  | cons u l ih =>
    obtain ⟨hu, hl⟩ := List.forall_mem_cons.mp hl
    exact ih (Nat.max_le.mpr ⟨hpos, hu⟩) h.2 hl

/-- No two stretches have a byte in common. -/
theorem unique : ∀ {pos : Nat} {l : List Token}, Consecutive pos l last → t ∈ l → u ∈ l → t.Covers byte →
    u.Covers byte → t = u
  | pos, v :: l, ⟨_, h⟩, ht, hu, htb, hub => by
    -- What comes after the first stretch begins behind it.
    have behind : ∀ w ∈ l, w.Covers byte → ¬ v.Covers byte := by
      intro w hw hwb hvb
      have hstart : max pos v.stop ≤ w.start := h.le_start w hw
      unfold Token.Covers at hwb hvb
      omega
    rcases List.mem_cons.mp ht with rfl | ht'
    · rcases List.mem_cons.mp hu with rfl | hu'
      · rfl
      · exact absurd htb (behind u hu' hub)
    · rcases List.mem_cons.mp hu with rfl | hu'
      · exact absurd hub (behind t ht' htb)
      · exact h.unique ht' hu' htb hub

/-- Of stretches that go on from where some tokens end, only such are produced as are there, just as they are. -/
theorem mem_of_produceAll : ∀ {l : List Token} {ts : Tokens}, Consecutive ts.last l last →
    ∀ t ∈ (ts.produceAll l).done, t ∈ ts.done ∨ t ∈ l
  | [], _, _, _, ht => .inl ht
  | u :: l, ts, ⟨hstart, h⟩, t, ht => by
    have hlast : (ts.produce u.stop u.scopes).last = max ts.last u.stop := Tokens.last_produce _ _ _
    have hrest : Consecutive (ts.produce u.stop u.scopes).last l last := hlast ▸ h
    rcases mem_of_produceAll hrest t ht with ht | ht
    · unfold Tokens.produce at ht
      split at ht
      · exact .inl ht
      · rcases List.mem_cons.mp ht with rfl | ht
        · rw [← hstart]
          exact .inr List.mem_cons_self
        · exact .inl ht
    · exact .inr (List.mem_cons_of_mem _ ht)

theorem last_produceAll : ∀ {l : List Token} {ts : Tokens}, Consecutive ts.last l last →
    (ts.produceAll l).last = last
  | [], _, h => h
  | u :: l, ts, ⟨_, h⟩ => by
    have hrest : Consecutive (ts.produce u.stop u.scopes).last l last := Tokens.last_produce ts _ _ ▸ h
    have hlast : ((ts.produce u.stop u.scopes).produceAll l).last = last := last_produceAll hrest
    exact hlast

end Consecutive

/-- Without the newline there are no other tokens than before. Only an end may have been moved back. -/
theorem Tokens.mem_finish {ts : Tokens} {length : Nat} {t : Token} (h : t ∈ ts.finish length) :
    ∃ t' ∈ ts.done, t.start = t'.start ∧ t.stop ≤ t'.stop ∧ t.scopes = t'.scopes := by
  unfold Tokens.finish at h
  have hmem := List.mem_reverse.mp h
  split at hmem
  · rename_i u us hdone
    -- What is left without the newline has all been there before.
    have kept : ∀ v ∈ u :: us, v ∈ ts.done := by
      intro v hv
      rw [← hdone] at hv
      split at hv
      · rename_i w ws hall
        rw [hall]
        split at hv
        · exact List.mem_cons_of_mem _ hv
        · exact hv
      · contradiction
    split at hmem
    · rename_i hstop
      rcases List.mem_cons.mp hmem with rfl | hmem
      · exact ⟨u, kept u List.mem_cons_self, rfl, hstop ▸ Nat.sub_le _ _, rfl⟩
      · exact ⟨t, kept t (List.mem_cons_of_mem _ hmem), rfl, Nat.le_refl _, rfl⟩
    · exact ⟨t, kept t hmem, rfl, Nat.le_refl _, rfl⟩
  · contradiction

/-! ### The matches of a scan -/

/-- No rule has rules for the groups of its matches. -/
def Grammar.WithoutCaptures (g : Grammar) : Prop := ∀ r ∈ g.rules, ∀ cs ∈ r.captureLists, cs = []

instance (g : Grammar) : Decidable g.WithoutCaptures :=
  inferInstanceAs (Decidable (∀ r ∈ g.rules, ∀ cs ∈ r.captureLists, cs = []))

theorem Rule.matchRules?_mem {r : Rule} {rules : CaptureRules} (h : r.matchRules? = some rules) :
    rules ∈ r.captureLists := by
  cases r with
  | group r => contradiction
  | noop => contradiction
  | _ =>
    obtain rfl := Option.some.inj h
    exact List.mem_cons_self

theorem Rule.endCaptures_mem (r : Rule) : r.endCaptures ∈ [] :: r.captureLists := by
  cases r with
  | beginEnd r => simp [endCaptures, captureLists]
  | _ => exact List.mem_cons_self

theorem Rule.continuingCaptures_mem (r : Rule) : r.continuingCaptures ∈ [] :: r.captureLists := by
  cases r with
  | beginWhile r => simp [continuingCaptures, captureLists]
  | _ => exact List.mem_cons_self

theorem Grammar.WithoutCaptures.rule {g : Grammar} (h : g.WithoutCaptures) (id : RuleId) :
    ∀ cs ∈ [] :: (g.rule id).captureLists, cs = [] := by
  refine List.forall_mem_cons.mpr ⟨rfl, ?_⟩
  unfold Grammar.rule Array.getD
  split
  · exact h _ (Array.getElem_mem _)
  · exact nofun

/-- The matches that a scan takes in so many steps at most, each with where the scan stands before it. -/
def Scanner.taken (sc : Scanner Id) (again : Option (Again Id)) (line : List Char) :
    Nat → ScanState → List (ScanState × Found)
  | 0, _ => []
  | fuel + 1, s =>
    match Id.run (sc.found? line s) with
    | none => []
    | some x =>
      match Id.run (sc.step again line (width line) s) with
      | .goOn next => (s, x) :: sc.taken again line fuel next
      | .stop _ _ => [(s, x)]

/-- What a scan passes over before a match, and the match. -/
def Scanner.stretches (sc : Scanner Id) (line : List Char) (e : ScanState × Found) : List Token :=
  [⟨e.1.pos, e.2.start, e.1.stack.top.contentScopes⟩,
    ⟨max e.1.pos e.2.start, e.2.stop, (sc.around line e.1 e.2).top.contentScopes⟩]

/-- The match by which a span continues. -/
def Scanner.stretch (e : Stack × Found) : Token := ⟨e.2.start, e.2.stop, e.1.top.contentScopes⟩

theorem Scanner.around_stop {sc : Scanner Id} {line : List Char} {s : ScanState} {x : Found}
    (h : x.candidate = .stop) : (sc.around line s x).top.contentScopes = s.stack.top.nameScopes := by
  rw [around, h]
  rfl

theorem Scanner.around_rule {sc : Scanner Id} {line : List Char} {s : ScanState} {x : Found} {id : RuleId}
    (h : x.candidate = .rule id) : (sc.around line s x).top.contentScopes =
      s.stack.top.contentScopes ++ (sc.grammar.rule id).nameScopes line x.captures := by
  rw [around, h]
  rfl

/-- What a step leaves: where it goes on, some tokens, and where it gives the line up, these and the rest of
the line in the content that it is given up in. -/
def StepResult.Leaves (length : Nat) (ts : Tokens) : StepResult → Prop
  | .goOn s => s.tokens = ts
  | .stop us stack => us = ts.produce length stack.top.contentScopes

theorem ScanState.Alike.refl (s : ScanState) : s.Alike .same s :=
  ⟨rfl, .refl s.stack, rfl, rfl, rfl, rfl⟩

/-- The scopes that a byte of a line has by the matches of the line: `passed` are the spans that continue, each
with its match, `taken` are the matches of the scan, each with where the scan stands before it, and `final` is
the stack with which the line is given up. -/
inductive Gives (g : Grammar) (line : List Char) (passed : List (Stack × Found))
    (taken : List (ScanState × Found)) (final : Stack) (byte : Nat) : List Scope → Prop
  /-- A match by which a span continues has the scopes of the content of the span. -/
  | continued {inner : Stack} {x : Found} (h : (inner, x) ∈ passed) (hstart : x.start ≤ byte)
      (hstop : byte < x.stop) : Gives g line passed taken final byte inner.top.contentScopes
  /-- A match of a rule has the scopes of the content around it, and then those of the name of the rule. -/
  | matched {s : ScanState} {x : Found} {id : RuleId} (h : (s, x) ∈ taken) (hrule : x.candidate = .rule id)
      (hpos : s.pos ≤ byte) (hstart : x.start ≤ byte) (hstop : byte < x.stop) :
      Gives g line passed taken final byte
        (s.stack.top.contentScopes ++ (g.rule id).nameScopes line x.captures)
  /-- The end of a span has the scopes of the span, without those of its content. -/
  | ended {s : ScanState} {x : Found} (h : (s, x) ∈ taken) (hend : x.candidate = .stop) (hpos : s.pos ≤ byte)
      (hstart : x.start ≤ byte) (hstop : byte < x.stop) :
      Gives g line passed taken final byte s.stack.top.nameScopes
  /-- What is passed over before a match has the scopes of the content it is in. -/
  | skipped {s : ScanState} {x : Found} (h : (s, x) ∈ taken) (hpos : s.pos ≤ byte) (hstart : byte < x.start) :
      Gives g line passed taken final byte s.stack.top.contentScopes
  /-- What is left behind all matches has the scopes of the content in which the line is given up. -/
  | left (hpassed : ∀ e ∈ passed, e.2.stop ≤ byte) (htaken : ∀ e ∈ taken, e.2.stop ≤ byte) :
      Gives g line passed taken final byte final.top.contentScopes

namespace Scanner

variable {g : Grammar} {o : Options} {again : Option (Again Id)} {line : List Char} {s s' : ScanState}
  {x : Found} {ts : Tokens}

/-! ### Steps -/

/-- What comes next in a scan is a match of a rule that is found by a pattern, or the end of a span. -/
theorem next_direct (h : (g.scanner o).next line s = some x) : x.start ≤ x.stop ∧
    (x.candidate = .stop → ∃ r, g.rule s.stack.top.rule = .beginEnd r) ∧
      ((g.scanner o).rulesFor? s x).isSome = true := by
  unfold next at h
  split at h
  · rename_i c hc
    obtain hnone | ⟨e, he, captures, hs, hx⟩ := best_matched h
    · contradiction
    · obtain ⟨start, stop, hspan, hle⟩ := Options.search_span hs
      obtain ⟨rest, rfl⟩ := List.head?_eq_some_iff.mp hspan
      obtain rfl := Option.some.inj hx
      refine ⟨hle, fun hstop => ?_, ?_⟩
      · have hclosing : (Id.run (s.stack.top.inForce g (Means.direct g o).made
            (g.rule s.stack.top.rule).closing?)).isSome = true :=
          closes_of_mem_ordered (p := e.2) (by rw [← hstop]; exact he)
        cases hr : g.rule s.stack.top.rule with
        | beginEnd r => exact ⟨r, rfl⟩
        | _ => simp [hr, Rule.closing?, Frame.inForce] at hclosing
      · obtain ⟨_ | id, p⟩ := e
        · rfl
        · obtain ⟨entry, hentry, rfl⟩ := entry_of_mem_ordered he
          exact matchRules?_isSome (Option.isSome_of_eq_some (Grammar.mem_candidates_iff.mp hentry).2)
  · contradiction

/-- Without a limit of time the time is never over. -/
theorem timeIsOver_direct (ho : o.timeLimit = none) :
    (g.scanner o).finder.timeIsOver = (pure false : Id Bool) := by
  show (pure (o.timeLimit == some 0) : Id Bool) = _
  rw [ho]
  rfl

theorem found?_direct (ho : o.timeLimit = none) : (g.scanner o).found? line s = (g.scanner o).next line s := by
  unfold found?
  rw [timeIsOver_direct ho]
  rfl

/-- A step takes the match that comes next, if there is one. -/
theorem step_direct (ho : o.timeLimit = none) : (g.scanner o).step again line (width line) s =
    match Id.run ((g.scanner o).found? line s) with
    | none => .stop (s.tokens.produce (width line) s.stack.top.contentScopes) s.stack
    | some x => (g.scanner o).settle line s x ((g.scanner o).matched again line s x) := by
  rw [found?_direct ho]
  unfold step
  rw [timeIsOver_direct ho]
  show (match Id.run ((g.scanner o).next line s) with
    | none => _
    | some x => _) = _
  cases Id.run ((g.scanner o).next line s) with
  | none => rfl
  | some x => exact take_eq

/-- Nothing is swept where no rule has rules for groups: what lies before a match is produced, and the match. -/
theorem matched_bare (hbare : g.WithoutCaptures) (hrules : ((g.scanner o).rulesFor? s x).isSome = true) :
    (g.scanner o).matched again line s x = s.tokens.produceAll ((g.scanner o).stretches line (s, x)) := by
  obtain ⟨rules, hsome⟩ := Option.isSome_iff_exists.mp hrules
  have hnil : rules = [] := by
    unfold rulesFor? at hsome
    split at hsome
    · obtain rfl := Option.some.inj hsome
      exact hbare.rule _ _ (Rule.endCaptures_mem _)
    · exact hbare.rule _ _ (List.mem_cons_of_mem _ (Rule.matchRules?_mem hsome))
  unfold matched
  rw [hsome, hnil]
  rfl

/-- A step that goes on keeps the tokens; one that gives the line up leaves the rest to the content it is in. -/
theorem advance_leaves {stop : Nat} :
    ((g.scanner o).advance (width line) s stop).Leaves (width line) s.tokens := by
  unfold advance
  split
  · rfl
  · split <;> rfl

theorem settle_leaves (hend : x.candidate = .stop → s.stack.below ≠ []) :
    ((g.scanner o).settle line s x ts).Leaves (width line) ts := by
  unfold settle
  split
  · rename_i hcandidate
    unfold settleEnd
    simp only
    split
    · rename_i hpop
      obtain ⟨f, fs, hbelow⟩ := List.exists_cons_of_ne_nil (hend hcandidate)
      simp [Stack.pop?, Stack.withContent, hbelow] at hpop
    · split
      · rfl
      · exact advance_leaves
  · split
    · unfold settleBegin
      simp only
      split
      · rfl
      · exact advance_leaves
    · unfold settleMatch
      split
      · rfl
      · exact advance_leaves

/-- A scan that remembers nothing goes on within frames that lie over one another. -/
theorem step_inLayers (levels : Nat) (hl : s.stack.InLayers g)
    (h : (g.scanner o).step ((g.scanner o).againAt levels) line (width line) s = .goOn s') :
    s'.stack.InLayers g := by
  let session : Session := { grammar := g, options := o }
  let result := (session.scanner.step (session.scanner.againAt levels) line (width line) s {}).1
  have hmoves : Always (session.scanner.step (session.scanner.againAt levels) line (width line) s)
      fun r => Stack.Move g line s.stack r.stack := step_moves
  have hmove : Stack.Move g line s.stack result.stack := hmoves {}
  have halike : StepResult.Alike .same result
      ((g.scanner o).step ((g.scanner o).againAt levels) line (width line) s) :=
    (step_linked session.scanner_linked (againAt_linked session.scanner_linked levels) line (width line)
      (ScanState.Alike.refl s) {} (Memory.sound_empty g)).1
  rw [h] at halike
  generalize result = r at hmove halike
  cases halike with
  | goOn hstate =>
    rw [← hstate.stack.eq]
    exact hl.move hmove

theorem step_of_not_found (ho : o.timeLimit = none) (h : (g.scanner o).found? line s = none) :
    (g.scanner o).step again line (width line) s =
      .stop (s.tokens.produce (width line) s.stack.top.contentScopes) s.stack := by
  rw [step_direct ho, h]
  rfl

/-- A step produces what it passes over and what it takes. -/
theorem step_leaves (hroot : g.HasRoot) (hbare : g.WithoutCaptures) (ho : o.timeLimit = none)
    (hl : s.stack.InLayers g) (h : (g.scanner o).found? line s = some x) : x.start ≤ x.stop ∧
      (Id.run ((g.scanner o).step again line (width line) s)).Leaves (width line)
        (s.tokens.produceAll ((g.scanner o).stretches line (s, x))) := by
  obtain ⟨hle, hend, hrules⟩ := next_direct (found?_direct ho ▸ h)
  refine ⟨hle, ?_⟩
  rw [step_direct ho, h, ← matched_bare hbare hrules]
  refine settle_leaves fun hstop => hl.below_ne_nil hroot fun r hr => ?_
  obtain ⟨r', hr'⟩ := hend hstop
  exact absurd (hr.symm.trans hr') nofun

theorem step_pos (ho : o.timeLimit = none) (h : (g.scanner o).found? line s = some x)
    (hstep : (g.scanner o).step again line (width line) s = .goOn s') : s'.pos = max s.pos x.stop := by
  rw [step_direct ho, h] at hstep
  exact settle_pos hstep

/-! ### Scans -/

theorem steps_direct_of_stop {fuel : Nat} {stack : Stack}
    (h : (g.scanner o).step again line (width line) s = .stop ts stack) :
    (g.scanner o).steps again line (width line) (fuel + 1) s = (ts, stack) := by
  rw [steps, h]
  rfl

theorem steps_direct_of_goOn {fuel : Nat}
    (h : (g.scanner o).step again line (width line) s = .goOn s') :
    (g.scanner o).steps again line (width line) (fuel + 1) s =
      (g.scanner o).steps again line (width line) fuel s' := by
  rw [steps, h]
  rfl

theorem taken_of_none {fuel : Nat} (h : (g.scanner o).found? line s = none) :
    (g.scanner o).taken again line (fuel + 1) s = [] := by
  rw [taken, h]
  rfl

theorem taken_of_stop {fuel : Nat} {stack : Stack} (h : (g.scanner o).found? line s = some x)
    (hstep : (g.scanner o).step again line (width line) s = .stop ts stack) :
    (g.scanner o).taken again line (fuel + 1) s = [(s, x)] := by
  rw [taken, h, hstep]
  rfl

theorem taken_of_goOn {fuel : Nat} (h : (g.scanner o).found? line s = some x)
    (hstep : (g.scanner o).step again line (width line) s = .goOn s') :
    (g.scanner o).taken again line (fuel + 1) s = (s, x) :: (g.scanner o).taken again line fuel s' := by
  rw [taken, h, hstep]
  rfl

/-- **What a scan passes over and what it takes are stretches of its line**, one after the other from where it
stands, and the rest of the line is left to the content in which the scan ends. The tokens are those of the
stretches. -/
theorem steps_produce (hroot : g.HasRoot) (hbare : g.WithoutCaptures) (ho : o.timeLimit = none) (levels : Nat)
    (line : List Char) : ∀ (fuel : Nat) {s : ScanState}, s.stack.InLayers g → s.tokens.last = s.pos →
      let sc := g.scanner o
      let again := sc.againAt levels
      let taken := sc.taken again line fuel s
      let r : Tokens × Stack := sc.steps again line (width line) fuel s
      (∀ e ∈ taken, e.2.start ≤ e.2.stop) ∧ ∃ last, Consecutive s.pos (taken.flatMap (sc.stretches line)) last ∧
        r.1 = s.tokens.produceAll
          (taken.flatMap (sc.stretches line) ++ [⟨last, width line, r.2.top.contentScopes⟩])
  | 0, s, _, _ => ⟨nofun, s.pos, rfl, rfl⟩
  | fuel + 1, s, hl, hlast => by
    intro sc again taken r
    cases hfound : Id.run (sc.found? line s) with
    | none =>
      have htaken : taken = [] := taken_of_none hfound
      have hr : r = _ := steps_direct_of_stop (step_of_not_found ho hfound)
      rw [htaken, hr]
      exact ⟨nofun, s.pos, rfl, rfl⟩
    | some x =>
      obtain ⟨hle, hleaves⟩ : x.start ≤ x.stop ∧ (Id.run (sc.step again line (width line) s)).Leaves
          (width line) (s.tokens.produceAll (sc.stretches line (s, x))) := step_leaves hroot hbare ho hl hfound
      have hrow : Consecutive s.pos (sc.stretches line (s, x)) (max s.pos x.stop) :=
        ⟨rfl, rfl, show max (max s.pos x.start) x.stop = _ by omega⟩
      cases hstep : Id.run (sc.step again line (width line) s) with
      | stop us stack =>
        have htaken : taken = [(s, x)] := taken_of_stop hfound hstep
        have hr : r = (us, stack) := steps_direct_of_stop hstep
        rw [hstep] at hleaves
        rw [htaken, hr, List.flatMap_singleton]
        refine ⟨List.forall_mem_singleton.mpr hle, max s.pos x.stop, hrow, ?_⟩
        rw [Tokens.produceAll_append]
        exact hleaves
      | goOn next =>
        have htaken : taken = (s, x) :: sc.taken again line fuel next := taken_of_goOn hfound hstep
        have hr : r = sc.steps again line (width line) fuel next := steps_direct_of_goOn hstep
        rw [hstep] at hleaves
        have htokens : next.tokens = s.tokens.produceAll (sc.stretches line (s, x)) := hleaves
        have hpos : next.pos = max s.pos x.stop := step_pos ho hfound hstep
        have hnext : next.tokens.last = next.pos := by
          rw [htokens, hpos]
          exact Consecutive.last_produceAll (hlast.symm ▸ hrow)
        obtain ⟨hforward, last, hrest, hproduce⟩ :=
          steps_produce hroot hbare ho levels line fuel (step_inLayers levels hl hstep) hnext
        rw [htaken, hr, List.flatMap_cons]
        refine ⟨List.forall_mem_cons.mpr ⟨hle, hforward⟩, last, hrow.append (hpos ▸ hrest), ?_⟩
        rw [hproduce, htokens, ← Tokens.produceAll_append, List.append_assoc]

/-- The matches by which spans continue are stretches of their line, one after the other. -/
theorem continues_consecutive {firstLine : Bool} {anchor : Option Nat} {pos : Nat} {inners : List Stack}
    {passed : List (Stack × Found)} {failed : Option Stack}
    (h : Continues g o line firstLine anchor pos inners passed failed) :
    Consecutive pos (passed.map stretch) (lastStop pos passed) := by
  induction h with
  | all => rfl
  | fails => rfl
  | @passes _ pos _ x _ _ _ hx _ ih =>
    obtain ⟨-, hstart, hle, -⟩ := goesOn?_match hx
    have hmax : max pos x.stop = x.stop := by omega
    exact ⟨hstart, hmax.symm ▸ ih⟩

end Scanner

section

variable {g : Grammar} {line : List Char} {passed : List (Stack × Found)}
  {taken : List (ScanState × Found)} {final : Stack} {mid last byte : Nat}

/-- **Each byte has the scopes of the stretch that it lies in.** -/
theorem gives_iff {o : Options} (hpassed : Consecutive 0 (passed.map Scanner.stretch) mid)
    (htaken : Consecutive mid (taken.flatMap ((g.scanner o).stretches line)) last)
    (hforward : ∀ e ∈ taken, e.2.start ≤ e.2.stop) (hbyte : byte < width line) {scopes : List Scope} :
    Gives g line passed taken final byte scopes ↔
      ∃ t ∈ passed.map Scanner.stretch ++ taken.flatMap ((g.scanner o).stretches line) ++
          [⟨last, width line, final.top.contentScopes⟩],
        t.Covers byte ∧ t.scopes = scopes := by
  simp only [List.mem_append, List.mem_map, List.mem_flatMap, List.mem_singleton, or_and_right, exists_or]
  constructor
  · intro h
    cases h with
    | @continued inner x h hstart hstop => exact .inl (.inl ⟨_, ⟨_, h, rfl⟩, ⟨hstart, hstop⟩, rfl⟩)
    | @matched s x id h hrule hpos hstart hstop =>
      exact .inl (.inr ⟨_, ⟨_, h, List.mem_cons_of_mem _ List.mem_cons_self⟩,
        ⟨Nat.max_le.mpr ⟨hpos, hstart⟩, hstop⟩, Scanner.around_rule hrule⟩)
    | @ended s x h hend hpos hstart hstop =>
      exact .inl (.inr ⟨_, ⟨_, h, List.mem_cons_of_mem _ List.mem_cons_self⟩,
        ⟨Nat.max_le.mpr ⟨hpos, hstart⟩, hstop⟩, Scanner.around_stop hend⟩)
    | @skipped s x h hpos hstart =>
      exact .inl (.inr ⟨_, ⟨_, h, List.mem_cons_self⟩, ⟨hpos, hstart⟩, rfl⟩)
    | left hp ht =>
      have hmid : mid ≤ byte := hpassed.last_le (Nat.zero_le _) (List.forall_mem_map.mpr hp)
      have hlast : last ≤ byte := htaken.last_le hmid fun t h => by
        obtain ⟨e, he, h⟩ := List.mem_flatMap.mp h
        rcases List.mem_pair.mp h with rfl | rfl
        · exact Nat.le_trans (hforward e he) (ht e he)
        · exact ht e he
      exact .inr ⟨_, rfl, ⟨hlast, hbyte⟩, rfl⟩
  · rintro ((⟨t, ⟨e, he, rfl⟩, ⟨hstart, hstop⟩, rfl⟩ | ⟨t, ⟨e, he, ht⟩, ⟨hstart, hstop⟩, rfl⟩) |
      ⟨t, rfl, ⟨hstart, -⟩, rfl⟩)
    · exact .continued he hstart hstop
    · obtain ⟨s, x⟩ := e
      rcases List.mem_pair.mp ht with rfl | rfl
      · exact .skipped he hstart hstop
      · obtain ⟨hpos, hstart⟩ := Nat.max_le.mp hstart
        cases hx : x.candidate with
        | stop =>
          rw [Scanner.around_stop hx]
          exact .ended he hx hpos hstart hstop
        | rule id =>
          rw [Scanner.around_rule hx]
          exact .matched he hx hpos hstart hstop
    · refine .left (fun e he => ?_) fun e he => ?_
      · exact Nat.le_trans (hpassed.stop_le _ (List.mem_map_of_mem he)) (Nat.le_trans htaken.le hstart)
      · exact Nat.le_trans (htaken.stop_le ⟨max e.1.pos e.2.start, e.2.stop, _⟩
          (List.mem_flatMap.mpr ⟨e, he, List.mem_cons_of_mem _ List.mem_cons_self⟩)) hstart

end

namespace Scanner

variable {source : Source.GrammarSource} {g : Grammar} {o : Options} {stack : Stack}

/-- Where no rule has rules for groups, the tokens of the spans that continue are those of their matches. -/
theorem resume_produces (hg : Grammar.ofSource source = .ok g) (hbare : g.WithoutCaptures)
    (hl : stack.InLayers g) (o : Options) (levels : Nat) (line : List Char) (firstLine : Bool) :
    let sc := g.scanner o
    let k : Continued := sc.resume (sc.againAt levels) stack line 0 firstLine
    ∃ passed failed, Continues g o line firstLine (if stack.top.reachedEnd then some 0 else none) 0
        (stack.toContinue g) passed failed ∧
      Consecutive 0 (passed.map stretch) k.pos ∧ k.tokens = Tokens.produceAll ⟨[], 0⟩ (passed.map stretch) ∧
      k.stack.InLayers g := by
  intro sc k
  let start : Continued := ⟨⟨[], 0⟩, stack, 0, if stack.top.reachedEnd then some 0 else none, firstLine⟩
  have hlayers : ∀ inner ∈ prefixes stack.frames, inner.InLayers g := fun inner h =>
    hl.of_suffix (frames_suffix_of_mem_prefixes h)
  obtain ⟨passed, failed, hrun, hfollows⟩ := continueSpans_continues hg o levels line firstLine
    (k := start) hlayers (Bool.and_true firstLine).symm
  have hfollows : start.Follows g line firstLine passed failed k := hfollows
  refine ⟨passed, failed, hrun, ?_, ?_, ?_⟩
  · rw [hfollows.pos]
    exact continues_consecutive hrun
  · rw [hfollows.bare (fun e _ => hbare.rule _ _ (Rule.continuingCaptures_mem _)) rfl]
    rw [Tokens.produceAll, List.foldl_map]
    rfl
  · rw [hfollows.stack]
    cases failed with
    | none => exact hl
    | some inner => exact (hlayers inner (List.mem_filter.mp (hrun.failed_mem inner rfl)).1).pop

/-- The tokens of a line are those of the spans that continue and of the steps after them. -/
theorem line_direct (g : Grammar) (o : Options) (text : List Char) (prior : Option Stack) :
    let sc := g.scanner o
    let line := withoutNewline text ++ ['\n']
    let again := sc.againAt maxLevels
    let k : Continued := sc.resume again (prior.getD (.root g)) line 0 prior.isNone
    let r : Tokens × Stack := sc.steps again line (width line) (sc.stepBound (width line) 0) k.start
    (Id.run (sc.line text prior)).tokens = r.1.finish (width line) := by
  intro sc line again k r
  unfold Scanner.line
  simp only [scan_eq]
  rfl

/-- Each byte that a token of a line reaches over has the scopes of this token, and no others. -/
theorem line_gives (hg : Grammar.ofSource source = .ok g) (hbare : g.WithoutCaptures)
    (ho : o.timeLimit = none) (text : List Char) {prior : Option Stack}
    (hl : (prior.getD (.root g)).InLayers g) :
    let stack := prior.getD (.root g)
    let line := withoutNewline text ++ ['\n']
    let sc := g.scanner o
    let again := sc.againAt maxLevels
    let k : Continued := sc.resume again stack line 0 prior.isNone
    let fuel := sc.stepBound (width line) 0
    let taken := sc.taken again line fuel k.start
    let final : Stack := (Id.run (sc.steps again line (width line) fuel k.start)).2
    ∃ passed failed, Continues g o line prior.isNone (if stack.top.reachedEnd then some 0 else none) 0
        (stack.toContinue g) passed failed ∧
      ∀ t ∈ (Id.run (sc.line text prior)).tokens, ∀ byte, t.Covers byte → byte < width line → ∀ scopes,
        t.scopes = scopes ↔ Gives g line passed taken final byte scopes := by
  intro stack line sc again k fuel taken final
  obtain ⟨passed, failed, hrun, hpassed, hkept, hlayers⟩ :=
    resume_produces hg hbare hl o maxLevels line prior.isNone
  have hlast : k.start.tokens.last = k.start.pos := (congrArg Tokens.last hkept).trans hpassed.last_produceAll
  obtain ⟨hforward, last, htaken, hproduce⟩ :=
    steps_produce (Grammar.shape_of_ofSource hg).root hbare ho maxLevels line fuel hlayers hlast
  -- All that is produced are stretches of the line, and no two of them have a byte in common.
  let stretches := passed.map stretch ++ taken.flatMap (sc.stretches line) ++
    [⟨last, width line, final.top.contentScopes⟩]
  have hrow : Consecutive 0 stretches (max last (width line)) := (hpassed.append htaken).append ⟨rfl, rfl⟩
  have hproduced : (Id.run (sc.steps again line (width line) fuel k.start)).1 =
      Tokens.produceAll ⟨[], 0⟩ stretches :=
    calc
      _ = k.start.tokens.produceAll (taken.flatMap (sc.stretches line) ++
          [⟨last, width line, final.top.contentScopes⟩]) := hproduce
      _ = (Tokens.produceAll ⟨[], 0⟩ (passed.map stretch)).produceAll (taken.flatMap (sc.stretches line) ++
          [⟨last, width line, final.top.contentScopes⟩]) := by rw [show k.start.tokens = _ from hkept]
      _ = Tokens.produceAll ⟨[], 0⟩ stretches := by rw [← Tokens.produceAll_append, ← List.append_assoc]
  have htokens : (Id.run (sc.line text prior)).tokens =
      (Tokens.produceAll ⟨[], 0⟩ stretches).finish (width line) :=
    (line_direct g o text prior).trans (congrArg (Tokens.finish · (width line)) hproduced)
  refine ⟨passed, failed, hrun, fun t ht byte hcovers hbyte scopes => ?_⟩
  obtain ⟨t', ht', hstart, hstop, hscopes⟩ := Tokens.mem_finish (htokens ▸ ht)
  have hmem : t' ∈ stretches := (hrow.mem_of_produceAll t' ht').resolve_left List.not_mem_nil
  have hcovers' : t'.Covers byte :=
    ⟨hstart ▸ hcovers.1, Nat.lt_of_lt_of_le hcovers.2 hstop⟩
  rw [gives_iff hpassed htaken hforward hbyte, hscopes]
  constructor
  · rintro rfl
    exact ⟨t', hmem, hcovers', rfl⟩
  · rintro ⟨u, hu, hcovered, rfl⟩
    rw [hrow.unique hu hmem hcovered hcovers']

end Scanner

/-- A line of a session in use comes to what it comes to without a memory. -/
theorem Session.line_used (g : Grammar) (o : Options) (calls : List (List Char × Option Stack))
    (text : List Char) (prior : Option Stack) :
    (((Session.mk g o {}).after calls).line text prior).1 = (g.scanner o).line text prior := by
  rw [(Session.line_direct (Session.sound_used g o calls) text prior).1, Session.direct_after]
  rfl

/-- **The scopes of every byte.** In a compiled grammar where no rule has rules for groups, without a limit of
time and whatever lines there have been, let a line follow a stack whose frames lie over one another, as those
of every stack that a line leaves do. Its tokens abut from its beginning to its end, and each byte has exactly
the scopes that it is given by the matches: those of the content of a span for a match by which it continues;
those of the content around it and then of the name of its rule for any other match, but those of the span
alone, without its content, for the end of one; and those of the innermost content for what is passed over, and
for what is left when the line is given up. -/
theorem Session.line_byteScopes {source : Source.GrammarSource} {g : Grammar}
    (hg : Grammar.ofSource source = .ok g) (hbare : g.WithoutCaptures) (o : Options)
    (ho : o.timeLimit = none) (calls : List (List Char × Option Stack)) (text : List Char)
    (prior : Option Stack) (hprior : ∀ s, prior = some s → s.InLayers g) :
    let stack := prior.getD (.root g)
    let line := withoutNewline text ++ ['\n']
    let sc := g.scanner o
    let again := sc.againAt Scanner.maxLevels
    let k : Scanner.Continued := sc.resume again stack line 0 prior.isNone
    let fuel := sc.stepBound (width line) 0
    let taken := sc.taken again line fuel k.start
    let final : Stack := (Id.run (sc.steps again line (width line) fuel k.start)).2
    let tokens := (((Session.mk g o {}).after calls).line text prior).1.tokens
    Abut 0 tokens (width (withoutNewline text)) ∧
    ∃ passed failed, Continues g o line prior.isNone (if stack.top.reachedEnd then some 0 else none) 0
        (stack.toContinue g) passed failed ∧
      ∀ t ∈ tokens, ∀ byte, t.Covers byte → ∀ scopes,
        t.scopes = scopes ↔ Gives g line passed taken final byte scopes := by
  intro stack line sc again k fuel taken final tokens
  have hl : stack.InLayers g := by
    cases prior with
    | none => exact .root g _
    | some s => exact hprior s rfl
  have hfresh : (((Session.mk g o {}).after calls).line text prior).1 =
      ((Session.mk g o {}).line text prior).1 :=
    (Session.line_used g o calls text prior).trans (Session.line_used g o [] text prior).symm
  have hsearch : (Session.mk g o {}).scanner.FindsInText :=
    Means.scanner_findsInText (Options.search_staysInText o) g o.maxStalled
  have hroot : g.HasRoot := (Grammar.shape_of_ofSource hg).root
  have habut : Abut 0 tokens (width (withoutNewline text)) := by
    show Abut 0 (((Session.mk g o {}).after calls).line text prior).1.tokens _
    rw [hfresh]
    exact (Scanner.line_tiled hsearch hroot text hl {}).1.abut
  obtain ⟨passed, failed, hrun, hgives⟩ := Scanner.line_gives hg hbare ho text hl
  refine ⟨habut, passed, failed, hrun, fun t ht byte hcovers => hgives t ?_ byte hcovers ?_⟩
  · exact Session.line_used g o calls text prior ▸ ht
  · calc
      byte < t.stop := hcovers.2
      _ ≤ width (withoutNewline text) := habut.stop_le t ht
      _ < width line := by
        rw [show width line = width (withoutNewline text) + 1 from Text.width_append _ _]
        exact Nat.lt_succ_self _

/-- Quoted lines with strings in them. -/
def Source.mailText : Source.GrammarSource where
  scopeName := "source.mail"
  patterns := [
    { name := some "quote.mail", contentName := some "quoted.mail", beginPattern := some "^>"
      whilePattern := some "^>", patterns := [{ reference := some "$self" }] },
    { name := some "string.mail", contentName := some "text.mail", beginPattern := some "\""
      endPattern := some "\"", patterns := [{ name := some "digit.mail", matchPattern := some "[0-9]" }] }]

/-- In a quoted line the mark has the scopes of the quote and of its content, and the closing quotation mark of a
string has the name of the string, but not the scope of its content. -/
theorem line_byteScopes_mailText : ∃ g prior, Grammar.ofSource Source.mailText = .ok g ∧
    g.WithoutCaptures ∧ Stack.InLayers g prior ∧
    let quoted : List Scope := [⟨"source.mail"⟩, ⟨"quote.mail"⟩, ⟨"quoted.mail"⟩]
    ∃ passed taken final, ∀ scopes,
      (quoted = scopes ↔ Gives g ['>', '"', '1', '"', 'x', '\n'] passed taken final 0 scopes) ∧
      (quoted ++ [⟨"string.mail"⟩, ⟨"text.mail"⟩, ⟨"digit.mail"⟩] = scopes ↔
        Gives g ['>', '"', '1', '"', 'x', '\n'] passed taken final 2 scopes) ∧
      (quoted ++ [⟨"string.mail"⟩] = scopes ↔
        Gives g ['>', '"', '1', '"', 'x', '\n'] passed taken final 3 scopes) := by
  have run : (Grammar.ofSource Source.mailText).toOption.any (fun g =>
      let prior := ((Session.mk g {} {}).line ['>'] none).1.stack
      let tokens := ((Session.mk g {} {}).line ['>', '"', '1', '"', 'x'] (some prior)).1.tokens
      let quoted : List Scope := [⟨"source.mail"⟩, ⟨"quote.mail"⟩, ⟨"quoted.mail"⟩]
      decide (g.WithoutCaptures ∧ ⟨0, 1, quoted⟩ ∈ tokens ∧
        ⟨2, 3, quoted ++ [⟨"string.mail"⟩, ⟨"text.mail"⟩, ⟨"digit.mail"⟩]⟩ ∈ tokens ∧
        ⟨3, 4, quoted ++ [⟨"string.mail"⟩]⟩ ∈ tokens)) = true := by
    decide +kernel
  obtain ⟨g, hg, h⟩ := exists_ok_of_any run
  obtain ⟨hbare, hmark, hdigit, hend⟩ := of_decide_eq_true h
  have hreturned : g.Returned ((Session.mk g {} {}).line ['>'] none).1.stack :=
    Session.returned_line (Session.mk g {} {}) rfl _ none nofun
  have hl : Stack.InLayers g ((Session.mk g {} {}).line ['>'] none).1.stack := hreturned.inLayers
  obtain ⟨-, passed, failed, -, hbytes⟩ := Session.line_byteScopes hg hbare {} rfl []
    ['>', '"', '1', '"', 'x'] (some ((Session.mk g {} {}).line ['>'] none).1.stack)
    (by rintro _ ⟨⟩; exact hl)
  have hafter : (Session.mk g {} {}).after [] = Session.mk g {} {} := rfl
  rw [hafter] at hbytes
  have hat₀ := hbytes _ hmark 0 (by decide)
  have hat₂ := hbytes _ hdigit 2 (by decide)
  have hat₃ := hbytes _ hend 3 (by decide)
  exact ⟨g, _, hg, hbare, hl, passed, _, _, fun scopes => ⟨hat₀ scopes, hat₂ scopes, hat₃ scopes⟩⟩

end ScopeLexer
