/-
# The match that comes first

The search for what comes next keeps the best match so far, takes another one only if it begins earlier, and
ends at a match that begins at the offset of the search. What it comes to can be told without its order of
work: it is the match of the candidate before which all others in the list begin further on, and after which
none begins earlier. There is only one such match, and there is one as soon as any candidate matches. A
candidate that finds nothing, be it that its search came to the end of its bound, has no part in this.

Key definitions: `Found.IsOf`, `Found.IsFirst`, `hits`, `Regex.Aborts`.
Key theorems: `best_isFirst`, `best_eq_none_iff`, `Found.IsFirst.unique`, `best_hits`,
`Regex.searchFrom_of_aborts`, `Grammar.best_ordered`.
-/
import ScopeLexer.Grammar.Check
import ScopeLexer.Proofs.Flattening
import ScopeLexer.Proofs.ScanCovers

namespace ScopeLexer

open Regex (Captures Cursor)

/-! ### Choosing among matches -/

section

variable {α : Type} {search : α → Option Captures} {pos : Nat} {x y : Found} {c : Candidate × α}
  {cs : List (Candidate × α)}

/-- A match is what the search for a candidate comes to, with the span of the whole and the captures. -/
structure Found.IsOf (search : α → Option Captures) (x : Found) (c : Candidate × α) : Prop where
  candidate : x.candidate = c.1
  captures : search c.2 = some x.captures
  span : x.captures.head? = some (some (x.start, x.stop))

/-- A match begins first: those of the candidates before its own begin further on, and those of the candidates
after it do not begin earlier. -/
def Found.IsFirst (search : α → Option Captures) (x : Found) (cs : List (Candidate × α)) : Prop :=
  ∃ before c after, cs = before ++ c :: after ∧ x.IsOf search c ∧
    (∀ b ∈ before, ∀ y : Found, y.IsOf search b → x.start < y.start) ∧
    ∀ b ∈ after, ∀ y : Found, y.IsOf search b → x.start ≤ y.start

theorem Found.isOf_iff : x.IsOf search c ↔ (search c.2).bind (Found.ofCaptures c.1) = some x := by
  rw [Option.bind_eq_some_iff]
  constructor
  · rintro ⟨hcandidate, hcaptures, hspan⟩
    refine ⟨x.captures, hcaptures, ?_⟩
    obtain ⟨rest, hrest⟩ := List.head?_eq_some_iff.mp hspan
    rw [hrest, ofCaptures, ← hcandidate, ← hrest]
  · rintro ⟨captures, hcaptures, hx⟩
    unfold ofCaptures at hx
    split at hx
    · obtain rfl := Option.some.inj hx
      exact ⟨rfl, hcaptures, rfl⟩
    · contradiction

theorem Found.IsOf.unique (hx : x.IsOf search c) (hy : y.IsOf search c) : x = y :=
  Option.some.inj ((isOf_iff.mp hx).symm.trans (isOf_iff.mp hy))

theorem Found.not_isOf (h : (search c.2).bind (Found.ofCaptures c.1) = none) (y : Found) :
    ¬ y.IsOf search c := fun hy => by
  rw [isOf_iff.mp hy] at h
  contradiction

/-- The candidate of the match that begins first is told by its place: of two, neither stands before the
other. -/
theorem Found.IsFirst.unique (hx : x.IsFirst search cs) (hy : y.IsFirst search cs) : x = y := by
  obtain ⟨before, c, after, rfl, hxc, hbefore, hafter⟩ := hx
  obtain ⟨before', c', after', heq, hyc, hbefore', hafter'⟩ := hy
  rcases List.append_eq_append_iff.mp heq with ⟨mid, hmid, hrest⟩ | ⟨mid, hmid, hrest⟩
  · cases mid with
    | nil =>
      obtain ⟨rfl, -⟩ := List.cons.inj hrest
      exact hxc.unique hyc
    | cons d mid =>
      obtain ⟨rfl, rfl⟩ := List.cons.inj hrest
      have hlt : y.start < x.start := hbefore' c (by simp [hmid]) x hxc
      have hle : x.start ≤ y.start := hafter c' (by simp) y hyc
      omega
  · cases mid with
    | nil =>
      obtain ⟨rfl, -⟩ := List.cons.inj hrest
      exact hxc.unique hyc
    | cons d mid =>
      obtain ⟨rfl, rfl⟩ := List.cons.inj hrest
      have hlt : x.start < y.start := hbefore c' (by simp [hmid]) y hyc
      have hle : y.start ≤ x.start := hafter' c (by simp) x hxc
      omega

theorem Found.IsFirst.exists_isOf (hx : x.IsFirst search cs) : ∃ c ∈ cs, x.IsOf search c := by
  obtain ⟨before, c, after, rfl, hc, -, -⟩ := hx
  exact ⟨c, List.mem_append_right _ List.mem_cons_self, hc⟩

/-- No candidate begins earlier. -/
theorem Found.IsFirst.le (hx : x.IsFirst search cs) (hc : c ∈ cs) (hy : y.IsOf search c) :
    x.start ≤ y.start := by
  obtain ⟨before, d, after, rfl, hd, hbefore, hafter⟩ := hx
  rcases List.mem_append.mp hc with hc | hc
  · exact Nat.le_of_lt (hbefore c hc y hy)
  · rcases List.mem_cons.mp hc with rfl | hc
    · exact Nat.le_of_eq (congrArg Found.start (hd.unique hy))
    · exact hafter c hc y hy

/-! ### The search -/

/-- A match that may take the place of what has been found: it begins earlier, or nothing has been found. -/
def Found.Beats (x : Found) (found : Option Found) : Prop := ∀ old ∈ found, x.start < old.start

/-- What a search among candidates comes to after something has been found: that, if no candidate begins
earlier, or else the match that begins first. -/
def Found.Wins (search : α → Option Captures) (x : Found) (found : Option Found)
    (cs : List (Candidate × α)) : Prop :=
  (found = some x ∧ ∀ c ∈ cs, ∀ y : Found, y.IsOf search c → x.start ≤ y.start) ∨
    (x.Beats found ∧ x.IsFirst search cs)

/-- A candidate without a match makes no difference. -/
theorem Found.Wins.cons_of_none {found : Option Found}
    (h : (search c.2).bind (Found.ofCaptures c.1) = none) (hx : x.Wins search found cs) :
    x.Wins search found (c :: cs) := by
  rcases hx with ⟨hfound, hleast⟩ | ⟨hbeats, before, d, after, rfl, hd, hbefore, hafter⟩
  · refine .inl ⟨hfound, List.forall_mem_cons.mpr ⟨fun y hy => ?_, hleast⟩⟩
    exact absurd hy (not_isOf h y)
  · refine .inr ⟨hbeats, c :: before, d, after, rfl, hd, ?_, hafter⟩
    exact List.forall_mem_cons.mpr ⟨fun y hy => absurd hy (not_isOf h y), hbefore⟩

/-- A candidate whose match does not begin earlier than what has been found loses against it. -/
theorem Found.Wins.cons_of_le {old new : Found} (hnew : new.IsOf search c) (hle : old.start ≤ new.start)
    (hx : x.Wins search (some old) cs) : x.Wins search (some old) (c :: cs) := by
  rcases hx with ⟨hfound, hleast⟩ | ⟨hbeats, before, d, after, rfl, hd, hbefore, hafter⟩
  · obtain rfl := Option.some.inj hfound
    refine .inl ⟨rfl, List.forall_mem_cons.mpr ⟨fun y hy => ?_, hleast⟩⟩
    rwa [hy.unique hnew]
  · refine .inr ⟨hbeats, c :: before, d, after, rfl, hd, ?_, hafter⟩
    refine List.forall_mem_cons.mpr ⟨fun y hy => ?_, hbefore⟩
    have hlt : x.start < old.start := hbeats old rfl
    rw [hy.unique hnew]
    omega

/-- A candidate whose match begins earlier than what has been found is to be beaten from then on. -/
theorem Found.Wins.cons_of_beats {found : Option Found} {new : Found} (hnew : new.IsOf search c)
    (hbeats : new.Beats found) (hx : x.Wins search (some new) cs) : x.Wins search found (c :: cs) := by
  rcases hx with ⟨hfound, hleast⟩ | ⟨hbetter, before, d, after, rfl, hd, hbefore, hafter⟩
  · obtain rfl := Option.some.inj hfound
    exact .inr ⟨hbeats, [], c, cs, rfl, hnew, nofun, hleast⟩
  · have hlt : x.start < new.start := hbetter new rfl
    refine .inr ⟨fun old hold => Nat.lt_trans hlt (hbeats old hold), c :: before, d, after, rfl, hd, ?_,
      hafter⟩
    refine List.forall_mem_cons.mpr ⟨fun y hy => ?_, hbefore⟩
    rwa [hy.unique hnew]

/-- The better one of what has been found and the match of a candidate wins where it is to be beaten. -/
theorem Found.Wins.cons {found : Option Found} {new : Found} (hnew : new.IsOf search c)
    (hx : x.Wins search (some (Found.better found new)) cs) : x.Wins search found (c :: cs) := by
  cases found with
  | none => exact hx.cons_of_beats hnew nofun
  | some old =>
    by_cases hle : old.start ≤ new.start
    · rw [better_of_le hle] at hx
      exact hx.cons_of_le hnew hle
    · have hbetter : Found.better (some old) new = new := if_neg hle
      rw [hbetter] at hx
      refine hx.cons_of_beats hnew ?_
      rintro _ ⟨⟩
      exact Nat.lt_of_not_le hle

/-- Where nothing begins before the offset of a search, a match that begins there is not beaten any more. -/
theorem Found.wins_of_start_eq (hpos : ∀ c ∈ cs, ∀ y : Found, y.IsOf search c → pos ≤ y.start)
    (h : x.start = pos) : x.Wins search (some x) cs :=
  .inl ⟨rfl, fun c hc y hy => h.symm ▸ hpos c hc y hy⟩

/-- **What the search comes to wins**, although it ends at a match that begins where it began. -/
theorem best_wins : ∀ {cs : List (Candidate × α)} {found : Option Found},
    (∀ c ∈ cs, ∀ y : Found, y.IsOf search c → pos ≤ y.start) →
      best search pos found cs = some x → x.Wins search found cs
  | [], found, _, h => .inl ⟨h, nofun⟩
  | c :: cs, found, hpos, h => by
    obtain ⟨-, hrest⟩ := List.forall_mem_cons.mp hpos
    cases hc : (search c.2).bind (Found.ofCaptures c.1) with
    | none =>
      rw [best_cons_of_none hc] at h
      exact (best_wins hrest h).cons_of_none hc
    | some new =>
      rw [best_cons_of_some hc] at h
      refine Found.Wins.cons (Found.isOf_iff.mpr hc) ?_
      split at h
      · rename_i hstarts
        obtain rfl := Option.some.inj h
        exact Found.wins_of_start_eq hrest hstarts.1
      · exact best_wins hrest h

theorem best_isFirst (hpos : ∀ c ∈ cs, ∀ y : Found, y.IsOf search c → pos ≤ y.start)
    (h : best search pos none cs = some x) : x.IsFirst search cs := by
  rcases best_wins hpos h with ⟨hnone, -⟩ | ⟨-, hfirst⟩
  · contradiction
  · exact hfirst

/-- What has been found is not lost, and the match of a candidate counts as such. -/
theorem best_isSome : ∀ {cs : List (Candidate × α)} {found : Option Found},
    (found.isSome = true ∨ ∃ c ∈ cs, ∃ y : Found, y.IsOf search c) →
      (best search pos found cs).isSome = true
  | [], found, h => by
    rcases h with h | ⟨c, hc, -⟩
    · exact h
    · exact absurd hc List.not_mem_nil
  | c :: cs, found, h => by
    cases hc : (search c.2).bind (Found.ofCaptures c.1) with
    | none =>
      rw [best_cons_of_none hc]
      refine best_isSome (h.imp_right ?_)
      rintro ⟨d, hd, y, hy⟩
      rcases List.mem_cons.mp hd with rfl | hd
      · exact absurd hy (Found.not_isOf hc y)
      · exact ⟨d, hd, y, hy⟩
    | some new =>
      rw [best_cons_of_some hc]
      split
      · rfl
      · exact best_isSome (.inl rfl)

/-- Nothing is found only where no candidate matches. -/
theorem best_eq_none_iff :
    best search pos none cs = none ↔ ∀ c ∈ cs, ∀ y : Found, ¬ y.IsOf search c := by
  constructor
  · intro h c hc y hy
    have hsome : (best search pos none cs).isSome = true := best_isSome (.inr ⟨c, hc, y, hy⟩)
    rw [h] at hsome
    contradiction
  · intro h
    refine Option.eq_none_iff_forall_not_mem.mpr fun x hx => ?_
    have hfirst : x.IsFirst search cs := best_isFirst (fun c hc y hy => absurd hy (h c hc y)) hx
    obtain ⟨before, c, after, rfl, hc, -, -⟩ := hfirst
    exact h c (by simp) x hc

/-- The candidates that find something. -/
def hits (search : α → Option Captures) (cs : List (Candidate × α)) : List (Candidate × α) :=
  cs.filter fun c => (search c.2).isSome

/-- Candidates that find nothing may be left out. -/
theorem best_hits : ∀ {cs : List (Candidate × α)} {found : Option Found},
    best search pos found (hits search cs) = best search pos found cs
  | [], _ => rfl
  | c :: cs, found => by
    by_cases hc : (search c.2).isSome = true
    · have hcons : hits search (c :: cs) = c :: hits search cs := List.filter_cons_of_pos hc
      rw [hcons]
      cases hm : (search c.2).bind (Found.ofCaptures c.1) with
      | none => rw [best_cons_of_none hm, best_cons_of_none hm, best_hits]
      | some new => rw [best_cons_of_some hm, best_cons_of_some hm, best_hits]
    · have hcons : hits search (c :: cs) = hits search cs := List.filter_cons_of_neg hc
      have hnone : (search c.2).bind (Found.ofCaptures c.1) = none := by
        rw [Option.not_isSome_iff_eq_none.mp hc]
        rfl
      rw [hcons, best_cons_of_none hnone, best_hits]

theorem best_congr {ds : List (Candidate × α)} (h : hits search cs = hits search ds) :
    best search pos none cs = best search pos none ds := by
  rw [← best_hits, h, best_hits]

end

/-! ### Searches that come to the end of their bound -/

namespace Regex

/-- A search is aborted at a position that it tries, after others that it passed over or found nothing at. -/
inductive Aborts (p : Program) (start : Nat) (limit : Option Nat) : List Char → Cursor → Nat → Prop
  | here {after : List Char} {c : Cursor} {skip : Nat} (hskip : skip ≤ c.offset)
      (h : matchAt p start c ⟨limit.isSome, limit.getD 0, skip⟩ = .aborted) :
      Aborts p start limit after c skip
  | passed {d : Char} {ds : List Char} {c : Cursor} {skip : Nat} (hskip : c.offset < skip)
      (h : Aborts p start limit ds ⟨d :: c.before, c.offset + d.utf8Size, ds⟩ skip) :
      Aborts p start limit (d :: ds) c skip
  | failed {d : Char} {ds : List Char} {c : Cursor} {skip : Nat} {e : Effort} (hskip : skip ≤ c.offset)
      (hm : matchAt p start c ⟨limit.isSome, limit.getD 0, skip⟩ = .failed e ∨
        matchAt p start c ⟨limit.isSome, limit.getD 0, skip⟩ = .gaveUp e)
      (h : Aborts p start limit ds ⟨d :: c.before, c.offset + d.utf8Size, ds⟩ e.skip) :
      Aborts p start limit (d :: ds) c skip

/-- A search that is aborted finds nothing, also not further on. -/
theorem searchFrom_of_aborts {p : Program} {start : Nat} {limit : Option Nat} {after : List Char}
    {c : Cursor} {skip : Nat} (h : Aborts p start limit after c skip) :
    searchFrom p start limit after c skip = none := by
  induction h with
  | here hskip h =>
    unfold searchFrom
    simp only [Nat.not_lt.mpr hskip, if_false, h]
  | passed hskip h ih =>
    unfold searchFrom
    simp only [hskip, if_true]
    exact ih
  | failed hskip hm h ih =>
    unfold searchFrom
    rcases hm with hm | hm
    all_goals
      simp only [Nat.not_lt.mpr hskip, if_false, hm]
      exact ih

end Regex

/-! ### The candidates of a rule -/

theorem Options.search_isOf {o : Options} {a : Anchors} {c : Cursor} {p : Pattern} {captures : Captures}
    (candidate : Candidate) (h : o.search p a c = some captures) :
    ∃ x : Found, x.IsOf (fun p => o.search p a c) (candidate, p) := by
  obtain ⟨start, stop, hspan, -⟩ := Options.search_span h
  exact ⟨⟨candidate, start, stop, captures⟩, rfl, h, hspan⟩

namespace Grammar

variable {g : Grammar} {search : Pattern → Option Captures}

theorem hits_ordered (closing : Option Pattern) (endLast : Bool) (entries : List Entry) :
    hits search (g.ordered closing endLast entries) =
      g.ordered (closing.filter fun p => (search p).isSome) endLast
        (entries.filter fun e => (search (g.pattern e.2)).isSome) := by
  have hstop : hits search (closing.toList.map fun p => (Candidate.stop, p)) =
      (closing.filter fun p => (search p).isSome).toList.map fun p => (Candidate.stop, p) := by
    cases closing with
    | none => rfl
    | some p =>
      by_cases hp : (search p).isSome = true
      · have hkept : (some p).filter (fun p => (search p).isSome) = some p := Option.filter_some_pos hp
        rw [hkept]
        exact List.filter_cons_of_pos hp
      · have hgone : (some p).filter (fun p => (search p).isSome) = none :=
          Option.filter_some_neg (Bool.eq_false_iff.mpr hp)
        rw [hgone]
        exact List.filter_cons_of_neg hp
  unfold ordered
  simp only
  split
  · rw [hits, List.filter_append, ← hits, ← hits, hstop, hits, List.filter_map]
    rfl
  · rw [hits, List.filter_append, ← hits, ← hits, hstop, hits, List.filter_map]
    rfl

/-- What is left of some candidates has the same hits if only such were taken away as find nothing. -/
theorem hits_ordered_filter {closing : Option Pattern} {endLast : Bool} {entries : List Entry}
    {keepClosing : Pattern → Bool} {keepEntry : Entry → Bool}
    (hclosing : ∀ p ∈ closing, keepClosing p = false → search p = none)
    (hentries : ∀ e ∈ entries, keepEntry e = false → search (g.pattern e.2) = none) :
    hits search (g.ordered (closing.filter keepClosing) endLast (entries.filter keepEntry)) =
      hits search (g.ordered closing endLast entries) := by
  have kept : ∀ {keep : Bool} {found : Option Captures}, (keep = false → found = none) →
      (found.isSome && keep) = found.isSome := by
    intro keep found h
    cases keep with
    | true => exact Bool.and_true _
    | false => rw [h rfl]; rfl
  have hstop : (closing.filter keepClosing).filter (fun p => (search p).isSome) =
      closing.filter fun p => (search p).isSome := by
    cases closing with
    | none => rfl
    | some p =>
      rw [Option.filter_filter]
      simp only [Option.filter, Bool.and_comm (keepClosing p), kept (hclosing p rfl)]
  have hchildren : (entries.filter keepEntry).filter (fun e => (search (g.pattern e.2)).isSome) =
      entries.filter fun e => (search (g.pattern e.2)).isSome := by
    rw [List.filter_filter]
    exact List.filter_congr fun e he => kept (hentries e he)
  rw [hits_ordered, hits_ordered, hstop, hchildren]

/-- **The best match among the candidates of a rule**, where no search reports what begins before its offset.
Nothing is found only if no candidate finds anything. Otherwise it is the match of a candidate that begins
first, the end of a span having its place before or after all others, with the span and the captures of that
candidate. To take away candidates that find nothing makes no difference, and one whose search is aborted
finds nothing. -/
theorem best_ordered (g : Grammar) (o : Options) (a : Anchors) (c : Cursor) (closing : Option Pattern)
    (endLast : Bool) (entries : List Entry)
    (hstart : ∀ e ∈ g.ordered closing endLast entries, ∀ x : Found,
      x.IsOf (fun p => o.search p a c) e → c.offset ≤ x.start) :
    let search : Pattern → Option Captures := fun p => o.search p a c
    let find := fun closing entries => best search c.offset none (g.ordered closing endLast entries)
    (find closing entries = none ↔ ∀ e ∈ g.ordered closing endLast entries, search e.2 = none) ∧
    (∀ x : Found, find closing entries = some x ↔ x.IsFirst search (g.ordered closing endLast entries)) ∧
    (∀ (keepClosing : Pattern → Bool) (keepEntry : Entry → Bool),
      (∀ p ∈ closing, keepClosing p = false → search p = none) →
      (∀ e ∈ entries, keepEntry e = false → search (g.pattern e.2) = none) →
        find (closing.filter keepClosing) (entries.filter keepEntry) = find closing entries) ∧
    ∀ p program, p.program a = some program →
      Regex.Aborts program c.offset (o.retryLimit.filter (· ≠ 0)) c.after c 0 → search p = none := by
  intro search find
  have hnone : find closing entries = none ↔ ∀ e ∈ g.ordered closing endLast entries, search e.2 = none := by
    refine best_eq_none_iff.trans (forall₂_congr fun e _ => ?_)
    constructor
    · intro h
      refine Option.eq_none_iff_forall_not_mem.mpr fun captures hcaptures => ?_
      obtain ⟨x, hx⟩ := Options.search_isOf e.1 hcaptures
      exact h x hx
    · intro h x hx
      have hsome : search e.2 = some x.captures := hx.captures
      rw [h] at hsome
      contradiction
  refine ⟨hnone, fun x => ⟨best_isFirst hstart, fun hx => ?_⟩, fun keepClosing keepEntry hclosing hentries =>
    best_congr (hits_ordered_filter hclosing hentries), fun p program hp haborts => ?_⟩
  · cases hfind : find closing entries with
    | none =>
      obtain ⟨before, e, after, heq, he, -, -⟩ := hx
      have hsome : search e.2 = some x.captures := he.captures
      rw [hnone.mp hfind e (heq ▸ by simp)] at hsome
      contradiction
    | some y => rw [(best_isFirst hstart hfind).unique hx]
  · show (p.program a).bind _ = none
    rw [hp]
    exact Regex.searchFrom_of_aborts haborts

end Grammar

/-- A pattern that tries many ways to match some text before it gives up, and one for the same text that does
not. -/
def Source.slowText : Source.GrammarSource where
  scopeName := "source.slow"
  patterns := [
    { name := some "slow.slow", matchPattern := some "(?:a|aa)+$|a" },
    { name := some "fast.slow", matchPattern := some "a+" }]

/-- With a bound on the work the second pattern is found although the first one comes before it, and the first
one may as well be absent. -/
theorem best_ordered_slowText : ∃ g, Grammar.ofSource Source.slowText = .ok g ∧
    let search : Pattern → Option Captures := fun p =>
      ({ retryLimit := some 20 } : Options).search p ⟨true, false⟩ ⟨['b'], 1, "aaaaaab\n".toList⟩
    let closing := some (Pattern.ofText "b")
    (∀ e ∈ g.ordered closing true (g.candidates 0), ∀ x : Found, x.IsOf search e → 1 ≤ x.start) ∧
    search (g.pattern 0) = none ∧
    (⟨.rule 2, 1, 7, [some (1, 7)]⟩ : Found).IsFirst search (g.ordered closing true (g.candidates 0)) ∧
    best search 1 none (g.ordered closing true ((g.candidates 0).filter fun e => e.2 != 0)) =
      some ⟨.rule 2, 1, 7, [some (1, 7)]⟩ := by
  have run : (Grammar.ofSource Source.slowText).toOption.any (fun g =>
      let search : Pattern → Option Captures := fun p =>
        ({ retryLimit := some 20 } : Options).search p ⟨true, false⟩ ⟨['b'], 1, "aaaaaab\n".toList⟩
      let candidates := g.ordered (some (Pattern.ofText "b")) true (g.candidates 0)
      decide (∀ e ∈ candidates, ∀ x ∈ (search e.2).bind (Found.ofCaptures e.1), 1 ≤ x.start) &&
        decide (search (g.pattern 0) = none ∧
          best search 1 none candidates = some ⟨.rule 2, 1, 7, [some (1, 7)]⟩)) = true := by
    decide +kernel
  obtain ⟨g, hg, h⟩ := exists_ok_of_any run
  obtain ⟨hstart, h⟩ := Bool.and_eq_true_iff.mp h
  obtain ⟨hidle, hbest⟩ := of_decide_eq_true h
  refine ⟨g, hg, ?_⟩
  intro search closing
  have hstart : ∀ e ∈ g.ordered closing true (g.candidates 0), ∀ x : Found, x.IsOf search e → 1 ≤ x.start :=
    fun e he x hx => of_decide_eq_true hstart e he x (Found.isOf_iff.mp hx)
  obtain ⟨-, hfirst, hfilter, -⟩ := Grammar.best_ordered g { retryLimit := some 20 } ⟨true, false⟩
    ⟨['b'], 1, "aaaaaab\n".toList⟩ closing true (g.candidates 0) hstart
  refine ⟨hstart, hidle, (hfirst _).mp hbest, ?_⟩
  refine (hfilter (fun _ => true) (fun e => e.2 != 0) nofun fun e _ he => ?_).trans hbest
  have hfirst : e.2 = 0 := by simpa using he
  rw [hfirst]
  exact hidle

end ScopeLexer
