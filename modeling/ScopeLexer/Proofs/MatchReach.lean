/-
# How far the groups of a match reach

A group within a lookahead may end behind the match. The sweep leaves out those that begin behind it, and gives
all others their scopes up to where they end. So the tokens of a match reach as far as the last end of a group
with scopes that the sweep comes to, and a group that begins where the match ends, or within it, may carry them
beyond the match. What is beyond it is covered then, and has no tokens of the matches that come there.

The tokens of a scan end where the scan stands as long as no match reaches beyond its end, and only so long.

Key definitions: `Sweep.scopedEnd?`, `Sweep.EndsBy`, `Scanner.StaysBack`, `Scanner.Reaches`.
Key theorems: `Sweep.run_last`, `Scanner.sweep_staysBack`, `Scanner.GoesOn.last_eq_iff`,
`Scanner.reaches_staysBack`, `Grammar.matches_stayBack`.
-/
import ScopeLexer.Proofs.ContentScopes
import ScopeLexer.Proofs.Flattening
import ScopeLexer.Proofs.PastGroups
import ScopeLexer.Proofs.ScanEnds
import ScopeLexer.Proofs.Tiling

namespace ScopeLexer

open Regex (Captures)
open Text (Boundary width)

/-! ### Boundaries -/

/-- What stands before a boundary can be taken. -/
theorem Text.Boundary.exists_takeBytes? {cs : List Char} {n : Nat} (h : Boundary cs n) :
    ∃ text, Text.takeBytes? cs n = some text ∧ width text = n := by
  obtain ⟨text, rest, rfl, hwidth⟩ := h
  exact ⟨text, by rw [← hwidth, Text.takeBytes?_append], hwidth⟩

theorem Text.boundary_iff {cs : List Char} {n : Nat} :
    Boundary cs n ↔ (Text.takeBytes? cs n).isSome = true := by
  constructor
  · intro h
    obtain ⟨text, htake, -⟩ := h.exists_takeBytes?
    rw [htake]
    rfl
  · intro h
    obtain ⟨text, htake⟩ := Option.isSome_iff_exists.mp h
    obtain ⟨rest, hline, hwidth⟩ := Text.boundary_of_takeBytes? htake
    exact ⟨text, rest, hline, hwidth⟩

instance (cs : List Char) (n : Nat) : Decidable (Boundary cs n) := decidable_of_iff _ Text.boundary_iff.symm

theorem inText_iff {text : List Char} {captures : Captures} : InText text captures ↔
    ∀ group ∈ captures, ∀ span ∈ group, Boundary text span.1 ∧ Boundary text span.2 :=
  ⟨fun h _ hgroup span hspan => h span.1 span.2 (Option.mem_def.mp hspan ▸ hgroup),
    fun h start stop hmem => h _ hmem (start, stop) rfl⟩

instance (text : List Char) (captures : Captures) : Decidable (InText text captures) :=
  decidable_of_iff _ inText_iff.symm

/-! ### Where tokens end -/

theorem Abut.le_of_stops {n : Nat} : ∀ {start stop : Nat} {ts : List Token}, Abut start ts stop → start ≤ n →
    (∀ t ∈ ts, t.stop ≤ n) → stop ≤ n
  | _, _, [], h, hstart, _ => Nat.le_trans (Nat.le_of_eq (Eq.symm h)) hstart
  | _, _, t :: _, ⟨_, _, h⟩, _, hstops =>
    h.le_of_stops (hstops t List.mem_cons_self) fun t' ht' => hstops t' (List.mem_cons_of_mem _ ht')

namespace Tokens

theorem produce_last_le {ts : Tokens} {stop n : Nat} {scopes : List Scope} :
    (ts.produce stop scopes).last ≤ n ↔ ts.last ≤ n ∧ stop ≤ n := by
  rw [last_produce, Nat.max_le]

theorem foldl_last_le {n : Nat} : ∀ {new : List Token} {ts : Tokens},
    (new.foldl (fun ts t => ts.produce t.stop t.scopes) ts).last ≤ n ↔
      ts.last ≤ n ∧ ∀ t ∈ new, t.stop ≤ n
  | [], _ => by simp
  | t :: new, ts => by
    rw [List.foldl_cons, foldl_last_le, produce_last_le, List.forall_mem_cons, and_assoc]

end Tokens

section

variable {n pos : Nat}

theorem closeAll_last_le : ∀ (groups : OpenGroups) (ts : Tokens),
    (closeAll groups ts).last ≤ n ↔ ts.last ≤ n ∧ ∀ e ∈ groups, e.2 ≤ n
  | [], _ => by simp [closeAll]
  | e :: groups, ts => by
    have h := closeAll_last_le groups (ts.produce e.2 e.1)
    rw [Tokens.produce_last_le, and_assoc] at h
    rw [List.forall_mem_cons]
    exact h

/-- The groups that end before an offset reach no further. -/
theorem closeUpTo_last_le (hpos : pos ≤ n) : ∀ (groups : OpenGroups) (ts : Tokens),
    ((closeUpTo pos groups ts).1.last ≤ n ↔ ts.last ≤ n) ∧
      ((∀ e ∈ (closeUpTo pos groups ts).2, e.2 ≤ n) ↔ ∀ e ∈ groups, e.2 ≤ n)
  | [], _ => ⟨Iff.rfl, Iff.rfl⟩
  | (scopes, stop) :: groups, ts => by
    unfold closeUpTo
    split
    · rename_i hstop
      obtain ⟨hlast, hgroups⟩ := closeUpTo_last_le hpos groups (ts.produce stop scopes)
      have hle : stop ≤ n := Nat.le_trans hstop hpos
      constructor
      · rw [hlast, Tokens.produce_last_le, and_iff_left hle]
      · rw [hgroups, List.forall_mem_cons, and_iff_right hle]
    · exact ⟨Iff.rfl, Iff.rfl⟩

end

/-! ### Sweeps -/

variable {σ : Type}

/-- Tokenizing a text again covers it. -/
def CoversAgain (g : Grammar) (again : Option (Again (StateM σ))) : Prop :=
  ∀ a ∈ again, ∀ stack text pos firstLine, stack.InLayers g →
    Always (a stack text pos firstLine) fun ts =>
      Tokens.Grows (Good g text) ⟨[], pos⟩ ts ∧ width text ≤ ts.last

theorem CoversAgain.grows {g : Grammar} {again : Option (Again (StateM σ))} (h : CoversAgain g again) :
    GrowsAgain g again :=
  fun a ha stack text pos firstLine hl => (h a ha stack text pos firstLine hl).mono fun _ hts => hts.1

theorem Scanner.coversAgain {sc : Scanner (StateM σ)} (hs : sc.FindsInText) (hroot : sc.grammar.HasRoot)
    (levels : Nat) : CoversAgain sc.grammar (sc.againAt levels) := by
  cases levels with
  | zero => nofun
  | succ levels =>
    rintro a ⟨⟩ stack text pos firstLine hl
    exact .bind (sc.scan_grows hs hroot levels hl) fun r h => .pure h

namespace Sweep

section

variable {m : Type → Type} (w : Sweep m)

/-- Where the tokens of a group with scopes end: it is not empty, and its rule has a name, or its text is
tokenized again. -/
def scopedEnd? : GroupEntry → Option Nat
  | (some id, some (start, stop)) =>
    let rule := w.grammar.rule id
    if start = stop then none
    else if (w.again.isSome && rule.hasItems) || !(rule.nameScopes w.line w.captures).isEmpty then some stop
    else none
  | _ => none

/-- The groups with scopes that a sweep comes to end at an offset or before it. -/
def EndsBy (entries : List GroupEntry) (n : Nat) : Prop :=
  ∀ e ∈ w.reached entries, ∀ stop, w.scopedEnd? e = some stop → stop ≤ n

variable {w} {e : GroupEntry} {rest : List GroupEntry} {n stop : Nat}

theorem endsBy_of_endsWith (h : w.endsWith e = true) : w.EndsBy (e :: rest) n := by
  rw [EndsBy, reached_cons_end h]
  nofun

theorem endsBy_cons (h : w.endsWith e = false) :
    w.EndsBy (e :: rest) n ↔ (∀ stop, w.scopedEnd? e = some stop → stop ≤ n) ∧ w.EndsBy rest n := by
  rw [EndsBy, reached_cons h, List.forall_mem_cons]
  rfl

/-! ### Visits -/

theorem start_le_of_endsWith {id : RuleId} {start : Nat}
    (h : w.endsWith (some id, some (start, stop)) = false) : start ≤ w.matchEnd :=
  Nat.le_of_not_lt (of_decide_eq_false h)

variable {id : RuleId} {start : Nat} {groups : OpenGroups} {ts : Tokens}

theorem begun_last_le (hstart : start ≤ n) : (w.begun start groups ts).last ≤ n ↔ ts.last ≤ n := by
  rw [begun, Tokens.produce_last_le, (closeUpTo_last_le hstart groups ts).1, and_iff_left hstart]

theorem le_begun_last : start ≤ (w.begun start groups ts).last := by
  rw [begun, Tokens.last_produce]
  exact Nat.le_max_right _ _

theorem opened_last_le (hstart : start ≤ n) : (∀ g ∈ w.opened id start stop groups ts, g.2 ≤ n) ↔
    (∀ g ∈ groups, g.2 ≤ n) ∧
      (((w.grammar.rule id).nameScopes w.line w.captures).isEmpty = false → stop ≤ n) := by
  have hclosed := (closeUpTo_last_le hstart groups ts).2
  unfold opened
  simp only
  cases Rule.nameScopes (w.grammar.rule id) w.line w.captures with
  | nil => simpa using hclosed
  | cons scope scopes => simpa [and_comm] using fun _ => hclosed

end

variable {w : Sweep (StateM σ)} {n : Nat}

/-- The tokens of a group that is tokenized again reach to its end. -/
theorem group_last (n : Nat) (hl : w.stack.InLayers w.grammar) (hc : CoversAgain w.grammar w.again)
    {again : Again (StateM σ)} (ha : w.again = some again) {id : RuleId} {start stop : Nat} {ts : Tokens}
    (hstop : Boundary w.line stop) (hstart : start ≤ ts.last) :
    Always (w.group again id start stop ts) fun us => us.last ≤ n ↔ ts.last ≤ n ∧ stop ≤ n := by
  obtain ⟨text, htake, hwidth⟩ := hstop.exists_takeBytes?
  unfold group
  simp only [htake, Option.getD_some]
  refine .bind (hc again ha _ text start _
    (hl.push (List.prefix_append _ _) (List.prefix_append _ _))) ?_
  rintro inner ⟨grows, hcovers⟩
  refine .pure ?_
  obtain ⟨new, hdone, abut, hnew⟩ := grows.exists_new
  rw [hwidth] at hcovers
  have hnewDone : inner.done.reverse = new := by simp [hdone]
  have hwithin : ∀ t ∈ new, t.stop ≤ stop := fun t ht => hwidth ▸ (hnew t ht).boundary.le_width
  rw [hnewDone, Tokens.foldl_last_le]
  constructor
  · rintro ⟨hlast, hstops⟩
    exact ⟨hlast, Nat.le_trans hcovers (abut.le_of_stops (Nat.le_trans hstart hlast) hstops)⟩
  · rintro ⟨hlast, hle⟩
    exact ⟨hlast, fun t ht => Nat.le_trans (hwithin t ht) hle⟩

/-- How far the tokens reach after a visit, with the groups that are open then. -/
theorem visit_last (hl : w.stack.InLayers w.grammar) (hc : CoversAgain w.grammar w.again) (hn : w.matchEnd ≤ n)
    {e : GroupEntry} (hends : w.endsWith e = false)
    (hin : ∀ id start stop, e = (id, some (start, stop)) → Boundary w.line stop) (groups : OpenGroups)
    (ts : Tokens) :
    Always (w.visit e groups ts) fun r => (r.1.last ≤ n ∧ ∀ g ∈ r.2, g.2 ≤ n) ↔
      ts.last ≤ n ∧ (∀ g ∈ groups, g.2 ≤ n) ∧ ∀ stop, w.scopedEnd? e = some stop → stop ≤ n := by
  have hvisits := w.visits_visit e groups ts
  generalize w.visit e groups ts = visit at hvisits
  cases hvisits with
  | passed hempty =>
    have hnone : w.scopedEnd? e = none := by
      obtain ⟨_ | id, _ | ⟨start, stop⟩⟩ := e
      · rfl
      · rfl
      · rfl
      · exact if_pos (hempty id start stop rfl)
    rw [hnone]
    exact .pure (and_congr_right fun _ => (and_iff_left nofun).symm)
  | @scanned id start stop again hne hagain hitems =>
    have hstart : start ≤ n := Nat.le_trans (start_le_of_endsWith hends) hn
    have hsome : w.scopedEnd? (some id, some (start, stop)) = some stop := by
      simp [scopedEnd?, hne, hagain, hitems]
    refine .bind (group_last n hl hc hagain (hin _ _ _ rfl) le_begun_last) fun us hus => .pure ?_
    rw [hus, begun_last_le hstart, (closeUpTo_last_le hstart groups ts).2, hsome, and_assoc]
    refine and_congr_right fun _ => and_comm.trans (and_congr_right fun _ => ?_)
    simp
  | @opened id start stop hne hplain =>
    have hstart : start ≤ n := Nat.le_trans (start_le_of_endsWith hends) hn
    refine .pure ?_
    rw [begun_last_le hstart, opened_last_le hstart]
    refine and_congr_right fun _ => and_congr_right fun _ => ?_
    cases hnames : (Rule.nameScopes (w.grammar.rule id) w.line w.captures).isEmpty <;>
      simp [scopedEnd?, hne, hplain, hnames]

/-- **A sweep reaches as far as the last end of a group with scopes that it comes to.** Behind the match this is
told from any offset on. -/
theorem run_last (hl : w.stack.InLayers w.grammar) (hc : CoversAgain w.grammar w.again)
    (hn : w.matchEnd ≤ n) : ∀ {entries : List GroupEntry} {groups : OpenGroups} {ts : Tokens},
      (∀ id start stop, (id, some (start, stop)) ∈ entries → Boundary w.line stop) →
        Always (w.run entries groups ts) fun us =>
          us.last ≤ n ↔ ts.last ≤ n ∧ (∀ g ∈ groups, g.2 ≤ n) ∧ w.EndsBy entries n := by
  intro entries
  induction entries with
  | nil =>
    intro groups ts _
    refine .pure ?_
    rw [closeAll_last_le]
    exact and_congr_right fun _ => (and_iff_left nofun).symm
  | cons e rest ih =>
    intro groups ts hin
    rw [run_cons]
    cases hends : w.endsWith e with
    | true =>
      refine .pure ?_
      rw [closeAll_last_le, and_iff_left (endsBy_of_endsWith hends)]
    | false =>
      have hfirst : ∀ id start stop, e = (id, some (start, stop)) → Boundary w.line stop :=
        fun id start stop h => hin id start stop (h ▸ List.mem_cons_self)
      have hrest : ∀ id start stop, (id, some (start, stop)) ∈ rest → Boundary w.line stop :=
        fun id start stop h => hin id start stop (List.mem_cons_of_mem _ h)
      refine .bind (visit_last hl hc hn hends hfirst groups ts) fun r hr => (ih hrest).mono fun us hus => ?_
      calc us.last ≤ n ↔ (r.1.last ≤ n ∧ ∀ g ∈ r.2, g.2 ≤ n) ∧ w.EndsBy rest n := by rw [hus, and_assoc]
        _ ↔ ts.last ≤ n ∧ (∀ g ∈ groups, g.2 ≤ n) ∧ w.EndsBy (e :: rest) n := by
          rw [hr, endsBy_cons hends, and_assoc, and_assoc]

end Sweep

/-! ### Matches -/

/-- The entries of rules are of rules that have a pattern to be found by. -/
def Means.KnowsEntries (w : Means (StateM σ)) (g : Grammar) : Prop :=
  ∀ id, Always (w.entries id) fun es => ∀ e ∈ es, (Rule.entry? (g.rule e.1)).isSome = true

namespace Scanner

/-- What comes next in a scan is a match with its groups, of a rule that is found by a pattern or of the end of
a span. -/
structure FindsMatches (sc : Scanner (StateM σ)) : Prop where
  inText : sc.FindsInText
  next : ∀ line s, Always (sc.next line s) fun found => ∀ x ∈ found,
    x.captures.head? = some (some (x.start, x.stop)) ∧ (sc.rulesFor? s x).isSome = true

theorem entry_of_mem_ordered {g : Grammar} {closing : Option Pattern} {endLast : Bool}
    {entries : List Entry} {id : RuleId} {p : Pattern}
    (h : (Candidate.rule id, p) ∈ g.ordered closing endLast entries) : ∃ e ∈ entries, e.1 = id := by
  have : (Candidate.rule id, p) ∈ entries.map fun e => (Candidate.rule e.1, g.pattern e.2) := by
    unfold Grammar.ordered at h
    simp only at h
    split at h <;> simpa using h
  obtain ⟨e, he, heq⟩ := List.mem_map.mp this
  exact ⟨e, he, Candidate.rule.inj (Prod.mk.inj heq).1⟩

theorem matchRules?_isSome {g : Grammar} {id : RuleId} (h : (Rule.entry? (g.rule id)).isSome = true) :
    ((g.rule id).matchRules?).isSome = true := by
  cases hr : g.rule id with
  | group r => simp [hr, Rule.entry?] at h
  | noop => simp [hr, Rule.entry?] at h
  | _ => rfl

end Scanner

theorem Means.scanner_findsMatches {w : Means (StateM σ)} {g : Grammar} (hw : w.search.StaysInText)
    (hk : w.KnowsEntries g) (maxStalled : Nat) : (w.scanner g maxStalled).FindsMatches where
  inText := w.scanner_findsInText hw g maxStalled
  next := by
    intro line s
    unfold Scanner.next
    split
    · refine .bind' fun closing => .bind (hk _) fun entries hentries => .pure fun x hx => ?_
      rcases best_matched hx with hx | ⟨e, he, captures, -, hx⟩
      · contradiction
      · unfold Found.ofCaptures at hx
        split at hx
        · obtain rfl := Option.some.inj hx
          refine ⟨rfl, ?_⟩
          obtain ⟨_ | id, p⟩ := e
          · rfl
          · obtain ⟨entry, hentry, rfl⟩ := Scanner.entry_of_mem_ordered he
            exact Scanner.matchRules?_isSome (hentries entry hentry)
        · contradiction
    · exact .pure nofun

namespace Scanner

variable {sc : Scanner (StateM σ)} {again : Option (Again (StateM σ))} {line : List Char} {s : ScanState}
  {x : Found} {n : Nat}

theorem around_inLayers (hl : s.stack.InLayers sc.grammar) : (sc.around line s x).InLayers sc.grammar := by
  unfold around
  split
  · exact hl.strip
  · exact hl.push (List.prefix_append _ _) List.prefix_rfl

/-- How far the tokens of the groups of a match reach. -/
theorem sweep_last {stack : Stack} (hl : stack.InLayers sc.grammar) (hc : CoversAgain sc.grammar again)
    {captures : Captures} (hin : InText line captures) (firstLine : Bool) (rules : CaptureRules) {ts : Tokens}
    (hn : (sc.sweepOver again stack line firstLine captures).matchEnd ≤ n) :
    Always (sc.sweep again stack line firstLine rules captures ts) fun us => us.last ≤ n ↔
      ts.last ≤ n ∧
        (sc.sweepOver again stack line firstLine captures).EndsBy (rules.zip captures) n := by
  have hentries : ∀ id start stop, (id, some (start, stop)) ∈ rules.zip captures → Boundary line stop :=
    fun id start stop h => (hin start stop (List.of_mem_zip h).2).2
  rw [sweep_eq_run]
  refine (Sweep.run_last hl hc hn hentries).mono fun us hus => ?_
  exact hus.trans (and_congr_right fun _ => and_iff_right nofun)

/-- **The groups of a match stay within it** exactly if the ones with scopes that the sweep comes to end
there. -/
theorem sweep_staysBack {stack : Stack} (hl : stack.InLayers sc.grammar) (hc : CoversAgain sc.grammar again)
    {captures : Captures} (hin : InText line captures) (firstLine : Bool) (rules : CaptureRules) {ts : Tokens}
    (hts : ts.last ≤ (sc.sweepOver again stack line firstLine captures).matchEnd) :
    let w := sc.sweepOver again stack line firstLine captures
    Always (sc.sweep again stack line firstLine rules captures ts) fun us =>
      ∃ new, us.done = new.reverse ++ ts.done ∧ Abut ts.last new us.last ∧
        ((∀ t ∈ new, t.stop ≤ w.matchEnd) ↔ w.EndsBy (rules.zip captures) w.matchEnd) := by
  intro w
  have hgrows : Always (sc.sweep again stack line firstLine rules captures ts)
      (ts.Grows (Good sc.grammar line)) := sweep_grows hc.grows hl hin
  refine (hgrows.and (sweep_last hl hc hin firstLine rules (Nat.le_refl _))).mono fun us h => ?_
  obtain ⟨new, hdone, abut, -⟩ := h.1.exists_new
  refine ⟨new, hdone, abut, ?_⟩
  rw [← (h.2.trans (and_iff_right hts))]
  exact ⟨fun hstops => abut.le_of_stops hts hstops, fun hle t ht => Nat.le_trans (abut.stop_le t ht) hle⟩

/-- The match of a scan does not carry its tokens beyond where the scan goes on. -/
def StaysBack (sc : Scanner (StateM σ)) (again : Option (Again (StateM σ))) (line : List Char) (s : ScanState)
    (x : Found) : Prop :=
  let n := max s.pos x.stop
  x.start ≤ n ∧ ∀ rules, sc.rulesFor? s x = some rules →
    (sc.sweepOver again (sc.around line s x) line s.firstLine x.captures).EndsBy (rules.zip x.captures) n

theorem matched_grows (hl : s.stack.InLayers sc.grammar) (ha : GrowsAgain sc.grammar again)
    (hx : x.In line) : Always (sc.matched again line s x) (s.tokens.Grows (Good sc.grammar line)) := by
  have haround : (sc.around line s x).InLayers sc.grammar := around_inLayers hl
  have begun : s.tokens.Grows (Good sc.grammar line)
      (s.tokens.produce x.start s.stack.top.contentScopes) := .single ⟨hx.start, hl.top_scope⟩
  unfold matched
  simp only
  split
  · exact .bind (sweep_grows ha haround hx.captures) fun ts hts =>
      .pure ((begun.trans hts).produce ⟨hx.stop, haround.top_scope⟩)
  · exact .pure begun

/-- How far the tokens of a match reach. -/
theorem matched_last (hl : s.stack.InLayers sc.grammar) (hc : CoversAgain sc.grammar again)
    (hx : x.In line) (hwhole : x.captures.head? = some (some (x.start, x.stop))) {rules : CaptureRules}
    (hrules : sc.rulesFor? s x = some rules) (hn : x.stop ≤ n) :
    Always (sc.matched again line s x) fun us => x.stop ≤ us.last ∧
      (us.last ≤ n ↔ s.tokens.last ≤ n ∧ x.start ≤ n ∧
        (sc.sweepOver again (sc.around line s x) line s.firstLine x.captures).EndsBy
          (rules.zip x.captures) n) := by
  unfold matched
  simp only [hrules]
  have hend : (sc.sweepOver again (sc.around line s x) line s.firstLine x.captures).matchEnd ≤ n := by
    rwa [matchEnd_sweepOver hwhole]
  refine .bind (sweep_last (around_inLayers hl) hc hx.captures s.firstLine rules hend) ?_
  refine fun us hus => .pure ⟨?_, ?_⟩
  · rw [Tokens.last_produce]
    exact Nat.le_max_right _ _
  · rw [Tokens.produce_last_le, and_iff_left hn, hus, Tokens.produce_last_le, and_assoc]

/-- **Where a scan stands with its tokens, it does so after a match** exactly if the match stays back. -/
theorem GoesOn.last_eq_iff (hs : sc.FindsMatches) (hc : CoversAgain sc.grammar again)
    {a b : ScanState × σ} (hl : a.1.stack.InLayers sc.grammar) (hlast : a.1.tokens.last = a.1.pos)
    (h : sc.GoesOn again line x a b) :
    b.1.tokens.last = b.1.pos ↔ sc.StaysBack again line a.1 x := by
  obtain ⟨hx, -⟩ := h.found_in hs.inText
  obtain ⟨state, hnext⟩ := exists_next_of_found h.found
  obtain ⟨hwhole, hsome⟩ := hs.next line a.1 state x hnext
  obtain ⟨rules, hrules⟩ := Option.isSome_iff_exists.mp hsome
  obtain ⟨state, hsettle⟩ := h.settled
  obtain ⟨htokens, -⟩ := settle_goOn hsettle
  have hpos := settle_pos hsettle
  obtain ⟨hcovers, hreach⟩ := matched_last hl hc hx hwhole hrules (Nat.le_max_right a.1.pos x.stop) state
  have hgrows := (matched_grows hl hc.grows hx state).le
  rw [← htokens] at hcovers hreach hgrows
  calc b.1.tokens.last = b.1.pos ↔ b.1.tokens.last ≤ max a.1.pos x.stop := by omega
    _ ↔ _ := hreach
    _ ↔ sc.StaysBack again line a.1 x := by
      rw [and_iff_right (hlast ▸ Nat.le_max_left _ _), StaysBack, hrules]
      exact and_congr_right fun _ => ⟨by rintro h _ ⟨⟩; exact h, fun h => h rules rfl⟩

/-- The tokens of a step cover what it passes, from where those before it end. -/
theorem GoesOn.exists_new (hs : sc.FindsInText) (ha : GrowsAgain sc.grammar again) {a b : ScanState × σ}
    (hl : a.1.stack.InLayers sc.grammar) (h : sc.GoesOn again line x a b) :
    ∃ new, b.1.tokens.done = new.reverse ++ a.1.tokens.done ∧ Abut a.1.tokens.last new b.1.tokens.last := by
  obtain ⟨hx, -⟩ := h.found_in hs
  obtain ⟨state, hsettle⟩ := h.settled
  obtain ⟨new, hdone, abut, -⟩ := (matched_grows hl ha hx state).exists_new
  rw [← (settle_goOn hsettle).1] at hdone abut
  exact ⟨new, hdone, abut⟩

theorem GoesOn.inLayers {a b : ScanState × σ} (hl : a.1.stack.InLayers sc.grammar)
    (h : sc.GoesOn again line x a b) : b.1.stack.InLayers sc.grammar := by
  have hmove : a.1.stack.Move sc.grammar line (sc.step again line (width line) a.1 a.2).1.stack :=
    step_moves a.2
  rw [h.step] at hmove
  exact hl.move hmove

/-! ### Scans -/

/-- A scan comes from one state to another by its matches. -/
def Reaches (sc : Scanner (StateM σ)) (again : Option (Again (StateM σ))) (line : List Char) :
    ScanState × σ → ScanState × σ → Prop :=
  Relation.ReflTransGen fun a b => ∃ x, sc.GoesOn again line x a b

/-- The matches by which spans continue do not carry the tokens beyond where the next one begins. -/
def ContinuesBack (sc : Scanner (StateM σ)) (again : Option (Again (StateM σ))) (line : List Char)
    (stack : Stack) : Prop :=
  ∀ inner ∈ prefixes stack.frames, ∀ rule, sc.grammar.rule inner.top.rule = .beginWhile rule →
    ∀ k, Always (sc.continuing line inner.top k) fun found => ∀ x ∈ found,
      (sc.sweepOver again inner line k.firstLine x.captures).EndsBy
        (rule.closingCaptures.zip x.captures) (max k.pos x.stop)

theorem Reaches.inLayers {a b : ScanState × σ} (hl : a.1.stack.InLayers sc.grammar)
    (h : sc.Reaches again line a b) : b.1.stack.InLayers sc.grammar := by
  induction h with
  | refl => exact hl
  | tail _ h ih =>
    obtain ⟨x, h⟩ := h
    exact h.inLayers ih

theorem continuing_match (hs : sc.FindsInText) (f : Frame) (k : Continued) :
    Always (sc.continuing line f k) fun found => ∀ x ∈ found,
      x.In line ∧ x.start = k.pos ∧ x.captures.head? = some (some (x.start, x.stop)) := by
  unfold continuing
  split
  · rename_i c hc
    obtain ⟨hin, -⟩ := Regex.Cursor.at?_in hc
    refine .bind (hs.continues f c _ line hin) fun captures hcaptures => .pure fun x hx => ?_
    obtain ⟨hx, hstart⟩ := Option.filter_eq_some_iff.mp hx
    obtain ⟨captures', hmem, hx⟩ := Option.bind_eq_some_iff.mp hx
    refine ⟨(Found.ofCaptures_in (hcaptures captures' hmem) hx).1, by simpa using hstart, ?_⟩
    unfold Found.ofCaptures at hx
    split at hx
    · obtain rfl := Option.some.inj hx
      rfl
    · contradiction
  · exact .pure nofun

theorem Continued.upTo_pos (k : Continued) (ts : Tokens) (stop : Nat) :
    (k.upTo ts stop).pos = max k.pos stop := by
  unfold Continued.upTo
  simp only
  split
  · exact (Nat.max_eq_right (Nat.le_of_lt ‹_›)).symm
  · exact (Nat.max_eq_left (Nat.le_of_not_lt ‹_›)).symm

theorem continueSpans_last (hs : sc.FindsInText) (hc : CoversAgain sc.grammar again) {stack : Stack}
    (hl : stack.InLayers sc.grammar) (hback : sc.ContinuesBack again line stack) :
    ∀ {inners : List Stack} {k : Continued}, (∀ inner ∈ inners, inner ∈ prefixes stack.frames) →
      k.tokens.last = k.pos →
        Always (sc.continueSpans again line inners k) fun k' => k'.tokens.last = k'.pos
  | [], k, _, hlast => .pure hlast
  | inner :: rest, k, hmem, hlast => by
    have hinner : inner.InLayers sc.grammar :=
      hl.of_suffix (frames_suffix_of_mem_prefixes (hmem inner List.mem_cons_self))
    have hrest : ∀ inner ∈ rest, inner ∈ prefixes stack.frames :=
      fun i h => hmem i (List.mem_cons_of_mem _ h)
    unfold continueSpans
    split
    · rename_i rule hrule
      have hstays := hback inner (hmem inner List.mem_cons_self) rule hrule k
      refine .bind ((continuing_match hs inner.top k).and hstays) fun found hfound => ?_
      split
      · rename_i x
        obtain ⟨hx, hstart, hwhole⟩ := hfound.1 x rfl
        have hby := hfound.2 x rfl
        have hbegun : (k.tokens.produce k.pos inner.top.contentScopes).last = k.pos := by
          rw [Tokens.last_produce, hlast, Nat.max_self]
        have hend : (sc.sweepOver again inner line k.firstLine x.captures).matchEnd ≤ max k.pos x.stop := by
          rw [matchEnd_sweepOver hwhole]
          exact Nat.le_max_right _ _
        refine .bind ((sweep_grows hc.grows hinner hx.captures).and
          (sweep_last hinner hc hx.captures k.firstLine rule.closingCaptures hend)) fun us hus => ?_
        refine continueSpans_last hs hc hl hback hrest ?_
        have hle : us.last ≤ max k.pos x.stop := hus.2.mpr ⟨by omega, hby⟩
        have hge := hus.1.le
        rw [Continued.upTo_tokens, Continued.upTo_pos, Tokens.last_produce]
        omega
      · exact .pure hlast
    · exact continueSpans_last hs hc hl hback hrest hlast

/-- **The tokens of a scan end where it stands, wherever it comes to**, exactly if all its matches stay back. -/
theorem reaches_staysBack (hs : sc.FindsMatches) (hc : CoversAgain sc.grammar again) {a : ScanState × σ}
    (hl : a.1.stack.InLayers sc.grammar) (hlast : a.1.tokens.last = a.1.pos) :
    (∀ b, sc.Reaches again line a b → b.1.tokens.last = b.1.pos) ↔
      ∀ b c x, sc.Reaches again line a b → sc.GoesOn again line x b c → sc.StaysBack again line b.1 x := by
  constructor
  · intro h b c x hb hgo
    exact (hgo.last_eq_iff hs hc (hb.inLayers hl) (h b hb)).mp (h c (hb.tail ⟨x, hgo⟩))
  · intro h b hb
    induction hb with
    | refl => exact hlast
    | @tail b c hb hgo ih =>
      obtain ⟨x, hgo⟩ := hgo
      exact (hgo.last_eq_iff hs hc (Reaches.inLayers hl hb) ih).mpr (h b c x hb hgo)

/-- Where a scan begins, its tokens end. -/
theorem enter_last (hs : sc.FindsInText) (hc : CoversAgain sc.grammar again) {stack : Stack}
    (hl : stack.InLayers sc.grammar) (pos : Nat) (firstLine : Bool) {continuing : Bool}
    (hback : continuing = true → sc.ContinuesBack again line stack) :
    Always (sc.enter again stack line pos firstLine continuing) fun k =>
      k.tokens.last = k.pos ∧ k.stack.InLayers sc.grammar := by
  cases continuing with
  | false => exact .pure ⟨rfl, hl⟩
  | true =>
    refine .and ?_ (resume_suffix.mono fun k hk => hl.of_suffix hk)
    exact continueSpans_last hs hc hl (hback rfl) (fun _ h => h) rfl

end Scanner

/-- **Groups that reach beyond their match.** With a compiled grammar, the tokens of the groups of a match stay
within it exactly if all groups with scopes that the sweep comes to end there. In a scan, at any level and from
any state, the tokens of each step go on from where those before it end; and they end where the scan stands,
wherever it comes to, exactly if none of its matches carries them further. -/
theorem Grammar.matches_stayBack {source : Source.GrammarSource} {g : Grammar}
    (hg : Grammar.ofSource source = .ok g) {w : Means (StateM σ)} (hw : w.search.StaysInText)
    (hk : w.KnowsEntries g) (maxStalled levels : Nat) {stack : Stack} (hl : stack.InLayers g)
    (line : List Char) :
    let sc := w.scanner g maxStalled
    let again := sc.againAt levels
    (∀ captures, InText line captures → ∀ firstLine rules ts,
      let v := sc.sweepOver again stack line firstLine captures
      ts.last ≤ v.matchEnd →
        Always (sc.sweep again stack line firstLine rules captures ts) fun us =>
          ∃ new, us.done = new.reverse ++ ts.done ∧ Abut ts.last new us.last ∧
            ((∀ t ∈ new, t.stop ≤ v.matchEnd) ↔ v.EndsBy (rules.zip captures) v.matchEnd)) ∧
    ∀ pos firstLine continuing state, (continuing = true → sc.ContinuesBack again line stack) →
      let k := sc.enter again stack line pos firstLine continuing state
      let start := (k.1.start, k.2)
      (∀ b c x, sc.Reaches again line start b → sc.GoesOn again line x b c →
        ∃ new, c.1.tokens.done = new.reverse ++ b.1.tokens.done ∧
          Abut b.1.tokens.last new c.1.tokens.last) ∧
      ((∀ b, sc.Reaches again line start b → b.1.tokens.last = b.1.pos) ↔
        ∀ b c x, sc.Reaches again line start b → sc.GoesOn again line x b c →
          sc.StaysBack again line b.1 x) := by
  intro sc again
  have hs : sc.FindsMatches := Means.scanner_findsMatches hw hk maxStalled
  have hc : CoversAgain sc.grammar again := Scanner.coversAgain hs.inText (shape_of_ofSource hg).root levels
  refine ⟨fun captures hin firstLine rules ts hts => Scanner.sweep_staysBack hl hc hin firstLine rules hts,
    fun pos firstLine continuing state hback => ?_⟩
  intro k start
  obtain ⟨hlast, hlayers⟩ := Scanner.enter_last hs.inText hc hl pos firstLine hback state
  exact ⟨fun b d x hb hgo => hgo.exists_new hs.inText hc.grows (Scanner.Reaches.inLayers hlayers hb),
    Scanner.reaches_staysBack hs hc hlayers hlast⟩

/-! ### An example -/

/-- A letter with a look at the next one, and that letter. -/
def Source.peekText : Source.GrammarSource where
  scopeName := "source.peek"
  patterns := [
    { name := some "word.peek", matchPattern := some "a(?=(b))"
      captures := [(1, { name := some "next.peek" })] },
    { name := some "own.peek", matchPattern := some "b" }]

/-- Means that work everything out, beside a state. -/
def Means.workedOut (σ : Type) (g : Grammar) (o : Options) : Means (StateM σ) where
  search := o.search
  timeIsOver := pure o.timeIsOver
  entries id := pure (g.candidates id)
  made text := pure (Pattern.ofText text)

theorem Means.workedOut_knowsEntries (σ : Type) (g : Grammar) (o : Options) :
    (Means.workedOut σ g o).KnowsEntries g :=
  fun _ => .pure fun _ he => Option.isSome_of_eq_some (Grammar.mem_candidates_iff.mp he).2

/-- The letter that is looked at has the scopes of the look. -/
theorem matches_stayBack_peekText : ∃ g, Grammar.ofSource Source.peekText = .ok g ∧
    let sc := (Means.workedOut Unit g {}).scanner g 64
    let line := ['a', 'b', '\n']
    let captures : Captures := [some (0, 1), some (1, 2)]
    (Means.workedOut Unit g {}).search.StaysInText ∧ (Means.workedOut Unit g {}).KnowsEntries g ∧
    (Stack.root g).InLayers g ∧ InText line captures ∧
    (∃ new : List Token,
      (sc.sweep (sc.againAt 32) (.root g) line true [none, some 2] captures ⟨[], 0⟩ ()).1.done = new.reverse ∧
      ¬ ∀ t ∈ new, t.stop ≤ 1) ∧
    ((∀ b, sc.Reaches (sc.againAt 32) line (⟨⟨[], 0⟩, .root g, 0, none, true, 0⟩, ()) b →
        b.1.tokens.last = b.1.pos) ↔
      ∀ b c x, sc.Reaches (sc.againAt 32) line (⟨⟨[], 0⟩, .root g, 0, none, true, 0⟩, ()) b →
        sc.GoesOn (sc.againAt 32) line x b c → sc.StaysBack (sc.againAt 32) line b.1 x) := by
  have run : (Grammar.ofSource Source.peekText).toOption.any (fun g =>
      !((g.rule 2).nameScopes ['a', 'b', '\n'] [some (0, 1), some (1, 2)]).isEmpty) = true := by
    decide +kernel
  obtain ⟨g, hg, hname⟩ := exists_ok_of_any run
  have hsearch : (Means.workedOut Unit g {}).search.StaysInText := Options.search_staysInText {}
  have hknows := Means.workedOut_knowsEntries Unit g {}
  have hroot : (Stack.root g).InLayers g := Layered.root g _
  have hin : InText ['a', 'b', '\n'] [some (0, 1), some (1, 2)] := by decide
  obtain ⟨hsweep, hscan⟩ := Grammar.matches_stayBack hg hsearch hknows 64 32 hroot ['a', 'b', '\n']
  obtain ⟨new, hdone, -, hiff⟩ := hsweep _ hin true [none, some 2] ⟨[], 0⟩ (Nat.zero_le _) ()
  refine ⟨g, hg, hsearch, hknows, hroot, hin, ⟨new, hdone.trans (List.append_nil _), ?_⟩,
    (hscan 0 true false () nofun).2⟩
  -- The group that is looked at has a name, and ends behind the match.
  intro hstops
  have hby := hiff.mp hstops (some 2, some (1, 2)) (List.mem_cons_of_mem _ List.mem_cons_self) 2 ?_
  · exact absurd hby (show ¬ 2 ≤ 1 by decide)
  · show (if 1 = 2 then none
      else if _ || !(Rule.nameScopes (g.rule 2) ['a', 'b', '\n'] [some (0, 1), some (1, 2)]).isEmpty then some 2
      else none) = some 2
    rw [if_neg (by decide), if_pos (by rw [hname, Bool.or_true])]

/-- Tokens may end further on than where a scan stands. -/
theorem not_matches_stayBack : ¬ ∀ (source : Source.GrammarSource) (g : Grammar),
    Grammar.ofSource source = .ok g → ∀ (line : List Char) (b : ScanState × Memory),
      let sc := (Memory.means g {}).scanner g 64
      let again := sc.againAt Scanner.maxLevels
      let k := sc.enter again (.root g) line 0 true true {}
      sc.Reaches again line (k.1.start, k.2) b → b.1.tokens.last = b.1.pos := by
  intro stayBack
  have run : (Grammar.ofSource Source.peekText).toOption.any (fun g =>
      let sc := (Memory.means g {}).scanner g 64
      let again := sc.againAt Scanner.maxLevels
      let line := ['a', 'b', '\n']
      let k := sc.enter again (.root g) line 0 true true {}
      (sc.found? line k.1.start k.2).1.isSome &&
        (sc.step again line (width line) k.1.start k.2).1.next?.any
          fun b => decide (b.tokens.last ≠ b.pos)) = true := by
    decide +kernel
  obtain ⟨g, hg, h⟩ := exists_ok_of_any run
  obtain ⟨hfound, hstep⟩ := Bool.and_eq_true_iff.mp h
  obtain ⟨x, hx⟩ := Option.isSome_iff_exists.mp hfound
  obtain ⟨b, hb, hbeyond⟩ := (Option.any_eq_true _ _).mp hstep
  exact of_decide_eq_true hbeyond
    (stayBack _ g hg ['a', 'b', '\n'] _ (.single ⟨x, Scanner.GoesOn.of_next? hx hb⟩))

end ScopeLexer
