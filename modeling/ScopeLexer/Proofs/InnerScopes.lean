/-
# Scopes of groups that are tokenized again

The text of a group whose rule has patterns is scanned within a frame of its own, which is pushed onto the frame
of the match. A scan only pushes frames whose scopes go on from those of the frame below, and it never ends that
frame, whose rule is no span. So all that it produces has the scopes of the frame of the match and then those of
the name of the group. The names of the groups around it, which a group without patterns would have, are not
among them.

Two kinds of tokens have less. Where the scan gives up after a match that stays where it is, the last token has
the scopes of the frame of the match alone; and once the time is over there is only the scope of the grammar.

Key definitions: `Stack.Over`, `Extends`, `AgainExtends`, `Tokens.Parted`.
Key theorems: `Scanner.step_over`, `Scanner.scan_over`, `Sweep.run_extends`, `Grammar.inner_scopes`.
-/
import ScopeLexer.Proofs.MatchReach

namespace ScopeLexer

open Regex (Captures)
open Text (Boundary width)

/-! ### Stacks over the frame of a group -/

/-- A stack that has grown from the frame of a group over an outer stack, each frame with scopes that go on from
some first ones. -/
inductive Stack.Over (g : Grammar) (base : List Scope) (outer : Stack) : Stack → Prop
  | group {f : Frame} (hr : (g.rule f.rule).isGroup = true) (hc : base <+: f.contentScopes) :
      Over g base outer (outer.push f)
  | push {s : Stack} {f : Frame} (h : Over g base outer s) (hn : base <+: f.nameScopes)
      (hc : base <+: f.contentScopes) : Over g base outer (s.push f)

namespace Stack.Over

variable {g : Grammar} {base : List Scope} {outer s : Stack}

theorem top_content (h : Stack.Over g base outer s) : base <+: s.top.contentScopes := by
  cases h with
  | group _ hc => exact hc
  | push _ _ hc => exact hc

/-- What is left of such a stack is one, or it is the outer stack. -/
theorem pop (h : Stack.Over g base outer s) : s.pop = outer ∨ Stack.Over g base outer s.pop := by
  cases h with
  | group => exact .inl rfl
  | push h => exact .inr h

/-- The frame of a span is not the first one. -/
theorem of_span (h : Stack.Over g base outer s) (hspan : ∃ r, g.rule s.top.rule = .beginEnd r) :
    base <+: s.top.nameScopes ∧ ∃ t, s.pop? = some t ∧ Stack.Over g base outer t := by
  cases h with
  | @group f hr =>
    obtain ⟨r, hspan⟩ := hspan
    rw [show g.rule f.rule = .beginEnd r from hspan] at hr
    contradiction
  | @push s f h hn hc => exact ⟨hn, s, rfl, h⟩

end Stack.Over

/-! ### Scopes that go on from others -/

/-- Scopes go on from some first ones, or the time may be over and they are only that of the grammar. -/
def Extends (g : Grammar) (late : Prop) (base scopes : List Scope) : Prop :=
  base <+: scopes ∨ (scopes = [g.scope] ∧ late)

theorem prefix_scopesWithin {base outer : List Scope} {groups : OpenGroups} (hg : ∀ e ∈ groups, base <+: e.1)
    (ho : base <+: outer) : base <+: scopesWithin groups outer := by
  cases groups with
  | nil => exact ho
  | cons e groups => exact hg e List.mem_cons_self

variable {σ : Type}

/-- Where the text of a group is tokenized again within a frame that is pushed for it, the scopes go on from
those which the frames have in common. -/
def AgainExtends (g : Grammar) (late : Prop) (again : Option (Again (StateM σ))) : Prop :=
  ∀ a ∈ again, ∀ (base : List Scope) (outer : Stack) (f : Frame) text pos firstLine,
    (g.rule f.rule).isGroup = true → base <+: outer.top.contentScopes → base <+: f.contentScopes →
      Always (a (outer.push f) text pos firstLine)
        (Tokens.Grows (fun _ scopes => Extends g late base scopes) ⟨[], pos⟩)

theorem isGroup_of_hasItems {r : Rule} (h : r.hasItems = true) : r.isGroup = true := by
  cases r with
  | group r => rfl
  | _ => contradiction

namespace Sweep

variable {w : Sweep (StateM σ)} {late : Prop} {base : List Scope} {start : Nat} {groups : OpenGroups}
  {ts : Tokens}

theorem prefix_scopesAt (hb : base <+: w.stack.top.contentScopes) (hg : ∀ g ∈ groups, base <+: g.1) :
    base <+: w.scopesAt start groups ts :=
  prefix_scopesWithin (fun g h => hg g (closeUpTo_sub h)) hb

theorem begun_grows {Q : Nat → List Scope → Prop} (hg : ∀ g ∈ groups, Q g.2 g.1)
    (hq : Q start (w.scopesAt start groups ts)) : ts.Grows Q (w.begun start groups ts) :=
  (closeUpTo_grows start ts hg).1.produce hq

theorem forall_opened {P : List Scope × Nat → Prop} {id : RuleId} {stop : Nat} (hg : ∀ g ∈ groups, P g)
    (hnew : P (w.scopesAt start groups ts ++ (w.grammar.rule id).nameScopes w.line w.captures, stop)) :
    ∀ g ∈ w.opened id start stop groups ts, P g := by
  have hleft : ∀ g ∈ (closeUpTo start groups ts).2, P g := fun g h => hg g (closeUpTo_sub h)
  unfold opened
  simp only
  split
  · exact hleft
  · exact List.forall_mem_cons.mpr ⟨hnew, hleft⟩

/-- What is produced at a group goes on from the scopes of the frame. -/
theorem visit_extends (hb : base <+: w.stack.top.contentScopes) (ha : AgainExtends w.grammar late w.again)
    (e : GroupEntry) (hg : ∀ g ∈ groups, base <+: g.1) :
    Always (w.visit e groups ts) fun r =>
      ts.Grows (fun _ scopes => Extends w.grammar late base scopes) r.1 ∧ ∀ g ∈ r.2, base <+: g.1 := by
  have hvisits := w.visits_visit e groups ts
  generalize w.visit e groups ts = visit at hvisits
  have begun : ∀ start, ts.Grows (fun _ scopes => Extends w.grammar late base scopes)
      (w.begun start groups ts) := fun start =>
    begun_grows (fun g h => .inl (hg g h)) (.inl (prefix_scopesAt hb hg))
  cases hvisits with
  | passed => exact .pure ⟨.refl, hg⟩
  | @scanned id start stop again hne hagain hitems =>
    have hnames : base <+: w.stack.top.contentScopes ++ (w.grammar.rule id).nameScopes w.line w.captures ++
        (w.grammar.rule id).contentScopes w.line w.captures :=
      hb.trans ((List.prefix_append _ _).trans (List.prefix_append _ _))
    have hgroup : Always (w.group again id start stop (w.begun start groups ts))
        ((w.begun start groups ts).Grows fun _ scopes => Extends w.grammar late base scopes) := by
      unfold group
      refine .bind (ha again hagain base w.stack _ _ start _ (isGroup_of_hasItems hitems) hb hnames) ?_
      intro inner hinner
      exact .pure (.foldl fun t ht => (hinner.of_mem t (List.mem_reverse.mp ht)).resolve_left List.not_mem_nil)
    exact .bind hgroup fun us hus => .pure ⟨(begun start).trans hus, fun g h => hg g (closeUpTo_sub h)⟩
  | @opened id start stop =>
    have hnew : base <+: w.scopesAt start groups ts ++ (w.grammar.rule id).nameScopes w.line w.captures :=
      (prefix_scopesAt hb hg).trans (List.prefix_append _ _)
    exact .pure ⟨begun start, forall_opened hg hnew⟩

/-- **What the groups of a match produce goes on from the scopes of the frame.** -/
theorem run_extends (hb : base <+: w.stack.top.contentScopes) (ha : AgainExtends w.grammar late w.again) :
    ∀ {entries : List GroupEntry} {groups : OpenGroups} {ts : Tokens}, (∀ g ∈ groups, base <+: g.1) →
      Always (w.run entries groups ts) (ts.Grows fun _ scopes => Extends w.grammar late base scopes) := by
  intro entries
  induction entries with
  | nil => exact fun hg => .pure (closeAll_grows fun g h => .inl (hg g h))
  | cons e rest ih =>
    intro groups ts hg
    rw [run_cons]
    split
    · exact .pure (closeAll_grows fun g h => .inl (hg g h))
    · exact .bind (visit_extends hb ha e hg) fun r hr => (ih hr.2).mono fun us hus => hr.1.trans hus

end Sweep

/-! ### Scans over the frame of a group -/

/-- What a scan over the frame of a group may produce in a text of so many bytes: the scopes go on from some
first ones, or the scan has given up the frame, and what is left has the scopes outside. -/
def FromGroup (g : Grammar) (late : Prop) (base : List Scope) (outer : Stack) (length stop : Nat)
    (scopes : List Scope) : Prop :=
  Extends g late base scopes ∨ (stop = length ∧ scopes = outer.top.contentScopes)

/-- What a step over the frame of a group comes to. -/
def StepResult.FromGroup (g : Grammar) (late : Prop) (base : List Scope) (outer : Stack) (length : Nat)
    (ts : Tokens) : StepResult → Prop
  | .goOn s => ts.Grows (ScopeLexer.FromGroup g late base outer length) s.tokens ∧
      Stack.Over g base outer s.stack
  | .stop us _ => ts.Grows (ScopeLexer.FromGroup g late base outer length) us

namespace Scanner

/-- The clock may say that the time is over. -/
def MayBeLate (sc : Scanner (StateM σ)) : Prop := ∃ state, (sc.finder.timeIsOver state).1 = true

variable {sc : Scanner (StateM σ)} {again : Option (Again (StateM σ))} {line : List Char} {s : ScanState}
  {x : Found} {late : Prop} {base : List Scope} {outer : Stack} {ts us : Tokens} {length : Nat}

theorem around_prefix (h : Stack.Over sc.grammar base outer s.stack)
    (hspan : x.candidate = .stop → ∃ r, sc.grammar.rule s.stack.top.rule = .beginEnd r) :
    base <+: (sc.around line s x).top.contentScopes := by
  unfold around
  split
  · rename_i hstop
    exact (h.of_span (hspan hstop)).1
  · exact h.top_content.trans (List.prefix_append _ _)

theorem matched_extends (ha : AgainExtends sc.grammar late again) (h : Stack.Over sc.grammar base outer s.stack)
    (hspan : x.candidate = .stop → ∃ r, sc.grammar.rule s.stack.top.rule = .beginEnd r) :
    Always (sc.matched again line s x)
      (s.tokens.Grows fun _ scopes => Extends sc.grammar late base scopes) := by
  have haround : base <+: (sc.around line s x).top.contentScopes := around_prefix h hspan
  have begun : s.tokens.Grows (fun _ scopes => Extends sc.grammar late base scopes)
      (s.tokens.produce x.start s.stack.top.contentScopes) := .single (.inl h.top_content)
  unfold matched
  simp only
  split
  · rw [sweep_eq_run]
    exact .bind (Sweep.run_extends haround ha nofun) fun ts hts =>
      .pure ((begun.trans hts).produce (.inl haround))
  · exact .pure begun

theorem stop_fromGroup {g : Grammar} {stack : Stack} {scopes : List Scope}
    (h : ts.Grows (FromGroup g late base outer length) us)
    (hscopes : FromGroup g late base outer length length scopes) :
    (StepResult.stop (us.produce length scopes) stack).FromGroup g late base outer length ts :=
  h.produce hscopes

theorem advance_fromGroup {stop : Nat} (h : Stack.Over sc.grammar base outer s.stack)
    (hts : ts.Grows (FromGroup sc.grammar late base outer length) s.tokens) :
    (sc.advance length s stop).FromGroup sc.grammar late base outer length ts := by
  unfold advance
  split
  · exact ⟨hts, h⟩
  · split
    · exact stop_fromGroup hts (.inl (.inl h.top_content))
    · exact ⟨hts, h⟩

/-- Where a scan goes on after a match, it still stands over the frame of the group. -/
theorem settle_fromGroup (h : Stack.Over sc.grammar base outer s.stack)
    (hspan : x.candidate = .stop → ∃ r, sc.grammar.rule s.stack.top.rule = .beginEnd r)
    (hus : ts.Grows (FromGroup sc.grammar late base outer (width line)) us) :
    (sc.settle line s x us).FromGroup sc.grammar late base outer (width line) ts := by
  unfold settle
  split
  · rename_i hstop
    obtain ⟨hname, t, hpop, ht⟩ := h.of_span (hspan hstop)
    have hbare : (s.stack.withContent s.stack.top.nameScopes).pop? = some t := hpop
    unfold settleEnd
    simp only [hbare]
    split
    · exact stop_fromGroup hus (.inl (.inl hname))
    · exact advance_fromGroup (s := { s with tokens := us, stack := t, anchor := s.stack.top.anchor }) ht hus
  · split
    · unfold settleBegin
      simp only
      split
      · exact stop_fromGroup hus (.inl (.inl h.top_content))
      · refine advance_fromGroup (s := { s with tokens := us, stack := s.stack.push _, anchor := some x.stop })
          (h.push ?_ ?_) hus
        · exact h.top_content.trans (List.prefix_append _ _)
        · exact h.top_content.trans ((List.prefix_append _ _).trans (List.prefix_append _ _))
    · unfold settleMatch
      split
      · refine stop_fromGroup hus ?_
        rcases h.pop with hout | hover
        · exact .inr ⟨rfl, by rw [hout]⟩
        · exact .inl (.inl hover.top_content)
      · exact advance_fromGroup (s := { s with tokens := us }) h hus

/-- **A step over the frame of a group** produces scopes that go on from those of the frame, and leaves the frame
where it is, or it is the last one. -/
theorem step_over (hs : sc.FindsInText) (ha : AgainExtends sc.grammar sc.MayBeLate again)
    (h : Stack.Over sc.grammar base outer s.stack) :
    Always (sc.step again line (width line) s)
      (StepResult.FromGroup sc.grammar sc.MayBeLate base outer (width line) s.tokens) := by
  refine (step_stepped s).mono fun result hresult => ?_
  cases hresult with
  | late state hlate => exact stop_fromGroup .refl (.inl (.inr ⟨rfl, state, hlate⟩))
  | unmatched => exact stop_fromGroup .refl (.inl (.inl h.top_content))
  | @taken state state' x hx =>
    have hspan := (next_in hs s state x hx).2
    exact settle_fromGroup h hspan ((matched_extends ha h hspan state').mono fun _ _ => .inl)

theorem steps_over (hs : sc.FindsInText) (ha : AgainExtends sc.grammar sc.MayBeLate again) (fuel : Nat) :
    ∀ {s : ScanState}, Stack.Over sc.grammar base outer s.stack →
      Always (sc.steps again line (width line) fuel s) fun r =>
        s.tokens.Grows (FromGroup sc.grammar sc.MayBeLate base outer (width line)) r.1 := by
  induction fuel with
  | zero => exact fun h => .pure (.single (.inl (.inl h.top_content)))
  | succ fuel ih =>
    intro s h
    unfold steps
    refine .bind (step_over hs ha h) fun r hr => ?_
    cases r with
    | stop ts stack => exact .pure hr
    | goOn t => exact (ih hr.2).mono fun r ht => hr.1.trans ht

/-- **A scan over the frame of a group.** -/
theorem scan_over (hs : sc.FindsInText) {levels : Nat}
    (ha : AgainExtends sc.grammar sc.MayBeLate (sc.againAt levels)) {f : Frame}
    (hr : (sc.grammar.rule f.rule).isGroup = true) (hc : base <+: f.contentScopes) (pos : Nat)
    (firstLine : Bool) :
    Always (sc.scan levels (outer.push f) line pos firstLine false) fun r =>
      Tokens.Grows (FromGroup sc.grammar sc.MayBeLate base outer (width line)) ⟨[], pos⟩ r.1 := by
  rw [scan_eq]
  exact steps_over hs ha _ (.group hr hc)

theorem again_fromGroup (hs : sc.FindsInText) {levels : Nat}
    (ha : AgainExtends sc.grammar sc.MayBeLate (sc.againAt levels)) {a : Again (StateM σ)}
    (hagain : sc.againAt (levels + 1) = some a) {f : Frame}
    (hr : (sc.grammar.rule f.rule).isGroup = true) (hc : base <+: f.contentScopes) (text : List Char)
    (pos : Nat) (firstLine : Bool) :
    Always (a (outer.push f) text pos firstLine)
      (Tokens.Grows (FromGroup sc.grammar sc.MayBeLate base outer (width text)) ⟨[], pos⟩) := by
  cases hagain
  exact .bind (scan_over hs ha hr hc pos firstLine) fun r h => .pure h

/-- At every level the texts of groups are tokenized again like this. -/
theorem againExtends (hs : sc.FindsInText) (levels : Nat) :
    AgainExtends sc.grammar sc.MayBeLate (sc.againAt levels) := by
  induction levels with
  | zero => nofun
  | succ levels ih =>
    intro a hagain base outer f text pos firstLine hr ho hc
    refine (again_fromGroup hs ih hagain hr hc text pos firstLine).mono fun r h => ?_
    refine h.mono fun stop scopes hscopes => ?_
    rcases hscopes with hscopes | ⟨-, rfl⟩
    · exact hscopes
    · exact .inl ho

end Scanner

/-! ### Groups -/

/-- Tokens have been produced in three parts, of which the middle one lies between two offsets. -/
def Tokens.Parted (P : Token → Prop) (start stop : Nat) (ts us : Tokens) : Prop :=
  ∃ early middle later, us.done = (early ++ (middle ++ later)).reverse ++ ts.done ∧
    Abut ts.last early start ∧ Abut start middle stop ∧ Abut stop later us.last ∧ ∀ t ∈ middle, P t

theorem Tokens.Grows.parted {Q : Nat → List Scope → Prop} {P : Token → Prop} {start stop : Nat}
    {ts us vs : Tokens} (h : ts.Grows Q us) (hp : us.Parted P start stop vs) : ts.Parted P start stop vs := by
  obtain ⟨new, hdone, abut, -⟩ := h.exists_new
  obtain ⟨early, middle, later, hdone', abut', rest⟩ := hp
  refine ⟨new ++ early, middle, later, ?_, abut_append.mpr ⟨us.last, abut, abut'⟩, rest⟩
  rw [hdone', hdone]
  simp

namespace Sweep

section

variable {m : Type → Type} {w : Sweep m} {n : Nat} {e : GroupEntry}

/-- A group that begins at an offset or before it, and whose text, if it is tokenized again, ends there. -/
def Before (w : Sweep m) (n : Nat) (e : GroupEntry) : Prop :=
  ∀ id start stop, e = (some id, some (start, stop)) →
    start ≤ n ∧ ((w.grammar.rule id).hasItems = true → stop ≤ n)

theorem Before.endsWith (h : w.Before n e) (hn : n ≤ w.matchEnd) : w.endsWith e = false := by
  obtain ⟨_ | id, _ | ⟨start, stop⟩⟩ := e
  · rfl
  · rfl
  · rfl
  · have hstart := (h id start stop rfl).1
    exact decide_eq_false (Nat.not_lt_of_le (Nat.le_trans hstart hn))

end

variable {w : Sweep (StateM σ)} {n : Nat}

/-- The tokens do not pass an offset at a group before it. -/
theorem visit_before (hl : w.stack.InLayers w.grammar) (hc : CoversAgain w.grammar w.again) {e : GroupEntry}
    (he : w.Before n e) (hin : ∀ id start stop, e = (id, some (start, stop)) →
      Boundary w.line start ∧ Boundary w.line stop) {groups : OpenGroups} {ts : Tokens}
    (hg : ∀ g ∈ groups, Good w.grammar w.line g.2 g.1) (hts : ts.last ≤ n) :
    Always (w.visit e groups ts) fun r => ts.Grows (Good w.grammar w.line) r.1 ∧ r.1.last ≤ n ∧
      ∀ g ∈ r.2, Good w.grammar w.line g.2 g.1 := by
  have hleft : ∀ {start : Nat}, ∀ g ∈ (closeUpTo start groups ts).2, Good w.grammar w.line g.2 g.1 :=
    fun g h => hg g (closeUpTo_sub h)
  have hscopes : ∀ {start : Nat}, (w.scopesAt start groups ts).head? = some w.grammar.scope :=
    scopesWithin_head (fun g h => (hleft g h).scope) hl.top_scope
  have hvisits := w.visits_visit e groups ts
  generalize w.visit e groups ts = visit at hvisits
  cases hvisits with
  | passed => exact .pure ⟨.refl, hts, hg⟩
  | @scanned id start stop again hne hagain hitems =>
    obtain ⟨hstart, hstop⟩ := he id start stop rfl
    obtain ⟨hfrom, hto⟩ := hin _ start stop rfl
    have begun := begun_grows hg (Good.mk hfrom hscopes)
    refine .bind ((group_grows ⟨hl, hc.grows⟩ hagain id start stop).and
      (group_last n hl hc hagain hto le_begun_last)) ?_
    rintro us ⟨hus, hlast⟩
    exact .pure ⟨begun.trans hus, hlast.mpr ⟨(begun_last_le hstart).mpr hts, hstop hitems⟩, hleft⟩
  | @opened id start stop =>
    obtain ⟨hstart, -⟩ := he id start stop rfl
    obtain ⟨hfrom, hto⟩ := hin _ start stop rfl
    have hnew : Good w.grammar w.line stop
        (w.scopesAt start groups ts ++ (w.grammar.rule id).nameScopes w.line w.captures) :=
      ⟨hto, Layered.head?_of_prefix (List.prefix_append _ _) hscopes⟩
    exact .pure ⟨begun_grows hg (Good.mk hfrom hscopes), (begun_last_le hstart).mpr hts,
      forall_opened hg hnew⟩

end Sweep

namespace Scanner

variable {sc : Scanner (StateM σ)} {stack : Stack} {line : List Char} {firstLine : Bool}
  {captures : Captures} {levels : Nat} {a : Again (StateM σ)} {id : RuleId} {start stop : Nat} {ts : Tokens}

theorem group_fromGroup (hs : sc.FindsInText) (hagain : sc.againAt (levels + 1) = some a)
    (hitems : (sc.grammar.rule id).hasItems = true) (hstop : Boundary line stop) :
    let w := sc.sweepOver (some a) stack line firstLine captures
    Always (w.group a id start stop ts) (ts.Grows (FromGroup sc.grammar sc.MayBeLate
      (stack.top.contentScopes ++ (sc.grammar.rule id).nameScopes line captures) stack stop)) := by
  intro w
  obtain ⟨text, htake, hwidth⟩ := hstop.exists_takeBytes?
  unfold Sweep.group
  simp only [show w.line = line from rfl, htake, Option.getD_some]
  refine .bind (again_fromGroup hs (againExtends hs levels) hagain (isGroup_of_hasItems hitems)
    (List.prefix_append _ _) text start _) ?_
  intro inner h
  rw [hwidth] at h
  exact .pure (.foldl fun t ht => (h.of_mem t (List.mem_reverse.mp ht)).resolve_left List.not_mem_nil)

/-- The text of a group that is tokenized again is covered with such scopes. -/
theorem group_inner (hs : sc.FindsInText) (hroot : sc.grammar.HasRoot) (hl : stack.InLayers sc.grammar)
    (hagain : sc.againAt (levels + 1) = some a) (hitems : (sc.grammar.rule id).hasItems = true)
    (hstop : Boundary line stop) (hlast : ts.last = start) (hlt : start < stop) :
    let w := sc.sweepOver (some a) stack line firstLine captures
    Always (w.group a id start stop ts) fun us => us.last = stop ∧
      ∃ new, us.done = new.reverse ++ ts.done ∧ Abut start new stop ∧ ∀ t ∈ new,
        FromGroup sc.grammar sc.MayBeLate
          (stack.top.contentScopes ++ (sc.grammar.rule id).nameScopes line captures) stack stop t.stop
          t.scopes := by
  intro w
  have hc : CoversAgain sc.grammar (some a) := hagain ▸ coversAgain hs hroot (levels + 1)
  have reach : ∀ n, Always (w.group a id start stop ts) fun us => us.last ≤ n ↔ ts.last ≤ n ∧ stop ≤ n :=
    fun n => Sweep.group_last n hl hc rfl hstop (Nat.le_of_eq hlast.symm)
  refine ((group_fromGroup hs hagain hitems hstop).and ((reach stop).and (reach (stop - 1)))).mono ?_
  rintro us ⟨grows, hle, hgt⟩
  obtain ⟨new, hdone, abut, hnew⟩ := grows.exists_new
  have hend : us.last = stop := by omega
  exact ⟨hend, new, hdone, hlast ▸ hend ▸ abut, hnew⟩

/-- **The text of a group is covered with scopes that go on from its own**, whatever groups are open there. -/
theorem run_inner (hs : sc.FindsInText) (hroot : sc.grammar.HasRoot) (hl : stack.InLayers sc.grammar)
    (hagain : sc.againAt (levels + 1) = some a) (hitems : (sc.grammar.rule id).hasItems = true)
    (hlt : start < stop) {after : List GroupEntry} :
    let w := sc.sweepOver (some a) stack line firstLine captures
    start ≤ w.matchEnd → ∀ {before : List GroupEntry} {groups : OpenGroups} {ts : Tokens},
      (∀ e ∈ before, w.Before start e) →
      (∀ id' start' stop', (id', some (start', stop')) ∈ before ++ (some id, some (start, stop)) :: after →
        Boundary line start' ∧ Boundary line stop') →
      (∀ g ∈ groups, Good sc.grammar line g.2 g.1) → ts.last ≤ start →
        Always (w.run (before ++ (some id, some (start, stop)) :: after) groups ts)
          (ts.Parted (fun t => FromGroup sc.grammar sc.MayBeLate
            (stack.top.contentScopes ++ (sc.grammar.rule id).nameScopes line captures) stack stop t.stop
            t.scopes) start stop) := by
  intro w hn before
  have hc : CoversAgain sc.grammar (some a) := hagain ▸ coversAgain hs hroot (levels + 1)
  induction before with
  | nil =>
    intro groups ts _ hin hg hts
    obtain ⟨hfrom, hto⟩ := hin _ start stop List.mem_cons_self
    have hends : w.endsWith (some id, some (start, stop)) = false := decide_eq_false (Nat.not_lt_of_le hn)
    have hleft : ∀ g ∈ (closeUpTo start groups ts).2, Good w.grammar w.line g.2 g.1 :=
      fun g h => hg g (closeUpTo_sub h)
    have begun : ts.Grows (Good w.grammar w.line) (w.begun start groups ts) :=
      Sweep.begun_grows hg ⟨hfrom, scopesWithin_head (fun g h => (hleft g h).scope) hl.top_scope⟩
    have hlast : (w.begun start groups ts).last = start :=
      Nat.le_antisymm ((Sweep.begun_last_le (Nat.le_refl _)).mpr hts) Sweep.le_begun_last
    rw [List.nil_append, Sweep.run_cons, hends, w.visit_scanned (Nat.ne_of_lt hlt) rfl hitems, if_neg nofun,
      bind_assoc]
    refine .bind (group_inner hs hroot hl hagain hitems hto hlast hlt) fun us hus => ?_
    obtain ⟨hend, new, hdone, habut, hnew⟩ := hus
    have hafter : Always (w.run after (closeUpTo start groups ts).2 us) (us.Grows (Good w.grammar w.line)) :=
      Sweep.run_grows ⟨hl, hc.grows⟩
        (fun id' start' stop' h => hin id' start' stop' (List.mem_cons_of_mem _ h)) hleft
    rw [pure_bind]
    refine hafter.mono fun vs hvs => begun.parted ?_
    obtain ⟨later, hdone', habut', -⟩ := hvs.exists_new
    exact ⟨[], new, later, by simp [hdone', hdone], hlast, habut, hend ▸ habut', hnew⟩
  | cons e before ih =>
    intro groups ts hbefore hin hg hts
    have he := hbefore e List.mem_cons_self
    rw [List.cons_append, Sweep.run_cons, he.endsWith hn]
    refine .bind (Sweep.visit_before hl hc he (fun id' start' stop' h => ?_) hg hts) fun r hr => ?_
    · exact hin id' start' stop' (h ▸ List.mem_cons_self)
    · refine (ih (fun e he => hbefore e (List.mem_cons_of_mem _ he)) (fun id' start' stop' h => ?_) hr.2.2
        hr.2.1).mono fun us hus => hr.1.parted hus
      exact hin id' start' stop' (List.mem_cons_of_mem _ h)

end Scanner
/-- **Groups that are tokenized again leave out the names around them.** In a match of a compiled grammar, below
the limit of levels, take a group that is not empty and whose rule has patterns, where the groups before it begin
no later and have not been tokenized again beyond its beginning. Of the tokens of the match those in the middle
cover just this group, and each of them has the scopes of the frame and directly after them those of the name of
the group, whatever groups are open around it. Where the scan of the group gives up, the last of them has the
scopes of the frame alone, and once the time is over only that of the grammar. -/
theorem Grammar.inner_scopes {source : Source.GrammarSource} {g : Grammar}
    (hg : Grammar.ofSource source = .ok g) {w : Means (StateM σ)} (hw : w.search.StaysInText)
    (maxStalled levels : Nat) {stack : Stack} (hl : stack.InLayers g) {line : List Char} {captures : Captures}
    (hin : InText line captures) (firstLine : Bool) {rules : CaptureRules} {before after : List GroupEntry}
    {id : RuleId} {start stop : Nat}
    (hentries : rules.zip captures = before ++ (some id, some (start, stop)) :: after)
    (hitems : (g.rule id).hasItems = true) (hlt : start < stop) {ts : Tokens} (hts : ts.last ≤ start) :
    let sc := w.scanner g maxStalled
    let again := sc.againAt (levels + 1)
    let v := sc.sweepOver again stack line firstLine captures
    start ≤ v.matchEnd → (∀ e ∈ before, v.Before start e) →
      Always (sc.sweep again stack line firstLine rules captures ts)
        (ts.Parted (fun t => FromGroup g sc.MayBeLate
          (stack.top.contentScopes ++ (g.rule id).nameScopes line captures) stack stop t.stop t.scopes)
          start stop) := by
  intro sc again v hn hbefore
  have hs : sc.FindsInText := Means.scanner_findsInText hw g maxStalled
  have hroot : sc.grammar.HasRoot := (shape_of_ofSource hg).root
  have hboundaries : ∀ id' start' stop',
      (id', some (start', stop')) ∈ before ++ (some id, some (start, stop)) :: after →
        Boundary line start' ∧ Boundary line stop' := by
    intro id' start' stop' h
    rw [← hentries] at h
    exact hin start' stop' (List.of_mem_zip h).2
  rw [Scanner.sweep_eq_run, hentries]
  exact Scanner.run_inner hs hroot hl rfl hitems hlt hn hbefore hboundaries nofun hts

/-! ### An example -/

/-- A digit in brackets, each with a name, where the digit is tokenized again. -/
def Source.nestText : Source.GrammarSource where
  scopeName := "source.nest"
  patterns := [{
    matchPattern := some "[(]([0-9])[)]"
    captures := [(0, { name := some "outer.nest" }),
      (1, { name := some "inner.nest"
            patterns := [{ name := some "digit.nest", matchPattern := some "[0-9]" }] })] }]

/-- The digit has its own names, and not that of the brackets. -/
theorem inner_scopes_nestText : ∃ g, Grammar.ofSource Source.nestText = .ok g ∧
    let sc := (Means.workedOut Unit g {}).scanner g 64
    let line := ['(', '1', ')', '\n']
    let captures : Captures := [some (0, 3), some (1, 2)]
    (Means.workedOut Unit g {}).search.StaysInText ∧ (Stack.root g).InLayers g ∧ InText line captures ∧
    (g.rule 2).hasItems = false ∧ (g.rule 3).hasItems = true ∧
    (⟨[], 0⟩ : Tokens).Parted (fun t => FromGroup g sc.MayBeLate
      ([g.scope] ++ (g.rule 3).nameScopes line captures) (.root g) 2 t.stop t.scopes) 1 2
      (sc.sweep (sc.againAt 32) (.root g) line true [some 2, some 3] captures ⟨[], 0⟩ ()).1 := by
  have run : (Grammar.ofSource Source.nestText).toOption.any (fun g =>
      !(g.rule 2).hasItems && (g.rule 3).hasItems) = true := by
    decide +kernel
  obtain ⟨g, hg, h⟩ := exists_ok_of_any run
  obtain ⟨houter, hinner⟩ : (g.rule 2).hasItems = false ∧ (g.rule 3).hasItems = true := by simpa using h
  have hsearch : (Means.workedOut Unit g {}).search.StaysInText := Options.search_staysInText {}
  have hroot : (Stack.root g).InLayers g := Layered.root g _
  have hin : InText ['(', '1', ')', '\n'] [some (0, 3), some (1, 2)] := by decide
  have hentries : List.zip [some 2, some 3] [some (0, 3), some (1, 2)] =
      [(some 2, some (0, 3))] ++ (some 3, some (1, 2)) :: [] := rfl
  refine ⟨g, hg, hsearch, hroot, hin, houter, hinner, ?_⟩
  refine Grammar.inner_scopes hg hsearch 64 31 hroot hin true hentries hinner (by decide) (Nat.zero_le _)
    ?_ ?_ ()
  · exact (show 1 ≤ 3 by decide)
  · intro e he id start stop heq
    obtain rfl := List.mem_singleton.mp he
    cases heq
    exact ⟨Nat.zero_le _, fun hitems => absurd (houter.symm.trans hitems) nofun⟩

/-- A group that is tokenized again does not have the name of the group around it. -/
theorem not_inner_scopes : ¬ ∀ (source : Source.GrammarSource) (g : Grammar),
    Grammar.ofSource source = .ok g → ∀ (stack : Stack) (line : List Char) (firstLine : Bool)
      (rules : CaptureRules) (captures : Captures) (after : List GroupEntry) (j k : RuleId)
      (start stop start' stop' : Nat),
      rules.zip captures = (some j, some (start, stop)) :: (some k, some (start', stop')) :: after →
      start ≤ start' → stop' ≤ stop → (g.rule j).hasItems = false → (g.rule k).hasItems = true →
        let sc := (Memory.means g {}).scanner g 64
        ∀ t ∈ (sc.sweep (sc.againAt 32) stack line firstLine rules captures ⟨[], start⟩ {}).1.done,
          start' ≤ t.start → t.stop ≤ stop' →
            stack.top.contentScopes ++ (g.rule j).nameScopes line captures ++
              (g.rule k).nameScopes line captures <+: t.scopes := by
  intro nested
  have run : (Grammar.ofSource Source.nestText).toOption.any (fun g =>
      let sc := (Memory.means g {}).scanner g 64
      let line := ['(', '1', ')', '\n']
      let captures : Captures := [some (0, 3), some (1, 2)]
      let us := (sc.sweep (sc.againAt 32) (.root g) line true [some 2, some 3] captures ⟨[], 0⟩ {}).1
      !(g.rule 2).hasItems && (g.rule 3).hasItems && us.done.any fun t => decide (1 ≤ t.start ∧ t.stop ≤ 2 ∧
        ¬ [g.scope] ++ (g.rule 2).nameScopes line captures ++ (g.rule 3).nameScopes line captures <+:
          t.scopes)) = true := by
    decide +kernel
  obtain ⟨g, hg, h⟩ := exists_ok_of_any run
  simp only [Bool.and_eq_true, Bool.not_eq_true', List.any_eq_true] at h
  obtain ⟨⟨houter, hinner⟩, t, ht, hlacks⟩ := h
  obtain ⟨hstart, hstop, hlacks⟩ := of_decide_eq_true hlacks
  exact hlacks (nested _ g hg (.root g) _ true _ _ [] 2 3 0 3 1 2 rfl (by decide) (by decide) houter hinner t ht
    hstart hstop)

end ScopeLexer
