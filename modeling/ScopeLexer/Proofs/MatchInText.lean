/-
# A match lies in its text

Whatever a program does, every offset that it reports is a boundary of the text that it was tried on. A
matcher hands on only states that stand in the text: its cursor is a place of the text, and so are the
places where groups were opened and closed. The lemmas go through the matchers one by one, and a search
only moves the first cursor.

Key definitions: `State.In`, `Matcher.Keeps`.
Key theorems: `run_keeps`, `boundary_of_searchAt`, `exists_span_of_searchAt`.
-/
import ScopeLexer.Proofs.Boundary

namespace ScopeLexer
namespace Regex

/-- What a group has captured, if anything, lies in a text. -/
structure Slot.In (s : Slot) (text : List Char) : Prop where
  start : ∀ c, s.start = some c → c.In text
  stop : ∀ n, s.stop = some n → Text.Boundary text n

/-- All that a state knows of places lies in a text. -/
structure State.In (s : State) (text : List Char) : Prop where
  cursor : s.cursor.In text
  slots : ∀ slot ∈ s.slots, slot.In text
  keep : ∀ n, s.keep = some n → Text.Boundary text n

/-- If a reply is a match, its state has a property. -/
def Reply.Meets (P : State → Prop) : Reply → Prop
  | .matched s _ => P s
  | _ => True

/-- A matcher hands on only states with a property, if it gets one. -/
def Matcher.Keeps (P : State → Prop) (m : Matcher) : Prop :=
  ∀ Q s e k, P s → (∀ t e, P t → (k t e).Meets Q) → (m s e k).Meets Q

variable {text : List Char}

/-! ### Cursors -/

namespace Cursor

variable {c d : Cursor}

theorem In.step? {p : Char → Bool} {limit : Option Nat} (h : c.In text)
    (hd : c.step? p limit = some d) : d.In text := by
  refine ⟨(step?_text hd).trans h.text_eq, ?_⟩
  unfold Cursor.step? at hd
  split at hd
  · contradiction
  · split at hd
    · obtain rfl := Option.some.inj hd
      simp [Text.width, h.offset_eq, Nat.add_comm]
    · contradiction

theorem In.back {e : Char} {before after : List Char} {offset : Nat}
    (h : (⟨e :: before, offset, after⟩ : Cursor).In text) :
    (⟨before, offset - e.utf8Size, e :: after⟩ : Cursor).In text := by
  obtain ⟨ht, ho⟩ := h
  simp only [Text.width] at ho
  exact ⟨by simpa [Cursor.text] using ht, by simp only; omega⟩

end Cursor

theorem stepAll_in {like : Nat → Char → Bool} {limit : Option Nat} :
    ∀ {ns : List Nat} {c d : Cursor}, c.In text → stepAll like limit ns c = some d → d.In text
  | [], c, d, h, hd => by
    obtain rfl : c = d := by simpa [stepAll] using hd
    exact h
  | n :: ns, c, d, h, hd => by
    obtain ⟨c', hc, hd⟩ := Option.bind_eq_some_iff.mp hd
    exact stepAll_in (h.step? hc) hd

theorem stepFolded_in {limit : Option Nat} :
    ∀ {ds : List Char} {folded : List Nat} {c d : Cursor}, c.In text →
      stepFolded limit ds folded c = some d → d.In text
  | _, [], c, d, h, hd => by
    obtain rfl : c = d := by simpa [stepFolded] using hd
    exact h
  | [], _ :: _, c, d, _, hd => by simp [stepFolded] at hd
  | a :: ds, n :: ns, c, d, h, hd => by
    rw [stepFolded] at hd
    · split at hd
      · contradiction
      · obtain ⟨c', hc, hd⟩ := Option.bind_eq_some_iff.mp hd
        exact stepFolded_in (h.step? hc) hd
    · simp

theorem stepText_in {codes : List Nat} {fold : Fold} {limit : Option Nat} {c d : Cursor}
    (h : c.In text) (hd : stepText codes fold limit c = some d) : d.In text := by
  unfold stepText at hd
  cases fold with
  | exact => exact stepAll_in h hd
  | ascii => exact stepAll_in h hd
  | simple => exact stepAll_in h hd
  | full => exact stepFolded_in h hd

theorem stepCaptured_in {s : State} {fold : Fold} {n : Nat} {d : Cursor} (h : s.cursor.In text)
    (hd : stepCaptured s fold n = some d) : d.In text := by
  unfold stepCaptured at hd
  split at hd
  · simp only at hd
    split at hd
    · rename_i hc
      split at hd
      · obtain rfl := Option.some.inj hd
        exact stepText_in h hc
      · contradiction
    · contradiction
  · contradiction

theorem stepAnyCaptured_in {s : State} {fold : Fold} (h : s.cursor.In text) :
    ∀ {ns : List Nat} {d : Cursor}, stepAnyCaptured s fold ns = some d → d.In text
  | [], d, hd => by simp [stepAnyCaptured] at hd
  | n :: ns, d, hd => by
    unfold stepAnyCaptured at hd
    split at hd
    · rename_i hc
      obtain rfl := Option.some.inj hd
      exact stepCaptured_in h hc
    · exact stepAnyCaptured_in h hd

theorem stepBack?_in : ∀ {n : Nat} {c d : Cursor}, c.In text → stepBack? n c = some d → d.In text
  | 0, c, d, h, hd => by
    obtain rfl : c = d := by simpa [stepBack?] using hd
    exact h
  | n + 1, ⟨[], _, _⟩, d, _, hd => by simp [stepBack?] at hd
  | n + 1, ⟨e :: cs, offset, after⟩, d, h, hd => stepBack?_in h.back (by simpa [stepBack?] using hd)

theorem runs_in {p : Char → Bool} {limit : Option Nat} :
    ∀ {n : Nat} {c : Cursor} {passed : List Cursor}, c.In text → (∀ d ∈ passed, d.In text) →
      ∀ d ∈ runs p limit n c passed, d.In text
  | 0, c, passed, h, hp => by
    simp only [runs, List.mem_cons, forall_eq_or_imp]
    exact ⟨h, hp⟩
  | n + 1, c, passed, h, hp => by
    unfold runs
    split
    · simp only [List.mem_cons, forall_eq_or_imp]
      exact ⟨h, hp⟩
    · rename_i hd
      refine runs_in (h.step? hd) ?_
      simp only [List.mem_cons, forall_eq_or_imp]
      exact ⟨h, hp⟩

/-! ### States -/

namespace State

variable {s : State}

theorem In.at (h : s.In text) {c : Cursor} (hc : c.In text) : ({ s with cursor := c } : State).In text :=
  ⟨hc, h.slots, h.keep⟩

theorem In.cut (h : s.In text) (limit : Option Nat) :
    ({ s with limit := limit } : State).In text :=
  ⟨h.cursor, h.slots, h.keep⟩

theorem In.slot (h : s.In text) (n : Nat) : (s.slot n).In text := by
  unfold State.slot
  rw [Array.getD_eq_getD_getElem?]
  cases hn : s.slots[n]? with
  | none => exact ⟨by simp, by simp⟩
  | some slot => exact h.slots slot (Array.mem_of_getElem? hn)

theorem In.setSlot (h : s.In text) (n : Nat) {slot : Slot} (hs : slot.In text) :
    ({ s with slots := s.slots.setIfInBounds n slot } : State).In text := by
  refine ⟨h.cursor, fun x hx => ?_, h.keep⟩
  rcases Array.mem_or_eq_of_mem_setIfInBounds hx with hx | rfl
  · exact h.slots x hx
  · exact hs

theorem In.openGroup (h : s.In text) (n : Nat) : (s.openGroup n).In text := by
  refine h.setSlot n ⟨?_, (h.slot n).stop⟩
  rintro c hc
  obtain rfl := Option.some.inj hc
  exact h.cursor

theorem In.closeGroup (h : s.In text) (n : Nat) {start : Cursor} (hc : start.In text) :
    (s.closeGroup n start).In text := by
  refine h.setSlot n ⟨?_, ?_⟩
  · rintro c hc'
    obtain rfl := Option.some.inj hc'
    exact hc
  · rintro m hm
    obtain rfl := Option.some.inj hm
    exact h.cursor.boundary

end State

/-! ### Replies -/

theorem Reply.Meets.orElse {Q : State → Prop} {r : Reply} {other : Effort → Reply}
    (hr : r.Meets Q) (ho : ∀ e, (other e).Meets Q) : (r.orElse other).Meets Q := by
  cases r with
  | matched s e => exact hr
  | gaveUp e => trivial
  | aborted => trivial
  | failed e =>
    simp only [Reply.orElse]
    split
    · trivial
    · exact ho _

variable {P Q : State → Prop}

/-- A reply that is neither a match nor a failure ends the search. -/
theorem Reply.Meets.of_ends {r : Reply} (hm : ∀ s e, r ≠ .matched s e) : r.Meets Q := by
  cases r with
  | matched s e => exact absurd rfl (hm s e)
  | failed e => trivial
  | gaveUp e => trivial
  | aborted => trivial

/-- What is matched on its own keeps the property as well: nothing follows that could lose it. -/
theorem Matcher.Keeps.commit {m : Matcher} (hm : m.Keeps P) {s : State} (hs : P s) (e : Effort)
    {yes : Cont} {no : Effort → Reply} (hy : ∀ t e, P t → (yes t e).Meets Q)
    (hn : ∀ e, (no e).Meets Q) : (Regex.commit m s e yes no).Meets Q := by
  have h : (m s e accept).Meets P := hm P s e accept hs fun t _ ht => ht
  unfold Regex.commit
  cases hr : m s e accept with
  | matched t e' => exact hy t e' (by simpa [hr, Reply.Meets] using h)
  | failed e' => exact hn e'
  | gaveUp e' => trivial
  | aborted => trivial

/-! ### Repetition -/

theorem tryEach_meets {s : State} {k : Cont} (hk : ∀ t e, State.In t text → (k t e).Meets Q)
    (hs : s.In text) : ∀ {cs : List Cursor}, (∀ c ∈ cs, c.In text) → ∀ e, (tryEach s k cs e).Meets Q
  | [], _, _ => trivial
  | [c], hc, e => hk _ e (hs.at (hc c (by simp)))
  | c :: d :: cs, hc, e =>
    Reply.Meets.orElse (hk _ e (hs.at (hc c (by simp))))
      (tryEach_meets hk hs fun x hx => hc x (List.mem_cons_of_mem _ hx))

theorem tryUpwards_meets {p : Char → Bool} {k : Cont}
    (hk : ∀ t e, State.In t text → (k t e).Meets Q) :
    ∀ (n : Nat) {s : State}, s.In text → ∀ e, (tryUpwards p k n s e).Meets Q
  | 0, s, hs, e => hk s e hs
  | n + 1, s, hs, e => by
    refine Reply.Meets.orElse (hk s e hs) fun e => ?_
    cases hc : s.cursor.step? p s.limit with
    | none => trivial
    | some c => exact tryUpwards_meets hk n (hs.at (hs.cursor.step? hc)) e

theorem loopChars_keeps (p : Char → Bool) (min : Nat) (max : Option Nat) (greedy : Bool) :
    Matcher.Keeps (State.In · text) (loopChars p min max greedy) := by
  intro Q s e k hs hk
  unfold loopChars
  split
  · trivial
  · rename_i c hc
    have hc : c.In text := stepAll_in hs.cursor hc
    simp only
    split
    · exact tryEach_meets hk hs (runs_in hc (by simp)) e
    · exact tryUpwards_meets hk _ (hs.at hc) e

theorem loopMore_keeps {body : Matcher} (hb : body.Keeps P) (greedy : Bool) (n : Nat) :
    Matcher.Keeps P (loopMore body greedy n) := by
  induction n with
  | zero => exact fun _ s e _ hs hk => hk s e hs
  | succ n ih =>
    intro Q s e k hs hk
    have round : ∀ e, (body s e fun t e =>
        if t.cursor.offset = s.cursor.offset then k t e else loopMore body greedy n t e k).Meets Q := by
      intro e
      refine hb Q s e _ hs fun t e ht => ?_
      split
      · exact hk t e ht
      · exact ih Q t e k ht hk
    unfold loopMore
    simp only
    split
    · exact (round e).orElse fun e => hk s e hs
    · exact (hk s e hs).orElse round

theorem loopFirst_keeps {body rest : Matcher} (hb : body.Keeps P) (hr : rest.Keeps P) (n : Nat) :
    Matcher.Keeps P (loopFirst body rest n) := by
  induction n with
  | zero => exact hr
  | succ n ih =>
    intro Q s e k hs hk
    refine hb Q s e _ hs fun t e ht => ?_
    split
    · exact hr Q t e k ht hk
    · exact ih Q t e k ht hk

theorem loop_keeps {body : Matcher} (hb : body.Keeps P) (min : Nat) (max : Option Nat)
    (greedy : Bool) : Matcher.Keeps P (loop body min max greedy) := by
  intro Q s e k hs hk
  exact loopFirst_keeps hb (fun Q s e k hs hk => loopMore_keeps hb greedy _ Q s e k hs hk)
    min Q s e k hs hk

/-! ### Looking around -/

/-- A body that begins at a cursor and has to end where a state stands. -/
theorem lookBack_tried_meets {body : Matcher} (hb : body.Keeps (State.In · text)) {s : State}
    (hs : s.In text) {c : Cursor} (hc : c.In text) (e : Effort) :
    (Regex.commit
      (fun t e k => body t e fun u e =>
        if u.cursor.offset = s.cursor.offset then k u e else .failed e)
      { s with cursor := c } e
      (fun t e => .matched { t with cursor := s.cursor } e) .failed).Meets (State.In · text) := by
  refine Matcher.Keeps.commit (P := (State.In · text)) ?_ (hs.at hc) e
    (fun t _ ht => ht.at hs.cursor) fun _ => trivial
  intro Q t e k ht hk
  refine hb Q t e _ ht fun u e hu => ?_
  split
  · exact hk u e hu
  · trivial

theorem lookBack_meets {body : Matcher} (hb : body.Keeps (State.In · text)) {s : State}
    (hs : s.In text) {yes : Cont} {no : Effort → Reply}
    (hy : ∀ t e, State.In t text → (yes t e).Meets Q) (hn : ∀ e, (no e).Meets Q) :
    ∀ (before : List Char) (more offset : Nat) (after : List Char) (e : Effort),
      (⟨before, offset, after⟩ : Cursor).In text →
      (lookBack body s yes no more before offset after e).Meets Q := by
  intro before
  induction before with
  | nil =>
    intro more offset after e hc
    have tried := lookBack_tried_meets hb hs hc e
    unfold lookBack
    simp only
    split
    · rename_i t e' ht
      exact hy t e' (by simpa [ht, Reply.Meets] using tried)
    · cases more <;> exact hn _
    · rename_i hm _
      exact Reply.Meets.of_ends hm
  | cons c cs ih =>
    intro more offset after e hc
    have tried := lookBack_tried_meets hb hs hc e
    unfold lookBack
    simp only
    split
    · rename_i t e' ht
      exact hy t e' (by simpa [ht, Reply.Meets] using tried)
    · cases more with
      | zero => exact hn _
      | succ more =>
        simp only
        split
        · trivial
        · exact ih more _ _ _ hc.back
    · rename_i hm _
      exact Reply.Meets.of_ends hm

/-- Only an offset comes of looking for the first match of a body, and it is no more than a limit. -/
theorem findFirst_meets {body : Matcher} {s : State} {k : Option Nat → Effort → Reply}
    (hk : ∀ n e, (k n e).Meets Q) :
    ∀ (after : List Char) (c : Cursor) (e : Effort), (findFirst body s after c e k).Meets Q := by
  intro after
  induction after with
  | nil =>
    intro c e
    unfold findFirst
    split
    · exact hk _ _
    · exact hk _ _
    · rename_i hm _
      exact Reply.Meets.of_ends hm
  | cons d ds ih =>
    intro c e
    unfold findFirst
    split
    · exact hk _ _
    · simp only
      split
      · exact hk _ _
      · exact ih _ _
    · rename_i hm _
      exact Reply.Meets.of_ends hm

/-! ### Nodes -/

theorem Directive.run_keeps (d : Directive) : Matcher.Keeps (State.In · text) d.run := by
  intro Q s e k hs hk
  cases d with
  | fail => trivial
  | giveUp => trivial
  | stop => trivial
  | skip => exact hk s _ hs
  | pass => exact hk s e hs
  | atMost id limit =>
    simp only [Directive.run]
    split
    · exact hk _ e ⟨hs.cursor, hs.slots, hs.keep⟩
    · trivial

/-- **A node keeps to the text**, if the groups that it calls do. -/
theorem run_keeps (start : Nat) {call : Nat → Matcher}
    (hcall : ∀ n, Matcher.Keeps (State.In · text) (call n)) (node : Node) :
    Matcher.Keeps (State.In · text) (run start call node) := by
  induction node with
  | empty => exact fun Q s e k hs hk => hk s e hs
  | literal codes fold =>
    intro Q s e k hs hk
    simp only [run]
    split
    · trivial
    · rename_i hc
      exact hk _ e (hs.at (stepText_in hs.cursor hc))
  | set set =>
    intro Q s e k hs hk
    simp only [run]
    split
    · trivial
    · rename_i hc
      exact hk _ e (hs.at (hs.cursor.step? hc))
  | any newline =>
    intro Q s e k hs hk
    simp only [run]
    split
    · trivial
    · rename_i hc
      exact hk _ e (hs.at (hs.cursor.step? hc))
  | anchor a =>
    intro Q s e k hs hk
    simp only [run]
    split
    · exact hk s e hs
    · trivial
  | seq a b iha ihb =>
    exact fun Q s e k hs hk => iha Q s e _ hs fun t e ht => ihb Q t e k ht hk
  | alt a b iha ihb =>
    exact fun Q s e k hs hk => (iha Q s e k hs hk).orElse fun e => ihb Q s e k hs hk
  | loop min max greedy body ih =>
    intro Q s e k hs hk
    simp only [run]
    split
    · exact loopChars_keeps _ min max greedy Q s e k hs hk
    · exact loop_keeps ih min max greedy Q s e k hs hk
  | group n named body ih =>
    exact fun Q s e k hs hk => ih Q _ e _ (hs.openGroup n)
      fun t e ht => hk _ e (ht.closeGroup n hs.cursor)
  | «scoped» body ih => exact ih
  | atomic body ih =>
    exact fun Q s e k hs hk => ih.commit hs e hk fun _ => trivial
  | ahead negative body ih =>
    intro Q s e k hs hk
    cases negative with
    | false =>
      exact ih.commit hs e (fun t e ht => hk _ e ((ht.at hs.cursor).cut s.limit)) fun _ => trivial
    | true => exact ih.commit hs e (fun _ _ _ => trivial) fun e => hk s e hs
  | behind negative min max body ih =>
    intro Q s e k hs hk
    simp only [run]
    have no : ∀ e, (if negative then k s e else Reply.failed e).Meets Q := by
      intro e
      split
      · exact hk s e hs
      · trivial
    split
    · exact no e
    · rename_i c hc
      refine lookBack_meets ih hs (fun t e ht => ?_) no _ _ _ _ e (stepBack?_in hs.cursor hc)
      split
      · trivial
      · exact hk t e ht
  | backref ns byName fold level =>
    intro Q s e k hs hk
    simp only [run]
    split
    · trivial
    · rename_i hc
      exact hk _ e (hs.at (stepAnyCaptured_in hs.cursor hc))
  | captured ns byName =>
    intro Q s e k hs hk
    simp only [run]
    split
    · exact hk s e hs
    · trivial
  | choose c t f ihc iht ihf =>
    exact fun Q s e k hs hk => ihc.commit hs e (fun u e hu => iht Q u e k hu hk)
      fun e => ihf Q s e k hs hk
  | call target =>
    cases target with
    | number n text => exact hcall n
    | name text => exact fun Q s e k hs hk => trivial
  | keep =>
    intro Q s e k hs hk
    refine hk _ e ⟨hs.cursor, hs.slots, ?_⟩
    rintro n hn
    obtain rfl := Option.some.inj hn
    exact hs.cursor.boundary
  | absent unwanted body _ ihb =>
    exact fun Q s e k hs hk => findFirst_meets (fun found e =>
      ihb Q _ e _ (hs.cut (nearer found s.limit)) fun t e ht => hk _ e (ht.cut s.limit)) _ _ e
  | stopBefore unwanted _ =>
    exact fun Q s e k hs hk =>
      findFirst_meets (fun found e => hk _ e (hs.cut (nearer found s.limit))) _ _ e
  | clearStop => exact fun Q s e k hs hk => hk _ e (hs.cut none)
  | directive d => exact d.run_keeps

theorem Program.called_keeps (p : Program) (start : Nat) :
    ∀ depth n, Matcher.Keeps (State.In · text) (p.called start depth n)
  | 0, _ => fun _ _ _ _ _ _ => trivial
  | depth + 1, n => by
    intro Q s e k hs hk
    unfold Program.called
    split
    · exact run_keeps start (Program.called_keeps p start depth) _ Q s e k hs hk
    · trivial

/-! ### Searches -/

theorem matchAt_meets (p : Program) (start : Nat) {c : Cursor} (hc : c.In text) (e : Effort) :
    (matchAt p start c e).Meets (State.In · text) := by
  refine run_keeps start (p.called_keeps start _) p.node _ _ e accept ⟨hc, ?_, by simp⟩
    fun t _ ht => ht
  intro slot hs
  obtain rfl := Array.eq_of_mem_replicate hs
  exact ⟨by simp, by simp⟩

/-- The places that the captures of a match report. -/
theorem State.In.boundary_of_captures {s : State} (hs : s.In text) {start : Nat}
    (hb : Text.Boundary text start) {a b : Nat} (h : some (a, b) ∈ s.captures start) :
    Text.Boundary text a ∧ Text.Boundary text b := by
  unfold State.captures at h
  rcases List.mem_cons.mp h with h | h
  · simp only [Option.some.injEq, Prod.mk.injEq] at h
    obtain ⟨rfl, rfl⟩ := h
    have hbegin : Text.Boundary text (s.keep.getD start) := by
      cases hk : s.keep with
      | none => exact hb
      | some n => exact hs.keep n hk
    refine ⟨?_, hs.cursor.boundary⟩
    rcases Nat.le_total (s.keep.getD start) s.cursor.offset with hle | hle
    · rwa [Nat.min_eq_left hle]
    · rw [Nat.min_eq_right hle]
      exact hs.cursor.boundary
  · obtain ⟨slot, hm, hspan⟩ := List.mem_map.mp h
    have hslot := hs.slots slot (by simpa using List.mem_of_mem_drop hm)
    unfold Slot.span at hspan
    split at hspan
    · simp only [Option.some.injEq, Prod.mk.injEq] at hspan
      obtain ⟨rfl, rfl⟩ := hspan
      exact ⟨(hslot.start _ rfl).boundary, hslot.stop _ rfl⟩
    · contradiction

/-- A match that is found is one of the program, tried at the cursor or further on in the text. -/
theorem exists_matched_of_searchFrom (p : Program) (start : Nat) (limit : Option Nat) :
    ∀ (after : List Char) (c : Cursor) (skip : Nat) {caps : Captures}, c.after = after →
      searchFrom p start limit after c skip = some caps →
        ∃ d e s e', (∀ text, c.In text → d.In text) ∧ matchAt p start d e = .matched s e' ∧
          caps = s.captures d.offset := by
  intro after
  induction after with
  | nil =>
    intro c skip caps ha h
    unfold searchFrom at h
    simp only at h
    split at h
    · contradiction
    · split at h
      · exact ⟨c, _, _, _, fun _ hc => hc, ‹_›, (Option.some.inj h).symm⟩
      · contradiction
      · contradiction
      · contradiction
  | cons d ds ih =>
    intro c skip caps ha h
    have hd : ∀ text, c.In text → (⟨d :: c.before, c.offset + d.utf8Size, ds⟩ : Cursor).In text := by
      rintro text ⟨ht, ho⟩
      refine ⟨?_, by simp only [Text.width]; omega⟩
      simpa [Cursor.text, ha] using ht
    have later : ∀ skip, searchFrom p start limit ds ⟨d :: c.before, c.offset + d.utf8Size, ds⟩ skip =
        some caps → ∃ d e s e', (∀ text, c.In text → d.In text) ∧
          matchAt p start d e = .matched s e' ∧ caps = s.captures d.offset := by
      intro skip h
      obtain ⟨d', e, s, e', hin, hmatch, hcaps⟩ := ih _ skip rfl h
      exact ⟨d', e, s, e', fun text hc => hin text (hd text hc), hmatch, hcaps⟩
    unfold searchFrom at h
    simp only at h
    split at h
    · exact later _ h
    · split at h
      · exact ⟨c, _, _, _, fun _ hc => hc, ‹_›, (Option.some.inj h).symm⟩
      · exact later _ h
      · exact later _ h
      · contradiction

/-- **What a search reports lies in the text**: both ends of every span are boundaries. -/
theorem boundary_of_searchAt {p : Program} {c : Cursor} {limit : Option Nat} {caps : Captures}
    (hc : c.In text) (h : p.searchAt c limit = some caps) {a b : Nat} (hm : some (a, b) ∈ caps) :
    Text.Boundary text a ∧ Text.Boundary text b := by
  obtain ⟨d, e, s, e', hin, hmatch, rfl⟩ := exists_matched_of_searchFrom p _ _ _ c 0 rfl h
  have hd : d.In text := hin text hc
  have hs : (matchAt p c.offset d e).Meets (State.In · text) := matchAt_meets p c.offset hd e
  rw [hmatch] at hs
  exact hs.boundary_of_captures hd.boundary hm

/-- **A search reports the span of the whole match**, which does not end before it begins. -/
theorem exists_span_of_searchAt {p : Program} {c : Cursor} {limit : Option Nat} {caps : Captures}
    (h : p.searchAt c limit = some caps) :
    ∃ start stop, caps.head? = some (some (start, stop)) ∧ start ≤ stop := by
  obtain ⟨d, e, s, e', -, -, rfl⟩ := exists_matched_of_searchFrom p _ _ _ c 0 rfl h
  exact ⟨_, _, rfl, Nat.min_le_right _ _⟩

end Regex
end ScopeLexer
