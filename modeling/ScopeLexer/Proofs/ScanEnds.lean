/-
# Every scan ends

A scan knows no limit: it takes step after step until one of them stops it. One does, whatever the patterns
match. A step that goes on comes nearer to the end of the text, or it stays where it is, and this it may do only
so many times in a row. Of all the steps that could be taken at the offsets that are left, each step uses up
one at least, so that there are no more steps than offsets times the steps that may stay at one of them. The
limit that `Scanner.steps` is given is never met.

Of a search nothing is asked but that its matches end in the text.

Key definitions: `Search.EndsInText`, `Scanner.Runs`, `ScanState.budget`.
Key theorems: `Scanner.budget_lt`, `Scanner.exists_runs`, `Scanner.Runs.depth_le`, `Scanner.scanWith_runs`.
-/
import ScopeLexer.Proofs.ScanSteps

namespace ScopeLexer

open Text (width)

/-- The matches of a search end in the text that is searched. -/
def Search.EndsInText (search : Search) : Prop :=
  ∀ p a c text captures, c.In text → search p a c = some captures →
    ∀ start stop, captures.head? = some (some (start, stop)) → stop ≤ width text

theorem Search.StaysInText.endsInText {search : Search} (h : search.StaysInText) :
    search.EndsInText :=
  fun p a c text captures hc hs start stop hhead =>
    (h p a c text captures hc hs start stop (List.mem_of_mem_head? hhead)).2.le_width

/-- What comes next in a scan ends in its text. -/
def Scanner.EndsInText {σ : Type} (sc : Scanner (StateM σ)) : Prop :=
  ∀ line s, Always (sc.next line s) fun found => ∀ x ∈ found, x.stop ≤ width line

theorem Means.scanner_endsInText {σ : Type} {w : Means (StateM σ)} (hw : w.search.EndsInText)
    (g : Grammar) (maxStalled : Nat) : (w.scanner g maxStalled).EndsInText := by
  intro line s
  unfold Scanner.next
  split
  · rename_i c hc
    refine .bind' fun closing => .bind' fun entries => .pure fun x hx => ?_
    rcases best_matched hx with hx | ⟨e, -, captures, hs, hx⟩
    · contradiction
    · unfold Found.ofCaptures at hx
      split at hx
      · rename_i start stop rest
        obtain rfl := Option.some.inj hx
        exact hw _ _ _ _ _ (Regex.Cursor.at?_in hc).1 hs start stop rfl
      · contradiction
  · exact .pure nofun

/-- Where a scan begins after the spans that continue. -/
def Scanner.Continued.start (k : Scanner.Continued) : ScanState :=
  { tokens := k.tokens, stack := k.stack, pos := k.pos, anchor := k.anchor, firstLine := k.firstLine }

/-- How many steps may still be taken: as many at each offset as may stay there, without those that have been
taken at this one. -/
def ScanState.budget (s : ScanState) (length maxStalled : Nat) : Nat :=
  (length - s.pos + 1) * maxStalled - s.stalled

theorem Stack.Move.depth_le {g : Grammar} {line : List Char} {s t : Stack} (h : s.Move g line t) :
    t.depth ≤ s.depth + 1 := by
  cases h with
  | stay => exact Nat.le_succ _
  | pop =>
    have hlength := (s.frames_pop_suffix).length_le
    simp only [Stack.frames, List.length_cons] at hlength
    unfold Stack.depth
    omega
  | strip => exact Nat.le_succ _
  | push => exact Nat.le_refl _

namespace Scanner

variable {σ : Type} (sc : Scanner (StateM σ)) (again : Option (Again (StateM σ))) (line : List Char)

/-- A scan takes so many steps from a state until it is stopped. There is no limit to them. -/
inductive Runs : Nat → ScanState × σ → (Tokens × Stack) × σ → Prop
  | stop {a : ScanState × σ} {ts : Tokens} {stack : Stack} {state : σ}
      (h : sc.step again line (width line) a.1 a.2 = (.stop ts stack, state)) :
      Runs 1 a ((ts, stack), state)
  | goOn {n : Nat} {a b : ScanState × σ} {r : (Tokens × Stack) × σ}
      (h : sc.step again line (width line) a.1 a.2 = (.goOn b.1, b.2)) (rest : Runs n b r) :
      Runs (n + 1) a r

variable {sc again line} {s s' : ScanState} {a b : ScanState × σ} {r r' : (Tokens × Stack) × σ}
  {n n' : Nat}

/-- A scan comes to one end only, after one number of steps. -/
theorem Runs.unique (h : sc.Runs again line n a r) (h' : sc.Runs again line n' a r') :
    n = n' ∧ r = r' := by
  induction h generalizing n' with
  | stop hstep =>
    cases h' with
    | stop hstep' =>
      cases hstep.symm.trans hstep'
      exact ⟨rfl, rfl⟩
    | goOn hstep' => cases hstep.symm.trans hstep'
  | @goOn n a b r hstep _ ih =>
    cases h' with
    | stop hstep' => cases hstep.symm.trans hstep'
    | @goOn _ _ b' _ hstep' rest' =>
      obtain ⟨b₁, b₂⟩ := b
      obtain ⟨b₁', b₂'⟩ := b'
      cases hstep.symm.trans hstep'
      obtain ⟨rfl, hr⟩ := ih rest'
      exact ⟨rfl, hr⟩

/-- **A step pushes one frame at most.** -/
theorem step_depth_le : Always (sc.step again line (width line) s) fun result =>
    result.stack.depth ≤ s.stack.depth + 1 :=
  step_moves.mono fun _ hmove => hmove.depth_le

theorem Runs.depth_le (h : sc.Runs again line n a r) : r.1.2.depth ≤ a.1.stack.depth + n := by
  induction h with
  | @stop a ts stack state hstep =>
    have hdepth : (sc.step again line (width line) a.1 a.2).1.stack.depth ≤ a.1.stack.depth + 1 :=
      step_depth_le a.2
    rw [hstep] at hdepth
    exact hdepth
  | @goOn n a b r hstep _ ih =>
    have hdepth : (sc.step again line (width line) a.1 a.2).1.stack.depth ≤ a.1.stack.depth + 1 :=
      step_depth_le a.2
    rw [hstep] at hdepth
    calc r.1.2.depth ≤ b.1.stack.depth + n := ih
      _ ≤ a.1.stack.depth + 1 + n := Nat.add_le_add_right hdepth n
      _ = a.1.stack.depth + (n + 1) := by omega

/-! ### Steps are used up -/

theorem steps_of_stop {fuel : Nat} {state state' : σ} {ts : Tokens} {stack : Stack}
    (h : sc.step again line (width line) s state = (.stop ts stack, state')) :
    sc.steps again line (width line) (fuel + 1) s state = ((ts, stack), state') := by
  simp only [steps, bind, StateT.bind, h]
  rfl

theorem steps_of_goOn {fuel : Nat} {state state' : σ}
    (h : sc.step again line (width line) s state = (.goOn s', state')) :
    sc.steps again line (width line) (fuel + 1) s state =
      sc.steps again line (width line) fuel s' state' := by
  simp only [steps, bind, StateT.bind, h]

/-- A step that goes on has moved within the text, or has stayed where it is, which is not too often. -/
theorem Stepped.goOn (hs : sc.EndsInText) {result : StepResult} (h : sc.Stepped again line s result)
    (hgo : result = .goOn s') :
    s.pos < s'.pos ∧ s'.pos ≤ width line ∧ s'.stalled = 0 ∨
      s'.pos = s.pos ∧ s'.stalled = s.stalled + 1 ∧ s'.stalled < sc.maxStalled := by
  cases h with
  | late => contradiction
  | unmatched => contradiction
  | @taken state state' x hx =>
    obtain ⟨-, ⟨hlt, hpos, hstalled⟩ | ⟨-, hpos, hstalled⟩⟩ := settle_goOn hgo
    · have hin : x.stop ≤ width line := hs line s state x hx
      exact .inl ⟨hpos ▸ hlt, hpos ▸ hin, hstalled⟩
    · exact .inr ⟨hpos, hstalled⟩

/-- **A step that goes on leaves fewer steps to be taken.** -/
theorem budget_lt (hs : sc.EndsInText) (hstalled : s.stalled < sc.maxStalled)
    (h : sc.Stepped again line s (.goOn s')) : s'.stalled < sc.maxStalled ∧
      s'.budget (width line) sc.maxStalled < s.budget (width line) sc.maxStalled := by
  unfold ScanState.budget
  rcases h.goOn hs rfl with ⟨hlt, hle, hzero⟩ | ⟨hpos, hmore, hfew⟩
  · have hoffsets : (width line - s'.pos + 1 + 1) * sc.maxStalled ≤
        (width line - s.pos + 1) * sc.maxStalled := Nat.mul_le_mul_right _ (by omega)
    rw [Nat.succ_mul] at hoffsets
    omega
  · have hsome : sc.maxStalled ≤ (width line - s.pos + 1) * sc.maxStalled :=
      Nat.le_mul_of_pos_left _ (Nat.succ_pos _)
    rw [hpos]
    omega

/-- **The steps come to an end within the budget**, and whatever limit they are given that is not less, they
come to the same. -/
theorem exists_runs (hs : sc.EndsInText) (fuel : Nat) : ∀ {s : ScanState} (state : σ),
    s.stalled < sc.maxStalled → s.budget (width line) sc.maxStalled ≤ fuel →
      ∃ n ≤ s.budget (width line) sc.maxStalled,
        sc.Runs again line n (s, state) (sc.steps again line (width line) fuel s state) := by
  induction fuel with
  | zero =>
    intro s state hstalled hfuel
    have hsome : sc.maxStalled ≤ (width line - s.pos + 1) * sc.maxStalled :=
      Nat.le_mul_of_pos_left _ (Nat.succ_pos _)
    unfold ScanState.budget at hfuel
    omega
  | succ fuel ih =>
    intro s state hstalled hfuel
    have hstepped : sc.Stepped again line s (sc.step again line (width line) s state).1 :=
      step_stepped s state
    cases hstep : sc.step again line (width line) s state with
    | mk result state' =>
      rw [hstep] at hstepped
      cases result with
      | stop ts stack =>
        have hsome : sc.maxStalled ≤ (width line - s.pos + 1) * sc.maxStalled :=
          Nat.le_mul_of_pos_left _ (Nat.succ_pos _)
        rw [steps_of_stop hstep]
        exact ⟨1, by unfold ScanState.budget; omega, .stop hstep⟩
      | goOn s' =>
        obtain ⟨hstalled', hless⟩ := budget_lt hs hstalled hstepped
        obtain ⟨n, hn, hruns⟩ := ih state' hstalled' (by omega)
        rw [steps_of_goOn hstep]
        exact ⟨n + 1, by omega, .goOn (b := (s', state')) hstep hruns⟩

/-! ### Scans -/

/-- Spans that continue do so further on. -/
theorem continueSpans_pos : ∀ {inners : List Stack} {k : Continued},
    Always (sc.continueSpans again line inners k) fun k' => k.pos ≤ k'.pos
  | [], k => .pure (Nat.le_refl _)
  | inner :: rest, k => by
    unfold continueSpans
    split
    · refine .bind' fun found => ?_
      split
      · refine .bind' fun ts => continueSpans_pos.mono fun k' hk' => Nat.le_trans ?_ hk'
        unfold Continued.upTo
        simp only
        split
        · exact Nat.le_of_lt ‹_›
        · exact Nat.le_refl _
      · exact .pure (Nat.le_refl _)
    · exact continueSpans_pos

theorem enter_pos (stack : Stack) (pos : Nat) (firstLine continuing : Bool) :
    Always (sc.enter again stack line pos firstLine continuing) fun k =>
      pos ≤ k.pos ∧ k.stack.depth ≤ stack.depth := by
  cases continuing with
  | false => exact .pure ⟨Nat.le_refl _, Nat.le_refl _⟩
  | true =>
    refine .and continueSpans_pos (resume_suffix.mono fun k hk => ?_)
    simpa [Stack.frames, Stack.depth] using hk.length_le

/-- **Every scan ends** after so many steps as its text has offsets from where it begins, times the steps that
may stay at one of them. -/
theorem scanWith_runs (again : Option (Again (StateM σ))) (line : List Char) (hs : sc.EndsInText)
    (hsome : 0 < sc.maxStalled) (stack : Stack) (pos : Nat) (firstLine continuing : Bool) (state : σ) :
    let k := sc.enter again stack line pos firstLine continuing state
    ∃ n ≤ (width line - pos + 1) * sc.maxStalled,
      sc.Runs again line n (k.1.start, k.2)
        (sc.scanWith again stack line pos firstLine continuing state) ∧
      (sc.scanWith again stack line pos firstLine continuing state).1.2.depth ≤ stack.depth + n := by
  intro k
  obtain ⟨hpos, hdepth⟩ : pos ≤ k.1.pos ∧ k.1.stack.depth ≤ stack.depth :=
    enter_pos stack pos firstLine continuing state
  have hbudget : k.1.start.budget (width line) sc.maxStalled ≤
      (width line - pos + 1) * sc.maxStalled := by
    refine Nat.le_trans (Nat.sub_le _ _) (Nat.mul_le_mul_right _ ?_)
    show width line - k.1.pos + 1 ≤ width line - pos + 1
    omega
  obtain ⟨n, hn, hruns⟩ : ∃ n ≤ k.1.start.budget (width line) sc.maxStalled,
      sc.Runs again line n (k.1.start, k.2)
        (sc.scanWith again stack line pos firstLine continuing state) :=
    exists_runs hs (sc.stepBound (width line) pos) k.2 hsome hbudget
  refine ⟨n, Nat.le_trans hn hbudget, hruns, Nat.le_trans hruns.depth_le ?_⟩
  exact Nat.add_le_add_right hdepth n

end Scanner
end ScopeLexer
