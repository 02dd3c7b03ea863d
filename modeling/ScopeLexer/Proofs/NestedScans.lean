/-
# Scans within scans

The text of a group is scanned by the same scan that found it, so a rule may capture itself without end. A
counter is what bounds this: a scan that stands too deep leaves its groups as they are, and every scan counts
itself in before it begins and out after it ends. `Scanner.scan` has no counter but goes down level by level.
Here the scan with the counter is written out, and it comes to what `Scanner.scan` comes to: the counter is
what it was after every scan, and never beyond its limit.

Key definitions: `Nesting`, `Scanner.countedScan`, `Link.counted`.
Key theorems: `Scanner.countedScan_linked`, `Scanner.scans_end`.
-/
import ScopeLexer.Proofs.CacheTransparency
import ScopeLexer.Proofs.ContentScopes
import ScopeLexer.Proofs.ScanEnds

namespace ScopeLexer

open Text (width)

/-- How many scans stand around the one that works, and how many ever have. -/
structure Nesting where
  depth : Nat := 0
  deepest : Nat := 0
  deriving Repr, DecidableEq

namespace Nesting

/-- A scan counts itself in. -/
def enter (n : Nesting) : Nesting := ⟨n.depth + 1, max n.deepest (n.depth + 1)⟩

/-- A scan counts itself out. -/
def leave (n : Nesting) : Nesting := { n with depth := n.depth - 1 }

@[simp] theorem depth_enter (n : Nesting) : n.enter.depth = n.depth + 1 := rfl

@[simp] theorem deepest_enter (n : Nesting) : n.enter.deepest = max n.deepest (n.depth + 1) := rfl

@[simp] theorem depth_leave (n : Nesting) : n.leave.depth = n.depth - 1 := rfl

@[simp] theorem deepest_leave (n : Nesting) : n.leave.deepest = n.deepest := rfl

end Nesting

variable {σ : Type}

/-- A computation that counts itself in and out. -/
def Nesting.within {α : Type} (x : StateT Nesting (StateM σ) α) : StateT Nesting (StateM σ) α := do
  modify enter
  let r ← x
  modify leave
  return r

/-- Means beside a counter that they do not look at. -/
def Means.counted (w : Means (StateM σ)) : Means (StateT Nesting (StateM σ)) where
  search := w.search
  timeIsOver := liftM w.timeIsOver
  entries id := liftM (w.entries id)
  made text := liftM (w.made text)

/-- A scan with a counter. The texts of groups are scanned again if the counter is below its limit. The fuel
is there for the recursion to end and has no part in this. -/
def Scanner.countedScan (sc : Scanner (StateT Nesting (StateM σ))) (limit : Nat) :
    (fuel : Nat) → Stack → List Char → Nat → Bool → (continuing : Bool) →
      StateT Nesting (StateM σ) (Tokens × Stack)
  | 0, stack, line, pos, firstLine, continuing =>
    sc.scanWith none stack line pos firstLine continuing
  | fuel + 1, stack, line, pos, firstLine, continuing => do
    let again : Again (StateT Nesting (StateM σ)) := fun stack text pos firstLine => do
      let r ← Nesting.within (countedScan sc limit fuel stack text pos firstLine false)
      return r.1
    let nesting ← get
    sc.scanWith (if nesting.depth < limit then some again else none) stack line pos firstLine continuing

/-- Computations that come to the same beside a counter, which is in the end what it was at the beginning and
at no time beyond its limit. -/
def Link.counted (σ : Type) (depth limit : Nat) : Link (StateT Nesting (StateM σ)) (StateM σ) where
  rel R x y := ∀ (n : Nesting) (state : σ), n.depth = depth → n.deepest ≤ limit →
    R (x n state).1.1 (y state).1 ∧ (x n state).2 = (y state).2 ∧
      (x n state).1.2.depth = depth ∧ (x n state).1.2.deepest ≤ limit
  pure h _ _ hdepth hdeepest := ⟨h, rfl, hdepth, hdeepest⟩
  bind {_ _ _ _ _ _ x y f h} hx hf n state hdepth hdeepest := by
    obtain ⟨hr, hstate, hdepth, hdeepest⟩ := hx n state hdepth hdeepest
    have hbind : (x >>= f) n state = f (x n state).1.1 (x n state).1.2 (x n state).2 := rfl
    rw [hbind, hstate]
    exact hf _ _ hr (x n state).1.2 (y state).2 hdepth hdeepest

variable {depth limit : Nat}

theorem Link.counted_lift {α : Type} (x : StateM σ α) : (Link.counted σ depth limit).rel Eq (liftM x) x :=
  fun _ _ hdepth hdeepest => ⟨rfl, rfl, hdepth, hdeepest⟩

theorem Means.counted_linked (w : Means (StateM σ)) (g : Grammar) :
    Means.Linked (Link.counted σ depth limit) .same g g w.counted w where
  search := rfl
  timeIsOver := Link.counted_lift _
  entries := by
    rintro id _ rfl n state hdepth hdeepest
    exact ⟨List.forall₂_same.mpr fun _ _ => ⟨rfl, rfl⟩, rfl, hdepth, hdeepest⟩
  made _ := Link.counted_lift _

/-- A scan that counts itself in and out, where the counter is below its limit. -/
theorem Link.counted_within {α β : Type} {R : α → β → Prop} {x : StateT Nesting (StateM σ) α}
    {y : StateM σ β} (hlt : depth < limit) (h : (Link.counted σ (depth + 1) limit).rel R x y) :
    (Link.counted σ depth limit).rel R (Nesting.within x) y := by
  intro n state hdepth hdeepest
  obtain ⟨hr, hstate, hdepth', hdeepest'⟩ :=
    h n.enter state (by rw [Nesting.depth_enter, hdepth]) (by rw [Nesting.deepest_enter]; omega)
  refine ⟨hr, hstate, ?_, ?_⟩
  · show (x n.enter state).1.2.leave.depth = depth
    rw [Nesting.depth_leave, hdepth', Nat.add_sub_cancel]
  · show (x n.enter state).1.2.leave.deepest ≤ limit
    rw [Nesting.deepest_leave]
    exact hdeepest'

namespace Scanner

/-- **A counted scan is a scan with as many levels as are left to its counter**, whatever fuel it has that is
not less than these. -/
theorem countedScan_linked (w : Means (StateM σ)) (g : Grammar) (maxStalled fuel : Nat) :
    ∀ {depth : Nat}, depth ≤ limit → limit - depth ≤ fuel →
      ∀ stack line pos firstLine continuing, (Link.counted σ depth limit).rel Eq
        ((w.counted.scanner g maxStalled).countedScan limit fuel stack line pos firstLine continuing)
        ((w.scanner g maxStalled).scan (limit - depth) stack line pos firstLine continuing) := by
  have linked : ∀ {depth}, Linked (Link.counted σ depth limit) .same (w.counted.scanner g maxStalled)
      (w.scanner g maxStalled) := (w.counted_linked g).scanner (Likeness.grammars_refl Iff.rfl g) maxStalled
  -- Nothing differs between scans that have groups scanned again to the same tokens.
  have within : ∀ {depth again again'} stack line pos firstLine continuing,
      Option.Rel (Again.Linked (Link.counted σ depth limit) .same) again again' →
        (Link.counted σ depth limit).rel Eq
          ((w.counted.scanner g maxStalled).scanWith again stack line pos firstLine continuing)
          ((w.scanner g maxStalled).scanWith again' stack line pos firstLine continuing) := by
    intro depth again again' stack line pos firstLine continuing ha n state hdepth hdeepest
    obtain ⟨⟨htokens, hstack⟩, hrest⟩ :=
      scanWith_linked linked ha line pos firstLine (.refl stack) (fun _ => rfl) n state hdepth hdeepest
    exact ⟨Prod.ext htokens hstack.eq, hrest⟩
  induction fuel with
  | zero =>
    intro depth hle hfuel stack line pos firstLine continuing
    rw [Nat.le_zero.mp hfuel]
    exact within stack line pos firstLine continuing .none
  | succ fuel ih =>
    intro depth hle hfuel stack line pos firstLine continuing n state hdepth hdeepest
    -- The counter is read first, and is what it is said to be.
    have hread : ∀ {α : Type} (f : Nesting → StateT Nesting (StateM σ) α),
        (get >>= f) n state = f n n state := fun _ => rfl
    unfold countedScan
    rw [hread, hdepth, scan_eq]
    refine within stack line pos firstLine continuing ?_ n state hdepth hdeepest
    split
    · rename_i hlt
      obtain ⟨levels, hlevels⟩ : ∃ levels, limit - depth = levels + 1 := ⟨limit - (depth + 1), by omega⟩
      have hbelow : limit - (depth + 1) = levels := by omega
      rw [hlevels]
      refine .some fun {stack stack'} hst text pos firstLine => ?_
      obtain rfl := hst.eq
      have hnested := ih hlt (by omega) stack text pos firstLine false
      rw [hbelow] at hnested
      refine (Link.counted σ depth limit).bind (Link.counted_within hlt hnested) ?_
      rintro r _ rfl
      exact (Link.counted σ depth limit).pure rfl
    · rename_i hge
      rw [show limit - depth = 0 by omega]
      exact .none

/-- **Every scan ends**, whatever its grammar, and of the search nothing is asked but that its matches end in
the text. At each level, that of a line and those of groups within groups, a scan comes to its end after so many
steps as there are offsets from where it begins, times the steps that may stay at one of them; a step pushes
one frame at most; and the scan with the counter comes to the same as `scan` with the levels that are left to
the counter, which is after it what it was before, and at no time beyond the limit. -/
theorem scans_end (g : Grammar) {w : Means (StateM σ)} (hw : w.search.EndsInText) {maxStalled : Nat}
    (hsome : 0 < maxStalled) :
    let sc := w.scanner g maxStalled
    (∀ levels stack line pos firstLine continuing state,
      let again := sc.againAt levels
      let k := sc.enter again stack line pos firstLine continuing state
      ∃ n ≤ (width line - pos + 1) * maxStalled,
        sc.Runs again line n (k.1.start, k.2)
          (sc.scan levels stack line pos firstLine continuing state) ∧
        (sc.scan levels stack line pos firstLine continuing state).1.2.depth ≤ stack.depth + n) ∧
    (∀ levels line s state,
      (sc.step (sc.againAt levels) line (width line) s state).1.stack.depth ≤ s.stack.depth + 1) ∧
    ∀ (fuel : Nat) (n : Nesting), n.depth ≤ maxLevels → n.deepest ≤ maxLevels →
      maxLevels - n.depth ≤ fuel → ∀ stack line pos firstLine continuing state,
        let r := (w.counted.scanner g maxStalled).countedScan maxLevels fuel stack line pos firstLine
          continuing n state
        (r.1.1, r.2) =
            sc.scan (maxLevels - n.depth) stack line pos firstLine continuing state ∧
          r.1.2.depth = n.depth ∧ r.1.2.deepest ≤ maxLevels := by
  intro sc
  have hends : sc.EndsInText := Means.scanner_endsInText hw g maxStalled
  refine ⟨fun levels stack line pos firstLine continuing state => ?_, fun levels line s => ?_,
    fun fuel n hdepth hdeepest hfuel stack line pos firstLine continuing state => ?_⟩
  · have hruns := scanWith_runs (sc.againAt levels) line hends hsome stack pos firstLine continuing state
    rw [← scan_eq] at hruns
    exact hruns
  · exact step_depth_le
  · obtain ⟨hresult, hstate, hkept⟩ := countedScan_linked w g maxStalled fuel hdepth hfuel stack line pos
      firstLine continuing n state rfl hdeepest
    exact ⟨Prod.ext hresult hstate, hkept⟩

end Scanner

/-! ### An example -/

/-- A letter whose text is scanned for letters again. -/
def Source.selfText : Source.GrammarSource where
  scopeName := "source.self"
  patterns := [{
    matchPattern := some "([a-z])"
    captures := [(1, { patterns := [{ reference := some "$self" }] })] }]

/-- A letter is scanned within itself as often as it may be. -/
theorem scans_end_selfText : ∃ g, Grammar.ofSource Source.selfText = .ok g ∧
    (Memory.means g {}).search.EndsInText ∧
    let sc := (Memory.means g {}).scanner g 64
    let again := sc.againAt Scanner.maxLevels
    let k := sc.enter again (.root g) ['a'] 0 true true {}
    (∃ n ≤ 128,
      sc.Runs again ['a'] n (k.1.start, k.2) (sc.scan Scanner.maxLevels (.root g) ['a'] 0 true true {}) ∧
      (sc.scan Scanner.maxLevels (.root g) ['a'] 0 true true {}).1.2.depth ≤ 0 + n) ∧
    let r := ((Memory.means g {}).counted.scanner g 64).countedScan Scanner.maxLevels Scanner.maxLevels
      (.root g) ['a'] 0 true true {} {}
    (r.1.1, r.2) = sc.scan Scanner.maxLevels (.root g) ['a'] 0 true true {} ∧
      r.1.2.depth = 0 ∧ r.1.2.deepest = Scanner.maxLevels := by
  have run : (Grammar.ofSource Source.selfText).toOption.any (fun g => decide
      ((((Memory.means g {}).counted.scanner g 64).countedScan Scanner.maxLevels Scanner.maxLevels
        (.root g) ['a'] 0 true true {} {}).1.2.deepest = Scanner.maxLevels)) = true := by
    decide +kernel
  obtain ⟨g, hg, hdeepest⟩ := exists_ok_of_any run
  have hsearch : (Memory.means g {}).search.EndsInText := (Options.search_staysInText {}).endsInText
  obtain ⟨hruns, -, hcounted⟩ := Scanner.scans_end g hsearch (show 0 < 64 by decide)
  obtain ⟨hresult, hdepth, -⟩ := hcounted Scanner.maxLevels {} (Nat.zero_le _) (Nat.zero_le _)
    (Nat.le_refl _) (.root g) ['a'] 0 true true {}
  exact ⟨g, hg, hsearch, hruns Scanner.maxLevels (.root g) ['a'] 0 true true {}, hresult, hdepth,
    of_decide_eq_true hdeepest⟩

end ScopeLexer
