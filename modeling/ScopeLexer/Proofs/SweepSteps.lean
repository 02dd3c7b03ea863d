/-
# What a sweep makes of a group

A sweep goes over the groups of a match one by one. It ends with a group that has a rule and begins behind the
match. To any other group with a rule it comes, unless the group is empty: it closes the groups that end before
it, and produces what lies before it; then the text of the group is tokenized again, or the group is open, if
its rule has a name. This is told here once, apart from the sweep over the rest.

Key definitions: `GroupEntry`, `Sweep.endsWith`, `Sweep.visit`, `Sweep.Visits`, `Scanner.sweepOver`.
Key theorems: `Sweep.run_cons`, `Sweep.visits_visit`, `Scanner.sweep_eq_run`.
-/
import Mathlib.Data.List.TakeWhile
import ScopeLexer.Tokenize.Scan

namespace ScopeLexer

open Regex (Captures)

/-- A group of a match with its rule, if it has one, and its span, if it took part. -/
abbrev GroupEntry := Option RuleId × Option (Nat × Nat)

namespace Sweep

variable {m : Type → Type} (w : Sweep m)

/-- A sweep ends with a group that has a rule and begins behind the match. -/
def endsWith : GroupEntry → Bool
  | (some _, some (start, _)) => decide (w.matchEnd < start)
  | _ => false

/-- The groups that a sweep comes to. -/
def reached (entries : List GroupEntry) : List GroupEntry := entries.takeWhile fun e => !w.endsWith e

/-- The groups from the one on that a sweep ends with. -/
def unreached (entries : List GroupEntry) : List GroupEntry := entries.dropWhile fun e => !w.endsWith e

section

variable {w} {e : GroupEntry} {rest : List GroupEntry}

theorem reached_cons (h : w.endsWith e = false) : w.reached (e :: rest) = e :: w.reached rest :=
  List.takeWhile_cons_of_pos (by simp [h])

theorem reached_cons_end (h : w.endsWith e = true) : w.reached (e :: rest) = [] :=
  List.takeWhile_cons_of_neg (by simp [h])

theorem unreached_cons (h : w.endsWith e = false) : w.unreached (e :: rest) = w.unreached rest :=
  List.dropWhile_cons_of_pos (by simp [h])

theorem unreached_cons_end (h : w.endsWith e = true) : w.unreached (e :: rest) = e :: rest :=
  List.dropWhile_cons_of_neg (by simp [h])

end

/-- The scopes where a group begins. -/
def scopesAt (start : Nat) (groups : OpenGroups) (ts : Tokens) : List Scope :=
  scopesWithin (closeUpTo start groups ts).2 w.stack.top.contentScopes

/-- The tokens up to where a group begins. -/
def begun (start : Nat) (groups : OpenGroups) (ts : Tokens) : Tokens :=
  (closeUpTo start groups ts).1.produce start (w.scopesAt start groups ts)

/-- The groups that are open within a group. -/
def opened (id : RuleId) (start stop : Nat) (groups : OpenGroups) (ts : Tokens) : OpenGroups :=
  let names := (w.grammar.rule id).nameScopes w.line w.captures
  let groups' := (closeUpTo start groups ts).2
  if names.isEmpty then groups' else (w.scopesAt start groups ts ++ names, stop) :: groups'

variable [Monad m]

/-- What a sweep makes of a group that it comes to: the tokens, and the groups that are open then. -/
def visit (e : GroupEntry) (groups : OpenGroups) (ts : Tokens) : m (Tokens × OpenGroups) :=
  match e with
  | (some id, some (start, stop)) =>
    if start = stop then return (ts, groups)
    else
      match w.again, (w.grammar.rule id).hasItems with
      | some again, true => do
        let us ← w.group again id start stop (w.begun start groups ts)
        return (us, (closeUpTo start groups ts).2)
      | _, _ => return (w.begun start groups ts, w.opened id start stop groups ts)
  | _ => return (ts, groups)

/-- A group whose text is tokenized again. -/
theorem visit_scanned {id : RuleId} {start stop : Nat} {again : Again m} (hne : start ≠ stop)
    (hagain : w.again = some again) (hitems : (w.grammar.rule id).hasItems = true) (groups : OpenGroups)
    (ts : Tokens) : w.visit (some id, some (start, stop)) groups ts = (do
      let us ← w.group again id start stop (w.begun start groups ts)
      return (us, (closeUpTo start groups ts).2)) := by
  simp [visit, hne, hagain, hitems]

/-- **A sweep visits the first group**, or it ends there. -/
theorem run_cons [LawfulMonad m] (e : GroupEntry) (rest : List GroupEntry) (groups : OpenGroups)
    (ts : Tokens) : w.run (e :: rest) groups ts =
      if w.endsWith e then pure (closeAll groups ts)
      else w.visit e groups ts >>= fun r => w.run rest r.2 r.1 := by
  obtain ⟨_ | id, _ | ⟨start, stop⟩⟩ := e
  · simp [run, endsWith, visit]
  · simp [run, endsWith, visit]
  · simp [run, endsWith, visit]
  · simp only [run, endsWith, decide_eq_true_eq, visit]
    split
    · rfl
    · split
      · rw [pure_bind]
      · generalize w.again = again
        generalize Rule.hasItems (w.grammar.rule id) = items
        cases again with
        | none =>
          rw [pure_bind]
          rfl
        | some again =>
          cases items with
          | false =>
            rw [pure_bind]
            rfl
          | true =>
            rw [bind_assoc]
            simp only [pure_bind]
            rfl

/-- The ways to visit a group. -/
inductive Visits (groups : OpenGroups) (ts : Tokens) : GroupEntry → m (Tokens × OpenGroups) → Prop
  /-- It has no rule or no part in the match, or it is empty. -/
  | passed {e : GroupEntry} (h : ∀ id start stop, e = (some id, some (start, stop)) → start = stop) :
      Visits groups ts e (pure (ts, groups))
  /-- Its text is tokenized again. -/
  | scanned {id : RuleId} {start stop : Nat} {again : Again m} (hne : start ≠ stop)
      (hagain : w.again = some again) (hitems : (w.grammar.rule id).hasItems = true) :
      Visits groups ts (some id, some (start, stop)) (do
        let us ← w.group again id start stop (w.begun start groups ts)
        return (us, (closeUpTo start groups ts).2))
  /-- It is open if its rule has a name. -/
  | opened {id : RuleId} {start stop : Nat} (hne : start ≠ stop)
      (hplain : (w.again.isSome && (w.grammar.rule id).hasItems) = false) :
      Visits groups ts (some id, some (start, stop))
        (pure (w.begun start groups ts, w.opened id start stop groups ts))

theorem visits_visit (e : GroupEntry) (groups : OpenGroups) (ts : Tokens) :
    w.Visits groups ts e (w.visit e groups ts) := by
  unfold visit
  split
  · rename_i id start stop
    split
    · rename_i hempty
      refine .passed fun _ _ _ h => ?_
      cases h
      exact hempty
    · rename_i hne
      split
      · rename_i again hagain hitems
        exact .scanned hne hagain hitems
      · rename_i hplain
        refine .opened hne ?_
        cases ha : w.again with
        | none => rfl
        | some again =>
          cases hitems : (w.grammar.rule id).hasItems with
          | false => rfl
          | true => exact absurd hitems (hplain again ha)
  · rename_i hnone
    exact .passed fun id start stop h => absurd h (hnone id start stop)

end Sweep

/-! ### Matches -/

namespace Scanner

variable {m : Type → Type} (sc : Scanner m) (again : Option (Again m)) (stack : Stack)
  (line : List Char) (firstLine : Bool)

/-- The sweep over the groups of a match. -/
def sweepOver (captures : Captures) : Sweep m := ⟨sc.grammar, again, stack, line, captures, firstLine⟩

/-- A sweep knows where its match ends. -/
theorem matchEnd_sweepOver {sc : Scanner m} {again : Option (Again m)} {stack : Stack} {line : List Char}
    {firstLine : Bool} {captures : Captures} {start stop : Nat}
    (h : captures.head? = some (some (start, stop))) :
    (sc.sweepOver again stack line firstLine captures).matchEnd = stop := by
  obtain ⟨others, rfl⟩ := List.head?_eq_some_iff.mp h
  rfl

theorem sweep_eq_run [Monad m] (rules : CaptureRules) (captures : Captures) (ts : Tokens) :
    sc.sweep again stack line firstLine rules captures ts =
      (sc.sweepOver again stack line firstLine captures).run (rules.zip captures) [] ts := by
  cases rules <;> rfl

end Scanner
end ScopeLexer
