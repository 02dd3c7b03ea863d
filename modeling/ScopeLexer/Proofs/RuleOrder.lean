/-
# Rules in another order

The rules of a source are numbered one after the other, each with those in it. If some of them come in another
order, a one-to-one map of their numbers carries each of them, as a whole, over to where it stands then.

Key definitions: `Carries`, `RuleSource.exchange`, `RuleSource.Moved`.
Key theorems: `RuleSource.exists_moved`.
-/
import Mathlib.Algebra.BigOperators.Group.List.Basic
import ScopeLexer.Proofs.Placement

namespace ScopeLexer

open Source (RuleSource)

/-- A map carries `N` numbers from `n` on over to those from `n'` on, in their order. -/
def Carries (π : Nat → Nat) (n n' N : Nat) : Prop := ∀ j < N, π (n + j) = n' + j

namespace Carries

variable {π π' : Nat → Nat} {n n' n'' N : Nat}

/-- A part of what is carried over. -/
theorem part (h : Carries π n n' N) {m m' M : Nat} (i : Nat) (hm : m = n + i) (hm' : m' = n' + i)
    (hM : i + M ≤ N) : Carries π m m' M := by
  subst hm hm'
  intro j hj
  rw [Nat.add_assoc, Nat.add_assoc]
  exact h (i + j) (by omega)

theorem first (h : Carries π n n' N) (hN : 0 < N) : π n = n' := h 0 hN

theorem self (h : Carries π n n' N) (hN : 0 < N) : Carries π n (π n) N := h.first hN ▸ h

theorem trans (h : Carries π n n' N) (h' : Carries π' n' n'' N) : Carries (π' ∘ π) n n'' N := by
  intro j hj
  rw [Function.comp, h j hj, h' j hj]

end Carries

namespace Source.RuleSource

variable {κ : Type} {π : Nat → Nat} {n n' : Nat}

theorem count_pos (r : RuleSource) : 0 < r.count := by
  rw [count_eq]
  omega

theorem countAll_cons (p : κ × RuleSource) (ps : List (κ × RuleSource)) :
    countAll (p :: ps) = p.2.count + countAll ps := rfl

/-- Keys do not count. -/
theorem countAll_map {ι : Type} (f : κ → ι) (ps : List (κ × RuleSource)) :
    countAll (ps.map fun p => (f p.1, p.2)) = countAll ps := by
  simp [countAll, Function.comp_def]

theorem countAll_perm {ps qs : List (κ × RuleSource)} (h : ps.Perm qs) : countAll ps = countAll qs :=
  (h.map _).sum_nat

/-- Every number in a run is that of a rule or of one in it. -/
theorem exists_mem_numbered {ps : List (κ × RuleSource)} {i : Nat} (h : n ≤ i)
    (hi : i < n + countAll ps) : ∃ p ∈ numbered n ps, p.2.1 ≤ i ∧ i < p.2.1 + p.2.2.count := by
  induction ps generalizing n with
  | nil => exact absurd hi (Nat.not_lt.mpr h)
  | cons p ps ih =>
    rw [countAll_cons] at hi
    by_cases hfirst : i < n + p.2.count
    · exact ⟨_, List.mem_cons_self, h, hfirst⟩
    · obtain ⟨q, hq, hle, hlt⟩ := ih (n := n + p.2.count) (by omega) (by omega)
      exact ⟨q, List.mem_cons_of_mem _ hq, hle, hlt⟩

/-- Each rule of a run that is carried over is carried over. -/
theorem carries_of_mem {ps : List (κ × RuleSource)} (h : Carries π n n' (countAll ps))
    {p : κ × RuleId × RuleSource} (hp : p ∈ numbered n ps) :
    Carries π p.2.1 (π p.2.1) p.2.2.count := by
  induction ps generalizing n n' with
  | nil => cases hp
  | cons q ps ih =>
    rw [countAll_cons] at h
    rcases List.mem_cons.mp hp with rfl | hp
    · have hle : 0 + q.2.count ≤ q.2.count + countAll ps := by omega
      exact (h.part 0 rfl rfl hle).self q.2.count_pos
    · exact ih (h.part q.2.count rfl rfl (Nat.le_refl _)) hp

section

variable {r : RuleSource} {k k' : Nat}

/-! A rule that is carried over as a whole is carried over with its parts. -/

theorem carries_parts (h : Carries π k k' r.count) : Carries π (k + 1) (k' + 1) (countAll r.parts) :=
  h.part 1 rfl rfl (Nat.le_of_eq r.count_eq.symm)

theorem carries_repository (h : Carries π k k' r.count) :
    Carries π (k + 1) (k' + 1) (countAll r.repository) := by
  have hcount := r.count_parts
  exact h.part 1 rfl rfl (by omega)

theorem carries_openings (h : Carries π k k' r.count) :
    Carries π (r.firstOpening k) (r.firstOpening k') (countAll r.openings) := by
  have hcount := r.count_parts
  exact h.part (1 + countAll r.repository) (Nat.add_assoc _ _ _) (Nat.add_assoc _ _ _) (by omega)

theorem carries_closings (h : Carries π k k' r.count) :
    Carries π (r.firstClosing k) (r.firstClosing k') (countAll r.closings) := by
  have hcount := r.count_parts
  refine h.part (1 + countAll r.repository + countAll r.openings) ?_ ?_ (by omega)
  all_goals
    unfold firstClosing firstOpening
    omega

theorem carries_members (h : Carries π k k' r.count) :
    Carries π (r.firstMember k) (r.firstMember k') (countAll (memberParts 0 r.members)) := by
  have hcount := r.count_parts
  refine h.part (1 + countAll r.repository + countAll r.openings + countAll r.closings) ?_ ?_ (by omega)
  all_goals
    unfold firstMember firstClosing firstOpening
    omega

end

/-- Two neighbours change places. -/
def exchange (n x y i : Nat) : Nat :=
  if i < n then i else if i < n + x then i + y else if i < n + x + y then i - x else i

theorem exchange_injective (n x y : Nat) : Function.Injective (exchange n x y) := by
  intro i j h
  unfold exchange at h
  split_ifs at h <;> omega

theorem exchange_first (n x y : Nat) : Carries (exchange n x y) n (n + y) x := by
  intro j hj
  unfold exchange
  split_ifs <;> omega

theorem exchange_second (n x y : Nat) : Carries (exchange n x y) (n + x) n y := by
  intro j hj
  unfold exchange
  split_ifs <;> omega

theorem exchange_after {n x y i : Nat} (hi : n + x + y ≤ i) : exchange n x y i = i := by
  unfold exchange
  split_ifs <;> omega

/-- A map carries each rule in a list, with those in it, over to where it stands in another list. -/
structure Moved (π : Nat → Nat) (n : Nat) (ps qs : List (κ × RuleSource)) : Prop where
  injective : Function.Injective π
  before : ∀ i < n, π i = i
  after : ∀ i, n + countAll ps ≤ i → π i = i
  parts : ∀ p ∈ numbered n ps, (p.1, π p.2.1, p.2.2) ∈ numbered n qs ∧ Carries π p.2.1 (π p.2.1) p.2.2.count

namespace Moved

variable {ps qs qs' : List (κ × RuleSource)}

theorem refl_nil : Moved id n ([] : List (κ × RuleSource)) [] :=
  ⟨Function.injective_id, fun _ _ => rfl, fun _ _ => rfl, fun _ hp => absurd hp List.not_mem_nil⟩

/-- The first one stays. -/
theorem cons {p : κ × RuleSource} (h : Moved π (n + p.2.count) ps qs) : Moved π n (p :: ps) (p :: qs) where
  injective := h.injective
  before i hi := h.before i (by omega)
  after i hi := h.after i (by rwa [countAll_cons, ← Nat.add_assoc] at hi)
  parts q hq := by
    rcases List.mem_cons.mp hq with rfl | hq
    · have hpos := p.2.count_pos
      have hfirst : π n = n := h.before n (by omega)
      refine ⟨hfirst.symm ▸ List.mem_cons_self, fun j hj => ?_⟩
      have hj : j < p.2.count := hj
      exact hfirst.symm ▸ h.before (n + j) (by omega)
    · obtain ⟨hmem, hcarries⟩ := h.parts q hq
      exact ⟨List.mem_cons_of_mem _ hmem, hcarries⟩

/-- The first two change places. -/
theorem swap (p q : κ × RuleSource) (ps : List (κ × RuleSource)) :
    Moved (exchange n q.2.count p.2.count) n (q :: p :: ps) (p :: q :: ps) where
  injective := exchange_injective _ _ _
  before _ hi := if_pos hi
  after i hi := exchange_after (by
    rw [countAll_cons, countAll_cons] at hi
    omega)
  parts x hx := by
    have first := exchange_first n q.2.count p.2.count
    have second := exchange_second n q.2.count p.2.count
    rcases List.mem_cons.mp hx with rfl | hx
    · refine ⟨?_, first.self q.2.count_pos⟩
      show (q.1, exchange n q.2.count p.2.count n, q.2) ∈ _
      rw [first.first q.2.count_pos]
      exact List.mem_cons_of_mem _ List.mem_cons_self
    rcases List.mem_cons.mp hx with rfl | hx
    · refine ⟨?_, second.self p.2.count_pos⟩
      show (p.1, exchange n q.2.count p.2.count (n + q.2.count), p.2) ∈ _
      rw [second.first p.2.count_pos]
      exact List.mem_cons_self
    · have hle : n + q.2.count + p.2.count ≤ x.2.1 := le_of_mem_numbered hx
      have hx' : exchange n q.2.count p.2.count x.2.1 = x.2.1 := exchange_after hle
      refine ⟨?_, fun j _ => ?_⟩
      · rw [hx', numbered, numbered, Nat.add_right_comm n p.2.count]
        exact List.mem_cons_of_mem _ (List.mem_cons_of_mem _ hx)
      · rw [hx']
        exact exchange_after (Nat.le_trans hle (Nat.le_add_right _ j))

theorem trans {π' : Nat → Nat} (h : Moved π n ps qs) (h' : Moved π' n qs qs')
    (hcount : countAll qs = countAll ps) : Moved (π' ∘ π) n ps qs' where
  injective := h'.injective.comp h.injective
  before i hi := by rw [Function.comp, h.before i hi, h'.before i hi]
  after i hi := by rw [Function.comp, h.after i hi, h'.after i (hcount ▸ hi)]
  parts p hp := by
    obtain ⟨hmem, hcarries⟩ := h.parts p hp
    obtain ⟨hmem', hcarries'⟩ := h'.parts _ hmem
    exact ⟨hmem', hcarries.trans hcarries'⟩

end Moved

/-- **Rules in another order**: a map of their numbers carries each of them over to where it stands then. -/
theorem exists_moved {ps qs : List (κ × RuleSource)} (h : ps.Perm qs) :
    ∀ n : Nat, ∃ π, Moved π n ps qs := by
  induction h with
  | nil => exact fun _ => ⟨id, .refl_nil⟩
  | cons p _ ih => exact fun n => (ih (n + p.2.count)).imp fun _ => .cons
  | swap p q ps => exact fun _ => ⟨_, .swap p q ps⟩
  | trans h _ ih ih' =>
    intro n
    obtain ⟨π, moved⟩ := ih n
    obtain ⟨π', moved'⟩ := ih' n
    exact ⟨π' ∘ π, moved.trans moved' (countAll_perm h.symm)⟩

end Source.RuleSource
end ScopeLexer
