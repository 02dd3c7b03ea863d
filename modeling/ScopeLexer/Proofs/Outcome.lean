/-
# What comes of a computation with a state

Tokenizing is written for any monad. Over a state, a property of the outcome that holds from every state
is passed on step by step, whatever the state is used for: a memory, a clock or both. A computation that may
fail over a state goes on with what it comes to, and its faults may be caught.

Key definitions: `Always`.
Key theorems: `Always.bind`, `exists_of_bind_ok`, `run_bind_ok`, `run_tryCatch_error`.
-/

namespace ScopeLexer

/-- The outcome has the property from every state. -/
def Always {σ α : Type} (x : StateM σ α) (P : α → Prop) : Prop := ∀ s, P (x s).1

namespace Always

variable {σ α β : Type} {x : StateM σ α} {f : α → StateM σ β} {P Q : α → Prop} {R : β → Prop}

theorem pure {a : α} (h : P a) : Always (Pure.pure a : StateM σ α) P := fun _ => h

theorem bind (hx : Always x P) (hf : ∀ a, P a → Always (f a) R) : Always (x >>= f) R :=
  fun s => hf _ (hx s) _

theorem mono (h : Always x P) (hpq : ∀ a, P a → Q a) : Always x Q := fun s => hpq _ (h s)

theorem and (hp : Always x P) (hq : Always x Q) : Always x fun a => P a ∧ Q a :=
  fun s => ⟨hp s, hq s⟩

theorem of_forall (h : ∀ a, P a) : Always x P := fun _ => h _

/-- Nothing need be known of the first outcome. -/
theorem bind' (hf : ∀ a, Always (f a) R) : Always (x >>= f) R := fun _ => hf _ _

end Always

/-- Steps that come to something do so one after the other. -/
theorem exists_of_bind_ok {ε α β : Type} {x : Except ε α} {f : α → Except ε β} {b : β}
    (h : (x >>= f) = .ok b) : ∃ a, x = .ok a ∧ f a = .ok b := by
  cases x with
  | error e => cases h
  | ok a => exact ⟨a, rfl, h⟩

/-- A computation that comes to something with a property does come to something. -/
theorem exists_ok_of_any {ε α : Type} {x : Except ε α} {P : α → Bool}
    (h : x.toOption.any P = true) : ∃ a, x = .ok a ∧ P a = true := by
  cases x with
  | error e => simp [Except.toOption] at h
  | ok a => exact ⟨a, rfl, by simpa [Except.toOption] using h⟩

/-! ### Computations that may fail over a state -/

section Runs

variable {ε σ α β : Type} {x : ExceptT ε (StateM σ) α} {s t : σ} {a : α} {fault : ε}

theorem run_bind_ok (f : α → ExceptT ε (StateM σ) β) (h : x s = (.ok a, t)) : (x >>= f) s = f a t := by
  show ExceptT.bindCont f (x s).1 (x s).2 = _
  rw [h]
  rfl

theorem run_bind_error (f : α → ExceptT ε (StateM σ) β) (h : x s = (.error fault, t)) :
    (x >>= f) s = (.error fault, t) := by
  show ExceptT.bindCont f (x s).1 (x s).2 = _
  rw [h]
  rfl

theorem run_tryCatch_ok (f : ε → ExceptT ε (StateM σ) α) (h : x s = (.ok a, t)) :
    (tryCatch x f) s = (.ok a, t) := by
  show (match (x s).1 with
    | .ok a => Pure.pure (.ok a)
    | .error e => f e : StateM σ (Except ε α)) (x s).2 = _
  rw [h]
  rfl

theorem run_tryCatch_error (f : ε → ExceptT ε (StateM σ) α) (h : x s = (.error fault, t)) :
    (tryCatch x f) s = f fault t := by
  show (match (x s).1 with
    | .ok a => Pure.pure (.ok a)
    | .error e => f e : StateM σ (Except ε α)) (x s).2 = _
  rw [h]

theorem run_adapt_ok {ε' : Type} (f : ε → ε') (h : x s = (.ok a, t)) :
    (x.adapt f) s = (.ok a, t) := by
  show ((x s).1.mapError f, (x s).2) = _
  rw [h]
  rfl

theorem run_adapt_error {ε' : Type} (f : ε → ε') (h : x s = (.error fault, t)) :
    (x.adapt f) s = (.error (f fault), t) := by
  show ((x s).1.mapError f, (x s).2) = _
  rw [h]
  rfl

end Runs

end ScopeLexer
