/-
# How tokens grow

Tokens are only ever added at the end, each where the one before it ends. So whatever holds of all that is
produced holds of every token in the end. What is produced in a line ends where a character begins, and
its scopes begin with the scope of the grammar; the groups of a match keep to this, also where their texts
are tokenized again.

Key definitions: `Tokens.Grows`, `Good`, `InText`, `GrowsAgain`.
Key theorems: `Tokens.Grows.of_mem`, `Sweep.run_grows`.
-/
import ScopeLexer.Proofs.Boundary
import ScopeLexer.Proofs.StackLayers

namespace ScopeLexer

open Regex (Captures)

namespace Tokens

/-- Tokens have come from others by producing some, each with a property of its end and its scopes. -/
inductive Grows (Q : Nat → List Scope → Prop) (ts : Tokens) : Tokens → Prop
  | refl : Grows Q ts ts
  | produce {us : Tokens} {stop : Nat} {scopes : List Scope} (h : Grows Q ts us)
      (hq : Q stop scopes) : Grows Q ts (us.produce stop scopes)

namespace Grows

variable {Q R : Nat → List Scope → Prop} {ts us vs : Tokens}

theorem trans (h : Grows Q ts us) (h' : Grows Q us vs) : Grows Q ts vs := by
  induction h' with
  | refl => exact h
  | produce _ hq ih => exact ih.produce hq

theorem mono (h : Grows Q ts us) (hqr : ∀ stop scopes, Q stop scopes → R stop scopes) :
    Grows R ts us := by
  induction h with
  | refl => exact .refl
  | produce _ hq ih => exact ih.produce (hqr _ _ hq)

/-- Producing once. -/
theorem single {stop : Nat} {scopes : List Scope} (hq : Q stop scopes) :
    Grows Q ts (ts.produce stop scopes) :=
  .produce .refl hq

theorem foldl {l : List Token} (h : ∀ t ∈ l, Q t.stop t.scopes) :
    Grows Q ts (l.foldl (fun ts t => ts.produce t.stop t.scopes) ts) := by
  induction l generalizing ts with
  | nil => exact .refl
  | cons t l ih =>
    exact (single (h t List.mem_cons_self)).trans (ih fun t ht => h t (List.mem_cons_of_mem _ ht))

/-- What holds of all that is produced holds of the tokens. -/
theorem of_mem (h : Grows Q ts us) : ∀ t ∈ us.done, t ∈ ts.done ∨ Q t.stop t.scopes := by
  induction h with
  | refl => exact fun t ht => .inl ht
  | @produce us stop scopes _ hq ih =>
    intro t ht
    unfold Tokens.produce at ht
    split at ht
    · exact ih t ht
    · rcases List.mem_cons.mp ht with rfl | ht
      · exact .inr hq
      · exact ih t ht

/-- What holds of all that is produced holds of the last end, if that has moved. -/
theorem of_last (h : Grows Q ts us) : us.last = ts.last ∨ ∃ scopes, Q us.last scopes := by
  induction h with
  | refl => exact .inl rfl
  | @produce us stop scopes _ hq ih =>
    unfold Tokens.produce
    split
    · exact ih
    · exact .inr ⟨scopes, hq⟩

end Grows
end Tokens

/-! ### What may be produced -/

/-- An end of a token in a line, and its scopes, as they should be. -/
structure Good (g : Grammar) (line : List Char) (stop : Nat) (scopes : List Scope) : Prop where
  boundary : Text.Boundary line stop
  scope : scopes.head? = some g.scope

/-- Every group that took part in a match lies in the text. -/
def InText (text : List Char) (captures : Captures) : Prop :=
  ∀ start stop, some (start, stop) ∈ captures → Text.Boundary text start ∧ Text.Boundary text stop

variable {σ : Type}

/-- Tokenizing a text again, if that is possible, produces what may be produced in it. -/
def GrowsAgain (g : Grammar) (again : Option (Again (StateM σ))) : Prop :=
  ∀ a ∈ again, ∀ stack text pos firstLine, stack.InLayers g →
    Always (a stack text pos firstLine) (Tokens.Grows (Good g text) ⟨[], pos⟩)

theorem growsAgain_none (g : Grammar) : GrowsAgain g (none : Option (Again (StateM σ))) := nofun

/-! ### Groups -/

section Groups

variable {Q : Nat → List Scope → Prop} {ts : Tokens}

theorem closeUpTo_grows (pos : Nat) : ∀ {groups : OpenGroups} (ts : Tokens),
    (∀ e ∈ groups, Q e.2 e.1) → Tokens.Grows Q ts (closeUpTo pos groups ts).1 ∧
      ∀ e ∈ (closeUpTo pos groups ts).2, e ∈ groups
  | [], ts, _ => ⟨.refl, fun _ h => h⟩
  | (scopes, stop) :: rest, ts, h => by
    unfold closeUpTo
    split
    · obtain ⟨grows, sub⟩ := closeUpTo_grows pos (ts.produce stop scopes) fun e he =>
        h e (List.mem_cons_of_mem _ he)
      exact ⟨(Tokens.Grows.single (h _ List.mem_cons_self)).trans grows,
        fun e he => List.mem_cons_of_mem _ (sub e he)⟩
    · exact ⟨.refl, fun _ h => h⟩

/-- Groups are closed, and no others are open. -/
theorem closeUpTo_sub {pos : Nat} {groups : OpenGroups} {ts : Tokens} {g : List Scope × Nat}
    (h : g ∈ (closeUpTo pos groups ts).2) : g ∈ groups :=
  (closeUpTo_grows (Q := fun _ _ => True) pos ts fun _ _ => trivial).2 g h

theorem closeAll_grows {groups : OpenGroups} (h : ∀ e ∈ groups, Q e.2 e.1) :
    Tokens.Grows Q ts (closeAll groups ts) := by
  unfold closeAll
  induction groups generalizing ts with
  | nil => exact .refl
  | cons e groups ih =>
    exact (Tokens.Grows.single (h e List.mem_cons_self)).trans
      (ih fun e he => h e (List.mem_cons_of_mem _ he))

theorem scopesWithin_head {groups : OpenGroups} {outer : List Scope} {scope : Scope}
    (hg : ∀ e ∈ groups, e.1.head? = some scope) (ho : outer.head? = some scope) :
    (scopesWithin groups outer).head? = some scope := by
  cases groups with
  | nil => exact ho
  | cons e groups => exact hg e List.mem_cons_self

end Groups

namespace Sweep

/-- What a sweep needs to produce only what may be produced. -/
structure Ready (w : Sweep (StateM σ)) : Prop where
  layers : w.stack.InLayers w.grammar
  again : GrowsAgain w.grammar w.again

variable {w : Sweep (StateM σ)} {ts : Tokens}

/-- A group that is tokenized again. Its text is a first part of the line. -/
theorem group_grows {again : Again (StateM σ)} (hw : w.Ready) (ha : w.again = some again)
    (id : RuleId) (start stop : Nat) :
    Always (w.group again id start stop ts) (ts.Grows (Good w.grammar w.line)) := by
  unfold group
  refine .bind (hw.again again ha _ _ _ _
    (hw.layers.push (List.prefix_append _ _) (List.prefix_append _ _))) ?_
  intro inner hinner
  refine .pure (.foldl fun t ht => ?_)
  have good := (hinner.of_mem t (List.mem_reverse.mp ht)).resolve_left List.not_mem_nil
  refine ⟨?_, good.scope⟩
  cases htake : Text.takeBytes? w.line stop with
  | none => simpa [htake] using good.boundary
  | some text =>
    obtain ⟨rest, hline, -⟩ := Text.boundary_of_takeBytes? htake
    rw [htake] at good
    rw [hline]
    exact good.boundary.append rest

/-- **The groups of a match produce what may be produced.** -/
theorem run_grows (hw : w.Ready) : ∀ {entries : List (Option RuleId × Option (Nat × Nat))}
    {groups : OpenGroups} {ts : Tokens},
    (∀ id start stop, (id, some (start, stop)) ∈ entries →
      Text.Boundary w.line start ∧ Text.Boundary w.line stop) →
    (∀ e ∈ groups, Good w.grammar w.line e.2 e.1) →
      Always (w.run entries groups ts) (ts.Grows (Good w.grammar w.line))
  | [], groups, ts, _, hg => .pure (closeAll_grows hg)
  | (none, _) :: rest, groups, ts, he, hg => by
    unfold run
    exact run_grows hw (fun id start stop h => he id start stop (List.mem_cons_of_mem _ h)) hg
  | (some _, none) :: rest, groups, ts, he, hg => by
    unfold run
    exact run_grows hw (fun id start stop h => he id start stop (List.mem_cons_of_mem _ h)) hg
  | (some id, some (start, stop)) :: rest, groups, ts, he, hg => by
    -- What is open when the group begins is closed first; then the group is opened or tokenized again.
    have hrest : ∀ id start stop, (id, some (start, stop)) ∈ rest →
        Text.Boundary w.line start ∧ Text.Boundary w.line stop :=
      fun id start stop h => he id start stop (List.mem_cons_of_mem _ h)
    obtain ⟨hstart, hstop⟩ := he _ start stop List.mem_cons_self
    unfold run
    split
    · exact .pure (closeAll_grows hg)
    · split
      · exact run_grows hw hrest hg
      · obtain ⟨closed, left⟩ := closeUpTo_grows start ts hg
        simp only
        generalize closeUpTo start groups ts = closing at closed left ⊢
        have hgroups : ∀ e ∈ closing.2, Good w.grammar w.line e.2 e.1 := fun e h => hg e (left e h)
        have houter : (scopesWithin closing.2 w.stack.top.contentScopes).head? =
            some w.grammar.scope :=
          scopesWithin_head (fun e h => (hgroups e h).scope) hw.layers.top_scope
        have begun := closed.produce (Good.mk hstart houter)
        split
        · rename_i again hagain _
          refine .bind (group_grows hw hagain id start stop) ?_
          intro ts' hts'
          exact (run_grows hw hrest hgroups).mono fun us h => (begun.trans hts').trans h
        · refine (run_grows hw hrest ?_).mono fun us h => begun.trans h
          intro e he
          split at he
          · exact hgroups e he
          · rcases List.mem_cons.mp he with rfl | he
            · exact ⟨hstop, Layered.head?_of_prefix (List.prefix_append _ _) houter⟩
            · exact hgroups e he

theorem tokens_grows (hw : w.Ready) (hc : InText w.line w.captures) (rules : CaptureRules) :
    Always (w.tokens rules ts) (ts.Grows (Good w.grammar w.line)) :=
  run_grows hw (fun _ start stop h => hc start stop (List.of_mem_zip h).2) nofun

end Sweep
end ScopeLexer
