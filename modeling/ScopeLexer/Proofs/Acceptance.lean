/-
# What is accepted

A rule is refused for three reasons only: too many repositories within each other, captures with too great a
number, and an include that leads out of the grammar. All three can be told from the source and the number of
repositories around it. So a rule that is added somewhere is added everywhere at the same depth, whatever has
been added before it.

Key definitions: `RuleSource.Accepted`, `Assembly.Succeeds`.
Key theorems: `Assembly.accepted_of_addRule`, `Assembly.addRule_succeeds`, `Assembly.accepted_of_addGrammar`,
`Assembly.addGrammar_succeeds`.
-/
import ScopeLexer.Proofs.LexicalScope

namespace ScopeLexer

open Source (RuleSource GrammarSource)

namespace Source.RuleSource

/-- The number of repositories around the parts of a rule with `d` repositories around it. -/
def depthWithin (r : RuleSource) (d : Nat) : Nat := if r.repository.isEmpty then d else d + 1

/-- The greatest number of a capture is not too large. -/
def CapturesFit (cs : List (Nat × RuleSource)) : Prop :=
  ∀ last ∈ (cs.map (·.1)).getLast?, last ≤ CompileError.maxCaptureIndex

/-- The includes of a list do not lead out of the grammar. -/
def IncludesFit (own : String) (ms : List RuleSource) : Prop :=
  ∀ m ∈ ms, m.isDisabled = false → ∀ text, m.reference = some text →
    ∃ ref, Reference.ofText own text = .ok ref

/-- A source can be added where there are `d` repositories around it. -/
inductive Accepted (own : String) : Nat → RuleSource → Prop
  | intro {d : Nat} {r : RuleSource} (depth : r.repository ≠ [] → d < CompileError.maxRepositoryDepth)
      (openings : CapturesFit r.openings) (closings : CapturesFit r.closings)
      (includes : IncludesFit own r.members)
      (parts : ∀ p ∈ r.parts, Accepted own (r.depthWithin d) p.2) : Accepted own d r

/-- The entries of a repository have one more repository around them. -/
theorem depthWithin_of_mem {r : RuleSource} {e : String × RuleSource} (he : e ∈ r.repository) (d : Nat) :
    r.depthWithin d = d + 1 := by
  rw [depthWithin, List.isEmpty_eq_false_iff.mpr (List.ne_nil_of_mem he)]
  rfl

end Source.RuleSource

namespace Assembly

variable {own : String} {view view' : List RepositoryId} {r : RuleSource} {a b c : Assembly}

/-! ### What is added is accepted -/

/-- A repository comes into view if there are not too many already. -/
theorem inView_ok {id : RepositoryId} (h : inView id view a = .ok (view', b)) :
    view.length < CompileError.maxRepositoryDepth ∧ view' = id :: view ∧ b = a := by
  rw [inView] at h
  split at h
  · rename_i hdepth
    exact ⟨hdepth, pure_ok h⟩
  · cases h

theorem addRepository_depth (h : addRepository own view r.repository a = .ok (view', b)) :
    (r.repository ≠ [] → view.length < CompileError.maxRepositoryDepth) ∧
      view'.length = r.depthWithin view.length := by
  rw [addRepository_eq] at h
  rw [RuleSource.depthWithin]
  split at h
  · rename_i hempty
    obtain ⟨rfl, -⟩ := pure_ok h
    exact ⟨fun hne => absurd (List.isEmpty_iff.mp hempty) hne, (if_pos hempty).symm⟩
  · rename_i hempty
    obtain ⟨id, a₁, -, h⟩ := bind_ok h
    obtain ⟨v, a₂, hv, h⟩ := bind_ok h
    obtain ⟨rs, a₃, -, h⟩ := bind_ok h
    obtain ⟨u, a₄, -, h⟩ := bind_ok h
    obtain ⟨rfl, -⟩ := pure_ok h
    obtain ⟨hdepth, rfl, -⟩ := inView_ok hv
    exact ⟨fun _ => hdepth, (if_neg hempty).symm⟩

/-- A rule is accepted if its parts are. -/
theorem accepted_of_inner {k : RuleId} {os cs : List (Nat × RuleId)} {is : List Item}
    (hk : a.rules.size = k + 1) (hrepository : addRepository own view r.repository a = .ok (view', b))
    (inner : Inner own view' r b c os cs is)
    (hrule : ∀ p ∈ r.parts, ∀ view a id b, addRule own view p.2 a = .ok (id, b) →
      p.2.Accepted own view.length) : r.Accepted own view.length := by
  obtain ⟨hdepth, hlength⟩ := addRepository_depth hrepository
  obtain ⟨-, -, parts⟩ := parts_each (P := fun _ view _ r => r.Accepted own view.length)
    (fun h _ => h) hk hrepository inner fun p hp view a id b h =>
      ⟨hrule p hp view a id b h, (addRule_laid p.2 view a id b h).2⟩
  refine .intro hdepth inner.openings_le inner.closings_le (fun m hm hd text ht => ?_) fun p hp => ?_
  · obtain ⟨ref, href, -⟩ := inner.includes m hm hd text ht
    exact ⟨ref, href⟩
  · obtain ⟨id, hid⟩ := RuleSource.mem_numbered (k + 1) hp
    exact hlength ▸ parts _ hid

/-- **A rule that is added is accepted** at its depth. -/
theorem accepted_of_addRule (r : RuleSource) :
    ∀ view a id b, addRule own view r a = .ok (id, b) → r.Accepted own view.length := by
  induction r using RuleSource.induction with
  | h r ih =>
    intro view a id b h
    obtain ⟨rfl, view', a₁, a₂, os, cs, is, hrepository, inner, rfl⟩ := addRule_ok h
    have hreserved : a.reserved.rules.size = a.rules.size + 1 := by simp [reserved]
    exact accepted_of_inner hreserved hrepository inner ih

theorem accepted_of_addGrammar {s : GrammarSource} {root : Option RepositoryId}
    (h : addGrammar own s {} = .ok (root, b)) : s.root.Accepted own 0 := by
  obtain ⟨a₁, a₂, is, hrepository, inner, rfl⟩ := addGrammar_parts h
  exact accepted_of_inner (k := Grammar.rootRule) rfl hrepository inner fun p _ => accepted_of_addRule p.2

/-! ### What is accepted is added -/

/-- A step that is refused nowhere. -/
def Succeeds {α : Type} (x : Build α) : Prop := ∀ a, ∃ s b, x a = .ok (s, b)

namespace Succeeds

variable {α β : Type} {x : Build α}

theorem pure (s : α) : Succeeds (Pure.pure s) := fun a => ⟨s, a, rfl⟩

/-- The next step may rely on what the first one has come to. -/
theorem bind {f : α → Build β} (hx : Succeeds x)
    (hf : ∀ {s a b}, x a = .ok (s, b) → Succeeds (f s)) : Succeeds (x >>= f) := by
  intro a
  obtain ⟨s, b, hs⟩ := hx a
  obtain ⟨t, c, ht⟩ := hf hs b
  exact ⟨t, c, (bind_run hs).trans ht⟩

theorem addPattern (s : String) : Succeeds (addPattern s) := fun a => ⟨_, _, addPattern_run a s⟩

theorem reserveRule : Succeeds reserveRule := fun a => ⟨_, _, reserveRule_run a⟩

theorem setRule (id : RuleId) (r : Rule) : Succeeds (setRule id r) := fun a => ⟨_, _, setRule_run a id r⟩

theorem ofText {text : String} {ref : Reference} (h : Reference.ofText own text = .ok ref) :
    Succeeds (liftM (Reference.ofText own text)) := by
  intro a
  rw [h]
  exact ⟨ref, a, rfl⟩

/-! Parts are added one by one. -/

theorem addKeyed {κ : Type} : ∀ {es : List (κ × RuleSource)},
    (∀ e ∈ es, Succeeds (addRule own view e.2)) → Succeeds (addKeyed own view es)
  | [], _ => .pure []
  | e :: es, h => by
    rw [Assembly.addKeyed]
    refine .bind (h e List.mem_cons_self) fun _ => ?_
    exact .bind (addKeyed fun e he => h e (List.mem_cons_of_mem _ he)) fun _ => .pure _

theorem addRepository (hdepth : r.repository ≠ [] → view.length < CompileError.maxRepositoryDepth)
    (h : ∀ id, ∀ e ∈ r.repository, Succeeds (addRule own (id :: view) e.2)) :
    Succeeds (addRepository own view r.repository) := by
  rw [addRepository_eq]
  split
  · exact .pure view
  · rename_i hempty
    have hview : ∀ id, Succeeds (inView id view) := fun id a =>
      ⟨id :: view, a, by rw [inView, if_pos (hdepth fun hnil => hempty (List.isEmpty_iff.mpr hnil))]; rfl⟩
    refine .bind (fun a => ⟨_, _, rfl⟩) fun {id _ _} _ => .bind (hview id) fun {view' _ _} hv => ?_
    obtain ⟨-, rfl, -⟩ := inView_ok hv
    exact .bind (addKeyed (h id)) fun _ => .bind (fun a => ⟨_, _, rfl⟩) fun _ => .pure _

theorem addChecked {cs : List (Nat × RuleSource)} (hfit : RuleSource.CapturesFit cs)
    (h : ∀ c ∈ cs, Succeeds (addRule own view c.2)) : Succeeds (addChecked own view cs) := by
  rw [addChecked_eq]
  refine .bind (fun a => ⟨(), a, ?_⟩) fun _ => .bind (addKeyed h) fun _ => .pure _
  unfold checkCaptures
  cases hlast : cs.getLast? with
  | none => rfl
  | some last =>
    have hle : last.1 ≤ CompileError.maxCaptureIndex := hfit last.1 (by simp [List.getLast?_map, hlast])
    simp only [Nat.not_lt_of_le hle, if_false]
    rfl

theorem addItems {ms : List RuleSource} (index : Nat) (hfit : RuleSource.IncludesFit own ms)
    (h : ∀ p ∈ RuleSource.memberParts index ms, Succeeds (addRule own view p.2)) :
    Succeeds (addItems own view ms) := by
  induction ms generalizing index with
  | nil => exact .pure []
  | cons m ms ih =>
    have rest := ih (index + 1) fun m hm => hfit m (List.mem_cons_of_mem _ hm)
    rw [RuleSource.memberParts] at h
    rw [Assembly.addItems]
    cases hd : m.isDisabled with
    | true =>
      simp only [hd, Bool.true_or, if_true] at h ⊢
      exact rest h
    | false =>
      cases hr : m.reference with
      | some text =>
        obtain ⟨ref, href⟩ := hfit m List.mem_cons_self hd text hr
        simp only [hd, hr, Option.isSome_some, Bool.or_true, if_true] at h ⊢
        exact .bind (.ofText href) fun _ => .bind (.pure _) fun _ => .bind (rest h) fun _ => .pure _
      | none =>
        simp only [hd, hr, Option.isSome_none, Bool.or_false, Bool.false_eq_true, if_false,
          List.forall_mem_cons] at h ⊢
        exact .bind h.1 fun _ => .bind (.pure _) fun _ => .bind (rest h.2) fun _ => .pure _

theorem addSpan (head : RuleHead) (content : Option ScopeName) (closing opening : String)
    {os cs : Build CaptureRules} {is : Build (List Item)} (hos : Succeeds os) (hcs : Succeeds cs)
    (his : Succeeds is) : Succeeds (addSpan head content closing opening os cs is) :=
  .bind (addPattern closing) fun _ => .bind (addPattern opening) fun _ =>
    .bind hos fun _ => .bind hcs fun _ => .bind his fun _ => .pure _

end Succeeds

theorem members_succeed (hfit : RuleSource.IncludesFit own r.members)
    (h : ∀ p ∈ r.innerParts, Succeeds (addRule own view p.2)) : Succeeds (addItems own view r.members) :=
  .addItems 0 hfit fun p hp => h p (List.mem_append_right _ hp)

/-- **A rule that is accepted is added** wherever as many repositories are in view. -/
theorem addRule_succeeds {d : Nat} (h : r.Accepted own d) :
    ∀ view, view.length = d → Succeeds (addRule own view r) := by
  induction h with
  | @intro d r depth openings closings includes parts ih =>
    rintro view rfl
    have entries : ∀ id, ∀ e ∈ r.repository, Succeeds (addRule own (id :: view) e.2) := by
      intro id e he
      refine ih (.entry e.1, e.2) (List.mem_append_left _ (List.mem_map_of_mem he)) (id :: view) ?_
      rw [RuleSource.depthWithin_of_mem he, List.length_cons]
    rw [addRule_eq]
    refine .bind .reserveRule fun {id _ _} _ => .bind (.addRepository depth entries) fun {view' _ _} hv => ?_
    have inner : ∀ p ∈ r.innerParts, Succeeds (addRule own view' p.2) := fun p hp =>
      ih p (List.mem_append_right _ hp) view' (addRepository_depth hv).2
    have hos : Succeeds (addChecked own view' r.openings) := .addChecked openings fun c hc =>
      inner (.opening c.1, c.2) (List.mem_append_left _ (List.mem_append_left _ (List.mem_map_of_mem hc)))
    have hcs : Succeeds (addChecked own view' r.closings) := .addChecked closings fun c hc =>
      inner (.closing c.1, c.2) (List.mem_append_left _ (List.mem_append_right _ (List.mem_map_of_mem hc)))
    have his := members_succeed includes inner
    simp only [addChecked_orShared]
    rw [addBody_eq own _ r (addChecked own view') (addItems own view') (addItems_include own view')]
    refine .bind ?_ fun _ => .bind (.setRule _ _) fun _ => .pure _
    split
    · exact .bind (.addPattern _) fun _ => .bind hos fun _ => .pure _
    · exact .pure _
    · exact .bind (.addSpan _ _ _ _ hos hcs his) fun _ => .pure _
    · exact .bind (.addSpan _ _ _ _ hos hcs his) fun _ => .pure _
    · exact .bind his fun _ => .pure _

/-- A grammar whose rules are accepted is assembled. -/
theorem addGrammar_succeeds {s : GrammarSource} (h : s.root.Accepted own 0) :
    Succeeds (addGrammar own s) := by
  obtain ⟨depth, -, -, includes, parts⟩ := h
  have entries : ∀ id, ∀ e ∈ s.root.repository, Succeeds (addRule own [id] e.2) := by
    intro id e he
    refine addRule_succeeds (parts (.entry e.1, e.2) ?_) [id] (RuleSource.depthWithin_of_mem he 0).symm
    exact List.mem_append_left _ (List.mem_map_of_mem he)
  refine .bind .reserveRule fun _ => .bind (.addRepository depth entries) fun {view _ _} hv => ?_
  have inner : ∀ p ∈ s.root.innerParts, Succeeds (addRule own view p.2) := fun p hp =>
    addRule_succeeds (parts p (List.mem_append_right _ hp)) view (addRepository_depth (r := s.root) hv).2
  exact .bind (members_succeed includes inner) fun _ => .bind (.setRule _ _) fun _ => .pure _

end Assembly
end ScopeLexer
