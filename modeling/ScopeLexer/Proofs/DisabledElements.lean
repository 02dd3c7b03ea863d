/-
# Disabled elements

An element of a list of patterns that is disabled is left out where the list is added, so that a grammar is
the same as if the element were not there at all. There is one exception. Whether a rule has patterns of its
own is asked before the disabled ones are left out. A rule that has nothing to match, and whose only element
is disabled, is neither taken for a rule that only gives a scope nor for one that includes another one: its
name and its include are lost with the element.

A place in a source is a list of steps, each from a rule to one of those written in it. What is made at a place
depends on what is written there only if the place is reached: within an element that is disabled, or one that
includes another rule, nothing counts.

Key definitions: `Step`, `RuleSource.edit`, `RuleSource.reached?`, `RuleSource.disable`, `RuleSource.delete`,
`RuleSource.losesAll`, `Assembly.Alike`.
Key theorems: `Assembly.alike_edit`, `Assembly.alike_delete`, `Grammar.ofSource_disable`.
-/
import ScopeLexer.Proofs.Assembling
import ScopeLexer.Proofs.Outcome
import ScopeLexer.Tokenize.Session

namespace ScopeLexer

open Source (Flag RuleSource GrammarSource)

namespace Source

/-- The keys under which captures are written. -/
inductive CaptureKey where
  | captures
  | beginCaptures
  | endCaptures
  | whileCaptures

/-- A step from a rule to one that is written in it. -/
inductive Step where
  | entry (i : Nat)
  | capture (key : CaptureKey) (i : Nat)
  | element (i : Nat)

namespace RuleSource

/-- The captures under a key. -/
def capturesOf (r : RuleSource) : CaptureKey → List (Nat × RuleSource)
  | .captures => r.captures
  | .beginCaptures => r.beginCaptures
  | .endCaptures => r.endCaptures
  | .whileCaptures => r.whileCaptures

/-- A rule with other captures under a key. -/
def withCaptures (r : RuleSource) (cs : List (Nat × RuleSource)) : CaptureKey → RuleSource
  | .captures => { r with captures := cs }
  | .beginCaptures => { r with beginCaptures := cs }
  | .endCaptures => { r with endCaptures := cs }
  | .whileCaptures => { r with whileCaptures := cs }

/-- A rule in which what is written at a place is replaced by what `f` makes of it. -/
def edit (f : RuleSource → RuleSource) : List Step → RuleSource → RuleSource
  | [], r => f r
  | .entry i :: p, r => { r with repository := r.repository.modify i fun e => (e.1, edit f p e.2) }
  | .capture key i :: p, r => r.withCaptures ((r.capturesOf key).modify i fun c => (c.1, edit f p c.2)) key
  | .element i :: p, r => { r with patterns := r.patterns.modify i (edit f p) }

/-- The rule at a place, unless the place is within an element that is disabled or an include. -/
def reached? : List Step → RuleSource → Option RuleSource
  | [], r => some r
  | .entry i :: p, r => r.repository[i]?.bind fun e => reached? p e.2
  | .capture key i :: p, r => (r.capturesOf key)[i]?.bind fun c => reached? p c.2
  | .element i :: p, r => r.patterns[i]?.bind fun q =>
    if q.isDisabled || q.reference.isSome then none else reached? p q

/-- A rule with an element disabled. -/
def disable (flag : Flag) (i : Nat) (r : RuleSource) : RuleSource :=
  { r with patterns := r.patterns.modify i fun q => { q with disabled := some flag } }

/-- A rule without an element. -/
def delete (i : Nat) (r : RuleSource) : RuleSource := { r with patterns := r.patterns.eraseIdx i }

/-- A rule without its elements, its name and its include. -/
def deleteAll (r : RuleSource) : RuleSource := { r with patterns := [], name := none, reference := none }

/-- Whether a rule with nothing to match has a name or an include, and this element only. -/
def losesAll (i : Nat) (r : RuleSource) : Bool :=
  r.matchPattern.isNone && r.beginPattern.isNone && (r.name.isSome || r.reference.isSome) &&
    !r.patterns.isEmpty && (r.patterns.eraseIdx i).isEmpty

end RuleSource

/-- A grammar in which what is written at a place is replaced. -/
def GrammarSource.edit (s : GrammarSource) (f : RuleSource → RuleSource) (place : List Step) :
    GrammarSource :=
  { s with
    patterns := (s.root.edit f place).patterns
    repository := (s.root.edit f place).repository }

end Source

namespace Assembly

/-- Two rules are added alike, wherever they stand, and so are their repositories and their lists. -/
structure Alike (q r : RuleSource) : Prop where
  rule : ∀ own view, addRule own view q = addRule own view r
  repository : ∀ own view, addRepository own view q.repository = addRepository own view r.repository
  elements : ∀ own view, addItems own view q.patterns = addItems own view r.patterns

variable {own : String} {view : List RepositoryId} {f h : RuleSource → RuleSource}

/-! ### Lists in which one place differs -/

theorem addItems_cons (own : String) (view : List RepositoryId) (q : RuleSource) (qs : List RuleSource) :
    addItems own view (q :: qs) = (do
      let first ← addItems own view [q]
      let rest ← addItems own view qs
      return first ++ rest) := by
  rw [addItems, addItems]
  cases q.isDisabled with
  | true => simp [addItems]
  | false => cases q.reference <;> simp [addItems]

theorem addItems_disabled {q : RuleSource} (hq : q.isDisabled = true) (qs : List RuleSource) :
    addItems own view (q :: qs) = addItems own view qs := by
  rw [addItems, if_pos hq]

/-- Elements that are added alike may take each other's place. -/
theorem addItems_modify : ∀ {qs : List RuleSource} {i : Nat},
    (∀ q, qs[i]? = some q → addItems own view [f q] = addItems own view [h q]) →
    addItems own view (qs.modify i f) = addItems own view (qs.modify i h)
  | [], i, _ => by simp
  | q :: qs, 0, hq => by
    rw [List.modify_zero_cons, List.modify_zero_cons, addItems_cons, hq q rfl, ← addItems_cons]
  | q :: qs, i + 1, hq => by
    have rest : addItems own view (qs.modify i f) = addItems own view (qs.modify i h) :=
      addItems_modify fun q hi => hq q hi
    rw [List.modify_succ_cons, List.modify_succ_cons, addItems_cons, rest, ← addItems_cons]

/-- A disabled element may as well be missing. -/
theorem addItems_disable {flag : Flag} (hflag : flag.isSet = true) : ∀ (qs : List RuleSource) (i : Nat),
    addItems own view (qs.modify i fun q => { q with disabled := some flag }) =
      addItems own view (qs.eraseIdx i)
  | [], i => by simp
  | q :: qs, 0 => by
    rw [List.modify_zero_cons, List.eraseIdx_cons_zero]
    exact addItems_disabled (by simpa [RuleSource.isDisabled] using hflag) qs
  | q :: qs, i + 1 => by
    rw [List.modify_succ_cons, List.eraseIdx_cons_succ, addItems_cons, addItems_disable hflag qs i,
      ← addItems_cons]

theorem addKeyed_modify {κ : Type} : ∀ {es : List (κ × RuleSource)} {i : Nat},
    (∀ e, es[i]? = some e → Alike (f e.2) (h e.2)) →
    addKeyed own view (es.modify i fun e => (e.1, f e.2)) =
      addKeyed own view (es.modify i fun e => (e.1, h e.2))
  | [], i, _ => by simp
  | e :: es, 0, he => by
    rw [List.modify_zero_cons, List.modify_zero_cons, addKeyed, addKeyed, (he e rfl).rule own view]
  | e :: es, i + 1, he => by
    have rest : addKeyed own view (es.modify i fun e => (e.1, f e.2)) =
        addKeyed own view (es.modify i fun e => (e.1, h e.2)) := addKeyed_modify fun e hi => he e hi
    rw [List.modify_succ_cons, List.modify_succ_cons, addKeyed, addKeyed, rest]

theorem addRepository_modify {es : List (String × RuleSource)} {i : Nat}
    (he : ∀ e, es[i]? = some e → Alike (f e.2) (h e.2)) :
    addRepository own view (es.modify i fun e => (e.1, f e.2)) =
      addRepository own view (es.modify i fun e => (e.1, h e.2)) := by
  have hempty : (es.modify i fun e => (e.1, f e.2)).isEmpty = (es.modify i fun e => (e.1, h e.2)).isEmpty := by
    cases es <;> cases i <;> rfl
  rw [addRepository_eq, addRepository_eq, hempty]
  simp only [addKeyed_modify he]

theorem isEmpty_modify {α : Type} (f : α → α) (xs : List α) (i : Nat) :
    (xs.modify i f).isEmpty = xs.isEmpty := by
  cases xs <;> cases i <;> rfl

theorem keys_modify {κ : Type} (f : RuleSource → RuleSource) : ∀ (es : List (κ × RuleSource)) (i : Nat),
    (es.modify i fun e => (e.1, f e.2)).map (·.1) = es.map (·.1)
  | [], i => by simp
  | e :: es, 0 => rfl
  | e :: es, i + 1 => by
    rw [List.modify_succ_cons, List.map_cons, List.map_cons, keys_modify f es i]

/-- Only the numbers of captures are checked. -/
theorem checkCaptures_congr {cs ds : List (Nat × RuleSource)} (h : cs.map (·.1) = ds.map (·.1)) :
    checkCaptures cs = checkCaptures ds := by
  have hlast : cs.getLast?.map (·.1) = ds.getLast?.map (·.1) := by
    rw [← List.getLast?_map, ← List.getLast?_map, h]
  unfold checkCaptures
  cases hc : cs.getLast? with
  | none =>
    cases hd : ds.getLast? with
    | none => rfl
    | some d => simp [hc, hd] at hlast
  | some c =>
    cases hd : ds.getLast? with
    | none => simp [hc, hd] at hlast
    | some d =>
      have hnumber : c.1 = d.1 := by simpa [hc, hd] using hlast
      simp only [hnumber]

theorem addChecked_modify {cs : List (Nat × RuleSource)} {i : Nat}
    (hc : ∀ c, cs[i]? = some c → Alike (f c.2) (h c.2)) :
    addChecked own view (cs.modify i fun c => (c.1, f c.2)) =
      addChecked own view (cs.modify i fun c => (c.1, h c.2)) := by
  have hnumbers : checkCaptures (cs.modify i fun c => (c.1, f c.2)) =
      checkCaptures (cs.modify i fun c => (c.1, h c.2)) :=
    checkCaptures_congr ((keys_modify f cs i).trans (keys_modify h cs i).symm)
  rw [addChecked_eq, addChecked_eq, hnumbers, addKeyed_modify hc]

/-! ### Rules that differ at one place -/

/-- Elements that are left out, or that include the same, are added alike, and so are rules that are. -/
theorem addItems_singleton {q r : RuleSource} (hdisabled : q.isDisabled = r.isDisabled)
    (hreference : q.reference = r.reference) (hadd : q.isDisabled = false → q.reference = none → Alike q r) :
    addItems own view [q] = addItems own view [r] := by
  simp only [addItems, ← hdisabled, ← hreference]
  cases hd : q.isDisabled with
  | true => rfl
  | false =>
    cases hr : q.reference with
    | some text => rfl
    | none => rw [(hadd hd hr).rule own view]

/-- Two lists of captures come to the same, and others stand in for both or for none. -/
structure SameCaptures (cs ds : List (Nat × RuleSource)) : Prop where
  empty : cs.isEmpty = ds.isEmpty
  add : ∀ own view, addChecked own view cs = addChecked own view ds

theorem SameCaptures.refl (cs : List (Nat × RuleSource)) : SameCaptures cs cs := ⟨rfl, fun _ _ => rfl⟩

theorem SameCaptures.modify {cs : List (Nat × RuleSource)} {i : Nat}
    (hc : ∀ c, cs[i]? = some c → Alike (f c.2) (h c.2)) :
    SameCaptures (cs.modify i fun c => (c.1, f c.2)) (cs.modify i fun c => (c.1, h c.2)) := by
  refine ⟨?_, fun _ _ => addChecked_modify hc⟩
  cases cs <;> cases i <;> rfl

/-- Two lists of patterns come to the same, and an include stands in for both or for none. -/
structure SameElements (ps qs : List RuleSource) : Prop where
  empty : ps.isEmpty = qs.isEmpty
  add : ∀ own view, addItems own view ps = addItems own view qs

theorem SameElements.refl (ps : List RuleSource) : SameElements ps ps := ⟨rfl, fun _ _ => rfl⟩

/-- Rules with the same keys are added alike if their lists come to the same. -/
theorem alike_of_lists {r : RuleSource} {es es' : List (String × RuleSource)}
    {cs cs' bcs bcs' ecs ecs' wcs wcs' : List (Nat × RuleSource)} {ps ps' : List RuleSource}
    (hes : ∀ own view, addRepository own view es = addRepository own view es')
    (hcs : SameCaptures cs cs') (hbcs : SameCaptures bcs bcs') (hecs : SameCaptures ecs ecs')
    (hwcs : SameCaptures wcs wcs') (hps : SameElements ps ps') :
    Alike
      { r with repository := es, captures := cs, beginCaptures := bcs, endCaptures := ecs,
               whileCaptures := wcs, patterns := ps }
      { r with repository := es', captures := cs', beginCaptures := bcs', endCaptures := ecs',
               whileCaptures := wcs', patterns := ps' } := by
  refine ⟨fun own view => ?_, hes, hps.add⟩
  rw [addRule_eq, addRule_eq, hes own view]
  simp only [hcs.add own, hbcs.add own, hecs.add own, hwcs.add own, hps.add own, hbcs.empty, hecs.empty,
    hwcs.empty, addBody, addGroupItems, hps.empty]

theorem alike_of_captures {r : RuleSource} {cs ds : List (Nat × RuleSource)} (key : Source.CaptureKey)
    (hcs : SameCaptures cs ds) : Alike (r.withCaptures cs key) (r.withCaptures ds key) := by
  cases key with
  | captures =>
    exact alike_of_lists (fun _ _ => rfl) hcs (.refl _) (.refl _) (.refl _) (.refl _)
  | beginCaptures =>
    exact alike_of_lists (fun _ _ => rfl) (.refl _) hcs (.refl _) (.refl _) (.refl _)
  | endCaptures =>
    exact alike_of_lists (fun _ _ => rfl) (.refl _) (.refl _) hcs (.refl _) (.refl _)
  | whileCaptures =>
    exact alike_of_lists (fun _ _ => rfl) (.refl _) (.refl _) (.refl _) hcs (.refl _)

theorem alike_of_elements {r : RuleSource} {ps qs : List RuleSource} (hps : SameElements ps qs) :
    Alike { r with patterns := ps } { r with patterns := qs } :=
  alike_of_lists (fun _ _ => rfl) (.refl _) (.refl _) (.refl _) (.refl _) hps

/-- An edit leaves the keys by which an element is left out or refers to a rule, if it does so at its place. -/
theorem edit_keys {q : RuleSource} (hq : (f q).isDisabled = q.isDisabled ∧ (f q).reference = q.reference)
    (p : List Source.Step) :
    (q.edit f p).isDisabled = q.isDisabled ∧ (q.edit f p).reference = q.reference := by
  cases p with
  | nil => exact hq
  | cons step p =>
    cases step with
    | capture key i => cases key <;> exact ⟨rfl, rfl⟩
    | entry i => exact ⟨rfl, rfl⟩
    | element i => exact ⟨rfl, rfl⟩

/-- **Rules that are added alike may take each other's place**, wherever it is. -/
theorem alike_edit (hdisabled : ∀ q, (f q).isDisabled = q.isDisabled ∧ (h q).isDisabled = q.isDisabled)
    (hreference : ∀ q, q.reference = none → (f q).reference = none ∧ (h q).reference = none) :
    ∀ (p : List Source.Step) (r : RuleSource),
      (r.reached? p = none → ∀ q, (f q).reference = q.reference ∧ (h q).reference = q.reference) →
      (∀ q, r.reached? p = some q → Alike (f q) (h q)) → Alike (r.edit f p) (r.edit h p)
  | [], r, _, halike => halike r rfl
  | .entry i :: p, r, hnone, halike => by
    refine alike_of_lists (fun _ _ => addRepository_modify fun e he => ?_) (.refl _) (.refl _) (.refl _)
      (.refl _) (.refl _)
    have hreached : r.reached? (.entry i :: p) = e.2.reached? p := by simp [RuleSource.reached?, he]
    rw [hreached] at hnone halike
    exact alike_edit hdisabled hreference p e.2 hnone halike
  | .capture key i :: p, r, hnone, halike => by
    refine alike_of_captures key (.modify fun c hc => ?_)
    have hreached : r.reached? (.capture key i :: p) = c.2.reached? p := by
      simp [RuleSource.reached?, hc]
    rw [hreached] at hnone halike
    exact alike_edit hdisabled hreference p c.2 hnone halike
  | .element i :: p, r, hnone, halike => by
    refine alike_of_elements ⟨?_, fun own view => addItems_modify fun q hq => ?_⟩
    · cases r.patterns <;> cases i <;> rfl
    have hreached : r.reached? (.element i :: p) =
        if q.isDisabled || q.reference.isSome then none else q.reached? p := by
      simp [RuleSource.reached?, hq]
    -- An edit of the element itself keeps its include, as no place within an include is reached.
    have href : (f q).reference = q.reference ∧ (h q).reference = q.reference := by
      cases hr : q.reference with
      | none => exact hreference q hr
      | some text => exact hr ▸ hnone (by simp [hreached, hr]) q
    have hf := edit_keys ⟨(hdisabled q).1, href.1⟩ p
    have hh := edit_keys ⟨(hdisabled q).2, href.2⟩ p
    refine addItems_singleton (hf.1.trans hh.1.symm) (hf.2.trans hh.2.symm) fun hd hr => ?_
    rw [hf.1] at hd
    rw [hf.2] at hr
    have hinside : r.reached? (.element i :: p) = q.reached? p := by simp [hreached, hd, hr]
    rw [hinside] at hnone halike
    exact alike_edit hdisabled hreference p q hnone halike

/-! ### Disabling and deleting -/

section

variable {head : RuleHead} {r : RuleSource} {captures opening ending going : Build CaptureRules}
  {items : Build (List Item)}

/-- Whether a rule has patterns matters only if it has nothing to match, and a name or an include. -/
theorem addBody_patterns {ps qs : List RuleSource} (h : ps.isEmpty = qs.isEmpty ∨
      r.matchPattern.isSome ∨ r.beginPattern.isSome ∨ r.name = none ∧ r.reference = none) :
    addBody own head { r with patterns := ps } captures opening ending going items =
      addBody own head { r with patterns := qs } captures opening ending going items := by
  simp only [addBody, addGroupItems]
  rcases h with hempty | hmatch | hbegin | ⟨hname, hreference⟩
  · rw [hempty]
  · obtain ⟨p, hp⟩ := Option.isSome_iff_exists.mp hmatch
    simp only [hp]
  · obtain ⟨b, hb⟩ := Option.isSome_iff_exists.mp hbegin
    simp only [hb]
    cases r.matchPattern <;> rfl
  · simp [hname, hreference]

/-- Nothing is made of a rule with nothing to match and nothing in its list. -/
theorem addRule_noop (hmatch : r.matchPattern = none) (hbegin : r.beginPattern = none)
    (hlist : r.patterns.isEmpty = false ∨ r.name = none ∧ r.reference = none)
    (hitems : ∀ view, addItems own view r.patterns = pure []) :
    addRule own view r = (do
      let id ← reserveRule
      let _ ← addRepository own view r.repository
      setRule id .noop
      return id) := by
  rw [addRule_eq]
  simp only [addBody, addGroupItems, hmatch, hbegin, hitems]
  rcases hlist with hlist | ⟨hname, hreference⟩
  · simp [hlist]
  · simp [hname, hreference]

variable {flag : Flag} {i : Nat}

/-- Where neither a name nor an include depends on it, a disabled element may as well be missing. -/
theorem alike_delete (hflag : flag.isSet = true) (hr : r.losesAll i = false) :
    Alike (r.disable flag i) (r.delete i) := by
  refine ⟨fun own view => ?_, fun _ _ => rfl, fun own view => addItems_disable hflag r.patterns i⟩
  rw [addRule_eq, addRule_eq]
  simp only [RuleSource.disable, RuleSource.delete, addItems_disable hflag]
  have hpatterns : (r.patterns.modify i fun q => { q with disabled := some flag }).isEmpty =
        (r.patterns.eraseIdx i).isEmpty ∨
      r.matchPattern.isSome ∨ r.beginPattern.isSome ∨ r.name = none ∧ r.reference = none := by
    by_cases hne : (r.patterns.modify i fun q => { q with disabled := some flag }).isEmpty =
        (r.patterns.eraseIdx i).isEmpty
    · exact .inl hne
    refine .inr ?_
    have hsome : r.patterns.isEmpty = false ∧ (r.patterns.eraseIdx i).isEmpty = true := by
      rw [isEmpty_modify] at hne
      cases hps : r.patterns with
      | nil => simp [hps] at hne
      | cons q qs => simpa [hps] using hne
    simp only [RuleSource.losesAll, hsome] at hr
    cases hm : r.matchPattern <;> cases hb : r.beginPattern <;> simp_all
  simp only [addBody_patterns hpatterns]
  rfl

/-- Where a name or an include depends on it, it is lost. -/
theorem alike_deleteAll (hflag : flag.isSet = true) (hr : r.losesAll i = true) :
    Alike (r.disable flag i) r.deleteAll := by
  simp only [RuleSource.losesAll, Bool.and_eq_true, Option.isNone_iff_eq_none, List.isEmpty_iff,
    Bool.not_eq_true', List.isEmpty_eq_false_iff] at hr
  obtain ⟨⟨⟨⟨hmatch, hbegin⟩, -⟩, hsome⟩, hnone⟩ := hr
  have hitems : ∀ own view, addItems own view (r.disable flag i).patterns = pure [] := by
    intro own view
    refine (addItems_disable hflag r.patterns i).trans ?_
    rw [hnone]
    rfl
  have hlist : (r.disable flag i).patterns.isEmpty = false := by
    rw [RuleSource.disable, isEmpty_modify]
    simpa using hsome
  refine ⟨fun own view => ?_, fun _ _ => rfl, hitems⟩
  rw [addRule_noop (r := r.disable flag i) hmatch hbegin (.inl hlist) (hitems own),
    addRule_noop (r := r.deleteAll) hmatch hbegin (.inr ⟨rfl, rfl⟩) fun _ => rfl]
  rfl

end

end Assembly

namespace Grammar

/-- **Disabled elements.** At a place where a rule has something to match, has neither name nor include, or has
another element, a grammar with a disabled element is compiled as the grammar without the element, and so it
is within an element that is disabled itself or an include. Otherwise it is compiled as the grammar where the
rule has lost its name and its include too. -/
theorem ofSource_disable (s : GrammarSource) (place : List Source.Step) (i : Nat) {flag : Flag}
    (hflag : flag.isSet = true) :
    let disabled := ofSource (s.edit (RuleSource.disable flag i) place)
    ((∀ r, s.root.reached? place = some r → r.losesAll i = false) →
      disabled = ofSource (s.edit (RuleSource.delete i) place)) ∧
    (∀ r, s.root.reached? place = some r → r.losesAll i = true →
      disabled = ofSource (s.edit RuleSource.deleteAll place)) := by
  intro disabled
  -- The root has no name and no include, so that only its repository and its list count.
  have compiled : ∀ f : RuleSource → RuleSource,
      Assembly.Alike (s.root.edit (RuleSource.disable flag i) place) (s.root.edit f place) →
        disabled = ofSource (s.edit f place) := by
    intro f alike
    have hassembly : Assembly.ofSource (s.edit (RuleSource.disable flag i) place) =
        Assembly.ofSource (s.edit f place) := by
      simp only [Assembly.ofSource, Assembly.addGrammar, GrammarSource.edit, alike.repository, alike.elements]
      rfl
    unfold disabled ofSource
    rw [hassembly]
  refine ⟨fun h => compiled _ ?_, fun r hr hloses => compiled _ ?_⟩
  · exact Assembly.alike_edit (f := RuleSource.disable flag i) (h := RuleSource.delete i)
      (fun q => ⟨rfl, rfl⟩) (fun q hq => ⟨hq, hq⟩) place s.root
      (fun _ q => ⟨rfl, rfl⟩) fun r hr => Assembly.alike_delete hflag (h r hr)
  · refine Assembly.alike_edit (f := RuleSource.disable flag i) (h := RuleSource.deleteAll)
      (fun q => ⟨rfl, rfl⟩) (fun q hq => ⟨hq, rfl⟩) place s.root
      (fun hnone => by simp [hnone] at hr) fun q hq => ?_
    obtain rfl : r = q := Option.some.inj (hr.symm.trans hq)
    exact Assembly.alike_deleteAll hflag hloses

end Grammar

/-- A capture with a name, and an entry with an include, each with one pattern besides. -/
def Source.maskedKeys : GrammarSource where
  scopeName := "source.mask"
  patterns := [{
    matchPattern := some "a"
    captures := [(0, { name := some "whole.mask", patterns := [{ matchPattern := some "b" }] })] }]
  repository := [("far", { reference := some "#nowhere", patterns := [{ matchPattern := some "c" }] })]

/-- The element of the grammar may as well be missing; with that of the capture the name is lost. -/
theorem Grammar.ofSource_disable_maskedKeys :
    (Flag.number 1).isSet = true ∧
    ofSource (Source.maskedKeys.edit (RuleSource.disable (.number 1) 0) []) =
      ofSource (Source.maskedKeys.edit (RuleSource.delete 0) []) ∧
    ofSource (Source.maskedKeys.edit (RuleSource.disable (.number 1) 0) [.element 0, .capture .captures 0]) =
      ofSource (Source.maskedKeys.edit RuleSource.deleteAll [.element 0, .capture .captures 0]) := by
  refine ⟨rfl, (ofSource_disable Source.maskedKeys [] 0 rfl).1 ?_,
    (ofSource_disable Source.maskedKeys [.element 0, .capture .captures 0] 0 rfl).2 _ rfl rfl⟩
  rintro r ⟨⟩
  rfl

/-- A grammar with a disabled element is not always compiled as the grammar without it: a name may be lost, and
an include that is not resolved may be passed over. -/
theorem not_disabled_as_deleted :
    (¬ ∀ (s : GrammarSource) (place : List Source.Step) (i : Nat) (flag : Flag), flag.isSet = true →
      ∀ g g', Grammar.ofSource (s.edit (RuleSource.disable flag i) place) = .ok g →
        Grammar.ofSource (s.edit (RuleSource.delete i) place) = .ok g' →
          ∀ (o : Options) (text : List Char),
            ((Session.mk g o {}).document text).1 = ((Session.mk g' o {}).document text).1) ∧
    ¬ ∀ (s : GrammarSource) (place : List Source.Step) (i : Nat) (flag : Flag), flag.isSet = true →
      (Grammar.ofSource (s.edit (RuleSource.disable flag i) place)).toOption.isSome =
        (Grammar.ofSource (s.edit (RuleSource.delete i) place)).toOption.isSome := by
  constructor
  · intro sameTokens
    let s : GrammarSource := { Source.maskedKeys with repository := [] }
    let place : List Source.Step := [.element 0, .capture .captures 0]
    have disabled : (Grammar.ofSource (s.edit (RuleSource.disable (.number 1) 0) place)).toOption.any
        (fun g => decide (((Session.mk g {} {}).document ['a']).1 = [[⟨0, 1, [⟨"source.mask"⟩]⟩]])) = true := by
      decide +kernel
    have deleted : (Grammar.ofSource (s.edit (RuleSource.delete 0) place)).toOption.any
        (fun g => decide (((Session.mk g {} {}).document ['a']).1 =
          [[⟨0, 1, [⟨"source.mask"⟩, ⟨"whole.mask"⟩]⟩]])) = true := by
      decide +kernel
    obtain ⟨g, hg, h⟩ := exists_ok_of_any disabled
    obtain ⟨g', hg', h'⟩ := exists_ok_of_any deleted
    have same := sameTokens s place 0 (.number 1) rfl g g' hg hg' {} ['a']
    rw [of_decide_eq_true h, of_decide_eq_true h'] at same
    exact absurd same (by decide)
  · intro sameOutcome
    have same := sameOutcome Source.maskedKeys [.entry 0] 0 (.number 1) rfl
    exact absurd same (by decide +kernel)

end ScopeLexer
