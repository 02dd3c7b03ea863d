/-
# What adding a rule comes to

The keys of a rule decide what is made of it, which captures belong to its opening and to its closing match,
and what its list holds. With these, all rules are added in the same way: a place for the rule is reserved,
then come its repository, its patterns, the captures of the opening match, those of the closing match and
the elements of its list, and at the end the rule is put in its place. What all these steps keep, adding any
rule keeps.

Key definitions: `RuleSource.kind`, `RuleSource.openings`, `RuleSource.closings`, `RuleSource.members`,
`RuleSource.made`, `RuleSource.parts`, `Assembly.Extends`, `Assembly.Tracks`, `Grammar.AssembledFrom`.
Key theorems: `RuleSource.induction`, `Assembly.addRule_ok`, `Assembly.Tracks.addRule`.
-/
import ScopeLexer.Grammar.Check

namespace ScopeLexer

open Source (RuleSource GrammarSource)

namespace Source
namespace RuleSource

/-- What is made of a rule. -/
inductive Kind where
  /-- A rule that is matched within a line, or one that only gives a scope. -/
  | matching (pattern : Option String)
  /-- A span that goes on as long as a pattern continues it. -/
  | continued (opening closing : String)
  /-- A span up to a pattern. -/
  | ended (opening closing : String)
  /-- A list of patterns. -/
  | group

/-- The keys decide: a pattern to match first, then one that begins a span, then the name. -/
def kind (r : RuleSource) : Kind :=
  match r.matchPattern, r.beginPattern with
  | some p, _ => .matching (some p)
  | none, some b =>
    match r.whilePattern, r.endPattern with
    | some w, _ => .continued b w
    | none, some e => .ended b e
    | none, none => .matching (some b)
  | none, none =>
    if r.name.isSome && r.patterns.isEmpty && r.reference.isNone then .matching none else .group

/-- Captures of their own, or else those that are shared. -/
def orShared (own shared : List (Nat × RuleSource)) : List (Nat × RuleSource) :=
  if own.isEmpty then shared else own

/-- The captures of the match by which a rule is found. -/
def openings (r : RuleSource) : List (Nat × RuleSource) :=
  match r.kind with
  | .matching none => []
  | .group => []
  | _ => if r.matchPattern.isSome then r.captures else orShared r.beginCaptures r.captures

/-- The captures of the match that ends or continues a span. -/
def closings (r : RuleSource) : List (Nat × RuleSource) :=
  match r.kind with
  | .continued _ _ => orShared r.whileCaptures r.captures
  | .ended _ _ => orShared r.endCaptures r.captures
  | _ => []

/-- The list of a rule. That of a rule which has only an include holds this include. -/
def members (r : RuleSource) : List RuleSource :=
  match r.kind with
  | .matching _ => []
  | .group =>
    match r.reference, r.patterns.isEmpty with
    | some text, true => [{ reference := some text }]
    | _, _ => r.patterns
  | _ => r.patterns

/-- The patterns of a rule, the closing one first. -/
def patternTexts (r : RuleSource) : List String :=
  match r.kind with
  | .matching p => p.toList
  | .continued b w => [w, b]
  | .ended b e => [e, b]
  | .group => []

/-- What is made of a rule whose patterns are numbered from `first` on and whose parts are added. -/
def made (r : RuleSource) (head : RuleHead) (first : PatternId) (openings closings : CaptureRules)
    (items : List Item) : Rule :=
  let content := r.contentName.map ScopeName.ofText
  match r.kind with
  | .matching p => .matching ⟨head, p.map fun _ => first, openings⟩
  | .continued _ w => .beginWhile
      ⟨head, content, first + 1, openings, first, Pattern.hasBackreferences w.toList, closings, items⟩
  | .ended _ e => .beginEnd
      ⟨⟨head, content, first + 1, openings, first, Pattern.hasBackreferences e.toList, closings, items⟩,
        r.applyEndPatternLast.any Source.Flag.isSet, r.appliesLineBreak.getD true⟩
  | .group => if items.isEmpty then .noop else .group ⟨head, content, items⟩

theorem head?_made {r : RuleSource} {head h : RuleHead} {first : PatternId} {os cs : CaptureRules}
    {is : List Item} (hh : h ∈ (r.made head first os cs is).head?) : h = head := by
  revert hh
  rw [made]
  cases r.kind with
  | matching p => exact fun hh => (Option.some.inj hh).symm
  | continued b w => exact fun hh => (Option.some.inj hh).symm
  | ended b e => exact fun hh => (Option.some.inj hh).symm
  | group =>
    cases is with
    | nil => exact nofun
    | cons i is => exact fun hh => (Option.some.inj hh).symm

/-- A list that is not empty is kept, with what is in view. -/
theorem made_items {r : RuleSource} {is : List Item} (hempty : r.members = [] → is = []) (head : RuleHead)
    (first : PatternId) (os cs : CaptureRules) :
    (r.made head first os cs is).items = is ∧
      (is ≠ [] → (r.made head first os cs is).repositories = head.repositories) := by
  rw [made]
  cases hk : r.kind with
  | matching p =>
    obtain rfl := hempty (by rw [members, hk])
    exact ⟨rfl, absurd rfl⟩
  | continued p w => exact ⟨rfl, fun _ => rfl⟩
  | ended p e => exact ⟨rfl, fun _ => rfl⟩
  | group =>
    cases is with
    | nil => exact ⟨rfl, absurd rfl⟩
    | cons i is => exact ⟨rfl, fun _ => rfl⟩

/-! ### The tree of rules -/

/-- Where a rule stands in another one. -/
inductive Part where
  | entry (name : String)
  | opening (group : Nat)
  | closing (group : Nat)
  | member (index : Nat)
  deriving DecidableEq, Repr

/-- The elements of a list that are rules of their own: those that are disabled are left out, and includes
only refer to rules. -/
def memberParts (index : Nat) : List RuleSource → List (Part × RuleSource)
  | [] => []
  | m :: ms =>
    if m.isDisabled || m.reference.isSome then memberParts (index + 1) ms
    else (.member index, m) :: memberParts (index + 1) ms

/-- The rules in a rule that are not entries of its repository, in the order in which they are added. -/
def innerParts (r : RuleSource) : List (Part × RuleSource) :=
  r.openings.map (fun c => (.opening c.1, c.2)) ++ r.closings.map (fun c => (.closing c.1, c.2)) ++
    memberParts 0 r.members

/-- The rules in a rule, in the order in which they are added. -/
def parts (r : RuleSource) : List (Part × RuleSource) :=
  r.repository.map (fun e => (.entry e.1, e.2)) ++ r.innerParts

theorem mem_memberParts {p : Part × RuleSource} : ∀ {ms : List RuleSource} {index : Nat},
    p ∈ memberParts index ms → p.2 ∈ ms ∧ p.2.reference = none
  | m :: ms, index, h => by
    rw [memberParts] at h
    split at h
    · have := mem_memberParts h
      exact ⟨List.mem_cons_of_mem _ this.1, this.2⟩
    · rename_i hm
      rw [Bool.not_eq_true, Bool.or_eq_false_iff] at hm
      rcases List.mem_cons.mp h with rfl | h
      · exact ⟨List.mem_cons_self, by simpa using hm.2⟩
      · have := mem_memberParts h
        exact ⟨List.mem_cons_of_mem _ this.1, this.2⟩

theorem mem_patterns_of_mem_members {r m : RuleSource} (h : m ∈ r.members) (hm : m.reference = none) :
    m ∈ r.patterns := by
  rw [members] at h
  split at h
  · exact absurd h List.not_mem_nil
  · split at h
    · obtain rfl := List.mem_singleton.mp h
      simp at hm
    · exact h
  · exact h

theorem mem_orShared {c : Nat × RuleSource} {own shared : List (Nat × RuleSource)}
    (h : c ∈ orShared own shared) : c ∈ own ∨ c ∈ shared := by
  rw [orShared] at h
  split at h
  · exact .inr h
  · exact .inl h

theorem sizeOf_lt_of_mem_keyed {κ : Type} [SizeOf κ] {e : κ × RuleSource}
    {es : List (κ × RuleSource)} (h : e ∈ es) : sizeOf e.2 < sizeOf es := by
  have hlt := List.sizeOf_lt_of_mem h
  obtain ⟨k, q⟩ := e
  simp only [Prod.mk.sizeOf_spec] at hlt ⊢
  omega

theorem mem_openings {r : RuleSource} {c : Nat × RuleSource} (h : c ∈ r.openings) :
    c ∈ r.captures ∨ c ∈ r.beginCaptures := by
  rw [openings] at h
  split at h
  · exact absurd h List.not_mem_nil
  · exact absurd h List.not_mem_nil
  · split at h
    · exact .inl h
    · exact (mem_orShared h).symm

theorem mem_closings {r : RuleSource} {c : Nat × RuleSource} (h : c ∈ r.closings) :
    c ∈ r.captures ∨ c ∈ r.whileCaptures ∨ c ∈ r.endCaptures := by
  rw [closings] at h
  split at h
  · exact (mem_orShared h).symm.imp_right .inl
  · exact (mem_orShared h).symm.imp_right .inr
  · exact absurd h List.not_mem_nil

/-- A rule in a rule is smaller. -/
theorem sizeOf_lt_of_mem_parts {r : RuleSource} {p : Part × RuleSource} (h : p ∈ r.parts) :
    sizeOf p.2 < sizeOf r := by
  have fields : sizeOf r.repository < sizeOf r ∧ sizeOf r.captures < sizeOf r ∧
      sizeOf r.beginCaptures < sizeOf r ∧ sizeOf r.endCaptures < sizeOf r ∧
        sizeOf r.whileCaptures < sizeOf r ∧ sizeOf r.patterns < sizeOf r := by
    cases r
    simp only [RuleSource.mk.sizeOf_spec]
    omega
  simp only [parts, innerParts, List.mem_append, List.mem_map] at h
  rcases h with ⟨e, he, rfl⟩ | (⟨c, hc, rfl⟩ | ⟨c, hc, rfl⟩) | hm
  · show sizeOf e.2 < sizeOf r
    have hlt := sizeOf_lt_of_mem_keyed he
    omega
  · show sizeOf c.2 < sizeOf r
    rcases mem_openings hc with hc | hc
    all_goals
      have hlt := sizeOf_lt_of_mem_keyed hc
      omega
  · show sizeOf c.2 < sizeOf r
    rcases mem_closings hc with hc | hc | hc
    all_goals
      have hlt := sizeOf_lt_of_mem_keyed hc
      omega
  · obtain ⟨hm, hreference⟩ := mem_memberParts hm
    have hlt := List.sizeOf_lt_of_mem (mem_patterns_of_mem_members hm hreference)
    omega

/-- What holds of a rule if it holds of all rules in it holds of every rule. -/
theorem induction {P : RuleSource → Prop} (h : ∀ r : RuleSource, (∀ p ∈ r.parts, P p.2) → P r)
    (r : RuleSource) : P r :=
  h r fun p _ => induction h p.2
  termination_by sizeOf r
  decreasing_by exact sizeOf_lt_of_mem_parts ‹_›

end RuleSource

/-- The list and the repository of a grammar as those of a rule. -/
def GrammarSource.root (s : GrammarSource) : RuleSource :=
  { patterns := s.patterns, repository := s.repository }

/-- The scope name of a grammar, without white space around it. -/
def GrammarSource.ownName (s : GrammarSource) : String := String.ofList (Text.trim s.scopeName.toList)

end Source

namespace Assembly

variable {own : String} {view : List RepositoryId} {r : RuleSource} {a b : Assembly}

/-! ### States -/

/-- With a place for one more rule. -/
def reserved (a : Assembly) : Assembly := { a with rules := a.rules.push .noop }

/-- With a rule in its place. -/
def put (a : Assembly) (id : RuleId) (r : Rule) : Assembly :=
  { a with rules := a.rules.setIfInBounds id r }

/-- With a place for one more repository. -/
def opened (a : Assembly) : Assembly := { a with repositories := a.repositories.push [] }

/-- With a repository in its place. -/
def fill (a : Assembly) (id : RepositoryId) (r : Repository) : Assembly :=
  { a with repositories := a.repositories.setIfInBounds id r }

/-- With some more patterns. -/
def withPatterns (a : Assembly) (texts : List String) : Assembly :=
  { a with patterns := a.patterns ++ texts.toArray }

/-! ### Runs -/

theorem bind_ok {α β : Type} {x : Build α} {f : α → Build β} {r : β} (h : (x >>= f) a = .ok (r, b)) :
    ∃ s c, x a = .ok (s, c) ∧ f s c = .ok (r, b) := by
  cases hx : x a with
  | error e => simp [bind, StateT.bind, Except.bind, hx] at h
  | ok p => exact ⟨p.1, p.2, rfl, by simpa [bind, StateT.bind, Except.bind, hx] using h⟩

theorem pure_ok {α : Type} {r s : α} (h : (pure r : Build α) a = .ok (s, b)) : s = r ∧ b = a := by
  obtain ⟨rfl, rfl⟩ : r = s ∧ a = b := Prod.mk.inj (Except.ok.inj h)
  exact ⟨rfl, rfl⟩

theorem addRule_eq (own : String) (view : List RepositoryId) (r : RuleSource) :
    addRule own view r = (do
      let id ← reserveRule
      let view ← addRepository own view r.repository
      let rule ← addBody own ⟨id, r.name.map ScopeName.ofText, view⟩ r
        (addChecked own view r.captures)
        (if r.beginCaptures.isEmpty then addChecked own view r.captures
          else addChecked own view r.beginCaptures)
        (if r.endCaptures.isEmpty then addChecked own view r.captures
          else addChecked own view r.endCaptures)
        (if r.whileCaptures.isEmpty then addChecked own view r.captures
          else addChecked own view r.whileCaptures)
        (addItems own view r.patterns)
      setRule id rule
      return id) := by
  cases r
  rw [addRule]

theorem reserveRule_run (a : Assembly) : reserveRule a = .ok (a.rules.size, a.reserved) := rfl

theorem setRule_run (a : Assembly) (id : RuleId) (r : Rule) : setRule id r a = .ok ((), a.put id r) := rfl

theorem addPattern_run (a : Assembly) (s : String) :
    addPattern s a = .ok (a.patterns.size, a.withPatterns [s]) := by
  have hpush : a.patterns.push s = a.patterns ++ #[s] := (Array.append_singleton).symm
  rw [withPatterns, ← hpush]
  rfl

theorem withPatterns_nil (a : Assembly) : a.withPatterns [] = a := by
  simp [withPatterns]

theorem addChecked_orShared (own : String) (view : List RepositoryId)
    (cs shared : List (Nat × RuleSource)) :
    (if cs.isEmpty then addChecked own view shared else addChecked own view cs) =
      addChecked own view (RuleSource.orShared cs shared) := by
  rw [RuleSource.orShared]
  split <;> rfl

theorem bind_run {α β : Type} {x : Build α} {f : α → Build β} {s : α} {c : Assembly}
    (h : x a = .ok (s, c)) : (x >>= f) a = f s c := by
  simp [bind, StateT.bind, Except.bind, h]

theorem addItems_include (own : String) (view : List RepositoryId) (text : String) :
    addItems own view [{ reference := some text }] = (do
      let ref ← (Reference.ofText own text : Except CompileError Reference)
      return [.include ref]) := by
  simp [addItems, RuleSource.isDisabled]

/-! ### Lists of rules -/

/-- Some rules are added one after the other. -/
inductive Chain (own : String) (view : List RepositoryId) :
    List RuleSource → List RuleId → Assembly → Assembly → Prop
  | nil (a : Assembly) : Chain own view [] [] a a
  | cons {r : RuleSource} {rs : List RuleSource} {id : RuleId} {ids : List RuleId} {a b c : Assembly}
      (first : addRule own view r a = .ok (id, c)) (rest : Chain own view rs ids c b) :
      Chain own view (r :: rs) (id :: ids) a b

namespace Chain

variable {rs qs : List RuleSource} {ids js : List RuleId} {c : Assembly}

theorem append (h : Chain own view rs ids a c) (h' : Chain own view qs js c b) :
    Chain own view (rs ++ qs) (ids ++ js) a b := by
  induction h with
  | nil => exact h'
  | cons first _ ih => exact .cons first (ih h')

end Chain

/-- The rules of some sources under their keys. -/
def addKeyed {κ : Type} (own : String) (view : List RepositoryId) :
    List (κ × RuleSource) → Build (List (κ × RuleId))
  | [] => return []
  | e :: es => do
    let id ← addRule own view e.2
    let rest ← addKeyed own view es
    return (e.1, id) :: rest

theorem addEntries_eq (own : String) (view : List RepositoryId) :
    ∀ es : List (String × RuleSource), addEntries own view es = addKeyed own view es
  | [] => rfl
  | (name, r) :: es => by simp [addEntries, addEntry, addKeyed, addEntries_eq own view es]

theorem addCaptures_eq (own : String) (view : List RepositoryId) :
    ∀ cs : List (Nat × RuleSource), addCaptures own view cs = addKeyed own view cs
  | [] => rfl
  | (i, r) :: cs => by simp [addCaptures, addCapture, addKeyed, addCaptures_eq own view cs]

theorem addRepository_eq (own : String) (view : List RepositoryId) (es : List (String × RuleSource)) :
    addRepository own view es = (if es.isEmpty then return view else do
      let id ← reserveRepository
      let view ← inView id view
      let rs ← addKeyed own view es
      setRepository id rs
      return view) := by
  cases es with
  | nil => rfl
  | cons e es => simp [addRepository, ← addEntries_eq, addEntries]

theorem addChecked_eq (own : String) (view : List RepositoryId) (cs : List (Nat × RuleSource)) :
    addChecked own view cs = (do
      checkCaptures cs
      let rs ← addKeyed own view cs
      return spreadCaptures rs) := by
  cases cs with
  | nil => simp [addChecked, checkCaptures, addKeyed, spreadCaptures]
  | cons c cs => simp [addChecked, ← addCaptures_eq, addCaptures]

theorem addKeyed_ok {κ : Type} {es : List (κ × RuleSource)} {rs : List (κ × RuleId)}
    (h : addKeyed own view es a = .ok (rs, b)) :
    rs.map (·.1) = es.map (·.1) ∧ Chain own view (es.map (·.2)) (rs.map (·.2)) a b := by
  induction es generalizing a rs with
  | nil =>
    obtain ⟨rfl, rfl⟩ := pure_ok h
    exact ⟨rfl, .nil _⟩
  | cons e es ih =>
    obtain ⟨id, a₁, hid, h⟩ := bind_ok h
    obtain ⟨rest, a₂, hrest, h⟩ := bind_ok h
    obtain ⟨rfl, rfl⟩ := pure_ok h
    obtain ⟨keys, chain⟩ := ih hrest
    exact ⟨congrArg (e.1 :: ·) keys, .cons hid chain⟩

/-- A repository comes into view before its entries are added, and is put in its place after that. -/
theorem addRepository_ok {es : List (String × RuleSource)} {view' : List RepositoryId}
    (h : addRepository own view es a = .ok (view', b)) :
    (es = [] ∧ view' = view ∧ b = a) ∨
      es ≠ [] ∧ view' = a.repositories.size :: view ∧ ∃ c rs, rs.map (·.1) = es.map (·.1) ∧
        Chain own view' (es.map (·.2)) (rs.map (·.2)) a.opened c ∧
          b = c.fill a.repositories.size rs := by
  cases es with
  | nil =>
    obtain ⟨rfl, rfl⟩ := pure_ok h
    exact .inl ⟨rfl, rfl, rfl⟩
  | cons e es =>
    rw [addRepository] at h
    obtain ⟨id, a₁, h₁, h⟩ := bind_ok h
    obtain ⟨rfl, rfl⟩ : a.repositories.size = id ∧ a.opened = a₁ := Prod.mk.inj (Except.ok.inj h₁)
    obtain ⟨v, a₂, h₂, h⟩ := bind_ok h
    obtain ⟨rfl, rfl⟩ : v = a.repositories.size :: view ∧ a₂ = a.opened := by
      rw [inView] at h₂
      split at h₂
      · exact pure_ok h₂
      · cases h₂
    obtain ⟨first, a₃, h₃, h⟩ := bind_ok h
    obtain ⟨rest, a₄, h₄, h⟩ := bind_ok h
    obtain ⟨u, a₅, h₅, h⟩ := bind_ok h
    obtain ⟨rfl, rfl⟩ := pure_ok h
    obtain rfl : a₄.fill a.repositories.size (first :: rest) = b :=
      (Prod.mk.inj (Except.ok.inj h₅)).2
    have all : addKeyed own (a.repositories.size :: view) (e :: es) a.opened =
        .ok (first :: rest, a₄) := by
      rw [← addEntries_eq, addEntries, bind_run h₃, bind_run h₄]
      rfl
    exact .inr ⟨List.cons_ne_nil _ _, rfl, a₄, first :: rest, (addKeyed_ok all).1, (addKeyed_ok all).2,
      rfl⟩

/-- Captures are added if the greatest number is not too large. -/
theorem addChecked_ok {cs : List (Nat × RuleSource)} {rules : CaptureRules}
    (h : addChecked own view cs a = .ok (rules, b)) :
    (∀ last ∈ (cs.map (·.1)).getLast?, last ≤ CompileError.maxCaptureIndex) ∧
      ∃ rs, rs.map (·.1) = cs.map (·.1) ∧ Chain own view (cs.map (·.2)) (rs.map (·.2)) a b ∧
        rules = spreadCaptures rs := by
  cases cs with
  | nil =>
    obtain ⟨rfl, rfl⟩ := pure_ok h
    exact ⟨nofun, [], rfl, .nil _, rfl⟩
  | cons c cs =>
    rw [addChecked] at h
    obtain ⟨u, a₁, h₁, hrest⟩ := bind_ok h
    obtain ⟨hlast, rfl⟩ : (∀ last ∈ ((c :: cs).map (·.1)).getLast?,
        last ≤ CompileError.maxCaptureIndex) ∧ a₁ = a := by
      cases hl : (c :: cs).getLast? with
      | none => simp at hl
      | some last =>
        simp only [checkCaptures, hl] at h₁
        split at h₁
        · cases h₁
        · refine ⟨fun k hk => ?_, (pure_ok h₁).2⟩
          rw [List.getLast?_map, hl] at hk
          obtain rfl : last.1 = k := Option.some.inj hk
          omega
    obtain ⟨first, a₂, h₂, hrest⟩ := bind_ok hrest
    obtain ⟨rest, a₃, h₃, hrest⟩ := bind_ok hrest
    obtain ⟨rfl, rfl⟩ := pure_ok hrest
    have all : addKeyed own view (c :: cs) a₁ = .ok (first :: rest, b) := by
      rw [← addCaptures_eq, addCaptures, bind_run h₂, bind_run h₃]
      rfl
    exact ⟨hlast, first :: rest, (addKeyed_ok all).1, (addKeyed_ok all).2, rfl⟩

theorem liftM_ok {α : Type} {x : Except CompileError α} {s : α} (h : (liftM x : Build α) a = .ok (s, b)) :
    x = .ok s ∧ b = a := by
  cases x with
  | error e => cases h
  | ok t =>
    obtain ⟨rfl, rfl⟩ : t = s ∧ a = b := Prod.mk.inj (Except.ok.inj h)
    exact ⟨rfl, rfl⟩

/-- The rules among the elements of a list. -/
def ruleIds (is : List Item) : List RuleId :=
  is.filterMap fun
    | .rule id => some id
    | .include _ => none

/-- What adding an element of a list comes to: one that is disabled is left out, an include is read, and any
other is a rule of its own. -/
inductive AddsItem (own : String) (view : List RepositoryId) (m : RuleSource) :
    Assembly → Assembly → List Item → Prop
  | disabled {a : Assembly} (h : m.isDisabled = true) : AddsItem own view m a a []
  | reference {a : Assembly} {text : String} {ref : Reference} (h : m.isDisabled = false)
      (ht : m.reference = some text) (href : Reference.ofText own text = .ok ref) :
      AddsItem own view m a a [.include ref]
  | rule {a b : Assembly} {id : RuleId} (h : m.isDisabled = false) (hr : m.reference = none)
      (hid : addRule own view m a = .ok (id, b)) : AddsItem own view m a b [.rule id]

theorem addItems_cons_ok {m : RuleSource} {ms : List RuleSource} {is : List Item}
    (h : addItems own view (m :: ms) a = .ok (is, b)) :
    ∃ first rest c, AddsItem own view m a c first ∧ addItems own view ms c = .ok (rest, b) ∧
      is = first ++ rest := by
  rw [addItems] at h
  cases hd : m.isDisabled with
  | true =>
    rw [if_pos hd] at h
    exact ⟨[], is, a, .disabled hd, h, rfl⟩
  | false =>
    rw [hd, if_neg Bool.false_ne_true] at h
    cases hr : m.reference with
    | some text =>
      simp only [hr] at h
      obtain ⟨ref, a₁, hlift, hrest⟩ := bind_ok h
      obtain ⟨item, a₂, hitem, hrest⟩ := bind_ok hrest
      obtain ⟨rest, a₃, hms, hrest⟩ := bind_ok hrest
      obtain ⟨rfl, rfl⟩ := pure_ok hrest
      obtain ⟨rfl, rfl⟩ := pure_ok hitem
      obtain ⟨href, rfl⟩ := liftM_ok hlift
      exact ⟨[.include ref], rest, a₂, .reference hd hr href, hms, rfl⟩
    | none =>
      simp only [hr] at h
      obtain ⟨id, a₁, hid, hrest⟩ := bind_ok h
      obtain ⟨item, a₂, hitem, hrest⟩ := bind_ok hrest
      obtain ⟨rest, a₃, hms, hrest⟩ := bind_ok hrest
      obtain ⟨rfl, rfl⟩ := pure_ok hrest
      obtain ⟨rfl, rfl⟩ := pure_ok hitem
      exact ⟨[.rule id], rest, a₂, .rule hd hr hid, hms, rfl⟩

/-- The elements of a list that are rules are added one after the other. Of the others, those that are not
disabled refer to a rule. -/
theorem addItems_ok {ms : List RuleSource} {is : List Item} (index : Nat)
    (h : addItems own view ms a = .ok (is, b)) :
    Chain own view ((RuleSource.memberParts index ms).map (·.2)) (ruleIds is) a b ∧
      ∀ m ∈ ms, m.isDisabled = false → ∀ text, m.reference = some text →
        ∃ ref, Reference.ofText own text = .ok ref ∧ .include ref ∈ is := by
  induction ms generalizing a is index with
  | nil =>
    obtain ⟨rfl, rfl⟩ := pure_ok h
    exact ⟨.nil _, nofun⟩
  | cons m ms ih =>
    obtain ⟨first, rest, c, hfirst, hrest, rfl⟩ := addItems_cons_ok h
    obtain ⟨chain, refs⟩ := ih (index + 1) hrest
    refine ⟨?_, fun m' hm hd text ht => ?_⟩
    · cases hfirst with
      | disabled hd => simpa [RuleSource.memberParts, hd] using chain
      | reference hd ht => simpa [RuleSource.memberParts, hd, ht, ruleIds] using chain
      | rule hd hr hid => simpa [RuleSource.memberParts, hd, hr, ruleIds] using Chain.cons hid chain
    · rcases List.mem_cons.mp hm with rfl | hm
      · cases hfirst with
        | disabled hd' => simp [hd] at hd'
        | reference _ ht' href =>
          obtain rfl := Option.some.inj (ht'.symm.trans ht)
          exact ⟨_, href, List.mem_append_left _ (List.mem_singleton.mpr rfl)⟩
        | rule _ hr => simp [hr] at ht
      · obtain ⟨ref, href, hmem⟩ := refs m' hm hd text ht
        exact ⟨ref, href, List.mem_append_right _ hmem⟩

/-! ### Rules -/

/-- The rule of a source by its kind, where `captures` and `items` add the parts. -/
theorem addBody_eq (own : String) (head : RuleHead) (r : RuleSource)
    (captures : List (Nat × RuleSource) → Build CaptureRules)
    (items : List RuleSource → Build (List Item))
    (hinclude : ∀ text, items [{ reference := some text }] = (do
      let ref ← (Reference.ofText own text : Except CompileError Reference)
      return [.include ref])) :
    addBody own head r (captures r.captures) (captures (RuleSource.orShared r.beginCaptures r.captures))
      (captures (RuleSource.orShared r.endCaptures r.captures))
      (captures (RuleSource.orShared r.whileCaptures r.captures)) (items r.patterns) =
    match r.kind with
    | .matching (some p) => do
      let p ← addPattern p
      let os ← captures r.openings
      return .matching ⟨head, some p, os⟩
    | .matching none => return .matching ⟨head, none, []⟩
    | .continued b w => do
      let span ← addSpan head (r.contentName.map ScopeName.ofText) w b (captures r.openings)
        (captures r.closings) (items r.members)
      return .beginWhile span
    | .ended b e => do
      let span ← addSpan head (r.contentName.map ScopeName.ofText) e b (captures r.openings)
        (captures r.closings) (items r.members)
      return .beginEnd
        ⟨span, r.applyEndPatternLast.any Source.Flag.isSet, r.appliesLineBreak.getD true⟩
    | .group => do
      let items ← items r.members
      return if items.isEmpty then .noop
        else .group ⟨head, r.contentName.map ScopeName.ofText, items⟩ := by
  simp only [addBody, RuleSource.kind, RuleSource.openings, RuleSource.closings, RuleSource.members]
  cases r.matchPattern with
  | some p => rfl
  | none =>
    cases r.beginPattern with
    | some b =>
      cases r.whilePattern with
      | some w => rfl
      | none => cases r.endPattern <;> rfl
    | none =>
      by_cases hscope : (r.name.isSome && r.patterns.isEmpty && r.reference.isNone) = true
      · simp only [if_pos hscope]
      · simp only [if_neg hscope]
        -- A list that is empty gives way to an include.
        cases hr : r.reference with
        | none => simp [addGroupItems, hr]
        | some text =>
          cases hp : r.patterns.isEmpty with
          | false => simp [addGroupItems, hr, hp]
          | true => simp [addGroupItems, hr, hp, hinclude]

/-- What the parts of a rule come to: its patterns, the captures of its matches, and its list. -/
inductive AddsParts (own : String) (view : List RepositoryId) (r : RuleSource) (a b : Assembly)
    (os cs : CaptureRules) (is : List Item) : Prop
  | intro {a₁ a₂ : Assembly}
      (openings : addChecked own view r.openings (a.withPatterns r.patternTexts) = .ok (os, a₁))
      (closings : addChecked own view r.closings a₁ = .ok (cs, a₂))
      (items : addItems own view r.members a₂ = .ok (is, b)) : AddsParts own view r a b os cs is

theorem AddsParts.matching {p : Option String} {os : CaptureRules} (hk : r.kind = .matching p)
    (h : addChecked own view r.openings (a.withPatterns p.toList) = .ok (os, b)) :
    AddsParts own view r a b os [] [] := by
  have hcs : r.closings = [] := by rw [RuleSource.closings, hk]
  have his : r.members = [] := by rw [RuleSource.members, hk]
  have hps : r.patternTexts = p.toList := by rw [RuleSource.patternTexts, hk]
  have hclosings : addChecked own view r.closings b = .ok ([], b) := by rw [hcs]; rfl
  refine .intro (hps ▸ h) hclosings ?_
  rw [his]
  rfl

theorem AddsParts.group {is : List Item} (hk : r.kind = .group)
    (h : addItems own view r.members a = .ok (is, b)) : AddsParts own view r a b [] [] is := by
  have hos : r.openings = [] := by rw [RuleSource.openings, hk]
  have hcs : r.closings = [] := by rw [RuleSource.closings, hk]
  have hps : r.patternTexts = [] := by rw [RuleSource.patternTexts, hk]
  have hclosings : addChecked own view r.closings a = .ok ([], a) := by rw [hcs]; rfl
  refine .intro ?_ hclosings h
  rw [hos, hps, withPatterns_nil]
  rfl

/-- A span is added with its parts. -/
theorem addSpan_ok_parts {head : RuleHead} {content : Option ScopeName} {closing opening : String}
    {span : SpanRule} (hps : r.patternTexts = [closing, opening])
    (h : addSpan head content closing opening (addChecked own view r.openings)
      (addChecked own view r.closings) (addItems own view r.members) a = .ok (span, b)) :
    ∃ os cs is, AddsParts own view r a b os cs is ∧
      span = ⟨head, content, a.patterns.size + 1, os, a.patterns.size,
        Pattern.hasBackreferences closing.toList, cs, is⟩ := by
  have htwo : (a.withPatterns [closing]).withPatterns [opening] = a.withPatterns r.patternTexts := by
    simp only [withPatterns, hps, Array.append_assoc]
    rfl
  have hsize : (a.withPatterns [closing]).patterns.size = a.patterns.size + 1 := by
    simp [withPatterns]
  rw [addSpan, bind_run (addPattern_run a closing), bind_run (addPattern_run _ opening), htwo,
    hsize] at h
  obtain ⟨os, a₁, h₁, h⟩ := bind_ok h
  obtain ⟨cs, a₂, h₂, h⟩ := bind_ok h
  obtain ⟨is, a₃, h₃, h⟩ := bind_ok h
  obtain ⟨rfl, rfl⟩ := pure_ok h
  exact ⟨os, cs, is, .intro h₁ h₂ h₃, rfl⟩

/-- The rules in a rule that are not entries are added one after the other, after its patterns. -/
structure Inner (own : String) (view : List RepositoryId) (r : RuleSource) (a b : Assembly)
    (openings closings : List (Nat × RuleId)) (items : List Item) : Prop where
  chain : Chain own view (r.innerParts.map (·.2))
    (openings.map (·.2) ++ closings.map (·.2) ++ ruleIds items) (a.withPatterns r.patternTexts) b
  openings : openings.map (·.1) = r.openings.map (·.1)
  closings : closings.map (·.1) = r.closings.map (·.1)
  openings_le : ∀ last ∈ (r.openings.map (·.1)).getLast?, last ≤ CompileError.maxCaptureIndex
  closings_le : ∀ last ∈ (r.closings.map (·.1)).getLast?, last ≤ CompileError.maxCaptureIndex
  includes : ∀ m ∈ r.members, m.isDisabled = false → ∀ text, m.reference = some text →
    ∃ ref, Reference.ofText own text = .ok ref ∧ .include ref ∈ items
  empty : r.members = [] → items = []

theorem AddsParts.inner {os cs : CaptureRules} {is : List Item}
    (h : AddsParts own view r a b os cs is) :
    ∃ ors crs, Inner own view r a b ors crs is ∧ os = spreadCaptures ors ∧ cs = spreadCaptures crs := by
  obtain ⟨hos, hcs, his⟩ := h
  obtain ⟨openings_le, ors, openings, first, rfl⟩ := addChecked_ok hos
  obtain ⟨closings_le, crs, closings, second, rfl⟩ := addChecked_ok hcs
  obtain ⟨third, includes⟩ := addItems_ok 0 his
  refine ⟨ors, crs, ⟨?_, openings, closings, openings_le, closings_le, includes, ?_⟩, rfl, rfl⟩
  · simpa [RuleSource.innerParts, Function.comp_def] using (first.append second).append third
  · intro hmembers
    rw [hmembers] at his
    exact (pure_ok his).1

namespace Inner

variable {os cs : List (Nat × RuleId)} {is : List Item}

theorem openings_nil (h : Inner own view r a b os cs is) (hr : r.openings = []) : os = [] := by
  simpa [hr] using h.openings

theorem closings_nil (h : Inner own view r a b os cs is) (hr : r.closings = []) : cs = [] := by
  simpa [hr] using h.closings

end Inner

/-- What adding a rule does: its place is reserved, its repository and its parts are added, and what is made
of them is put in the place. -/
theorem addRule_parts {id : RuleId} (h : addRule own view r a = .ok (id, b)) :
    id = a.rules.size ∧ ∃ view' a₁ a₂ os cs is,
      addRepository own view r.repository a.reserved = .ok (view', a₁) ∧
      AddsParts own view' r a₁ a₂ os cs is ∧
      b = a₂.put a.rules.size (r.made ⟨a.rules.size, r.name.map ScopeName.ofText, view'⟩
        a₁.patterns.size os cs is) := by
  rw [addRule_eq, bind_run (reserveRule_run a)] at h
  obtain ⟨view', a₁, hview, h⟩ := bind_ok h
  obtain ⟨rule, a₂, hbody, h⟩ := bind_ok h
  rw [bind_run (setRule_run a₂ _ rule)] at h
  obtain ⟨rfl, rfl⟩ := pure_ok h
  simp only [addChecked_orShared] at hbody
  rw [addBody_eq own _ r (addChecked own view') (addItems own view') (addItems_include own view')]
    at hbody
  suffices parts : ∃ os cs is, AddsParts own view' r a₁ a₂ os cs is ∧
      rule = r.made ⟨a.rules.size, r.name.map ScopeName.ofText, view'⟩ a₁.patterns.size os cs is by
    obtain ⟨os, cs, is, parts, rfl⟩ := parts
    exact ⟨rfl, view', a₁, a₂, os, cs, is, hview, parts, rfl⟩
  cases hk : r.kind with
  | matching p =>
    cases p with
    | some p =>
      simp only [hk] at hbody
      rw [bind_run (addPattern_run a₁ p)] at hbody
      obtain ⟨os, a₃, hos, h⟩ := bind_ok hbody
      obtain ⟨rfl, rfl⟩ := pure_ok h
      exact ⟨os, [], [], .matching hk hos, by rw [RuleSource.made, hk]; rfl⟩
    | none =>
      simp only [hk] at hbody
      obtain ⟨rfl, rfl⟩ := pure_ok hbody
      have hos : r.openings = [] := by rw [RuleSource.openings, hk]
      refine ⟨[], [], [], .matching hk ?_, by rw [RuleSource.made, hk]; rfl⟩
      rw [hos, Option.toList_none, withPatterns_nil]
      rfl
  | continued p w =>
    simp only [hk] at hbody
    obtain ⟨span, a₃, hspan, h⟩ := bind_ok hbody
    obtain ⟨rfl, rfl⟩ := pure_ok h
    obtain ⟨os, cs, is, parts, rfl⟩ :=
      addSpan_ok_parts (by rw [RuleSource.patternTexts, hk]) hspan
    exact ⟨os, cs, is, parts, by rw [RuleSource.made, hk]⟩
  | ended p e =>
    simp only [hk] at hbody
    obtain ⟨span, a₃, hspan, h⟩ := bind_ok hbody
    obtain ⟨rfl, rfl⟩ := pure_ok h
    obtain ⟨os, cs, is, parts, rfl⟩ :=
      addSpan_ok_parts (by rw [RuleSource.patternTexts, hk]) hspan
    exact ⟨os, cs, is, parts, by rw [RuleSource.made, hk]⟩
  | group =>
    simp only [hk] at hbody
    obtain ⟨is, a₃, his, h⟩ := bind_ok hbody
    obtain ⟨rfl, rfl⟩ := pure_ok h
    exact ⟨[], [], is, .group hk his, by rw [RuleSource.made, hk]⟩

/-- **Adding a rule**: whatever its keys make of it, its place is reserved, its repository and its parts are
added in the same order, and what is made of them is put in the place. -/
theorem addRule_ok {id : RuleId} (h : addRule own view r a = .ok (id, b)) :
    id = a.rules.size ∧ ∃ view' a₁ a₂ os cs is,
      addRepository own view r.repository a.reserved = .ok (view', a₁) ∧
      Inner own view' r a₁ a₂ os cs is ∧
      b = a₂.put a.rules.size (r.made ⟨a.rules.size, r.name.map ScopeName.ofText, view'⟩
        a₁.patterns.size (spreadCaptures os) (spreadCaptures cs) is) := by
  obtain ⟨rfl, view', a₁, a₂, os, cs, is, hview, parts, rfl⟩ := addRule_parts h
  obtain ⟨ors, crs, inner, rfl, rfl⟩ := parts.inner
  exact ⟨rfl, view', a₁, a₂, ors, crs, is, hview, inner, rfl⟩

/-! ### What is there stays -/

/-- What is there stays where it is. -/
structure Extends (a b : Assembly) : Prop where
  rules : ∀ (i : Nat) (r : Rule), a.rules[i]? = some r → b.rules[i]? = some r
  patterns : ∀ (i : Nat) (p : String), a.patterns[i]? = some p → b.patterns[i]? = some p
  repositories : ∀ (i : Nat) (r : Repository), a.repositories[i]? = some r → b.repositories[i]? = some r

namespace Extends

theorem refl (a : Assembly) : a.Extends a := ⟨fun _ _ h => h, fun _ _ h => h, fun _ _ h => h⟩

theorem trans {c : Assembly} (hab : a.Extends b) (hbc : b.Extends c) : a.Extends c :=
  ⟨fun i r h => hbc.rules i r (hab.rules i r h), fun i p h => hbc.patterns i p (hab.patterns i p h),
    fun i r h => hbc.repositories i r (hab.repositories i r h)⟩

theorem size_le {α : Type} {xs ys : Array α} (h : ∀ (i : Nat) (x : α), xs[i]? = some x → ys[i]? = some x) :
    xs.size ≤ ys.size := by
  refine Nat.le_of_not_lt fun hi => ?_
  have hy := h ys.size xs[ys.size] (Array.getElem?_eq_getElem hi)
  simp at hy

theorem rules_size (h : a.Extends b) : a.rules.size ≤ b.rules.size := size_le h.rules

theorem patterns_size (h : a.Extends b) : a.patterns.size ≤ b.patterns.size := size_le h.patterns

theorem repositories_size (h : a.Extends b) : a.repositories.size ≤ b.repositories.size :=
  size_le h.repositories

theorem reserved (a : Assembly) : a.Extends a.reserved := by
  refine ⟨fun i r h => ?_, fun _ _ h => h, fun _ _ h => h⟩
  have hi := (Array.getElem?_eq_some_iff.mp h).1
  rw [Assembly.reserved, Array.getElem?_push_lt hi]
  simpa [hi] using h

theorem opened (a : Assembly) : a.Extends a.opened := by
  refine ⟨fun _ _ h => h, fun _ _ h => h, fun i r h => ?_⟩
  have hi := (Array.getElem?_eq_some_iff.mp h).1
  rw [Assembly.opened, Array.getElem?_push_lt hi]
  simpa [hi] using h

theorem withPatterns (a : Assembly) (texts : List String) : a.Extends (a.withPatterns texts) := by
  refine ⟨fun _ _ h => h, fun i p h => ?_, fun _ _ h => h⟩
  have hi := (Array.getElem?_eq_some_iff.mp h).1
  rw [Assembly.withPatterns, Array.getElem?_append_left hi]
  exact h

/-- What is put into the first place after all is no matter to what is there. -/
theorem put (h : a.Extends b) (r : Rule) : a.Extends (b.put a.rules.size r) := by
  refine ⟨fun i q hq => ?_, h.patterns, h.repositories⟩
  have hi := (Array.getElem?_eq_some_iff.mp hq).1
  rw [Assembly.put, Array.getElem?_setIfInBounds_ne (Nat.ne_of_gt hi)]
  exact h.rules i q hq

theorem fill (h : a.Extends b) (es : Repository) : a.Extends (b.fill a.repositories.size es) := by
  refine ⟨h.rules, h.patterns, fun i q hq => ?_⟩
  have hi := (Array.getElem?_eq_some_iff.mp hq).1
  rw [Assembly.fill, Array.getElem?_setIfInBounds_ne (Nat.ne_of_gt hi)]
  exact h.repositories i q hq

end Extends

/-! ### What all steps keep -/

/-- The patterns of a rule stand one after the other from a number on. -/
def HasPatterns (a : Assembly) (first : PatternId) (r : RuleSource) : Prop :=
  ∀ (i : Nat) (text : String), r.patternTexts[i]? = some text → a.patterns[first + i]? = some text

theorem Extends.hasPatterns (h : (a.withPatterns r.patternTexts).Extends b) :
    b.HasPatterns a.patterns.size r := by
  intro i text ht
  refine h.patterns _ _ ?_
  rw [Assembly.withPatterns, Array.getElem?_append_right (Nat.le_add_right _ _), Nat.add_sub_cancel_left]
  simpa using ht

/-- **A relation that all steps keep**: it holds across each single step, and goes on over several. -/
structure Tracks (R : Assembly → Assembly → Prop) : Prop where
  refl : ∀ a, R a a
  trans : ∀ {a b c}, R a b → R b c → R a c
  patterns : ∀ a texts, R a (a.withPatterns texts)
  repository : ∀ {a b} es, R a.opened b → R a (b.fill a.repositories.size es)
  rule : ∀ {a b} (r : RuleSource) view first os cs is, R a.reserved b → b.HasPatterns first r →
    R a (b.put a.rules.size (r.made ⟨a.rules.size, r.name.map ScopeName.ofText, view⟩ first os cs is))

theorem Extends.tracks : Tracks Extends where
  refl := refl
  trans := trans
  patterns := withPatterns
  repository es h := ((opened _).trans h).fill es
  rule _ _ _ _ _ _ h _ := ((reserved _).trans h).put _

namespace Tracks

variable {R : Assembly → Assembly → Prop}

/-- What is there stays besides. -/
theorem extending (hR : Tracks R) : Tracks fun a b => a.Extends b ∧ R a b where
  refl a := ⟨.refl a, hR.refl a⟩
  trans hab hbc := ⟨hab.1.trans hbc.1, hR.trans hab.2 hbc.2⟩
  patterns a texts := ⟨.withPatterns a texts, hR.patterns a texts⟩
  repository es h := ⟨Extends.tracks.repository es h.1, hR.repository es h.2⟩
  rule r view first os cs is h hps :=
    ⟨Extends.tracks.rule r view first os cs is h.1 hps, hR.rule r view first os cs is h.2 hps⟩

theorem chain (hR : Tracks R) {rs : List RuleSource} {ids : List RuleId}
    (hrule : ∀ r ∈ rs, ∀ view a id b, addRule own view r a = .ok (id, b) → R a b)
    (h : Chain own view rs ids a b) : R a b := by
  induction h with
  | nil => exact hR.refl _
  | cons first _ ih =>
    exact hR.trans (hrule _ List.mem_cons_self _ _ _ _ first)
      (ih fun r hr => hrule r (List.mem_cons_of_mem _ hr))

/-- The patterns of a rule are still there when it is put in its place. -/
theorem addRule_extending (hR : Tracks R) (hext : ∀ {a b}, R a b → a.Extends b) (r : RuleSource) :
    ∀ view a id b, addRule own view r a = .ok (id, b) → R a b := by
  induction r using RuleSource.induction with
  | h r ih =>
    intro view a id b h
    obtain ⟨-, view', a₁, a₂, os, cs, is, hrepository, inner, rfl⟩ := addRule_ok h
    have first : R a.reserved a₁ := by
      rcases addRepository_ok hrepository with ⟨-, -, rfl⟩ | ⟨-, -, c, rs, -, chain, rfl⟩
      · exact hR.refl _
      · refine hR.repository rs (hR.chain (fun q hq => ?_) chain)
        obtain ⟨e, he, rfl⟩ := List.mem_map.mp hq
        exact ih (.entry e.1, e.2) (List.mem_append_left _ (List.mem_map_of_mem he))
    have second : R (a₁.withPatterns r.patternTexts) a₂ := by
      refine hR.chain (fun q hq => ?_) inner.chain
      obtain ⟨p, hp, rfl⟩ := List.mem_map.mp hq
      exact ih p (List.mem_append_right _ hp)
    exact hR.rule r view' _ _ _ is (hR.trans first (hR.trans (hR.patterns a₁ r.patternTexts) second))
      (hext second).hasPatterns

/-- **What all steps keep, adding any rule keeps.** -/
theorem addRule (hR : Tracks R) (r : RuleSource) (view : List RepositoryId) (a : Assembly) (id : RuleId)
    (b : Assembly) (h : Assembly.addRule own view r a = .ok (id, b)) : R a b :=
  (hR.extending.addRule_extending (fun h => h.1) r view a id b h).2

theorem run (hR : Tracks R) {rs : List RuleSource} {ids : List RuleId} (h : Chain own view rs ids a b) :
    R a b :=
  hR.chain (fun q _ => hR.addRule q) h

theorem addRepository (hR : Tracks R) {es : List (String × RuleSource)} {view' : List RepositoryId}
    (h : Assembly.addRepository own view es a = .ok (view', b)) : R a b := by
  rcases addRepository_ok h with ⟨-, -, rfl⟩ | ⟨-, -, c, rs, -, chain, rfl⟩
  · exact hR.refl _
  · exact hR.repository rs (hR.run chain)

theorem inner (hR : Tracks R) {os cs : List (Nat × RuleId)} {is : List Item}
    (h : Inner own view r a b os cs is) : R a b :=
  hR.trans (hR.patterns a r.patternTexts) (hR.run h.chain)

end Tracks

/-! ### Grammars -/

/-- What is made of a grammar: the place of the root is reserved, then come its repository and its list, and
at the end the root is put in its place. -/
theorem addGrammar_addsParts {s : GrammarSource} {root : Option RepositoryId}
    (h : addGrammar own s {} = .ok (root, b)) :
    ∃ a₁ a₂ is,
      addRepository own [] s.root.repository (reserved {}) = .ok (root.toList, a₁) ∧
      AddsParts own root.toList s.root a₁ a₂ [] [] is ∧
      b = a₂.put Grammar.rootRule (.group ⟨⟨Grammar.rootRule, none, root.toList⟩, none, is⟩) := by
  rw [addGrammar, bind_run (reserveRule_run {})] at h
  obtain ⟨view, a₁, hview, h⟩ := bind_ok h
  obtain ⟨is, a₂, his, h⟩ := bind_ok h
  rw [bind_run (setRule_run a₂ _ _)] at h
  obtain ⟨rfl, rfl⟩ := pure_ok h
  have hlist : view.head?.toList = view := by
    rcases addRepository_ok hview with ⟨-, rfl, -⟩ | ⟨-, rfl, -⟩
    · rfl
    · rfl
  rw [hlist]
  exact ⟨a₁, a₂, is, hview, .group rfl his, rfl⟩

/-- The root has no captures, and the rules in it are added one after the other. -/
theorem addGrammar_parts {s : GrammarSource} {root : Option RepositoryId}
    (h : addGrammar own s {} = .ok (root, b)) :
    ∃ a₁ a₂ is,
      addRepository own [] s.root.repository (reserved {}) = .ok (root.toList, a₁) ∧
      Inner own root.toList s.root a₁ a₂ [] [] is ∧
      b = a₂.put Grammar.rootRule (.group ⟨⟨Grammar.rootRule, none, root.toList⟩, none, is⟩) := by
  obtain ⟨a₁, a₂, is, hview, parts, rfl⟩ := addGrammar_addsParts h
  obtain ⟨os, cs, inner, -, -⟩ := parts.inner
  obtain rfl := inner.openings_nil rfl
  obtain rfl := inner.closings_nil rfl
  exact ⟨a₁, a₂, is, hview, inner, rfl⟩

/-- The grammar of a source that has been assembled. -/
def grammar (b : Assembly) (s : GrammarSource) (root : Option RepositoryId) : Grammar where
  name := s.name
  scopeName := s.ownName
  scope := Scope.ofText s.ownName
  fileTypes := s.fileTypes
  patterns := b.patterns.map Pattern.ofText
  rules := b.rules
  repositories := b.repositories
  rootRepository := root

/-- A source with a scope name is assembled under it. -/
theorem ofSource_eq_ok {s : GrammarSource} {g : Grammar} :
    ofSource s = .ok g ↔ s.ownName.toList ≠ [] ∧
      ∃ root b, addGrammar s.ownName s {} = .ok (root, b) ∧ g = b.grammar s root := by
  have hname : s.ownName.toList = Text.trim s.scopeName.toList := String.toList_ofList
  rw [hname]
  unfold ofSource
  simp only [bind, Except.bind, StateT.run]
  split
  · rename_i hown
    simp [throw, throwThe, MonadExceptOf.throw, List.isEmpty_iff.mp hown]
  · rename_i hown
    have hne : Text.trim s.scopeName.toList ≠ [] := fun h => hown (List.isEmpty_iff.mpr h)
    have hrun : addGrammar s.ownName s {} = addGrammar (String.ofList (Text.trim s.scopeName.toList)) s {} := rfl
    rw [hrun]
    split
    · rename_i e he
      simp [he]
    · rename_i p hp
      refine ⟨fun h => ⟨hne, p.1, p.2, hp, (Except.ok.inj h).symm⟩, ?_⟩
      rintro ⟨-, root, b, hb, rfl⟩
      obtain rfl := Except.ok.inj (hp.symm.trans hb)
      rfl

end Assembly

namespace Grammar

/-- How a grammar comes from a source: it is assembled under its scope name, and passes its checks. -/
structure AssembledFrom (g : Grammar) (s : GrammarSource) (root : Option RepositoryId) (b : Assembly) :
    Prop where
  assembled : Assembly.addGrammar g.scopeName s {} = .ok (root, b)
  scopeName : g.scopeName.toList ≠ []
  rules : g.rules = b.rules
  patterns : g.patterns = b.patterns.map Pattern.ofText
  repositories : g.repositories = b.repositories
  rootRepository : g.rootRepository = root
  check : g.check = .ok ()

/-- A source comes to a grammar if the grammar that is assembled passes its checks. -/
theorem ofSource_eq_ok {s : GrammarSource} {g : Grammar} :
    ofSource s = .ok g ↔ Assembly.ofSource s = .ok g ∧ g.check = .ok () := by
  unfold ofSource
  cases Assembly.ofSource s with
  | error e => simp [bind, Except.bind]
  | ok g' =>
    cases hc : g'.check with
    | error e =>
      have hne : g' = g → g.check ≠ .ok () := by
        rintro rfl
        simp [hc]
      simpa [bind, Except.bind, hc] using hne
    | ok u =>
      refine ⟨fun h => ?_, fun h => ?_⟩
      · obtain rfl : g' = g := by simpa [bind, Except.bind, hc, pure, Except.pure] using h
        exact ⟨rfl, hc⟩
      · obtain rfl := Except.ok.inj h.1
        simp [bind, Except.bind, hc, pure, Except.pure]

theorem ofSource_ok {s : GrammarSource} {g : Grammar} (h : ofSource s = .ok g) :
    ∃ root b, g.AssembledFrom s root b := by
  obtain ⟨hassembly, hcheck⟩ := ofSource_eq_ok.mp h
  obtain ⟨hne, root, b, hb, rfl⟩ := Assembly.ofSource_eq_ok.mp hassembly
  exact ⟨root, b, hb, hne, rfl, rfl, rfl, rfl, hcheck⟩

theorem forM_ok {ε α : Type} {f : α → Except ε Unit} :
    ∀ {l : List α}, l.forM f = .ok () → ∀ x ∈ l, f x = .ok ()
  | x :: l, h, y, hy => by
    rw [List.forM] at h
    cases hx : f x with
    | error e => simp [hx, bind, Except.bind] at h
    | ok u =>
      rcases List.mem_cons.mp hy with rfl | hy
      · exact hx
      · exact forM_ok (by simpa [hx, bind, Except.bind] using h) y hy

/-- In a grammar that has passed its checks all references point to rules. -/
theorem resolves_of_check {g : Grammar} (h : g.check = .ok ()) {r : Rule} (hr : r ∈ g.rules)
    {ref : Reference} (href : .include ref ∈ r.items) :
    ∃ k, g.resolveReference r.repositories ref = some k := by
  have hrefs : g.checkReferences = .ok () := by
    rw [check] at h
    cases hp : g.checkPatterns with
    | error e => simp [hp, bind, Except.bind] at h
    | ok u =>
      cases hc : g.checkReferences with
      | error e => simp [hp, hc, bind, Except.bind] at h
      | ok u => rfl
  have hitems := forM_ok hrefs r (Array.mem_toList_iff.mpr hr)
  have hitem := forM_ok hitems _ href
  simp only at hitem
  split at hitem
  · rename_i hsome
    exact Option.isSome_iff_exists.mp hsome
  · cases hitem

end Grammar
end ScopeLexer
