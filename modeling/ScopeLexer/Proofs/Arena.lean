/-
# The arena of a grammar is closed

While a grammar is assembled the arena is half filled: the place of a rule is reserved before its parts are
added. What holds in between is that the places taken are those of the rules that are held by something, and
of those that have been added and are still to be held. So in a grammar that is done each rule but the root
is held exactly once, by a list, by captures or by a repository, and all numbers lead somewhere. A rule comes
before the rules in its list and in its captures, so that no walk down through them comes back.

Key definitions: `Rule.parts`, `Grammar.held`, `Assembly.Adds`, `Grammar.Closed`.
Key theorems: `Assembly.addRule_adds`, `Grammar.closed_of_ofSource`.
-/
import Mathlib.Data.List.Basic
import ScopeLexer.Proofs.Assembling
import ScopeLexer.Proofs.Outcome
import ScopeLexer.Proofs.SortedSources

namespace ScopeLexer

open Source (RuleSource GrammarSource)

namespace Source.RuleSource

variable {r : RuleSource}

/-! ### Captures that are sorted -/

/-- The captures that are used are those under one of the keys. -/
theorem orShared_mem {own shared : List (Nat × RuleSource)} {lists : List (List (Nat × RuleSource))}
    (hown : own ∈ lists) (hshared : shared ∈ lists) : orShared own shared ∈ lists := by
  rw [orShared]
  split
  · exact hshared
  · exact hown

theorem openings_mem (r : RuleSource) : r.openings ∈ [] :: r.captureLists := by
  rw [openings]
  split
  · exact List.mem_cons_self
  · exact List.mem_cons_self
  · split
    · simp [captureLists]
    · exact orShared_mem (by simp [captureLists]) (by simp [captureLists])

theorem closings_mem (r : RuleSource) : r.closings ∈ [] :: r.captureLists := by
  rw [closings]
  split
  · exact orShared_mem (by simp [captureLists]) (by simp [captureLists])
  · exact orShared_mem (by simp [captureLists]) (by simp [captureLists])
  · exact List.mem_cons_self

namespace Ordered

theorem sorted (h : r.Ordered) : ∀ cs ∈ [] :: r.captureLists, SortedKeys cs := by
  obtain ⟨sorted, -, -, -⟩ := h
  exact List.forall_mem_cons.mpr ⟨List.Pairwise.nil, sorted⟩

theorem captures (h : r.Ordered) : ∀ cs ∈ [] :: r.captureLists, ∀ c ∈ cs, c.2.Ordered := by
  obtain ⟨-, captures, -, -⟩ := h
  exact List.forall_mem_cons.mpr ⟨nofun, captures⟩

theorem parts (h : r.Ordered) : ∀ p ∈ r.parts, p.2.Ordered := by
  have hcaptures := h.captures
  obtain ⟨-, -, patterns, repository⟩ := h
  intro p hp
  simp only [RuleSource.parts, innerParts, List.mem_append, List.mem_map] at hp
  rcases hp with ⟨e, he, rfl⟩ | (⟨c, hc, rfl⟩ | ⟨c, hc, rfl⟩) | hm
  · exact repository e he
  · exact hcaptures _ r.openings_mem c hc
  · exact hcaptures _ r.closings_mem c hc
  · obtain ⟨hm, hreference⟩ := mem_memberParts hm
    exact patterns p.2 (mem_patterns_of_mem_members hm hreference)

end Ordered

end Source.RuleSource

theorem Source.GrammarSource.Ordered.root {s : GrammarSource} (h : s.Ordered) : s.root.Ordered :=
  .intro (by simp [Source.RuleSource.captureLists, GrammarSource.root, Source.SortedKeys])
    (by simp [Source.RuleSource.captureLists, GrammarSource.root]) h.patterns h.repository

namespace Rule

/-- The captures of the matches of a rule. -/
def captureLists : Rule → List CaptureRules
  | matching r => [r.captures]
  | beginEnd r => [r.openingCaptures, r.closingCaptures]
  | beginWhile r => [r.openingCaptures, r.closingCaptures]
  | group _ | noop => []

/-- The patterns of a rule. -/
def patternIds : Rule → List PatternId
  | matching r => r.pattern.toList
  | beginEnd r => [r.opening, r.closing]
  | beginWhile r => [r.opening, r.closing]
  | group _ | noop => []

/-- The rules in the captures of a rule and in its list. -/
def parts (r : Rule) : List RuleId :=
  r.captureLists.flatMap (List.filterMap id) ++ Assembly.ruleIds r.items

end Rule

/-- The rules that are in captures, in lists or in repositories. -/
def held (rules : List Rule) (repositories : List Repository) : List RuleId :=
  rules.flatMap Rule.parts ++ repositories.flatMap fun es => es.map (·.2)

/-! ### Lists -/

/-- Where nothing was, all of what is put there is new. -/
theorem count_flatMap_set {α : Type} {f : α → List RuleId} {x : RuleId} {z : α} :
    ∀ {l : List α} {i : Nat} {y : α}, l[i]? = some y → f y = [] →
      ((l.set i z).flatMap f).count x = (l.flatMap f).count x + (f z).count x
  | _ :: l, 0, _, hy, hf => by
    obtain rfl := Option.some.inj hy
    simp only [List.set_cons_zero, List.flatMap_cons, hf, List.nil_append, List.count_append]
    omega
  | w :: l, i + 1, y, hy, hf => by
    have ih := count_flatMap_set (f := f) (x := x) (z := z) (l := l) (i := i) hy hf
    simp only [List.set_cons_succ, List.flatMap_cons, List.count_append, ih]
    omega

namespace Assembly

/-- Entries sorted by number are found one after the other. -/
theorem filterMap_lookup_range' {cs : List (Nat × RuleId)} {m n : Nat}
    (hcs : (cs.map (·.1)).Pairwise (· < ·)) (hm : ∀ c ∈ cs, m ≤ c.1 ∧ c.1 < m + n) :
    (List.range' m n).filterMap (fun i => cs.lookup i) = cs.map (·.2) := by
  induction n generalizing m cs with
  | zero =>
    cases cs with
    | nil => rfl
    | cons c cs =>
      have := hm c List.mem_cons_self
      omega
  | succ n ih =>
    rw [List.range'_succ, List.filterMap_cons]
    cases cs with
    | nil => simp
    | cons c cs =>
      obtain ⟨k, v⟩ := c
      obtain ⟨hk, hcs'⟩ := List.pairwise_cons.mp hcs
      have hkm : m ≤ k ∧ k < m + (n + 1) := hm (k, v) List.mem_cons_self
      have hrest : ∀ c ∈ cs, k < c.1 ∧ c.1 < m + (n + 1) := fun c hc =>
        ⟨hk c.1 (List.mem_map_of_mem hc), (hm c (List.mem_cons_of_mem _ hc)).2⟩
      by_cases heq : m = k
      · subst heq
        -- The first entry is found now, and no more from here on.
        have later : (List.range' (m + 1) n).filterMap (fun i => ((m, v) :: cs).lookup i) =
            (List.range' (m + 1) n).filterMap (fun i => cs.lookup i) := by
          refine List.filterMap_congr fun i hi => ?_
          have hne : (i == m) = false := by
            have := List.mem_range'_1.mp hi
            exact beq_false_of_ne (by omega)
          rw [List.lookup_cons, hne]
        simp only [List.lookup_cons_self, List.map_cons]
        rw [later, ih hcs' fun c hc => by have := hrest c hc; omega]
      · have hnone : ((k, v) :: cs).lookup m = none := by
          rw [List.lookup_eq_none_iff]
          rintro p (_ | ⟨_, hp⟩)
          · exact bne_iff_ne.mpr heq
          · have := hrest p hp
            exact bne_iff_ne.mpr (by omega)
        rw [hnone]
        refine ih hcs ?_
        rintro c (_ | ⟨_, hc⟩)
        · exact ⟨by omega, by omega⟩
        · have := hrest c hc
          exact ⟨by omega, by omega⟩

theorem le_getLast_of_pairwise {cs : List (Nat × RuleId)} (hcs : (cs.map (·.1)).Pairwise (· < ·))
    {last : Nat × RuleId} (hlast : cs.getLast? = some last) : ∀ c ∈ cs, c.1 ≤ last.1 := by
  intro c hc
  obtain ⟨ds, rfl⟩ := List.getLast?_eq_some_iff.mp hlast
  rcases List.mem_append.mp hc with hc | hc
  · rw [List.map_append, List.pairwise_append] at hcs
    exact Nat.le_of_lt (hcs.2.2 c.1 (List.mem_map_of_mem hc) last.1 (by simp))
  · obtain rfl := List.mem_singleton.mp hc
    exact Nat.le_refl _

/-- Captures that are sorted by group are spread without loss. -/
theorem spreadCaptures_filterMap {cs : List (Nat × RuleId)} (hcs : (cs.map (·.1)).Pairwise (· < ·)) :
    (spreadCaptures cs).filterMap id = cs.map (·.2) := by
  rw [spreadCaptures]
  split
  · rename_i hnone
    rw [List.getLast?_eq_none_iff.mp hnone]
    rfl
  · rename_i last hlast
    rw [List.filterMap_map, List.range_eq_range']
    refine filterMap_lookup_range' hcs fun c hc => ⟨Nat.zero_le _, ?_⟩
    have := le_getLast_of_pairwise hcs hlast c hc
    omega

/-- There is a place for each group up to the last one. -/
theorem length_spreadCaptures {cs : List (Nat × RuleId)} {n : Nat}
    (h : ∀ last ∈ (cs.map (·.1)).getLast?, last ≤ n) : (spreadCaptures cs).length ≤ n + 1 := by
  rw [spreadCaptures]
  split
  · exact Nat.zero_le _
  · rename_i last hlast
    have hle : last.1 ≤ n := h last.1 (by rw [List.getLast?_map, hlast]; rfl)
    simpa using hle

/-! ### What a rule adds to the arena -/

variable {own : String} {view : List RepositoryId} {r : RuleSource} {a b c : Assembly}

/-- The rules of an assembly that are in captures, in lists or in repositories. -/
def held (a : Assembly) : List RuleId := ScopeLexer.held a.rules.toList a.repositories.toList

/-- All numbers in the rule at a place lead somewhere, and to later places if they are those of rules. -/
structure Fits (a : Assembly) (i : RuleId) (r : Rule) : Prop where
  id : ∀ h ∈ r.head?, h.id = i
  parts : ∀ k ∈ r.parts, i < k
  patterns : ∀ p ∈ r.patternIds, p < a.patterns.size
  repositories : ∀ v ∈ r.repositories, v < a.repositories.size
  captures : ∀ cs ∈ r.captureLists, cs.length ≤ CompileError.maxCaptureIndex + 1

def Sound (a : Assembly) : Prop := ∀ (i : RuleId) (r : Rule), a.rules[i]? = some r → a.Fits i r

theorem Fits.mono {i : RuleId} {q : Rule} (h : a.Fits i q) (hp : a.patterns.size ≤ b.patterns.size)
    (hr : a.repositories.size ≤ b.repositories.size) : b.Fits i q :=
  ⟨h.id, h.parts, fun p hq => Nat.lt_of_lt_of_le (h.patterns p hq) hp,
    fun v hq => Nat.lt_of_lt_of_le (h.repositories v hq) hr, h.captures⟩

theorem fits_noop (a : Assembly) (i : RuleId) : a.Fits i .noop := by
  constructor <;> simp [Rule.head?, Rule.parts, Rule.captureLists, Rule.items, ruleIds, Rule.patternIds,
    Rule.repositories]

theorem Sound.reserved (h : a.Sound) : a.reserved.Sound := by
  intro i q hq
  rw [Assembly.reserved, Array.getElem?_push] at hq
  split at hq
  · obtain rfl := Option.some.inj hq
    exact fits_noop _ _
  · exact (h i q hq).mono (Nat.le_refl _) (Nat.le_refl _)

theorem Sound.put (h : a.Sound) {i : RuleId} {q : Rule} (hq : a.Fits i q) : (a.put i q).Sound := by
  intro j p hp
  rw [Assembly.put, Array.getElem?_setIfInBounds] at hp
  split at hp
  · rename_i hij
    subst hij
    split at hp
    · obtain rfl := Option.some.inj hp
      exact hq.mono (Nat.le_refl _) (Nat.le_refl _)
    · cases hp
  · exact (h j p hp).mono (Nat.le_refl _) (Nat.le_refl _)

/-- **What is added from one assembly to another**: nothing moves, and the places that are taken are those of
the rules that are held now and of some new ones that nothing holds yet. -/
structure Adds (a b : Assembly) (new : List RuleId) : Prop where
  moves : a.Extends b
  fresh : ∀ id ∈ new, a.rules.size ≤ id
  count : ∀ x, b.held.count x + new.count x + (List.range a.rules.size).count x =
    a.held.count x + (List.range b.rules.size).count x
  sound : a.Sound → b.Sound

namespace Adds

theorem refl (a : Assembly) : a.Adds a [] :=
  ⟨.refl a, nofun, fun x => by rw [List.count_nil, Nat.add_zero], fun h => h⟩

theorem trans {new more : List RuleId} (hab : a.Adds b new) (hbc : b.Adds c more) :
    a.Adds c (new ++ more) := by
  refine ⟨hab.moves.trans hbc.moves, fun id hid => ?_, fun x => ?_, fun h => hbc.sound (hab.sound h)⟩
  · rcases List.mem_append.mp hid with hid | hid
    · exact hab.fresh id hid
    · exact Nat.le_trans hab.moves.rules_size (hbc.fresh id hid)
  · have h₁ := hab.count x
    have h₂ := hbc.count x
    rw [List.count_append]
    omega

end Adds

theorem withPatterns_adds (a : Assembly) (texts : List String) : a.Adds (a.withPatterns texts) [] := by
  refine ⟨.withPatterns a texts, nofun, fun x => ?_, fun h i r hr => ?_⟩
  · simp only [held, withPatterns, List.count_nil]
    omega
  · exact (h i r hr).mono (Extends.withPatterns a texts).patterns_size (Nat.le_refl _)

/-- The rules that are added one after the other are new. -/
theorem Chain.adds {rs : List RuleSource} {ids : List RuleId} (h : Chain own view rs ids a b)
    (hrule : ∀ r ∈ rs, ∀ a id b, (∀ v ∈ view, v < a.repositories.size) →
      addRule own view r a = .ok (id, b) → a.Adds b [id])
    (hview : ∀ v ∈ view, v < a.repositories.size) : a.Adds b ids := by
  induction h with
  | nil => exact .refl _
  | cons first _ ih =>
    have adds := hrule _ List.mem_cons_self _ _ _ hview first
    exact adds.trans (ih (fun r hr => hrule r (List.mem_cons_of_mem _ hr)) fun v hv =>
      Nat.lt_of_lt_of_le (hview v hv) adds.moves.repositories_size)

theorem opened_held (a : Assembly) : a.opened.held = a.held := by
  simp [held, ScopeLexer.held, opened]

theorem reserved_held (a : Assembly) : a.reserved.held = a.held := by
  simp [held, ScopeLexer.held, reserved, Rule.parts, Rule.captureLists, Rule.items, ruleIds]

theorem count_range_reserved (a : Assembly) (x : RuleId) :
    (List.range a.reserved.rules.size).count x =
      (List.range a.rules.size).count x + [a.rules.size].count x := by
  rw [reserved, Array.size_push, List.range_succ, List.count_append]

theorem size_put (a : Assembly) (i : RuleId) (q : Rule) : (a.put i q).rules.size = a.rules.size :=
  Array.size_setIfInBounds

/-- A repository that is put in its place holds its entries. -/
theorem count_fill {i : RepositoryId} {es : Repository} (h : a.repositories[i]? = some []) (x : RuleId) :
    (a.fill i es).held.count x = a.held.count x + (es.map (·.2)).count x := by
  have hset := count_flatMap_set (f := fun es : Repository => es.map (·.2)) (x := x) (z := es)
    (l := a.repositories.toList) (i := i) (y := []) (by simpa using h) rfl
  simp only [held, ScopeLexer.held, fill, Array.toList_setIfInBounds, List.count_append, hset]
  omega

/-- A rule that is put in its place holds its parts. -/
theorem count_put {i : RuleId} {q : Rule} (h : a.rules[i]? = some .noop) (x : RuleId) :
    (a.put i q).held.count x = a.held.count x + q.parts.count x := by
  have hset := count_flatMap_set (f := Rule.parts) (x := x) (z := q) (l := a.rules.toList) (i := i)
    (y := .noop) (by simpa using h) rfl
  simp only [held, ScopeLexer.held, put, Array.toList_setIfInBounds, List.count_append, hset]
  omega

/-- What a repository holds is new until then. -/
theorem addRepository_adds {es : List (String × RuleSource)} {view' : List RepositoryId}
    (h : addRepository own view es a = .ok (view', b))
    (hrule : ∀ e ∈ es, ∀ view a id b, (∀ v ∈ view, v < a.repositories.size) →
      addRule own view e.2 a = .ok (id, b) → a.Adds b [id])
    (hview : ∀ v ∈ view, v < a.repositories.size) :
    a.Adds b [] ∧ ∀ v ∈ view', v < b.repositories.size := by
  rcases addRepository_ok h with ⟨-, rfl, rfl⟩ | ⟨-, rfl, c, rs, -, chain, rfl⟩
  · exact ⟨.refl _, hview⟩
  · have hsize : a.opened.repositories.size = a.repositories.size + 1 := by simp [opened]
    have hview' : ∀ v ∈ a.repositories.size :: view, v < a.opened.repositories.size := by
      rintro v (_ | ⟨_, hv⟩)
      · exact hsize ▸ Nat.lt_succ_self _
      · exact hsize ▸ Nat.lt_succ_of_lt (hview v hv)
    have adds := chain.adds (fun q hq => by
      obtain ⟨e, he, rfl⟩ := List.mem_map.mp hq
      exact hrule e he _) hview'
    have hslot : c.repositories[a.repositories.size]? = some [] :=
      adds.moves.repositories _ _ (by simp [opened])
    refine ⟨⟨((Extends.opened a).trans adds.moves).fill rs, List.forall_mem_nil _, fun x => ?_,
      fun h i r hr => ?_⟩, ?_⟩
    · have hcount := adds.count x
      rw [opened_held] at hcount
      rw [count_fill hslot x, List.count_nil]
      simp only [opened, fill] at hcount ⊢
      omega
    · have hsound : c.Sound := adds.sound fun i r hr =>
        (h i r hr).mono (Nat.le_refl _) (Extends.opened a).repositories_size
      exact (hsound i r hr).mono (Nat.le_refl _) (by simp [fill])
    · intro v hv
      have hlt := Nat.lt_of_lt_of_le (hview' v hv) adds.moves.repositories_size
      simpa [fill] using hlt

namespace Inner

variable {os cs : List (Nat × RuleId)} {is : List Item}

/-- What is made of a rule holds all that has been added for it. -/
theorem made_parts (h : Inner own view r a b os cs is) (hr : r.Ordered) (head : RuleHead) (n : PatternId) :
    (r.made head n (spreadCaptures os) (spreadCaptures cs) is).parts =
      os.map (·.2) ++ cs.map (·.2) ++ ruleIds is := by
  have hos : (spreadCaptures os).filterMap id = os.map (·.2) :=
    spreadCaptures_filterMap (h.openings ▸ hr.sorted _ r.openings_mem)
  have hcs : (spreadCaptures cs).filterMap id = cs.map (·.2) :=
    spreadCaptures_filterMap (h.closings ▸ hr.sorted _ r.closings_mem)
  rw [RuleSource.made]
  cases hk : r.kind with
  | matching p =>
    obtain rfl := h.closings_nil (by rw [RuleSource.closings, hk])
    obtain rfl := h.empty (by rw [RuleSource.members, hk])
    simp only [Rule.parts, Rule.captureLists, List.flatMap_cons, List.flatMap_nil, hos]
    rfl
  | continued p w =>
    simp only [Rule.parts, Rule.captureLists, Rule.items, List.flatMap_cons, List.flatMap_nil,
      List.append_nil, hos, hcs]
  | ended p e =>
    simp only [Rule.parts, Rule.captureLists, Rule.items, List.flatMap_cons, List.flatMap_nil,
      List.append_nil, hos, hcs]
  | group =>
    obtain rfl := h.openings_nil (by rw [RuleSource.openings, hk])
    obtain rfl := h.closings_nil (by rw [RuleSource.closings, hk])
    cases is <;> rfl

theorem made_captures (h : Inner own view r a b os cs is) (head : RuleHead) (n : PatternId) :
    ∀ rules ∈ (r.made head n (spreadCaptures os) (spreadCaptures cs) is).captureLists,
      rules.length ≤ CompileError.maxCaptureIndex + 1 := by
  have hos : (spreadCaptures os).length ≤ CompileError.maxCaptureIndex + 1 :=
    length_spreadCaptures (h.openings ▸ h.openings_le)
  have hcs : (spreadCaptures cs).length ≤ CompileError.maxCaptureIndex + 1 :=
    length_spreadCaptures (h.closings ▸ h.closings_le)
  rw [RuleSource.made]
  cases r.kind with
  | matching p => simpa [Rule.captureLists] using hos
  | continued p w => simpa [Rule.captureLists] using ⟨hos, hcs⟩
  | ended p e => simpa [Rule.captureLists] using ⟨hos, hcs⟩
  | group => cases is <;> exact List.forall_mem_nil _

theorem made_patterns (h : Inner own view r a b os cs is) (head : RuleHead) :
    ∀ p ∈ (r.made head a.patterns.size (spreadCaptures os) (spreadCaptures cs) is).patternIds,
      p < b.patterns.size := by
  have hsize : a.patterns.size + r.patternTexts.length ≤ b.patterns.size := by
    have := (Extends.tracks.run h.chain).patterns_size
    simpa [withPatterns] using this
  rw [RuleSource.made]
  cases hk : r.kind with
  | matching p =>
    cases p with
    | none => exact List.forall_mem_nil _
    | some p =>
      rw [RuleSource.patternTexts, hk] at hsize
      simp only [Rule.patternIds, Option.map_some, Option.toList_some, List.mem_singleton, forall_eq]
      exact hsize
  | continued p w =>
    rw [RuleSource.patternTexts, hk] at hsize
    simp only [Rule.patternIds, List.mem_cons, List.not_mem_nil, or_false, forall_eq_or_imp, forall_eq]
    exact ⟨hsize, Nat.lt_of_succ_lt hsize⟩
  | ended p e =>
    rw [RuleSource.patternTexts, hk] at hsize
    simp only [Rule.patternIds, List.mem_cons, List.not_mem_nil, or_false, forall_eq_or_imp, forall_eq]
    exact ⟨hsize, Nat.lt_of_succ_lt hsize⟩
  | group => cases is <;> exact List.forall_mem_nil _

end Inner

/-- What a rule is made of fits once it is there: the parts come after it, the rest before it is put. -/
theorem made_fits {view' : List RepositoryId} {os cs : List (Nat × RuleId)} {is : List Item}
    {id : RuleId} (inner : Inner own view' r a b os cs is) (hr : r.Ordered)
    (adds : a.Adds b (os.map (·.2) ++ cs.map (·.2) ++ ruleIds is)) (hid : id < a.rules.size)
    (hview : ∀ v ∈ view', v < b.repositories.size) (name : Option ScopeName) :
    b.Fits id (r.made ⟨id, name, view'⟩ a.patterns.size (spreadCaptures os) (spreadCaptures cs) is) := by
  refine ⟨?_, ?_, inner.made_patterns _, ?_, inner.made_captures _ _⟩
  · intro h hh
    rw [RuleSource.head?_made hh]
  · intro k hk
    rw [inner.made_parts hr] at hk
    exact Nat.lt_of_lt_of_le hid (adds.fresh k hk)
  · intro v hv
    rw [Rule.repositories] at hv
    split at hv
    · rename_i h hh
      obtain rfl := RuleSource.head?_made hh
      exact hview v hv
    · exact absurd hv List.not_mem_nil

/-- The rules in a rule are new, if each of them is; those in its repository are held from then on. -/
theorem parts_add {view' : List RepositoryId} {os cs : List (Nat × RuleId)} {is : List Item}
    (hrepository : addRepository own view r.repository a = .ok (view', b))
    (inner : Inner own view' r b c os cs is)
    (hparts : ∀ p ∈ r.parts, ∀ view a id b, (∀ v ∈ view, v < a.repositories.size) →
      addRule own view p.2 a = .ok (id, b) → a.Adds b [id])
    (hview : ∀ v ∈ view, v < a.repositories.size) :
    a.Adds b [] ∧ b.Adds c (os.map (·.2) ++ cs.map (·.2) ++ ruleIds is) ∧
      ∀ v ∈ view', v < c.repositories.size := by
  obtain ⟨first, hview'⟩ := addRepository_adds hrepository
    (fun e he => hparts (.entry e.1, e.2) (List.mem_append_left _ (List.mem_map_of_mem he))) hview
  have second : b.Adds c (os.map (·.2) ++ cs.map (·.2) ++ ruleIds is) :=
    (withPatterns_adds b r.patternTexts).trans (inner.chain.adds (fun q hq => by
      obtain ⟨p, hp, rfl⟩ := List.mem_map.mp hq
      exact hparts p (List.mem_append_right _ hp) _) hview')
  exact ⟨first, second, fun v hv => Nat.lt_of_lt_of_le (hview' v hv) second.moves.repositories_size⟩

/-- **Adding a rule takes one place for it and one for each rule in it**, and all but its own are held by
the rules and repositories in between. -/
theorem addRule_adds (r : RuleSource) (hr : r.Ordered) :
    ∀ view a id b, (∀ v ∈ view, v < a.repositories.size) → addRule own view r a = .ok (id, b) →
      a.Adds b [id] := by
  induction r using RuleSource.induction with
  | h r ih =>
    intro view a id b hview h
    obtain ⟨rfl, view', a₁, a₂, os, cs, is, hrepository, inner, rfl⟩ := addRule_ok h
    obtain ⟨first, second, hview'⟩ :=
      parts_add hrepository inner (fun p hp => ih p hp (hr.parts p hp)) hview
    have hslot : a.reserved.rules[a.rules.size]? = some .noop := Array.getElem?_push_size
    have hlt : a.rules.size < a₁.rules.size :=
      Nat.lt_of_lt_of_le (by simp [reserved]) first.moves.rules_size
    refine ⟨(((Extends.reserved a).trans first.moves).trans second.moves).put _, ?_, fun x => ?_,
      fun h => ?_⟩
    · intro id hid
      exact Nat.le_of_eq (List.mem_singleton.mp hid).symm
    · have h₁ := first.count x
      have h₂ := second.count x
      rw [reserved_held, List.count_nil, count_range_reserved] at h₁
      rw [count_put (second.moves.rules _ _ (first.moves.rules _ _ hslot)), inner.made_parts hr,
        size_put]
      omega
    · exact (second.sound (first.sound h.reserved)).put (made_fits inner hr second hlt hview' _)

/-- What is in a source is added to it: nothing holds the root, and each other rule is held once. -/
theorem addGrammar_adds {s : GrammarSource} (hs : s.Ordered) {root : Option RepositoryId}
    (h : addGrammar own s {} = .ok (root, b)) :
    b.Sound ∧ (∀ x, b.held.count x + [Grammar.rootRule].count x = (List.range b.rules.size).count x) ∧
      ∃ is, b.rules[Grammar.rootRule]? =
        some (.group ⟨⟨Grammar.rootRule, none, root.toList⟩, none, is⟩) := by
  obtain ⟨a₁, a₂, is, hrepository, inner, rfl⟩ := addGrammar_parts h
  obtain ⟨first, second, hview⟩ :=
    parts_add hrepository inner (fun p hp => addRule_adds p.2 (hs.root.parts p hp)) nofun
  have hslot : a₂.rules[Grammar.rootRule]? = some .noop :=
    second.moves.rules _ _ (first.moves.rules _ _ rfl)
  have hlt : Grammar.rootRule < a₂.rules.size := (Array.getElem?_eq_some_iff.mp hslot).1
  refine ⟨(second.sound (first.sound ?_)).put ⟨?_, ?_, nofun, hview, nofun⟩, fun x => ?_, is, ?_⟩
  · exact Sound.reserved fun i q hq => by simp at hq
  · intro h hh
    rw [← Option.some.inj hh]
  · intro k hk
    exact Nat.lt_of_lt_of_le first.moves.rules_size (second.fresh k hk)
  · have h₁ := first.count x
    have h₂ := second.count x
    have hparts : (Rule.group ⟨⟨Grammar.rootRule, none, root.toList⟩, none, is⟩).parts = ruleIds is := rfl
    rw [reserved_held, List.count_nil, count_range_reserved] at h₁
    rw [count_put hslot, hparts, size_put]
    have hheld : (held {}).count x = 0 := rfl
    have hsize : (List.range (#[] : Array Rule).size).count x = 0 := rfl
    have hroot : (#[] : Array Rule).size = Grammar.rootRule := rfl
    rw [hheld, hsize, hroot] at h₁
    simp only [List.map_nil, List.nil_append] at h₂
    omega
  · exact Array.getElem?_setIfInBounds_self_of_lt hlt

end Assembly

namespace Grammar

/-- The rules of a grammar that are in captures, in lists or in repositories. -/
def held (g : Grammar) : List RuleId := ScopeLexer.held g.rules.toList g.repositories.toList

/-- All numbers in a grammar lead somewhere, and every rule but the root is held once. -/
structure Closed (g : Grammar) : Prop where
  /-- The first rule is that of the grammar itself. -/
  root : ∃ r, g.rules[rootRule]? = some (.group r) ∧ r.name = none ∧
    r.repositories = g.rootRepository.toList
  ids : ∀ (i : RuleId) (r : Rule) (h : RuleHead), g.rules[i]? = some r → r.head? = some h → h.id = i
  parts : ∀ (i : RuleId) (r : Rule), g.rules[i]? = some r → ∀ k ∈ r.parts, i < k ∧ k < g.rules.size
  entries : ∀ es ∈ g.repositories, ∀ e ∈ es, e.2 < g.rules.size
  patterns : ∀ r ∈ g.rules, ∀ p ∈ r.patternIds, p < g.patterns.size
  views : ∀ r ∈ g.rules, ∀ v ∈ r.repositories, v < g.repositories.size
  captures : ∀ r ∈ g.rules, ∀ cs ∈ r.captureLists, cs.length ≤ 1001
  references : ∀ r ∈ g.rules, ∀ ref, .include ref ∈ r.items →
    ∃ k, g.resolveReference r.repositories ref = some k ∧ k < g.rules.size
  /-- The root is held by nothing, every other rule once. -/
  once : ∀ id, g.held.count id = if id ≠ rootRule ∧ id < g.rules.size then 1 else 0

/-- What a reference points to is the root or an entry of a repository. -/
theorem resolveReference_mem {g : Grammar} {view : List RepositoryId} {ref : Reference} {k : RuleId}
    (h : g.resolveReference view ref = some k) :
    k = rootRule ∨ ∃ es ∈ g.repositories, ∃ e ∈ es, e.2 = k := by
  have entry : ∀ {v : RepositoryId} {name : String}, g.entry? v name = some k →
      ∃ es ∈ g.repositories, ∃ e ∈ es, e.2 = k := by
    intro v name hv
    rw [ entry?, Array.getD_eq_getD_getElem?] at hv
    cases hes : g.repositories[v]? with
    | none => simp [hes] at hv
    | some es =>
      rw [hes, Option.getD_some] at hv
      obtain ⟨before, after, rfl, -⟩ := List.lookup_eq_some_iff.mp hv
      exact ⟨_, Array.mem_of_getElem? hes, (name, k), by simp, rfl⟩
  cases ref with
  | self => exact .inl (Option.some.inj h).symm
  | base => exact .inl (Option.some.inj h).symm
  | named name =>
    obtain ⟨v, -, hv⟩ := List.exists_of_findSome?_eq_some h
    exact .inr (entry hv)
  | topLevel name =>
    obtain ⟨v, -, hv⟩ := Option.bind_eq_some_iff.mp h
    exact .inr (entry hv)

/-- **The arena of every compiled grammar is closed and has the shape of a tree.** The captures of a source
are sorted by group, as those of every source that is read are (`Source.Format.read_ordered`). -/
theorem closed_of_ofSource {s : GrammarSource} {g : Grammar} (hs : s.Ordered)
    (h : ofSource s = .ok g) : g.Closed := by
  obtain ⟨root, b, hb⟩ := ofSource_ok h
  obtain ⟨hb, -, hrules, hpatterns, hrepositories, hroot, hcheck⟩ := hb
  obtain ⟨sound, count, is, hgroup⟩ := Assembly.addGrammar_adds hs hb
  have hheld : g.held = b.held := by rw [held, hrules, hrepositories]; rfl
  have once : ∀ id, g.held.count id = if id ≠ rootRule ∧ id < g.rules.size then 1 else 0 := by
    intro id
    have hcount := count id
    have hroot : rootRule < g.rules.size := hrules ▸ (Array.getElem?_eq_some_iff.mp hgroup).1
    rw [← hheld, ← hrules, List.count_range] at hcount
    by_cases hid : id = rootRule
    · subst hid
      rw [if_pos hroot, List.count_singleton_self] at hcount
      rw [if_neg (fun h => h.1 rfl)]
      omega
    · rw [List.count_singleton, if_neg (by simpa using Ne.symm hid)] at hcount
      simpa [hid] using hcount
  have bound : ∀ k ∈ g.held, k < g.rules.size := by
    intro k hk
    have hpos := List.count_pos_iff.mpr hk
    rw [once] at hpos
    by_contra hge
    simp [hge] at hpos
  have partBound : ∀ (i : RuleId) (r : Rule), g.rules[i]? = some r → ∀ k ∈ r.parts, k < g.rules.size := by
    intro i r hr k hk
    exact bound k (List.mem_append_left _ (List.mem_flatMap.mpr
      ⟨r, Array.mem_toList_iff.mpr (Array.mem_of_getElem? hr), hk⟩))
  have entryBound : ∀ es ∈ g.repositories, ∀ e ∈ es, e.2 < g.rules.size := by
    intro es hes e he
    exact bound e.2 (List.mem_append_right _ (List.mem_flatMap.mpr
      ⟨es, Array.mem_toList_iff.mpr hes, List.mem_map_of_mem he⟩))
  have fits : ∀ (i : RuleId) (r : Rule), g.rules[i]? = some r → b.Fits i r := by
    intro i r hr
    exact sound i r (hrules ▸ hr)
  have fitsMem : ∀ r ∈ g.rules, ∃ i, b.Fits i r := by
    intro r hr
    obtain ⟨i, hi⟩ := Array.mem_iff_getElem?.mp hr
    exact ⟨i, fits i r hi⟩
  refine ⟨⟨_, hrules ▸ hgroup, rfl, hroot ▸ rfl⟩, fun i r h hr hh => (fits i r hr).id h hh,
    fun i r hr k hk => ⟨(fits i r hr).parts k hk, partBound i r hr k hk⟩, entryBound, ?_, ?_, ?_, ?_, once⟩
  · intro r hr p hp
    obtain ⟨i, hi⟩ := fitsMem r hr
    rw [hpatterns, Array.size_map]
    exact hi.patterns p hp
  · intro r hr v hv
    obtain ⟨i, hi⟩ := fitsMem r hr
    exact hrepositories ▸ hi.repositories v hv
  · intro r hr
    obtain ⟨i, hi⟩ := fitsMem r hr
    exact hi.captures
  · intro r hr ref href
    obtain ⟨k, hk⟩ := resolves_of_check hcheck hr href
    refine ⟨k, hk, ?_⟩
    rcases resolveReference_mem hk with rfl | ⟨es, hes, e, he, rfl⟩
    · exact hrules ▸ (Array.getElem?_eq_some_iff.mp hgroup).1
    · exact entryBound es hes e he

end Grammar

/-- Brackets around items, whose opening bracket has a scope of its own. -/
def Source.bracketText : GrammarSource where
  scopeName := "source.bracket"
  patterns := [{
    beginPattern := some "[(]"
    endPattern := some "[)]"
    beginCaptures := [(0, { name := some "open.bracket" })]
    patterns := [{ reference := some "#item" }, { reference := some "$self" }] }]
  repository := [("item", {
    matchPattern := some "(a)(b)"
    captures := [(0, { name := some "all.bracket" }), (2, { name := some "b.bracket" })] })]

theorem Source.bracketText_ordered : bracketText.Ordered := by
  have empty := RuleSource.ordered_empty
  have scope : ∀ name, ({ name := some name } : RuleSource).Ordered := fun _ => empty.of_same rfl rfl rfl
  have reference : ∀ text, ({ reference := some text } : RuleSource).Ordered := fun _ =>
    empty.of_same rfl rfl rfl
  have none : ∀ c ∈ ([] : List (Nat × RuleSource)), c.2.Ordered := List.forall_mem_nil _
  have brackets : ∀ r ∈ bracketText.patterns, r.Ordered := by
    simp only [bracketText, List.forall_mem_singleton]
    refine .intro (by decide) ?_ (by simp [reference]) (by simp)
    simp only [RuleSource.captureLists, List.forall_mem_cons]
    exact ⟨none, ⟨scope _, none⟩, none, none, List.forall_mem_nil _⟩
  have item : ∀ e ∈ bracketText.repository, e.2.Ordered := by
    simp only [bracketText, List.forall_mem_singleton]
    refine .intro (by decide) ?_ (by simp) (by simp)
    simp only [RuleSource.captureLists, List.forall_mem_cons]
    exact ⟨⟨scope _, scope _, none⟩, none, none, none, List.forall_mem_nil _⟩
  exact ⟨brackets, item⟩

/-- The six rules of such a text are the root, which nothing holds, and five that are held once. -/
theorem Grammar.closed_bracketText : Source.bracketText.Ordered ∧
    ∃ g, ofSource Source.bracketText = .ok g ∧ g.rules.size = 6 ∧ g.Closed := by
  have run : (ofSource Source.bracketText).toOption.any (fun g => g.rules.size == 6) = true := by
    decide +kernel
  obtain ⟨g, hg, hsize⟩ := exists_ok_of_any run
  exact ⟨Source.bracketText_ordered, g, hg, by simpa using hsize,
    closed_of_ofSource Source.bracketText_ordered hg⟩

end ScopeLexer
