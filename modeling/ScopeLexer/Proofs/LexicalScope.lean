/-
# Includes point to the nearest entry

The rules of a source are numbered in the order of the text, a rule before the rules in it, so the number of
the rule at a place follows from the source alone. The repositories that a rule keeps in view are its own and
those of the rules around it, from the inside out. So an include leads to the rule of the entry in the
nearest repository around it that has one of that name. The name of the grammar before the sign leads to its
own repository, whatever stands between.

Key definitions: `RuleSource.locate`, `RuleSource.Nearest`, `Assembly.Laid`.
Key theorems: `Assembly.addRule_laid`, `Grammar.include_resolves`.
-/
import Mathlib.Algebra.GroupWithZero.Nat
import ScopeLexer.Proofs.Assembling
import ScopeLexer.Proofs.Outcome

namespace ScopeLexer

open Source (RuleSource GrammarSource)

/-- The values of a list of entries may be mapped one by one. -/
theorem Sorted.lookup_map_values {κ β γ : Type} [BEq κ] {f : β → γ} (k : κ) (es : List (κ × β)) :
    (es.map fun e => (e.1, f e.2)).lookup k = (es.lookup k).map f := by
  induction es with
  | nil => rfl
  | cons e es ih =>
    rw [List.map_cons, List.lookup_cons, List.lookup_cons, ih]
    split <;> rfl

namespace Source.RuleSource

/-! ### Places in a source -/

/-- The number of rules in a rule, with itself. -/
def count (r : RuleSource) : Nat := 1 + (r.parts.attach.map fun p => count p.1.2).sum
  termination_by sizeOf r
  decreasing_by exact sizeOf_lt_of_mem_parts p.2

theorem count_eq (r : RuleSource) : r.count = 1 + (r.parts.map (·.2.count)).sum := by
  rw [count]
  congr 2
  exact List.attach_map_val (f := fun p : Part × RuleSource => p.2.count)

/-- The number of rules in some rules. -/
def countAll {κ : Type} (ps : List (κ × RuleSource)) : Nat := (ps.map (·.2.count)).sum

/-- Some rules with their numbers, where the first one has the number `n`. -/
def numbered {κ : Type} (n : RuleId) : List (κ × RuleSource) → List (κ × RuleId × RuleSource)
  | [] => []
  | p :: ps => (p.1, n, p.2) :: numbered (n + p.2.count) ps

/-- The rule at a place in a rule with the number `k`, and its number. -/
def locate (r : RuleSource) (k : RuleId) : List Part → Option (RuleId × RuleSource)
  | [] => some (k, r)
  | p :: path => (numbered (k + 1) r.parts).lookup p >>= fun q => locate q.2 q.1 path

/-- The rule at a place has a repository with an entry. -/
def Defines (r : RuleSource) (k : RuleId) (path : List Part) (name : String) : Prop :=
  ∃ j q, r.locate k path = some (j, q) ∧ (q.repository.lookup name).isSome

/-- Of the rules around a place and the one at it, the last one whose repository has an entry. -/
structure Nearest (r : RuleSource) (k : RuleId) (name : String) (path near : List Part) : Prop where
  around : near <+: path
  defines : r.Defines k near name
  last : ∀ other, other <+: path → r.Defines k other name → other.length ≤ near.length

variable {κ : Type}

theorem numbered_append (n : RuleId) (ps qs : List (κ × RuleSource)) :
    numbered n (ps ++ qs) = numbered n ps ++ numbered (n + countAll ps) qs := by
  induction ps generalizing n with
  | nil => rfl
  | cons p ps ih =>
    have hcount : countAll (p :: ps) = p.2.count + countAll ps := rfl
    rw [List.cons_append, numbered, ih, numbered, hcount, Nat.add_assoc, List.cons_append]

theorem numbered_map {ι : Type} (f : κ → ι) (n : RuleId) (ps : List (κ × RuleSource)) :
    numbered n (ps.map fun p => (f p.1, p.2)) = (numbered n ps).map fun p => (f p.1, p.2) := by
  induction ps generalizing n with
  | nil => rfl
  | cons p ps ih => rw [List.map_cons, numbered, numbered, ih, List.map_cons]

/-- Each rule has a number. -/
theorem mem_numbered {p : κ × RuleSource} : ∀ {ps : List (κ × RuleSource)} (n : RuleId),
    p ∈ ps → ∃ id, (p.1, id, p.2) ∈ numbered n ps
  | q :: ps, n, h => by
    rcases List.mem_cons.mp h with rfl | h
    · exact ⟨n, List.mem_cons_self⟩
    · obtain ⟨id, hid⟩ := mem_numbered (n + q.2.count) h
      exact ⟨id, List.mem_cons_of_mem _ hid⟩

theorem mem_of_mem_numbered {n : RuleId} {ps : List (κ × RuleSource)} {p : κ × RuleId × RuleSource}
    (h : p ∈ numbered n ps) : (p.1, p.2.2) ∈ ps := by
  induction ps generalizing n with
  | nil => cases h
  | cons q ps ih =>
    rcases List.mem_cons.mp h with rfl | h
    · exact List.mem_cons_self
    · exact List.mem_cons_of_mem _ (ih h)

theorem keys_numbered (n : RuleId) (ps : List (κ × RuleSource)) :
    (numbered n ps).map (·.1) = ps.map (·.1) := by
  induction ps generalizing n with
  | nil => rfl
  | cons p ps ih => rw [numbered, List.map_cons, List.map_cons, ih]

theorem le_of_mem_numbered {n : RuleId} {ps : List (κ × RuleSource)} {p : κ × RuleId × RuleSource}
    (h : p ∈ numbered n ps) : n ≤ p.2.1 := by
  induction ps generalizing n with
  | nil => cases h
  | cons q ps ih =>
    rcases List.mem_cons.mp h with rfl | h
    · exact Nat.le_refl _
    · exact Nat.le_trans (Nat.le_add_right _ _) (ih h)

theorem lookup_numbered [BEq κ] (n : RuleId) (ps : List (κ × RuleSource)) (i : κ) :
    ((numbered n ps).lookup i).map (·.2) = ps.lookup i := by
  induction ps generalizing n with
  | nil => rfl
  | cons p ps ih =>
    rw [numbered, List.lookup_cons, List.lookup_cons]
    split
    · rfl
    · exact ih _

variable {r : RuleSource} {k : RuleId} {name : String}

/-- The repository of a rule comes first in it. -/
theorem lookup_entry {e : RuleId × RuleSource}
    (h : (numbered (k + 1) r.repository).lookup name = some e) :
    (numbered (k + 1) r.parts).lookup (.entry name) = some e := by
  have hmap : ∀ es : List (String × RuleId × RuleSource),
      (es.map fun e => (Part.entry e.1, e.2)).lookup (.entry name) = es.lookup name := by
    intro es
    induction es with
    | nil => rfl
    | cons e es ih =>
      have hbeq : (Part.entry name == Part.entry e.1) = (name == e.1) := by
        rw [Bool.eq_iff_iff, beq_iff_eq, beq_iff_eq]
        exact ⟨Part.entry.inj, congrArg Part.entry⟩
      rw [List.map_cons, List.lookup_cons, List.lookup_cons, hbeq, ih]
  rw [parts, numbered_append, numbered_map, List.lookup_append, hmap, h]
  rfl

theorem locate_cons {p : Part} {q : RuleId × RuleSource} {path : List Part}
    (h : (numbered (k + 1) r.parts).lookup p = some q) :
    r.locate k (p :: path) = q.2.locate q.1 path := by
  rw [locate, h]
  rfl

/-- The rules in a rule come after it. -/
theorem lt_of_locate {p : Part} {path : List Part} {q : RuleId × RuleSource}
    (h : r.locate k (p :: path) = some q) : k < q.1 := by
  induction path generalizing r k p with
  | nil =>
    obtain ⟨s, hs, hq⟩ := Option.bind_eq_some_iff.mp h
    obtain rfl := Option.some.inj hq
    obtain ⟨before, after, hmem, -⟩ := List.lookup_eq_some_iff.mp hs
    exact le_of_mem_numbered (hmem ▸ List.mem_append_right before List.mem_cons_self)
  | cons p' path ih =>
    obtain ⟨s, hs, hq⟩ := Option.bind_eq_some_iff.mp h
    obtain ⟨before, after, hmem, -⟩ := List.lookup_eq_some_iff.mp hs
    have hlt : k < s.1 := le_of_mem_numbered (hmem ▸ List.mem_append_right before List.mem_cons_self)
    exact Nat.lt_trans hlt (ih hq)

theorem defines_cons {p : Part} {q : RuleId × RuleSource} {path : List Part}
    (h : (numbered (k + 1) r.parts).lookup p = some q) :
    r.Defines k (p :: path) name ↔ q.2.Defines q.1 path name := by
  rw [Defines, locate_cons h, Defines]

theorem Nearest.cons {p : Part} {q : RuleId × RuleSource} {path near : List Part}
    (hq : (numbered (k + 1) r.parts).lookup p = some q) (h : q.2.Nearest q.1 name path near) :
    r.Nearest k name (p :: path) (p :: near) := by
  refine ⟨List.cons_prefix_cons.mpr ⟨rfl, h.around⟩, (defines_cons hq).mpr h.defines,
    fun other hother hd => ?_⟩
  cases other with
  | nil => exact Nat.zero_le _
  | cons p' other =>
    obtain ⟨rfl, hprefix⟩ := List.cons_prefix_cons.mp hother
    exact Nat.succ_le_succ (h.last other hprefix ((defines_cons hq).mp hd))

end Source.RuleSource

namespace Assembly

variable {own : String} {view view' : List RepositoryId} {r : RuleSource} {k : RuleId} {a b c : Assembly}

/-- The rule with the number `k` is what is made of a source, with its patterns. -/
def Made (b : Assembly) (k : RuleId) (r : RuleSource) : Prop :=
  ∃ view first os cs is,
    b.rules[k]? = some (r.made ⟨k, r.name.map ScopeName.ofText, view⟩ first os cs is) ∧
      b.HasPatterns first r

/-- What a rule has in view is what is in view around it, and before that its own repository, if it has
one. -/
def Sees (b : Assembly) (view view' : List RepositoryId) (k : RuleId) (r : RuleSource) : Prop :=
  (r.repository = [] ∧ view' = view) ∨
    r.repository ≠ [] ∧ ∃ id, view' = id :: view ∧
      b.repositories[id]? = some ((RuleSource.numbered (k + 1) r.repository).map fun e => (e.1, e.2.1))

/-- The rule with the number `k` holds what its source includes, to be looked up in a view. Only the root is
not made of its source like all others. -/
structure Node (b : Assembly) (own : String) (view : List RepositoryId) (k : RuleId) (r : RuleSource) :
    Prop where
  includes : ∀ m ∈ r.members, m.isDisabled = false → ∀ text, m.reference = some text →
    ∃ q ref, b.rules[k]? = some q ∧ Reference.ofText own text = .ok ref ∧ .include ref ∈ q.items ∧
      q.repositories = view
  made : k ≠ Grammar.rootRule → b.Made k r

/-- A source is laid out from the number `k` on: the rule comes first, and after it the rules in it, each
with what is in view there. -/
inductive Laid (b : Assembly) (own : String) : List RepositoryId → RuleId → RuleSource → Prop
  | intro {view view' : List RepositoryId} {k : RuleId} {r : RuleSource} (sees : b.Sees view view' k r)
      (node : b.Node own view' k r)
      (parts : ∀ p ∈ RuleSource.numbered (k + 1) r.parts, Laid b own view' p.2.1 p.2.2) :
      Laid b own view k r

/-- What is there from a rule on stays there, repositories without entries apart. -/
structure StaysFrom (k : RuleId) (b c : Assembly) : Prop where
  rules : ∀ (i : RuleId) (r : Rule), k ≤ i → b.rules[i]? = some r → c.rules[i]? = some r
  patterns : ∀ (i : PatternId) (p : String), b.patterns[i]? = some p → c.patterns[i]? = some p
  repositories : ∀ (i : RepositoryId) (es : Repository), es ≠ [] → b.repositories[i]? = some es →
    c.repositories[i]? = some es

namespace StaysFrom

theorem mono {j : RuleId} (h : StaysFrom k b c) (hj : k ≤ j) : StaysFrom j b c :=
  ⟨fun i r hi hr => h.rules i r (Nat.le_trans hj hi) hr, h.patterns, h.repositories⟩

theorem of_extends (h : a.Extends b) (k : RuleId) : StaysFrom k a b :=
  ⟨fun i r _ => h.rules i r, h.patterns, fun i es _ => h.repositories i es⟩

/-- A rule may be put before those that stay. -/
theorem put (b : Assembly) (k : RuleId) (q : Rule) : StaysFrom (k + 1) b (b.put k q) := by
  refine ⟨fun i r hi hr => ?_, fun _ _ h => h, fun _ _ _ h => h⟩
  rw [Assembly.put, Array.getElem?_setIfInBounds_ne (Nat.ne_of_lt hi)]
  exact hr

/-- The entries of a repository may come to where nothing is. -/
theorem fill {id : RepositoryId} (h : b.repositories[id]? = some []) (es : Repository) (k : RuleId) :
    StaysFrom k b (b.fill id es) := by
  refine ⟨fun _ _ _ h => h, fun _ _ h => h, fun i fs hne hfs => ?_⟩
  have hi : id ≠ i := by
    rintro rfl
    exact hne (Option.some.inj (hfs.symm.trans h))
  rw [Assembly.fill, Array.getElem?_setIfInBounds_ne hi]
  exact hfs

end StaysFrom

theorem Made.mono (h : b.Made k r) (hbc : StaysFrom k b c) : c.Made k r := by
  obtain ⟨view, first, os, cs, is, hrule, htexts⟩ := h
  exact ⟨view, first, os, cs, is, hbc.rules k _ (Nat.le_refl _) hrule,
    fun i text ht => hbc.patterns _ _ (htexts i text ht)⟩

theorem Sees.mono {j : RuleId} (h : b.Sees view view' k r) (hbc : StaysFrom j b c) :
    c.Sees view view' k r := by
  rcases h with h | ⟨hne, id, hview, hid⟩
  · exact .inl h
  · refine .inr ⟨hne, id, hview, hbc.repositories id _ ?_ hid⟩
    cases hr : r.repository with
    | nil => exact absurd hr hne
    | cons e es => exact List.cons_ne_nil _ _

theorem Node.mono (h : b.Node own view k r) (hbc : StaysFrom k b c) : c.Node own view k r := by
  refine ⟨fun m hm hd text ht => ?_, fun hk => (h.made hk).mono hbc⟩
  obtain ⟨q, ref, hq, href⟩ := h.includes m hm hd text ht
  exact ⟨q, ref, hbc.rules k q (Nat.le_refl _) hq, href⟩

/-- What is laid out stays so. -/
theorem Laid.mono (h : b.Laid own view k r) (hbc : StaysFrom k b c) : c.Laid own view k r := by
  induction h with
  | intro sees node _ ih =>
    refine .intro (sees.mono hbc) (node.mono hbc) fun p hp => ih p hp (hbc.mono ?_)
    exact Nat.le_trans (Nat.le_succ _) (RuleSource.le_of_mem_numbered hp)

/-- The list of pairs with given keys and values. -/
theorem eq_numbered_map {κ : Type} {es : List (κ × RuleSource)} {rs : List (κ × RuleId)} {n : RuleId}
    (hkeys : rs.map (·.1) = es.map (·.1)) (hids : rs.map (·.2) = (RuleSource.numbered n es).map (·.2.1)) :
    rs = (RuleSource.numbered n es).map fun e => (e.1, e.2.1) := by
  induction es generalizing rs n with
  | nil => simpa [RuleSource.numbered] using hkeys
  | cons e es ih =>
    cases rs with
    | nil => simp at hkeys
    | cons p rs =>
      obtain ⟨hkey, hkeys⟩ := List.cons.inj hkeys
      obtain ⟨hid, hids⟩ := List.cons.inj hids
      rw [RuleSource.numbered, List.map_cons, ← ih hkeys hids]
      exact congrArg (· :: rs) (Prod.ext hkey hid)

section

/-! What is said of a rule in an assembly, with what is in view there, is `P`. It is to stay true as long as
the rules from this one on stay. -/

variable {P : Assembly → List RepositoryId → RuleId → RuleSource → Prop}
  (hP : ∀ {b c view k r}, P b view k r → StaysFrom k b c → P c view k r)
include hP

/-- What holds of each rule that is added holds of all of them in the end. -/
theorem Chain.each {κ : Type} {ps : List (κ × RuleSource)} {ids : List RuleId}
    (h : Chain own view (ps.map (·.2)) ids a b)
    (hrule : ∀ p ∈ ps, ∀ view a id b, addRule own view p.2 a = .ok (id, b) →
      P b view id p.2 ∧ b.rules.size = a.rules.size + p.2.count) :
    ids = (RuleSource.numbered a.rules.size ps).map (·.2.1) ∧
      b.rules.size = a.rules.size + RuleSource.countAll ps ∧
        ∀ p ∈ RuleSource.numbered a.rules.size ps, P b view p.2.1 p.2.2 := by
  induction ps generalizing a ids with
  | nil =>
    cases h
    exact ⟨rfl, rfl, nofun⟩
  | cons p ps ih =>
    cases h with
    | cons first rest =>
      obtain ⟨laid, hsize⟩ := hrule p List.mem_cons_self _ _ _ _ first
      obtain rfl := (addRule_ok first).1
      obtain ⟨rfl, hsize', hrest⟩ := ih rest fun q hq => hrule q (List.mem_cons_of_mem _ hq)
      rw [hsize] at hsize' hrest
      have hcount : RuleSource.countAll (p :: ps) = p.2.count + RuleSource.countAll ps := rfl
      refine ⟨by rw [RuleSource.numbered, List.map_cons, hsize], by omega, ?_⟩
      rintro q (_ | ⟨_, hq⟩)
      · exact hP laid (.of_extends (Extends.tracks.run rest) _)
      · exact hrest q hq

/-- The entries of a repository come into view when they are added. -/
theorem addRepository_each {es : List (String × RuleSource)} (hes : r.repository = es)
    (h : addRepository own view es a = .ok (view', b)) (hk : a.rules.size = k + 1)
    (hrule : ∀ e ∈ es, ∀ view a id b, addRule own view e.2 a = .ok (id, b) →
      P b view id e.2 ∧ b.rules.size = a.rules.size + e.2.count) :
    b.Sees view view' k r ∧ b.rules.size = a.rules.size + RuleSource.countAll es ∧
      ∀ p ∈ RuleSource.numbered a.rules.size es, P b view' p.2.1 p.2.2 := by
  subst hes
  rcases addRepository_ok h with ⟨hnil, rfl, rfl⟩ | ⟨hne, rfl, c, rs, hkeys, chain, rfl⟩
  · rw [hnil]
    exact ⟨.inl ⟨hnil, rfl⟩, rfl, nofun⟩
  · obtain ⟨hids, hsize, laid⟩ := chain.each (P := P) hP hrule
    have hslot : c.repositories[a.repositories.size]? = some [] :=
      (Extends.tracks.run chain).repositories _ _ (by simp [opened])
    have hopened : a.opened.rules.size = a.rules.size := rfl
    rw [hopened] at hids hsize laid
    refine ⟨.inr ⟨hne, a.repositories.size, rfl, ?_⟩, hsize, fun p hp => hP (laid p hp) (.fill hslot rs _)⟩
    rw [fill, Array.getElem?_setIfInBounds_self_of_lt (Array.getElem?_eq_some_iff.mp hslot).1,
      eq_numbered_map hkeys hids, hk]

/-- The rules in a rule come after it. -/
theorem parts_each {os cs : List (Nat × RuleId)} {is : List Item} (hk : a.rules.size = k + 1)
    (hrepository : addRepository own view r.repository a = .ok (view', b))
    (inner : Inner own view' r b c os cs is)
    (hrule : ∀ p ∈ r.parts, ∀ view a id b, addRule own view p.2 a = .ok (id, b) →
      P b view id p.2 ∧ b.rules.size = a.rules.size + p.2.count) :
    c.Sees view view' k r ∧ c.rules.size = a.rules.size + RuleSource.countAll r.parts ∧
      ∀ p ∈ RuleSource.numbered (k + 1) r.parts, P c view' p.2.1 p.2.2 := by
  obtain ⟨sees, hsize, entries⟩ := addRepository_each (P := P) hP rfl hrepository hk
    fun e he => hrule (.entry e.1, e.2) (List.mem_append_left _ (List.mem_map_of_mem he))
  obtain ⟨-, hsize', others⟩ := inner.chain.each (P := P) hP fun p hp => hrule p (List.mem_append_right _ hp)
  have hb : (b.withPatterns r.patternTexts).rules.size = b.rules.size := rfl
  have grows : b.Extends c := Extends.tracks.inner inner
  have hcount : RuleSource.countAll r.parts =
      RuleSource.countAll r.repository + RuleSource.countAll r.innerParts := by
    simp [RuleSource.countAll, RuleSource.parts, Function.comp_def]
  have hentries : RuleSource.countAll (r.repository.map fun e => (RuleSource.Part.entry e.1, e.2)) =
      RuleSource.countAll r.repository := by
    simp [RuleSource.countAll, Function.comp_def]
  refine ⟨sees.mono (.of_extends grows k), by omega, fun p hp => ?_⟩
  rw [RuleSource.parts, RuleSource.numbered_append, RuleSource.numbered_map, hentries] at hp
  rcases List.mem_append.mp hp with hp | hp
  · obtain ⟨e, he, rfl⟩ := List.mem_map.mp hp
    exact hP (entries e (hk ▸ he)) (.of_extends grows _)
  · refine others p ?_
    rw [hb, hsize, hk]
    exact hp

end

/-- **Adding a rule lays out its source** from the next number on. -/
theorem addRule_laid (r : RuleSource) :
    ∀ view a id b, addRule own view r a = .ok (id, b) →
      b.Laid own view id r ∧ b.rules.size = a.rules.size + r.count := by
  induction r using RuleSource.induction with
  | h r ih =>
    intro view a id b h
    obtain ⟨rfl, view', a₁, a₂, os, cs, is, hrepository, inner, rfl⟩ := addRule_ok h
    have hreserved : a.reserved.rules.size = a.rules.size + 1 := by simp [reserved]
    obtain ⟨sees, hsize, parts⟩ := parts_each (P := (Laid · own)) Laid.mono hreserved hrepository inner ih
    have hlt : a.rules.size < a₂.rules.size := by omega
    let q : Rule := r.made ⟨a.rules.size, r.name.map ScopeName.ofText, view'⟩ a₁.patterns.size
      (spreadCaptures os) (spreadCaptures cs) is
    have hrule : (a₂.put a.rules.size q).rules[a.rules.size]? = some q :=
      Array.getElem?_setIfInBounds_self_of_lt hlt
    have stays := StaysFrom.put a₂ a.rules.size q
    refine ⟨.intro (sees.mono stays) ⟨?_, fun _ => ?_⟩ fun p hp => ?_, ?_⟩
    · intro m hm hd text ht
      obtain ⟨ref, href, hmem⟩ := inner.includes m hm hd text ht
      obtain ⟨hitems, hview⟩ := RuleSource.made_items inner.empty
        ⟨a.rules.size, r.name.map ScopeName.ofText, view'⟩ a₁.patterns.size (spreadCaptures os)
        (spreadCaptures cs)
      exact ⟨_, ref, hrule, href, hitems.symm ▸ hmem, hview (List.ne_nil_of_mem hmem)⟩
    · exact ⟨view', a₁.patterns.size, spreadCaptures os, spreadCaptures cs, is, hrule,
        (Extends.tracks.run inner.chain).hasPatterns⟩
    · exact (parts p hp).mono (stays.mono (RuleSource.le_of_mem_numbered hp))
    · have hput : ∀ q : Rule, (a₂.put a.rules.size q).rules.size = a₂.rules.size :=
        fun q => Array.size_setIfInBounds
      have hcount : r.count = 1 + RuleSource.countAll r.parts := r.count_eq
      rw [hput]
      omega

/-- **Assembling a grammar lays out its source** as a rule that comes first. -/
theorem addGrammar_laid {s : GrammarSource} {root : Option RepositoryId}
    (h : addGrammar own s {} = .ok (root, b)) :
    b.Laid own [] Grammar.rootRule s.root ∧ b.Sees [] root.toList Grammar.rootRule s.root := by
  obtain ⟨a₁, a₂, is, hrepository, inner, rfl⟩ := addGrammar_parts h
  obtain ⟨sees, hsize, parts⟩ := parts_each (P := (Laid · own)) Laid.mono rfl hrepository inner fun p _ => addRule_laid p.2
  have hlt : Grammar.rootRule < a₂.rules.size := by
    have hreserved : (reserved {}).rules.size = 1 := rfl
    rw [hsize, hreserved, Nat.add_comm]
    exact Nat.succ_pos _
  have stays := StaysFrom.put a₂ Grammar.rootRule
    (.group ⟨⟨Grammar.rootRule, none, root.toList⟩, none, is⟩)
  refine ⟨.intro (sees.mono stays) ⟨?_, fun hk => absurd rfl hk⟩ fun p hp => ?_, sees.mono stays⟩
  · intro m hm hd text ht
    obtain ⟨ref, href, hmem⟩ := inner.includes m hm hd text ht
    exact ⟨_, ref, Array.getElem?_setIfInBounds_self_of_lt hlt, href, hmem, rfl⟩
  · exact (parts p hp).mono (stays.mono (RuleSource.le_of_mem_numbered hp))

/-! ### Looking up names -/

/-- The first entry of a name in some repositories. -/
def find? (b : Assembly) (view : List RepositoryId) (name : String) : Option RuleId :=
  view.findSome? fun id => (b.repositories.getD id []).lookup name

/-- A name is looked up in the repository of a rule, then around it. -/
theorem Sees.find? (h : b.Sees view view' k r) (name : String) :
    b.find? view' name =
      (((RuleSource.numbered (k + 1) r.repository).lookup name).map (·.1)).or (b.find? view name) := by
  rcases h with ⟨hnil, rfl⟩ | ⟨-, id, rfl, hid⟩
  · rw [hnil]
    rfl
  · rw [Assembly.find?, List.findSome?_cons, Array.getD_eq_getD_getElem?, hid, Option.getD_some,
      Sorted.lookup_map_values (f := fun e : RuleId × RuleSource => e.1)]
    cases (RuleSource.numbered (k + 1) r.repository).lookup name <;> rfl

/-- What a name leads to at a place is the nearest entry around it, or comes from outside. -/
def Finds (b : Assembly) (view : List RepositoryId) (k : RuleId) (r : RuleSource)
    (path : List RuleSource.Part) (name : String) (id : RuleId) : Prop :=
  (∃ near e, r.Nearest k name path near ∧ r.locate k (near ++ [.entry name]) = some (id, e)) ∨
    (∀ near, near <+: path → ¬ r.Defines k near name) ∧ b.find? view name = some id

/-- Where no rule in between has an entry, the repository of the outer rule counts. -/
theorem Sees.finds (h : b.Sees view view' k r) {path : List RuleSource.Part} {name : String} {id : RuleId}
    (hinner : ∀ p near, p :: near <+: path → ¬ r.Defines k (p :: near) name)
    (hid : b.find? view' name = some id) : b.Finds view k r path name id := by
  rw [h.find?] at hid
  cases he : (RuleSource.numbered (k + 1) r.repository).lookup name with
  | some e =>
    obtain rfl : e.1 = id := by simpa [he] using hid
    have hdefines : r.Defines k [] name := by
      refine ⟨k, r, rfl, ?_⟩
      rw [← RuleSource.lookup_numbered (k + 1), he]
      rfl
    refine .inl ⟨[], e.2, ⟨List.nil_prefix, hdefines, fun other hother hd => ?_⟩, ?_⟩
    · cases other with
      | nil => exact Nat.le_refl _
      | cons p near => exact absurd hd (hinner p near hother)
    · rw [List.nil_append, RuleSource.locate_cons (RuleSource.lookup_entry he)]
      rfl
  | none =>
    refine .inr ⟨fun near hnear hd => ?_, by simpa [he] using hid⟩
    cases near with
    | nil =>
      obtain ⟨j, q, hq, hsome⟩ := hd
      obtain ⟨rfl, rfl⟩ := Prod.mk.inj (Option.some.inj hq)
      rw [← RuleSource.lookup_numbered (k + 1), he] at hsome
      cases hsome
    | cons p near => exact hinner p near hnear hd

/-- **At each place of a source that is laid out** there is the rule of that place, and a name leads to the
nearest entry around it. -/
theorem Laid.at {path : List RuleSource.Part} {j : RuleId} {q : RuleSource} (h : b.Laid own view k r)
    (hq : r.locate k path = some (j, q)) :
    ∃ view', b.Node own view' j q ∧ ∀ name id, b.find? view' name = some id →
      b.Finds view k r path name id := by
  induction path generalizing view k r with
  | nil =>
    obtain ⟨rfl, rfl⟩ := Prod.mk.inj (Option.some.inj hq)
    obtain ⟨sees, node, -⟩ := h
    exact ⟨_, node, fun name id hid => sees.finds (fun p near hnear => by simp at hnear) hid⟩
  | cons p path ih =>
    obtain ⟨sees, -, parts⟩ := h
    obtain ⟨s, hs, hq⟩ := Option.bind_eq_some_iff.mp hq
    obtain ⟨before, after, hmem, -⟩ := List.lookup_eq_some_iff.mp hs
    obtain ⟨view', node, finds⟩ :=
      ih (parts (p, s) (hmem ▸ List.mem_append_right before List.mem_cons_self)) hq
    refine ⟨view', node, fun name id hid => ?_⟩
    rcases finds name id hid with ⟨near, e, hnear, he⟩ | ⟨hnone, hid⟩
    · exact .inl ⟨p :: near, e, hnear.cons hs, by rw [List.cons_append, RuleSource.locate_cons hs, he]⟩
    · refine sees.finds (fun p' near hnear hd => ?_) hid
      obtain ⟨rfl, hprefix⟩ := List.cons_prefix_cons.mp hnear
      exact hnone near hprefix ((RuleSource.defines_cons hs).mp hd)

end Assembly

/-! ### The texts of includes -/

namespace Reference

variable {own : String}

/-- A text with a sign is neither of the two names of a grammar. -/
theorem ne_names {text : String} (h : '#' ∈ text.toList) : text ≠ "$self" ∧ text ≠ "$base" := by
  constructor
  · rintro rfl
    revert h
    decide
  · rintro rfl
    revert h
    decide

/-- The own scope name of a grammar stands for it. -/
theorem ofText_root {text : String} (hown : '#' ∉ own.toList)
    (h : text = "$self" ∨ text = "$base" ∨ text = own) :
    ofText own text = .ok .self ∨ ofText own text = .ok .base := by
  rw [ofText]
  split
  · exact .inl rfl
  · rename_i hself
    split
    · exact .inr rfl
    · rename_i hbase
      obtain rfl : text = own := (h.resolve_left hself).resolve_left hbase
      split
      · rename_i hlist
        exact absurd (hlist ▸ List.mem_cons_self) hown
      · exact .inl (if_pos rfl)

theorem ofText_hash (own name : String) : ofText own ("#" ++ name) = .ok (.named name) := by
  have hlist : ("#" ++ name).toList = '#' :: name.toList := by rw [String.toList_append]; rfl
  obtain ⟨hself, hbase⟩ := ne_names (hlist ▸ List.mem_cons_self : '#' ∈ ("#" ++ name).toList)
  rw [ofText, if_neg hself, if_neg hbase, hlist]
  simp

theorem ofText_own (hne : own.toList ≠ []) (hown : '#' ∉ own.toList) (name : String) :
    ofText own (own ++ "#" ++ name) = .ok (.topLevel name) := by
  have hlist : (own ++ "#" ++ name).toList = own.toList ++ '#' :: name.toList := by
    rw [String.toList_append, String.toList_append, List.append_assoc]
    rfl
  have hmem : '#' ∈ (own ++ "#" ++ name).toList := hlist ▸ List.mem_append_right _ List.mem_cons_self
  obtain ⟨hself, hbase⟩ := ne_names hmem
  have hlong : own ++ "#" ++ name ≠ own := by
    intro h
    rw [h] at hmem
    exact hown hmem
  rw [ofText, if_neg hself, if_neg hbase, hlist]
  split
  · rename_i rest hsign
    cases hcs : own.toList with
    | nil => exact absurd hcs hne
    | cons c cs =>
      rw [hcs, List.cons_append] at hsign
      obtain rfl := (List.cons.inj hsign).1
      exact absurd (hcs ▸ List.mem_cons_self) hown
  · rw [if_neg hlong, ScopeName.splitAt?_append hown]
    simp

end Reference

namespace Grammar

variable {g : Grammar} {s : GrammarSource}

/-- The rule with the number `k` is what is made of the rule at a place of the source, with its patterns. -/
def CompiledFrom (g : Grammar) (s : GrammarSource) (path : List RuleSource.Part) (k : RuleId) : Prop :=
  ∃ r view first os cs is, s.root.locate rootRule path = some (k, r) ∧
    g.rules[k]? = some (r.made ⟨k, r.name.map ScopeName.ofText, view⟩ first os cs is) ∧
      ∀ (i : Nat) (text : String), r.patternTexts[i]? = some text →
        g.patterns[first + i]? = some (Pattern.ofText text)

theorem AssembledFrom.compiledFrom {root : Option RepositoryId} {b : Assembly}
    (hb : g.AssembledFrom s root b) {p : RuleSource.Part} {path : List RuleSource.Part} {k : RuleId}
    {r : RuleSource} (hr : s.root.locate rootRule (p :: path) = some (k, r)) :
    g.CompiledFrom s (p :: path) k := by
  obtain ⟨laid, -⟩ := Assembly.addGrammar_laid hb.assembled
  obtain ⟨view', node, -⟩ := laid.at hr
  obtain ⟨view, first, os, cs, is, hrule, htexts⟩ := node.made (Nat.ne_of_gt (RuleSource.lt_of_locate hr))
  refine ⟨r, view, first, os, cs, is, hr, hb.rules ▸ hrule, fun i text ht => ?_⟩
  rw [hb.patterns, Array.getElem?_map, htexts i text ht]
  rfl

/-- A grammar holds what has been assembled. -/
structure Holds (g : Grammar) (b : Assembly) : Prop where
  rules : g.rules = b.rules
  patterns : g.patterns = b.patterns.map Pattern.ofText
  repositories : g.repositories = b.repositories

namespace Holds

variable {b : Assembly} {k : RuleId} {r : Rule}

theorem rule (h : g.Holds b) (hr : b.rules[k]? = some r) : g.rule k = r := by
  simp [Grammar.rule, h.rules, hr]

theorem pattern (h : g.Holds b) {i : PatternId} {text : String} (ht : b.patterns[i]? = some text) :
    g.pattern i = Pattern.ofText text := by
  simp [Grammar.pattern, h.patterns, ht]

theorem entry?_eq (h : g.Holds b) (view : List RepositoryId) (name : String) :
    (view.findSome? fun v => g.entry? v name) = b.find? view name := by
  simp only [ entry?, h.repositories]
  rfl

theorem topLevel?_eq (h : g.Holds b) {root : Option RepositoryId} (hroot : g.rootRepository = root)
    (name : String) : g.topLevel? name = b.find? root.toList name := by
  rw [← h.entry?_eq, topLevel?, hroot]
  cases root <;> simp

end Holds

theorem AssembledFrom.holds {root : Option RepositoryId} {b : Assembly} (hb : g.AssembledFrom s root b) :
    g.Holds b := ⟨hb.rules, hb.patterns, hb.repositories⟩

/-- **Includes point to the nearest entry.** For every include that is compiled: the name of an entry leads
to the rule of that entry in the nearest repository around the include that has one of that name; the grammar
itself leads to the root; and an entry of the grammar by its name leads to that in its own repository. -/
theorem include_resolves (hg : ofSource s = .ok g) (hscope : '#' ∉ g.scopeName.toList)
    {path : List RuleSource.Part} {k : RuleId} {r m : RuleSource} {text : String}
    (hr : s.root.locate rootRule path = some (k, r)) (hm : m ∈ r.members)
    (hd : m.isDisabled = false) (ht : m.reference = some text) :
    ∃ ref, Reference.ofText g.scopeName text = .ok ref ∧ .include ref ∈ (g.rule k).items ∧
      (text = "$self" ∨ text = "$base" ∨ text = g.scopeName →
        g.resolveReference (g.rule k).repositories ref = some rootRule) ∧
      (∀ name, text = "#" ++ name → ∃ near id, s.root.Nearest rootRule name path near ∧
        g.CompiledFrom s (near ++ [.entry name]) id ∧
          g.resolveReference (g.rule k).repositories ref = some id) ∧
      ∀ name, text = g.scopeName ++ "#" ++ name → ∃ id, g.CompiledFrom s [.entry name] id ∧
        g.resolveReference (g.rule k).repositories ref = some id := by
  obtain ⟨root, b, hb⟩ := ofSource_ok hg
  obtain ⟨laid, sees⟩ := Assembly.addGrammar_laid hb.assembled
  obtain ⟨view, node, finds⟩ := laid.at hr
  obtain ⟨q, ref, hq, href, hitem, rfl⟩ := node.includes m hm hd text ht
  have hgq : g.rules[k]? = some q := hb.rules ▸ hq
  obtain rfl : g.rule k = q := by simp [rule, hgq]
  obtain ⟨id, hid⟩ := resolves_of_check hb.check (Array.mem_of_getElem? hgq) hitem
  refine ⟨ref, href, hitem, fun hroot => ?_, fun name hname => ?_, fun name hname => ?_⟩
  · rcases Reference.ofText_root hscope hroot with hself | hbase
    · obtain rfl := Except.ok.inj (hself.symm.trans href)
      rfl
    · obtain rfl := Except.ok.inj (hbase.symm.trans href)
      rfl
  · subst hname
    obtain rfl := Except.ok.inj ((Reference.ofText_hash g.scopeName name).symm.trans href)
    have hfind : b.find? (g.rule k).repositories name = some id := by
      rw [← hb.holds.entry?_eq]
      exact hid
    rcases finds name id hfind with ⟨near, e, hnear, he⟩ | ⟨-, hnone⟩
    · refine ⟨near, id, hnear, ?_, hid⟩
      cases near with
      | nil => exact hb.compiledFrom he
      | cons p near => exact hb.compiledFrom he
    · cases hnone
  · subst hname
    obtain rfl := Except.ok.inj ((Reference.ofText_own hb.scopeName hscope name).symm.trans href)
    have htop := hb.holds.topLevel?_eq hb.rootRepository name
    rw [resolveReference, htop, sees.find?] at hid
    cases he : (RuleSource.numbered (rootRule + 1) s.root.repository).lookup name with
    | none => rw [he] at hid; cases hid
    | some e =>
      rw [he] at hid
      obtain rfl : e.1 = id := Option.some.inj hid
      have hlocate : s.root.locate rootRule [.entry name] = some e := by
        rw [RuleSource.locate_cons (RuleSource.lookup_entry he)]
        rfl
      refine ⟨e.1, hb.compiledFrom hlocate, ?_⟩
      · rw [resolveReference, htop, sees.find?, he]
        rfl

end Grammar

namespace Source

/-- A list with an item of its own. -/
def ownItem : RuleSource where
  patterns := [{ reference := some "#item" }, { reference := some "source.items#item" }]
  repository := [("item", { matchPattern := some "b" })]

/-- A grammar whose item has the same name. -/
def twoItems : GrammarSource where
  scopeName := "source.items"
  patterns := [ownItem]
  repository := [("item", { matchPattern := some "a" })]

end Source

/-- The list that is the third rule finds its own item, which is the fourth. -/
theorem Grammar.include_resolves_twoItems : ∃ g, ofSource Source.twoItems = .ok g ∧
    '#' ∉ g.scopeName.toList ∧ Source.twoItems.root.locate rootRule [.member 0] = some (2, Source.ownItem) ∧
      ∃ near id, Source.twoItems.root.Nearest rootRule "item" [.member 0] near ∧
        g.CompiledFrom Source.twoItems (near ++ [.entry "item"]) id ∧
          g.resolveReference (g.rule 2).repositories (.named "item") = some id ∧ id = 3 := by
  have run : (ofSource Source.twoItems).toOption.any (fun g => decide ('#' ∉ g.scopeName.toList ∧
      g.resolveReference (g.rule 2).repositories (.named "item") = some 3)) = true := by
    decide +kernel
  obtain ⟨g, hg, h⟩ := exists_ok_of_any run
  obtain ⟨hscope, hthree⟩ := of_decide_eq_true h
  have hcount : (({ matchPattern := some "a" } : RuleSource)).count = 1 := by decide +kernel
  have hlist : Source.twoItems.root.locate rootRule [.member 0] = some (2, Source.ownItem) := by
    show some (rootRule + 1 + ({ matchPattern := some "a" } : RuleSource).count, Source.ownItem) = _
    rw [hcount]
    rfl
  obtain ⟨ref, href, -, -, named, -⟩ := include_resolves hg hscope hlist
    (m := { reference := some "#item" }) List.mem_cons_self rfl rfl
  obtain ⟨near, id, hnear, hid, hres⟩ := named "item" rfl
  obtain rfl := Except.ok.inj ((Reference.ofText_hash g.scopeName "item").symm.trans href)
  exact ⟨g, hg, hscope, hlist, near, id, hnear, hid, hres, Option.some.inj (hres.symm.trans hthree)⟩

end ScopeLexer
