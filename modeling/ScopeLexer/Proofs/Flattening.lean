/-
# Groups in their places

The candidates of a rule are gathered in one walk that enters each group once. Spelled out naively, the list
of a rule has the list of every group in the place of the group, as often as the group stands there, but not
within itself. Both have the same candidates in the same order of first occurrence. A group that the walk
leaves out is either open, and then it is left out of the naive list too, or it was done with before; then
all that it leads to without passing an open group has been found, for what it leads to is done with or open
as well. As the first of equal candidates wins, a search through the naive list finds the same match.

Key definitions: `Grammar.children`, `Grammar.spelledOut`, `Grammar.expansion`, `Grammar.Reaches`,
`Grammar.Settled`.
Key theorems: `Grammar.Settled.mem_found`, `Grammar.gatherRule_gathers`, `Grammar.best_expansion`,
`Grammar.candidates_flatten`.
-/
import Mathlib.Data.Finset.Card
import Mathlib.Data.List.Nodup
import ScopeLexer.Tokenize.Finder

namespace ScopeLexer

/-! ### Candidates that are repeated -/

section

variable {α : Type} {search : α → Option Regex.Captures} {pos : Nat} {found : Option Found}
  {c : Candidate × α}

/-- A candidate that neither beats what has been found nor ends the search. -/
def Beaten (search : α → Option Regex.Captures) (pos : Nat) (found : Option Found)
    (c : Candidate × α) : Prop :=
  ∀ new, (search c.2).bind (Found.ofCaptures c.1) = some new →
    ∃ old, found = some old ∧ old.start ≤ new.start ∧ (new.start = pos → old.start ≠ pos)

theorem best_cons_of_none (h : (search c.2).bind (Found.ofCaptures c.1) = none)
    (rest : List (Candidate × α)) : best search pos found (c :: rest) = best search pos found rest := by
  rw [best, h]

theorem best_cons_of_some {new : Found} (h : (search c.2).bind (Found.ofCaptures c.1) = some new)
    (rest : List (Candidate × α)) : best search pos found (c :: rest) =
      if (Found.better found new).start = pos ∧ new.start = pos then some (Found.better found new)
      else best search pos (some (Found.better found new)) rest := by
  rw [best, h]

theorem Found.better_of_le {old new : Found} (h : old.start ≤ new.start) :
    Found.better (some old) new = old := if_pos h

theorem Found.better_start_le (found : Option Found) (new : Found) :
    (Found.better found new).start ≤ new.start := by
  cases found with
  | none => exact Nat.le_refl _
  | some old =>
    simp only [Found.better]
    split
    · assumption
    · exact Nat.le_refl _

theorem Found.better_start_le_old (old new : Found) :
    (Found.better (some old) new).start ≤ old.start := by
  simp only [Found.better]
  split
  · exact Nat.le_refl _
  · omega

theorem best_cons_of_beaten (h : Beaten search pos found c) (rest : List (Candidate × α)) :
    best search pos found (c :: rest) = best search pos found rest := by
  cases hc : (search c.2).bind (Found.ofCaptures c.1) with
  | none => exact best_cons_of_none hc rest
  | some new =>
    obtain ⟨old, rfl, hle, hne⟩ := h new hc
    rw [best_cons_of_some hc, Found.better_of_le hle, if_neg fun hpos => hne hpos.2 hpos.1]

/-- What is beaten stays so when something better is found. -/
theorem Beaten.better (h : Beaten search pos found c) (new : Found) :
    Beaten search pos (some (Found.better found new)) c := by
  intro own hown
  obtain ⟨old, rfl, hle, hne⟩ := h own hown
  have hold := Found.better_start_le_old old new
  refine ⟨_, rfl, by omega, fun hpos => ?_⟩
  have := hne hpos
  omega

/-- A candidate that has been looked at without ending the search is beaten. -/
theorem beaten_of_some {new : Found} (h : (search c.2).bind (Found.ofCaptures c.1) = some new)
    (hgoes : ¬ ((Found.better found new).start = pos ∧ new.start = pos)) :
    Beaten search pos (some (Found.better found new)) c := by
  intro own hown
  obtain rfl : new = own := Option.some.inj (h.symm.trans hown)
  exact ⟨_, rfl, Found.better_start_le found new, fun hpos hstart => hgoes ⟨hstart, hpos⟩⟩

variable {β : Type} [BEq β] [LawfulBEq β] {f : β → Candidate × α}

/-- A candidate that is beaten may be left out wherever it stands. -/
theorem best_filter_of_beaten {b : β} (tail : List (Candidate × α)) :
    ∀ (bs : List β) {found : Option Found}, Beaten search pos found (f b) →
      best search pos found ((bs.filter fun x => !x == b).map f ++ tail) =
        best search pos found (bs.map f ++ tail)
  | [], _, _ => rfl
  | x :: bs, found, hb => by
    by_cases hx : x = b
    · subst hx
      rw [List.filter_cons_of_neg (by simp), List.map_cons, List.cons_append,
        best_cons_of_beaten hb]
      exact best_filter_of_beaten tail bs hb
    · rw [List.filter_cons_of_pos (by simpa using hx), List.map_cons, List.map_cons, List.cons_append,
        List.cons_append]
      cases hc : (search (f x).2).bind (Found.ofCaptures (f x).1) with
      | none =>
        rw [best_cons_of_none hc, best_cons_of_none hc]
        exact best_filter_of_beaten tail bs hb
      | some new =>
        rw [best_cons_of_some hc, best_cons_of_some hc, best_filter_of_beaten tail bs (hb.better new)]

/-- Repetitions change nothing: after its first occurrence a candidate is beaten. -/
theorem best_eraseDups (tail : List (Candidate × α)) : ∀ (bs : List β) (found : Option Found),
    best search pos found (bs.eraseDups.map f ++ tail) = best search pos found (bs.map f ++ tail)
  | [], _ => rfl
  | b :: bs, found => by
    rw [List.eraseDups_cons, List.map_cons, List.map_cons, List.cons_append, List.cons_append]
    cases hc : (search (f b).2).bind (Found.ofCaptures (f b).1) with
    | none =>
      have beaten : Beaten search pos found (f b) := fun new hnew => by simp [hc] at hnew
      rw [best_cons_of_none hc, best_cons_of_none hc, best_eraseDups tail _ found,
        best_filter_of_beaten tail bs beaten]
    | some new =>
      rw [best_cons_of_some hc, best_cons_of_some hc]
      by_cases hgoes : (Found.better found new).start = pos ∧ new.start = pos
      · rw [if_pos hgoes, if_pos hgoes]
      · rw [if_neg hgoes, if_neg hgoes, best_eraseDups tail _ _,
          best_filter_of_beaten tail bs (beaten_of_some hc hgoes)]
  termination_by bs => bs.length
  decreasing_by
    all_goals
      have := List.length_filter_le (fun x => !x == b) bs
      simp only [List.length_cons]
      omega

end

namespace Grammar

/-! ### The naive list -/

/-- The rules that the elements of the list of a rule stand for, in order. -/
def children (g : Grammar) (id : RuleId) : List RuleId :=
  (g.rule id).items.filterMap (g.resolve (g.rule id).repositories)

/-- A rule as a candidate, if it is found by a pattern of its own. -/
def ownEntry (g : Grammar) (id : RuleId) : Option Entry :=
  Rule.entry? (g.rule id) |>.map fun p => (id, p)

/-- How many rules of a grammar are not among some. -/
def unmet (g : Grammar) (met : List RuleId) : Nat := (Finset.range g.rules.size \ met.toFinset).card

variable {g : Grammar} {id : RuleId} {met opened : List RuleId}

theorem lt_size_of_isGroup (h : (g.rule id).isGroup = true) : id < g.rules.size := by
  by_contra hlt
  have hnoop : g.rule id = .noop := by
    simp [rule, Array.getD_eq_getD_getElem?, Array.getElem?_eq_none (Nat.le_of_not_lt hlt)]
  rw [hnoop] at h
  simp [Rule.isGroup] at h

theorem unmet_mono {met met' : List RuleId} (h : ∀ k ∈ met, k ∈ met') :
    g.unmet met' ≤ g.unmet met := by
  refine Finset.card_le_card (Finset.sdiff_subset_sdiff (Finset.Subset.refl _) fun k hk => ?_)
  exact List.mem_toFinset.mpr (h k (List.mem_toFinset.mp hk))

theorem unmet_cons_lt (hid : id < g.rules.size) (hmet : id ∉ met) :
    g.unmet (id :: met) < g.unmet met := by
  have hmem : id ∈ Finset.range g.rules.size \ met.toFinset := by simp [hid, hmet]
  rw [unmet, unmet, List.toFinset_cons, Finset.sdiff_insert]
  exact Finset.card_erase_lt_of_mem hmem

/-- What a rule comes to where the lists of groups are spelled out, within groups that are open. -/
def spelledOut (g : Grammar) (opened : List RuleId) (id : RuleId) : List Entry :=
  if (g.rule id).isGroup = true then
    if id ∈ opened then []
    else (g.children id).flatMap fun child => g.spelledOut (id :: opened) child
  else (g.ownEntry id).toList
  termination_by g.unmet opened
  decreasing_by
    rename_i hgroup hopen
    exact unmet_cons_lt (lt_size_of_isGroup hgroup) hopen

/-- The candidates of a rule, spelled out naively. The rule itself is not open until it is entered as a
group. -/
def expansion (g : Grammar) (id : RuleId) : List Entry :=
  (g.children id).flatMap (g.spelledOut [])

/-- The rules that a rule leads to through groups. -/
inductive Reaches (g : Grammar) (id : RuleId) : RuleId → Prop
  | child {k : RuleId} (h : k ∈ g.children id) : Reaches g id k
  | through {group k : RuleId} (hr : Reaches g id group) (hg : (g.rule group).isGroup = true)
      (h : k ∈ g.children group) : Reaches g id k

theorem spelledOut_group (hg : (g.rule id).isGroup = true) (ho : id ∉ opened) :
    g.spelledOut opened id = (g.children id).flatMap (g.spelledOut (id :: opened)) := by
  rw [spelledOut, if_pos hg, if_neg ho]

theorem spelledOut_of_not_isGroup (hg : ¬ (g.rule id).isGroup = true) :
    g.spelledOut opened id = (g.ownEntry id).toList := by
  rw [spelledOut, if_neg hg]

theorem entry_eq_none_of_isGroup (hg : (g.rule id).isGroup = true) : Rule.entry? (g.rule id) = none := by
  cases hr : g.rule id with
  | group r => rfl
  | matching r => simp [hr, Rule.isGroup] at hg
  | beginEnd r => simp [hr, Rule.isGroup] at hg
  | beginWhile r => simp [hr, Rule.isGroup] at hg
  | noop => simp [hr, Rule.isGroup] at hg

theorem ownEntry_eq_some {e : Entry} : g.ownEntry id = some e ↔
    e.1 = id ∧ Rule.entry? (g.rule id) = some e.2 := by
  obtain ⟨k, p⟩ := e
  rw [ownEntry, Option.map_eq_some_iff]
  constructor
  · rintro ⟨q, hq, he⟩
    obtain ⟨rfl, rfl⟩ := Prod.mk.inj he
    exact ⟨rfl, hq⟩
  · rintro ⟨rfl, hp⟩
    exact ⟨p, hp, rfl⟩

/-- What is spelled out has been reached, each rule with its own pattern. -/
theorem reaches_of_mem_spelledOut {start : RuleId} : ∀ {opened : List RuleId} {id : RuleId},
    g.Reaches start id → ∀ e ∈ g.spelledOut opened id,
      g.Reaches start e.1 ∧ Rule.entry? (g.rule e.1) = some e.2 := by
  intro opened id hr e he
  by_cases hg : (g.rule id).isGroup = true
  · by_cases ho : id ∈ opened
    · rw [spelledOut, if_pos hg, if_pos ho] at he
      exact absurd he List.not_mem_nil
    · rw [spelledOut_group hg ho] at he
      obtain ⟨child, hchild, he⟩ := List.mem_flatMap.mp he
      exact reaches_of_mem_spelledOut (.through hr hg hchild) e he
  · rw [spelledOut_of_not_isGroup hg] at he
    obtain ⟨rfl, hp⟩ := ownEntry_eq_some.mp (Option.mem_toList.mp he)
    exact ⟨hr, hp⟩
  termination_by opened => g.unmet opened
  decreasing_by exact unmet_cons_lt (lt_size_of_isGroup hg) ho

/-! ### The walk -/

theorem gatherItems_eq_foldl (visit : RuleId → Gathering → Gathering) (view : List RepositoryId) :
    ∀ (items : List Item) (s : Gathering), g.gatherItems visit view items s =
      (items.filterMap (g.resolve view)).foldl (fun s id => visit id s) s
  | [], _ => rfl
  | i :: items, s => by
    rw [gatherItems, List.filterMap_cons]
    cases g.resolve view i with
    | none => exact gatherItems_eq_foldl visit view items s
    | some id => exact gatherItems_eq_foldl visit view items (visit id s)

/-- Where a walk stands within groups that are open: what it has met has been found, and a group that it
has met is open, or what it leads to has been met as well. -/
structure Settled (g : Grammar) (path : List RuleId) (s : Gathering) : Prop where
  opened : ∀ k ∈ path, k ∈ s.met
  met : ∀ e ∈ s.found, e.1 ∈ s.met
  found : ∀ k ∈ s.met, ∀ e, g.ownEntry k = some e → e ∈ s.found
  closed : ∀ k ∈ s.met, k ∉ path → (g.rule k).isGroup = true → ∀ c ∈ g.children k, c ∈ s.met

/-- **Nothing is owed by what has been met before**: what it leads to without passing an open group has
been found. -/
theorem Settled.mem_found {s : Gathering} (hs : g.Settled opened s) :
    ∀ {path : List RuleId} {id : RuleId}, (∀ k ∈ opened, k ∈ path) → id ∈ s.met →
      ∀ e ∈ g.spelledOut path id, e ∈ s.found := by
  intro path id hpath hid e he
  by_cases hg : (g.rule id).isGroup = true
  · by_cases hp : id ∈ path
    · rw [spelledOut, if_pos hg, if_pos hp] at he
      exact absurd he List.not_mem_nil
    · rw [spelledOut_group hg hp] at he
      obtain ⟨child, hchild, he⟩ := List.mem_flatMap.mp he
      have hmet : child ∈ s.met := hs.closed id hid (fun ho => hp (hpath id ho)) hg child hchild
      exact mem_found hs (fun k hk => List.mem_cons_of_mem _ (hpath k hk)) hmet e he
  · rw [spelledOut_of_not_isGroup hg] at he
    exact hs.found id hid e (Option.mem_toList.mp he)
  termination_by path => g.unmet path
  decreasing_by exact unmet_cons_lt (lt_size_of_isGroup hg) hp

/-- Candidates in front of those that have been found, each only if it is not there yet. -/
def putNew (found es : List Entry) : List Entry := es.foldl (fun found e => found.insert e) found

theorem putNew_append (found as bs : List Entry) :
    putNew found (as ++ bs) = putNew (putNew found as) bs := List.foldl_append

theorem putNew_of_forall_mem {found : List Entry} : ∀ {es : List Entry}, (∀ e ∈ es, e ∈ found) →
    putNew found es = found
  | [], _ => rfl
  | e :: es, h => by
    rw [putNew, List.foldl_cons, List.insert_of_mem (h e List.mem_cons_self)]
    exact putNew_of_forall_mem fun e' he => h e' (List.mem_cons_of_mem _ he)

theorem nodup_putNew {found : List Entry} (h : found.Nodup) : ∀ es : List Entry,
    (putNew found es).Nodup := by
  intro es
  induction es generalizing found with
  | nil => exact h
  | cons e es ih => exact ih (h.insert (a := e))

/-- In the order in which they were found they are the first occurrences. -/
theorem reverse_putNew : ∀ (es found : List Entry), (putNew found es).reverse =
    found.reverse ++ (es.filter fun e => !found.contains e).eraseDups
  | [], found => by simp [putNew]
  | e :: es, found => by
    rw [putNew, List.foldl_cons, ← putNew, reverse_putNew es]
    by_cases he : e ∈ found
    · rw [List.insert_of_mem he, List.filter_cons_of_neg (by simpa using he)]
    · rw [List.insert_of_not_mem he, List.filter_cons_of_pos (by simpa using he),
        List.eraseDups_cons, List.filter_filter, List.reverse_cons, List.append_assoc,
        List.singleton_append]
      congr 3
      refine List.filter_congr fun x _ => ?_
      rw [List.contains_cons, Bool.not_or]

/-- What a walk through some rules has come to. -/
structure Gathers (g : Grammar) (opened : List RuleId) (ids : List RuleId) (s t : Gathering) : Prop where
  settled : g.Settled opened t
  met : ∀ k ∈ s.met, k ∈ t.met
  visited : ∀ id ∈ ids, id ∈ t.met
  found : t.found = putNew s.found (ids.flatMap (g.spelledOut opened))

/-- A walk through rules one after the other, if each visit is a walk. -/
theorem foldl_gathers {visit : RuleId → Gathering → Gathering} {bound : Nat}
    (hvisit : ∀ id s, g.Settled opened s → g.unmet s.met ≤ bound →
      g.Gathers opened [id] s (visit id s)) :
    ∀ (ids : List RuleId) (s : Gathering), g.Settled opened s → g.unmet s.met ≤ bound →
      g.Gathers opened ids s (ids.foldl (fun s id => visit id s) s)
  | [], s, hs, _ => ⟨hs, fun _ h => h, nofun, rfl⟩
  | id :: ids, s, hs, hbound => by
    have first := hvisit id s hs hbound
    have rest := foldl_gathers hvisit ids _ first.settled
      (Nat.le_trans (unmet_mono first.met) hbound)
    refine ⟨rest.settled, fun k hk => rest.met k (first.met k hk), fun k hk => ?_, ?_⟩
    · rcases List.mem_cons.mp hk with rfl | hk
      · exact rest.met k (first.visited k List.mem_cons_self)
      · exact rest.visited k hk
    · rw [List.foldl_cons, rest.found, first.found, ← putNew_append, List.flatMap_singleton,
        List.flatMap_cons]

theorem gatherRule_of_mem (fuel : Nat) {s : Gathering} (hid : id ∈ s.met) :
    g.gatherRule fuel id s = s := by
  rw [gatherRule, if_pos (List.contains_iff_mem.mpr hid)]

theorem gatherRule_of_not_isGroup (fuel : Nat) {s : Gathering} (hid : id ∉ s.met)
    (hg : ¬ (g.rule id).isGroup = true) :
    g.gatherRule fuel id s = ⟨id :: s.met, (g.ownEntry id).toList ++ s.found⟩ := by
  rw [gatherRule, if_neg (by simpa using hid)]
  simp only [ownEntry]
  cases hr : g.rule id with
  | group r => simp [hr, Rule.isGroup] at hg
  | matching r => cases hp : r.pattern <;> simp [ Rule.entry?, hp]
  | beginEnd r => rfl
  | beginWhile r => rfl
  | noop => rfl

theorem gatherRule_group (fuel : Nat) {s : Gathering} (hid : id ∉ s.met)
    (hg : (g.rule id).isGroup = true) : g.gatherRule (fuel + 1) id s =
      (g.children id).foldl (fun s k => g.gatherRule fuel k s) { s with met := id :: s.met } := by
  rw [gatherRule, if_neg (by simpa using hid), children]
  cases hr : g.rule id with
  | group r => exact gatherItems_eq_foldl _ _ _ _
  | matching r => simp [hr, Rule.isGroup] at hg
  | beginEnd r => simp [hr, Rule.isGroup] at hg
  | beginWhile r => simp [hr, Rule.isGroup] at hg
  | noop => simp [hr, Rule.isGroup] at hg

/-- What has been met is left out, for nothing of it is new. -/
theorem Settled.gathers_of_mem {s : Gathering} (hs : g.Settled opened s) (hid : id ∈ s.met) :
    g.Gathers opened [id] s s where
  settled := hs
  met _ h := h
  visited k hk := List.mem_singleton.mp hk ▸ hid
  found := by
    rw [List.flatMap_singleton]
    exact (putNew_of_forall_mem (hs.mem_found (fun _ h => h) hid)).symm

/-- A rule that is no group is met with its own pattern. -/
theorem Settled.gathers_entry {s : Gathering} (hs : g.Settled opened s) (hid : id ∉ s.met)
    (hg : ¬ (g.rule id).isGroup = true) :
    g.Gathers opened [id] s ⟨id :: s.met, (g.ownEntry id).toList ++ s.found⟩ where
  settled := by
    refine ⟨fun k hk => List.mem_cons_of_mem _ (hs.opened k hk), fun e he => ?_,
      fun k hk e he => ?_, fun k hk ho hgk c hc => ?_⟩
    · rcases List.mem_append.mp he with he | he
      · rw [(ownEntry_eq_some.mp (Option.mem_toList.mp he)).1]
        exact List.mem_cons_self
      · exact List.mem_cons_of_mem _ (hs.met e he)
    · rcases List.mem_cons.mp hk with rfl | hk
      · exact List.mem_append_left _ (Option.mem_toList.mpr he)
      · exact List.mem_append_right _ (hs.found k hk e he)
    · rcases List.mem_cons.mp hk with rfl | hk
      · exact absurd hgk hg
      · exact List.mem_cons_of_mem _ (hs.closed k hk ho hgk c hc)
  met _ h := List.mem_cons_of_mem _ h
  visited k hk := List.mem_singleton.mp hk ▸ List.mem_cons_self
  found := by
    rw [List.flatMap_singleton, spelledOut_of_not_isGroup hg]
    cases he : g.ownEntry id with
    | none => rfl
    | some e =>
      -- Only rules that have been met have been found, so this one is new.
      have hnew : e ∉ s.found := fun hmem => hid ((ownEntry_eq_some.mp he).1 ▸ hs.met e hmem)
      exact (List.insert_of_not_mem hnew).symm

/-- A group is done with when all that it leads to has been visited within it. -/
theorem Settled.gathers_group {s t : Gathering} (hs : g.Settled opened s) (hid : id ∉ s.met)
    (hg : (g.rule id).isGroup = true)
    (h : g.Gathers (id :: opened) (g.children id) { s with met := id :: s.met } t) :
    g.Gathers opened [id] s t where
  settled := by
    refine ⟨fun k hk => h.settled.opened k (List.mem_cons_of_mem _ hk), h.settled.met,
      h.settled.found, fun k hk ho hgk => ?_⟩
    by_cases heq : k = id
    · subst heq
      exact h.visited
    · exact h.settled.closed k hk (by simp [heq, ho]) hgk
  met k hk := h.met k (List.mem_cons_of_mem _ hk)
  visited k hk := List.mem_singleton.mp hk ▸ h.met id List.mem_cons_self
  found := by
    have ho : id ∉ opened := fun ho => hid (hs.opened id ho)
    rw [List.flatMap_singleton, spelledOut_group hg ho]
    exact h.found

/-- Within a group that is entered, the walk stands as before. -/
theorem Settled.enter {s : Gathering} (hs : g.Settled opened s) (hg : (g.rule id).isGroup = true) :
    g.Settled (id :: opened) { s with met := id :: s.met } := by
  refine ⟨fun k hk => ?_, fun e he => List.mem_cons_of_mem _ (hs.met e he), fun k hk e he => ?_,
    fun k hk ho hgk c hc => ?_⟩
  · rcases List.mem_cons.mp hk with rfl | hk
    · exact List.mem_cons_self
    · exact List.mem_cons_of_mem _ (hs.opened k hk)
  · rcases List.mem_cons.mp hk with rfl | hk
    · have hnone := (ownEntry_eq_some.mp he).2
      rw [entry_eq_none_of_isGroup hg] at hnone
      contradiction
    · exact hs.found k hk e he
  · rcases List.mem_cons.mp hk with rfl | hk
    · exact absurd List.mem_cons_self ho
    · have hout : k ∉ opened := fun hk => ho (List.mem_cons_of_mem _ hk)
      exact List.mem_cons_of_mem _ (hs.closed k hk hout hgk c hc)

/-- **A visit finds what is new of the rule spelled out**, and leaves nothing owed but by open groups. The
fuel suffices, for each group that is entered has not been met before. -/
theorem gatherRule_gathers (fuel : Nat) : ∀ {opened : List RuleId} (id : RuleId) (s : Gathering),
    g.Settled opened s → g.unmet s.met ≤ fuel →
      g.Gathers opened [id] s (g.gatherRule fuel id s) := by
  induction fuel with
  | zero =>
    intro opened id s hs hfuel
    by_cases hid : id ∈ s.met
    · rw [gatherRule_of_mem _ hid]
      exact hs.gathers_of_mem hid
    · by_cases hg : (g.rule id).isGroup = true
      · have hlt := unmet_cons_lt (lt_size_of_isGroup hg) hid
        omega
      · rw [gatherRule_of_not_isGroup _ hid hg]
        exact hs.gathers_entry hid hg
  | succ fuel ih =>
    intro opened id s hs hfuel
    by_cases hid : id ∈ s.met
    · rw [gatherRule_of_mem _ hid]
      exact hs.gathers_of_mem hid
    · by_cases hg : (g.rule id).isGroup = true
      · have hlt := unmet_cons_lt (lt_size_of_isGroup hg) hid
        have hbound : g.unmet (id :: s.met) ≤ fuel := by omega
        rw [gatherRule_group _ hid hg]
        exact hs.gathers_group hid hg (foldl_gathers ih _ _ (hs.enter hg) hbound)
      · rw [gatherRule_of_not_isGroup _ hid hg]
        exact hs.gathers_entry hid hg

/-- The walk through the list of a rule, through at most so many groups within each other. -/
def walk (g : Grammar) (fuel : Nat) (id : RuleId) : Gathering :=
  g.gatherItems (g.gatherRule fuel) (g.rule id).repositories (g.rule id).items {}

theorem candidates_eq_walk (g : Grammar) (id : RuleId) :
    g.candidates id = (g.walk (g.rules.size + 1) id).found.reverse := rfl

theorem settled_empty (g : Grammar) : g.Settled [] {} := ⟨nofun, nofun, nofun, nofun⟩

theorem walk_gathers {fuel : Nat} (hfuel : g.rules.size ≤ fuel) (id : RuleId) :
    g.Gathers [] (g.children id) {} (g.walk fuel id) := by
  have hunmet : g.unmet [] ≤ fuel := by
    rw [unmet, List.toFinset_nil, Finset.sdiff_empty, Finset.card_range]
    exact hfuel
  rw [walk, gatherItems_eq_foldl]
  exact foldl_gathers (fun k s => gatherRule_gathers fuel k s) _ _ (settled_empty g) hunmet

theorem walk_found_reverse {fuel : Nat} (hfuel : g.rules.size ≤ fuel) (id : RuleId) :
    (g.walk fuel id).found.reverse = (g.expansion id).eraseDups := by
  rw [(walk_gathers hfuel id).found, reverse_putNew]
  simp [expansion]

/-- All that is reached has been met at the end of the walk. -/
theorem met_of_reaches {fuel : Nat} (hfuel : g.rules.size ≤ fuel) {k : RuleId} (h : g.Reaches id k) :
    k ∈ (g.walk fuel id).met := by
  have done := walk_gathers hfuel id
  induction h with
  | child h => exact done.visited _ h
  | through _ hg h ih => exact done.settled.closed _ ih List.not_mem_nil hg _ h

theorem mem_candidates_iff {e : Entry} :
    e ∈ g.candidates id ↔ g.Reaches id e.1 ∧ Rule.entry? (g.rule e.1) = some e.2 := by
  have hfuel : g.rules.size ≤ g.rules.size + 1 := Nat.le_succ _
  constructor
  · intro he
    rw [candidates_eq_walk, walk_found_reverse hfuel, List.mem_eraseDups] at he
    obtain ⟨child, hchild, he⟩ := List.mem_flatMap.mp he
    exact reaches_of_mem_spelledOut (.child hchild) e he
  · rintro ⟨hr, hp⟩
    rw [candidates_eq_walk, List.mem_reverse]
    exact (walk_gathers hfuel id).settled.found _ (met_of_reaches hfuel hr) e
      (ownEntry_eq_some.mpr ⟨rfl, hp⟩)

/-- No rule is listed twice. -/
theorem nodup_candidates (g : Grammar) (id : RuleId) : ((g.candidates id).map (·.1)).Nodup := by
  have hnodup : (g.candidates id).Nodup := by
    rw [candidates_eq_walk, (walk_gathers (Nat.le_succ _) id).found]
    exact List.nodup_reverse.mpr (nodup_putNew List.nodup_nil _)
  refine List.Nodup.map_on (fun a ha b hb hab => ?_) hnodup
  have hpa := (mem_candidates_iff.mp ha).2
  have hpb := (mem_candidates_iff.mp hb).2
  rw [hab, hpb] at hpa
  exact Prod.ext hab (Option.some.inj hpa).symm

/-! ### The candidates -/

/-- **The search through the naive list** finds what the search through the candidates finds. -/
theorem best_expansion (g : Grammar) (id : RuleId) (search : Pattern → Option Regex.Captures)
    (pos : Nat) (closing : Option Pattern) (endLast : Bool) :
    best search pos none (g.ordered closing endLast (g.candidates id)) =
      best search pos none (g.ordered closing endLast (g.expansion id)) := by
  rw [candidates_eq_walk, walk_found_reverse (Nat.le_succ _)]
  cases endLast with
  | true => exact best_eraseDups _ _ none
  | false =>
    let f : Entry → Candidate × Pattern := fun e => (.rule e.1, g.pattern e.2)
    have children : ∀ found, best search pos found ((g.expansion id).eraseDups.map f) =
        best search pos found ((g.expansion id).map f) := fun found => by
      simpa using best_eraseDups [] (g.expansion id) found
    cases closing with
    | none => exact children none
    | some p =>
      simp only [ordered, Bool.false_eq_true, if_false, Option.toList_some, List.map_cons,
        List.map_nil, List.singleton_append]
      cases hc : (search p).bind (Found.ofCaptures .stop) with
      | none => rw [best_cons_of_none hc, best_cons_of_none hc, children]
      | some new => rw [best_cons_of_some hc, best_cons_of_some hc, children]

/-- **The candidates of a rule.** Through however many groups within each other it may go, the walk comes to
the same candidates. They name no rule twice; they are the rules reached through groups that are found by a
pattern of their own, with that pattern; their order is that of first occurrence in the naive list; and the
best match among them is the best one in the naive list with its repetitions. -/
theorem candidates_flatten (g : Grammar) (id : RuleId) :
    (∀ fuel, g.rules.size ≤ fuel → (g.walk fuel id).found.reverse = g.candidates id) ∧
    ((g.candidates id).map (·.1)).Nodup ∧
    (∀ k p, (k, p) ∈ g.candidates id ↔ g.Reaches id k ∧ Rule.entry? (g.rule k) = some p) ∧
    g.candidates id = (g.expansion id).eraseDups ∧
    ∀ (search : Pattern → Option Regex.Captures) (pos : Nat) (closing : Option Pattern)
      (endLast : Bool), best search pos none (g.ordered closing endLast (g.candidates id)) =
        best search pos none (g.ordered closing endLast (g.expansion id)) := by
  have hflat : g.candidates id = (g.expansion id).eraseDups := walk_found_reverse (Nat.le_succ _) id
  refine ⟨fun fuel hfuel => ?_, g.nodup_candidates id, fun k p => mem_candidates_iff, hflat,
    g.best_expansion id⟩
  rw [walk_found_reverse hfuel, hflat]

end Grammar
end ScopeLexer
