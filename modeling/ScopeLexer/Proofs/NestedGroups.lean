/-
# Groups within groups

Where the groups of a match stand in order, each behind the ones before it or within them, every byte of
the match gets the scopes of just those groups that hold it, the outer ones first. The sweep keeps the
groups that are open, innermost first. A byte that is still to come gets the scopes of the first open group
that ends behind it, and then those of the groups to come that hold it. A group that begins lies within every
group that is still open there, so that it adds its scopes to theirs.

Key definitions: `Grammar.groupScopes`, `Follows`, `scopesOver`, `Tokens.Fills`.
Key theorems: `fills_closeUpTo`, `Sweep.run_fills`, `Scanner.sweep_groupScopes`.
-/
import Mathlib.Data.List.TakeWhile
import ScopeLexer.Proofs.Tiling

namespace ScopeLexer

open Regex (Captures)

/-- The scopes that a group with a rule gives to a byte, if it holds the byte. -/
def Grammar.scopesOf (g : Grammar) (line : List Char) (captures : Captures) (byte : Nat) :
    Option RuleId × Option (Nat × Nat) → List Scope
  | (some id, some (start, stop)) =>
    if start ≤ byte ∧ byte < stop then (g.rule id).nameScopes line captures else []
  | _ => []

/-- The scopes of the groups of a match that hold a byte, in the order of their numbers. -/
def Grammar.groupScopes (g : Grammar) (line : List Char) (captures : Captures) (rules : CaptureRules)
    (byte : Nat) : List Scope :=
  (rules.zip captures).flatMap (g.scopesOf line captures byte)

/-- The second span begins no earlier than the first one, and lies behind it or within it. -/
def Follows (a b : Nat × Nat) : Prop := a.1 ≤ b.1 ∧ (a.2 ≤ b.1 ∨ b.2 ≤ a.2)

instance (a b : Nat × Nat) : Decidable (Follows a b) := by
  unfold Follows
  exact inferInstance

/-! ### Filling -/

namespace Tokens

/-- Some tokens have been produced, in which each byte has the scopes that it should have. -/
def Fills (F : Nat → List Scope) (ts us : Tokens) : Prop :=
  ∃ new, us.done = new.reverse ++ ts.done ∧ Abut ts.last new us.last ∧
    ∀ t ∈ new, ∀ byte, t.start ≤ byte → byte < t.stop → t.scopes = F byte

namespace Fills

variable {F G : Nat → List Scope} {ts us vs : Tokens}

theorem refl (F : Nat → List Scope) (ts : Tokens) : Fills F ts ts := ⟨[], rfl, rfl, nofun⟩

theorem trans (h : Fills F ts us) (h' : Fills F us vs) : Fills F ts vs := by
  obtain ⟨new, hdone, abut, scopes⟩ := h
  obtain ⟨new', hdone', abut', scopes'⟩ := h'
  refine ⟨new ++ new', ?_, abut_append.mpr ⟨us.last, abut, abut'⟩, fun t ht => ?_⟩
  · rw [hdone', hdone, List.reverse_append, List.append_assoc]
  · rcases List.mem_append.mp ht with ht | ht
    · exact scopes t ht
    · exact scopes' t ht

/-- Only the bytes that are filled matter. -/
theorem congr (h : Fills F ts us) (hFG : ∀ byte, ts.last ≤ byte → byte < us.last → F byte = G byte) :
    Fills G ts us := by
  obtain ⟨new, hdone, abut, scopes⟩ := h
  refine ⟨new, hdone, abut, fun t ht byte hstart hstop => ?_⟩
  obtain ⟨before, after, rfl⟩ := List.append_of_mem ht
  obtain ⟨mid, habut, hmid, hlt, hafter⟩ := abut_append.mp abut
  have hlow := habut.le
  have hhigh := hafter.le
  rw [scopes t ht byte hstart hstop]
  exact hFG byte (by omega) (by omega)

theorem produce {stop : Nat} {scopes : List Scope}
    (h : ∀ byte, ts.last ≤ byte → byte < stop → scopes = F byte) : Fills F ts (ts.produce stop scopes) := by
  unfold Tokens.produce
  split
  · exact .refl F ts
  · rename_i hlt
    refine ⟨[⟨ts.last, stop, scopes⟩], rfl, ⟨rfl, Nat.lt_of_not_le hlt, rfl⟩, fun t ht => ?_⟩
    obtain rfl := List.mem_singleton.mp ht
    exact h

end Fills
end Tokens

/-! ### Closing groups -/

/-- The scopes of the first open group that ends behind a byte, or those around all groups. -/
def scopesOver (groups : OpenGroups) (outer : List Scope) (byte : Nat) : List Scope :=
  scopesWithin (groups.dropWhile fun g => g.2 ≤ byte) outer

variable {groups : OpenGroups} {outer scopes : List Scope} {byte stop : Nat}

theorem scopesOver_cons_of_lt (h : byte < stop) :
    scopesOver ((scopes, stop) :: groups) outer byte = scopes := by
  have hopen : ¬ stop ≤ byte := Nat.not_le_of_lt h
  rw [scopesOver, List.dropWhile_cons_of_neg (by simpa using hopen)]
  rfl

theorem scopesOver_cons_of_le (h : stop ≤ byte) :
    scopesOver ((scopes, stop) :: groups) outer byte = scopesOver groups outer byte := by
  rw [scopesOver, scopesOver, List.dropWhile_cons_of_pos (by simpa using h)]

/-- Groups that end before a byte do not matter to what comes after it. -/
theorem scopesOver_dropWhile {pos : Nat} (hpos : pos ≤ byte) : ∀ groups : OpenGroups,
    scopesOver (groups.dropWhile fun g => g.2 ≤ pos) outer byte = scopesOver groups outer byte
  | [] => rfl
  | (scopes, stop) :: groups => by
    by_cases h : stop ≤ pos
    · rw [List.dropWhile_cons_of_pos (by simpa using h), scopesOver_dropWhile hpos groups,
        scopesOver_cons_of_le (Nat.le_trans h hpos)]
    · rw [List.dropWhile_cons_of_neg (by simpa using h)]

theorem closeUpTo_groups (pos : Nat) : ∀ (groups : OpenGroups) (ts : Tokens),
    (closeUpTo pos groups ts).2 = groups.dropWhile fun g => g.2 ≤ pos
  | [], _ => rfl
  | (scopes, stop) :: groups, ts => by
    unfold closeUpTo
    split
    · rename_i h
      rw [closeUpTo_groups pos groups, List.dropWhile_cons_of_pos (by simpa using h)]
    · rename_i h
      rw [List.dropWhile_cons_of_neg (by simpa using h)]

/-- Up to an offset each byte gets the scopes of the first group that ends behind it. -/
theorem fills_closeUpTo (pos : Nat) (outer : List Scope) : ∀ (groups : OpenGroups) (ts : Tokens),
    ts.Fills (scopesOver groups outer) ((closeUpTo pos groups ts).1.produce pos
      (scopesWithin (groups.dropWhile fun g => g.2 ≤ pos) outer))
  | [], ts => .produce fun _ _ _ => rfl
  | (scopes, stop) :: groups, ts => by
    unfold closeUpTo
    split
    · rename_i h
      rw [List.dropWhile_cons_of_pos (by simpa using h)]
      have first : ts.Fills (scopesOver ((scopes, stop) :: groups) outer) (ts.produce stop scopes) :=
        .produce fun byte _ hlt => (scopesOver_cons_of_lt hlt).symm
      refine first.trans ((fills_closeUpTo pos outer groups _).congr fun byte hle _ => ?_)
      have hstop : stop ≤ byte := by
        rw [Tokens.last_produce] at hle
        omega
      exact (scopesOver_cons_of_le hstop).symm
    · rename_i h
      rw [List.dropWhile_cons_of_neg (by simpa using h)]
      refine .produce fun byte _ hlt => ?_
      rw [scopesOver_cons_of_lt (by omega)]
      rfl

/-- The last offset that has been filled when groups are closed up to an offset. -/
theorem last_closeUpTo (pos : Nat) (scopes : List Scope) : ∀ (groups : OpenGroups) (ts : Tokens),
    ((closeUpTo pos groups ts).1.produce pos scopes).last = max ts.last pos
  | [], ts => Tokens.last_produce ts pos scopes
  | (scopes', stop) :: groups, ts => by
    unfold closeUpTo
    split
    · rw [last_closeUpTo pos scopes groups, Tokens.last_produce]
      omega
    · exact Tokens.last_produce ts pos scopes

/-- Closing all groups is closing those that end up to an offset behind them all. -/
theorem closeAll_eq {pos : Nat} : ∀ {groups : OpenGroups} (ts : Tokens), (∀ g ∈ groups, g.2 ≤ pos) →
    closeAll groups ts = (closeUpTo pos groups ts).1
  | [], _, _ => rfl
  | (scopes, stop) :: groups, ts, h => by
    obtain ⟨hstop, hrest⟩ := List.forall_mem_cons.mp h
    rw [closeUpTo, if_pos hstop, ← closeAll_eq (ts.produce stop scopes) hrest]
    rfl

/-! ### The sweep -/

/-- The spans of the groups that took part. -/
def spans (entries : List (Option RuleId × Option (Nat × Nat))) : List (Nat × Nat) :=
  entries.filterMap (·.2)

/-- Nothing that begins behind a byte holds it. -/
theorem flatMap_scopesOf_eq_nil {g : Grammar} {line : List Char} {captures : Captures}
    {entries : List (Option RuleId × Option (Nat × Nat))} (h : ∀ span ∈ spans entries, byte < span.1) :
    entries.flatMap (g.scopesOf line captures byte) = [] := by
  refine List.flatMap_eq_nil_iff.mpr fun entry hentry => ?_
  match entry with
  | (some id, some (start, stop)) =>
    have hstart : byte < start := h (start, stop) (List.mem_filterMap.mpr ⟨_, hentry, rfl⟩)
    exact if_neg fun hin => by omega
  | (none, _) => rfl
  | (some _, none) => rfl

/-- A group that begins lies within all groups that are open there, and adds its scopes to theirs. -/
theorem scopesOver_enter {start : Nat} {names : List Scope} (hin : ∀ g ∈ groups, g.2 ≤ start ∨ stop ≤ g.2)
    (hstart : start ≤ byte) :
    scopesOver ((scopesWithin (groups.dropWhile fun g => g.2 ≤ start) outer ++ names, stop) ::
      groups.dropWhile fun g => g.2 ≤ start) outer byte =
        scopesOver groups outer byte ++ if start ≤ byte ∧ byte < stop then names else [] := by
  by_cases hstop : byte < stop
  · rw [scopesOver_cons_of_lt hstop, if_pos ⟨hstart, hstop⟩, ← scopesOver_dropWhile hstart groups]
    congr 1
    cases hopen : groups.dropWhile fun g => g.2 ≤ start with
    | nil => rfl
    | cons g rest =>
      have hmem : g ∈ groups := (List.dropWhile_sublist _).mem (hopen ▸ List.mem_cons_self)
      have hlt : start < g.2 := by
        have hhead := List.head?_dropWhile_not (fun g : List Scope × Nat => decide (g.2 ≤ start)) groups
        rw [hopen] at hhead
        simpa using hhead
      have hle : stop ≤ g.2 := (hin g hmem).resolve_left (by omega)
      exact (scopesOver_cons_of_lt (by omega)).symm
  · rw [scopesOver_cons_of_le (by omega), scopesOver_dropWhile hstart, if_neg (by omega),
      List.append_nil]

namespace Sweep

variable {m : Type → Type} {w : Sweep m} {e : Nat}

/-- Where a sweep stands: the groups to come are behind what has been filled, in order, and each lies behind
a group that is open or within it. -/
structure Nested (w : Sweep m) (e : Nat) (entries : List (Option RuleId × Option (Nat × Nat)))
    (groups : OpenGroups) (ts : Tokens) : Prop where
  plain : ∀ entry ∈ entries, ∀ id ∈ entry.1, (w.grammar.rule id).hasItems = false
  order : (spans entries).Pairwise Follows
  ahead : ∀ span ∈ spans entries, ts.last ≤ span.1 ∧ span.1 ≤ span.2 ∧ span.2 ≤ e
  ends : ∀ g ∈ groups, g.2 ≤ e
  inside : ∀ g ∈ groups, ∀ span ∈ spans entries, g.2 ≤ span.1 ∨ span.2 ≤ g.2
  last : ts.last ≤ e

/-- What a byte gets that is still to come. -/
def due (w : Sweep m) (entries : List (Option RuleId × Option (Nat × Nat))) (groups : OpenGroups)
    (byte : Nat) : List Scope :=
  scopesOver groups w.stack.top.contentScopes byte ++
    entries.flatMap (w.grammar.scopesOf w.line w.captures byte)

namespace Nested

variable {entry : Option RuleId × Option (Nat × Nat)}
  {entries : List (Option RuleId × Option (Nat × Nat))} {ts : Tokens}

/-- A group that is passed over. -/
theorem tail (h : Nested w e (entry :: entries) groups ts) : Nested w e entries groups ts := by
  have hsub : ∀ span ∈ spans entries, span ∈ spans (entry :: entries) := by
    intro span hspan
    obtain ⟨entry', hentry, hs⟩ := List.mem_filterMap.mp hspan
    exact List.mem_filterMap.mpr ⟨entry', List.mem_cons_of_mem _ hentry, hs⟩
  refine ⟨fun entry' h' => h.plain entry' (List.mem_cons_of_mem _ h'), ?_,
    fun span hspan => h.ahead span (hsub span hspan), h.ends,
    fun g hg span hspan => h.inside g hg span (hsub span hspan), h.last⟩
  exact h.order.sublist ((List.sublist_cons_self entry entries).filterMap _)

/-- A group that is opened where those before it have been closed. -/
theorem enter {id : Option RuleId} {start stop : Nat} {us : Tokens} {scopes : List Scope}
    (h : Nested w e ((id, some (start, stop)) :: entries) groups ts) (hus : us.last = start) :
    Nested w e entries ((scopes, stop) :: groups.dropWhile fun g => g.2 ≤ start) us := by
  have hstop := h.ahead (start, stop) List.mem_cons_self
  have hfollows := (List.pairwise_cons.mp h.order).1
  have hsub : ∀ g ∈ groups.dropWhile (fun g => g.2 ≤ start), g ∈ groups := fun g hg =>
    (List.dropWhile_sublist _).mem hg
  refine ⟨h.tail.plain, h.tail.order, fun span hspan => ?_, ?_, ?_, ?_⟩
  · exact ⟨hus ▸ (hfollows span hspan).1, (h.tail.ahead span hspan).2⟩
  · rintro g (_ | ⟨_, hg⟩)
    · exact hstop.2.2
    · exact h.ends g (hsub g hg)
  · rintro g (_ | ⟨_, hg⟩) span hspan
    · exact (hfollows span hspan).2
    · exact h.tail.inside g (hsub g hg) span hspan
  · rw [hus]
    omega

/-- A group with nothing to give is not opened. -/
theorem skip {id : Option RuleId} {start stop : Nat} {us : Tokens}
    (h : Nested w e ((id, some (start, stop)) :: entries) groups ts) (hus : us.last = start) :
    Nested w e entries (groups.dropWhile fun g => g.2 ≤ start) us := by
  have entered : Nested w e entries (([], stop) :: groups.dropWhile fun g => g.2 ≤ start) us := h.enter hus
  exact { entered with
    ends := fun g hg => entered.ends g (List.mem_cons_of_mem _ hg)
    inside := fun g hg => entered.inside g (List.mem_cons_of_mem _ hg) }

/-- Up to where a group begins, the groups that are open give their scopes. -/
theorem fills_begin {id : Option RuleId} {start stop : Nat}
    (h : Nested w e ((id, some (start, stop)) :: entries) groups ts) :
    let outer := scopesWithin (groups.dropWhile fun g => g.2 ≤ start) w.stack.top.contentScopes
    let us := (closeUpTo start groups ts).1.produce start outer
    us.last = start ∧ ts.Fills (due w ((id, some (start, stop)) :: entries) groups) us := by
  intro outer us
  have hlast : ts.last ≤ start := (h.ahead (start, stop) List.mem_cons_self).1
  have hus : us.last = start := (last_closeUpTo start outer groups ts).trans (Nat.max_eq_right hlast)
  refine ⟨hus, (fills_closeUpTo start w.stack.top.contentScopes groups ts).congr fun byte _ hbyte => ?_⟩
  have hbefore : byte < start := hus ▸ hbyte
  rw [due, flatMap_scopesOf_eq_nil, List.append_nil]
  intro span hspan
  rcases List.mem_cons.mp hspan with rfl | hspan
  · exact hbefore
  · exact Nat.lt_of_lt_of_le hbefore ((List.pairwise_cons.mp h.order).1 span hspan).1

end Nested

variable [Monad m] {entries : List (Option RuleId × Option (Nat × Nat))} {ts us : Tokens}
  {want : Nat → List Scope} {result : m Tokens}

/-- A sweep comes to tokens that are filled up to the end of the match, where each byte has the scopes that it
should have. -/
def Fills (w : Sweep m) (e : Nat) (want : Nat → List Scope) (ts : Tokens) (result : m Tokens) : Prop :=
  ∃ us, result = pure us ∧ ts.Fills want (us.produce e w.stack.top.contentScopes) ∧
    (us.produce e w.stack.top.contentScopes).last = e

theorem Fills.congr (h : w.Fills e want ts result) {want' : Nat → List Scope}
    (hwant : ∀ byte, ts.last ≤ byte → want byte = want' byte) : w.Fills e want' ts result := by
  obtain ⟨us, hresult, fills, hus⟩ := h
  exact ⟨us, hresult, fills.congr fun byte hbyte _ => hwant byte hbyte, hus⟩

theorem Fills.after (h : w.Fills e want us result) (begun : ts.Fills want us) :
    w.Fills e want ts result := by
  obtain ⟨vs, hresult, fills, hvs⟩ := h
  exact ⟨vs, hresult, begun.trans fills, hvs⟩

/-- At the end all groups are closed. -/
theorem Nested.fills_end (h : Nested w e [] groups ts) :
    w.Fills e (due w [] groups) ts (pure (closeAll groups ts)) := by
  refine ⟨closeAll groups ts, rfl, ?_, ?_⟩
  · have hall : groups.dropWhile (fun g => g.2 ≤ e) = [] :=
      List.dropWhile_eq_nil_iff.mpr fun g hg => by simpa using h.ends g hg
    have fills := fills_closeUpTo e w.stack.top.contentScopes groups ts
    rw [hall] at fills
    rw [closeAll_eq ts h.ends]
    exact fills.congr fun byte _ _ => (List.append_nil _).symm
  · rw [closeAll_eq ts h.ends, last_closeUpTo]
    exact Nat.max_eq_right h.last

/-- A group that is begun: what is open from there on gives what was due before. -/
theorem Nested.fills_opened {id : RuleId} {start stop : Nat}
    (h : Nested w e ((some id, some (start, stop)) :: entries) groups ts) (hus : us.last = start)
    (begun : ts.Fills (due w ((some id, some (start, stop)) :: entries) groups) us)
    (rest : ∀ {opened}, Nested w e entries opened us →
      w.Fills e (due w entries opened) us (w.run entries opened us)) :
    let left := groups.dropWhile fun g => g.2 ≤ start
    let names := (w.grammar.rule id).nameScopes w.line w.captures
    w.Fills e (due w ((some id, some (start, stop)) :: entries) groups) ts
      (w.run entries (if names.isEmpty then left
        else (scopesWithin left w.stack.top.contentScopes ++ names, stop) :: left) us) := by
  intro left names
  have goOn : ∀ opened : OpenGroups, Nested w e entries opened us →
      (∀ byte, start ≤ byte → scopesOver opened w.stack.top.contentScopes byte =
        scopesOver groups w.stack.top.contentScopes byte ++
          w.grammar.scopesOf w.line w.captures byte (some id, some (start, stop))) →
      w.Fills e (due w ((some id, some (start, stop)) :: entries) groups) ts
        (w.run entries opened us) := by
    intro opened nested hover
    refine ((rest nested).congr fun byte hbyte => ?_).after begun
    rw [due, due, hover byte (hus ▸ hbyte), List.flatMap_cons, List.append_assoc]
  split
  · rename_i hnames
    refine goOn _ (h.skip hus) fun byte hbyte => ?_
    have hnone : w.grammar.scopesOf w.line w.captures byte (some id, some (start, stop)) = [] := by
      show (if start ≤ byte ∧ byte < stop then names else []) = []
      rw [List.isEmpty_iff.mp hnames, ite_self]
    rw [hnone, List.append_nil, scopesOver_dropWhile hbyte]
  · exact goOn _ (h.enter hus) fun byte hbyte => scopesOver_enter
      (fun g hg => h.inside g hg (start, stop) List.mem_cons_self) hbyte

/-- **A sweep over groups within groups** gives each byte the scopes of the first open group that ends behind
it, and then those of the groups to come that hold it. -/
theorem run_fills (hend : w.matchEnd = e) : ∀ {entries : List (Option RuleId × Option (Nat × Nat))}
    {groups : OpenGroups} {ts : Tokens}, Nested w e entries groups ts →
      w.Fills e (due w entries groups) ts (w.run entries groups ts)
  | [], _, _, h => h.fills_end
  | (none, span) :: entries, groups, ts, h => by
    unfold run
    exact (run_fills hend h.tail).congr fun _ _ => rfl
  | (some id, none) :: entries, groups, ts, h => by
    unfold run
    exact (run_fills hend h.tail).congr fun _ _ => rfl
  | (some id, some (start, stop)) :: entries, groups, ts, h => by
    obtain ⟨hlast, hle, hstop⟩ : ts.last ≤ start ∧ start ≤ stop ∧ stop ≤ e :=
      h.ahead (start, stop) List.mem_cons_self
    have hplain : (w.grammar.rule id).hasItems = false := h.plain _ List.mem_cons_self id rfl
    unfold run
    rw [hend, if_neg (by omega)]
    by_cases hempty : start = stop
    · -- An empty group holds no byte.
      rw [if_pos hempty]
      refine (run_fills hend h.tail).congr fun byte _ => ?_
      have hnone : w.grammar.scopesOf w.line w.captures byte (some id, some (start, stop)) = [] :=
        if_neg fun hin => by omega
      rw [due, due, List.flatMap_cons, hnone, List.nil_append]
    · rw [if_neg hempty]
      obtain ⟨hus, begun⟩ := h.fills_begin
      simp only [closeUpTo_groups, hplain]
      generalize (closeUpTo start groups ts).1.produce start _ = us at hus begun ⊢
      have opened := h.fills_opened hus begun (run_fills hend)
      cases w.again with
      | none => exact opened
      | some again => exact opened

end Sweep

/-! ### Matches -/

theorem spans_zip_sublist : ∀ (rules : CaptureRules) (captures : Captures),
    (spans (rules.zip captures)).Sublist (captures.filterMap id)
  | [], _ => List.nil_sublist _
  | _ :: _, [] => List.Sublist.slnil
  | _ :: rules, none :: captures => spans_zip_sublist rules captures
  | _ :: rules, some span :: captures => (spans_zip_sublist rules captures).cons_cons span

namespace Scanner

variable {m : Type → Type} [Monad m]

/-- **Groups within groups.** In a match from `s` to `e`, where no group is tokenized again and the groups
that took part stand in order within the match, each behind the ones before it or within them, the sweep and
the rest of the match come to tokens that tile the match. In each of them every byte has the scopes of the
frame, and then those of the groups with a rule that hold the byte, in the order of their numbers. -/
theorem sweep_groupScopes (sc : Scanner m) (again : Option (Again m)) (stack : Stack)
    (line : List Char) (firstLine : Bool) {rules : CaptureRules} {captures : Captures} {ts : Tokens}
    {s e : Nat} (hmatch : captures.head? = some (some (s, e))) (hlast : ts.last = s)
    (hplain : ∀ id, some id ∈ rules → (sc.grammar.rule id).hasItems = false)
    (hwithin : ∀ span, some span ∈ captures → s ≤ span.1 ∧ span.1 ≤ span.2 ∧ span.2 ≤ e)
    (horder : (captures.filterMap id).Pairwise Follows) :
    ∃ swept, sc.sweep again stack line firstLine rules captures ts = pure swept ∧
      ∃ tokens, (swept.produce e stack.top.contentScopes).done = tokens.reverse ++ ts.done ∧
        Abut s tokens e ∧ ∀ t ∈ tokens, ∀ byte, t.start ≤ byte → byte < t.stop →
          t.scopes = stack.top.contentScopes ++ sc.grammar.groupScopes line captures rules byte := by
  let w : Sweep m := ⟨sc.grammar, again, stack, line, captures, firstLine⟩
  have hspans := spans_zip_sublist rules captures
  have hgroups : ∀ span ∈ spans (rules.zip captures), s ≤ span.1 ∧ span.1 ≤ span.2 ∧ span.2 ≤ e := by
    intro span hspan
    obtain ⟨group, hgroup, rfl⟩ := List.mem_filterMap.mp (hspans.mem hspan)
    exact hwithin span hgroup
  have hwhole : s ≤ e := by
    have h := hwithin (s, e) (List.mem_of_mem_head? hmatch)
    exact Nat.le_trans h.2.1 h.2.2
  have hend : w.matchEnd = e := by
    cases captures with
    | nil => simp at hmatch
    | cons whole others =>
      obtain rfl : whole = some (s, e) := by simpa using hmatch
      rfl
  have nested : w.Nested e (rules.zip captures) [] ts := by
    refine ⟨fun entry hentry id hid => ?_, horder.sublist hspans, hlast ▸ hgroups, nofun, nofun,
      hlast ▸ hwhole⟩
    obtain ⟨rule, span⟩ := entry
    obtain rfl : rule = some id := hid
    exact hplain id (List.of_mem_zip hentry).1
  obtain ⟨swept, hrun, ⟨tokens, hdone, habut, hscopes⟩, hstop⟩ := w.run_fills hend nested
  have hsweep : sc.sweep again stack line firstLine rules captures ts = w.run (rules.zip captures) [] ts := by
    cases rules with
    | nil => rfl
    | cons rule rules => rfl
  refine ⟨swept, hsweep.trans hrun, tokens, hdone, ?_, hscopes⟩
  rw [hlast] at habut
  rw [← hstop]
  exact habut

end Scanner

/-- A key and a value, whose first character has a scope of its own. -/
def Source.pairText : Source.GrammarSource where
  scopeName := "source.pair"
  patterns := [{
    matchPattern := some "([a-z])=(([a-z])[a-z]*)(;)?"
    captures := [(0, { name := some "pair" }), (1, { name := some "key" }), (2, { name := some "value" }),
      (3, { name := some "first" }), (4, { name := some "end" })] }]

/-- The byte after the sign is in the pair, in the value and in the first character of that. -/
theorem sweep_groupScopes_pairText : ∃ g, Grammar.ofSource Source.pairText = .ok g ∧
    let rules : CaptureRules := [some 2, some 3, some 4, some 5, some 6]
    let captures : Captures := [some (2, 6), some (2, 3), some (4, 6), some (4, 5), none]
    let line := [' ', ' ', 'a', '=', 'b', 'c']
    (∀ id, some id ∈ rules → (g.rule id).hasItems = false) ∧
    (∀ span, some span ∈ captures → 2 ≤ span.1 ∧ span.1 ≤ span.2 ∧ span.2 ≤ 6) ∧
    (captures.filterMap id).Pairwise Follows ∧
    g.groupScopes line captures rules 4 = [⟨"pair"⟩, ⟨"value"⟩, ⟨"first"⟩] ∧
    ∃ swept, ((Means.direct g {}).scanner g 64).sweep none (.root g) line true rules captures ⟨[], 2⟩ =
        swept ∧
      ∃ tokens, (swept.produce 6 [g.scope]).done = tokens.reverse ∧ Abut 2 tokens 6 ∧
        ∀ t ∈ tokens, t.start ≤ 4 → 4 < t.stop →
          t.scopes = [g.scope, ⟨"pair"⟩, ⟨"value"⟩, ⟨"first"⟩] := by
  have run : (Grammar.ofSource Source.pairText).toOption.any (fun g => decide (
      ([2, 3, 4, 5, 6].all fun id => !(g.rule id).hasItems) = true ∧
        g.groupScopes [' ', ' ', 'a', '=', 'b', 'c'] [some (2, 6), some (2, 3), some (4, 6), some (4, 5),
          none] [some 2, some 3, some 4, some 5, some 6] 4 = [⟨"pair"⟩, ⟨"value"⟩, ⟨"first"⟩])) = true := by
    decide +kernel
  obtain ⟨g, hg, h⟩ := exists_ok_of_any run
  obtain ⟨hitems, hfour⟩ := of_decide_eq_true h
  refine ⟨g, hg, ?_⟩
  intro rules captures line
  have hplain : ∀ id, some id ∈ rules → (g.rule id).hasItems = false := by
    intro id hid
    have hmem : id ∈ [2, 3, 4, 5, 6] := by simpa [rules] using hid
    simpa using List.all_eq_true.mp hitems id hmem
  have hwithin : ∀ span, some span ∈ captures → 2 ≤ span.1 ∧ span.1 ≤ span.2 ∧ span.2 ≤ 6 := by
    intro span hspan
    simp only [captures, List.mem_cons, Option.some.injEq, reduceCtorEq, List.not_mem_nil, or_false]
      at hspan
    rcases hspan with rfl | rfl | rfl | rfl <;> decide
  have horder : (captures.filterMap id).Pairwise Follows := by decide
  have hlast : (⟨[], 2⟩ : Tokens).last = 2 := rfl
  obtain ⟨swept, hswept, tokens, hdone, habut, hscopes⟩ :=
    Scanner.sweep_groupScopes ((Means.direct g {}).scanner g 64) none (.root g) line true rfl hlast hplain
      hwithin horder
  refine ⟨hplain, hwithin, horder, hfour, swept, hswept, tokens, hdone.trans (List.append_nil _), habut,
    fun t ht hstart hstop => ?_⟩
  rw [hscopes t ht 4 hstart hstop]
  exact congrArg ([g.scope] ++ ·) hfour

end ScopeLexer
