/-
# What does not matter to tokenizing

Two grammars may number their rules differently, and two frames may differ in what they know of the end of
the line they were opened in. What is alike apart from that stays alike in all that is done with frames,
stacks and matches.

Key definitions: `Likeness`, `Frame.Alike`, `Stack.Alike`, `Rule.Alike`, `Likeness.Grammars`.
Key theorems: `Stack.entersAgain_eq`, `Stack.Alike.closeLine`, `best_alike`.
-/
import Mathlib.Data.List.Forall2
import ScopeLexer.Proofs.GrammarShape
import ScopeLexer.Tokenize.Line

namespace ScopeLexer

open Regex (Captures)

/-- What may differ: the numbers of rules, which correspond one to one, and the flags of frames. -/
structure Likeness where
  rule : RuleId → RuleId → Prop
  flag : Bool → Bool → Prop
  rule_inj : ∀ {a a' b b'}, rule a a' → rule b b' → (a = b ↔ a' = b')
  flag_refl : ∀ b, flag b b

/-- Nothing differs. -/
def Likeness.same : Likeness where
  rule := Eq
  flag := Eq
  rule_inj := by
    rintro a _ b _ rfl rfl
    exact Iff.rfl
  flag_refl _ := rfl

/-- Only the flags of frames may differ. -/
def Likeness.upToFlags : Likeness where
  rule := Eq
  flag _ _ := True
  rule_inj := by
    rintro a _ b _ rfl rfl
    exact Iff.rfl
  flag_refl _ := trivial

variable {L : Likeness} {g g' : Grammar}

/-! ### Rules -/

/-- Captures with rules that correspond. -/
abbrev CaptureRules.Alike (L : Likeness) (rules rules' : CaptureRules) : Prop :=
  List.Forall₂ (Option.Rel L.rule) rules rules'

structure SpanRule.Alike (L : Likeness) (g g' : Grammar) (r r' : SpanRule) : Prop where
  name : r.name = r'.name
  contentName : r.contentName = r'.contentName
  openingCaptures : CaptureRules.Alike L r.openingCaptures r'.openingCaptures
  closing : g.pattern r.closing = g'.pattern r'.closing
  closingRefers : r.closingRefers = r'.closingRefers
  closingCaptures : CaptureRules.Alike L r.closingCaptures r'.closingCaptures

/-- Rules that do the same. -/
inductive Rule.Alike (L : Likeness) (g g' : Grammar) : Rule → Rule → Prop
  | matching {r r' : MatchRule} (name : r.name = r'.name)
      (captures : CaptureRules.Alike L r.captures r'.captures) :
      Alike L g g' (.matching r) (.matching r')
  | group {r r' : GroupRule} (name : r.name = r'.name) (contentName : r.contentName = r'.contentName)
      (items : r.items.isEmpty = r'.items.isEmpty) : Alike L g g' (.group r) (.group r')
  | beginEnd {r r' : EndRule} (span : r.toSpanRule.Alike L g g' r'.toSpanRule)
      (endLast : r.endLast = r'.endLast) (carriesOver : r.carriesOver = r'.carriesOver) :
      Alike L g g' (.beginEnd r) (.beginEnd r')
  | beginWhile {r r' : SpanRule} (span : r.Alike L g g' r') :
      Alike L g g' (.beginWhile r) (.beginWhile r')
  | noop : Alike L g g' .noop .noop

namespace Rule.Alike

variable {r r' : Rule}

theorem name (h : r.Alike L g g' r') : r.name? = r'.name? := by
  cases h with
  | matching name => exact name
  | group name => exact name
  | beginEnd span => exact span.name
  | beginWhile span => exact span.name
  | noop => rfl

theorem contentName (h : r.Alike L g g' r') : r.contentName? = r'.contentName? := by
  cases h with
  | matching => rfl
  | group _ contentName => exact contentName
  | beginEnd span => exact span.contentName
  | beginWhile span => exact span.contentName
  | noop => rfl

theorem nameScopes (h : r.Alike L g g' r') (line : List Char) (captures : Captures) :
    r.nameScopes line captures = r'.nameScopes line captures := by
  rw [Rule.nameScopes, Rule.nameScopes, h.name]

theorem contentScopes (h : r.Alike L g g' r') (line : List Char) (captures : Captures) :
    r.contentScopes line captures = r'.contentScopes line captures := by
  rw [Rule.contentScopes, Rule.contentScopes, h.contentName]

theorem hasItems (h : r.Alike L g g' r') : r.hasItems = r'.hasItems := by
  cases h with
  | group _ _ items => exact congrArg (!·) items
  | _ => rfl

theorem closing (h : r.Alike L g g' r') :
    Option.Rel (fun p p' => g.pattern p = g'.pattern p') r.closing? r'.closing? := by
  cases h with
  | beginEnd span => exact .some span.closing
  | _ => exact .none

theorem continuing (h : r.Alike L g g' r') :
    Option.Rel (fun p p' => g.pattern p = g'.pattern p') r.continuing? r'.continuing? := by
  cases h with
  | beginWhile span => exact .some span.closing
  | _ => exact .none

theorem endCaptures (h : r.Alike L g g' r') : CaptureRules.Alike L r.endCaptures r'.endCaptures := by
  cases h with
  | beginEnd span => exact span.closingCaptures
  | _ => exact .nil

theorem endLast (h : r.Alike L g g' r') : r.endLast = r'.endLast := by
  cases h with
  | beginEnd _ endLast => exact endLast
  | _ => rfl

end Rule.Alike

theorem CaptureRules.Alike.refl (h : ∀ id, L.rule id id) : ∀ rules, CaptureRules.Alike L rules rules
  | [] => .nil
  | none :: rest => .cons .none (refl h rest)
  | some id :: rest => .cons (.some (h id)) (refl h rest)

theorem SpanRule.Alike.refl (h : ∀ id, L.rule id id) (r : SpanRule) : r.Alike L g g r :=
  ⟨rfl, rfl, .refl h _, rfl, rfl, .refl h _⟩

theorem Rule.Alike.refl (h : ∀ id, L.rule id id) : ∀ r : Rule, r.Alike L g g r
  | .matching _ => .matching rfl (.refl h _)
  | .group _ => .group rfl rfl rfl
  | .beginEnd _ => .beginEnd (.refl h _) rfl rfl
  | .beginWhile r => .beginWhile (.refl h r)
  | .noop => .noop

/-- Grammars that differ in nothing else. -/
structure Likeness.Grammars (L : Likeness) (g g' : Grammar) : Prop where
  scope : g.scope = g'.scope
  root : L.rule Grammar.rootRule Grammar.rootRule
  rules : ∀ {id id'}, L.rule id id' → (g.rule id).Alike L g g' (g'.rule id')

theorem Likeness.grammars_refl (h : ∀ {id id'}, L.rule id id' ↔ id = id') (g : Grammar) :
    L.Grammars g g where
  scope := rfl
  root := h.mpr rfl
  rules := by
    intro id id' hid
    obtain rfl := h.mp hid
    exact .refl (fun _ => h.mpr rfl) _

/-! ### Frames and stacks -/

/-- Frames that differ in nothing else. -/
structure Frame.Alike (L : Likeness) (f f' : Frame) : Prop where
  rule : L.rule f.rule f'.rule
  nameScopes : f.nameScopes = f'.nameScopes
  contentScopes : f.contentScopes = f'.contentScopes
  endPattern : f.endPattern = f'.endPattern
  reachedEnd : L.flag f.reachedEnd f'.reachedEnd
  anchor : f.anchor = f'.anchor
  entered : f.entered = f'.entered

/-- Stacks with frames that are alike one by one. -/
structure Stack.Alike (L : Likeness) (s s' : Stack) : Prop where
  top : s.top.Alike L s'.top
  below : List.Forall₂ (Frame.Alike L) s.below s'.below

theorem Frame.Alike.endsWithLine {f f' : Frame} (hg : L.Grammars g g') (h : f.Alike L f') :
    f.endsWithLine g = f'.endsWithLine g' := by
  have hrule := hg.rules h.rule
  unfold Frame.endsWithLine
  generalize g.rule f.rule = r at hrule ⊢
  generalize g'.rule f'.rule = r' at hrule ⊢
  cases hrule with
  | beginEnd _ _ carriesOver => exact congrArg (!·) carriesOver
  | _ => rfl

namespace Stack

variable {s s' : Stack} {f f' : Frame}

namespace Alike

theorem frames (h : s.Alike L s') : List.Forall₂ (Frame.Alike L) s.frames s'.frames :=
  .cons h.top h.below

theorem of_frames (h : List.Forall₂ (Frame.Alike L) s.frames s'.frames) : s.Alike L s' := by
  cases h with
  | cons top below => exact ⟨top, below⟩

theorem root (hg : L.Grammars g g') : (Stack.root g).Alike L (Stack.root g') := by
  refine ⟨⟨hg.root, ?_, ?_, rfl, L.flag_refl _, rfl, rfl⟩, .nil⟩ <;> simp [Stack.root, hg.scope]

theorem push (h : s.Alike L s') (hf : f.Alike L f') : (s.push f).Alike L (s'.push f') :=
  ⟨hf, h.frames⟩

theorem pop? (h : s.Alike L s') : Option.Rel (Stack.Alike L) s.pop? s'.pop? := by
  obtain ⟨top, below⟩ := s
  obtain ⟨top', below'⟩ := s'
  cases h.below with
  | nil => exact .none
  | cons hf hfs => exact .some ⟨hf, hfs⟩

theorem pop (h : s.Alike L s') : s.pop.Alike L s'.pop := by
  have hpop := h.pop?
  unfold Stack.pop
  generalize s.pop? = outer at hpop ⊢
  generalize s'.pop? = outer' at hpop ⊢
  cases hpop with
  | none => exact h
  | some h' => exact h'

theorem withContent (h : s.Alike L s') (scopes : List Scope) :
    (s.withContent scopes).Alike L (s'.withContent scopes) :=
  ⟨{ h.top with contentScopes := rfl }, h.below⟩

theorem reset (h : s.Alike L s') : s.reset.Alike L s'.reset := by
  have frame : ∀ f f' : Frame, f.Alike L f' → f.reset.Alike L f'.reset := fun _ _ h =>
    { h with anchor := rfl, entered := rfl }
  exact ⟨frame _ _ h.top, List.rel_map (fun f f' => frame f f') h.below⟩

theorem truncate (h : s.Alike L s') (n : Nat) : (s.truncate n).Alike L (s'.truncate n) := by
  have hdepth : s.depth = s'.depth := h.below.length_eq
  unfold Stack.truncate
  rw [hdepth]
  have hdrop := List.forall₂_drop (s'.depth - n) h.frames
  generalize s.frames.drop _ = fs at hdrop ⊢
  generalize s'.frames.drop _ = fs' at hdrop ⊢
  cases hdrop with
  | nil => exact h
  | cons hf hfs => exact ⟨hf, hfs⟩

end Alike

theorem findIdx?_eq_of_forall₂ {α β : Type} {R : α → β → Prop} {p : α → Bool} {q : β → Bool}
    (hpq : ∀ {a b}, R a b → p a = q b) {as : List α} {bs : List β} (h : List.Forall₂ R as bs) :
    as.findIdx? p = bs.findIdx? q := by
  induction h with
  | nil => rfl
  | cons hab _ ih => rw [List.findIdx?_cons, List.findIdx?_cons, hpq hab, ih]

theorem Alike.closeLine (hg : L.Grammars g g') (h : s.Alike L s') :
    (s.closeLine g).Alike L (s'.closeLine g') := by
  have hindex : s.frames.reverse.findIdx? (Frame.endsWithLine g) =
      s'.frames.reverse.findIdx? (Frame.endsWithLine g') :=
    findIdx?_eq_of_forall₂ (fun hf => Frame.Alike.endsWithLine hg hf) (List.rel_reverse h.frames)
  unfold Stack.closeLine
  rw [hindex]
  split
  · exact h.truncate _
  · exact h

theorem entersAgain_eq (hf : f.Alike L f') {fs fs' : List Frame}
    (h : List.Forall₂ (Frame.Alike L) fs fs') : entersAgain f fs = entersAgain f' fs' := by
  induction h with
  | nil => rfl
  | @cons e e' _ _ he _ ih =>
    have hrule : (e.rule == f.rule) = (e'.rule == f'.rule) := by
      rw [Bool.eq_iff_iff, beq_iff_eq, beq_iff_eq]
      exact L.rule_inj he.rule hf.rule
    rw [entersAgain, entersAgain, he.entered, hf.entered, hrule, ih]

end Stack

/-! ### Matches -/

inductive Candidate.Alike (L : Likeness) : Candidate → Candidate → Prop
  | stop : Alike L .stop .stop
  | rule {id id' : RuleId} (h : L.rule id id') : Alike L (.rule id) (.rule id')

structure Found.Alike (L : Likeness) (x x' : Found) : Prop where
  candidate : x.candidate.Alike L x'.candidate
  start : x.start = x'.start
  stop : x.stop = x'.stop
  captures : x.captures = x'.captures

theorem Found.ofCaptures_alike {candidate candidate' : Candidate} (h : candidate.Alike L candidate')
    (captures : Captures) :
    Option.Rel (Found.Alike L) (Found.ofCaptures candidate captures)
      (Found.ofCaptures candidate' captures) := by
  unfold Found.ofCaptures
  split
  · exact .some ⟨h, rfl, rfl, rfl⟩
  · exact .none

theorem Found.better_alike {found found' : Option Found} {x x' : Found}
    (hf : Option.Rel (Found.Alike L) found found') (hx : x.Alike L x') :
    (Found.better found x).Alike L (Found.better found' x') := by
  unfold Found.better
  cases hf with
  | none => exact hx
  | some hold =>
    simp only [hold.start, hx.start]
    split
    · exact hold
    · exact hx

/-- The best matches among candidates that are alike are alike. -/
theorem best_alike {α : Type} (search : α → Option Captures) (pos : Nat)
    {candidates candidates' : List (Candidate × α)}
    (h : List.Forall₂ (fun e e' => e.1.Alike L e'.1 ∧ e.2 = e'.2) candidates candidates') :
    ∀ {found found' : Option Found}, Option.Rel (Found.Alike L) found found' →
      Option.Rel (Found.Alike L) (best search pos found candidates)
        (best search pos found' candidates') := by
  induction h with
  | nil => exact id
  | @cons e e' _ _ he _ ih =>
    intro found found' hf
    obtain ⟨candidate, p⟩ := e
    obtain ⟨candidate', p'⟩ := e'
    obtain ⟨hc, rfl : p = p'⟩ := he
    unfold best
    have hnew : Option.Rel (Found.Alike L) ((search p).bind (Found.ofCaptures candidate))
        ((search p).bind (Found.ofCaptures candidate')) := by
      cases search p with
      | none => exact .none
      | some captures => exact Found.ofCaptures_alike hc captures
    generalize (search p).bind (Found.ofCaptures candidate) = new at hnew ⊢
    generalize (search p).bind (Found.ofCaptures candidate') = new' at hnew ⊢
    cases hnew with
    | none => exact ih hf
    | some hx =>
      have hbetter := Found.better_alike hf hx
      simp only [hbetter.start, hx.start]
      split
      · exact .some hbetter
      · exact ih (.some hbetter)

theorem Grammar.ordered_alike {closing closing' : Option Pattern} (hc : closing = closing')
    (endLast : Bool) {entries entries' : List Entry}
    (h : List.Forall₂ (fun e e' => L.rule e.1 e'.1 ∧ g.pattern e.2 = g'.pattern e'.2) entries
      entries') :
    List.Forall₂ (fun e e' => e.1.Alike L e'.1 ∧ e.2 = e'.2) (g.ordered closing endLast entries)
      (g'.ordered closing' endLast entries') := by
  subst hc
  have children : List.Forall₂ (fun e e' => e.1.Alike L e'.1 ∧ e.2 = e'.2)
      (entries.map fun e => (Candidate.rule e.1, g.pattern e.2))
      (entries'.map fun e => (Candidate.rule e.1, g'.pattern e.2)) := by
    induction h with
    | nil => exact .nil
    | cons he _ ih => exact .cons ⟨.rule he.1, he.2⟩ ih
  have stop : List.Forall₂ (fun e e' : Candidate × Pattern => e.1.Alike L e'.1 ∧ e.2 = e'.2)
      (closing.toList.map fun p => (Candidate.stop, p))
      (closing.toList.map fun p => (Candidate.stop, p)) := by
    cases closing with
    | none => exact .nil
    | some p => exact .cons ⟨.stop, rfl⟩ .nil
  unfold Grammar.ordered
  simp only
  split
  · exact List.rel_append children stop
  · exact List.rel_append stop children

end ScopeLexer
