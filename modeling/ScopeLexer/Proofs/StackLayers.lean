/-
# Layers of scopes

The frames of a stack lie over one another: at the bottom is the frame of the grammar, and each frame has
the scopes of the content around it, followed by its own name and then by its own content. The moves of
a scan keep this, and whatever else is true of every frame that is pushed.

Key definitions: `Frame.IsRoot`, `Layered`, `Stack.InLayers`.
Key theorems: `Layered.moves`, `Layered.head_scope`.
-/
import Mathlib.Data.List.Chain
import ScopeLexer.Proofs.StackMoves

namespace ScopeLexer

open Relation (ReflTransGen)

/-- The frame at the bottom of a stack of a grammar. -/
structure Frame.IsRoot (g : Grammar) (f : Frame) : Prop where
  rule : f.rule = Grammar.rootRule
  nameScopes : f.nameScopes = [g.scope]
  contentScopes : f.contentScopes = [g.scope]
  endPattern : f.endPattern = none

/-- Frames, innermost first, that lie over one another down to the root; those above it have a
property. -/
def Layered (g : Grammar) (P : Frame → Prop) : List Frame → Prop
  | [] => False
  | [f] => f.IsRoot g
  | f :: outer :: rest =>
    P f ∧ outer.contentScopes <+: f.nameScopes ∧ f.nameScopes <+: f.contentScopes ∧
      Layered g P (outer :: rest)

namespace Layered

variable {g : Grammar} {P Q : Frame → Prop} {s t : Stack}

theorem root (g : Grammar) (P : Frame → Prop) : Layered g P (Stack.root g).frames :=
  ⟨rfl, rfl, rfl, rfl⟩

theorem mono (hpq : ∀ f, P f → Q f) : ∀ {fs : List Frame}, Layered g P fs → Layered g Q fs
  | [], h => h
  | [_], h => h
  | f :: _ :: _, ⟨hp, hn, hc, h⟩ => ⟨hpq f hp, hn, hc, mono hpq h⟩

/-- Any frames that are left when others are taken off still lie over one another. -/
theorem suffix : ∀ {fs gs : List Frame}, Layered g P fs → gs <:+ fs → gs ≠ [] → Layered g P gs
  | [], gs, h, _, _ => h.elim
  | [f], gs, h, hs, hne => by
    rcases List.suffix_cons_iff.mp hs with rfl | hs
    · exact h
    · exact absurd (List.suffix_nil.mp hs) hne
  | f :: outer :: rest, gs, h, hs, hne => by
    rcases List.suffix_cons_iff.mp hs with rfl | hs
    · exact h
    · exact suffix h.2.2.2 hs hne

theorem push {f : Frame} (h : Layered g P s.frames) (hp : P f)
    (hn : s.top.contentScopes <+: f.nameScopes) (hc : f.nameScopes <+: f.contentScopes) :
    Layered g P (s.push f).frames :=
  ⟨hp, hn, hc, h⟩

/-- The scopes of the content of the innermost frame may be given up. -/
theorem strip (hP : ∀ f scopes, P f → P { f with contentScopes := scopes })
    (h : Layered g P s.frames) : Layered g P (s.withContent s.top.nameScopes).frames := by
  obtain ⟨top, below⟩ := s
  cases below with
  | nil => exact ⟨h.rule, h.nameScopes, h.nameScopes, h.endPattern⟩
  | cons outer rest => exact ⟨hP _ _ h.1, h.2.1, List.prefix_rfl, h.2.2.2⟩

/-- What is known of a line may be forgotten. -/
theorem reset (hP : ∀ f, P f → P f.reset) (h : Layered g P s.frames) :
    Layered g P s.reset.frames := by
  have all : ∀ {fs : List Frame}, Layered g P fs → Layered g P (fs.map Frame.reset) := by
    intro fs
    induction fs with
    | nil => exact id
    | cons f fs ih =>
      intro h
      cases fs with
      | nil => exact ⟨h.rule, h.nameScopes, h.contentScopes, h.endPattern⟩
      | cons outer rest => exact ⟨hP f h.1, h.2.1, h.2.2.1, ih h.2.2.2⟩
  exact all h

/-- What has to be true of a property of frames for moves to keep it. -/
structure Kept (g : Grammar) (line : List Char) (P : Frame → Prop) : Prop where
  opened : ∀ {s f span captures}, Stack.Opened g line s f span captures → P f
  content : ∀ f scopes, P f → P { f with contentScopes := scopes }

variable {line : List Char}

theorem move (hP : Kept g line P) (h : Layered g P s.frames) (hm : Stack.Move g line s t) :
    Layered g P t.frames := by
  cases hm with
  | stay => exact h
  | pop => exact h.suffix s.frames_pop_suffix (List.cons_ne_nil _ _)
  | strip => exact strip hP.content h
  | push ho =>
    exact h.push (hP.opened ho) (ho.nameScopes ▸ List.prefix_append _ _)
      (ho.contentScopes ▸ List.prefix_append _ _)

/-- **Moves keep the layers.** -/
theorem moves (hP : Kept g line P) (h : Layered g P s.frames)
    (hm : ReflTransGen (Stack.Move g line) s t) : Layered g P t.frames := by
  induction hm with
  | refl => exact h
  | tail _ hm ih => exact ih.move hP hm

/-! ### Frames -/

theorem head?_of_prefix {α : Type} {a : α} {as bs : List α} (hp : as <+: bs)
    (h : as.head? = some a) : bs.head? = some a :=
  List.singleton_prefix_iff_head?_eq_some.mp
    ((List.singleton_prefix_iff_head?_eq_some.mpr h).trans hp)

/-- The scopes of every frame begin with the scope of the grammar. -/
theorem head_scope : ∀ {fs : List Frame}, Layered g P fs → ∀ f ∈ fs,
    f.nameScopes.head? = some g.scope ∧ f.contentScopes.head? = some g.scope
  | [], h, _, _ => h.elim
  | [f], h, f', hf => by
    obtain rfl := List.mem_singleton.mp hf
    simp [h.nameScopes, h.contentScopes]
  | f :: outer :: rest, ⟨_, hn, hc, h⟩, f', hf => by
    rcases List.mem_cons.mp hf with rfl | hf
    · have houter := (h.head_scope outer List.mem_cons_self).2
      have hname : f'.nameScopes.head? = some g.scope := head?_of_prefix hn houter
      exact ⟨hname, head?_of_prefix hc hname⟩
    · exact h.head_scope f' hf

/-- The frame at the bottom is the root. -/
theorem getLast : ∀ {fs : List Frame}, Layered g P fs → ∃ f, fs.getLast? = some f ∧ f.IsRoot g
  | [], h => h.elim
  | [f], h => ⟨f, rfl, h⟩
  | f :: outer :: rest, ⟨_, _, _, h⟩ => by
    obtain ⟨r, hr, h⟩ := h.getLast
    exact ⟨r, by rwa [List.getLast?_cons_cons], h⟩

/-- Every frame above the root has the property. -/
theorem of_mem_dropLast : ∀ {fs : List Frame}, Layered g P fs → ∀ f ∈ fs.dropLast, P f
  | [], h, _, _ => h.elim
  | [_], _, f', hf => by simp at hf
  | f :: outer :: rest, ⟨hp, _, _, h⟩, f', hf => by
    rw [List.dropLast_cons_cons] at hf
    rcases List.mem_cons.mp hf with rfl | hf
    · exact hp
    · exact h.of_mem_dropLast f' hf

theorem isChain : ∀ {fs : List Frame}, Layered g P fs →
    fs.IsChain fun inner outer => outer.contentScopes <+: inner.nameScopes
  | [], h => h.elim
  | [_], _ => .singleton _
  | _ :: _ :: _, ⟨_, hn, _, h⟩ => .cons_cons hn h.isChain

theorem name_prefix_content : ∀ {fs : List Frame}, Layered g P fs → ∀ f ∈ fs,
    f.nameScopes <+: f.contentScopes
  | [], h, _, _ => h.elim
  | [f], h, f', hf => by
    obtain rfl := List.mem_singleton.mp hf
    have : f'.nameScopes = f'.contentScopes := h.nameScopes.trans h.contentScopes.symm
    exact this ▸ List.prefix_rfl
  | f :: outer :: rest, ⟨_, _, hc, h⟩, f', hf => by
    rcases List.mem_cons.mp hf with rfl | hf
    · exact hc
    · exact h.name_prefix_content f' hf

end Layered

/-! ### Stacks -/

/-- Stacks whose frames lie over one another. -/
abbrev Stack.InLayers (g : Grammar) (s : Stack) : Prop := Layered g (fun _ => True) s.frames

namespace Stack.InLayers

variable {g : Grammar} {s t : Stack}

theorem top_scope (h : s.InLayers g) : s.top.contentScopes.head? = some g.scope :=
  (Layered.head_scope h s.top List.mem_cons_self).2

/-- Any frame may be pushed that lies over the innermost one. -/
theorem push {f : Frame} (h : s.InLayers g) (hn : s.top.contentScopes <+: f.nameScopes)
    (hc : f.nameScopes <+: f.contentScopes) : (s.push f).InLayers g :=
  Layered.push h trivial hn hc

theorem strip (h : s.InLayers g) : (s.withContent s.top.nameScopes).InLayers g :=
  Layered.strip (fun _ _ _ => trivial) h

theorem of_suffix (h : s.InLayers g) (ht : t.frames <:+ s.frames) : t.InLayers g :=
  Layered.suffix h ht (List.cons_ne_nil _ _)

theorem pop (h : s.InLayers g) : s.pop.InLayers g := h.of_suffix s.frames_pop_suffix

/-- The root is a group, so that there are frames around all other frames. -/
theorem below_ne_nil (h : s.InLayers g) (hroot : g.HasRoot) (hgroup : ∀ r, g.rule s.top.rule ≠ .group r) :
    s.below ≠ [] := by
  intro hbelow
  have hbottom : s.top.IsRoot g := by
    simpa [Stack.InLayers, Stack.frames, hbelow, Layered] using h
  obtain ⟨r, hr⟩ := hroot
  exact hgroup r (hbottom.rule ▸ hr)

theorem kept (g : Grammar) (line : List Char) : Layered.Kept g line fun _ => True :=
  ⟨fun _ => trivial, fun _ _ h => h⟩

theorem move {line : List Char} (h : s.InLayers g) (hm : Stack.Move g line s t) : t.InLayers g :=
  Layered.move (kept g line) h hm

end Stack.InLayers
end ScopeLexer
