/-
# What is remembered changes nothing

A session remembers the candidates of rules and the patterns of texts. As long as what it remembers is
what would be worked out, it tokenizes as if it worked everything out anew, and this stays so whatever
lines it is given. So a session in use tokenizes like a fresh one, and a document line by line like single
lines, each after the stack that the lines before it leave.

Key definitions: `Memory.Sound`, `Session.after`, `Session.left`.
Key theorems: `Session.line_direct`, `Session.document_direct`, `Session.cache_transparent`.
-/
import ScopeLexer.Proofs.CarriedStacks
import ScopeLexer.Proofs.Simulation

namespace ScopeLexer

/-! ### Memories -/

/-- What is remembered for a grammar is what would be worked out. -/
structure Memory.Sound (g : Grammar) (s : Memory) : Prop where
  entries : Faithful g.candidates s.entries
  patterns : Faithful Pattern.ofText s.patterns

theorem Memory.sound_empty (g : Grammar) : Memory.Sound g {} := ⟨nofun, nofun⟩

/-- Computations that come to the same from every sound memory, and leave a sound one. -/
def Link.memory (g : Grammar) : Link (StateM Memory) Id where
  rel R x y := ∀ s : Memory, s.Sound g → R (x s).1 y ∧ (x s).2.Sound g
  pure h _ hs := ⟨h, hs⟩
  bind hx hf s hs :=
    have ⟨hr, hs'⟩ := hx s hs
    hf _ _ hr _ hs'

theorem Memory.means_linked (g : Grammar) (o : Options) :
    Means.Linked (Link.memory g) .same g g (Memory.means g o) (Means.direct g o) where
  search := rfl
  timeIsOver s hs := ⟨rfl, hs⟩
  entries := by
    rintro id _ rfl s hs
    obtain ⟨hval, hfaithful⟩ := remember_faithful hs.entries id
    refine ⟨?_, ⟨hfaithful, hs.patterns⟩⟩
    have hentries : (Memory.entriesOf g id s).1 = g.candidates id := hval
    rw [show (Memory.means g o).entries id s = Memory.entriesOf g id s from rfl, hentries]
    exact List.forall₂_same.mpr fun _ _ => ⟨rfl, rfl⟩
  made text s hs := by
    obtain ⟨hval, hfaithful⟩ := remember_faithful hs.patterns text
    exact ⟨hval, ⟨hs.entries, hfaithful⟩⟩

/-! ### Nothing differs -/

theorem Frame.Alike.eq {f f' : Frame} (h : f.Alike .same f') : f = f' := by
  obtain ⟨rule, nameScopes, contentScopes, endPattern, reachedEnd, anchor, entered⟩ := f
  obtain ⟨h₁, h₂, h₃, h₄, h₅, h₆, h₇⟩ := h
  cases h₁; cases h₂; cases h₃; cases h₄; cases h₅; cases h₆; cases h₇
  rfl

theorem Stack.Alike.eq {s s' : Stack} (h : s.Alike .same s') : s = s' := by
  obtain ⟨top, below⟩ := s
  obtain ⟨top', below'⟩ := s'
  have hbelow : List.Forall₂ Eq below below' := h.below.imp fun _ _ hf => hf.eq
  rw [List.forall₂_eq_eq_eq] at hbelow
  have htop : top = top' := h.top.eq
  rw [htop, hbelow]

theorem Stack.Alike.refl (s : Stack) : s.Alike .same s := by
  have frame : ∀ f : Frame, f.Alike .same f := fun _ => ⟨rfl, rfl, rfl, rfl, rfl, rfl, rfl⟩
  exact ⟨frame _, List.forall₂_same.mpr fun f _ => frame f⟩

theorem carried_refl : ∀ prior : Option Stack, Option.Rel (Scanner.Carried .same) prior prior
  | none => .none
  | some s => .some ⟨.refl s, rfl⟩

/-! ### Sessions -/

namespace Session

variable {s : Session}

/-- A scanner with the grammar and the limits of a session that works everything out anew. -/
def direct (s : Session) : Scanner Id :=
  (Means.direct s.grammar s.options).scanner s.grammar s.options.maxStalled

theorem scanner_linked (s : Session) :
    Scanner.Linked (Link.memory s.grammar) .same s.scanner s.direct :=
  (Memory.means_linked s.grammar s.options).scanner (Likeness.grammars_refl Iff.rfl _) _

/-- **A line with a sound memory** comes to what it comes to without one, and leaves a sound one. -/
theorem line_direct (hs : s.memory.Sound s.grammar) (text : List Char) (prior : Option Stack) :
    (s.line text prior).1 = s.direct.line text prior ∧
      (s.line text prior).2.memory.Sound s.grammar := by
  obtain ⟨⟨htokens, hstack⟩, hsound⟩ :=
    Scanner.line_linked s.scanner_linked text (carried_refl prior) s.memory hs
  refine ⟨?_, hsound⟩
  have hstack := hstack.eq
  show (s.scanner.line text prior s.memory).1 = s.direct.line text prior
  generalize (s.scanner.line text prior s.memory).1 = r at htokens hstack ⊢
  generalize (s.direct.line text prior : LineTokens) = r' at htokens hstack ⊢
  obtain ⟨tokens, stack⟩ := r
  cases htokens
  cases hstack
  rfl

theorem document_direct (hs : s.memory.Sound s.grammar) (text : List Char) :
    (s.document text).1 = s.direct.document text :=
  (Scanner.lines_linked s.scanner_linked id _ .none s.memory hs).1

/-- A session after some lines, each within a stack or as a first line. -/
def after (s : Session) (calls : List (List Char × Option Stack)) : Session :=
  calls.foldl (fun s call => (s.line call.1 call.2).2) s

@[simp] theorem grammar_after (s : Session) (calls : List (List Char × Option Stack)) :
    (s.after calls).grammar = s.grammar := by
  induction calls generalizing s with
  | nil => rfl
  | cons call calls ih => exact ih _

@[simp] theorem direct_after (s : Session) (calls : List (List Char × Option Stack)) :
    (s.after calls).direct = s.direct := by
  induction calls generalizing s with
  | nil => rfl
  | cons call calls ih => exact ih _

/-- Memories stay sound, whatever lines there are. -/
theorem after_sound (hs : s.memory.Sound s.grammar) (calls : List (List Char × Option Stack)) :
    (s.after calls).memory.Sound s.grammar := by
  induction calls generalizing s with
  | nil => exact hs
  | cons call calls ih => exact ih (s := (s.line call.1 call.2).2) (line_direct hs call.1 call.2).2

/-- The stack that some lines leave, each tokenized on its own by the session as it is. -/
def left (s : Session) (lines : List (List Char)) : Option Stack :=
  lines.foldl (fun prior line => some (s.line line prior).1.stack) none

end Session

/-! ### Line by line -/

/-- The lines of a document are tokenized like single lines, each after the stack that those before it
leave. -/
theorem Scanner.getElem?_lines (sc : Scanner Id) : ∀ (texts : List (List Char)) (prior : Option Stack)
    (k : Nat), (Id.run (sc.lines texts prior))[k]? = texts[k]?.map fun text =>
      let left := (texts.take k).foldl (fun prior text => some (sc.line text prior).stack) prior
      (sc.line text left).tokens
  | [], _, _ => rfl
  | _ :: _, _, 0 => rfl
  | text :: texts, prior, k + 1 => getElem?_lines sc texts (some (sc.line text prior).stack) k

theorem Session.left_direct {s : Session} (hs : s.memory.Sound s.grammar) (lines : List (List Char)) :
    s.left lines =
      lines.foldl (fun prior line => some (s.direct.line line prior).stack) none := by
  have hline : (fun prior line => some (s.line line prior).1.stack) =
      fun prior line => some (s.direct.line line prior).stack := by
    funext prior line
    rw [(Session.line_direct hs line prior).1]
  rw [Session.left, hline]

/-- **What is remembered changes nothing.** After any lines, a line comes to the same tokens and the same
stack as in a fresh session; the lines of a document come to what single lines of a fresh session come to,
each after the stack that those before it leave. All that is remembered is what would be worked out again:
the candidates of each rule, the patterns of texts, and for each pattern its programs, of which the one
with all anchors is that of the pattern as it is written. -/
theorem Session.cache_transparent {source : Source.GrammarSource} {g : Grammar}
    (hg : Grammar.ofSource source = .ok g) (o : Options) (calls : List (List Char × Option Stack)) :
    let fresh : Session := { grammar := g, options := o }
    let shared := fresh.after calls
    (∀ text prior, (shared.line text prior).1 = (fresh.line text prior).1) ∧
    (∀ text k, (shared.document text).1[k]? = (documentLines text)[k]?.map fun line =>
      (fresh.line line (fresh.left ((documentLines text).take k))).1.tokens) ∧
    (∀ e ∈ shared.memory.entries, e.2 = g.candidates e.1) ∧
    (∀ e ∈ shared.memory.patterns, e.2 = Pattern.ofText e.1) ∧
    ∀ p, p ∈ g.patterns ∨ p ∈ shared.memory.patterns.map (·.2) →
      (∀ a, p.program a = Pattern.programFor p.source.toList a) ∧
        p.program ⟨true, true⟩ = (Regex.compile p.source.toList).toOption := by
  intro fresh shared
  have hfresh : fresh.memory.Sound g := Memory.sound_empty g
  have hshared : shared.memory.Sound g := Session.after_sound (s := fresh) hfresh calls
  have hgrammar : shared.grammar = g := Session.grammar_after fresh calls
  have hsound : shared.memory.Sound shared.grammar := hgrammar ▸ hshared
  have hdirect : shared.direct = fresh.direct := Session.direct_after fresh calls
  refine ⟨fun text prior => ?_, fun text k => ?_, hshared.entries, hshared.patterns, fun p hp => ?_⟩
  · rw [(Session.line_direct hsound text prior).1, (Session.line_direct hfresh text prior).1, hdirect]
  · rw [Session.document_direct hsound text, hdirect]
    refine (Scanner.getElem?_lines fresh.direct _ none k).trans ?_
    congr 1
    funext line
    rw [(Session.line_direct hfresh line _).1, Session.left_direct hfresh]
  · have hmade : p = Pattern.ofText p.source := by
      rcases hp with hp | hp
      · exact (Grammar.shape_of_ofSource hg).patterns p hp
      · obtain ⟨e, he, rfl⟩ := List.mem_map.mp hp
        rw [hshared.patterns e he]
        rfl
    have hprogram : ∀ a, p.program a = Pattern.programFor p.source.toList a := fun a => by
      rw [hmade]
      exact Pattern.program_ofText p.source a
    refine ⟨hprogram, ?_⟩
    rw [hprogram, Pattern.programFor, Anchors.replace_all]
    cases Regex.compile p.source.toList <;> rfl

/-- A line after two others, of which the second was a first line again. -/
theorem cache_transparent_hereText : ∃ g, Grammar.ofSource Source.hereText = .ok g ∧
    let fresh : Session := { grammar := g, options := {} }
    let shared := fresh.after [(['<', '<', 'a'], none), (['$', 'b'], none)]
    (shared.line ['$', 'b'] none).1 = (fresh.line ['$', 'b'] none).1 := by
  obtain ⟨g, -, hg, -⟩ := exists_begun_hereText
  exact ⟨g, hg, (Session.cache_transparent hg {} [(['<', '<', 'a'], none), (['$', 'b'], none)]).1 _ _⟩

end ScopeLexer
