/-
# Tokenizing with a memory

A session tokenizes lines of one grammar and remembers the candidates of rules and the patterns made
from captured text. What it remembers is what it would work out again, so that it changes no answer.

Key definitions: `Memory`, `Memory.means`, `Session`, `Session.line`.
Key theorems: `Memory.remember_faithful`.
-/
import ScopeLexer.Tokenize.Line

namespace ScopeLexer

/-- What has been worked out. -/
structure Memory where
  entries : List (RuleId × List Entry) := []
  patterns : List (String × Pattern) := []

namespace Memory

/-- A value that is remembered, or else worked out and remembered. -/
def remember {κ β : Type} [BEq κ] (work : κ → β) (key : κ) (known : List (κ × β)) :
    β × List (κ × β) :=
  match known.lookup key with
  | some v => (v, known)
  | none => (work key, (key, work key) :: known)

/-- What is remembered is what would be worked out. -/
def Faithful {κ β : Type} (work : κ → β) (known : List (κ × β)) : Prop :=
  ∀ e ∈ known, e.2 = work e.1

theorem remember_faithful {κ β : Type} [BEq κ] [LawfulBEq κ] {work : κ → β} {known : List (κ × β)}
    (h : Faithful work known) (key : κ) :
    (remember work key known).1 = work key ∧ Faithful work (remember work key known).2 := by
  unfold remember
  split
  · rename_i v hv
    have hmem : (key, v) ∈ known := by
      clear h
      induction known with
      | nil => simp at hv
      | cons e es ih =>
        obtain ⟨k, w⟩ := e
        rw [List.lookup_cons] at hv
        split at hv
        · rename_i hk
          have : key = k := by simpa using hk
          simp_all
        · exact List.mem_cons_of_mem _ (ih hv)
    exact ⟨h _ hmem, h⟩
  · refine ⟨rfl, ?_⟩
    intro e he
    rcases List.mem_cons.mp he with rfl | he
    · rfl
    · exact h e he

/-- The candidates of a rule. -/
def entriesOf (g : Grammar) (id : RuleId) : StateM Memory (List Entry) := fun s =>
  let r := remember g.candidates id s.entries
  (r.1, { s with entries := r.2 })

/-- The pattern of a text. -/
def patternOf (text : String) : StateM Memory Pattern := fun s =>
  let r := remember Pattern.ofText text s.patterns
  (r.1, { s with patterns := r.2 })

/-- Means that remember. -/
def means (g : Grammar) (o : Options) : Means (StateM Memory) where
  search := o.search
  timeIsOver := pure o.timeIsOver
  entries := entriesOf g
  made := patternOf

end Memory

/-- A grammar in use with limits and a memory. -/
structure Session where
  grammar : Grammar
  options : Options
  memory : Memory := {}

namespace Session

def scanner (s : Session) : Scanner (StateM Memory) :=
  (Memory.means s.grammar s.options).scanner s.grammar s.options.maxStalled

/-- The tokens of a line, and the session after it. -/
def line (s : Session) (text : List Char) (prior : Option Stack) : LineTokens × Session :=
  let r := s.scanner.line text prior s.memory
  (r.1, { s with memory := r.2 })

/-- The tokens of a document, and the session after it. -/
def document (s : Session) (text : List Char) : List (List Token) × Session :=
  let r := s.scanner.document text s.memory
  (r.1, { s with memory := r.2 })

end Session
end ScopeLexer
