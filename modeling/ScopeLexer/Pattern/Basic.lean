/-
# Patterns of a grammar

A pattern of a grammar is a regular expression that is searched with the anchors that hold at the
place. The references of an end pattern are to the groups of the begin pattern, whose text is put in
their place, escaped so that it stands for itself. A pattern is compiled once for each choice of
anchors, when it is first needed.

Key definitions: `Pattern`, `Pattern.resolve`, `Pattern.validate`, `Pattern.search`.
-/
import ScopeLexer.Pattern.Anchors
import ScopeLexer.Regex.Search
import ScopeLexer.Text.Basic

namespace ScopeLexer

open Regex (Captures Cursor Program)

namespace Pattern

/-- The characters with a meaning in a pattern, other than white space. -/
def specials : List Char :=
  ['-', '\\', '\x7b', '\x7d', '*', '+', '?', '|', '^', '$', '.', ',', '[', ']', '(', ')', '#']

/-- A character that stands for itself. -/
def escapeChar (c : Char) : List Char :=
  if specials.contains c || Text.isSpace c then ['\\', c] else [c]

/-- A text that stands for itself. -/
def escapeText (cs : List Char) : List Char := cs.flatMap escapeChar

/-- The text of a group in a line; nothing if the group took no part. -/
def captured (line : List Char) (captures : Captures) (n : Nat) : List Char :=
  match captures[n]? with
  | some (some (start, stop)) => (Text.slice? line start stop).getD []
  | _ => []

/-- A piece with the text of the group that it refers to in its place. -/
def resolvePiece (line : List Char) (captures : Captures) (p : Piece) : List Char :=
  match p.reference? with
  | some n => escapeText (captured line captures n)
  | none => p.text

/-- A pattern with the captured texts in place of the references. -/
def resolve (cs : List Char) (line : List Char) (captures : Captures) : List Char :=
  (pieces cs).flatMap (resolvePiece line captures)

/-- A pattern without references stays as it is. -/
theorem resolve_eq_self {cs : List Char} (h : hasBackreferences cs = false) (line : List Char)
    (captures : Captures) : resolve cs line captures = cs := by
  have key : ∀ p ∈ pieces cs, resolvePiece line captures p = p.text := by
    intro p hp
    have : p.reference? = none := by
      have := (List.any_eq_false.mp h) p hp
      simpa using this
    simp [resolvePiece, this]
  unfold resolve
  rw [List.flatMap_def, List.map_congr_left key, ← List.flatMap_def, flatten_pieces]

/-- The program of a pattern with some anchors; none if the pattern is not accepted. -/
def programFor (cs : List Char) (a : Anchors) : Option Program :=
  match Regex.compile (a.replace cs) with
  | .ok p => some p
  | .error _ => none

end Pattern

/-- A pattern with its programs, which are made when they are first needed. -/
structure Pattern where
  source : String
  both : Thunk (Option Program)
  textOnly : Thunk (Option Program)
  searchOnly : Thunk (Option Program)
  neither : Thunk (Option Program)

namespace Pattern

/-- The pattern of a text. -/
def ofText (s : String) : Pattern where
  source := s
  both := Thunk.mk fun _ => programFor s.toList ⟨true, true⟩
  textOnly := Thunk.mk fun _ => programFor s.toList ⟨true, false⟩
  searchOnly := Thunk.mk fun _ => programFor s.toList ⟨false, true⟩
  neither := Thunk.mk fun _ => programFor s.toList ⟨false, false⟩

instance : Inhabited Pattern := ⟨ofText ""⟩

/-- The program for some anchors. -/
def program (p : Pattern) (a : Anchors) : Option Program :=
  match a with
  | ⟨true, true⟩ => p.both.get
  | ⟨true, false⟩ => p.textOnly.get
  | ⟨false, true⟩ => p.searchOnly.get
  | ⟨false, false⟩ => p.neither.get

/-- The programs kept are those of the text. -/
theorem program_ofText (s : String) (a : Anchors) :
    (ofText s).program a = programFor s.toList a := by
  obtain ⟨_ | _, _ | _⟩ := a <;> rfl

def hasReferences (p : Pattern) : Bool := hasBackreferences p.source.toList

/-- Why a pattern is not accepted. One with references is looked at with nothing in their place. -/
def validate (p : Pattern) : Except Regex.Error Unit :=
  let cs := p.source.toList
  let cs := if p.hasReferences then resolve cs [] [] else cs
  match Regex.compile cs with
  | .ok _ => .ok ()
  | .error e => .error e

/-- The leftmost match at or after a cursor. -/
def search (p : Pattern) (a : Anchors) (c : Cursor) (limit : Option Nat) : Option Captures :=
  (p.program a).bind fun program => program.searchAt c limit

end Pattern
end ScopeLexer
