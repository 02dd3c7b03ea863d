/-
# Documents as far as they are well formed

A document is a tree of scalars, lists and maps. Its text may stop being well formed somewhere; the tree
then holds all that came before, and marks the place. Whoever decodes the tree in the order of the text
meets either a value of the wrong shape or the mark first, and so knows which of two faults comes first.

Key definitions: `Document`, `Document.All`.
-/

namespace ScopeLexer

/-- A document over scalars of a format. -/
inductive Document (α : Type) where
  | scalar (s : α)
  /-- The items that begin, and whether the list ends as it should. -/
  | list (items : List (Document α)) (closed : Bool)
  /-- The entries whose keys are complete, and whether the map ends as it should. A key that is no
  scalar is none. -/
  | map (entries : List (Option α × Document α)) (closed : Bool)
  /-- A list or map of a named type. It is read as one without a type where it is known what to expect,
  and refused where any value may stand. -/
  | typed (t : Document α)
  /-- No value, or one that is cut short. -/
  | broken
  deriving Inhabited, Repr

/-- All scalars of a document have a property, those that are keys too. -/
inductive Document.All {α : Type} (P : α → Prop) : Document α → Prop
  | scalar {s : α} (h : P s) : All P (.scalar s)
  | list {items : List (Document α)} {closed : Bool} (h : ∀ t ∈ items, All P t) : All P (.list items closed)
  | map {entries : List (Option α × Document α)} {closed : Bool} (keys : ∀ e ∈ entries, ∀ k ∈ e.1, P k)
      (values : ∀ e ∈ entries, All P e.2) : All P (.map entries closed)
  | typed {t : Document α} (h : All P t) : All P (.typed t)
  | broken : All P .broken

namespace Document

variable {α : Type} {P : α → Prop}

/-- A property of all scalars there are is one of those in a document. -/
theorem all_of_forall (h : ∀ s, P s) : (t : Document α) → t.All P
  | .scalar s => .scalar (h s)
  | .list items _ => .list fun t ht =>
    have := List.sizeOf_lt_of_mem ht
    all_of_forall h t
  | .map entries _ => .map (fun _ _ k _ => h k) fun e he =>
    have := List.sizeOf_lt_of_mem he
    have : sizeOf e.2 < sizeOf e := by cases e; simp +arith
    all_of_forall h e.2
  | .typed t => .typed (all_of_forall h t)
  | .broken => .broken
  termination_by t => sizeOf t

end Document
end ScopeLexer
