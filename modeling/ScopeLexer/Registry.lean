/-
# Registries

A registry keeps grammars by the names of their scopes. A grammar is compiled when it is first asked
for; what came of it is kept until a grammar of that name is added again. A grammar that is refused is
not kept, so that it is refused each time.

Key definitions: `Registry`, `Registry.add`, `Registry.load`, `Registry.tokenize`.
-/
import ScopeLexer.Grammar.Check
import ScopeLexer.Source.Format
import ScopeLexer.Text.Quoted
import ScopeLexer.Tokenize.Session

namespace ScopeLexer

open Source (GrammarSource)

/-- A compiled grammar, and by how many others of its registry it was preceded. -/
structure Compiled where
  grammar : Grammar
  serial : Nat

/-- Grammars by the names of their scopes. -/
structure Registry where
  sources : List (String × GrammarSource) := []
  compiled : List (String × Compiled) := []
  /-- How many grammars have been compiled. -/
  count : Nat := 0
  options : Options := {}

namespace Registry

/-- The name under which a grammar is kept. -/
def nameOf (g : GrammarSource) : String := String.ofList (Text.trim g.scopeName.toList)

/-- A registry with one more grammar, in place of one of its name. -/
def add (r : Registry) (g : GrammarSource) : Except Error Registry :=
  if (nameOf g).isEmpty then .error (.grammar .missingScopeName)
  else
    .ok { r with
      sources := Sorted.insert (nameOf g) g r.sources
      compiled := Sorted.erase (nameOf g) r.compiled }

/-- A registry with the grammar in a file. -/
def addFile {m : Type → Type} [Monad m] (fs : Files.Operations m) (r : Registry)
    (path : List Char) : ExceptT Error m Registry := do
  let g ← Source.load fs path
  MonadExcept.ofExcept (r.add g)

def contains (r : Registry) (name : String) : Bool := (r.sources.lookup name).isSome

/-- The names of all grammars, sorted. -/
def names (r : Registry) : List String := r.sources.map (·.1)

/-- The compiled grammar of a name, and the registry that keeps it. -/
def load (r : Registry) (name : String) : Except Error (Compiled × Registry) :=
  match r.compiled.lookup name with
  | some c => .ok (c, r)
  | none =>
    match r.sources.lookup name with
    | none => .error (.unknownScope name)
    | some g =>
      match Grammar.ofSource g with
      | .error e => .error (.grammar e)
      | .ok grammar =>
        let c : Compiled := ⟨grammar, r.count⟩
        .ok (c, { r with compiled := Sorted.insert name c r.compiled, count := r.count + 1 })

/-- The tokens of a document, line by line, and the registry that keeps the grammar. -/
def tokenize (r : Registry) (name : String) (text : List Char) :
    Except Error (List (List Token) × Registry) :=
  match r.load name with
  | .error e => .error e
  | .ok (c, r) =>
    let s : Session := { grammar := c.grammar, options := r.options }
    .ok ((s.document text).1, r)

/-- A registry for people to read. -/
def describe (r : Registry) : String :=
  "Registry \x7b grammars: [" ++ String.intercalate ", " (r.names.map Text.quoted) ++
    "], compiled: " ++ toString r.compiled.length ++ ", options: " ++ r.options.describe ++ " \x7d"

end Registry
end ScopeLexer
