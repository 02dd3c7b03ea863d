/-
# Grammars in files

The extension of a file tells in which format its grammar is written. The format has to be known before
the file is looked at.

Key definitions: `Format.ofPath?`, `Format.read`, `load`.
-/
import ScopeLexer.Error
import ScopeLexer.Source.Json
import ScopeLexer.Source.Plist
import ScopeLexer.Source.Yaml

namespace ScopeLexer
namespace Source

namespace Format

/-- The format of a file with an extension, in letters of either case. -/
def ofExtension? (extension : List Char) : Option Format :=
  match String.ofList (extension.map Char.toLower) with
  | "yml" | "yaml" => some .yaml
  | "json" => some .json
  | "tmlanguage" | "plist" => some .plist
  | _ => none

/-- The format of the file that a path leads to. -/
def ofPath? (path : List Char) : Option Format := (Files.extension? path).bind ofExtension?

/-- The grammar that a text holds. -/
def read : Format → List Char → Except Fault GrammarSource
  | yaml => readYaml
  | json => readJson
  | plist => readPlist

end Format

/-- The grammar in a file. -/
def load {m : Type → Type} [Monad m] (fs : Files.Operations m) (path : List Char) :
    ExceptT Error m GrammarSource := do
  match Format.ofPath? path with
  | none => throw (.unknownFormat (String.ofList path))
  | some format =>
    let text ← (fs.readText path).adapt Error.file
    match format.read text with
    | .ok g => return g
    | .error fault => throw (.source format fault)

end Source
end ScopeLexer
