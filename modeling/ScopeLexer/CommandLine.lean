/-
# The command line

The first argument that is no option names the target. The value of an option stands in the next
argument or after an equals sign; an option may be given once. After two dashes no argument is an
option.

Key definitions: `Arguments`, `Request.parse?`, `run`, `respond`.
-/
import ScopeLexer.Artifact.Build
import ScopeLexer.Artifact.Checkout

namespace ScopeLexer
namespace CommandLine

/-! ### Arguments -/

/-- What is to be built from what. -/
structure Arguments where
  target : Target
  input : String
  directory : String
  repository : String
  commit : Option String
  deriving Inhabited, Repr, DecidableEq

/-- What the arguments ask for. -/
inductive Request where
  | help
  | build (arguments : Arguments)
  deriving Inhabited, Repr, DecidableEq

/-- The options that take a value. -/
inductive Setting where
  | input
  | directory
  | repository
  | commit
  deriving Inhabited, Repr, DecidableEq

namespace Setting

def ofName? : String → Option Setting
  | "input" => some input
  | "out-dir" => some directory
  | "repository" => some repository
  | "commit" => some commit
  | _ => none

/-- A path must not be empty. -/
def accepts (s : Setting) (value : String) : Bool :=
  match s with
  | input | directory => !value.isEmpty
  | repository | commit => true

end Setting

/-- The arguments that have been read. -/
structure Given where
  target : Option Target := none
  settings : List (Setting × String) := []
  deriving Inhabited, Repr

namespace Given

/-- One more option. -/
def setting? (g : Given) (s : Setting) (value : String) : Option Given :=
  if (g.settings.lookup s).isSome || !s.accepts value then none
  else some { g with settings := (s, value) :: g.settings }

/-- An argument that is no option. -/
def word? (g : Given) (word : String) : Option Given :=
  match g.target, Target.ofName? word with
  | none, some t => some { g with target := some t }
  | _, _ => none

/-- What has been asked for. Only the target has to be given. -/
def request? (g : Given) : Option Request :=
  g.target.map fun target => .build {
    target
    input := (g.settings.lookup .input).getD "src/fixtures/grammars/csharp.tmLanguage.yml"
    directory := (g.settings.lookup .directory).getD "grammars"
    repository := (g.settings.lookup .repository).getD "github.com/dotnet/csharp-tmLanguage"
    commit := g.settings.lookup .commit }

end Given

/-- An argument by its form. -/
inductive Form where
  | word
  | help
  /-- What follows is no option. -/
  | last
  /-- An option, and its value if that is in the same argument. -/
  | option (name : String) (value : Option String)
  deriving Inhabited, Repr, DecidableEq

/-- The form of an argument. -/
def Form.of (argument : String) : Form :=
  match argument.toList with
  | ['-', '-'] => .last
  | ['-', 'h'] => .help
  | '-' :: '-' :: cs =>
    if cs = "help".toList then .help
    else
      let name := cs.takeWhile (· ≠ '=')
      match cs.drop name.length with
      | _ :: value => .option (String.ofList name) (some (String.ofList value))
      | [] => .option (String.ofList name) none
  | '-' :: _ :: _ => .option "" none
  | _ => .word

/-- What some arguments ask for after those that have been read; none if they cannot be understood. -/
def readArguments? (g : Given) : List String → Option Request
  | [] => g.request?
  | a :: rest =>
    match Form.of a with
    | .word => (g.word? a).bind fun g => readArguments? g rest
    | .help => some .help
    | .last => (rest.foldlM Given.word? g).bind Given.request?
    | .option name value =>
      match Setting.ofName? name, value, rest with
      | none, _, _ => none
      | some s, some value, rest => (g.setting? s value).bind fun g => readArguments? g rest
      | some _, none, [] => none
      | some s, none, v :: rest =>
        if Form.of v = .word then (g.setting? s v).bind fun g => readArguments? g rest else none

/-- What the arguments ask for. -/
def Request.parse? (arguments : List String) : Option Request := readArguments? {} arguments

/-! ### Running -/

variable {m : Type → Type} [Monad m] (fs : Files.Operations m)

/-- The directory of a file, as it is told to other programs. -/
def directoryOf (path : List Char) : List Char :=
  match Files.parent? path with
  | none | some [] => ['.']
  | some outer => outer

/-- The revision of the source: the commit that is given, or else the one that is checked out. -/
def revisionOf (a : Arguments) : ExceptT Error m Revision :=
  match a.commit with
  | some commit => MonadExcept.ofExcept (Revision.of a.repository commit)
  | none => Revision.ofCheckout fs a.repository (directoryOf a.input.toList)

/-- Builds what the arguments say. -/
def run (a : Arguments) : ExceptT Error m (List Char) := do
  let revision ← if a.target = .json then some <$> revisionOf fs a else pure none
  build fs a.input.toList a.target a.directory.toList revision

/-- What a program leaves behind. -/
structure Outcome where
  exit : Nat
  output : String := ""
  errors : String := ""
  deriving Inhabited, Repr, DecidableEq

/-- How the program is used. -/
def usage : String :=
  "Packages a grammar source as a plist, JSON or CSON artifact\n\n" ++
    "Arguments: [OPTIONS] <plist|json|cson>\n\n" ++
    "Options:\n" ++
    "  --input <INPUT>            Grammar source (YAML, JSON or property list)\n" ++
    "  --out-dir <OUT_DIR>        Directory the artifact is written to, created if missing\n" ++
    "  --repository <REPOSITORY>  Repository the source lives in, recorded in the JSON artifact\n" ++
    "  --commit <COMMIT>          Full commit sha, read with git if not given\n" ++
    "  -h, --help                 Print help\n"

/-- The program. -/
def respond (arguments : List String) : m Outcome := do
  match Request.parse? arguments with
  | none => return { exit := 2, errors := usage }
  | some .help => return { exit := 0, output := usage }
  | some (.build a) =>
    match ← (run fs a).run with
    | .ok path => return { exit := 0, output := "Wrote " ++ String.ofList path ++ "\n" }
    | .error e => return { exit := 1, errors := "Error: " ++ e.message ++ "\n" }

end CommandLine
end ScopeLexer
