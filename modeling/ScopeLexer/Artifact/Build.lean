/-
# Building artifacts

A grammar is made into a property list, into JSON or into CSON. A property list and a CSON file hold all of
it. A JSON file tells where the grammar comes from and leaves out its identifier and its file types. The
artifact is put into a directory under the stem of the file's name.

Key definitions: `Target`, `GrammarSource.withRevision`, `Target.content`, `artifactName`, `build`.
-/
import ScopeLexer.Artifact.Revision
import ScopeLexer.Cson
import ScopeLexer.Json.Printer
import ScopeLexer.Source.Format

namespace ScopeLexer

open Source (GrammarSource)

/-! ### Kinds of artifacts -/

/-- What a grammar is made into. -/
inductive Target where
  | plist
  | json
  | cson
  deriving Inhabited, Repr, DecidableEq

namespace Target

/-- What follows the stem of the file name. -/
def ending : Target → String
  | plist => ".tmLanguage"
  | json => ".tmLanguage.json"
  | cson => ".cson"

/-- The file name of an artifact. -/
def fileName (t : Target) (stem : List Char) : List Char := stem ++ t.ending.toList

/-- The target of a name. -/
def ofName? : String → Option Target
  | "plist" => some plist
  | "json" => some json
  | "cson" => some cson
  | _ => none

end Target

/-! ### Contents -/

/-- What people who want to change an artifact should know. -/
def Revision.notes (r : Revision) : List String :=
  ["This file has been converted from " ++ r.repositoryAddress,
   "If you want to provide a fix or improvement, please create a pull request against the original " ++
     "repository.",
   "Once accepted there, we are happy to receive an update request."]

/-- A grammar that tells where it comes from. -/
def Source.GrammarSource.withRevision (g : GrammarSource) (r : Revision) : GrammarSource :=
  { g with
    contributorNotes := some r.notes, version := some r.address, uuid := none, fileTypes := [] }

/-- The text of an artifact. Only JSON needs a revision. -/
def Target.content (t : Target) (g : GrammarSource) (revision : Option Revision) :
    Except Error String :=
  match t, revision with
  | plist, _ => .ok (g.toPlist.render ++ "\n")
  | json, some r => .ok ((g.withRevision r).toJson.pretty ++ "\n")
  | json, none => .error .revisionNeeded
  | cson, _ => .ok (Cson.render g.toJson)

/-! ### Files -/

/-- The stem of an artifact made from a file. -/
def artifactStem (input : List Char) : List Char :=
  match Files.stem input with
  | [] => "grammar".toList
  | cs => cs

/-- The file name of an artifact made from a file. -/
def artifactName (target : Target) (input : List Char) : List Char :=
  target.fileName (artifactStem input)

/-- Makes the grammar in a file into an artifact in a directory, and gives the path of it. -/
def build {m : Type → Type} [Monad m] (fs : Files.Operations m) (input : List Char)
    (target : Target) (directory : List Char) (revision : Option Revision) :
    ExceptT Error m (List Char) := do
  let g ← Source.load fs input
  let content ← MonadExcept.ofExcept (target.content g revision)
  (fs.makeDirectories directory).adapt Error.file
  (fs.replace directory (artifactName target input) content.toUTF8).adapt Error.file

end ScopeLexer
