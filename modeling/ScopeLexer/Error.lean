/-
# Errors

Why a grammar cannot be loaded, compiled or made into an artifact.

Key definitions: `Error`, `Error.sourceDetail?`, `Error.message`.
-/
import ScopeLexer.Files.Operations
import ScopeLexer.Grammar.Error
import ScopeLexer.Source.Decode
import ScopeLexer.Text.Quoted

namespace ScopeLexer

inductive Error where
  | file (fault : Files.Fault)
  | source (format : Source.Format) (fault : Source.Fault)
  | grammar (error : CompileError)
  | unknownScope (name : String)
  | unknownFormat (path : String)
  | revisionNeeded
  | invalidCommit (text : String)
  | command (line message : String)
  deriving Inhabited, Repr

namespace Error

/-- The head of the message about a text that holds no grammar. -/
def sourceHead : Source.Format → String
  | .yaml => "YAML parsing error"
  | .json => "JSON error"
  | .plist => "plist error"

/-- What is said about a fault in a text of some format. The report on a property list quotes it, so
that it stands before the end of the quotation. -/
def sourceDetail? (format : Source.Format) (fault : Source.Fault) : Option String :=
  fault.message?.map fun m =>
    match format with
    | .plist => Text.quotedBody m ++ "\")"
    | .json | .yaml => m

/-- What is said about an error. -/
def message : Error → String
  | file fault => "I/O error: " ++ fault.message
  | source format fault =>
    match sourceDetail? format fault with
    | some m => sourceHead format ++ ": " ++ m
    | none => sourceHead format
  | grammar error => "invalid grammar: " ++ error.message
  | unknownScope name => "grammar '" ++ name ++ "' not found"
  | unknownFormat path => "unsupported grammar format for '" ++ path ++ "'"
  | revisionNeeded => "a source revision is required to build the JSON grammar"
  | invalidCommit text => "'" ++ text ++ "' is not a full hexadecimal commit hash"
  | command line m => "command `" ++ line ++ "` failed: " ++ m

end Error
end ScopeLexer
