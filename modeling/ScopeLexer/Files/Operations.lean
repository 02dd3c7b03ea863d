/-
# Working with files

What a program may do with files, over a monad that keeps them, and why it may fail. A directory is
created with those around it. A file is replaced as a whole: its new content is written into a spare file
beside it, which takes its place when it is complete.

Key definitions: `Fault`, `Fault.message`, `Operations`, `Operations.readText`,
`Operations.makeDirectories`, `Operations.replace`.
-/
import ScopeLexer.Files.Path

namespace ScopeLexer
namespace Files

/-! ### Faults -/

/-- Why a file cannot be read or written. -/
inductive Fault where
  | missing
  | taken
  | notDirectory
  | isDirectory
  | nameTooLong
  /-- A path holds the character zero. -/
  | zeroInPath
  /-- The content is no text. -/
  | notText
  | other (message : String)
  deriving Inhabited, Repr, DecidableEq

/-- What is said about a fault. -/
def Fault.message : Fault → String
  | missing => "No such file or directory (os error 2)"
  | taken => "File exists (os error 17)"
  | notDirectory => "Not a directory (os error 20)"
  | isDirectory => "Is a directory (os error 21)"
  | nameTooLong => "File name too long (os error 36)"
  | zeroInPath => "file name contained an unexpected NUL byte"
  | notText => "stream did not contain valid UTF-8"
  | other message => message

/-! ### Operations -/

/-- What may be done with files. -/
structure Operations (m : Type → Type) where
  read : List Char → ExceptT Fault m ByteArray
  isDirectory : List Char → m Bool
  /-- The path that leads to the same place from the outermost directory, without detours. -/
  absolute : List Char → ExceptT Fault m (List Char)
  /-- A new directory in one that is there. -/
  makeDirectory : List Char → ExceptT Fault m Unit
  /-- A new empty file in a directory, and its path. -/
  spare : List Char → ExceptT Fault m (List Char)
  /-- The content of a file that is there. -/
  write : List Char → ByteArray → ExceptT Fault m Unit
  /-- A file takes the place of another one. -/
  rename : List Char → List Char → ExceptT Fault m Unit
  remove : List Char → ExceptT Fault m Unit

namespace Operations

variable {m : Type → Type} [Monad m] (fs : Operations m)

/-- The text of a file. -/
def readText (path : List Char) : ExceptT Fault m (List Char) := do
  match String.fromUTF8? (← fs.read path) with
  | some s => return s.toList
  | none => throw .notText

/-- A directory, unless it is there. -/
def ensureDirectory (path : List Char) : ExceptT Fault m Unit := do
  try fs.makeDirectory path
  catch f => if !(← fs.isDirectory path) then throw f

/-- A directory and those around it, unless they are there; `fuel` bounds how many of them are missing. -/
def makeDirectoriesWithin : Nat → List Char → ExceptT Fault m Unit
  | 0, path => fs.ensureDirectory path
  | fuel + 1, path => do
    if path.isEmpty then return
    try fs.makeDirectory path
    catch f =>
      if f = .missing then
        match parent? path with
        | some outer =>
          makeDirectoriesWithin fuel outer
          fs.ensureDirectory path
        | none => throw f
      else if !(← fs.isDirectory path) then throw f

/-- A directory and those around it, unless they are there. -/
def makeDirectories (path : List Char) : ExceptT Fault m Unit :=
  fs.makeDirectoriesWithin (parts path).length path

/-- A file with a new content, and its path. If that fails nothing is left of the spare file. -/
def replace (directory name : List Char) (content : ByteArray) : ExceptT Fault m (List Char) := do
  let temporary ← fs.spare directory
  try
    fs.write temporary content
    fs.rename temporary (join directory name)
    pure (join directory name)
  catch f =>
    try fs.remove temporary catch _ => pure ()
    throw f

end Operations
end Files
end ScopeLexer
