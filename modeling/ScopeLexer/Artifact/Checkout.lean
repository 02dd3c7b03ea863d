/-
# The commit that is checked out

Which commit of a repository is checked out stands in the files of its store. The store of a directory
is named `.git` and is in it or in a directory around it, or that is a store itself; a file of that
name tells where the store is. Its file `HEAD` holds a commit or the name of a reference, which has a
file of its own or a line in the list of packed ones.

Key definitions: `Reference`, `storeOf?`, `resolve`, `checkedOut`, `Revision.ofCheckout`.
-/
import ScopeLexer.Artifact.Revision
import ScopeLexer.Files.Operations

namespace ScopeLexer
namespace Checkout

open Files (Operations join)

/-! ### References -/

/-- What the file of a reference holds. -/
inductive Reference where
  | name (name : List Char)
  | commit (hash : List Char)
  deriving Inhabited, Repr, DecidableEq

/-- The text after a word at its head. -/
def after? (word : String) (cs : List Char) : Option (List Char) := word.toList.isPrefixOf? cs

/-- The hash at the head of a text, if it ends there. -/
def hash? (cs : List Char) : Option (List Char) :=
  let (hash, rest) := cs.splitAt Revision.commitLength
  let ends := match rest with
    | [] => true
    | c :: _ => Text.isSpace c
  if Revision.isCommit hash && ends then some hash else none

/-- The reference that a text holds. -/
def Reference.ofText? (cs : List Char) : Option Reference :=
  match after? "ref:" cs with
  | some rest => some (.name (Text.trim rest))
  | none => (hash? cs).map .commit

/-- Whether a reference may stand at the head of a store. -/
def Reference.isHead : Reference → Bool
  | .name cs => "refs/".toList.isPrefixOf cs
  | .commit _ => true

/-- The commit of a reference in a list of packed ones, where a line has the commit and the name. -/
def packed? (name : List Char) (text : List Char) : Option (List Char) :=
  (text.splitOn '\n').findSome? fun line =>
    (hash? line).filter fun hash => line.drop (hash.length + 1) = name

/-! ### Stores -/

variable {m : Type → Type} [Monad m] (fs : Operations m)

/-- The text of a file, if there is one. -/
def textOf? (path : List Char) : m (Option (List Char)) := do
  match ← (fs.readText path).run with
  | .ok text => return some text
  | .error _ => return none

/-- Whether a directory is a store. -/
def isStore (directory : List Char) : m Bool := do
  let head ← textOf? fs (join directory "HEAD".toList)
  if !(head.bind Reference.ofText?).any Reference.isHead then return false
  if !(← fs.isDirectory (join directory "objects".toList)) then return false
  fs.isDirectory (join directory "refs".toList)

/-- The store that a directory holds or is. -/
def storeAt? (directory : List Char) : m (Option (List Char)) := do
  let inner := join directory ".git".toList
  match (← textOf? fs inner).bind (after? "gitdir: ") with
  | some path =>
    let path := Text.trim path
    return some (if path.head? = some '/' then path else join directory path)
  | none =>
    if ← isStore fs inner then return some inner
    if ← isStore fs directory then return some directory
    return none

/-- The store of the first of some directories that has one. -/
def storeOf? : List (List Char) → m (Option (List Char))
  | [] => return none
  | directory :: outer => do
    match ← storeAt? fs directory with
    | some store => if ← isStore fs store then return some store else return none
    | none => storeOf? outer

/-- The commit of a reference in a store; at most `fuel` references may lead to one another. -/
def resolve (store : List Char) : Nat → List Char → m (Option (List Char))
  | 0, _ => return none
  | fuel + 1, name => do
    match ← textOf? fs (join store name) with
    | some text =>
      match Reference.ofText? text with
      | some (.name name) => resolve store fuel name
      | some (.commit hash) => return some hash
      | none => return none
    | none => return ((← textOf? fs (join store "packed-refs".toList)).bind (packed? name))

/-- How many references may lead to one another. -/
def maxReferences : Nat := 5

/-! ### Revisions -/

/-- The command that prints the commit. -/
def commandLine : String := "git rev-parse HEAD"

def noStore : String := "fatal: not a git repository (or any of the parent directories): .git"

def noCommit : String :=
  "fatal: ambiguous argument 'HEAD': unknown revision or path not in the working tree.\n" ++
    "Use '--' to separate paths from revisions, like this:\n" ++
    "'git <command> [<revision>...] -- [<file>...]'"

/-- The commit that is checked out in a directory. -/
def checkedOut (directory : List Char) : ExceptT Error m (List Char) := do
  let failed (message : String) : Error := .command commandLine message
  let path ← (fs.absolute directory).adapt fun f => failed f.message
  if !(← fs.isDirectory path) then throw (failed Files.Fault.notDirectory.message)
  match ← ExceptT.lift (storeOf? fs (Files.ancestors path)) with
  | none => throw (failed noStore)
  | some store =>
    match ← ExceptT.lift (resolve fs store maxReferences "HEAD".toList) with
    | none => throw (failed noCommit)
    | some hash => return hash

end Checkout

/-- The revision that is checked out in a directory. -/
def Revision.ofCheckout {m : Type → Type} [Monad m] (fs : Files.Operations m) (repository : String)
    (directory : List Char) : ExceptT Error m Revision := do
  let hash ← Checkout.checkedOut fs directory
  MonadExcept.ofExcept (Revision.of repository (String.ofList hash))

end ScopeLexer
