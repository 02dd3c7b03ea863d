/-
# Revisions of sources

The source of a grammar is kept in a repository, and a commit tells which state of it was read. A
repository is a host with a path; what else its address holds is taken off. A commit is a hash of forty
hexadecimal digits, in lower case.

Key definitions: `Revision`, `Revision.of`, `Revision.address`, `Revision.describe`.
-/
import ScopeLexer.Error
import ScopeLexer.Text.Basic
import ScopeLexer.Text.Quoted

namespace ScopeLexer

/-- A state of a repository. -/
structure Revision where
  repository : String
  commit : String
  deriving Inhabited, Repr, DecidableEq

namespace Revision

/-- How many digits a commit has. -/
def commitLength : Nat := 40

/-- A text in lower case, without white space around it. -/
def lowerCommit (text : List Char) : List Char := (Text.trim text).map Char.toLower

/-- Whether a text is a whole hash. -/
def isCommit (cs : List Char) : Bool :=
  cs.length == commitLength && cs.all fun c => (Text.hexDigit? c).isSome

/-- A repository without white space around it, scheme, slashes and ending. -/
def bareRepository (text : List Char) : List Char :=
  let cs := Text.trim text
  let cs := Text.dropHeads "https://".toList cs
  let cs := Text.dropHeads "http://".toList cs
  let cs := Text.dropTails ['/'] cs
  Text.dropTails ".git".toList cs

/-- The revision of a repository and a commit as they are given. -/
def of (repository commit : String) : Except Error Revision :=
  let hash := lowerCommit commit.toList
  if isCommit hash then
    .ok ⟨String.ofList (bareRepository repository.toList), String.ofList hash⟩
  else .error (.invalidCommit (String.ofList hash))

/-- The address of a repository. -/
def repositoryAddress (r : Revision) : String := "https://" ++ r.repository

/-- The address of a revision. -/
def address (r : Revision) : String := r.repositoryAddress ++ "/commit/" ++ r.commit

/-- A revision for people to read. -/
def describe (r : Revision) : String :=
  "SourceRevision \x7b repository: " ++ Text.quoted r.repository ++ ", commit: " ++
    Text.quoted r.commit ++ " \x7d"

end Revision
end ScopeLexer
