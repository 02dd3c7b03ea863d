/-
# Paths

A path is a text of names with slashes between them. Empty names and a name of one dot stand for the
directory they are in, two dots for the one around it, and a slash at the head for the outermost one.

Key definitions: `parts`, `fileName?`, `extension?`, `stem`, `parent?`, `ancestors`, `join`.
-/

namespace ScopeLexer
namespace Files

/-- The parts of a path between its slashes. -/
def parts (path : List Char) : List (List Char) := path.splitOn '/'

/-- Whether a part stays in the directory it is in. -/
def stays (p : List Char) : Bool := p.isEmpty || p == ['.']

/-- The parts of a path that lead anywhere. -/
def steps (path : List Char) : List (List Char) := (parts path).filter (!stays ·)

/-- The name of the file that a path leads to. -/
def fileName? (path : List Char) : Option (List Char) :=
  (steps path).getLast?.filter (· ≠ ['.', '.'])

/-- A name split at its last dot. -/
def splitLastDot : List Char → Option (List Char × List Char)
  | [] => none
  | c :: cs =>
    match splitLastDot cs with
    | some (before, after) => some (c :: before, after)
    | none => if c = '.' then some ([], cs) else none

/-- What follows the last dot of a file name, unless that is its first character. -/
def extension? (path : List Char) : Option (List Char) :=
  match (fileName? path).bind splitLastDot with
  | some (_ :: _, after) => some after
  | _ => none

/-- A file name up to its first dot. -/
def stem (path : List Char) : List Char := ((fileName? path).getD []).takeWhile (· ≠ '.')

/-- The path of the directory that a path is in; empty for the directory where relative paths begin. A
dot at the head of a path counts as a part. -/
def parent? (path : List Char) : Option (List Char) :=
  let head := if (parts path).head? = some ['.'] then [['.']] else []
  match head ++ steps path with
  | [] => none
  | ps =>
    let outer := ['/'].intercalate ps.dropLast
    some (if path.head? = some '/' then '/' :: outer else outer)

/-- An absolute path and those of the directories around it, innermost first. -/
def ancestors (path : List Char) : List (List Char) :=
  let ps := steps path
  ((List.range (ps.length + 1)).map fun n => '/' :: ['/'].intercalate (ps.take n)).reverse

/-- The path of a file in a directory. -/
def join (directory name : List Char) : List Char :=
  match directory.getLast? with
  | none | some '/' => directory ++ name
  | some _ => directory ++ '/' :: name

end Files
end ScopeLexer
