/-
# A disk in memory

A disk keeps a node for each place, a place being the list of the names that lead to it from the
outermost directory. Places are sorted, so that what is in a directory stands together. Relative paths
begin at one of the places.

Key definitions: `Disk`, `Disk.node?`, `Disk.walk`, `Disk.operations`.
Key theorems: `node?_put_self`, `node?_put_of_ne`, `node?_erase_self`, `node?_erase_of_ne`.
-/
import ScopeLexer.Files.Operations
import ScopeLexer.Sorted
import ScopeLexer.Text.Offset

namespace ScopeLexer
namespace Files

/-- What is at a place. -/
inductive Node where
  | directory
  | file (content : ByteArray)
  deriving Inhabited

def Node.isDirectory : Node → Bool
  | directory => true
  | file _ => false

/-- Whether a node is a file with some content. -/
def Node.isFileWith (content : ByteArray) : Node → Bool
  | directory => false
  | file old => old.toList == content.toList

/-- The names that lead to a place. -/
abbrev Place := List String

/-- The nodes of a disk, sorted by place, and the place where relative paths begin. -/
structure Disk where
  nodes : List (Place × Node) := []
  start : Place := []
  deriving Inhabited

namespace Disk

/-- What is at a place. The outermost directory is always there. -/
def node? (d : Disk) (p : Place) : Option Node :=
  if p = [] then some .directory else d.nodes.lookup p

/-- A disk with a node at a place. -/
def put (d : Disk) (p : Place) (n : Node) : Disk := { d with nodes := Sorted.insert p n d.nodes }

/-- A disk without the node at a place. -/
def erase (d : Disk) (p : Place) : Disk := { d with nodes := Sorted.erase p d.nodes }

theorem node?_put_self {d : Disk} {p : Place} (n : Node) (h : p ≠ []) :
    (d.put p n).node? p = some n := by
  simp [node?, put, h, Sorted.lookup_insert_self]

/-- What is put at a place changes no other one. -/
theorem node?_put_of_ne {d : Disk} {p q : Place} (n : Node) (h : q ≠ p) :
    (d.put p n).node? q = d.node? q := by
  simp [node?, put, Sorted.lookup_insert_of_ne n d.nodes h]

theorem node?_erase_self {d : Disk} {p : Place} (h : p ≠ []) : (d.erase p).node? p = none := by
  simp [node?, erase, h, Sorted.lookup_erase_self]

/-- What is taken from a place changes no other one. -/
theorem node?_erase_of_ne {d : Disk} {p q : Place} (h : q ≠ p) :
    (d.erase p).node? q = d.node? q := by
  simp [node?, erase, Sorted.lookup_erase_of_ne d.nodes h]

/-! ### Paths on a disk -/

/-- How many bytes a name may take. -/
def maxName : Nat := 255

/-- How many bytes a path may take. -/
def maxPath : Nat := 4095

/-- A directory at a place. -/
def directoryAt (d : Disk) (p : Place) : Except Fault Unit :=
  match d.node? p with
  | some .directory => .ok ()
  | some (.file _) => .error .notDirectory
  | none => .error .missing

/-- The place of a name in a directory. -/
def enter (p : Place) (name : List Char) : Except Fault Place :=
  if stays name then .ok p
  else if name = ['.', '.'] then .ok p.dropLast
  else if maxName < Text.width name then .error .nameTooLong
  else .ok (p ++ [String.ofList name])

/-- The place that names lead to. All but the last one have to be directories. -/
def follow (d : Disk) (p : Place) : List (List Char) → Except Fault Place
  | [] => .ok p
  | name :: names => do
    d.directoryAt p
    let q ← enter p name
    follow d q names

/-- A path that may be looked up, in parts. -/
def partsOf (path : List Char) : Except Fault (List (List Char)) :=
  if '\x00' ∈ path then .error .zeroInPath
  else if path.isEmpty then .error .missing
  else if maxPath < Text.width path then .error .nameTooLong
  else .ok (parts path)

/-- The place that the parts of a path lead to. A path with a slash at its head begins with an empty
part. -/
def walk (d : Disk) : List (List Char) → Except Fault Place
  | [] :: name :: names => d.follow [] (name :: names)
  | names => d.follow d.start names

/-- The place of a path. -/
def place (d : Disk) (path : List Char) : Except Fault Place := do
  d.walk (← partsOf path)

/-! ### Operations -/

/-- The content of a file. -/
def read (d : Disk) (path : List Char) : Except Fault ByteArray := do
  match d.node? (← d.place path) with
  | some (.file content) => return content
  | some .directory => throw .isDirectory
  | none => throw .missing

def isDirectory (d : Disk) (path : List Char) : Bool :=
  match d.place path with
  | .ok p => (d.node? p).any Node.isDirectory
  | .error _ => false

/-- The path that leads to a place from the outermost directory. -/
def pathOf (p : Place) : List Char := '/' :: ['/'].intercalate (p.map String.toList)

/-- The path of what is there, from the outermost directory. -/
def absolute (d : Disk) (path : List Char) : Except Fault (List Char) := do
  let p ← d.place path
  if (d.node? p).isNone then throw .missing
  return pathOf p

/-- A new directory. -/
def makeDirectory (d : Disk) (path : List Char) : Except Fault Disk := do
  let names ← partsOf path
  let names := (names.reverse.dropWhile List.isEmpty).reverse
  match names.getLast? with
  | none => throw .taken
  | some name =>
    let p ← d.walk (names.dropLast ++ [[]])
    let q ← enter p name
    if (d.node? q).isSome then throw .taken
    return d.put q .directory

/-- A name for a spare file. -/
def spareName (n : Nat) : String := ".tmp" ++ toString n

/-- A new empty file where nothing is. -/
def create (d : Disk) (path : List Char) : Except Fault Disk := do
  let p ← d.place path
  if (d.node? p).isSome then throw .taken
  return d.put p (.file .empty)

/-- A new empty file in a directory, and its path. -/
def spare (d : Disk) (directory : List Char) : Except Fault (List Char × Disk) := do
  let p ← d.place (join directory ['.'])
  d.directoryAt p
  match (List.range (d.nodes.length + 1)).find? fun n => (d.node? (p ++ [spareName n])).isNone with
  | some n =>
    let path := join directory (spareName n).toList
    return (path, ← d.create path)
  | none => throw .taken

/-- A new content for a file that is there. -/
def write (d : Disk) (path : List Char) (content : ByteArray) : Except Fault Disk := do
  let p ← d.place path
  match d.node? p with
  | some (.file _) => return d.put p (.file content)
  | some .directory => throw .isDirectory
  | none => throw .missing

/-- A file takes the place of another one. -/
def rename (d : Disk) (source target : List Char) : Except Fault Disk := do
  let p ← d.place source
  match d.node? p with
  | some (.file content) =>
    let q ← d.place target
    if (d.node? q).any Node.isDirectory then throw .isDirectory
    return (d.erase p).put q (.file content)
  | some .directory => throw .isDirectory
  | none => throw .missing

/-- A disk without a file. -/
def remove (d : Disk) (path : List Char) : Except Fault Disk := do
  let p ← d.place path
  match d.node? p with
  | some (.file _) => return d.erase p
  | some .directory => throw .isDirectory
  | none => throw .missing

/-- An operation that looks at a disk. -/
def asking {α : Type} (f : Disk → Except Fault α) : ExceptT Fault (StateM Disk) α :=
  fun d => (f d, d)

/-- An operation that changes a disk, or leaves it as it was. -/
def changing (f : Disk → Except Fault Disk) : ExceptT Fault (StateM Disk) Unit :=
  fun d =>
    match f d with
    | .ok e => (.ok (), e)
    | .error fault => (.error fault, d)

/-- What may be done with the files of a disk. -/
def operations : Operations (StateM Disk) where
  read path := asking (·.read path)
  isDirectory path := fun d => (d.isDirectory path, d)
  absolute path := asking (·.absolute path)
  makeDirectory path := changing (·.makeDirectory path)
  spare directory := fun d =>
    match d.spare directory with
    | .ok (path, e) => (.ok path, e)
    | .error fault => (.error fault, d)
  write path content := changing (·.write path content)
  rename source target := changing (·.rename source target)
  remove path := changing (·.remove path)

/-! ### Contents -/

/-- A disk with a file and the directories around it. -/
def withFile (d : Disk) (path : List Char) (content : ByteArray) : Disk :=
  let d := (Disk.operations.makeDirectories ((parent? path).getD []) d).2
  match d.place path with
  | .ok p => d.put p (.file content)
  | .error _ => d

/-- The files of a disk that are new or changed since an earlier one, each with its place after where
relative paths begin. -/
def changedFiles (d earlier : Disk) : List (Place × ByteArray) :=
  d.nodes.filterMap fun e =>
    match e.2 with
    | .file content =>
      if (earlier.node? e.1).any (Node.isFileWith content) then none
      else some (e.1.drop d.start.length, content)
    | .directory => none

end Disk
end Files
end ScopeLexer
