/-
# The program

The command line over the files of the system.

Key definitions: `systemFiles`, `main`.
-/
import ScopeLexer.CommandLine

namespace ScopeLexer

open Files (Fault Operations)

/-- The number that the system gives to an error. -/
def codeOf : IO.Error → Nat
  | .alreadyExists _ code _ | .noFileOrDirectory _ code _ | .invalidArgument _ code _
  | .permissionDenied _ code _ | .resourceExhausted _ code _ | .inappropriateType _ code _
  | .noSuchThing _ code _ | .interrupted _ code _ => code.toNat
  | .otherError code _ | .resourceBusy code _ | .resourceVanished code _
  | .unsupportedOperation code _ | .hardwareFault code _ | .unsatisfiedConstraints code _
  | .illegalOperation code _ | .protocolError code _ | .timeExpired code _ => code.toNat
  | .unexpectedEof | .userError _ => 0

/-- What is wrong with a file. -/
def faultOf (e : IO.Error) : Fault :=
  match codeOf e with
  | 2 => .missing
  | 17 => .taken
  | 20 => .notDirectory
  | 21 => .isDirectory
  | 36 => .nameTooLong
  | _ => .other e.toString

/-- An action whose errors are faults of files. -/
def attempt {α : Type} (action : IO α) : ExceptT Fault IO α := do
  match ← ExceptT.lift action.toBaseIO with
  | .ok a => return a
  | .error e => throw (faultOf e)

/-- Whether a path leads to a directory: only then is the directory it leads to there. -/
def isDirectory (path : List Char) : IO Bool := do
  match ← (attempt (IO.FS.createDir (String.ofList (path ++ "/.".toList)))).run with
  | .error .taken => return true
  | _ => return false

/-- A new empty file under the first of some names that is free. -/
def spareFile (directory : List Char) : List Nat → ExceptT Fault IO (List Char)
  | [] => throw .taken
  | n :: rest => do
    let path := Files.join directory (".tmp" ++ toString n).toList
    try
      let _ ← attempt (IO.FS.Handle.mk (String.ofList path) .writeNew)
      return path
    catch f => if f = .taken then spareFile directory rest else throw f

/-- The files of the system. -/
def systemFiles : Operations IO where
  read path := attempt (IO.FS.readBinFile (String.ofList path))
  isDirectory := isDirectory
  absolute path := attempt do return (← IO.FS.realPath (String.ofList path)).toString.toList
  makeDirectory path := attempt (IO.FS.createDir (String.ofList path))
  spare directory := spareFile directory (List.range 1000)
  write path content := attempt (IO.FS.writeBinFile (String.ofList path) content)
  rename source target := attempt (IO.FS.rename (String.ofList source) (String.ofList target))
  remove path := attempt (IO.FS.removeFile (String.ofList path))

end ScopeLexer

def main (args : List String) : IO UInt32 := do
  let o ← ScopeLexer.CommandLine.respond ScopeLexer.systemFiles args
  IO.print o.output
  IO.eprint o.errors
  return o.exit.toUInt32
