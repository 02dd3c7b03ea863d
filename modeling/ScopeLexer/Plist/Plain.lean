/-
# The older form of property lists

Lists stand in parentheses and maps in braces; marks of punctuation between values only separate them.
Texts may stand without quotes, and are whole numbers if they are written as such.

Key definitions: `plainParts`.
-/
import ScopeLexer.Plist.Element

namespace ScopeLexer
namespace Plist

/-- A character that ends a text without quotes. -/
def endsWord (c : Char) : Bool :=
  c == ' ' || c == ')' || c == '\r' || c == '\t' || c == '\n' || c == ';' || c == ','

/-- A mark that only separates values. -/
def isSeparator (c : Char) : Bool :=
  c == ',' || c == ';' || c == '=' || c == ' ' || c == '\r' || c == '\t' || c == '\n'

/-- The character after a backslash stands for itself, or for a control character. -/
def plainEscape (c : Char) : Char :=
  match c with
  | 'a' => '\x07'
  | 'b' => '\x08'
  | 'f' => '\x0c'
  | 'n' => '\n'
  | 'r' => '\r'
  | 't' => '\t'
  | 'v' => '\x0b'
  | c => c

/-- A text up to a quote, where `text` has been read, last character first, and the rest. -/
def plainQuoted (quote : Char) : List Char → List Char → Option (List Char × List Char)
  | _, [] => none
  | text, '\\' :: c :: cs => plainQuoted quote (plainEscape c :: text) cs
  | text, c :: cs => if c = quote then some (text.reverse, cs) else plainQuoted quote (c :: text) cs

/-- A text without quotes. -/
def plainWord (cs : List Char) : Scalar :=
  match wholeOf? cs with
  | some n => .whole n
  | none => .text (String.ofList cs)

/-- The parts of a value. -/
def plainParts : Nat → List Char → List Part
  | 0, _ => [.fault]
  | _ + 1, [] => []
  | fuel + 1, c :: cs =>
    if isSeparator c then plainParts fuel cs
    else
      match c, cs with
      | '(', cs => .list :: plainParts fuel cs
      | '\x7b', cs => .map :: plainParts fuel cs
      | ')', cs => .stop :: plainParts fuel cs
      | '\x7d', cs => .stop :: plainParts fuel cs
      | '/', '/' :: cs => plainParts fuel (cs.dropWhile (· != '\n'))
      | '/', '*' :: cs =>
        match after? ['*', '/'] cs with
        | some rest => plainParts fuel rest
        | none => [.fault]
      | c, cs =>
        if c = '"' ∨ c = '\'' then
          match plainQuoted c [] cs with
          | some (text, rest) => .scalar (.text (String.ofList text)) :: plainParts fuel rest
          | none => [.fault]
        else
          let word := c :: cs.takeWhile fun c => !endsWord c
          .scalar (plainWord word) :: plainParts fuel (cs.dropWhile fun c => !endsWord c)

/-- Whether a text has to be read in the older form: nothing of it can be read as elements. -/
def isPlain (ms : List Markup) : Bool :=
  match elements none ms with
  | .fault :: _ => !ms.contains .prolog
  | _ => false

/-- The value that a text holds. -/
def readDocument (cs : List Char) : Document Scalar :=
  let ms := markup cs
  if isPlain ms then treeOf (plainParts (cs.length + 1) cs) else treeOf (elements none ms)

end Plist
end ScopeLexer
