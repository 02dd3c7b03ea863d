/-
# Upper case, lower case and case folding

The full case mappings of the standard. A mapping takes a character to one or more characters; a
character without an entry is mapped to itself. Two characters are alike without case when their
foldings are equal. A capital sigma becomes a final sigma in lower case where it ends a word.

Key definitions: `foldOf`, `foldMates`, `lowerText`, `upperText`.
-/
import ScopeLexer.Unicode.CaseData
import ScopeLexer.Unicode.Property
import Std.Data.HashMap

namespace ScopeLexer
namespace Unicode

/-- A table of images of code points. -/
abbrev Mapping := Std.HashMap Nat (List Nat)

/-- What has been read of a mapping: the code point before the colon, the image so far, and the digits
that are being read. -/
structure MappingReading where
  done : Mapping := {}
  code : Option Nat := none
  image : List Nat := []
  digits : Option Nat := none

/-- The entry that is being read is complete. -/
def MappingReading.close (r : MappingReading) : MappingReading :=
  match r.code, r.digits with
  | some code, some last => { done := r.done.insert code ((last :: r.image).reverse) }
  | _, _ => { done := r.done }

/-- One more character of the text of a mapping. -/
def MappingReading.next (r : MappingReading) (c : Char) : MappingReading :=
  match Text.hexDigit? c with
  | some v => { r with digits := some (r.digits.getD 0 * 16 + v) }
  | none =>
    if c = ':' then { r with code := r.digits, digits := none }
    else if c = '+' then { r with image := r.digits.getD 0 :: r.image, digits := none }
    else r.close

/-- The mapping that a text of entries describes. -/
def readMapping (text : String) : Mapping :=
  (text.foldl MappingReading.next {}).close.done

def lowerMapping : Mapping := readMapping lowerMappings
def upperMapping : Mapping := readMapping upperMappings
def foldMapping : Mapping := readMapping foldMappings

/-- The image of a code point. -/
def Mapping.imageOf (m : Mapping) (n : Nat) : List Nat := (m.get? n).getD [n]

/-- The full case folding of a code point. -/
def foldOf (n : Nat) : List Nat := foldMapping.imageOf n

/-- The code points whose folding is a given one and not themselves. -/
def foldSources : Std.HashMap (List Nat) (List Nat) :=
  foldMapping.fold (fun acc code image => acc.insert image (code :: (acc.get? image).getD [])) {}

/-- The code points that are alike without case, the code point itself included. -/
def foldMates (n : Nat) : List Nat :=
  let image := foldOf n
  let sources := (foldSources.get? image).getD []
  let mates := match image with
    | [m] => if sources.contains m then sources else m :: sources
    | _ => sources
  if mates.contains n then mates else n :: mates

/-- The code points whose folding has several code points, with their foldings, in order. -/
def manyFolds : List (Nat × List Nat) :=
  (foldMapping.toList.filter fun entry => 1 < entry.2.length).mergeSort fun x y => x.1 ≤ y.1

/-- Case folding of the first 128 code points only. -/
def asciiFold (n : Nat) : Nat := if 0x41 ≤ n ∧ n ≤ 0x5A then n + 32 else n

def casedTable : RangeTable := (rangesNamed? binaryProperties "cased").getD ⟨#[]⟩
def caseIgnorableTable : RangeTable := (rangesNamed? binaryProperties "caseignorable").getD ⟨#[]⟩

/-- Whether the first character that case does not ignore has a case. -/
def startsCased (cs : List Char) : Bool :=
  match cs.dropWhile fun c => caseIgnorableTable.contains c.toNat with
  | [] => false
  | c :: _ => casedTable.contains c.toNat

/-- The lower case of a text, where `seen` is the text before, last character first. A capital sigma
after a cased letter and not before one is final. -/
def lowerFrom (seen : List Char) : List Char → List Char
  | [] => []
  | c :: cs =>
    (if c.toNat = 0x3A3 then
      [if startsCased seen && !startsCased cs then Char.ofNat 0x3C2 else Char.ofNat 0x3C3]
    else (lowerMapping.imageOf c.toNat).map Char.ofNat) ++ lowerFrom (c :: seen) cs

/-- A text in lower case. -/
def lowerText (cs : List Char) : List Char := lowerFrom [] cs

/-- A text in upper case. -/
def upperText (cs : List Char) : List Char :=
  cs.flatMap fun c => (upperMapping.imageOf c.toNat).map Char.ofNat

end Unicode
end ScopeLexer
