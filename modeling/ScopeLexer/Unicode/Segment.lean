/-
# Text segments

Where a text may be cut into what a reader takes for characters (extended grapheme clusters), and
where into words. Both follow the rules of the annex on text segmentation, in the order in which the
annex numbers them. A position is given by the text before it, last character first, and the text
after it.

Key definitions: `clusterBreak`, `wordBreak`.
-/
import ScopeLexer.Unicode.GraphemeData
import ScopeLexer.Unicode.Property
import ScopeLexer.Unicode.WordBreakData

namespace ScopeLexer
namespace Unicode

/-- The classes of a standard list, each with its table. -/
abbrev BreakClasses := List (String × RangeTable)

def BreakClasses.ofData (data : List (List String × String)) : BreakClasses :=
  data.filterMap fun entry => entry.1.head?.map fun name => (name, RangeTable.read entry.2)

def clusterClasses : BreakClasses := BreakClasses.ofData graphemeBreaks
def wordClasses : BreakClasses := BreakClasses.ofData wordBreaks

/-- The class of a character; `other` if no table holds it. -/
def BreakClasses.classOf (cs : BreakClasses) (c : Char) : String :=
  match cs.find? fun entry => entry.2.contains c.toNat with
  | some entry => entry.1
  | none => "other"

def pictographicTable : RangeTable :=
  (rangesNamed? binaryProperties "extendedpictographic").getD ⟨#[]⟩

def isPictographic (c : Char) : Bool := pictographicTable.contains c.toNat

/-! ### Extended grapheme clusters -/

def clusterClass (c : Char) : String := clusterClasses.classOf c

def isHardBreak (k : String) : Bool := k == "control" || k == "cr" || k == "lf"

/-- The number of regional indicators at the head of a list. -/
def regionalRun (cs : List Char) : Nat :=
  (cs.takeWhile fun c => clusterClass c == "regionalindicator").length

/-- A pictograph, then extending characters, then a joiner, read from the end. -/
def endsPictographJoiner : List Char → Bool
  | [] => false
  | c :: cs =>
    clusterClass c == "zwj" &&
      match cs.dropWhile fun d => clusterClass d == "extend" with
      | [] => false
      | d :: _ => isPictographic d

/-- Whether a cluster ends between the two parts of a text. -/
def clusterBreak : List Char → List Char → Bool
  | [], _ => true
  | _, [] => true
  | a :: before, b :: _ =>
    let l := clusterClass a
    let r := clusterClass b
    if l == "cr" && r == "lf" then false
    else if isHardBreak l || isHardBreak r then true
    else if l == "l" && (r == "l" || r == "v" || r == "lv" || r == "lvt") then false
    else if (l == "lv" || l == "v") && (r == "v" || r == "t") then false
    else if (l == "lvt" || l == "t") && r == "t" then false
    else if r == "extend" || r == "zwj" || r == "spacingmark" then false
    else if l == "prepend" then false
    else if isPictographic b && endsPictographJoiner (a :: before) then false
    else if l == "regionalindicator" && r == "regionalindicator" then
      regionalRun (a :: before) % 2 == 0
    else true

/-! ### Words -/

def wordClass (c : Char) : String := wordClasses.classOf c

def isWordHard (k : String) : Bool := k == "newline" || k == "cr" || k == "lf"
def isIgnored (k : String) : Bool := k == "extend" || k == "format" || k == "zwj"
def isLetterClass (k : String) : Bool := k == "aletter" || k == "hebrewletter"
def isMidLetterOrQuote (k : String) : Bool :=
  k == "midletter" || k == "midnumlet" || k == "singlequote"
def isMidNumberOrQuote (k : String) : Bool :=
  k == "midnum" || k == "midnumlet" || k == "singlequote"

/-- The classes of a text without the characters that word rules skip. -/
def significant (cs : List Char) : List String :=
  (cs.map wordClass).filter fun k => !isIgnored k

/-- Whether a word ends between the two parts of a text. -/
def wordBreak : List Char → List Char → Bool
  | [], _ => true
  | _, [] => true
  | a :: before, b :: after =>
    let l := wordClass a
    let r := wordClass b
    if l == "cr" && r == "lf" then false
    else if isWordHard l || isWordHard r then true
    else if l == "zwj" && isPictographic b then false
    else if l == "wsegspace" && r == "wsegspace" then false
    else if isIgnored r then false
    else
      let ls := significant (a :: before)
      let next := (significant after).headD "other"
      let l := ls.headD "other"
      let prev := ls.tail.headD "other"
      if isLetterClass l && isLetterClass r then false
      else if isLetterClass l && isMidLetterOrQuote r && isLetterClass next then false
      else if isMidLetterOrQuote l && isLetterClass prev && isLetterClass r then false
      else if l == "hebrewletter" && r == "singlequote" then false
      else if l == "hebrewletter" && r == "doublequote" && next == "hebrewletter" then false
      else if l == "doublequote" && prev == "hebrewletter" && r == "hebrewletter" then false
      else if l == "numeric" && r == "numeric" then false
      else if isLetterClass l && r == "numeric" then false
      else if l == "numeric" && isLetterClass r then false
      else if isMidNumberOrQuote l && prev == "numeric" && r == "numeric" then false
      else if l == "numeric" && isMidNumberOrQuote r && next == "numeric" then false
      else if l == "katakana" && r == "katakana" then false
      else if (isLetterClass l || l == "numeric" || l == "katakana" || l == "extendnumlet") &&
          r == "extendnumlet" then false
      else if l == "extendnumlet" && (isLetterClass r || r == "numeric" || r == "katakana") then
        false
      else if l == "regionalindicator" && r == "regionalindicator" then
        (ls.takeWhile (· == "regionalindicator")).length % 2 == 0
      else true

end Unicode
end ScopeLexer
