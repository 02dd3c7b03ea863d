/-
# Named sets of characters

A property expression names a set of code points: a general category or a group of them, a script, a
block, an age, a binary property, or one of the classic classes such as `word`. Names are compared
without case, blanks, hyphens and underscores. The classic classes follow the annex on regular
expressions: letters and digits are those of the whole standard, not of its first block.

Key definitions: `Category.table`, `wordTable`, `punctTable`, `propertyNamed?`.
-/
import ScopeLexer.Unicode.AgeData
import ScopeLexer.Unicode.BlockData
import ScopeLexer.Unicode.Category
import ScopeLexer.Unicode.LetterData
import ScopeLexer.Unicode.PropertyData
import ScopeLexer.Unicode.ScriptData

namespace ScopeLexer
namespace Unicode

/-- The code points of a category. -/
def Category.table (c : Category) : RangeTable := RangeTable.read c.ranges

/-- The code points of several categories. -/
def categoriesTable (cs : List Category) : RangeTable := RangeTable.union (cs.map Category.table)

open Category in
/-- The names of the general categories and of the groups of them, with the categories they stand
for. -/
def categoryNames : List (List String × List Category) := [
  (["c", "other"], [cc, cf, cn, co, cs]),
  (["cc", "control"], [cc]),
  (["cf", "format"], [cf]),
  (["cn", "unassigned"], [cn]),
  (["co", "privateuse"], [co]),
  (["cs", "surrogate"], [cs]),
  (["l", "letter"], [ll, lm, lo, lt, lu]),
  (["lc", "casedletter"], [ll, lt, lu]),
  (["ll", "lowercaseletter"], [ll]),
  (["lm", "modifierletter"], [lm]),
  (["lo", "otherletter"], [lo]),
  (["lt", "titlecaseletter"], [lt]),
  (["lu", "uppercaseletter"], [lu]),
  (["m", "mark", "combiningmark"], [mc, me, mn]),
  (["mc", "spacingmark"], [mc]),
  (["me", "enclosingmark"], [me]),
  (["mn", "nonspacingmark"], [mn]),
  (["n", "number"], [nd, nl, no]),
  (["nd", "decimalnumber"], [nd]),
  (["nl", "letternumber"], [nl]),
  (["no", "othernumber"], [no]),
  (["p", "punctuation", "punct"], [pc, pd, pe, pf, pi, po, ps]),
  (["pc", "connectorpunctuation"], [pc]),
  (["pd", "dashpunctuation"], [pd]),
  (["pe", "closepunctuation"], [pe]),
  (["pf", "finalpunctuation"], [pf]),
  (["pi", "initialpunctuation"], [pi]),
  (["po", "otherpunctuation"], [po]),
  (["ps", "openpunctuation"], [ps]),
  (["s", "symbol"], [sc, sk, sm, so]),
  (["sc", "currencysymbol"], [sc]),
  (["sk", "modifiersymbol"], [sk]),
  (["sm", "mathsymbol"], [sm]),
  (["so", "othersymbol"], [so]),
  (["z", "separator"], [zl, zp, zs]),
  (["zl", "lineseparator"], [zl]),
  (["zp", "paragraphseparator"], [zp]),
  (["zs", "spaceseparator"], [zs]),
  (["assigned"], [cc, cf, co, cs, ll, lm, lo, lt, lu, mc, me, mn, nd, nl, no, pc, pd, pe, pf, pi, po,
    ps, sc, sk, sm, so, zl, zp, zs])]

def alphabeticTable : RangeTable := RangeTable.read alphabeticRanges
def uppercaseTable : RangeTable := RangeTable.read uppercaseRanges
def lowercaseTable : RangeTable := RangeTable.read lowercaseRanges
def digitTable : RangeTable := Category.nd.table
def controlTable : RangeTable := Category.cc.table

/-- The white space of the standard. -/
def spaceTable : RangeTable :=
  RangeTable.read "9-D 20 85 A0 1680 2000-200A 2028-2029 202F 205F 3000"

/-- Blanks separate words within a line. -/
def blankTable : RangeTable := RangeTable.union [RangeTable.read "9", Category.zs.table]

/-- Letters and decimal digits. -/
def alnumTable : RangeTable := RangeTable.union [alphabeticTable, digitTable]

/-- The characters of words: letters, marks, decimal digits and connecting punctuation. -/
def wordTable : RangeTable :=
  RangeTable.union [alphabeticTable, categoriesTable [.mc, .me, .mn, .nd, .pc]]

/-- Everything assigned that leaves a mark: no white space, control or surrogate. -/
def graphTable : RangeTable :=
  categoriesTable [.cf, .co, .ll, .lm, .lo, .lt, .lu, .mc, .me, .mn, .nd, .nl, .no, .pc, .pd, .pe,
    .pf, .pi, .po, .ps, .sc, .sk, .sm, .so]

/-- The graphic characters and the space separators. -/
def printTable : RangeTable := RangeTable.union [graphTable, Category.zs.table]

/-- Punctuation, and the symbols among the first 128 code points. -/
def punctTable : RangeTable :=
  RangeTable.union [categoriesTable [.pc, .pd, .pe, .pf, .pi, .po, .ps],
    RangeTable.read "24 2B 3C-3E 5E 60 7C 7E"]

def hexDigitTable : RangeTable := RangeTable.read "30-39 41-46 61-66"
def asciiTable : RangeTable := RangeTable.read "0-7F"

/-- Classes that are known by a name of their own. -/
def namedClasses : List (List String × RangeTable) := [
  (["any"], RangeTable.read "0-10FFFF"),
  (["ascii"], asciiTable),
  (["newline"], RangeTable.read "A"),
  (["alpha", "alphabetic"], alphabeticTable),
  (["upper", "uppercase"], uppercaseTable),
  (["lower", "lowercase"], lowercaseTable),
  (["digit"], digitTable),
  (["cntrl"], controlTable),
  (["space", "whitespace", "wspace"], spaceTable),
  (["blank"], blankTable),
  (["alnum"], alnumTable),
  (["word"], wordTable),
  (["graph"], graphTable),
  (["print"], printTable),
  (["posixpunct", "xposixpunct"], punctTable),
  (["xdigit"], hexDigitTable)]

/-- The ranges listed under a name. -/
def rangesNamed? (lists : List (List String × String)) (name : String) : Option RangeTable :=
  (lists.find? fun entry => entry.1.contains name).map fun entry => RangeTable.read entry.2

/-- The code points that had been added by an age: those of its version and of all before it. -/
def ageNamed? (name : String) : Option RangeTable :=
  if ages.any (fun entry => entry.1.contains name) then
    let older := ages.takeWhile fun entry => !entry.1.contains name
    some (RangeTable.union
      ((rangesNamed? ages name).toList ++ older.map fun entry => RangeTable.read entry.2))
  else none

/-- A property name without the characters that do not count. -/
def normalName (name : List Char) : String :=
  String.ofList ((name.filter fun c => c ≠ ' ' ∧ c ≠ '-' ∧ c ≠ '_').map Char.toLower)

/-- The set that a property expression names. -/
def propertyNamed? (name : List Char) : Option RangeTable :=
  if name.any fun c => 0x80 ≤ c.toNat then none
  else
    let key := normalName name
    match namedClasses.find? fun entry => entry.1.contains key with
    | some entry => some entry.2
    | none =>
      match categoryNames.find? fun entry => entry.1.contains key with
      | some entry => some (categoriesTable entry.2)
      | none =>
        (rangesNamed? scripts key).orElse fun _ =>
          (rangesNamed? binaryProperties key).orElse fun _ =>
            (rangesNamed? blocks key).orElse fun _ => ageNamed? key

end Unicode
end ScopeLexer
