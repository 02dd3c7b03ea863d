/-
# Why a pattern is refused

The causes for which a regular expression is not accepted, and their wording. A name quoted in a
message is cut after thirty bytes; a cut inside a character spoils the whole message.

Key definitions: `Error`, `Error.message`.
-/
import ScopeLexer.Text.Offset

namespace ScopeLexer
namespace Regex

/-- A cause for refusing a pattern. -/
inductive Error where
  | nesting
  | endAtEscape
  | endAtMeta
  | endAtControl
  | metaForm
  | controlForm
  | endInGroup
  | unclosedGroup
  | unopenedGroup
  | unknownGroupOption
  | misplacedGroupOption
  | optionConflict
  | emptyBracket
  | unclosedBracket
  | emptyRange
  | classEndsRange
  | strayRange
  | unknownBracketName
  | repeatNothing
  | repeatPosition
  | repeatTooMany
  | tooBigNumber
  | tooFewDigits
  | tooLongCode
  | tooBigCode
  | invalidCode
  | shortBytes
  | invalidReference
  | numberedReference
  | emptyGroupName
  | invalidGroupName (name : List Char)
  | invalidGroupNameChar (name : List Char)
  | unknownName (name : List Char)
  | unknownGroup (name : List Char)
  | ambiguousCall (name : List Char)
  | unknownProperty (name : List Char)
  | endlessRecursion
  | lookBehind
  | conditionForm
  | calloutForm
  | calloutName
  | unknownCallout
  | calloutTag
  | calloutArgument
  | tooManyGroups
  deriving Inhabited, Repr, DecidableEq

namespace Error

/-- The most bytes of a name that a message quotes. -/
def quotedWidth : Nat := 30

/-- A name as a message quotes it; none if the cut falls inside a character. -/
def quote? (name : List Char) : Option String :=
  if Text.width name ≤ quotedWidth then some (String.ofList name)
  else (Text.takeBytes? name quotedWidth).map fun cut => String.ofList cut ++ "..."

/-- The wording of a cause, around a name if it has one. -/
def wording : Error → String × Option (List Char) × String
  | nesting => ("parse depth limit over", none, "")
  | endAtEscape => ("end pattern at escape", none, "")
  | endAtMeta => ("end pattern at meta", none, "")
  | endAtControl => ("end pattern at control", none, "")
  | metaForm => ("invalid meta-code syntax", none, "")
  | controlForm => ("invalid control-code syntax", none, "")
  | endInGroup => ("end pattern in group", none, "")
  | unclosedGroup => ("end pattern with unmatched parenthesis", none, "")
  | unopenedGroup => ("unmatched close parenthesis", none, "")
  | unknownGroupOption => ("undefined group option", none, "")
  | misplacedGroupOption => ("invalid group option", none, "")
  | optionConflict => ("invalid combination of options", none, "")
  | emptyBracket => ("empty char-class", none, "")
  | unclosedBracket => ("premature end of char-class", none, "")
  | emptyRange => ("empty range in char class", none, "")
  | classEndsRange => ("char-class value at end of range", none, "")
  | strayRange => ("unmatched range specifier in char-class", none, "")
  | unknownBracketName => ("invalid POSIX bracket type", none, "")
  | repeatNothing => ("target of repeat operator is not specified", none, "")
  | repeatPosition => ("target of repeat operator is invalid", none, "")
  | repeatTooMany => ("too big number for repeat range", none, "")
  | tooBigNumber => ("too big number", none, "")
  | tooFewDigits => ("too short digits", none, "")
  | tooLongCode => ("too long wide-char value", none, "")
  | tooBigCode => ("too big wide-char value", none, "")
  | invalidCode => ("invalid code point value", none, "")
  | shortBytes => ("too short multibyte string", none, "")
  | invalidReference => ("invalid backref number/name", none, "")
  | numberedReference => ("numbered backref/call is not allowed. (use name)", none, "")
  | emptyGroupName => ("group name is empty", none, "")
  | invalidGroupName n => ("invalid group name <", some n, ">")
  | invalidGroupNameChar n => ("invalid char in group name <", some n, ">")
  | unknownName n => ("undefined name <", some n, "> reference")
  | unknownGroup n => ("undefined group <", some n, "> reference")
  | ambiguousCall n => ("multiplex definition name <", some n, "> call")
  | unknownProperty n => ("invalid character property name \x7b", some n, "\x7d")
  | endlessRecursion => ("never ending recursion", none, "")
  | lookBehind => ("invalid pattern in look-behind", none, "")
  | conditionForm => ("invalid if-else syntax", none, "")
  | calloutForm => ("invalid callout pattern", none, "")
  | calloutName => ("invalid callout name", none, "")
  | unknownCallout => ("undefined callout name", none, "")
  | calloutTag => ("invalid callout tag name", none, "")
  | calloutArgument => ("invalid callout arg", none, "")
  | tooManyGroups => ("too many captures", none, "")

/-- The message that tells a cause. -/
def message (e : Error) : String :=
  match e.wording with
  | (head, none, _) => "Oniguruma error: " ++ head
  | (head, some name, tail) =>
    match quote? name with
    | some quoted => "Oniguruma error: " ++ head ++ quoted ++ tail
    | none => "error: Onig error string was invalid UTF-8"

end Error
end Regex
end ScopeLexer
