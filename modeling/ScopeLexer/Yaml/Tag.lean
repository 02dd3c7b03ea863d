/-
# YAML tags, anchors and directives

A tag names the type of a value. It is written in full between angle brackets, or as a handle and a
suffix, where a directive may say what the handle stands for. A byte of a tag may be written as a percent
sign and two digits; it is kept as the character of that number.

Key definitions: `Tag`, `readTag`, `readAnchor`, `Directive`, `readDirective`.
-/
import ScopeLexer.Yaml.Scalar

namespace ScopeLexer
namespace Yaml

/-- A tag as it is written. A tag written in full has no handle. -/
structure Tag where
  handle : List Char
  suffix : List Char
  deriving Inhabited, Repr, DecidableEq

/-- A statement about a document. -/
inductive Directive where
  | version (major minor : Nat)
  | handle (handle start : List Char)
  deriving Inhabited, Repr, DecidableEq

/-! ### Addresses -/

/-- A character of addresses. -/
def isAddressChar (flow : Bool) (c : Char) : Bool :=
  isWord c || [';', '/', '?', ':', '@', '&', '=', '+', '$', '.', '%', '!', '~', '*', '\'', '(',
    ')'].contains c || (flow && (c == ',' || c == '[' || c == ']'))

/-- How many bytes the character has that begins with a byte. -/
def byteWidth? (byte : Nat) : Option Nat :=
  if byte < 0x80 then some 1
  else if 0xc0 ≤ byte && byte < 0xe0 then some 2
  else if 0xe0 ≤ byte && byte < 0xf0 then some 3
  else if 0xf0 ≤ byte && byte < 0xf8 then some 4
  else none

/-- The byte that an escape writes. -/
def escapedByte? : List Char → Option Nat
  | '%' :: cs => Text.hexValue? 2 0 cs
  | _ => none

/-- Bytes that go on with a character. -/
def readContinuation : Nat → Place → Option (List Char × Place)
  | 0, p => some ([], p)
  | n + 1, p =>
    match escapedByte? p.rest with
    | some byte =>
      if 0x80 ≤ byte && byte < 0xc0 then
        (readContinuation n (p.skip 3)).map fun r => (Char.ofNat byte :: r.1, r.2)
      else none
    | none => none

/-- A character written as bytes. -/
def readEscaped (p : Place) : Option (List Char × Place) :=
  match escapedByte? p.rest with
  | some byte =>
    match byteWidth? byte with
    | some width =>
      (readContinuation (width - 1) (p.skip 3)).map fun r => (Char.ofNat byte :: r.1, r.2)
    | none => none
  | none => none

/-- The characters of an address: `text` is what has been read, last character first. -/
def addressFrom (flow : Bool) : Nat → List Char → Place → Option (List Char × Place)
  | 0, text, p => some (text.reverse, p)
  | fuel + 1, text, p =>
    match p.rest with
    | c :: _ =>
      if !isAddressChar flow c then some (text.reverse, p)
      else if c = '%' then
        match readEscaped p with
        | some (cs, q) => addressFrom flow fuel (cs.reverse ++ text) q
        | none => none
      else addressFrom flow fuel (c :: text) (p.skip 1)
    | [] => some (text.reverse, p)

/-- An address. With `flow` it may hold the marks of flow lists. -/
def readAddress (flow : Bool) (p : Place) : Option (List Char × Place) :=
  addressFrom flow (p.bound + 1) [] p

/-! ### Tags -/

/-- An exclamation mark and what may follow it in a handle. -/
def readHandle (p : Place) : Option (List Char × Place) :=
  match p.rest with
  | '!' :: _ =>
    let (name, q) := (p.skip 1).take isWord
    match q.rest with
    | '!' :: _ => some ('!' :: name ++ ['!'], q.skip 1)
    | _ => some ('!' :: name, q)
  | _ => none

/-- Whether a handle has both its marks. -/
def isFullHandle (cs : List Char) : Bool := 2 ≤ cs.length && cs.getLast? == some '!'

/-- A tag written with or without a handle. -/
def readShortTag (p : Place) : Option (Tag × Place) :=
  match readHandle p with
  | none => none
  | some (handle, q) =>
    match readAddress false q with
    | none => none
    | some (suffix, q) =>
      if isFullHandle handle then if suffix.isEmpty then none else some (⟨handle, suffix⟩, q)
      else
        let suffix := handle.drop 1 ++ suffix
        if suffix.isEmpty then some (⟨[], ['!']⟩, q) else some (⟨['!'], suffix⟩, q)

/-- A tag, from its mark on. -/
def readTag (flow : Bool) (p : Place) : Option (Tag × Place) :=
  let found : Option (Tag × Place) := match p.rest with
    | '!' :: '<' :: _ =>
      match readAddress true (p.skip 2) with
      | some (suffix, q) =>
        match suffix, q.rest with
        | _ :: _, '>' :: _ => some (⟨[], suffix⟩, q.skip 1)
        | _, _ => none
      | none => none
    | _ => readShortTag p
  match found with
  | some (tag, q) =>
    if blankAhead q.rest || (flow && q.rest.head? == some ',') then some (tag, q) else none
  | none => none

/-! ### Anchors -/

/-- The name of an anchor or of an alias, from its mark on. -/
def readAnchor (p : Place) : Option (List Char × Place) :=
  let (name, q) := (p.skip 1).take isWord
  let ended := blankAhead q.rest || match q.rest with
    | c :: _ => ['?', ':', ',', ']', '\x7d', '%', '@', '\x60'].contains c
    | [] => true
  if name.isEmpty || !ended then none else some (name, q)

/-! ### Directives -/

/-- A number of at most nine digits. -/
def readVersionNumber (p : Place) : Option (Nat × Place) :=
  let (ds, q) := p.take Char.isDigit
  if ds.isEmpty || 9 < ds.length then none
  else some (ds.foldl (fun n d => 10 * n + (d.toNat - 48)) 0, q)

/-- The two numbers of a version. -/
def readVersion (p : Place) : Option (Directive × Place) := do
  let (major, p) ← readVersionNumber (p.skipAll isBlank)
  match p.rest with
  | '.' :: _ =>
    let (minor, p) ← readVersionNumber (p.skip 1)
    return (.version major minor, p)
  | _ => none

/-- A handle and what it stands for. -/
def readHandleDirective (p : Place) : Option (Directive × Place) := do
  let (handle, p) ← readHandle (p.skipAll isBlank)
  if handle ≠ ['!'] ∧ !isFullHandle handle then none
  else
    match p.rest with
    | c :: _ =>
      if isBlank c then do
        let (start, p) ← readAddress true (p.skipAll isBlank)
        if start.isEmpty || !blankAhead p.rest then none else return (.handle handle start, p)
      else none
    | [] => none

/-- A directive, from its mark to the end of the line. -/
def readDirective (p : Place) : Option (Directive × Place) := do
  let (name, p) := (p.skip 1).take isWord
  if !blankAhead p.rest then none
  else
    let (d, p) ← match String.ofList name with
      | "YAML" => readVersion p
      | "TAG" => readHandleDirective p
      | _ => none
    let p ← p.endOfLine?
    return (d, p)

end Yaml
end ScopeLexer
