/-
# YAML events

The tokens of a document are read as events: scalars, aliases, and the beginnings and ends of lists and
maps. What may come next is kept as a stack of goals; a step takes the first goal, looks at the tokens
ahead, and puts the goals in its place that are left. A value that is missing is an empty scalar.

Key definitions: `Event`, `Goal`, `step?`, `Stream.ofTokens`.
-/
import ScopeLexer.Yaml.Token

namespace ScopeLexer
namespace Yaml

/-- A scalar with its tag. -/
structure Scalar where
  text : String
  style : Style := .plain
  tag : Option (List Char) := none
  deriving Inhabited, Repr, DecidableEq

/-- An event. Scalars, lists and maps may have an anchor, to which an alias refers. -/
inductive Event (ν : Type) where
  | scalar (s : Scalar) (anchor : Option ν)
  | listStart (tag : Option (List Char)) (anchor : Option ν)
  | mapStart (tag : Option (List Char)) (anchor : Option ν)
  | stop
  | alias (anchor : ν)
  deriving Inhabited, Repr, DecidableEq

/-- A scalar that is not written. -/
def Event.empty {ν : Type} : Event ν := .scalar { text := "" } none

/-- The name of an anchor as it is written. -/
abbrev Name := List Char

/-- What may come next. -/
inductive Goal where
  /-- A value: whether it may be a block collection, and a list that is not indented. -/
  | node (block dashes : Bool)
  | blockItems | dashItems | blockKey | blockValue
  | flowItems (first : Bool)
  | flowKey (first : Bool)
  | flowValue
  /-- A map of one entry in a list. -/
  | pairKey | pairValue | pairEnd
  /-- A value that is not written. -/
  | nothing
  deriving Inhabited, Repr, DecidableEq

/-- The handles that stand for something. -/
abbrev Handles := List (List Char × List Char)

/-- The handles that always stand for something, where a document says nothing else. -/
def standardHandles : Handles :=
  [(['!'], ['!']), (['!', '!'], "tag:yaml.org,2002:".toList)]

/-- The name that a tag stands for. -/
def Tag.resolve? (handles : Handles) (t : Tag) : Option (List Char) :=
  if t.handle.isEmpty then some t.suffix
  else (handles.lookup t.handle).map (· ++ t.suffix)

/-- The anchor and the tag of a value, in any order, and the tokens after them. -/
def properties : List Token → Option Name × Option Tag × List Token
  | .anchor a :: .tag t :: rest => (some a, some t, rest)
  | .anchor a :: rest => (some a, none, rest)
  | .tag t :: .anchor a :: rest => (some a, some t, rest)
  | .tag t :: rest => (none, some t, rest)
  | rest => (none, none, rest)

/-- An event, the goals that take the place of one, and the tokens that are left. -/
abbrev Step := List (Event Name) × List Goal × List Token

/-- A value with an anchor and a tag. -/
def nodeStep? (block dashes : Bool) (anchor : Option Name) (tag : Option (List Char)) :
    List Token → Option Step
  | .entry :: rest =>
    if dashes then some ([.listStart tag anchor], [.dashItems], .entry :: rest)
    else if anchor.isSome || tag.isSome then
      some ([.scalar ⟨"", .plain, tag⟩ anchor], [], .entry :: rest)
    else none
  | .scalar text style :: rest =>
    let tag := if tag = some ['!'] then none else tag
    some ([.scalar ⟨String.ofList text, style, tag⟩ anchor], [], rest)
  | .flowSequence :: rest => some ([.listStart tag anchor], [.flowItems true], rest)
  | .flowMapping :: rest => some ([.mapStart tag anchor], [.flowKey true], rest)
  | t :: rest =>
    if block && t == .blockSequence then some ([.listStart tag anchor], [.blockItems], rest)
    else if block && t == .blockMapping then some ([.mapStart tag anchor], [.blockKey], rest)
    else if anchor.isSome || tag.isSome then
      some ([.scalar ⟨"", .plain, tag⟩ anchor], [], t :: rest)
    else none
  | [] => none

/-- A value, or an empty scalar if one of some tokens is next. -/
def valueOr? (stops : List Token) (node next : Goal) : List Token → Option Step
  | [] => none
  | t :: rest =>
    if stops.contains t then some ([.empty], [next], t :: rest)
    else some ([], [node, next], t :: rest)

/-- The step that a goal asks for, with the tokens ahead. -/
def step? (handles : Handles) (goal : Goal) (ts : List Token) : Option Step :=
  match goal with
  | .nothing => if ts.isEmpty then none else some ([.empty], [], ts)
  | .node block dashes =>
    match ts with
    | .alias name :: rest => some ([.alias name], [], rest)
    | _ =>
      match properties ts with
      | (anchor, none, rest) => nodeStep? block dashes anchor none rest
      | (anchor, some t, rest) =>
        match rest, t.resolve? handles with
        | _ :: _, some name => nodeStep? block dashes anchor (some name) rest
        | _, _ => none
  | .blockItems =>
    match ts with
    | .entry :: rest => valueOr? [.entry, .blockEnd] (.node true false) .blockItems rest
    | .blockEnd :: rest => some ([.stop], [], rest)
    | _ => none
  | .dashItems =>
    match ts with
    | .entry :: rest =>
      valueOr? [.entry, .key, .value, .blockEnd] (.node true false) .dashItems rest
    | _ :: _ => some ([.stop], [], ts)
    | [] => none
  | .blockKey =>
    match ts with
    | .key :: rest => valueOr? [.key, .value, .blockEnd] (.node true true) .blockValue rest
    | .blockEnd :: rest => some ([.stop], [], rest)
    | _ => none
  | .blockValue =>
    match ts with
    | .value :: rest => valueOr? [.key, .value, .blockEnd] (.node true true) .blockKey rest
    | _ :: _ => some ([.empty], [.blockKey], ts)
    | [] => none
  | .flowItems first =>
    match ts with
    | .flowSequenceEnd :: rest => some ([.stop], [], rest)
    | _ =>
      let rest? := match first, ts with
        | true, ts => some ts
        | false, .separator :: rest => some rest
        | false, _ => none
      match rest? with
      | some (.key :: rest) => some ([.mapStart none none], [.pairKey, .flowItems false], rest)
      | some (.flowSequenceEnd :: rest) => some ([.stop], [], rest)
      | some (t :: rest) => some ([], [.node false false, .flowItems false], t :: rest)
      | _ => none
  | .pairKey =>
    match ts with
    | .value :: rest => some ([.empty], [.pairValue], rest)
    | .separator :: rest => some ([.empty], [.pairValue], rest)
    | .flowSequenceEnd :: rest => some ([.empty], [.pairValue], rest)
    | _ :: _ => some ([], [.node false false, .pairValue], ts)
    | [] => none
  | .pairValue =>
    match ts with
    | .value :: rest =>
      valueOr? [.separator, .flowSequenceEnd] (.node false false) .pairEnd rest
    | _ :: _ => some ([.empty], [.pairEnd], ts)
    | [] => none
  | .pairEnd => some ([.stop], [], ts)
  | .flowKey first =>
    match ts with
    | .flowMappingEnd :: rest => some ([.stop], [], rest)
    | _ =>
      let rest? := match first, ts with
        | true, ts => some ts
        | false, .separator :: rest => some rest
        | false, _ => none
      match rest? with
      | some (.key :: rest) =>
        valueOr? [.value, .separator, .flowMappingEnd] (.node false false) .flowValue rest
      | some (.flowMappingEnd :: rest) => some ([.stop], [], rest)
      | some (t :: rest) =>
        some ([], [.node false false, .nothing, .flowKey false], t :: rest)
      | _ => none
  | .flowValue =>
    match ts with
    | .value :: rest =>
      valueOr? [.separator, .flowMappingEnd] (.node false false) (.flowKey false) rest
    | _ :: _ => some ([.empty], [.flowKey false], ts)
    | [] => none

/-- The events that goals come to, last one first, and the tokens after them if the goals are met. -/
def run (handles : Handles) :
    Nat → List (Event Name) → List Goal → List Token → List (Event Name) × Option (List Token)
  | 0, done, _, _ => (done, none)
  | _ + 1, done, [], ts => (done, some ts)
  | fuel + 1, done, goal :: goals, ts =>
    match step? handles goal ts with
    | some (events, more, ts) => run handles fuel (events ++ done) (more ++ goals) ts
    | none => (done, none)

/-! ### Documents -/

/-- The handles that directives give, and the tokens after them. -/
def readDirectives (version : Bool) (handles : Handles) :
    List Token → Option (Handles × List Token)
  | .directive (.version major minor) :: rest =>
    if version || major ≠ 1 || (minor ≠ 1 && minor ≠ 2) then none
    else readDirectives true handles rest
  | .directive (.handle handle start) :: rest =>
    if (handles.lookup handle).isSome then none
    else readDirectives version ((handle, start) :: handles) rest
  | ts => some (handles ++ standardHandles, ts)

/-- Whether a token begins or ends a document, or a statement about one. -/
def Token.isBoundary : Token → Bool
  | directive _ | documentStart | documentEnd | streamEnd => true
  | _ => false

/-- The events of a text of one document, and whether the text is well formed and has no other one. -/
structure Stream where
  events : List (Event Name)
  whole : Bool
  deriving Inhabited, Repr

/-- Whether nothing follows a document. -/
def endsStream : List Token → Bool
  | .documentEnd :: rest => endsStream rest
  | [.streamEnd] => true
  | _ => false

/-- The events of a document that begins with some tokens. -/
def Stream.ofContent (handles : Handles) (ts : List Token) : Stream :=
  let r := run handles (8 * ts.length + 8) [] [.node true false] ts
  { events := r.1.reverse
    whole := match r.2 with
      | some ts => endsStream ts
      | none => false }

/-- The events of some tokens. -/
def Stream.ofTokens : List Token → Stream
  | [.streamEnd] => ⟨[.empty], true⟩
  | ts =>
    let explicit := match ts with
      | .directive _ :: _ => true
      | .documentStart :: _ => true
      | _ => false
    if explicit then
      match readDirectives false [] ts with
      | some (handles, .documentStart :: t :: rest) =>
        if t.isBoundary then ⟨[.empty], endsStream (t :: rest)⟩
        else .ofContent handles (t :: rest)
      | _ => ⟨[], false⟩
    else .ofContent standardHandles ts

end Yaml
end ScopeLexer
