/-
# Searching a text

A program is tried at each position of a text from a given one on, and the first match found is the
leftmost. The whole text is in view, so that a look-behind sees what is before the first position. A
bound on the work at one position may be set; a search that meets it finds nothing.

Key definitions: `Captures`, `Program.searchAt`.
-/
import ScopeLexer.Regex.Matcher
import ScopeLexer.Text.Offset

namespace ScopeLexer
namespace Regex

/-- Byte spans of the groups of a match; the first one is the whole match. A group that took no part
has none. -/
abbrev Captures := List (Option (Nat × Nat))

/-- The span of a slot. -/
def Slot.span (s : Slot) : Option (Nat × Nat) :=
  match s with
  | { start := some start, stop := some stop } => some (start.offset, stop)
  | _ => none

/-- The captures of a match that was tried at an offset. A match that is said to begin behind its end, as
one with a look ahead may be, begins at its end. -/
def State.captures (s : State) (start : Nat) : Captures :=
  some (min (s.keep.getD start) s.cursor.offset, s.cursor.offset) ::
    (s.slots.toList.drop 1).map Slot.span

/-- The first match at one of the positions of a text from a cursor on; `start` is where the search
began. -/
def searchFrom (p : Program) (start : Nat) (limit : Option Nat) :
    List Char → Cursor → (skip : Nat) → Option Captures
  | after, c, skip =>
    let e : Effort := { bounded := limit.isSome, left := limit.getD 0, skip := skip }
    let next (skip : Nat) : Option Captures :=
      match after with
      | [] => none
      | d :: ds => searchFrom p start limit ds ⟨d :: c.before, c.offset + d.utf8Size, ds⟩ skip
    if c.offset < skip then next skip
    else
      match matchAt p start c e with
      | .matched s _ => some (s.captures c.offset)
      | .failed e => next e.skip
      | .gaveUp e => next e.skip
      | .aborted => none

/-- The cursor at a byte offset of a text; none where no character begins. -/
def Cursor.at? (cs : List Char) (offset : Nat) : Option Cursor :=
  match Text.takeBytes? cs offset, Text.dropBytes? cs offset with
  | some before, some after => some ⟨before.reverse, offset, after⟩
  | _, _ => none

/-- The leftmost match at or after a cursor. A `limit` of zero is none. -/
def Program.searchAt (p : Program) (c : Cursor) (limit : Option Nat) : Option Captures :=
  searchFrom p c.offset (limit.filter (· ≠ 0)) c.after c 0

end Regex
end ScopeLexer
