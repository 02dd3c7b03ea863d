/-
# Matching by backtracking

A node is matched at a cursor by trying its ways in order of preference; what follows the node is a
continuation, so that a way is taken back when what follows fails. Each way that is taken back costs a
step of the budget, and the search is given up when none is left. Nodes that commit (atomic groups,
look-around, conditions) are matched on their own and then not taken back.

Key definitions: `Cursor`, `State`, `Effort`, `Reply`, `run`, `matchAt`.
-/
import ScopeLexer.Regex.Program
import ScopeLexer.Unicode.Segment

namespace ScopeLexer
namespace Regex

/-- A position in a text: what is before it, last character first, its byte offset, and what is after
it. -/
structure Cursor where
  before : List Char
  offset : Nat
  after : List Char
  deriving Inhabited, Repr, DecidableEq

namespace Cursor

/-- Whether an offset is not beyond the limit. -/
def within (limit : Option Nat) (offset : Nat) : Bool :=
  match limit with
  | none => true
  | some n => offset ≤ n

/-- One character on, if there is one that satisfies `p` and ends no later than the limit. -/
def step? (p : Char → Bool) (limit : Option Nat) (c : Cursor) : Option Cursor :=
  match c.after with
  | [] => none
  | d :: ds =>
    if p d && within limit (c.offset + d.utf8Size) then
      some ⟨d :: c.before, c.offset + d.utf8Size, ds⟩
    else none

/-- The text before a cursor and the text after it. -/
def text (c : Cursor) : List Char := c.before.reverse ++ c.after

/-- A step changes no text. -/
theorem step?_text {p : Char → Bool} {limit : Option Nat} {c d : Cursor}
    (h : c.step? p limit = some d) : d.text = c.text := by
  unfold step? at h
  split at h
  · contradiction
  · rename_i e es he
    split at h
    · simp only [Option.some.injEq] at h
      subst h
      simp [text, he]
    · contradiction

end Cursor

/-- What a group has captured: where it was opened, and where it was closed last. -/
structure Slot where
  start : Option Cursor := none
  stop : Option Nat := none
  deriving Inhabited, Repr, DecidableEq

/-- Where a match stands. -/
structure State where
  cursor : Cursor
  slots : Array Slot
  /-- Where the match is said to begin, if not where it was tried. -/
  keep : Option Nat := none
  /-- Where the text is cut off by an absent range. -/
  limit : Option Nat := none
  /-- How often each directive with a counter has been passed. -/
  tallies : List (Nat × Nat) := []
  deriving Inhabited, Repr, DecidableEq

/-- What may still be spent: the number of ways that may be taken back, if there is a bound, and the
least offset at which the search may go on. -/
structure Effort where
  bounded : Bool
  left : Nat
  skip : Nat := 0
  deriving Inhabited, Repr, DecidableEq

/-- The effort after one more way is taken back; none if there is nothing left to spend. -/
def Effort.spend (e : Effort) : Option Effort :=
  if e.bounded then
    match e.left with
    | 0 => none
    | n + 1 => some { e with left := n }
  else some e

/-- How matching ends. -/
inductive Reply where
  | matched (s : State) (e : Effort)
  | failed (e : Effort)
  /-- No match at this start. -/
  | gaveUp (e : Effort)
  /-- No match at all. -/
  | aborted
  deriving Inhabited

/-- What follows a node. -/
abbrev Cont := State → Effort → Reply

/-- A node as a function of the state, the effort and what follows. -/
abbrev Matcher := State → Effort → Cont → Reply

/-- The continuation after which all is matched. -/
def accept : Cont := Reply.matched

/-- Another way after one that failed. -/
@[inline] def Reply.orElse (r : Reply) (other : Effort → Reply) : Reply :=
  match r with
  | .failed e =>
    match e.spend with
    | none => .aborted
    | some e => other e
  | r => r

namespace State

def slot (s : State) (n : Nat) : Slot := s.slots.getD n {}

/-- A group is opened here. -/
def openGroup (s : State) (n : Nat) : State :=
  { s with slots := s.slots.setIfInBounds n { s.slot n with start := some s.cursor } }

/-- A group that was opened at a cursor is closed here. -/
def closeGroup (s : State) (n : Nat) (start : Cursor) : State :=
  { s with slots := s.slots.setIfInBounds n { start := some start, stop := some s.cursor.offset } }

end State

/-! ### Tests and texts -/

/-- Whether a character belongs to a word. -/
def isWordChar (ascii : Bool) (c : Char) : Bool :=
  isWord c && (!ascii || c.toNat < 0x80)

/-- Whether a test holds at a cursor, in a search that began at `start`. -/
def Anchor.holds (a : Anchor) (start : Nat) (c : Cursor) : Bool :=
  match a with
  | .textStart => c.before.isEmpty
  | .textEnd => c.after.isEmpty
  | .textEndOrLastNewline => c.after.isEmpty || c.after == ['\n']
  | .lineStart => c.before.isEmpty || (c.before.head?.any (· == '\n') && !c.after.isEmpty)
  | .lineEnd => c.after.isEmpty || c.after.head?.any (· == '\n')
  | .searchStart => c.offset == start
  | .wordEdge ascii negated =>
    (c.before.head?.any (isWordChar ascii) != c.after.head?.any (isWordChar ascii)) != negated
  | .segmentEdge words negated =>
    (if words then Unicode.wordBreak c.before c.after else Unicode.clusterBreak c.before c.after)
      != negated

/-- The cursor after a text whose characters are tested one by one. -/
def stepAll (like : Nat → Char → Bool) (limit : Option Nat) : List Nat → Cursor → Option Cursor
  | [], c => some c
  | n :: ns, c => (c.step? (like n) limit).bind (stepAll like limit ns)

/-- The cursor after characters whose foldings, one after the other, are the text `folded`. -/
def stepFolded (limit : Option Nat) : List Char → List Nat → Cursor → Option Cursor
  | _, [], c => some c
  | [], _, _ => none
  | d :: ds, folded, c =>
    match (Unicode.foldOf d.toNat).isPrefixOf? folded with
    | none => none
    | some rest => (c.step? (fun _ => true) limit).bind (stepFolded limit ds rest)

/-- The cursor after a text. -/
def stepText (codes : List Nat) (fold : Fold) (limit : Option Nat) (c : Cursor) : Option Cursor :=
  match fold with
  | .exact => stepAll (fun n d => d.toNat == n) limit codes c
  | .ascii => stepAll (fun n d => Unicode.asciiFold d.toNat == Unicode.asciiFold n) limit codes c
  | .simple => stepAll (fun n d => Unicode.foldOf d.toNat == Unicode.foldOf n) limit codes c
  | .full => stepFolded limit c.after (codes.flatMap Unicode.foldOf) c

/-- The characters from a cursor up to an offset. -/
def textUpTo (stop : Nat) : Nat → List Char → List Nat
  | _, [] => []
  | offset, c :: cs =>
    if offset < stop then c.toNat :: textUpTo stop (offset + c.utf8Size) cs else []

/-- The cursor after the text that a group has captured. Letters are compared by their foldings one for
one, over as many bytes as were captured. -/
def stepCaptured (s : State) (fold : Fold) (n : Nat) : Option Cursor :=
  match s.slot n with
  | { start := some start, stop := some stop } =>
    let codes := textUpTo stop start.offset start.after
    let fold := match fold with
      | .full => .simple
      | f => f
    match stepText codes fold s.limit s.cursor with
    | some c =>
      if c.offset = s.cursor.offset + (stop - start.offset) then some c else none
    | none => none
  | _ => none

/-- The cursor after the text that the first of several groups has captured, of those that match. -/
def stepAnyCaptured (s : State) (fold : Fold) : List Nat → Option Cursor
  | [] => none
  | n :: ns =>
    match stepCaptured s fold n with
    | some c => some c
    | none => stepAnyCaptured s fold ns

/-- Whether a group has captured something. -/
def State.hasCaptured (s : State) (n : Nat) : Bool :=
  match s.slot n with
  | { start := some _, stop := some _ } => true
  | _ => false

/-- The test that a node makes of one character, if it is that of one character. -/
def Node.oneChar? : Node → Option (Char → Bool)
  | .set s => some fun c => s.contains c.toNat
  | .any newline => some fun c => newline || c != '\n'
  | .literal [n] .exact => some fun c => c.toNat == n
  | _ => none

/-! ### Repetition -/

/-- The cursors that a run of at most so many characters passes, the last one first. -/
def runs (p : Char → Bool) (limit : Option Nat) : Nat → Cursor → List Cursor → List Cursor
  | 0, c, passed => c :: passed
  | n + 1, c, passed =>
    match c.step? p limit with
    | none => c :: passed
    | some d => runs p limit n d (c :: passed)

/-- What follows, tried at each of several cursors in turn. -/
def tryEach (s : State) (k : Cont) : List Cursor → Effort → Reply
  | [], e => .failed e
  | [c], e => k { s with cursor := c } e
  | c :: cs, e => (k { s with cursor := c } e).orElse (tryEach s k cs)

/-- What follows, tried after no character that satisfies `p`, then after one, and so on. -/
def tryUpwards (p : Char → Bool) (k : Cont) : Nat → State → Effort → Reply
  | 0, s, e => k s e
  | n + 1, s, e =>
    (k s e).orElse fun e =>
      match s.cursor.step? p s.limit with
      | none => .failed e
      | some c => tryUpwards p k n { s with cursor := c } e

/-- Between `min` and `max` characters that satisfy `p`. -/
def loopChars (p : Char → Bool) (min : Nat) (max : Option Nat) (greedy : Bool) : Matcher :=
  fun s e k =>
    match stepAll (fun _ => p) s.limit (List.replicate min 0) s.cursor with
    | none => .failed e
    | some c =>
      let most := match max with
        | some n => n - min
        | none => c.after.length
      if greedy then tryEach s k (runs p s.limit most c []) e
      else tryUpwards p k most { s with cursor := c } e

/-- At most so many further rounds of a body. A round that consumes nothing is the last one. -/
def loopMore (body : Matcher) (greedy : Bool) : Nat → Matcher
  | 0 => fun s e k => k s e
  | n + 1 => fun s e k =>
    let round (e : Effort) : Reply :=
      body s e fun t e =>
        if t.cursor.offset = s.cursor.offset then k t e else loopMore body greedy n t e k
    if greedy then (round e).orElse (k s) else (k s e).orElse round

/-- So many rounds of a body, then the rest. After a round that consumes nothing the others would do
the same. -/
def loopFirst (body rest : Matcher) : Nat → Matcher
  | 0 => rest
  | n + 1 => fun s e k =>
    body s e fun t e =>
      if t.cursor.offset = s.cursor.offset then rest t e k else loopFirst body rest n t e k

/-- Between `min` and `max` rounds of a body. -/
def loop (body : Matcher) (min : Nat) (max : Option Nat) (greedy : Bool) : Matcher :=
  fun s e k =>
    let more : Matcher := fun s e k =>
      let most := match max with
        | some n => n - min
        | none => s.cursor.after.length + 1
      loopMore body greedy most s e k
    loopFirst body more min s e k

/-! ### Nodes that commit -/

/-- A node on its own: what follows does not take it back. -/
def commit (m : Matcher) (s : State) (e : Effort) (yes : Cont) (no : Effort → Reply) : Reply :=
  match m s e accept with
  | .matched t e => yes t e
  | .failed e => no e
  | r => r

/-- A body that ends at an offset, begun so many characters before it, nearest first: `more` counts
the further starts. -/
def lookBack (body : Matcher) (s : State) (yes : Cont) (no : Effort → Reply) :
    (more : Nat) → (before : List Char) → (offset : Nat) → (after : List Char) → Effort → Reply
  | more, before, offset, after, e =>
    let tried := commit
      (fun t e k => body t e fun u e =>
        if u.cursor.offset = s.cursor.offset then k u e else .failed e)
      { s with cursor := ⟨before, offset, after⟩ } e
      (fun t e => .matched { t with cursor := s.cursor } e) .failed
    match tried with
    | .matched t e => yes t e
    | .failed e =>
      match more, before with
      | 0, _ => no e
      | _, [] => no e
      | more + 1, c :: cs =>
        match e.spend with
        | none => .aborted
        | some e => lookBack body s yes no more cs (offset - c.utf8Size) (c :: after) e
    | r => r

/-- The cursor so many characters back. -/
def stepBack? : Nat → Cursor → Option Cursor
  | 0, c => some c
  | _, ⟨[], _, _⟩ => none
  | n + 1, ⟨c :: cs, offset, after⟩ => stepBack? n ⟨cs, offset - c.utf8Size, c :: after⟩

/-- The first offset from a cursor on at which a body matches. -/
def findFirst (body : Matcher) (s : State) : List Char → Cursor → Effort →
    (Option Nat → Effort → Reply) → Reply
  | after, c, e, k =>
    match body { s with cursor := c } e accept with
    | .matched _ e => k (some c.offset) e
    | .failed e =>
      match after with
      | [] => k none e
      | _ :: ds =>
        match c.step? (fun _ => true) s.limit with
        | none => k none e
        | some d => findFirst body s ds d e k
    | r => r

/-- The nearer of two limits. -/
def nearer : Option Nat → Option Nat → Option Nat
  | some a, some b => some (min a b)
  | some a, none => some a
  | none, b => b

/-- A directive. -/
def Directive.run (d : Directive) : Matcher := fun s e k =>
  match d with
  | .fail => .failed e
  | .giveUp => .gaveUp e
  | .stop => .aborted
  | .skip => k s { e with skip := s.cursor.offset }
  | .pass => k s e
  | .atMost id limit =>
    let n := (s.tallies.lookup id).getD 0
    if n < limit then k { s with tallies := (id, n + 1) :: s.tallies } e else .failed e

/-! ### The matcher -/

/-- A node as a matcher, in a search that began at `start`; `call` matches a group by its number. -/
def run (start : Nat) (call : Nat → Matcher) : Node → Matcher
  | .empty => fun s e k => k s e
  | .literal codes fold => fun s e k =>
    match stepText codes fold s.limit s.cursor with
    | none => .failed e
    | some c => k { s with cursor := c } e
  | .set set => fun s e k =>
    match s.cursor.step? (fun c => set.contains c.toNat) s.limit with
    | none => .failed e
    | some c => k { s with cursor := c } e
  | .any newline => fun s e k =>
    match s.cursor.step? (fun c => newline || c != '\n') s.limit with
    | none => .failed e
    | some c => k { s with cursor := c } e
  | .anchor a => fun s e k => if a.holds start s.cursor then k s e else .failed e
  | .seq a b => fun s e k => run start call a s e fun t e => run start call b t e k
  | .alt a b => fun s e k =>
    (run start call a s e k).orElse fun e => run start call b s e k
  | .loop min max greedy body => fun s e k =>
    match body.oneChar? with
    | some p => loopChars p min max greedy s e k
    | none => loop (run start call body) min max greedy s e k
  | .group n _ body => fun s e k =>
    run start call body (s.openGroup n) e fun t e => k (t.closeGroup n s.cursor) e
  | .scoped body => run start call body
  | .atomic body => fun s e k => commit (run start call body) s e k .failed
  | .ahead false body => fun s e k =>
    commit (run start call body) s e
      (fun t e => k { t with cursor := s.cursor, limit := s.limit } e) .failed
  | .ahead true body => fun s e k =>
    commit (run start call body) s e (fun _ e => .failed e) (k s)
  | .behind negative min max body => fun s e k =>
    let no (e : Effort) : Reply := if negative then k s e else .failed e
    let yes (t : State) (e : Effort) : Reply := if negative then .failed e else k t e
    match stepBack? min s.cursor with
    | none => no e
    | some c =>
      let more := match max with
        | some n => n - min
        | none => c.before.length
      lookBack (run start call body) s yes no more c.before c.offset c.after e
  | .backref ns _ fold _ => fun s e k =>
    match stepAnyCaptured s fold ns.reverse with
    | none => .failed e
    | some c => k { s with cursor := c } e
  | .captured ns _ => fun s e k => if ns.any s.hasCaptured then k s e else .failed e
  | .choose c t f => fun s e k =>
    commit (run start call c) s e (fun u e => run start call t u e k)
      (fun e => run start call f s e k)
  | .call (.number n _) => call n
  | .call (.name _) => fun _ e _ => .failed e
  | .keep => fun s e k => k { s with keep := some s.cursor.offset } e
  | .absent unwanted body => fun s e k =>
    findFirst (run start call unwanted) s s.cursor.after s.cursor e fun found e =>
      run start call body { s with limit := nearer found s.limit } e fun t e =>
        k { t with limit := s.limit } e
  | .stopBefore unwanted => fun s e k =>
    findFirst (run start call unwanted) s s.cursor.after s.cursor e fun found e =>
      k { s with limit := nearer found s.limit } e
  | .clearStop => fun s e k => k { s with limit := none } e
  | .directive d => d.run

/-- The groups of a program as matchers, through at most `depth` calls within each other. -/
def Program.called (p : Program) (start : Nat) : (depth : Nat) → Nat → Matcher
  | 0, _ => fun _ e _ => .failed e
  | depth + 1, n => fun s e k =>
    match p.bodies.lookup n with
    | some body => run start (p.called start depth) body s e k
    | none => .failed e

/-- A program at a cursor. Between two calls of one group something is consumed, so calls are nested no
deeper than the text is long, for each group. -/
def matchAt (p : Program) (start : Nat) (c : Cursor) (e : Effort) : Reply :=
  let depth := (c.after.length + 1) * (p.bodies.length + 1)
  let s : State := { cursor := c, slots := Array.replicate (p.groups + 1) {} }
  run start (p.called start depth) p.node s e accept

end Regex
end ScopeLexer
