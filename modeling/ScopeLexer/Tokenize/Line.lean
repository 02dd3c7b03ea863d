/-
# Tokenizing lines and documents

A line is tokenized within the stack that the line before it has left. A newline is put at its end, for
patterns may ask for it. At the end of the line the spans that do not go on are closed, with all within
them.

Key definitions: `LineTokens`, `documentLines`, `Scanner.line`, `Scanner.document`.
Key theorems: `flatten_documentLines`.
-/
import ScopeLexer.Tokenize.Scan

namespace ScopeLexer

/-- The tokens of a line, and the stack for the next one. -/
structure LineTokens where
  tokens : List Token
  stack : Stack
  deriving Inhabited, Repr, DecidableEq

/-- Whether a frame is closed at the end of its line. -/
def Frame.endsWithLine (g : Grammar) (f : Frame) : Bool :=
  match g.rule f.rule with
  | .beginEnd r => !r.carriesOver
  | _ => false

/-- The stack without the outermost span that does not go on and all within it. -/
def Stack.closeLine (s : Stack) (g : Grammar) : Stack :=
  match s.frames.reverse.findIdx? (Frame.endsWithLine g) with
  | some index => s.truncate (index - 1)
  | none => s

/-- A line without a newline at its end. -/
def withoutNewline : List Char → List Char
  | [] => []
  | ['\n'] => []
  | c :: cs => c :: withoutNewline cs

/-- The lines of a text, without the newlines between them; an empty text has none. -/
def documentLines (text : List Char) : List (List Char) :=
  if text.isEmpty then [] else text.splitOn '\n'

theorem flatten_splitOn (cs : List Char) : (cs.splitOn '\n').flatten = cs.filter (· != '\n') := by
  induction cs with
  | nil => rfl
  | cons c cs ih =>
    obtain ⟨first, rest, hcs⟩ := List.exists_cons_of_ne_nil (List.splitOn_ne_nil '\n' cs)
    rw [List.splitOn_cons_eq_if_modifyHead, hcs]
    rw [hcs] at ih
    by_cases hc : c = '\n' <;> simpa [hc] using ih

/-- The lines hold all of a text but its newlines. -/
theorem flatten_documentLines (text : List Char) :
    (documentLines text).flatten = text.filter (· != '\n') := by
  cases text with
  | nil => rfl
  | cons c cs => exact flatten_splitOn (c :: cs)

namespace Scanner

variable {m : Type → Type} [Monad m]

/-- A line, after a stack or as the first of a document. -/
@[specialize] def line (sc : Scanner m) (text : List Char) (prior : Option Stack) :
    m LineTokens := do
  let text := withoutNewline text ++ ['\n']
  let (ts, stack) ← sc.scan maxLevels (prior.getD (.root sc.grammar)) text 0 prior.isNone true
  return ⟨ts.finish (Text.width text), (stack.closeLine sc.grammar).reset⟩

/-- Lines one after the other. -/
@[specialize] def lines (sc : Scanner m) : List (List Char) → Option Stack → m (List (List Token))
  | [], _ => return []
  | text :: rest, prior => do
    let r ← sc.line text prior
    let others ← lines sc rest (some r.stack)
    return r.tokens :: others

/-- A document, line by line. -/
@[specialize] def document (sc : Scanner m) (text : List Char) : m (List (List Token)) :=
  sc.lines (documentLines text) none

end Scanner
end ScopeLexer
