/-
# Why a grammar is refused

The causes for which a grammar that could be read is not put to use, and their wording.

Key definitions: `CompileError`, `CompileError.message`.
-/
import ScopeLexer.Regex.Error

namespace ScopeLexer

/-- A cause for refusing a grammar. -/
inductive CompileError where
  | missingScopeName
  | invalidPattern (pattern : String) (cause : Regex.Error)
  | unresolvedInclude (reference : String)
  | externalInclude (reference : String)
  | emptyCycle (rule : String)
  | repositoriesTooDeep
  | captureIndexTooLarge (index : Nat)
  deriving Inhabited, Repr, DecidableEq

namespace CompileError

/-- How many repositories may be nested in one another. -/
def maxRepositoryDepth : Nat := 8

/-- The highest number of a group that captures may name. -/
def maxCaptureIndex : Nat := 1000

/-- The wording of a cause. -/
def message : CompileError → String
  | missingScopeName => "grammar has no scopeName"
  | invalidPattern pattern cause =>
    "Invalid regex pattern '" ++ pattern ++ "': " ++ cause.message
  | unresolvedInclude r => "Unresolved include '" ++ r ++ "'"
  | externalInclude r => "Include of another grammar '" ++ r ++ "'"
  | emptyCycle rule => "'" ++ rule ++ "' includes itself without matching anything"
  | repositoriesTooDeep =>
    "repositories are nested more than " ++ toString maxRepositoryDepth ++ " levels deep"
  | captureIndexTooLarge index =>
    "capture index " ++ toString index ++ " is larger than the maximum of " ++
      toString maxCaptureIndex

end CompileError
end ScopeLexer
