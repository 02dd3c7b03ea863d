/-
# Repetition of a part of a pattern

A quantifier applies to the last character of a text, to a set, or to a group. Tests on the position
cannot be repeated. A quantifier on a quantifier of the six common kinds is reduced to one, or to a
pair that means the same; this bounds the work that nested repetition asks for.

Key definitions: `Node.isTest`, `RepeatKind`, `repeated`.
-/
import ScopeLexer.Regex.Syntax

namespace ScopeLexer
namespace Regex

/-- Whether a node tests the position or directs the search, so that repeating it means nothing. A
sequence is never refused, alternatives are if one of them is. -/
def Node.isTest : Node → Bool
  | .anchor _ | .ahead _ _ | .behind _ _ _ _ | .keep | .clearStop | .directive _ => true
  | .alt a b => a.isTest || b.isTest
  | _ => false

/-- The six common kinds of repetition. -/
inductive RepeatKind where
  | optional | many | some | lazyOptional | lazyMany | lazySome
  deriving Inhabited, Repr, DecidableEq

/-- The kind of a repetition, if it is one of the six. -/
def RepeatKind.of? (min : Nat) (max : Option Nat) (greedy : Bool) : Option RepeatKind :=
  match min, max, greedy with
  | 0, .some 1, true => .some .optional
  | 0, none, true => .some .many
  | 1, none, true => .some .some
  | 0, .some 1, false => .some .lazyOptional
  | 0, none, false => .some .lazyMany
  | 1, none, false => .some .lazySome
  | _, _, _ => none

/-- What a repetition of a repetition comes to. -/
inductive Reduction where
  | inner
  | many
  | lazyMany
  | lazyOptional
  /-- Greedily some, lazily optional. -/
  | someOrLazyNone
  | both
  deriving Inhabited, Repr, DecidableEq

/-- The reduction of a repetition of the first kind within one of the second kind. -/
def RepeatKind.reduction : RepeatKind → RepeatKind → Reduction
  | optional, optional => .inner
  | optional, many => .many
  | optional, some => .many
  | optional, lazyOptional => .lazyOptional
  | optional, lazyMany => .lazyMany
  | optional, lazySome => .both
  | many, lazyOptional => .someOrLazyNone
  | many, lazyMany => .someOrLazyNone
  | many, _ => .inner
  | some, optional => .many
  | some, many => .many
  | some, some => .inner
  | some, lazyOptional => .both
  | some, lazyMany => .someOrLazyNone
  | some, lazySome => .inner
  | lazyOptional, optional => .inner
  | lazyOptional, lazyOptional => .inner
  | lazyOptional, _ => .lazyMany
  | lazyMany, _ => .inner
  | lazySome, optional => .both
  | lazySome, many => .many
  | lazySome, some => .inner
  | lazySome, lazyOptional => .lazyMany
  | lazySome, lazyMany => .lazyMany
  | lazySome, lazySome => .inner

/-- A repetition whose body is a repetition. -/
def reduced (min : Nat) (max : Option Nat) (greedy : Bool)
    (min' : Nat) (max' : Option Nat) (greedy' : Bool) (body : Node) : Node :=
  let inner := Node.loop min' max' greedy' body
  match RepeatKind.of? min' max' greedy', RepeatKind.of? min max greedy with
  | some k', some k =>
    match k'.reduction k with
    | .inner => inner
    | .many => .loop 0 none true body
    | .lazyMany => .loop 0 none false body
    | .lazyOptional => .loop 0 (some 1) false body
    | .someOrLazyNone => .loop 0 (some 1) false (.loop 1 none true body)
    | .both => .loop min max greedy inner
  | some k', none =>
    match max with
    | some high =>
      if (k' = .many ∨ k' = .some) ∧ 1 < high ∧ greedy then
        .loop min (some (if min = 0 then 1 else min)) greedy inner
      else .loop min max greedy inner
    | none => .loop min max greedy inner
  | none, _ =>
    if max = some min ∧ max' = some min' then .loop (min * min') (some (min * min')) greedy body
    else .loop min max greedy inner

/-- A quantifier on a node. -/
def repeated (min : Nat) (max : Option Nat) (greedy : Bool) : Node → Node
  | .loop min' max' greedy' body => reduced min max greedy min' max' greedy' body
  | body => .loop min max greedy body

end Regex
end ScopeLexer
