/-
# What takes the place of a piece

Whether a pattern refers to groups is looked for piece by piece, and piece by piece references are resolved and
anchors are replaced. What takes the place of a piece is made of pieces again: a captured text of its characters,
with a backslash before those that are escaped, and a replaced anchor of one character. None of them is a
backslash that lacks its character, so that those around them are found again as they were, whatever is put
between them. So the pieces of what comes out are known, and each law about the three is one about a single piece.

Key definitions: `Pattern.Piece.IsWhole`, `Pattern.KeepsWhole`, `Pattern.Piece.IsInert`, `Pattern.quotedPiece`,
`Pattern.resolvedPieces`, `Anchors.replacedPiece`.
Key theorems: `Pattern.pieces_rewrite`, `Pattern.pieces_resolve`, `Anchors.pieces_replace`,
`Pattern.replace_resolve`, `Pattern.scanners_agree`.
-/
import ScopeLexer.Pattern.Basic

namespace ScopeLexer
namespace Pattern

open Regex (Captures)

/-! ### Whole pieces -/

/-- A piece that is found again before any text: a backslash has its character. -/
def Piece.IsWhole : Piece → Prop
  | plain c => c ≠ '\\'
  | escape _ => True
  | lone => False

theorem pieces_cons_of_ne {c : Char} (hc : c ≠ '\\') (cs : List Char) :
    pieces (c :: cs) = .plain c :: pieces cs := by
  rw [pieces]
  · exact fun h _ => hc h
  · exact fun _ _ h _ => hc h

theorem pieces_text_append {p : Piece} (hp : p.IsWhole) (cs : List Char) :
    pieces (p.text ++ cs) = p :: pieces cs := by
  cases p with
  | plain c => exact pieces_cons_of_ne hp cs
  | escape c => rfl
  | lone => exact hp.elim

theorem pieces_flatMap_append {ps : List Piece} (hps : ∀ p ∈ ps, p.IsWhole) (cs : List Char) :
    pieces (ps.flatMap Piece.text ++ cs) = ps ++ pieces cs := by
  induction ps with
  | nil => rfl
  | cons p ps ih =>
    rw [List.forall_mem_cons] at hps
    rw [List.flatMap_cons, List.append_assoc, pieces_text_append hps.1, ih hps.2, List.cons_append]

/-- Patterns of the same pieces are the same. -/
theorem pieces_injective {cs ds : List Char} (h : pieces cs = pieces ds) : cs = ds := by
  rw [← flatten_pieces cs, h, flatten_pieces]

/-- What takes the place of a whole piece is made of whole pieces, and a backslash at the end stays there. -/
structure KeepsWhole (f : Piece → List Piece) : Prop where
  whole : ∀ {p}, p.IsWhole → ∀ q ∈ f p, q.IsWhole
  lone : f .lone = [.lone]

/-- **Pieces stay apart**: where pieces are put in the place of pieces, they are those of what comes out. -/
theorem pieces_rewrite {f : Piece → List Piece} (hf : KeepsWhole f) (cs : List Char) :
    pieces ((pieces cs).flatMap fun p => (f p).flatMap Piece.text) = (pieces cs).flatMap f := by
  induction cs using pieces.induct with
  | case1 => rfl
  | case2 =>
    have hlast : pieces ['\\'] = [.lone] := rfl
    rw [hlast, List.flatMap_singleton, List.flatMap_singleton, hf.lone]
    rfl
  | case3 c cs ih =>
    have hcons : pieces ('\\' :: c :: cs) = .escape c :: pieces cs := rfl
    rw [hcons, List.flatMap_cons, List.flatMap_cons, pieces_flatMap_append (hf.whole (p := .escape c) trivial), ih]
  | case4 c cs hlast hescape ih =>
    have hc : c ≠ '\\' := by
      rintro rfl
      cases cs with
      | nil => exact hlast rfl rfl
      | cons d ds => exact hescape d ds rfl rfl
    rw [pieces_cons_of_ne hc, List.flatMap_cons, List.flatMap_cons,
      pieces_flatMap_append (hf.whole (p := .plain c) hc), ih]

/-! ### Escaped texts -/

/-- No letter and no digit is escaped. -/
theorem isAlphanum_of_escaped {c : Char} (h : (specials.contains c || Text.isSpace c) = true) :
    c.isAlphanum = false := by
  rcases Bool.or_eq_true _ _ ▸ h with hc | hc
  · have none : specials.any Char.isAlphanum = false := by decide
    exact Bool.eq_false_iff.mpr (List.any_eq_false.mp none c (List.contains_iff_mem.mp hc))
  · refine Bool.eq_false_iff.mpr fun hword => ?_
    change ((decide (c.val ≥ 65 ∧ c.val ≤ 90) || decide (c.val ≥ 97) && decide (c.val ≤ 122)) ||
      decide (c.val ≥ 48) && decide (c.val ≤ 57)) = true at hword
    simp only [Bool.or_eq_true, Bool.and_eq_true, decide_eq_true_eq, ge_iff_le, UInt32.le_iff_toNat_le] at hword
    change ((65 ≤ c.toNat ∧ c.toNat ≤ 90) ∨ (97 ≤ c.toNat ∧ c.toNat ≤ 122)) ∨
      (48 ≤ c.toNat ∧ c.toNat ≤ 57) at hword
    simp only [Text.isSpace, Bool.or_eq_true, Bool.and_eq_true, beq_iff_eq, decide_eq_true_eq] at hc
    omega

/-- A piece that is read neither as a reference nor as an anchor. -/
structure Piece.IsInert (p : Piece) : Prop where
  reference : p.reference? = none
  anchor : ∀ a : Anchors, a.isIdle p = false

/-- Only letters are anchors, and only digits refer to groups. -/
theorem Piece.isInert_escape {c : Char} (hc : c.isAlphanum = false) : (escape c).IsInert where
  reference := by
    refine if_neg fun hdigit => ?_
    have hin : c.isDigit = true := by
      rw [Char.isDigit, Bool.and_eq_true, decide_eq_true_eq, decide_eq_true_eq]
      exact ⟨UInt32.le_trans (by decide) hdigit.1, hdigit.2⟩
    exact Bool.noConfusion ((Bool.or_eq_false_iff.mp hc).2.symm.trans hin)
  anchor a := by
    refine Bool.eq_false_iff.mpr fun hidle => ?_
    rcases Anchors.isIdle_eq_true_iff.mp hidle with ⟨h, -⟩ | ⟨h, -⟩
    · obtain rfl := Piece.escape.inj h
      exact absurd hc (by decide)
    · obtain rfl := Piece.escape.inj h
      exact absurd hc (by decide)

/-- The piece that a character of an escaped text is. -/
def quotedPiece (c : Char) : Piece := if specials.contains c || Text.isSpace c then .escape c else .plain c

theorem text_quotedPiece (c : Char) : (quotedPiece c).text = escapeChar c := by
  rw [quotedPiece, escapeChar]
  split <;> rfl

theorem isWhole_quotedPiece (c : Char) : (quotedPiece c).IsWhole := by
  rw [quotedPiece]
  split
  · trivial
  · rename_i hc
    rintro rfl
    exact hc rfl

theorem isInert_quotedPiece (c : Char) : (quotedPiece c).IsInert := by
  rw [quotedPiece]
  split
  · rename_i hc
    exact Piece.isInert_escape (isAlphanum_of_escaped hc)
  · exact ⟨rfl, fun _ => rfl⟩

theorem escapeText_eq (t : List Char) : escapeText t = (t.map quotedPiece).flatMap Piece.text := by
  rw [List.flatMap_map, escapeText]
  exact congrArg t.flatMap (funext fun c => (text_quotedPiece c).symm)

/-- An escaped text is cut into its characters. -/
theorem pieces_escapeText (t : List Char) : pieces (escapeText t) = t.map quotedPiece := by
  have whole : ∀ p ∈ t.map quotedPiece, p.IsWhole := by
    intro p hp
    obtain ⟨c, -, rfl⟩ := List.mem_map.mp hp
    exact isWhole_quotedPiece c
  have happend := pieces_flatMap_append whole []
  rw [List.append_nil, ← escapeText_eq] at happend
  exact happend.trans (List.append_nil _)

/-! ### References -/

section

variable (line : List Char) (captures : Captures)

/-- What takes the place of a piece where references are resolved. -/
def resolvedPieces (p : Piece) : List Piece :=
  match p.reference? with
  | some n => (captured line captures n).map quotedPiece
  | none => [p]

variable {line captures} {p q : Piece} {n : Nat}

theorem resolvedPieces_of_reference (h : p.reference? = some n) :
    resolvedPieces line captures p = (captured line captures n).map quotedPiece := by
  rw [resolvedPieces, h]

theorem resolvedPieces_of_none (h : p.reference? = none) : resolvedPieces line captures p = [p] := by
  rw [resolvedPieces, h]

/-- A resolved piece is a captured character, or it was no reference and is kept. -/
theorem mem_resolvedPieces (h : q ∈ resolvedPieces line captures p) :
    (∃ c, q = quotedPiece c) ∨ (q = p ∧ p.reference? = none) := by
  cases hp : p.reference? with
  | some n =>
    rw [resolvedPieces_of_reference hp] at h
    obtain ⟨c, -, rfl⟩ := List.mem_map.mp h
    exact .inl ⟨c, rfl⟩
  | none =>
    rw [resolvedPieces_of_none hp] at h
    exact .inr ⟨List.mem_singleton.mp h, rfl⟩

theorem reference?_of_mem_resolvedPieces (h : q ∈ resolvedPieces line captures p) : q.reference? = none := by
  rcases mem_resolvedPieces h with ⟨c, rfl⟩ | ⟨rfl, hp⟩
  · exact (isInert_quotedPiece c).reference
  · exact hp

theorem keepsWhole_resolvedPieces : KeepsWhole (resolvedPieces line captures) where
  whole {p} hp q hq := by
    rcases mem_resolvedPieces hq with ⟨c, rfl⟩ | ⟨rfl, -⟩
    · exact isWhole_quotedPiece c
    · exact hp
  lone := rfl

theorem resolvePiece_eq (p : Piece) :
    resolvePiece line captures p = (resolvedPieces line captures p).flatMap Piece.text := by
  rw [resolvePiece]
  cases hp : p.reference? with
  | some n => rw [resolvedPieces_of_reference hp, ← escapeText_eq]
  | none => rw [resolvedPieces_of_none hp, List.flatMap_singleton]

/-- **The pieces of a resolved pattern** are those of the pattern, with a piece for each captured character in
the place of a reference. -/
theorem pieces_resolve (cs : List Char) :
    pieces (resolve cs line captures) = (pieces cs).flatMap (resolvedPieces line captures) := by
  rw [← pieces_rewrite keepsWhole_resolvedPieces cs, resolve]
  exact congrArg (fun f => pieces ((pieces cs).flatMap f)) (funext resolvePiece_eq)

/-- A resolved pattern has no references. -/
theorem hasBackreferences_resolve (cs : List Char) : hasBackreferences (resolve cs line captures) = false := by
  rw [hasBackreferences, pieces_resolve, List.any_eq_false]
  intro q hq
  obtain ⟨p, -, hp⟩ := List.mem_flatMap.mp hq
  rw [reference?_of_mem_resolvedPieces hp]
  exact Bool.false_ne_true

/-- A pattern stays as it is exactly if it has no references. -/
theorem resolve_eq_self_iff {cs : List Char} : resolve cs line captures = cs ↔ hasBackreferences cs = false :=
  ⟨fun h => h ▸ hasBackreferences_resolve cs, fun h => resolve_eq_self h line captures⟩

end

end Pattern

/-! ### Anchors -/

namespace Anchors

open Pattern

variable {a : Anchors} {p : Piece}

/-- What takes the place of a piece where anchors are replaced. -/
def replacedPiece (a : Anchors) (p : Piece) : Piece := if a.isIdle p then .plain never else p

theorem replacedPiece_of_isIdle (h : a.isIdle p = true) : a.replacedPiece p = .plain never := if_pos h

theorem replacedPiece_of_not_isIdle (h : a.isIdle p = false) : a.replacedPiece p = p :=
  if_neg (Bool.eq_false_iff.mp h)

/-- A replaced piece is not replaced again. -/
theorem isIdle_replacedPiece (a : Anchors) (p : Piece) : a.isIdle (a.replacedPiece p) = false := by
  cases h : a.isIdle p with
  | true => rw [replacedPiece_of_isIdle h]; rfl
  | false => rw [replacedPiece_of_not_isIdle h, h]

/-- No anchor is a reference, and nothing becomes one. -/
theorem reference?_replacedPiece (a : Anchors) (p : Piece) : (a.replacedPiece p).reference? = p.reference? := by
  cases h : a.isIdle p with
  | true =>
    rw [replacedPiece_of_isIdle h]
    rcases isIdle_eq_true_iff.mp h with ⟨rfl, -⟩ | ⟨rfl, -⟩ <;> rfl
  | false => rw [replacedPiece_of_not_isIdle h]

theorem keepsWhole_replacedPiece (a : Anchors) : KeepsWhole fun p => [a.replacedPiece p] where
  whole {p} hwhole q hq := by
    obtain rfl := List.mem_singleton.mp hq
    cases h : a.isIdle p with
    | true =>
      rw [replacedPiece_of_isIdle h]
      exact (by decide : never ≠ '\\')
    | false => rwa [replacedPiece_of_not_isIdle h]
  lone := rfl

theorem replacePiece_eq (a : Anchors) (p : Piece) : a.replacePiece p = [a.replacedPiece p].flatMap Piece.text := by
  rw [replacePiece, replacedPiece, List.flatMap_singleton]
  split <;> rfl

/-- **The pieces of a pattern whose anchors are replaced** are those of the pattern, each of them replaced. -/
theorem pieces_replace (a : Anchors) (cs : List Char) :
    pieces (a.replace cs) = (pieces cs).map a.replacedPiece := by
  rw [replace_eq_replaceEach, List.map_eq_flatMap, ← pieces_rewrite a.keepsWhole_replacedPiece cs, replaceEach]
  exact congrArg (fun f => pieces ((pieces cs).flatMap f)) (funext a.replacePiece_eq)

/-- To replace the anchors again changes nothing. -/
theorem replace_replace (a : Anchors) (cs : List Char) : a.replace (a.replace cs) = a.replace cs := by
  refine pieces_injective ?_
  rw [pieces_replace, pieces_replace, List.map_map]
  exact List.map_congr_left fun p _ => replacedPiece_of_not_isIdle (a.isIdle_replacedPiece p)

theorem hasBackreferences_replace (a : Anchors) (cs : List Char) :
    hasBackreferences (a.replace cs) = hasBackreferences cs := by
  rw [hasBackreferences, hasBackreferences, pieces_replace, List.any_map]
  exact congrArg (pieces cs).any (funext fun p => congrArg Option.isSome (a.reference?_replacedPiece p))

end Anchors

namespace Pattern

open Regex (Captures)

variable (a : Anchors) (line : List Char) (captures : Captures)

/-- An escaped text holds no anchor. -/
theorem replace_escapeText (t : List Char) : a.replace (escapeText t) = escapeText t := by
  refine pieces_injective ?_
  rw [Anchors.pieces_replace, pieces_escapeText, List.map_map]
  exact List.map_congr_left fun c _ => Anchors.replacedPiece_of_not_isIdle ((isInert_quotedPiece c).anchor a)

/-- A piece may be resolved and then replaced, or replaced and then resolved. -/
theorem map_replacedPiece_resolvedPieces (p : Piece) :
    (resolvedPieces line captures p).map a.replacedPiece = resolvedPieces line captures (a.replacedPiece p) := by
  have href := a.reference?_replacedPiece p
  cases hp : p.reference? with
  | some n =>
    rw [resolvedPieces_of_reference hp, resolvedPieces_of_reference (href.trans hp), List.map_map]
    exact List.map_congr_left fun c _ => Anchors.replacedPiece_of_not_isIdle ((isInert_quotedPiece c).anchor a)
  | none =>
    rw [resolvedPieces_of_none hp, resolvedPieces_of_none (href.trans hp), List.map_singleton]

/-- **References and anchors do not meet**: it makes no difference which of them are seen to first. -/
theorem replace_resolve (cs : List Char) :
    a.replace (resolve cs line captures) = resolve (a.replace cs) line captures := by
  refine pieces_injective ?_
  calc pieces (a.replace (resolve cs line captures))
      = ((pieces cs).flatMap (resolvedPieces line captures)).map a.replacedPiece := by
        rw [Anchors.pieces_replace, pieces_resolve]
    _ = (pieces cs).flatMap fun p => (resolvedPieces line captures p).map a.replacedPiece := List.map_flatMap
    _ = (pieces cs).flatMap fun p => resolvedPieces line captures (a.replacedPiece p) :=
        congrArg (pieces cs).flatMap (funext (map_replacedPiece_resolvedPieces a line captures))
    _ = ((pieces cs).map a.replacedPiece).flatMap (resolvedPieces line captures) := (List.flatMap_map ..).symm
    _ = pieces (resolve (a.replace cs) line captures) := by rw [pieces_resolve, Anchors.pieces_replace]

/-- A captured backslash makes no anchor of the letter behind it. -/
example : (⟨false, false⟩ : Anchors).replace (resolve ['\\', '1', 'A'] ['\\'] [none, some (0, 1)]) =
    ['\\', '\\', 'A'] := by
  decide

/-- **References are looked for, references are resolved and anchors are replaced in the same pieces.** A
resolved pattern has no references, so that to resolve it again changes nothing, and a pattern that has none
stays as it is. To replace the anchors again changes nothing; it leaves references and takes none away; and what
is not cut into its pieces for it would come out the same. Which is done first makes no difference: of what was
captured there stands a piece for each character in the place of the reference, and none of these pieces is read
as a reference or an anchor. -/
theorem scanners_agree (cs : List Char) :
    (hasBackreferences (resolve cs line captures) = false ∧ ∀ again groups,
      resolve (resolve cs line captures) again groups = resolve cs line captures) ∧
    (resolve cs line captures = cs ↔ hasBackreferences cs = false) ∧
    (a.replace (a.replace cs) = a.replace cs ∧ hasBackreferences (a.replace cs) = hasBackreferences cs ∧
      a.replace cs = a.replaceEach cs) ∧
    a.replace (resolve cs line captures) = resolve (a.replace cs) line captures ∧
    pieces (resolve cs line captures) = (pieces cs).flatMap (resolvedPieces line captures) ∧
    ∀ c, (quotedPiece c).IsInert := by
  have hnone : hasBackreferences (resolve cs line captures) = false := hasBackreferences_resolve cs
  exact ⟨⟨hnone, resolve_eq_self hnone⟩, resolve_eq_self_iff,
    ⟨a.replace_replace cs, a.hasBackreferences_replace cs, a.replace_eq_replaceEach cs⟩,
    replace_resolve a line captures cs, pieces_resolve cs, isInert_quotedPiece⟩

end Pattern
end ScopeLexer
