/-
# Scope names with captured text

The name of a rule is a text of one or more scopes. It may hold placeholders, a dollar and the number of
a group, which stand for the text that the group captured, without points at its head. In braces the
text may be asked for in lower or upper case. A placeholder of a group without a text stays as it is
written.

Key definitions: `ScopeName`, `ScopeName.Part`, `ScopeName.substitute`, `ScopeName.resolve`.
Key theorems: `ScopeName.flatten_parts`.
-/
import ScopeLexer.Decimal.Numeral
import ScopeLexer.Regex.Search
import ScopeLexer.Scope
import ScopeLexer.Unicode.Letter

namespace ScopeLexer

open Regex (Captures)

/-- A name as it is written, and the scopes it stands for where nothing is substituted. -/
structure ScopeName where
  source : String
  scopes : List Scope
  hasPlaceholders : Bool
  deriving Inhabited, Repr, DecidableEq

namespace ScopeName

/-- How the text of a group is put into a name. -/
inductive Change where
  | asIs | lower | upper
  deriving Inhabited, Repr, DecidableEq

/-- A part of a name: a character, or a placeholder as it is written. -/
inductive Part where
  | plain (c : Char)
  | capture (n : Nat) (change : Change) (written : List Char)
  deriving Inhabited, Repr, DecidableEq

def Part.text : Part → List Char
  | plain c => [c]
  | capture _ _ written => written

/-- A text up to a character, and what follows that. -/
def splitAt? (d : Char) : List Char → Option (List Char × List Char)
  | [] => none
  | c :: cs =>
    if c = d then some ([], cs)
    else (splitAt? d cs).map fun r => (c :: r.1, r.2)

theorem text_of_splitAt? {d : Char} {cs a b : List Char} (h : splitAt? d cs = some (a, b)) :
    cs = a ++ d :: b := by
  induction cs generalizing a b with
  | nil => simp [splitAt?] at h
  | cons c cs ih =>
    unfold splitAt? at h
    split at h
    · simp_all
    · obtain ⟨r, hr, he⟩ := Option.map_eq_some_iff.mp h
      simp only [Prod.mk.injEq] at he
      obtain ⟨rfl, rfl⟩ := he
      simp [ih hr]

/-- A text is split at the first sign. -/
theorem splitAt?_append {d : Char} {as : List Char} (h : d ∉ as) (bs : List Char) :
    splitAt? d (as ++ d :: bs) = some (as, bs) := by
  induction as with
  | nil => simp [splitAt?]
  | cons a as ih =>
    obtain ⟨hne, hrest⟩ := not_or.mp fun hm => h (List.mem_cons.mpr hm)
    rw [List.cons_append, splitAt?, if_neg (Ne.symm hne), ih hrest]
    rfl

/-- The number of a group and the change that the text between braces asks for. -/
def command? (inner : List Char) : Option (Nat × Change) :=
  match splitAt? ':' inner with
  | some (number, '/' :: name) =>
    let change := match String.ofList name with
      | "downcase" => some Change.lower
      | "upcase" => some Change.upper
      | _ => none
    match Decimal.wordOf? number, change with
    | some n, some c => some (n, c)
    | _, _ => none
  | _ => none

/-- The group that digits refer to. Digits whose number does not fit into a word refer to the greatest one, a
number that no group has. -/
def groupOf (ds : List Char) : Nat := (Decimal.wordOf? ds).getD Decimal.maxWord

/-- The placeholder that follows a dollar, and the rest. -/
def placeholder? (cs : List Char) : Option (Part × List Char) :=
  let ds := cs.takeWhile Char.isDigit
  if !ds.isEmpty then
    some (.capture (groupOf ds) .asIs ('$' :: ds), cs.dropWhile Char.isDigit)
  else
    match cs with
    | '\x7b' :: inner =>
      match splitAt? '\x7d' inner with
      | some (inner, rest) =>
        (command? inner).map fun c =>
          (.capture c.1 c.2 ('$' :: '\x7b' :: inner ++ ['\x7d']), rest)
      | none => none
    | _ => none

/-- The placeholder and the rest make up the text after the dollar. -/
theorem text_of_placeholder? {cs rest : List Char} {p : Part}
    (h : placeholder? cs = some (p, rest)) : p.text ++ rest = '$' :: cs := by
  unfold placeholder? at h
  simp only at h
  split at h
  · simp only [Option.some.injEq, Prod.mk.injEq] at h
    obtain ⟨rfl, rfl⟩ := h
    simp [Part.text]
  · split at h
    · split at h
      · rename_i hs
        obtain ⟨c, _, he⟩ := Option.map_eq_some_iff.mp h
        simp only [Prod.mk.injEq] at he
        obtain ⟨rfl, rfl⟩ := he
        simp [Part.text, text_of_splitAt? hs]
      · simp at h
    · simp at h

theorem length_of_placeholder? {cs rest : List Char} {p : Part}
    (h : placeholder? cs = some (p, rest)) : rest.length ≤ cs.length := by
  have ht := congrArg List.length (text_of_placeholder? h)
  have hp : 0 < p.text.length := by
    unfold placeholder? at h
    simp only at h
    split at h
    · simp only [Option.some.injEq, Prod.mk.injEq] at h
      obtain ⟨rfl, rfl⟩ := h
      simp [Part.text]
    · split at h
      · split at h
        · obtain ⟨c, _, he⟩ := Option.map_eq_some_iff.mp h
          simp only [Prod.mk.injEq] at he
          obtain ⟨rfl, rfl⟩ := he
          simp [Part.text]
        · simp at h
      · simp at h
  simp only [List.length_append, List.length_cons] at ht
  omega

/-- The parts of a name. -/
def parts : List Char → List Part
  | [] => []
  | c :: cs =>
    if c = '$' then
      match h : placeholder? cs with
      | some (p, rest) =>
        have := length_of_placeholder? h
        p :: parts rest
      | none => .plain '$' :: parts cs
    else .plain c :: parts cs
  termination_by cs => cs.length
  decreasing_by all_goals simp only [List.length_cons]; omega

theorem parts_of_placeholder {cs rest : List Char} {p : Part} (h : placeholder? cs = some (p, rest)) :
    parts ('$' :: cs) = p :: parts rest := by
  rw [parts, if_pos rfl]
  split
  · rename_i hq
    obtain ⟨rfl, rfl⟩ := Prod.mk.inj (Option.some.inj (hq.symm.trans h))
    rfl
  · rename_i hq
    cases hq.symm.trans h

theorem parts_of_none {cs : List Char} (h : placeholder? cs = none) :
    parts ('$' :: cs) = .plain '$' :: parts cs := by
  rw [parts, if_pos rfl]
  split
  · rename_i hq
    cases hq.symm.trans h
  · rfl

theorem parts_cons_of_ne {c : Char} (hc : c ≠ '$') (cs : List Char) : parts (c :: cs) = .plain c :: parts cs := by
  rw [parts, if_neg hc]

/-- The parts make up the name. -/
theorem flatten_parts (cs : List Char) : (parts cs).flatMap Part.text = cs := by
  induction cs using parts.induct with
  | case1 => simp [parts]
  | case2 cs p rest h _ ih => rw [parts_of_placeholder h, List.flatMap_cons, ih, text_of_placeholder? h]
  | case3 cs h ih => rw [parts_of_none h, List.flatMap_cons, ih, Part.text, List.singleton_append]
  | case4 c cs hc ih => rw [parts_cons_of_ne hc, List.flatMap_cons, ih, Part.text, List.singleton_append]

/-- The text of a group in a line, without points at its head. -/
def captured? (line : List Char) (captures : Captures) (n : Nat) : Option (List Char) :=
  match captures[n]? with
  | some (some (start, stop)) => (Text.slice? line start stop).map (·.dropWhile (· == '.'))
  | _ => none

def Change.apply : Change → List Char → List Char
  | .asIs, cs => cs
  | .lower, cs => Unicode.lowerText cs
  | .upper, cs => Unicode.upperText cs

/-- A part with the captured text in its place. -/
def Part.resolve (line : List Char) (captures : Captures) : Part → List Char
  | plain c => [c]
  | capture n change written =>
    match captured? line captures n with
    | some cs => change.apply cs
    | none => written

/-- A name with the captured texts in place of the placeholders. -/
def substitute (source line : List Char) (captures : Captures) : List Char :=
  (parts source).flatMap (Part.resolve line captures)

/-- Whether a dollar stands before a digit or a brace. -/
def marksPlaceholder : List Char → Bool
  | '$' :: c :: cs => c.isDigit || c == '\x7b' || marksPlaceholder (c :: cs)
  | _ :: cs => marksPlaceholder cs
  | [] => false

/-- The name that a text stands for. -/
def ofText (source : String) : ScopeName where
  source := source
  scopes := Scope.parseNames source.toList
  hasPlaceholders := marksPlaceholder source.toList

/-- The scopes of a name for a match in a line. -/
def resolve (n : ScopeName) (line : List Char) (captures : Captures) : List Scope :=
  if n.hasPlaceholders then Scope.parseNames (substitute n.source.toList line captures)
  else n.scopes

end ScopeName
end ScopeLexer
