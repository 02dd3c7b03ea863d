/-
# Placeholders of a scope name

A placeholder of a group stands in a name as a dollar with digits, all that follow it, or as a dollar with braces
around a number and the word for a change. A name is read from left to right, and a placeholder that was found
is left behind at once; but a placeholder has a dollar at its head and nowhere else, so that no other one begins
in it, and each that stands in the name is found. Where none of their groups has a text the name is left as it
is, whatever else begins with a dollar. Whether a dollar stands before a digit or a brace decides if the scopes
that the name was read as are used in every match; where none does there is no placeholder, so that they are the
same ones.

Key definitions: `ScopeName.IsPlaceholder`, `ScopeName.Mentions`, `ScopeName.groups`, `ScopeName.IsPlain`.
Key theorems: `ScopeName.placeholder?_eq_some_iff`, `ScopeName.mem_groups_iff`,
`ScopeName.substitute_eq_self`, `ScopeName.resolve_substitutes`.
-/
import Mathlib.Data.List.Basic
import ScopeLexer.Proofs.DecimalDigits
import ScopeLexer.ScopeName

namespace ScopeLexer
namespace ScopeName

open Decimal (maxWord valueOf wordOf? wordOf?_eq_some_iff wordOf?_le wordOf?_of_digits)
open Regex (Captures)

/-! ### Placeholders as they are written -/

/-- The word that asks for a change. -/
def Change.word? : Change → Option (List Char)
  | asIs => none
  | lower => some "downcase".toList
  | upper => some "upcase".toList

/-- A placeholder of a group as it is written, where `rest` follows. -/
inductive IsPlaceholder : Nat → Change → List Char → List Char → Prop
  /-- Digits, as many as there are. -/
  | number {ds rest : List Char} (hne : ds ≠ []) (hds : ∀ d ∈ ds, d.isDigit)
      (hrest : ∀ c ∈ rest.head?, c.isDigit = false) : IsPlaceholder (valueOf ds) .asIs ('$' :: ds) rest
  /-- A number and the word for a change in braces. -/
  | changed {n : Nat} {change : Change} {number word rest : List Char} (hn : wordOf? number = some n)
      (hword : change.word? = some word) :
      IsPlaceholder n change ('$' :: '\x7b' :: (number ++ ':' :: '/' :: word) ++ ['\x7d']) rest

/-- A name mentions a group if a placeholder of the group stands in it. -/
def Mentions (cs : List Char) (n : Nat) : Prop :=
  ∃ before change written rest, cs = before ++ (written ++ rest) ∧ IsPlaceholder n change written rest

variable {n : Nat} {change : Change} {cs written rest number word : List Char}

theorem not_mem_number {c : Char} (hc : c.isDigit = false) (hplus : c ≠ '+') (h : wordOf? number = some n) :
    c ∉ number := by
  obtain ⟨ds, htext, -, hds, -⟩ := wordOf?_eq_some_iff.mp h
  have hnot : c ∉ ds := fun hmem => Bool.noConfusion (hc.symm.trans (hds c hmem))
  rcases htext with rfl | rfl
  · exact hnot
  · exact fun hmem => (List.mem_cons.mp hmem).elim hplus hnot

theorem not_mem_word {c : Char} (hc : c ∉ "downcase".toList ++ "upcase".toList) (h : change.word? = some word) :
    c ∉ word := by
  rw [List.mem_append, not_or] at hc
  cases change with
  | asIs => cases h
  | lower => exact Option.some.inj h ▸ hc.1
  | upper => exact Option.some.inj h ▸ hc.2

/-- **A placeholder has one dollar**, at its head. -/
theorem IsPlaceholder.head (h : IsPlaceholder n change written rest) :
    ∃ tail, written = '$' :: tail ∧ '$' ∉ tail := by
  cases h with
  | number hne hds hrest => exact ⟨_, rfl, fun hmem => absurd (hds '$' hmem) (by decide)⟩
  | changed hn hword =>
    refine ⟨_, rfl, ?_⟩
    have hnumber := not_mem_number (c := '$') (by decide) (by decide) hn
    have hname := not_mem_word (c := '$') (by decide) hword
    simp [hnumber, hname]

/-! ### Reading a placeholder -/

theorem command?_eq_some_iff : command? cs = some (n, change) ↔
    ∃ number word, cs = number ++ ':' :: '/' :: word ∧ wordOf? number = some n ∧ change.word? = some word := by
  constructor
  · intro h
    unfold command? at h
    split at h
    · rename_i number word hsplit
      extract_lets asked at h
      split at h
      · rename_i m made hnumber hasked
        obtain ⟨rfl, rfl⟩ := Prod.mk.inj (Option.some.inj h)
        refine ⟨number, word, text_of_splitAt? hsplit, hnumber, ?_⟩
        simp only [asked] at hasked
        have hword : ∀ name, String.ofList word = name → name.toList = word := by
          rintro _ rfl
          exact String.toList_ofList
        split at hasked
        · rename_i hname
          obtain rfl := Option.some.inj hasked
          exact congrArg some (hword _ hname)
        · rename_i hname
          obtain rfl := Option.some.inj hasked
          exact congrArg some (hword _ hname)
        · cases hasked
      · cases h
    · cases h
  · rintro ⟨number, word, rfl, hn, hword⟩
    rw [command?, splitAt?_append (not_mem_number (by decide) (by decide) hn)]
    cases change with
    | asIs => cases hword
    | lower =>
      obtain rfl := Option.some.inj hword
      simp [hn]
    | upper =>
      obtain rfl := Option.some.inj hword
      simp [hn]

/-- Digits refer to the group of their value, or to that of the greatest word. -/
theorem groupOf_eq_min (hne : cs ≠ []) (hcs : ∀ d ∈ cs, d.isDigit) : groupOf cs = min (valueOf cs) maxWord := by
  rw [groupOf, wordOf?_of_digits hne hcs]
  split
  · rename_i hfits
    exact (Nat.min_eq_left hfits).symm
  · rename_i hlong
    exact (Nat.min_eq_right (Nat.le_of_not_le hlong)).symm

theorem placeholder?_number {ds : List Char} (hne : ds ≠ []) (hds : ∀ d ∈ ds, d.isDigit)
    (hrest : ∀ c ∈ rest.head?, c.isDigit = false) : placeholder? (ds ++ rest) =
      some (.capture (min (valueOf ds) maxWord) .asIs ('$' :: ds), rest) := by
  have hstop : rest.takeWhile Char.isDigit = [] ∧ rest.dropWhile Char.isDigit = rest := by
    cases rest with
    | nil => exact ⟨rfl, rfl⟩
    | cons c rest =>
      have hc : ¬ c.isDigit = true := Bool.eq_false_iff.mp (hrest c rfl)
      exact ⟨List.takeWhile_cons_of_neg hc, List.dropWhile_cons_of_neg hc⟩
  have htake : (ds ++ rest).takeWhile Char.isDigit = ds := by
    rw [List.takeWhile_append_of_pos hds, hstop.1, List.append_nil]
  have hdrop : (ds ++ rest).dropWhile Char.isDigit = rest := by
    rw [List.dropWhile_append_of_pos hds, hstop.2]
  have hsome : (!ds.isEmpty) = true := by simpa using hne
  simp only [placeholder?, htake, hdrop, hsome, if_true, groupOf_eq_min hne hds]

theorem placeholder?_changed (hn : wordOf? number = some n) (hword : change.word? = some word) (rest : List Char) :
    placeholder? ('\x7b' :: (number ++ ':' :: '/' :: word ++ '\x7d' :: rest)) = some (.capture n change
      ('$' :: '\x7b' :: (number ++ ':' :: '/' :: word) ++ ['\x7d']), rest) := by
  have hopen : ('\x7b' :: (number ++ ':' :: '/' :: word ++ '\x7d' :: rest)).takeWhile Char.isDigit = [] := rfl
  have hinner : '\x7d' ∉ number ++ ':' :: '/' :: word := by
    have hnumber := not_mem_number (c := '\x7d') (by decide) (by decide) hn
    have hname := not_mem_word (c := '\x7d') (by decide) hword
    simp [hnumber, hname]
  have hcommand : command? (number ++ ':' :: '/' :: word) = some (n, change) :=
    command?_eq_some_iff.mpr ⟨number, word, rfl, hn, hword⟩
  simp only [placeholder?, hopen, List.isEmpty_nil, Bool.not_true, Bool.false_eq_true, if_false,
    splitAt?_append hinner, hcommand, Option.map_some]

/-- **The placeholders that are read** are those that are written, of which the longest run of digits counts. -/
theorem placeholder?_eq_some_iff {p : Part} : placeholder? cs = some (p, rest) ↔
    ∃ n change written, p = .capture (min n maxWord) change written ∧ '$' :: cs = written ++ rest ∧
      IsPlaceholder n change written rest := by
  constructor
  · intro h
    have htext := (text_of_placeholder? h).symm
    unfold placeholder? at h
    extract_lets ds at h
    split at h
    · rename_i hdigits
      obtain ⟨rfl, rfl⟩ := Prod.mk.inj (Option.some.inj h)
      have hne : ds ≠ [] := by simpa using hdigits
      have hds : ∀ d ∈ ds, d.isDigit := List.all_eq_true.mp List.all_takeWhile
      have hrest : ∀ c ∈ (cs.dropWhile Char.isDigit).head?, c.isDigit = false := by
        intro c hc
        have hstop := List.head?_dropWhile_not Char.isDigit cs
        rw [Option.mem_def.mp hc] at hstop
        simpa using hstop
      exact ⟨valueOf ds, .asIs, '$' :: ds, by rw [groupOf_eq_min hne hds], htext, .number hne hds hrest⟩
    · split at h
      · split at h
        · obtain ⟨⟨n, change⟩, hcommand, he⟩ := Option.map_eq_some_iff.mp h
          obtain ⟨rfl, rfl⟩ := Prod.mk.inj he
          obtain ⟨number, word, rfl, hn, hword⟩ := command?_eq_some_iff.mp hcommand
          exact ⟨n, change, _, congrArg (Part.capture · change _) (Nat.min_eq_left (wordOf?_le hn)).symm, htext,
            .changed hn hword⟩
        · cases h
      · cases h
  · rintro ⟨n, change, written, rfl, htext, h⟩
    cases h with
    | @number ds _ hne hds hrest =>
      have hcs : cs = ds ++ rest := (List.cons.inj htext).2
      rw [hcs, placeholder?_number hne hds hrest]
    | @changed _ _ number word _ hn hword =>
      have hcs : cs = '\x7b' :: (number ++ ':' :: '/' :: word ++ '\x7d' :: rest) := by
        simpa using (List.cons.inj htext).2
      rw [hcs, placeholder?_changed hn hword, Nat.min_eq_left (wordOf?_le hn)]

/-! ### The placeholders of a name -/

/-- What begins with a character begins behind a text without it. -/
theorem exists_between {c : Char} {xs ys before zs : List Char} (hc : c ∉ xs) (h : xs ++ ys = before ++ c :: zs) :
    ∃ between, before = xs ++ between ∧ ys = between ++ c :: zs := by
  rcases List.append_eq_append_iff.mp h with ⟨between, hbefore, hys⟩ | ⟨between, rfl, hzs⟩
  · exact ⟨between, hbefore, hys⟩
  · cases between with
    | nil => exact ⟨[], by simp, hzs.symm⟩
    | cons d between =>
      obtain ⟨rfl, -⟩ := List.cons.inj hzs
      exact absurd (List.mem_append_right _ List.mem_cons_self) hc

/-- The group that a part refers to. -/
def Part.group? : Part → Option Nat
  | plain _ => none
  | capture n _ _ => some n

/-- The groups that the placeholders of a name refer to. -/
def groups (cs : List Char) : List Nat := (parts cs).filterMap Part.group?

theorem mem_groups_of_capture {k : Nat} (h : .capture k change written ∈ parts cs) : k ∈ groups cs :=
  List.mem_filterMap.mpr ⟨_, h, rfl⟩

/-- What is read as a placeholder of a name stands in it. -/
theorem mentions_of_mem_groups {k : Nat} (h : k ∈ groups cs) : ∃ n, Mentions cs n ∧ k = min n maxWord := by
  induction cs using parts.induct with
  | case1 => simp [groups, parts] at h
  | case2 cs p rest hp _ ih =>
    obtain ⟨n, change, written, rfl, htext, hn⟩ := placeholder?_eq_some_iff.mp hp
    simp only [groups, parts_of_placeholder hp, List.filterMap_cons, Part.group?] at h
    rcases List.mem_cons.mp h with rfl | h
    · exact ⟨n, ⟨[], change, written, rest, htext, hn⟩, rfl⟩
    · obtain ⟨m, ⟨before, change', written', after, rfl, hm⟩, hk⟩ := ih h
      exact ⟨m, ⟨written ++ before, change', written', after, by rw [htext, List.append_assoc], hm⟩, hk⟩
  | case3 cs hp ih =>
    rw [groups, parts_of_none hp, List.filterMap_cons_none rfl] at h
    obtain ⟨n, ⟨before, change, written, after, rfl, hn⟩, hk⟩ := ih h
    exact ⟨n, ⟨'$' :: before, change, written, after, rfl, hn⟩, hk⟩
  | case4 c cs hc ih =>
    rw [groups, parts_cons_of_ne hc, List.filterMap_cons_none rfl] at h
    obtain ⟨n, ⟨before, change, written, after, rfl, hn⟩, hk⟩ := ih h
    exact ⟨n, ⟨c :: before, change, written, after, rfl, hn⟩, hk⟩

/-- A placeholder that stands in a name is read, wherever it stands. -/
theorem capture_mem_parts {before : List Char} (htext : cs = before ++ (written ++ rest))
    (hn : IsPlaceholder n change written rest) : .capture (min n maxWord) change written ∈ parts cs := by
  obtain ⟨tail, htail, -⟩ := hn.head
  induction cs using parts.induct generalizing before with
  | case1 => simp [htail] at htext
  | case2 cs p after hp _ ih =>
    rw [parts_of_placeholder hp]
    cases before with
    | nil =>
      have hread := placeholder?_eq_some_iff.mpr ⟨n, change, written, rfl, htext, hn⟩
      obtain ⟨rfl, -⟩ := Prod.mk.inj (Option.some.inj (hread.symm.trans hp))
      exact List.mem_cons_self
    | cons b before =>
      -- The placeholder that was read holds no other dollar, so that this one begins behind it.
      obtain ⟨_, _, _, rfl, hread, hm⟩ := placeholder?_eq_some_iff.mp hp
      obtain ⟨readTail, rfl, hdollar⟩ := hm.head
      have hcs : readTail ++ after = before ++ '$' :: (tail ++ rest) := by
        rw [htail] at htext
        exact (List.cons.inj hread).2.symm.trans (List.cons.inj htext).2
      obtain ⟨between, -, hafter⟩ := exists_between hdollar hcs
      have hstands : after = between ++ (written ++ rest) := by rw [hafter, htail, List.cons_append]
      exact List.mem_cons_of_mem _ (ih hstands)
  | case3 cs hp ih =>
    rw [parts_of_none hp]
    cases before with
    | nil =>
      have hread := placeholder?_eq_some_iff.mpr ⟨n, change, written, rfl, htext, hn⟩
      cases hread.symm.trans hp
    | cons b before => exact List.mem_cons_of_mem _ (ih (List.cons.inj htext).2)
  | case4 c cs hc ih =>
    rw [parts_cons_of_ne hc]
    cases before with
    | nil =>
      rw [htail] at htext
      exact absurd (List.cons.inj htext).1 hc
    | cons b before => exact List.mem_cons_of_mem _ (ih (List.cons.inj htext).2)

/-- **The groups of a name** are those that it mentions, where the greatest word stands for any number beyond
it. -/
theorem mem_groups_iff {k : Nat} : k ∈ groups cs ↔ ∃ n, Mentions cs n ∧ k = min n maxWord := by
  refine ⟨mentions_of_mem_groups, ?_⟩
  rintro ⟨n, ⟨before, change, written, rest, htext, hn⟩, rfl⟩
  exact mem_groups_of_capture (capture_mem_parts htext hn)

/-! ### Names without placeholders -/

/-- A name without placeholders. -/
def IsPlain (n : ScopeName) : Prop := ∀ p ∈ parts n.source.toList, ∃ c, p = .plain c

theorem placeholder?_of_marks (h : marksPlaceholder ('$' :: cs) = false) :
    placeholder? cs = none ∧ marksPlaceholder cs = false := by
  cases cs with
  | nil => exact ⟨rfl, rfl⟩
  | cons c cs =>
    simp only [marksPlaceholder, Bool.or_eq_false_iff, beq_eq_false_iff_ne] at h
    obtain ⟨⟨hdigit, hbrace⟩, hrest⟩ := h
    refine ⟨?_, hrest⟩
    have hdigits : (c :: cs).takeWhile Char.isDigit = [] := by simp [hdigit]
    simp only [placeholder?, hdigits, List.isEmpty_nil, Bool.not_true, Bool.false_eq_true, if_false]
    split
    · rename_i hcs
      exact absurd (List.cons.inj hcs).1 hbrace
    · rfl

/-- A name in which nothing marks a placeholder has none. -/
theorem isPlain_of_marks (h : marksPlaceholder cs = false) : ∀ p ∈ parts cs, ∃ c, p = .plain c := by
  induction cs using parts.induct with
  | case1 => simp [parts]
  | case2 cs p rest hp _ ih =>
    rw [(placeholder?_of_marks h).1] at hp
    cases hp
  | case3 cs hp ih =>
    rw [parts_of_none hp, List.forall_mem_cons]
    exact ⟨⟨'$', rfl⟩, ih (placeholder?_of_marks h).2⟩
  | case4 c cs hc ih =>
    rw [parts_cons_of_ne hc, List.forall_mem_cons]
    refine ⟨⟨c, rfl⟩, ih ?_⟩
    rw [marksPlaceholder] at h
    · exact h
    · rintro d ds rfl rfl
      exact hc rfl

/-! ### Substitution -/

section

variable {line : List Char} {captures : Captures}

/-- **Where no group has a text the name is left as it is.** -/
theorem substitute_eq_self (h : ∀ k ∈ groups cs, captured? line captures k = none) :
    substitute cs line captures = cs := by
  have kept : ∀ p ∈ parts cs, p.resolve line captures = p.text := by
    intro p hp
    cases p with
    | plain c => rfl
    | capture k change written => rw [Part.resolve, h k (mem_groups_of_capture hp), Part.text]
  rw [substitute, List.flatMap_congr kept, flatten_parts]

/-- The greatest word stands for any number beyond it, as no group has such a number. -/
theorem captured?_min (hcount : captures.length ≤ maxWord) (n : Nat) :
    captured? line captures (min n maxWord) = captured? line captures n := by
  rcases Nat.le_total n maxWord with hn | hn
  · rw [Nat.min_eq_left hn]
  · have hlast : captures[maxWord]? = none := List.getElem?_eq_none hcount
    have hbeyond : captures[n]? = none := List.getElem?_eq_none (Nat.le_trans hcount hn)
    rw [Nat.min_eq_right hn, captured?, captured?, hlast, hbeyond]

/-- A name without placeholders is left as it is in every match. -/
theorem substitute_of_isPlain (h : ∀ p ∈ parts cs, ∃ c, p = .plain c) : substitute cs line captures = cs := by
  refine substitute_eq_self fun k hk => ?_
  obtain ⟨p, hp, hgroup⟩ := List.mem_filterMap.mp hk
  obtain ⟨c, rfl⟩ := h p hp
  cases hgroup

/-- A name without placeholders stands for the same scopes in every match. -/
theorem resolve_of_isPlain {n : ScopeName} (hn : n = .ofText n.source) (h : n.IsPlain)
    (line : List Char) (captures : Captures) :
    n.resolve line captures = Scope.parseNames n.source.toList := by
  have hscopes : n.scopes = Scope.parseNames n.source.toList := by rw [hn]; rfl
  rw [resolve, substitute_of_isPlain h, hscopes]
  split <;> rfl

end

/-- **What a name stands for in a match**: the scopes of the name with the captured texts put in, also where those
that it was read as are used because nothing marks a placeholder. A name that mentions no group with a text is
left as it is, whatever else begins with a dollar. A word can count the groups of a match, so that a number that
is too long for a word mentions none of them. -/
theorem resolve_substitutes (source : String) (line : List Char) (captures : Captures) :
    (ofText source).resolve line captures = Scope.parseNames (substitute source.toList line captures) ∧
    (captures.length ≤ maxWord → (∀ n, Mentions source.toList n → captured? line captures n = none) →
      substitute source.toList line captures = source.toList) := by
  constructor
  · rw [resolve]
    split
    · rfl
    · rename_i hmarks
      rw [substitute_of_isPlain (isPlain_of_marks (Bool.eq_false_iff.mpr hmarks))]
      rfl
  · intro hcount hnone
    refine substitute_eq_self fun k hk => ?_
    obtain ⟨n, hn, rfl⟩ := mem_groups_iff.mp hk
    rw [captured?_min hcount, hnone n hn]

/-- A name with a group that took no part, one that there is not, one whose number is too long, and placeholders
of a group with a text that are broken. -/
def brokenText : String :=
  "a.$1 $x $\x7b2:/upcase $\x7b2:upcase\x7d $99999999999999999999 $\x7b+7:/downcase\x7d $"

theorem resolve_substitutes_brokenText :
    (Mentions brokenText.toList 1 ∧ (∃ n, maxWord ≤ n ∧ Mentions brokenText.toList n) ∧
      ∀ n, Mentions brokenText.toList n → captured? ['a', 'b'] [some (0, 2), none, some (0, 2)] n = none) ∧
    (ofText brokenText).resolve ['a', 'b'] [some (0, 2), none, some (0, 2)] =
      Scope.parseNames brokenText.toList := by
  let captures : Captures := [some (0, 2), none, some (0, 2)]
  have hcount : captures.length ≤ maxWord := by decide
  have hgroups : groups brokenText.toList = [1, maxWord, 7] := by decide +kernel
  have mentioned : ∀ k, k ∈ [1, maxWord, 7] ↔ ∃ n, Mentions brokenText.toList n ∧ k = min n maxWord := by
    intro k
    rw [← hgroups, mem_groups_iff]
  have hfirst : Mentions brokenText.toList 1 := by
    obtain ⟨n, hn, hone⟩ := (mentioned 1).mp (by simp)
    have hn1 : n = 1 := by
      rw [maxWord] at hone
      omega
    exact hn1 ▸ hn
  have hlong : ∃ n, maxWord ≤ n ∧ Mentions brokenText.toList n := by
    obtain ⟨n, hn, hmax⟩ := (mentioned maxWord).mp (by simp)
    exact ⟨n, by omega, hn⟩
  have hnone : ∀ n, Mentions brokenText.toList n → captured? ['a', 'b'] captures n = none := by
    intro n hn
    have quiet : ∀ k ∈ [1, maxWord, 7], captured? ['a', 'b'] captures k = none := by decide
    rw [← captured?_min hcount]
    exact quiet _ ((mentioned _).mpr ⟨n, hn, rfl⟩)
  obtain ⟨hresolve, hsame⟩ := resolve_substitutes brokenText ['a', 'b'] captures
  exact ⟨⟨hfirst, hlong, hnone⟩, hresolve.trans (congrArg Scope.parseNames (hsame hcount hnone))⟩

end ScopeName
end ScopeLexer
