/-
# JSON text is read back

A value is laid out with or without blanks between its parts; read as JSON, either text gives the draft of
that value. Texts in quotes come back character by character, and whole numbers of 64 bits digit by digit.

Key definitions: `draftOf`, `Value.depth`, `Layout`, `Layout.value`, `Atom.Exact`.
Key theorems: `readQuoted_encode`, `readNumber_whole`, `Layout.read_value`, `read_compact`, `read_pretty`.
-/
import ScopeLexer.Json.Printer
import ScopeLexer.Proofs.DecimalDigits
import ScopeLexer.Proofs.SoundValues

namespace ScopeLexer
namespace Json

open Decimal

/-! ### Texts in quotes -/

/-- A short escape is read as what it stands for. -/
theorem readBody_short {e c : Char} (he : shortEscape? e = some c) (seen rest : List Char) :
    readBody seen ('\\' :: e :: rest) = readBody (c :: seen) rest := by
  have hu : e ≠ 'u' := by
    rintro rfl
    cases he
  rw [readBody.eq_def]
  split
  case h_4 c' rest' _ _ heq =>
    obtain ⟨rfl, rfl⟩ : e = c' ∧ rest = rest' := by simpa using heq
    rw [he]
  all_goals grind

theorem hexDigit?_hexDigit : ∀ n < 16, Text.hexDigit? (hexDigit n) = some n := by decide

theorem unitOf?_digits {n : Nat} (h : n < 65536) :
    unitOf? (hexDigit (n / 4096 % 16)) (hexDigit (n / 256 % 16)) (hexDigit (n / 16 % 16)) (hexDigit (n % 16)) =
      some n := by
  have hdigit : ∀ m, Text.hexDigit? (hexDigit (m % 16)) = some (m % 16) := fun m =>
    hexDigit?_hexDigit (m % 16) (Nat.mod_lt m (by decide))
  have hvalue : ((n / 4096 % 16 * 16 + n / 256 % 16) * 16 + n / 16 % 16) * 16 + n % 16 = n := by omega
  simp only [unitOf?, hdigit, Option.bind_eq_bind, Option.bind_some, Option.pure_def, hvalue]

/-- Four hexadecimal digits are read as the character they number. -/
theorem readBody_unit {n : Nat} (h : n < 0xD800) (seen rest : List Char) :
    readBody seen (unitEscape n ++ rest) = readBody (Char.ofNat n :: seen) rest := by
  have hunit := unitOf?_digits (n := n) (by omega)
  have hhigh : ¬(0xD800 ≤ n ∧ n < 0xDC00) := by omega
  have hlow : ¬(0xDC00 ≤ n ∧ n < 0xE000) := by omega
  have hpair : ¬(0xD800 ≤ n ∧ n < 0xE000) := by omega
  simp only [unitEscape, List.cons_append, List.nil_append]
  rw [readBody.eq_def]
  split
  · simp_all
  · rename_i heq
    simp only [List.cons.injEq, true_and] at heq
    obtain ⟨rfl, rfl, rfl, rfl, rfl⟩ := heq
    simp only [hunit, hhigh, hlow, ↓reduceIte]
  · rename_i heq
    simp only [List.cons.injEq, true_and] at heq
    obtain ⟨rfl, rfl, rfl, rfl, rfl⟩ := heq
    simp only [hunit, hpair, ↓reduceIte]
  all_goals grind

theorem readBody_plain {c : Char} (hquote : c ≠ '"') (hslash : c ≠ '\\') (hcontrol : ¬c.toNat < 32)
    (seen rest : List Char) : readBody seen (c :: rest) = readBody (c :: seen) rest := by
  rw [readBody.eq_def]
  split
  case h_5 c' rest' _ _ _ heq =>
    obtain ⟨rfl, rfl⟩ := List.cons.inj heq
    rw [if_neg hcontrol]
  all_goals grind

/-- An encoded character is read as that character. -/
theorem readBody_encodeChar (c : Char) (seen rest : List Char) :
    readBody seen (encodeChar c ++ rest) = readBody (c :: seen) rest := by
  have hof : ∀ {n : Nat}, c.toNat = n → some (Char.ofNat n) = some c := fun h => by
    rw [← h, Char.ofNat_toNat]
  rw [encodeChar]
  split
  · subst_vars
    exact readBody_short rfl seen rest
  split
  · subst_vars
    exact readBody_short rfl seen rest
  split
  · subst_vars
    exact readBody_short rfl seen rest
  split
  · subst_vars
    exact readBody_short rfl seen rest
  split
  · subst_vars
    exact readBody_short rfl seen rest
  split
  · exact readBody_short (show shortEscape? 'b' = some c from hof ‹_›) seen rest
  split
  · exact readBody_short (show shortEscape? 'f' = some c from hof ‹_›) seen rest
  split
  · rw [readBody_unit (by omega), Char.ofNat_toNat]
  · exact readBody_plain ‹_› ‹_› ‹_› seen rest

/-- **A text in quotes is read back.** -/
theorem readQuoted_encode (cs rest : List Char) :
    readQuoted (encode cs ++ '"' :: rest) = some (cs, rest) := by
  have general : ∀ cs seen, readBody seen (encode cs ++ '"' :: rest) = some (seen.reverse ++ cs, rest) := by
    intro cs
    induction cs with
    | nil =>
      intro seen
      simp [encode, readBody]
    | cons c cs ih =>
      intro seen
      have hsplit : encode (c :: cs) ++ '"' :: rest = encodeChar c ++ (encode cs ++ '"' :: rest) := by
        simp [encode]
      rw [hsplit, readBody_encodeChar, ih]
      simp
  exact general cs []

/-! ### Whole numbers -/

/-- What may follow a whole number: nothing that goes on with it. -/
def Stops (rest : List Char) : Prop := ∀ c ∈ rest.head?, ¬c.isDigit ∧ c ≠ '.' ∧ ¬isExponentMark c

theorem significandFrom_digits {ds rest : List Char} (hds : ∀ d ∈ ds, d.isDigit) (hrest : Stops rest)
    {value : Nat} (hle : Nat.ofDigitChars 10 ds value ≤ maxWord) :
    significandFrom value (ds ++ rest) = (Nat.ofDigitChars 10 ds value, 0, rest) := by
  induction ds generalizing value with
  | nil =>
    cases rest with
    | nil => rfl
    | cons c rest =>
      rw [List.nil_append, significandFrom, if_neg (hrest c rfl).1]
      rfl
  | cons d ds ih =>
    obtain ⟨hd, hds⟩ := List.forall_mem_cons.mp hds
    have hnext : Nat.ofDigitChars 10 [d] value ≤ maxWord := Nat.le_trans (le_ofDigitChars _ ds) hle
    rw [List.cons_append, significandFrom, if_pos hd, if_pos hnext]
    exact ih hds hle

theorem readTail_stops (negative : Bool) (n : Nat) {rest : List Char} (h : Stops rest) :
    readTail negative n 0 rest = some (readTail.wholeOr negative n, rest) := by
  cases rest with
  | nil => rfl
  | cons c rest =>
    obtain ⟨-, hpoint, hmark⟩ := h c rfl
    rw [readTail.eq_def]
    split
    · simp_all
    · simp_all
    · simp_all

/-- Digits of a word are read, after a sign or without one. -/
theorem readNumber_digits (negative : Bool) {n : Nat} (hn : n ≤ maxWord) {rest : List Char}
    (hrest : Stops rest) :
    readNumber ((if negative then ['-'] else []) ++ (Nat.toDigits 10 n ++ rest)) =
      some (readTail.wholeOr negative n, rest) := by
  have hall : ∀ d ∈ Nat.toDigits 10 n, d.isDigit := fun _ =>
    Nat.isDigit_of_mem_toDigits (by decide) (by decide)
  have hsignificand : significandFrom 0 (Nat.toDigits 10 n ++ rest) = (n, 0, rest) := by
    rw [significandFrom_digits hall hrest (by rwa [Nat.ofDigitChars_ten_toDigits]),
      Nat.ofDigitChars_ten_toDigits]
  obtain ⟨d, ds, hds⟩ := List.exists_cons_of_ne_nil (Nat.toDigits_ne_nil (b := 10) (n := n))
  have hd : d.isDigit := hall d (hds ▸ List.mem_cons_self)
  have hzero : d = '0' → ds = [] ∧ n = 0 := by
    rintro rfl
    rcases Nat.eq_zero_or_pos n with rfl | hpos
    · exact ⟨(List.cons.inj hds).2.symm, rfl⟩
    · exact absurd (by rw [hds]; rfl) (head_toDigits hpos)
  rw [hds, List.cons_append] at hsignificand ⊢
  rw [readNumber.eq_def]
  split
  rename_i sign cs heq
  obtain ⟨rfl, rfl⟩ : negative = sign ∧ d :: (ds ++ rest) = cs := by
    cases negative with
    | true => simpa using heq
    | false =>
      split at heq
      · rename_i cs' hcs
        obtain rfl : d = '-' := (List.cons.inj hcs).1
        cases hd
      · simpa using heq
  split
  · rename_i c rest' hcs
    obtain ⟨rfl, htail⟩ := List.cons.inj hcs
    obtain ⟨rfl, rfl⟩ := hzero rfl
    obtain rfl : rest = c :: rest' := htail
    rw [if_neg (hrest c rfl).1, readTail_stops negative 0 hrest]
  · rename_i hcs
    obtain ⟨rfl, htail⟩ := List.cons.inj hcs
    obtain ⟨rfl, rfl⟩ := hzero rfl
    obtain rfl : rest = [] := htail
    exact readTail_stops negative 0 hrest
  · rename_i hcs
    obtain ⟨rfl, rfl⟩ := List.cons.inj hcs
    rw [if_pos hd, hsignificand]
    exact readTail_stops negative n hrest
  · rename_i hcs
    cases hcs

/-- **A whole number of 64 bits is read back.** -/
theorem readNumber_whole {n : Int} (h : fitsWord n) {rest : List Char} (hrest : Stops rest) :
    readNumber ((Number.whole n).text.toList ++ rest) = some (.whole n, rest) := by
  have htext : (Number.whole n).text.toList ++ rest =
      (if decide (n < 0) then ['-'] else []) ++ (Nat.toDigits 10 n.natAbs ++ rest) := by
    show (toString n).toList ++ rest = _
    simp only [Decimal.toList_toString, decide_eq_true_eq, List.append_assoc]
  simp only [fitsWord, Bool.and_eq_true, decide_eq_true_eq] at h
  have hrange : -0x8000000000000000 ≤ n ∧ n ≤ 0xFFFFFFFFFFFFFFFF := h
  have hle : n.natAbs ≤ maxWord := by
    simp only [maxWord]
    omega
  have hwhole : readTail.wholeOr (decide (n < 0)) n.natAbs = .whole n := by
    by_cases hn : n < 0
    · have habs : -(n.natAbs : Int) = n := by omega
      have hzero : n.natAbs ≠ 0 := by omega
      have hsigned : Decimal.fitsSigned n :=
        Bool.and_eq_true_iff.mpr ⟨decide_eq_true hrange.1,
          decide_eq_true (Int.le_trans (Int.le_of_lt hn) (by decide))⟩
      simp only [readTail.wholeOr, hn, decide_true, habs, hzero, hsigned, Bool.not_true, Bool.false_eq_true, or_self,
        ↓reduceIte]
    · have habs : (n.natAbs : Int) = n := by omega
      simp only [readTail.wholeOr, hn, decide_false, habs, Bool.not_false, ↓reduceIte]
  rw [htext, ← hwhole]
  exact readNumber_digits (decide (n < 0)) hle hrest

/-! ### Drafts of values -/

mutual

/-- The draft of a value. -/
def draftOf : Value → Draft
  | .null => .scalar .null
  | .bool b => .scalar (.bool b)
  | .number n => .scalar (.number n)
  | .string s => .scalar (.string s)
  | .array items => .list (draftsOf items) true
  | .object members => .map (memberDrafts members) true
  termination_by structural v => v

/-- The drafts of several values. -/
def draftsOf : List Value → List Draft
  | [] => []
  | v :: vs => draftOf v :: draftsOf vs
  termination_by structural vs => vs

/-- The drafts of members. -/
def memberDrafts : List (String × Value) → List (Option Atom × Draft)
  | [] => []
  | m :: ms => memberDraft m :: memberDrafts ms
  termination_by structural ms => ms

/-- The draft of a member. -/
def memberDraft : String × Value → Option Atom × Draft
  | (key, v) => (some (.string key), draftOf v)
  termination_by structural m => m

end

mutual

/-- How many lists and objects are nested in each other in a value. -/
def Value.depth : Value → Nat
  | .array items => depthOfItems items + 1
  | .object members => depthOfMembers members + 1
  | .null | .bool _ | .number _ | .string _ => 0
  termination_by structural v => v

/-- The depth of the deepest of several values. -/
def depthOfItems : List Value → Nat
  | [] => 0
  | v :: vs => max v.depth (depthOfItems vs)
  termination_by structural vs => vs

/-- The depth of the deepest of some members. -/
def depthOfMembers : List (String × Value) → Nat
  | [] => 0
  | m :: ms => max (depthOfMember m) (depthOfMembers ms)
  termination_by structural ms => ms

/-- The depth of a member. -/
def depthOfMember : String × Value → Nat
  | (_, v) => v.depth
  termination_by structural m => m

end

/-- An atom that is no double, and no whole number out of range. -/
def Atom.Exact : Atom → Prop
  | .number (.whole n) => fitsWord n
  | .number (.double _) => False
  | .null | .bool _ | .string _ => True

/-! ### Layouts -/

/-- Nothing but blanks. -/
def Blank (cs : List Char) : Prop := ∀ c ∈ cs, isBlank c

theorem Blank.nil : Blank [] := nofun

theorem skipBlanks_append {b : List Char} (h : Blank b) (cs : List Char) :
    skipBlanks (b ++ cs) = skipBlanks cs := List.dropWhile_append_of_pos h

theorem skipBlanks_cons {c : Char} (h : ¬isBlank c) (cs : List Char) : skipBlanks (c :: cs) = c :: cs := by
  rw [skipBlanks, List.dropWhile_cons_of_neg h]

/-- The blanks before the parts of a value and before its end, by level, and those after a colon. -/
structure Layout where
  gap : Nat → List Char
  space : List Char
  gap_blank : ∀ level, Blank (gap level)
  space_blank : Blank space

namespace Layout

variable (l : Layout)

mutual

/-- A value, where so many lists and objects stand around it. -/
def value (level : Nat) : Value → List Char
  | .null => ['n', 'u', 'l', 'l']
  | .bool true => ['t', 'r', 'u', 'e']
  | .bool false => ['f', 'a', 'l', 's', 'e']
  | .number n => n.text.toList
  | .string s => quoted s.toList
  | .array [] => ['[', ']']
  | .array vs => '[' :: (l.gap (level + 1) ++ (items (level + 1) vs ++ (l.gap level ++ [']'])))
  | .object [] => ['\x7b', '\x7d']
  | .object ms => '\x7b' :: (l.gap (level + 1) ++ (members (level + 1) ms ++ (l.gap level ++ ['\x7d'])))

/-- Items, without the blanks before the first one. -/
def items (level : Nat) : List Value → List Char
  | [] => []
  | [v] => value level v
  | v :: vs => value level v ++ ',' :: (l.gap level ++ items level vs)

/-- Members, without the blanks before the first one. -/
def members (level : Nat) : List (String × Value) → List Char
  | [] => []
  | [(k, v)] => quoted k.toList ++ ':' :: (l.space ++ value level v)
  | (k, v) :: ms =>
    quoted k.toList ++ ':' :: (l.space ++ value level v) ++ ',' :: (l.gap level ++ members level ms)

end

end Layout

/-- No blanks at all. -/
def Layout.compact : Layout where
  gap _ := []
  space := []
  gap_blank _ := .nil
  space_blank := .nil

/-- Each part on a line of its own, and one blank after a colon. -/
def Layout.pretty : Layout where
  gap level := '\n' :: (indent level).toList
  space := [' ']
  gap_blank level := by
    intro c hc
    simp only [indent, String.toList_ofList, List.mem_cons, List.mem_replicate] at hc
    rcases hc with rfl | ⟨-, rfl⟩ <;> rfl
  space_blank := by
    intro c hc
    obtain rfl := List.mem_singleton.mp hc
    rfl

namespace Layout

variable (l : Layout)

/-! ### The two printers -/

theorem compact_gap (level : Nat) : compact.gap level = [] := rfl

theorem pretty_gap (level : Nat) : pretty.gap level = '\n' :: (indent level).toList := rfl

mutual

theorem compact_value (level : Nat) : ∀ v : Value, compact.value level v = v.compact.toList
  | .null => rfl
  | .bool true => rfl
  | .bool false => rfl
  | .number n => by rw [value, Value.compact]
  | .string s => by rw [value, Value.compact, quote, String.toList_ofList]
  | .array [] => rfl
  | .array (v :: vs) => by
    have hitems := compact_items (level + 1) (v :: vs)
    simp only [value, Value.compact, hitems, compact_gap, String.toList_append, List.nil_append]
    rfl
  | .object [] => rfl
  | .object (m :: ms) => by
    have hmembers := compact_members (level + 1) (m :: ms)
    simp only [value, Value.compact, hmembers, compact_gap, String.toList_append, List.nil_append]
    rfl

theorem compact_items (level : Nat) : ∀ vs : List Value, compact.items level vs = (compactItems vs).toList
  | [] => rfl
  | [v] => by rw [items, compactItems, compact_value level v]
  | v :: w :: vs => by
    simp only [items, compactItems, compact_value level v, compact_items level (w :: vs), compact_gap,
      String.toList_append, List.nil_append, List.append_assoc]
    rfl

theorem compact_members (level : Nat) : ∀ ms : List (String × Value),
    compact.members level ms = (compactMembers ms).toList
  | [] => rfl
  | [(k, v)] => by
    simp only [members, compactMembers, compact_value level v, quote, String.toList_append,
      String.toList_ofList, List.append_assoc]
    rfl
  | (k, v) :: m :: ms => by
    simp only [members, compactMembers, compact_value level v, compact_members level (m :: ms), quote,
      compact_gap, String.toList_append, String.toList_ofList, List.nil_append, List.append_assoc]
    rfl

end

mutual

theorem pretty_value (level : Nat) : ∀ v : Value, pretty.value level v = (v.prettyAt level).toList
  | .null => by
    rw [value, Value.prettyAt]
    rfl
  | .bool true => by
    rw [value, Value.prettyAt]
    rfl
  | .bool false => by
    rw [value, Value.prettyAt]
    rfl
  | .number n => by rw [value, Value.prettyAt]
  | .string s => by rw [value, Value.prettyAt, quote, String.toList_ofList]
  | .array [] => by
    rw [value, Value.prettyAt]
    rfl
  | .array (v :: vs) => by
    simp only [value, Value.prettyAt, ← pretty_items (level + 1) (v :: vs) nofun, pretty_gap,
      String.toList_append, List.cons_append, List.append_assoc]
    rfl
  | .object [] => by
    rw [value, Value.prettyAt]
    rfl
  | .object (m :: ms) => by
    simp only [value, Value.prettyAt, ← pretty_members (level + 1) (m :: ms) nofun, pretty_gap,
      String.toList_append, List.cons_append, List.append_assoc]
    rfl

/-- The blanks of a line stand before its item. -/
theorem pretty_items (level : Nat) : ∀ vs : List Value, vs ≠ [] →
    (indent level).toList ++ pretty.items level vs = (prettyItems level vs).toList
  | [v], _ => by
    rw [items, prettyItems, pretty_value level v, String.toList_append]
  | v :: w :: vs, _ => by
    simp only [items, prettyItems, pretty_value level v, ← pretty_items level (w :: vs) nofun, pretty_gap,
      String.toList_append, List.cons_append, List.append_assoc]
    rfl

theorem pretty_members (level : Nat) : ∀ ms : List (String × Value), ms ≠ [] →
    (indent level).toList ++ pretty.members level ms = (prettyMembers level ms).toList
  | [(k, v)], _ => by
    simp only [members, prettyMembers, pretty_value level v, quote, String.toList_append,
      String.toList_ofList, List.append_assoc]
    rfl
  | (k, v) :: m :: ms, _ => by
    simp only [members, prettyMembers, pretty_value level v, ← pretty_members level (m :: ms) nofun, quote,
      pretty_gap, String.toList_append, String.toList_ofList, List.cons_append, List.append_assoc]
    rfl

end

/-! ### Reading a layout -/

/-- A text that goes on after blanks with something that ends no list and no object. -/
def Begins (cs : List Char) : Prop := ∃ c cs', cs = c :: cs' ∧ ¬isBlank c ∧ c ≠ ']' ∧ c ≠ '\x7d'

theorem Begins.append {cs : List Char} (h : Begins cs) (rest : List Char) : Begins (cs ++ rest) := by
  obtain ⟨c, cs', rfl, hc⟩ := h
  exact ⟨c, cs' ++ rest, rfl, hc⟩

/-- A whole number begins with a sign or a digit. -/
theorem whole_head (n : Int) :
    ∃ c cs, (Number.whole n).text.toList = c :: cs ∧ (c = '-' ∨ c.isDigit) := by
  cases n with
  | ofNat m =>
    obtain ⟨d, ds, hds⟩ := List.exists_cons_of_ne_nil (Nat.toDigits_ne_nil (b := 10) (n := m))
    have hd : d ∈ Nat.toDigits 10 m := hds ▸ List.mem_cons_self
    exact ⟨d, ds, Nat.toList_repr.trans hds, .inr (Nat.isDigit_of_mem_toDigits (by decide) (by decide) hd)⟩
  | negSucc m =>
    refine ⟨'-', (m + 1).repr.toList, ?_, .inl rfl⟩
    show ("-" ++ (m + 1).repr).toList = _
    rw [String.toList_append]
    rfl

/-- A sign or a digit begins no other value, and is no blank. -/
theorem ne_of_number {c : Char} (h : c = '-' ∨ c.isDigit) :
    ∀ d ∈ [' ', '\n', '\t', '\r', ']', '\x7d', '"', '[', '\x7b', 'n', 't', 'f'], c ≠ d := by
  rintro d hd rfl
  rcases h with rfl | h
  · revert hd
    decide
  · simp only [List.mem_cons, List.not_mem_nil, or_false] at hd
    rcases hd with rfl | rfl | rfl | rfl | rfl | rfl | rfl | rfl | rfl | rfl | rfl | rfl <;> cases h

theorem not_blank_of_number {c : Char} (h : c = '-' ∨ c.isDigit) : ¬isBlank c := by
  have hne := ne_of_number h
  simp only [List.forall_mem_cons] at hne
  simp [isBlank, hne]

theorem begins_value {v : Value} (h : (draftOf v).All Atom.Exact) (level : Nat) :
    Begins (l.value level v) := by
  cases v with
  | null => exact ⟨'n', _, rfl, by decide⟩
  | bool b => cases b <;> exact ⟨_, _, rfl, by decide⟩
  | number n =>
    cases n with
    | whole n =>
      obtain ⟨c, cs, hcs, hc⟩ := whole_head n
      exact ⟨c, cs, hcs, not_blank_of_number hc, ne_of_number hc _ (by simp), ne_of_number hc _ (by simp)⟩
    | double d =>
      cases h with
      | scalar h => exact h.elim
  | string s => exact ⟨'"', _, rfl, by decide⟩
  | array vs => cases vs <;> exact ⟨'[', _, rfl, by decide⟩
  | object ms => cases ms <;> exact ⟨'\x7b', _, rfl, by decide⟩

section Steps

variable {fuel depth : Nat} {b cs rest : List Char}

/-- A number is read as such. -/
theorem readValue_number {c : Char} (hb : Blank b) (hc : c = '-' ∨ c.isDigit) {n : Number}
    (h : readNumber (c :: cs) = some (n, rest)) :
    Draft.readValue (fuel + 1) depth (b ++ c :: cs) = (.scalar (.number n), rest) := by
  have hne := ne_of_number hc
  simp only [List.forall_mem_cons] at hne
  rw [Draft.readValue, skipBlanks_append hb, skipBlanks_cons (not_blank_of_number hc)]
  split
  case h_8 =>
    rw [h]
  all_goals simp_all

/-- A text in quotes is read as such. -/
theorem readValue_string (hb : Blank b) (s : String) :
    Draft.readValue (fuel + 1) depth (b ++ (quoted s.toList ++ rest)) = (.scalar (.string s), rest) := by
  have hquoted : quoted s.toList ++ rest = '"' :: (encode s.toList ++ '"' :: rest) := by
    simp [quoted]
  rw [Draft.readValue, skipBlanks_append hb, hquoted, skipBlanks_cons (by decide)]
  simp only [readQuoted_encode, String.ofList_toList]

/-- A list with items is read item by item. -/
theorem readValue_list {g : List Char} (hb : Blank b) (hg : Blank g) (hcs : Begins cs) :
    Draft.readValue (fuel + 1) (depth + 1) (b ++ '[' :: (g ++ cs)) =
      (.list (Draft.readItems fuel depth cs).1 (Draft.readItems fuel depth cs).2.1,
        (Draft.readItems fuel depth cs).2.2) := by
  obtain ⟨c, cs, rfl, hc, hend, -⟩ := hcs
  rw [Draft.readValue, skipBlanks_append hb, skipBlanks_cons (by decide)]
  simp only [skipBlanks_append hg, skipBlanks_cons hc]
  split
  · exact absurd (List.cons.inj ‹_›).1 hend
  · rfl

/-- An object with members is read member by member. -/
theorem readValue_map {g : List Char} (hb : Blank b) (hg : Blank g) (hcs : Begins cs) :
    Draft.readValue (fuel + 1) (depth + 1) (b ++ '\x7b' :: (g ++ cs)) =
      (.map (Draft.readMembers fuel depth cs).1 (Draft.readMembers fuel depth cs).2.1,
        (Draft.readMembers fuel depth cs).2.2) := by
  obtain ⟨c, cs, rfl, hc, -, hend⟩ := hcs
  rw [Draft.readValue, skipBlanks_append hb, skipBlanks_cons (by decide)]
  simp only [skipBlanks_append hg, skipBlanks_cons hc]
  split
  · exact absurd (List.cons.inj ‹_›).1 hend
  · rfl

/-- After its last item a list ends. -/
theorem readItems_last {t : Draft} {g : List Char} (hg : Blank g)
    (h : Draft.readValue fuel depth cs = (t, g ++ ']' :: rest)) :
    Draft.readItems (fuel + 1) depth cs = ([t], true, rest) := by
  rw [Draft.readItems, h]
  simp only [skipBlanks_append hg, skipBlanks_cons (show ¬isBlank ']' by decide)]

/-- After a comma a list goes on. -/
theorem readItems_more {t : Draft} {g cs' : List Char} (hg : Blank g) (hcs : Begins cs')
    (h : Draft.readValue fuel depth cs = (t, ',' :: (g ++ cs'))) :
    Draft.readItems (fuel + 1) depth cs =
      (t :: (Draft.readItems fuel depth cs').1, (Draft.readItems fuel depth cs').2) := by
  obtain ⟨c, cs', rfl, hc, hend, -⟩ := hcs
  rw [Draft.readItems, h]
  simp only [skipBlanks_cons (show ¬isBlank ',' by decide), skipBlanks_append hg, skipBlanks_cons hc]
  split
  · exact absurd (List.cons.inj ‹_›).1 hend
  · rfl

/-- A key and the colon after it are read. -/
theorem skipBlanks_key (hb : Blank b) (key : String) :
    skipBlanks (b ++ (quoted key.toList ++ ':' :: cs)) = '"' :: (encode key.toList ++ '"' :: ':' :: cs) := by
  have hquoted : quoted key.toList ++ ':' :: cs = '"' :: (encode key.toList ++ '"' :: ':' :: cs) := by
    simp [quoted]
  rw [skipBlanks_append hb, hquoted, skipBlanks_cons (by decide)]

/-- After its last member an object ends. -/
theorem readMembers_last {key : String} {t : Draft} {g : List Char} (hb : Blank b) (hg : Blank g)
    (h : Draft.readValue fuel depth cs = (t, g ++ '\x7d' :: rest)) :
    Draft.readMembers (fuel + 1) depth (b ++ (quoted key.toList ++ ':' :: cs)) =
      ([(some (.string key), t)], true, rest) := by
  rw [Draft.readMembers, skipBlanks_key hb]
  simp only [readQuoted_encode, skipBlanks_cons (show ¬isBlank ':' by decide), h, skipBlanks_append hg,
    skipBlanks_cons (show ¬isBlank '\x7d' by decide), String.ofList_toList]

/-- After a comma an object goes on. -/
theorem readMembers_more {key : String} {t : Draft} {cs' : List Char} (hb : Blank b)
    (h : Draft.readValue fuel depth cs = (t, ',' :: cs')) :
    Draft.readMembers (fuel + 1) depth (b ++ (quoted key.toList ++ ':' :: cs)) =
      ((some (.string key), t) :: (Draft.readMembers fuel depth cs').1,
        (Draft.readMembers fuel depth cs').2) := by
  rw [Draft.readMembers, skipBlanks_key hb]
  simp only [readQuoted_encode, skipBlanks_cons (show ¬isBlank ':' by decide), h,
    skipBlanks_cons (show ¬isBlank ',' by decide), String.ofList_toList]

end Steps

/-! ### Whole values -/

theorem stops_of_not_digit {c : Char} {cs : List Char} (h : ¬c.isDigit ∧ c ≠ '.' ∧ ¬isExponentMark c) :
    Stops (c :: cs) := by
  rintro d ⟨⟩
  exact h

/-- Blanks and then something that goes on with no number do not go on with a number. -/
theorem stops_append {g cs : List Char} (hg : Blank g) (hcs : Stops cs) : Stops (g ++ cs) := by
  cases g with
  | nil => exact hcs
  | cons c g =>
    refine stops_of_not_digit ?_
    have hc := hg c List.mem_cons_self
    simp only [isBlank, Bool.or_eq_true, beq_iff_eq] at hc
    rcases hc with ((rfl | rfl) | rfl) | rfl <;> decide

/-- The items of a list go on with no number. -/
theorem stops_items_end {e rest : List Char} (he : Blank e) : Stops (e ++ ']' :: rest) :=
  stops_append he (stops_of_not_digit (by decide))

/-- The members of an object go on with no number. -/
theorem stops_members_end {e rest : List Char} (he : Blank e) : Stops (e ++ '\x7d' :: rest) :=
  stops_append he (stops_of_not_digit (by decide))

theorem stops_comma (cs : List Char) : Stops (',' :: cs) := stops_of_not_digit (by decide)

theorem begins_items {v : Value} (h : (draftOf v).All Atom.Exact) (level : Nat) (vs : List Value) :
    Begins (l.items level (v :: vs)) := by
  cases vs with
  | nil => exact l.begins_value h level
  | cons w vs => exact (l.begins_value h level).append _

theorem begins_members (level : Nat) (m : String × Value) (ms : List (String × Value)) :
    Begins (l.members level (m :: ms)) := by
  cases ms <;> exact ⟨'"', _, rfl, by decide⟩

theorem value_array_append (level : Nat) (v : Value) (vs : List Value) (rest : List Char) :
    l.value level (.array (v :: vs)) ++ rest =
      '[' :: (l.gap (level + 1) ++ (l.items (level + 1) (v :: vs) ++ (l.gap level ++ ']' :: rest))) := by
  simp [value]

theorem value_object_append (level : Nat) (m : String × Value) (ms : Members) (rest : List Char) :
    l.value level (.object (m :: ms)) ++ rest =
      '\x7b' :: (l.gap (level + 1) ++ (l.members (level + 1) (m :: ms) ++ (l.gap level ++ '\x7d' :: rest))) := by
  simp [value]

mutual

/-- **A value that is laid out is read back**, with any blanks before it, if it is not nested too deep. -/
theorem read_value : ∀ (v : Value) (level fuel depth : Nat) (b rest : List Char),
    (draftOf v).All Atom.Exact → v.depth ≤ depth → (l.value level v).length ≤ fuel → Blank b →
    Stops rest → Draft.readValue fuel depth (b ++ (l.value level v ++ rest)) = (draftOf v, rest)
  | v, level, 0, depth, b, rest, hexact, _, hfuel, _, _ => by
    obtain ⟨c, cs, hcs, -⟩ := l.begins_value hexact level
    rw [hcs] at hfuel
    cases hfuel
  | .null, level, fuel + 1, depth, b, rest, _, _, _, hb, _ => by
    rw [Draft.readValue, skipBlanks_append hb]
    rfl
  | .bool true, level, fuel + 1, depth, b, rest, _, _, _, hb, _ => by
    rw [Draft.readValue, skipBlanks_append hb]
    rfl
  | .bool false, level, fuel + 1, depth, b, rest, _, _, _, hb, _ => by
    rw [Draft.readValue, skipBlanks_append hb]
    rfl
  | .number (.double d), _, _, _, _, _, hexact, _, _, _, _ => by
    cases hexact with
    | scalar h => exact h.elim
  | .number (.whole n), level, fuel + 1, depth, b, rest, hexact, _, _, hb, hrest => by
    obtain ⟨c, cs, hcs, hc⟩ := whole_head n
    cases hexact with
    | scalar h =>
      have hread := readNumber_whole h hrest
      rw [value, hcs] at *
      exact readValue_number hb hc hread
  | .string s, level, fuel + 1, depth, b, rest, _, _, _, hb, _ => by
    rw [value]
    exact readValue_string hb s
  | .array [], level, fuel + 1, depth, b, rest, _, hdepth, _, hb, _ => by
    obtain ⟨depth, rfl⟩ := Nat.exists_eq_add_of_le' hdepth
    rw [Draft.readValue, skipBlanks_append hb]
    rfl
  | .array (v :: vs), level, fuel + 1, depth, b, rest, hexact, hdepth, hfuel, hb, _ => by
    rw [Value.depth] at hdepth
    obtain ⟨depth, rfl⟩ : ∃ d, depth = d + 1 := ⟨depth - 1, by omega⟩
    have hlength : (l.items (level + 1) (v :: vs)).length < fuel := by
      simp only [value, List.length_cons, List.length_append, List.length_nil] at hfuel
      omega
    cases hexact with
    | list hitems =>
      have hbegins := l.begins_items (hitems (draftOf v) List.mem_cons_self) (level + 1) vs
      have hread := read_items (v :: vs) (level + 1) fuel depth (l.gap level) rest nofun hitems
        (Nat.le_of_succ_le_succ hdepth) hlength (l.gap_blank level)
      rw [value_array_append, readValue_list hb (l.gap_blank _) (hbegins.append _), hread, draftOf]
  | .object [], level, fuel + 1, depth, b, rest, _, hdepth, _, hb, _ => by
    obtain ⟨depth, rfl⟩ := Nat.exists_eq_add_of_le' hdepth
    rw [Draft.readValue, skipBlanks_append hb]
    rfl
  | .object (m :: ms), level, fuel + 1, depth, b, rest, hexact, hdepth, hfuel, hb, _ => by
    rw [Value.depth] at hdepth
    obtain ⟨depth, rfl⟩ : ∃ d, depth = d + 1 := ⟨depth - 1, by omega⟩
    have hlength : (l.members (level + 1) (m :: ms)).length < fuel := by
      simp only [value, List.length_cons, List.length_append, List.length_nil] at hfuel
      omega
    cases hexact with
    | map _ hvalues =>
      have hbegins := l.begins_members (level + 1) m ms
      have hread := read_members (m :: ms) (level + 1) fuel depth [] (l.gap level) rest nofun hvalues
        (Nat.le_of_succ_le_succ hdepth) hlength .nil (l.gap_blank level)
      rw [List.nil_append] at hread
      rw [value_object_append, readValue_map hb (l.gap_blank _) (hbegins.append _), hread, draftOf]

/-- Items that are laid out are read back, up to the end of their list. -/
theorem read_items : ∀ (vs : List Value) (level fuel depth : Nat) (e rest : List Char), vs ≠ [] →
    (∀ t ∈ draftsOf vs, t.All Atom.Exact) → depthOfItems vs ≤ depth → (l.items level vs).length < fuel →
    Blank e →
    Draft.readItems fuel depth (l.items level vs ++ (e ++ ']' :: rest)) = (draftsOf vs, true, rest)
  | [v], level, fuel + 1, depth, e, rest, _, hexact, hdepth, hfuel, he => by
    rw [depthOfItems, depthOfItems, Nat.max_zero] at hdepth
    rw [items] at hfuel
    have hread := read_value v level fuel depth [] (e ++ ']' :: rest)
      (hexact (draftOf v) List.mem_cons_self) hdepth (Nat.le_of_lt_succ hfuel) .nil (stops_items_end he)
    exact readItems_last he hread
  | v :: w :: vs, level, fuel + 1, depth, e, rest, _, hexact, hdepth, hfuel, he => by
    obtain ⟨hv, hvs⟩ := List.forall_mem_cons.mp hexact
    rw [depthOfItems, Nat.max_le] at hdepth
    simp only [items, List.length_append, List.length_cons] at hfuel
    have hbegins := l.begins_items (hvs (draftOf w) List.mem_cons_self) level vs
    have hread := read_value v level fuel depth []
      (',' :: (l.gap level ++ (l.items level (w :: vs) ++ (e ++ ']' :: rest)))) hv hdepth.1 (by omega) .nil
      (stops_comma _)
    have hrest := read_items (w :: vs) level fuel depth e rest nofun hvs hdepth.2 (by omega) he
    have htext : l.items level (v :: w :: vs) ++ (e ++ ']' :: rest) =
        l.value level v ++ ',' :: (l.gap level ++ (l.items level (w :: vs) ++ (e ++ ']' :: rest))) := by
      simp [items]
    rw [List.nil_append] at hread
    rw [htext, readItems_more (l.gap_blank level) (hbegins.append _) hread, hrest]
    rfl

/-- Members that are laid out are read back, up to the end of their object. -/
theorem read_members : ∀ (ms : List (String × Value)) (level fuel depth : Nat) (b e rest : List Char),
    ms ≠ [] → (∀ d ∈ memberDrafts ms, d.2.All Atom.Exact) → depthOfMembers ms ≤ depth →
    (l.members level ms).length < fuel → Blank b → Blank e →
    Draft.readMembers fuel depth (b ++ (l.members level ms ++ (e ++ '\x7d' :: rest))) =
      (memberDrafts ms, true, rest)
  | [(key, v)], level, fuel + 1, depth, b, e, rest, _, hexact, hdepth, hfuel, hb, he => by
    rw [depthOfMembers, depthOfMembers, Nat.max_zero] at hdepth
    simp only [members, List.length_append, List.length_cons] at hfuel
    have hread := read_value v level fuel depth l.space (e ++ '\x7d' :: rest)
      (hexact (memberDraft (key, v)) List.mem_cons_self) hdepth (by omega) l.space_blank
      (stops_members_end he)
    have htext : l.members level [(key, v)] ++ (e ++ '\x7d' :: rest) =
        quoted key.toList ++ ':' :: (l.space ++ (l.value level v ++ (e ++ '\x7d' :: rest))) := by
      simp [members]
    rw [htext, readMembers_last hb he hread]
    rfl
  | (key, v) :: m :: ms, level, fuel + 1, depth, b, e, rest, _, hexact, hdepth, hfuel, hb, he => by
    obtain ⟨hv, hms⟩ := List.forall_mem_cons.mp hexact
    rw [depthOfMembers, Nat.max_le] at hdepth
    simp only [members, List.length_append, List.length_cons] at hfuel
    have hread := read_value v level fuel depth l.space
      (',' :: (l.gap level ++ (l.members level (m :: ms) ++ (e ++ '\x7d' :: rest)))) hv hdepth.1 (by omega)
      l.space_blank (stops_comma _)
    have hrest := read_members (m :: ms) level fuel depth (l.gap level) e rest nofun hms hdepth.2 (by omega)
      (l.gap_blank level) he
    have htext : l.members level ((key, v) :: m :: ms) ++ (e ++ '\x7d' :: rest) =
        quoted key.toList ++ ':' :: (l.space ++ (l.value level v ++
          ',' :: (l.gap level ++ (l.members level (m :: ms) ++ (e ++ '\x7d' :: rest))))) := by
      simp [members]
    rw [htext, readMembers_more hb hread, hrest]
    rfl

end

end Layout

mutual

/-- The value of its draft is the value, if no key stands twice. -/
theorem valueOf?_draftOf : ∀ v : Value, v.Sound → valueOf? (draftOf v) = some v
  | .null, _ => rfl
  | .bool b, _ => rfl
  | .number n, _ => rfl
  | .string s, _ => rfl
  | .array vs, h => by
    rw [draftOf, valueOf?, valuesOf?_draftsOf vs h.items]
    rfl
  | .object ms, h => by
    rw [draftOf, valueOf?, membersOf?_memberDrafts ms h.members]
    show some (Value.object (Members.ofEntries ms)) = _
    rw [Members.ofEntries_eq h.here]

theorem valuesOf?_draftsOf : ∀ vs : List Value, (∀ v ∈ vs, v.Sound) → valuesOf? (draftsOf vs) = some vs
  | [], _ => rfl
  | v :: vs, h => by
    obtain ⟨hv, hvs⟩ := List.forall_mem_cons.mp h
    rw [draftsOf, valuesOf?, valueOf?_draftOf v hv, valuesOf?_draftsOf vs hvs]
    rfl

theorem membersOf?_memberDrafts : ∀ ms : List (String × Value), (∀ m ∈ ms, m.2.Sound) →
    membersOf? (memberDrafts ms) = some ms
  | [], _ => rfl
  | (key, v) :: ms, h => by
    obtain ⟨hv, hms⟩ := List.forall_mem_cons.mp h
    rw [memberDrafts, memberDraft, membersOf?, valueOf?_draftOf v hv, membersOf?_memberDrafts ms hms]
    rfl

end

end Json
end ScopeLexer
