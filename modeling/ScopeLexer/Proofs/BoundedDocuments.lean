/-
# Whole numbers that are read fit into words

A document is read from JSON or from a property list with whole numbers of 64 bits only: a JSON number that
is longer becomes a double, and one in a property list is refused. So whatever is decoded from a document
never meets a whole number out of that range.

Key definitions: `Json.Atom.Fits`, `Plist.Scalar.Fits`.
Key theorems: `Json.Draft.read_fits`, `Plist.readDocument_fits`.
-/
import ScopeLexer.Json.Draft
import ScopeLexer.Plist.Plain

namespace ScopeLexer

open Decimal (fitsWord maxWord)

/-! ### JSON -/

namespace Json

/-- A whole number is one of 64 bits. -/
def Number.Fits : Number → Prop
  | .whole n => fitsWord n
  | .double _ => True

/-- An atom is no whole number out of range. -/
def Atom.Fits : Atom → Prop
  | .number n => n.Fits
  | _ => True

/-- The digits that are kept of a number make up a word. -/
theorem significandFrom_le {value : Nat} (h : value ≤ maxWord) (cs : List Char) :
    (significandFrom value cs).1 ≤ maxWord := by
  induction cs generalizing value with
  | nil => exact h
  | cons c cs ih =>
    rw [significandFrom]
    split
    · split
      · exact ih ‹_›
      · exact h
    · exact h

theorem wholeOr_fits {n : Nat} (negative : Bool) (h : n ≤ maxWord) :
    (readTail.wholeOr negative n).Fits := by
  rw [readTail.wholeOr]
  split
  · simp only [Number.Fits, fitsWord, Bool.and_eq_true, decide_eq_true_eq]
    exact ⟨Int.le_trans (by decide) (Int.natCast_nonneg n), Int.ofNat_le.mpr h⟩
  · split
    · trivial
    · rename_i hn
      simp only [Number.Fits, fitsWord, Decimal.fitsSigned, Decimal.maxSigned, Bool.and_eq_true,
        decide_eq_true_eq, Bool.not_eq_true', not_or, Bool.not_eq_false] at hn ⊢
      exact ⟨hn.2.1, by omega⟩

/-- Digits with a power of ten are a double. -/
theorem assemble_fits {negative : Bool} {significand : Nat} {exponent : Int} :
    ∀ m ∈ assemble negative significand exponent, m.Fits := by
  intro m hm
  rw [assemble] at hm
  grind [Number.Fits]

theorem assemble_map_fits {negative : Bool} {significand : Nat} {exponent : Int} {rest : List Char} :
    ∀ r ∈ (assemble negative significand exponent).map (·, rest), r.1.Fits := by
  intro r hr
  obtain ⟨m, hm, rfl⟩ := Option.map_eq_some_iff.mp hr
  exact assemble_fits m hm

theorem readExponent_fits {negative : Bool} {significand : Nat} {exponent : Int} {cs : List Char} :
    ∀ r ∈ readExponent negative significand exponent cs, r.1.Fits := by
  intro r hr
  rw [readExponent.eq_def] at hr
  split at hr
  all_goals
    simp only at hr
    split at hr
    · cases hr
    · split at hr
      · split at hr
        · cases hr
        · obtain rfl := Option.some.inj hr
          trivial
      · exact assemble_map_fits r hr

/-- The fraction and the exponent of a number make it a double; without them it is a word. -/
theorem readTail_fits {negative : Bool} {significand dropped : Nat} (h : significand ≤ maxWord) {cs : List Char} :
    ∀ r ∈ readTail negative significand dropped cs, r.1.Fits := by
  intro r hr
  rw [readTail.eq_def] at hr
  split at hr
  · simp only at hr
    split at hr
    · cases hr
    · split at hr
      · split at hr
        · exact readExponent_fits r hr
        · exact assemble_map_fits r hr
      · exact assemble_map_fits r hr
  · split at hr
    · exact readExponent_fits r hr
    · split at hr
      · obtain rfl := Option.some.inj hr
        exact wholeOr_fits negative h
      · exact assemble_map_fits r hr
  · split at hr
    · obtain rfl := Option.some.inj hr
      exact wholeOr_fits negative h
    · exact assemble_map_fits r hr

/-- **A whole number that is read is one of 64 bits.** -/
theorem readNumber_fits {cs : List Char} : ∀ r ∈ readNumber cs, r.1.Fits := by
  intro r hr
  rw [readNumber.eq_def] at hr
  have hzero : 0 ≤ maxWord := Nat.zero_le _
  split at hr
  split at hr
  · split at hr
    · cases hr
    · exact readTail_fits hzero r hr
  · exact readTail_fits hzero r hr
  · split at hr
    · split at hr
      rename_i significand dropped rest heq
      have hle := heq ▸ significandFrom_le hzero _
      exact readTail_fits hle r hr
    · cases hr
  · cases hr

namespace Draft

mutual

theorem readValue_fits (fuel depth : Nat) (cs : List Char) : (readValue fuel depth cs).1.All Atom.Fits := by
  match fuel with
  | 0 => exact .broken
  | fuel + 1 =>
    rw [readValue]
    split
    · exact .broken
    · split
      · exact .scalar trivial
      · exact .broken
    · split
      · exact .list nofun
      · split
        · exact .list nofun
        · exact .list (readItems_fits fuel _ _)
    · split
      · exact .map nofun nofun
      · split
        · exact .map nofun nofun
        · exact .map (readMembers_fits fuel _ _).1 (readMembers_fits fuel _ _).2
    · split
      · exact .scalar trivial
      · exact .broken
    · split
      · exact .scalar trivial
      · exact .broken
    · split
      · exact .scalar trivial
      · exact .broken
    · split
      · rename_i n rest hn
        exact .scalar (readNumber_fits (n, rest) hn)
      · exact .broken

theorem readItems_fits (fuel depth : Nat) (cs : List Char) :
    ∀ t ∈ (readItems fuel depth cs).1, t.All Atom.Fits := by
  match fuel with
  | 0 => exact nofun
  | fuel + 1 =>
    have hvalue := readValue_fits fuel depth cs
    rw [readItems]
    simp only
    split
    · simpa using hvalue
    · split
      · simpa using hvalue
      · exact List.forall_mem_cons.mpr ⟨hvalue, readItems_fits fuel depth _⟩
    · simpa using hvalue

theorem readMembers_fits (fuel depth : Nat) (cs : List Char) :
    (∀ e ∈ (readMembers fuel depth cs).1, ∀ k ∈ e.1, k.Fits) ∧
      ∀ e ∈ (readMembers fuel depth cs).1, e.2.All Atom.Fits := by
  match fuel with
  | 0 => exact ⟨nofun, nofun⟩
  | fuel + 1 =>
    rw [readMembers]
    split
    · split
      · exact ⟨nofun, nofun⟩
      · rename_i rest key rest' hkey
        have hfits : (Atom.string (String.ofList key)).Fits := trivial
        split
        · rename_i rest'' hcolon
          have hvalue := readValue_fits fuel depth rest''
          simp only
          split
          · exact ⟨by simpa using hfits, by simpa using hvalue⟩
          · obtain ⟨keys, values⟩ := readMembers_fits fuel depth ‹_›
            exact ⟨List.forall_mem_cons.mpr ⟨by simpa using hfits, keys⟩,
              List.forall_mem_cons.mpr ⟨hvalue, values⟩⟩
          · exact ⟨by simpa using hfits, by simpa using hvalue⟩
        · exact ⟨by simpa using hfits, by simpa using .broken⟩
    · exact ⟨nofun, nofun⟩

end

/-- **The whole numbers of a JSON text are read as words.** -/
theorem read_fits (cs : List Char) : (read cs).1.All Atom.Fits :=
  readValue_fits (2 * cs.length + 2) maxDepth cs

end Draft
end Json

/-! ### Property lists -/

namespace Plist

/-- A scalar is no whole number out of range. -/
def Scalar.Fits : Scalar → Prop
  | .whole n => fitsWord n
  | _ => True

theorem wholeOf?_fits {cs : List Char} {n : Int} (h : wholeOf? cs = some n) : fitsWord n := by
  rw [wholeOf?.eq_def] at h
  simp only at h
  split at h
  · split at h
    · obtain rfl := Option.some.inj h
      assumption
    · cases h
  · cases h

theorem scalarOf?_fits {name : String} {content : List Char} : ∀ s ∈ scalarOf? name content, s.Fits := by
  intro s hs
  rw [scalarOf?.eq_def] at hs
  split at hs
  · obtain rfl := Option.some.inj hs
    trivial
  · obtain rfl := Option.some.inj hs
    trivial
  · obtain ⟨n, hn, rfl⟩ := Option.map_eq_some_iff.mp hs
    exact wholeOf?_fits hn
  · obtain ⟨f, -, rfl⟩ := Option.map_eq_some_iff.mp hs
    trivial
  · obtain ⟨d, -, rfl⟩ := Option.map_eq_some_iff.mp hs
    trivial
  · obtain ⟨bytes, -, rfl⟩ := Option.map_eq_some_iff.mp hs
    trivial
  · cases hs

/-- Parts that are scalars have a property. -/
def Scalars (P : Scalar → Prop) (ps : List Part) : Prop := ∀ s, .scalar s ∈ ps → P s

namespace Scalars

variable {P : Scalar → Prop} {s : Scalar} {p : Part} {ps qs : List Part}

theorem nil : Scalars P [] := nofun

theorem fault : Scalars P [.fault] := by simp [Scalars]

theorem cons_scalar (hs : P s) (h : Scalars P ps) : Scalars P (.scalar s :: ps) := by
  intro r hr
  rcases List.mem_cons.mp hr with hr | hr
  · obtain rfl := Part.scalar.inj hr
    exact hs
  · exact h r hr

theorem append (hp : Scalars P ps) (hq : Scalars P qs) : Scalars P (ps ++ qs) := fun s hs =>
  (List.mem_append.mp hs).elim (hp s) (hq s)

theorem tail (h : Scalars P (p :: ps)) : Scalars P ps := fun s hs => h s (List.mem_cons_of_mem p hs)

theorem cons_list (h : Scalars P ps) : Scalars P (.list :: ps) := by simpa [Scalars] using h

theorem cons_map (h : Scalars P ps) : Scalars P (.map :: ps) := by simpa [Scalars] using h

theorem cons_stop (h : Scalars P ps) : Scalars P (.stop :: ps) := by simpa [Scalars] using h

end Scalars

theorem opened_fits (name : String) : Scalars Scalar.Fits (opened name) := by
  rw [opened.eq_def]
  split
  · exact .nil
  · exact .cons_list .nil
  · exact .cons_map .nil
  · exact .cons_scalar trivial .nil
  · exact .cons_scalar trivial .nil
  · exact .fault

theorem elements_fits (content : Option (String × List Char)) (ms : List Markup) :
    Scalars Scalar.Fits (elements content ms) := by
  fun_induction elements content ms with
  | case11 => exact .nil
  -- Markup that is out of place, or the end of the text within an element.
  | case1 | case4 | case6 | case9 | case10 | case13 | case15 | case21 | case22 => exact .fault
  -- Markup that is no part of the value by itself.
  | case2 | case3 | case7 | case8 | case12 | case14 | case18 | case19 | case20 => assumption
  | case5 => exact .cons_scalar (scalarOf?_fits _ ‹_›) ‹_›
  | case16 => exact .append (opened_fits _) ‹_›
  | case17 => exact .cons_stop ‹_›

theorem plainWord_fits (cs : List Char) : (plainWord cs).Fits := by
  rw [plainWord]
  split
  · exact wholeOf?_fits ‹_›
  · trivial

theorem plainParts_fits (fuel : Nat) (cs : List Char) : Scalars Scalar.Fits (plainParts fuel cs) := by
  fun_induction plainParts fuel cs with
  | case1 | case10 | case12 => exact .fault
  | case2 => exact .nil
  -- Separators and comments.
  | case3 | case8 | case9 => assumption
  | case4 => exact .cons_list ‹_›
  | case5 => exact .cons_map ‹_›
  | case6 | case7 => exact .cons_stop ‹_›
  | case11 => exact .cons_scalar trivial ‹_›
  | case13 => exact .cons_scalar (plainWord_fits _) ‹_›

theorem keyOf_all {P : Scalar → Prop} {t : Document Scalar} (h : t.All P) : ∀ k ∈ keyOf t, P k := by
  intro k hk
  cases h with
  | scalar h =>
    obtain rfl := Option.some.inj hk
    exact h
  | list _ | map _ _ | typed _ | broken => cases hk

mutual

/-- What is read of a value has its scalars from the parts, and so has what is left. -/
theorem readValue_all {P : Scalar → Prop} (fuel : Nat) {ps : List Part} (h : Scalars P ps) :
    (readValue fuel ps).1.All P ∧ ∀ rest ∈ (readValue fuel ps).2, Scalars P rest := by
  match fuel with
  | 0 => exact ⟨.broken, nofun⟩
  | fuel + 1 =>
    rw [readValue.eq_def]
    simp only
    split
    · exact ⟨.scalar (h _ List.mem_cons_self), by simpa using h.tail⟩
    · obtain ⟨hitems, hrest⟩ := readItems_all fuel h.tail
      exact ⟨.list hitems, hrest⟩
    · obtain ⟨hkeys, hvalues, hrest⟩ := readEntries_all fuel h.tail
      exact ⟨.map hkeys hvalues, hrest⟩
    · exact ⟨.broken, nofun⟩
    · exact ⟨.broken, nofun⟩
    · exact ⟨.broken, nofun⟩

theorem readItems_all {P : Scalar → Prop} (fuel : Nat) {ps : List Part} (h : Scalars P ps) :
    (∀ t ∈ (readItems fuel ps).1, t.All P) ∧ ∀ rest ∈ (readItems fuel ps).2, Scalars P rest := by
  match fuel with
  | 0 => exact ⟨nofun, nofun⟩
  | fuel + 1 =>
    rw [readItems.eq_def]
    simp only
    split
    · exact ⟨nofun, by simpa using h.tail⟩
    · exact ⟨nofun, nofun⟩
    · obtain ⟨hvalue, hrest⟩ := readValue_all fuel h
      split
      · rename_i t rest heq
        rw [heq] at hvalue hrest
        obtain ⟨hitems, hnext⟩ := readItems_all fuel (hrest rest rfl)
        exact ⟨List.forall_mem_cons.mpr ⟨hvalue, hitems⟩, hnext⟩
      · rename_i t heq
        rw [heq] at hvalue
        exact ⟨by simpa using hvalue, nofun⟩

theorem readEntries_all {P : Scalar → Prop} (fuel : Nat) {ps : List Part} (h : Scalars P ps) :
    (∀ e ∈ (readEntries fuel ps).1, ∀ k ∈ e.1, P k) ∧ (∀ e ∈ (readEntries fuel ps).1, e.2.All P) ∧
      ∀ rest ∈ (readEntries fuel ps).2, Scalars P rest := by
  match fuel with
  | 0 => exact ⟨nofun, nofun, nofun⟩
  | fuel + 1 =>
    rw [readEntries.eq_def]
    simp only
    split
    · exact ⟨nofun, nofun, by simpa using h.tail⟩
    · exact ⟨nofun, nofun, nofun⟩
    · obtain ⟨hkey, hrest⟩ := readValue_all fuel h
      split
      · exact ⟨nofun, nofun, nofun⟩
      · rename_i key _ heq
        rw [heq] at hkey
        exact ⟨by simpa using keyOf_all hkey, by simpa using .broken, nofun⟩
      · rename_i key rest heq
        rw [heq] at hkey hrest
        obtain ⟨hvalue, hnext⟩ := readValue_all fuel (hrest rest rfl)
        split
        · rename_i t next heq
          rw [heq] at hvalue hnext
          obtain ⟨hkeys, hvalues, hlast⟩ := readEntries_all fuel (hnext next rfl)
          exact ⟨List.forall_mem_cons.mpr ⟨keyOf_all hkey, hkeys⟩, List.forall_mem_cons.mpr ⟨hvalue, hvalues⟩,
            hlast⟩
        · rename_i t heq
          rw [heq] at hvalue
          exact ⟨by simpa using keyOf_all hkey, by simpa using hvalue, nofun⟩

end

/-- **The whole numbers of a property list are read as words.** -/
theorem readDocument_fits (cs : List Char) : (readDocument cs).All Scalar.Fits := by
  rw [readDocument]
  split
  · exact (readValue_all _ (plainParts_fits _ _)).1
  · exact (readValue_all _ (elements_fits _ _)).1

end Plist
end ScopeLexer
