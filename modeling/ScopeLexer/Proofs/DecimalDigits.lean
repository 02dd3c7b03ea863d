/-
# Whole numbers in digits

The digits of a number have the number as their value, and only zero begins with a zero. So the number of a
group that is written in digits is read back, if it is a word.

Key theorems: `head_toDigits`, `toList_toString`, `wordOf?_eq_some_iff`, `indexOfText_toString`.
-/
import ScopeLexer.Source.Decode

namespace ScopeLexer
namespace Decimal

theorem le_ofDigitChars (value : Nat) (ds : List Char) : value ≤ Nat.ofDigitChars 10 ds value := by
  induction ds generalizing value with
  | nil => exact Nat.le_refl value
  | cons d ds ih => exact Nat.le_trans (by omega) (ih (10 * value + (d.toNat - '0'.toNat)))

/-- Only zero is written with a zero at its head. -/
theorem head_toDigits {n : Nat} (h : 0 < n) : (Nat.toDigits 10 n).head? ≠ some '0' := by
  induction n using Nat.strongRecOn with
  | ind n ih =>
    rw [Nat.toDigits_eq_if (by decide)]
    split
    · have hdigit : ∀ m < 10, 0 < m → [Nat.digitChar m].head? ≠ some '0' := by decide
      exact hdigit n ‹_› h
    · have hrest := ih (n / 10) (by omega) (by omega)
      cases hds : Nat.toDigits 10 (n / 10) with
      | nil => exact absurd hds Nat.toDigits_ne_nil
      | cons d ds => simpa [hds] using hrest

/-- A whole number is written as its digits, after a sign if it is negative. -/
theorem toList_toString (k : Int) :
    (toString k).toList = (if k < 0 then ['-'] else []) ++ Nat.toDigits 10 k.natAbs := by
  cases k with
  | ofNat n => exact Nat.toList_repr
  | negSucc n =>
    show ("-" ++ (n + 1).repr).toList = _
    rw [String.toList_append, Nat.toList_repr, if_pos (Int.negSucc_lt_zero n)]
    rfl

/-- A word with a sign is one with a sign or without. -/
theorem fitsWord_of_fitsSigned {n : Int} (h : fitsSigned n) : fitsWord n := by
  simp only [fitsSigned, Bool.and_eq_true, decide_eq_true_eq] at h
  exact Bool.and_eq_true_iff.mpr ⟨decide_eq_true h.1,
    decide_eq_true (Int.le_trans h.2 (by decide))⟩

/-- A text without a sign is read as a word if it is made of digits and its value fits. -/
theorem unsigned_eq_some_iff {ds : List Char} {n : Nat} : (if ds.isEmpty || !ds.all Char.isDigit then none
      else if valueOf ds ≤ maxWord then some (valueOf ds) else none) = some n ↔
    ds ≠ [] ∧ (∀ d ∈ ds, d.isDigit) ∧ valueOf ds = n ∧ n ≤ maxWord := by
  have hgood : (ds.isEmpty || !ds.all Char.isDigit) = false ↔ ds ≠ [] ∧ ∀ d ∈ ds, d.isDigit := by
    rw [Bool.or_eq_false_iff, Bool.not_eq_false', List.all_eq_true, List.isEmpty_eq_false_iff]
  rw [← and_assoc, ← hgood]
  split
  · rename_i hbad
    simp [hbad]
  · rename_i hbad
    split
    · rename_i hfits
      rw [Option.some.injEq]
      exact ⟨fun h => ⟨Bool.eq_false_iff.mpr hbad, h, h ▸ hfits⟩, fun h => h.2.1⟩
    · rename_i hlong
      exact ⟨nofun, fun h => absurd (h.2.1 ▸ h.2.2) hlong⟩

/-- **The texts that are read as a word** are its digits, zeros before them allowed, and these after a plus
sign. -/
theorem wordOf?_eq_some_iff {text : List Char} {n : Nat} : wordOf? text = some n ↔
    ∃ ds, (text = ds ∨ text = '+' :: ds) ∧ ds ≠ [] ∧ (∀ d ∈ ds, d.isDigit) ∧ valueOf ds = n ∧ n ≤ maxWord := by
  have unsigned : ∀ {ds : List Char}, (∀ d ∈ ds, d.isDigit) → ∀ es, ds ≠ '+' :: es := by
    rintro _ hds es rfl
    exact absurd (hds '+' List.mem_cons_self) (by decide)
  rw [wordOf?.eq_def]
  extract_lets ds
  refine unsigned_eq_some_iff.trans ⟨fun h => ⟨ds, ?_, h⟩, ?_⟩
  · simp only [ds]
    split
    · exact .inr rfl
    · exact .inl rfl
  · rintro ⟨es, htext, hes⟩
    have hds : ds = es := by
      simp only [ds]
      rcases htext with rfl | rfl
      · split
        · exact absurd rfl (unsigned hes.2.1 _)
        · rfl
      · rfl
    exact hds ▸ hes

theorem wordOf?_le {text : List Char} {n : Nat} (h : wordOf? text = some n) : n ≤ maxWord := by
  obtain ⟨_, -, -, -, -, hfits⟩ := wordOf?_eq_some_iff.mp h
  exact hfits

/-- Digits alone are read as a word if their value fits. -/
theorem wordOf?_of_digits {ds : List Char} (hne : ds ≠ []) (hds : ∀ d ∈ ds, d.isDigit) :
    wordOf? ds = if valueOf ds ≤ maxWord then some (valueOf ds) else none := by
  split
  · rename_i hfits
    exact wordOf?_eq_some_iff.mpr ⟨ds, .inl rfl, hne, hds, rfl, hfits⟩
  · rename_i hlong
    refine Option.eq_none_iff_forall_ne_some.mpr fun n h => ?_
    obtain ⟨es, rfl | rfl, -, -, rfl, hfits⟩ := wordOf?_eq_some_iff.mp h
    · exact hlong hfits
    · exact absurd (hds '+' List.mem_cons_self) (by decide)

/-- The digits of a word are read as that word. -/
theorem wordOf?_toDigits {n : Nat} (h : n ≤ maxWord) : wordOf? (Nat.toDigits 10 n) = some n :=
  wordOf?_eq_some_iff.mpr ⟨_, .inl rfl, Nat.toDigits_ne_nil,
    fun _ => Nat.isDigit_of_mem_toDigits (by decide) (by decide), Nat.ofDigitChars_ten_toDigits, h⟩

end Decimal

namespace Text

theorem dropEndWhile_of_forall {p : Char → Bool} {cs : List Char} (h : ∀ c ∈ cs, ¬p c) :
    dropEndWhile p cs = cs := by
  unfold dropEndWhile
  cases hcs : cs.reverse with
  | nil => exact (List.reverse_eq_nil_iff.mp hcs).symm
  | cons c ds =>
    have hc : c ∈ cs := List.mem_reverse.mp (hcs ▸ List.mem_cons_self)
    rw [List.dropWhile_cons_of_neg (h c hc), ← hcs, List.reverse_reverse]

/-- A text without white space stays when white space is taken off. -/
theorem trim_of_forall {cs : List Char} (h : ∀ c ∈ cs, ¬isSpace c) : trim cs = cs := by
  cases cs with
  | nil => rfl
  | cons c cs => rw [trim, List.dropWhile_cons_of_neg (h c List.mem_cons_self), dropEndWhile_of_forall h]

end Text

namespace Source

open Decimal (maxWord)

/-- **The number of a group is read back from its digits.** -/
theorem indexOfText_toString {i : Nat} (h : i ≤ maxWord) : indexOfText (toString i) = .ok i := by
  have htext : (toString i).toList = Nat.toDigits 10 i := Nat.toList_repr
  have hspace : ∀ c ∈ Nat.toDigits 10 i, ¬Text.isSpace c := by
    intro c hc
    have hdigit := Nat.isDigit_of_mem_toDigits (by decide) (by decide) hc
    simp only [Char.isDigit, ge_iff_le, Bool.and_eq_true, decide_eq_true_eq, UInt32.le_iff_toNat_le]
      at hdigit
    have hlow : 48 ≤ c.toNat := hdigit.1
    have hhigh : c.toNat ≤ 57 := hdigit.2
    simp only [Text.isSpace, Bool.or_eq_true, Bool.and_eq_true, beq_iff_eq, decide_eq_true_eq]
    omega
  rw [indexOfText, htext, Text.trim_of_forall hspace, Decimal.wordOf?_toDigits h]

end Source
end ScopeLexer
