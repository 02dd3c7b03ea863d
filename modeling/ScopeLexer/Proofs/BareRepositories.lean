/-
# Bare repositories

A repository is kept as a host with a path. White space, schemes, slashes and endings are taken off its
address, each of them as often as it stands there, but in one order and only once. So the repository is
bare, and is kept as it is when it is given again, exactly if the address has these in that order around a
bare repository. Something is left of them only where it stood behind what is taken off later: a secure
scheme behind a plain one, a slash before an ending, white space within.

Key definitions: `Text.copies`, `Text.Firm`, `Revision.IsBare`, `Revision.Surroundings`,
`Revision.Surroundings.around`, `Revision.Surroundings.Leaves`.
Key theorems: `exists_surroundings`, `bareRepository_eq_self_iff`, `isBare_around`, `of_kept`,
`bare_of_inOrder`.
-/
import ScopeLexer.Artifact.Revision
import Mathlib.Data.List.DropRight

namespace ScopeLexer

namespace Text

/-! ### Copies of a word -/

/-- A word so many times. -/
def copies (w : List Char) (n : Nat) : List Char := (List.replicate n w).flatten

@[simp] theorem copies_zero (w : List Char) : copies w 0 = [] := rfl

theorem copies_succ (w : List Char) (n : Nat) : copies w (n + 1) = w ++ copies w n := by
  rw [copies, List.replicate_succ, List.flatten_cons, copies]

theorem reverse_copies (w : List Char) (n : Nat) : (copies w n).reverse = copies w.reverse n := by
  rw [copies, copies, List.reverse_flatten, List.map_replicate, List.reverse_replicate]

theorem length_copies (w : List Char) (n : Nat) : (copies w n).length = n * w.length := by
  simp [copies]

theorem mem_of_mem_copies {w : List Char} {n : Nat} {c : Char} (h : c ∈ copies w n) : c ∈ w := by
  obtain ⟨v, hv, hc⟩ := List.mem_flatten.mp h
  exact (List.mem_replicate.mp hv).2 ▸ hc

theorem dropHeads_eq_self {w cs : List Char} (h : ¬w <+: cs) : dropHeads w cs = cs := by
  rw [dropHeads, dif_neg]
  simp [List.isPrefixOf_iff_prefix, h]

theorem dropHeads_append_self {w : List Char} (hw : w ≠ []) (cs : List Char) :
    dropHeads w (w ++ cs) = dropHeads w cs := by
  rw [dropHeads, dif_pos ⟨hw, by simp⟩, List.drop_left]

theorem dropHeads_copies {w : List Char} (hw : w ≠ []) (n : Nat) (cs : List Char) :
    dropHeads w (copies w n ++ cs) = dropHeads w cs := by
  induction n with
  | zero => rfl
  | succ n ih => rw [copies_succ, List.append_assoc, dropHeads_append_self hw, ih]

/-- Copies of the word are taken off, and nothing else. -/
theorem exists_copies_dropHeads (w cs : List Char) : ∃ n, cs = copies w n ++ dropHeads w cs := by
  fun_induction dropHeads w cs with
  | case1 cs h ih =>
    obtain ⟨n, hn⟩ := ih
    obtain ⟨rest, rfl⟩ := List.isPrefixOf_iff_prefix.mp h.2
    refine ⟨n + 1, ?_⟩
    rw [List.drop_left] at hn
    rw [List.drop_left, copies_succ, List.append_assoc, ← hn]
  | case2 cs h => exact ⟨0, rfl⟩

theorem not_prefix_dropHeads {w : List Char} (hw : w ≠ []) (cs : List Char) : ¬w <+: dropHeads w cs := by
  rw [← List.isPrefixOf_iff_prefix, not_isPrefixOf_dropHeads w cs hw]
  decide

theorem dropTails_eq_self {w cs : List Char} (h : ¬w <:+ cs) : dropTails w cs = cs := by
  rw [dropTails, dropHeads_eq_self (by rwa [List.reverse_prefix]), List.reverse_reverse]

theorem dropTails_copies {w : List Char} (hw : w ≠ []) (n : Nat) (cs : List Char) :
    dropTails w (cs ++ copies w n) = dropTails w cs := by
  rw [dropTails, List.reverse_append, reverse_copies, dropHeads_copies (by simpa using hw), dropTails]

theorem exists_copies_dropTails (w cs : List Char) : ∃ n, cs = dropTails w cs ++ copies w n := by
  obtain ⟨n, hn⟩ := exists_copies_dropHeads w.reverse cs.reverse
  refine ⟨n, ?_⟩
  have h := congrArg List.reverse hn
  rwa [List.reverse_reverse, List.reverse_append, reverse_copies, List.reverse_reverse] at h

theorem not_suffix_dropTails {w : List Char} (hw : w ≠ []) (cs : List Char) : ¬w <:+ dropTails w cs := by
  rw [← List.reverse_prefix, dropTails, List.reverse_reverse]
  exact not_prefix_dropHeads (by simpa using hw) cs.reverse

/-! ### White space at the ends -/

/-- Nothing but white space. -/
def Spaces (cs : List Char) : Prop := ∀ c ∈ cs, isSpace c

/-- A text with no white space at either end. -/
structure Firm (cs : List Char) : Prop where
  head : ∀ c ∈ cs.head?, ¬isSpace c
  last : ∀ c ∈ cs.getLast?, ¬isSpace c

instance (cs : List Char) : Decidable (Firm cs) :=
  decidable_of_iff (cs.head?.all (!isSpace ·) = true ∧ cs.getLast?.all (!isSpace ·) = true) <| by
    simp only [Option.all_eq_true, Bool.not_eq_true', ← Bool.not_eq_true]
    exact ⟨fun h => ⟨h.1, h.2⟩, fun h => ⟨h.head, h.last⟩⟩

theorem Firm.nil : Firm [] := ⟨nofun, nofun⟩

theorem Firm.append {cs ds : List Char} (hc : Firm cs) (hd : Firm ds) : Firm (cs ++ ds) := by
  refine ⟨fun c h => ?_, fun c h => ?_⟩
  · rw [List.head?_append] at h
    cases cs with
    | nil => exact hd.head c h
    | cons b bs => exact hc.head c h
  · rw [List.getLast?_append] at h
    cases hlast : ds.getLast? with
    | none => exact hc.last c (by simpa [hlast] using h)
    | some d => exact hd.last c (by simpa [hlast] using h)

theorem Firm.copies {w : List Char} (h : Firm w) (n : Nat) : Firm (copies w n) := by
  induction n with
  | zero => exact .nil
  | succ n ih =>
    rw [copies_succ]
    exact h.append ih

theorem dropWhile_of_head {p : Char → Bool} {cs : List Char} (h : ∀ c ∈ cs.head?, ¬p c) :
    cs.dropWhile p = cs := by
  cases cs with
  | nil => rfl
  | cons c cs => rw [List.dropWhile_cons_of_neg (h c rfl)]

theorem head_dropWhile {p : Char → Bool} {cs : List Char} : ∀ c ∈ (cs.dropWhile p).head?, ¬p c := by
  intro c hc
  have h := List.head?_dropWhile_not p cs
  rw [Option.mem_def.mp hc] at h
  simpa using h

theorem trim_eq (cs : List Char) :
    trim cs = ((cs.dropWhile isSpace).reverse.dropWhile isSpace).reverse := rfl

theorem trim_of_firm {cs : List Char} (h : Firm cs) : trim cs = cs := by
  rw [trim_eq, dropWhile_of_head h.head, dropWhile_of_head, List.reverse_reverse]
  simpa only [List.head?_reverse] using h.last

/-- White space around a text is taken off. -/
theorem trim_around {before cs after : List Char} (hbefore : Spaces before) (hcs : Firm cs)
    (hafter : Spaces after) : trim (before ++ (cs ++ after)) = cs := by
  rw [trim_eq, List.dropWhile_append_of_pos hbefore]
  cases cs with
  | nil =>
    have hnone : after.dropWhile isSpace = [] := List.dropWhile_eq_nil_iff.mpr hafter
    rw [List.nil_append, hnone]
    rfl
  | cons c cs =>
    have hrest : (c :: cs ++ after).dropWhile isSpace = c :: cs ++ after :=
      dropWhile_of_head fun d hd => hcs.head d hd
    have hlast : (c :: cs).reverse.dropWhile isSpace = (c :: cs).reverse :=
      dropWhile_of_head (by simpa only [List.head?_reverse] using hcs.last)
    have hspaces : ∀ d ∈ after.reverse, isSpace d := fun d hd => hafter d (List.mem_reverse.mp hd)
    rw [hrest, List.reverse_append, List.dropWhile_append_of_pos hspaces, hlast, List.reverse_reverse]

theorem firm_trim (cs : List Char) : Firm (trim cs) := by
  rw [trim_eq]
  refine ⟨fun c hc => ?_, fun c hc => ?_⟩
  · obtain ⟨rest, hrest⟩ := List.reverse_prefix.mpr
      (List.dropWhile_suffix (l := (cs.dropWhile isSpace).reverse) isSpace)
    rw [List.reverse_reverse] at hrest
    have hhead : ∀ d ∈ (cs.dropWhile isSpace).head?, ¬isSpace d := head_dropWhile
    refine hhead c ?_
    rw [← hrest, List.head?_append, Option.mem_def.mp hc]
    rfl
  · rw [List.getLast?_reverse] at hc
    exact head_dropWhile c hc

theorem exists_spaces_trim (cs : List Char) :
    ∃ before after, Spaces before ∧ Spaces after ∧ cs = before ++ (trim cs ++ after) := by
  have htake : ∀ ds : List Char, Spaces (ds.takeWhile isSpace) := fun ds c hc => List.mem_takeWhile_imp hc
  refine ⟨cs.takeWhile isSpace, ((cs.dropWhile isSpace).reverse.takeWhile isSpace).reverse, htake cs, ?_, ?_⟩
  · intro c hc
    exact htake _ c (List.mem_reverse.mp hc)
  · rw [trim_eq, ← List.reverse_append, List.takeWhile_append_dropWhile, List.reverse_reverse,
      List.takeWhile_append_dropWhile]

end Text

namespace Revision

open Text

/-- The scheme of an address that is secure, and of one that is not. -/
def https : List Char := ['h', 't', 't', 'p', 's', ':', '/', '/']

def http : List Char := ['h', 't', 't', 'p', ':', '/', '/']

/-- The ending of the directory that a repository is kept in. -/
def git : List Char := ['.', 'g', 'i', 't']

theorem https_ne_nil : https ≠ [] := nofun

theorem http_ne_nil : http ≠ [] := nofun

theorem git_ne_nil : git ≠ [] := nofun

theorem slash_ne_nil : ['/'] ≠ [] := nofun

theorem bareRepository_eq (text : List Char) : bareRepository text =
    dropTails git (dropTails ['/'] (dropHeads http (dropHeads https (trim text)))) := rfl

/-- What stands around a repository in its address, in the order in which it may stand there. -/
structure Surroundings where
  before : List Char
  secure : Nat
  plain : Nat
  endings : Nat
  slashes : Nat
  after : List Char
  spaces_before : Spaces before
  spaces_after : Spaces after

/-- A repository in its surroundings. -/
def Surroundings.around (s : Surroundings) (cs : List Char) : List Char :=
  s.before ++ (copies https s.secure ++ (copies http s.plain ++
    (cs ++ (copies git s.endings ++ (copies ['/'] s.slashes ++ s.after)))))

/-- A repository of which nothing may be taken off. -/
structure IsBare (cs : List Char) : Prop where
  not_https : ¬https <+: cs
  not_http : ¬http <+: cs
  firm : Firm cs
  not_slash : ¬['/'] <:+ cs
  not_git : ¬git <:+ cs

/-- What may be left of a repository when its surroundings are taken off: only what stands behind something
that is taken off later. -/
structure Surroundings.Leaves (s : Surroundings) (cs : List Char) : Prop where
  not_http : ¬http <+: cs
  not_git : ¬git <:+ cs
  plain_of_https : https <+: cs → 0 < s.plain
  scheme_of_space : (∃ c ∈ cs.head?, isSpace c) → 0 < s.secure + s.plain
  ending_of_slash : ['/'] <:+ cs → 0 < s.endings
  tail_of_space : (∃ c ∈ cs.getLast?, isSpace c) → 0 < s.endings + s.slashes

theorem exists_surroundings (text : List Char) :
    ∃ s : Surroundings, text = s.around (bareRepository text) ∧ s.Leaves (bareRepository text) := by
  obtain ⟨before, after, hbefore, hafter, htext⟩ := exists_spaces_trim text
  have hfirm := firm_trim text
  rw [bareRepository_eq]
  generalize trim text = t₁ at htext hfirm ⊢
  obtain ⟨a, ha⟩ := exists_copies_dropHeads https t₁
  have hnot₂ := not_prefix_dropHeads https_ne_nil t₁
  generalize dropHeads https t₁ = t₂ at ha hnot₂ ⊢
  obtain ⟨b, hb⟩ := exists_copies_dropHeads http t₂
  have hnot₃ := not_prefix_dropHeads http_ne_nil t₂
  generalize dropHeads http t₂ = t₃ at hb hnot₃ ⊢
  obtain ⟨d, hd⟩ := exists_copies_dropTails ['/'] t₃
  have hnot₄ := not_suffix_dropTails slash_ne_nil t₃
  generalize dropTails ['/'] t₃ = t₄ at hd hnot₄ ⊢
  obtain ⟨c, hc⟩ := exists_copies_dropTails git t₄
  have hnot₅ := not_suffix_dropTails git_ne_nil t₄
  generalize dropTails git t₄ = t₅ at hc hnot₅ ⊢
  subst hc hd hb ha htext
  refine ⟨⟨before, a, b, c, d, after, hbefore, hafter⟩, ?_, ?_, hnot₅, ?_, ?_, ?_, ?_⟩
  · simp only [Surroundings.around, List.append_assoc]
  · -- What is left is the beginning of a text without the scheme.
    exact fun h => hnot₃ (by simpa only [List.append_assoc] using h.trans (List.prefix_append _ _))
  · intro h
    refine Nat.pos_of_ne_zero fun hb => hnot₂ ?_
    subst hb
    simpa only [copies_zero, List.nil_append, List.append_assoc] using h.trans (List.prefix_append _ _)
  · rintro ⟨x, hx, hspace⟩
    refine Nat.pos_of_ne_zero fun hab => hfirm.head x ?_ hspace
    obtain ⟨rfl, rfl⟩ : a = 0 ∧ b = 0 := Nat.add_eq_zero_iff.mp hab
    simp only [copies_zero, List.nil_append, List.append_assoc]
    rw [List.head?_append, Option.mem_def.mp hx]
    rfl
  · intro h
    refine Nat.pos_of_ne_zero fun hc => hnot₄ ?_
    subst hc
    simpa only [copies_zero, List.append_nil] using h
  · rintro ⟨x, hx, hspace⟩
    refine Nat.pos_of_ne_zero fun hcd => hfirm.last x ?_ hspace
    obtain ⟨rfl, rfl⟩ : c = 0 ∧ d = 0 := Nat.add_eq_zero_iff.mp hcd
    simp only [copies_zero, List.append_nil]
    rw [List.getLast?_append, List.getLast?_append, Option.mem_def.mp hx]
    rfl

theorem bareRepository_of_isBare {cs : List Char} (h : IsBare cs) : bareRepository cs = cs := by
  rw [bareRepository_eq, trim_of_firm h.firm, dropHeads_eq_self h.not_https, dropHeads_eq_self h.not_http,
    dropTails_eq_self h.not_slash, dropTails_eq_self h.not_git]

/-- A repository that is kept as it is has no surroundings, so nothing is left behind them. -/
theorem isBare_of_fixed {cs : List Char} (h : bareRepository cs = cs) : IsBare cs := by
  obtain ⟨s, htext, hs⟩ := exists_surroundings cs
  rw [h] at htext hs
  have hlength := congrArg List.length htext
  simp only [Surroundings.around, List.length_append, length_copies, https, http, git, List.length_cons,
    List.length_nil] at hlength
  have hplain : s.plain = 0 := by omega
  have hscheme : s.secure + s.plain = 0 := by omega
  have hending : s.endings = 0 := by omega
  have htail : s.endings + s.slashes = 0 := by omega
  refine ⟨fun h => ?_, hs.not_http, ⟨fun c hc hspace => ?_, fun c hc hspace => ?_⟩, fun h => ?_, hs.not_git⟩
  · exact absurd hplain (hs.plain_of_https h).ne'
  · exact absurd hscheme (hs.scheme_of_space ⟨c, hc, hspace⟩).ne'
  · exact absurd htail (hs.tail_of_space ⟨c, hc, hspace⟩).ne'
  · exact absurd hending (hs.ending_of_slash h).ne'

theorem bareRepository_eq_self_iff {cs : List Char} : bareRepository cs = cs ↔ IsBare cs :=
  ⟨isBare_of_fixed, bareRepository_of_isBare⟩

/-! ### Surroundings in order -/

theorem not_prefix_slashes {w : List Char} (h : 'h' ∈ w) (n : Nat) : ¬w <+: copies ['/'] n := by
  intro hw
  have hmem := mem_of_mem_copies (hw.subset h)
  exact absurd hmem (by decide)

/-- The end of a row of slashes is one. -/
theorem exists_slashes_of_append {cs ds : List Char} {n : Nat} (h : cs ++ ds = copies ['/'] n) :
    ∃ m, ds = copies ['/'] m := by
  refine ⟨ds.length, ?_⟩
  rw [copies, List.flatten_replicate_singleton]
  refine List.eq_replicate_iff.mpr ⟨rfl, fun c hc => ?_⟩
  have hmem : c ∈ copies ['/'] n := h ▸ List.mem_append_right cs hc
  exact List.mem_singleton.mp (mem_of_mem_copies hmem)

/-- What may follow a repository in its address, blanks apart. -/
def tail (endings slashes : Nat) : List Char := copies git endings ++ copies ['/'] slashes

/-- A scheme does not begin a bare repository. It can only begin what it makes up with slashes behind it,
and then nothing but slashes is left. -/
theorem dropHeads_scheme {w cs : List Char} (hh : 'h' ∈ w) (hpoint : '.' ∉ w) (hcs : ¬w <+: cs) (c d : Nat) :
    dropHeads w (cs ++ tail c d) = cs ++ tail c d ∨ ∃ n, dropHeads w (cs ++ tail c d) = copies ['/'] n := by
  by_cases hw : w <+: cs ++ tail c d
  · right
    obtain ⟨u, rfl⟩ := (List.prefix_or_prefix_of_prefix hw (List.prefix_append cs _)).resolve_left hcs
    obtain ⟨rest, hrest⟩ := (List.prefix_append_right_inj cs).mp hw
    cases c with
    | zero =>
      obtain ⟨n, rfl⟩ := exists_slashes_of_append (n := d) hrest
      refine ⟨n, ?_⟩
      rw [← hrest, ← List.append_assoc, dropHeads_append_self (List.ne_nil_of_mem hh),
        dropHeads_eq_self (not_prefix_slashes hh n)]
    | succ c =>
      cases u with
      | nil => exact absurd (by simp) hcs
      | cons x xs =>
        obtain rfl : x = '.' := (List.cons.inj hrest).1
        exact absurd (List.mem_append_right cs List.mem_cons_self) hpoint
  · exact .inl (dropHeads_eq_self hw)

theorem not_https_prefix_http (cs : List Char) : ¬https <+: http ++ cs := by
  simp [https, http, List.cons_prefix_cons]

/-- When the schemes are taken off, the repository is left with what follows it, or nothing but slashes. -/
theorem dropHeads_schemes {cs : List Char} (h : IsBare cs) (a b c d : Nat) :
    dropHeads http (dropHeads https (copies https a ++ (copies http b ++ (cs ++ tail c d)))) =
        cs ++ tail c d ∨
      ∃ n, dropHeads http (dropHeads https (copies https a ++ (copies http b ++ (cs ++ tail c d)))) =
        copies ['/'] n := by
  have hplain := dropHeads_scheme (w := http) (by decide) (by decide) h.not_http c d
  rw [dropHeads_copies https_ne_nil]
  cases b with
  | succ b =>
    rw [copies_succ, List.append_assoc, dropHeads_eq_self (not_https_prefix_http _),
      dropHeads_append_self http_ne_nil, dropHeads_copies http_ne_nil]
    exact hplain
  | zero =>
    rw [copies_zero, List.nil_append]
    rcases dropHeads_scheme (w := https) (by decide) (by decide) h.not_https c d with hsame | ⟨n, hn⟩
    · rw [hsame]
      exact hplain
    · rw [hn]
      exact .inr ⟨n, dropHeads_eq_self (not_prefix_slashes (by decide) n)⟩

theorem not_slash_suffix_git {cs : List Char} (h : ¬['/'] <:+ cs) (n : Nat) :
    ¬['/'] <:+ cs ++ copies git n := by
  cases n with
  | zero => rwa [copies_zero, List.append_nil]
  | succ n =>
    have hcopies : copies git (n + 1) = copies git n ++ git := by
      simp [copies, List.replicate_succ']
    rintro ⟨pre, hpre⟩
    have hlast := congrArg List.getLast? hpre
    rw [hcopies, ← List.append_assoc, List.getLast?_append, List.getLast?_append] at hlast
    cases hlast

theorem IsBare.nil : IsBare [] :=
  ⟨by decide, by decide, .nil, by decide, by decide⟩

/-- Surroundings that stand in order are taken off. -/
theorem isBare_around (s : Surroundings) {cs : List Char} (h : IsBare cs) :
    IsBare (bareRepository (s.around cs)) := by
  have hfirm : Firm (copies https s.secure ++ (copies http s.plain ++ (cs ++ tail s.endings s.slashes))) := by
    have hhttps : Firm https := by decide
    have hhttp : Firm http := by decide
    have hgit : Firm git := by decide
    have hslash : Firm ['/'] := by decide
    exact (hhttps.copies _).append ((hhttp.copies _).append
      (h.firm.append ((hgit.copies _).append (hslash.copies _))))
  have htrim : trim (s.around cs) =
      copies https s.secure ++ (copies http s.plain ++ (cs ++ tail s.endings s.slashes)) := by
    rw [← trim_around s.spaces_before hfirm s.spaces_after]
    simp only [Surroundings.around, tail, List.append_assoc]
  rw [bareRepository_eq, htrim]
  rcases dropHeads_schemes h s.secure s.plain s.endings s.slashes with hrest | ⟨n, hn⟩
  · rw [hrest, tail, ← List.append_assoc, dropTails_copies slash_ne_nil,
      dropTails_eq_self (not_slash_suffix_git h.not_slash _), dropTails_copies git_ne_nil,
      dropTails_eq_self h.not_git]
    exact h
  · rw [hn, ← List.nil_append (copies ['/'] n), dropTails_copies slash_ne_nil]
    have hnil : ∀ w : List Char, w ≠ [] → dropTails w [] = [] := fun w hw =>
      dropTails_eq_self (by simpa using hw)
    rw [hnil _ slash_ne_nil, hnil _ git_ne_nil]
    exact .nil

/-! ### Revisions of kept repositories -/

theorem toLower_eq_self {c : Char} (h : ¬(c.val ≥ 'A'.val ∧ c.val ≤ 'Z'.val)) : c.toLower = c := dif_neg h

theorem toLower_toLower (c : Char) : c.toLower.toLower = c.toLower := by
  by_cases h : c.val ≥ 'A'.val ∧ c.val ≤ 'Z'.val
  · have hlower : c.toLower.val = c.val + ('a'.val - 'A'.val) := congrArg Char.val (dif_pos h)
    refine toLower_eq_self ?_
    rw [hlower]
    obtain ⟨hlow, hhigh⟩ := h
    simp only [ge_iff_le, UInt32.le_iff_toNat_le, UInt32.toNat_add, Char.reduceVal, UInt32.reduceToNat,
      UInt32.reduceSub, Nat.reducePow, not_and, not_le] at hlow hhigh ⊢
    omega
  · rw [toLower_eq_self h, toLower_eq_self h]

theorem not_isSpace_of_hexDigit {c : Char} (h : (hexDigit? c).isSome) : ¬isSpace c := by
  have hrange : (48 ≤ c.toNat ∧ c.toNat ≤ 57) ∨ (97 ≤ c.toNat ∧ c.toNat ≤ 102) ∨
      (65 ≤ c.toNat ∧ c.toNat ≤ 70) := by
    unfold hexDigit? at h
    split at h
    · rename_i hdigit
      simp only [Char.isDigit, ge_iff_le, Bool.and_eq_true, decide_eq_true_eq, UInt32.le_iff_toNat_le] at hdigit
      exact .inl hdigit
    split at h
    · rename_i hsmall
      simp only [Bool.and_eq_true, decide_eq_true_eq, Char.le_def, UInt32.le_iff_toNat_le] at hsmall
      exact .inr (.inl hsmall)
    split at h
    · rename_i hlarge
      simp only [Bool.and_eq_true, decide_eq_true_eq, Char.le_def, UInt32.le_iff_toNat_le] at hlarge
      exact .inr (.inr hlarge)
    · cases h
  simp only [isSpace, Bool.or_eq_true, Bool.and_eq_true, beq_iff_eq, decide_eq_true_eq]
  omega

/-- A hash that is kept is kept as it is when it is given again. -/
theorem lowerCommit_lowerCommit {text : List Char} (h : isCommit (lowerCommit text) = true) :
    lowerCommit (lowerCommit text) = lowerCommit text := by
  rw [isCommit, Bool.and_eq_true, List.all_eq_true] at h
  have hspace : ∀ c ∈ lowerCommit text, ¬isSpace c := fun c hc => not_isSpace_of_hexDigit (h.2 c hc)
  have hfirm : Firm (lowerCommit text) :=
    ⟨fun c hc => hspace c (List.mem_of_mem_head? hc), fun c hc => hspace c (List.mem_of_getLast? hc)⟩
  conv_lhs => rw [lowerCommit, trim_of_firm hfirm]
  rw [lowerCommit, List.map_map]
  exact List.map_congr_left fun c _ => toLower_toLower c

theorem of_eq {commit : String} (h : isCommit (lowerCommit commit.toList) = true) (repository : String) :
    of repository commit =
      .ok ⟨String.ofList (bareRepository repository.toList), String.ofList (lowerCommit commit.toList)⟩ := by
  rw [of]
  simp only [h, ↓reduceIte]

/-- A commit that is kept makes a revision again, and is kept as it is. -/
theorem of_kept {commit : String} (h : isCommit (lowerCommit commit.toList) = true) (repository : String) :
    of repository (String.ofList (lowerCommit commit.toList)) =
      .ok ⟨String.ofList (bareRepository repository.toList), String.ofList (lowerCommit commit.toList)⟩ := by
  have hagain : lowerCommit (String.ofList (lowerCommit commit.toList)).toList = lowerCommit commit.toList := by
    rw [String.toList_ofList, lowerCommit_lowerCommit h]
  have hcommit : isCommit (lowerCommit (String.ofList (lowerCommit commit.toList)).toList) = true := by
    rw [hagain]
    exact h
  rw [of_eq hcommit repository, hagain]

theorem address_inj {repository repository' commit : String} :
    (Revision.mk repository commit).address = (Revision.mk repository' commit).address ↔
      repository = repository' := by
  simp [address, repositoryAddress, ← String.toList_inj]

/-- **When a repository is kept bare**: every repository with a commit makes a revision. What it keeps is
the repository without some surroundings, and something of them is left only behind what is taken off later.
It is bare exactly if some bare repository has surroundings in that order, and exactly if the revision, or
its address, is the same when it is made of what it keeps. -/
theorem bare_of_inOrder (repository commit : String) (h : isCommit (lowerCommit commit.toList) = true) :
    ∃ r, of repository commit = .ok r ∧
      (∃ s : Surroundings, repository.toList = s.around r.repository.toList ∧ s.Leaves r.repository.toList) ∧
      (IsBare r.repository.toList ↔
        ∃ (s : Surroundings) (cs : List Char), IsBare cs ∧ repository.toList = s.around cs) ∧
      (IsBare r.repository.toList ↔ of r.repository r.commit = .ok r) ∧
      (IsBare r.repository.toList ↔ ∃ r', of r.repository r.commit = .ok r' ∧ r'.address = r.address) := by
  refine ⟨_, of_eq h repository, ?_⟩
  simp only [String.toList_ofList, of_kept h]
  obtain ⟨s, htext, hs⟩ := exists_surroundings repository.toList
  have hagain : IsBare (bareRepository repository.toList) ↔
      String.ofList (bareRepository (bareRepository repository.toList)) =
        String.ofList (bareRepository repository.toList) := by
    rw [String.ofList_inj, bareRepository_eq_self_iff]
  refine ⟨⟨s, htext, hs⟩, ⟨fun hbare => ⟨s, _, hbare, htext⟩, ?_⟩, ?_, ?_⟩
  · rintro ⟨s', cs, hcs, htext'⟩
    rw [htext']
    exact isBare_around s' hcs
  · rw [hagain, Except.ok.injEq, Revision.mk.injEq]
    simp
  · rw [hagain]
    simp only [Except.ok.injEq, exists_eq_left', address_inj]

/-- A commit for examples. -/
def someCommit : String := "0123456789abcdef0123456789abcdef01234567"

/-- A plain scheme in front of a secure one, and an ending behind a slash. -/
theorem bare_of_inOrder_mirrorAddress : isCommit (lowerCommit someCommit.toList) = true ∧
    ∃ r, of "http://https://github.com/a/b/.git" someCommit = .ok r ∧
      (∃ s : Surroundings, "http://https://github.com/a/b/.git".toList = s.around r.repository.toList ∧
        s.Leaves r.repository.toList) ∧
      (IsBare r.repository.toList ↔ ∃ (s : Surroundings) (cs : List Char), IsBare cs ∧
        "http://https://github.com/a/b/.git".toList = s.around cs) ∧
      (IsBare r.repository.toList ↔ of r.repository r.commit = .ok r) ∧
      (IsBare r.repository.toList ↔ ∃ r', of r.repository r.commit = .ok r' ∧ r'.address = r.address) :=
  ⟨by decide, bare_of_inOrder _ _ (by decide)⟩

/-- A secure scheme is kept behind a plain one. -/
theorem not_repositories_bare : ¬ ∀ (repository commit : String) (r : Revision),
    of repository commit = .ok r → IsBare r.repository.toList := by
  intro bare
  have kept : bareRepository "http://https://x".toList = "https://x".toList := by decide +kernel
  have hcommit : isCommit (lowerCommit someCommit.toList) = true := by decide
  have hbare := bare _ _ _ (of_eq hcommit "http://https://x")
  rw [String.toList_ofList, kept] at hbare
  exact hbare.not_https (by decide)

end Revision
end ScopeLexer
