/-
# Files on a disk

What the operations of a disk do to its files. Directories stay where paths go through them. A spare file
stands beside the other ones, whatever is written into it, until it takes the place of one of them or is
removed; nothing else changes in the meantime.

Key definitions: `Disk.file?`, `Disk.Keeps`, `Disk.Replaced`, `Disk.HasSpare`.
Key theorems: `Disk.Keeps.place`, `Disk.file?_makeDirectory`, `Disk.HasSpare.write`,
`Disk.HasSpare.rename`, `Disk.HasSpare.remove`.
-/
import ScopeLexer.Files.Disk
import ScopeLexer.Proofs.Outcome

namespace ScopeLexer
namespace Files
namespace Disk

variable {d e e' : Disk} {p q r : Place} {path directory source target : List Char}
  {content new : ByteArray} {f : Disk → Except Fault Disk} {fault : Fault}

/-- The content of the file at a place. -/
def file? (d : Disk) (p : Place) : Option ByteArray :=
  match d.node? p with
  | some (.file content) => some content
  | some .directory | none => none

theorem file?_of_node? (h : d.node? p = some (.file content)) : d.file? p = some content := by
  rw [file?, h]

theorem file?_congr (h : d.node? p = e.node? p) : d.file? p = e.file? p := by
  rw [file?, h, file?]

/-- The outermost directory is no place for a file. -/
theorem ne_nil_of_node? (h : d.node? p ≠ some .directory) : p ≠ [] := by
  rintro rfl
  exact h rfl

/-! ### Operations -/

theorem changing_ok (h : changing f d = (.ok (), e)) : f d = .ok e := by
  unfold changing at h
  split at h
  · cases h
    assumption
  · cases h

theorem changing_error (h : changing f d = (.error fault, e)) : e = d := by
  unfold changing at h
  split at h
  · cases h
  · exact (congrArg Prod.snd h).symm

theorem changing_cases : (changing f d).2 = d ∨ f d = .ok (changing f d).2 := by
  unfold changing
  split
  · exact .inr ‹_›
  · exact .inl rfl

/-- A spare file is created where its path leads. -/
theorem create_of_spare (h : d.spare directory = .ok (path, e)) : d.create path = .ok e := by
  obtain ⟨p, -, h⟩ := exists_of_bind_ok h
  obtain ⟨⟨⟩, -, h⟩ := exists_of_bind_ok h
  split at h
  · obtain ⟨e', he, h⟩ := exists_of_bind_ok h
    cases h
    exact he
  · cases h

/-! ### Paths -/

/-- Relative paths begin at the same place, and no directory is missing. -/
structure Keeps (d e : Disk) : Prop where
  start : e.start = d.start
  directory : ∀ p, d.node? p = some .directory → e.node? p = some .directory

theorem directoryAt_ok {u : Unit} (h : d.directoryAt p = .ok u) : d.node? p = some .directory := by
  unfold directoryAt at h
  split at h
  · assumption
  · cases h
  · cases h

namespace Keeps

theorem directoryAt {u : Unit} (h : d.Keeps e) (hp : d.directoryAt p = .ok u) : e.directoryAt p = .ok u := by
  rw [Disk.directoryAt, h.directory p (directoryAt_ok hp)]

theorem follow (h : d.Keeps e) {names : List (List Char)} (hq : d.follow p names = .ok q) :
    e.follow p names = .ok q := by
  induction names generalizing p with
  | nil => exact hq
  | cons name names ih =>
    obtain ⟨u, hu, hrest⟩ := exists_of_bind_ok hq
    obtain ⟨r, hr, hrest⟩ := exists_of_bind_ok hrest
    rw [Disk.follow, h.directoryAt hu, hr]
    exact ih hrest

/-- A path leads to the same place. -/
theorem place (h : d.Keeps e) (hq : d.place path = .ok q) : e.place path = .ok q := by
  obtain ⟨names, hnames, hq⟩ := exists_of_bind_ok hq
  rw [Disk.place, hnames]
  show e.walk names = .ok q
  unfold walk at hq ⊢
  split at hq
  · exact h.follow hq
  · rw [h.start]
    exact h.follow hq

end Keeps

/-- A new directory leaves the files as they are. -/
theorem file?_makeDirectory (h : d.makeDirectory path = .ok e) : e.file? = d.file? := by
  obtain ⟨names, -, h⟩ := exists_of_bind_ok h
  simp only at h
  split at h
  · cases h
  obtain ⟨p, -, h⟩ := exists_of_bind_ok h
  obtain ⟨q, -, h⟩ := exists_of_bind_ok h
  split at h
  · cases h
  rename_i hnone
  obtain rfl : d.put q .directory = e := Except.ok.inj h
  have hfree : d.node? q = none := by simpa using hnone
  funext p
  by_cases hp : p = q
  · have hq : q ≠ [] := ne_nil_of_node? (by rw [hfree]; nofun)
    rw [hp, file?, file?, node?_put_self _ hq, hfree]
  · exact file?_congr (node?_put_of_ne _ hp)

/-- A file has a content, whether it was there or not, and nothing is new about the other ones. -/
def Replaced (d e : Disk) (path : List Char) (content : ByteArray) : Prop :=
  ∃ p, e.place path = .ok p ∧ e.file? p = some content ∧ ∀ q, q ≠ p → e.file? q = d.file? q

/-! ### A spare file -/

/-- A disk with a spare file where nothing was. -/
structure HasSpare (d e : Disk) (q : Place) (content : ByteArray) : Prop where
  start : e.start = d.start
  free : d.node? q = none
  spare : e.node? q = some (.file content)
  other : ∀ p, p ≠ q → e.node? p = d.node? p

theorem create_ok (h : d.create path = .ok e) :
    ∃ q, d.place path = .ok q ∧ d.HasSpare e q .empty := by
  obtain ⟨q, hq, h⟩ := exists_of_bind_ok h
  refine ⟨q, hq, ?_⟩
  split at h
  · cases h
  rename_i hnone
  have hfree : d.node? q = none := by simpa using hnone
  obtain rfl : d.put q (.file .empty) = e := Except.ok.inj h
  exact ⟨rfl, hfree, node?_put_self _ (ne_nil_of_node? (by rw [hfree]; nofun)), fun p hp => node?_put_of_ne _ hp⟩

namespace HasSpare

theorem ne_nil (h : d.HasSpare e q content) : q ≠ [] := ne_nil_of_node? (by rw [h.free]; nofun)

theorem keeps (h : d.HasSpare e q content) : d.Keeps e where
  start := h.start
  directory p hp := by
    have hne : p ≠ q := by
      rintro rfl
      rw [h.free] at hp
      cases hp
    rw [h.other p hne, hp]

theorem write (h : d.HasSpare e q content) (hq : d.place path = .ok q) (hw : e.write path new = .ok e') :
    d.HasSpare e' q new := by
  obtain ⟨q', hq', hw⟩ := exists_of_bind_ok hw
  obtain rfl : q = q' := Except.ok.inj ((h.keeps.place hq).symm.trans hq')
  rw [h.spare] at hw
  obtain rfl : e.put q (.file new) = e' := Except.ok.inj hw
  exact ⟨h.start, h.free, node?_put_self _ h.ne_nil, fun p hp =>
    (node?_put_of_ne _ hp).trans (h.other p hp)⟩

/-- What the spare file takes the place of is a file or nothing, and nothing else changes. -/
theorem rename (h : d.HasSpare e q content) (hq : d.place source = .ok q)
    (hr : e.rename source target = .ok e') : d.Replaced e' target content := by
  obtain ⟨q', hq', hr⟩ := exists_of_bind_ok hr
  obtain rfl : q = q' := Except.ok.inj ((h.keeps.place hq).symm.trans hq')
  rw [h.spare] at hr
  obtain ⟨r, hplace, hr⟩ := exists_of_bind_ok hr
  split at hr
  · cases hr
  rename_i hfile
  obtain rfl : (e.erase q).put r (.file content) = e' := Except.ok.inj hr
  have hnot : e.node? r ≠ some .directory := fun h => hfile (by rw [h]; rfl)
  have hkeeps : e.Keeps ((e.erase q).put r (.file content)) := by
    refine ⟨rfl, fun p hp => ?_⟩
    have hpr : p ≠ r := fun h => hnot (h ▸ hp)
    have hpq : p ≠ q := by
      rintro rfl
      rw [h.spare] at hp
      cases hp
    rw [node?_put_of_ne _ hpr, node?_erase_of_ne hpq, hp]
  refine ⟨r, hkeeps.place hplace, file?_of_node? (node?_put_self _ (ne_nil_of_node? hnot)), fun p hp => ?_⟩
  refine file?_congr ?_
  rw [node?_put_of_ne _ hp]
  by_cases hpq : p = q
  · rw [hpq, node?_erase_self h.ne_nil, h.free]
  · rw [node?_erase_of_ne hpq, h.other p hpq]

/-- Without the spare file the files are what they were. -/
theorem remove (h : d.HasSpare e q content) (hq : d.place path = .ok q) :
    ∃ e', e.remove path = .ok e' ∧ e'.file? = d.file? := by
  refine ⟨e.erase q, ?_, ?_⟩
  · rw [Disk.remove, h.keeps.place hq]
    show (match e.node? q with
      | some (.file _) => pure (e.erase q)
      | some .directory => throw .isDirectory
      | none => throw .missing : Except Fault Disk) = _
    rw [h.spare]
    rfl
  · funext p
    refine file?_congr ?_
    by_cases hp : p = q
    · rw [hp, node?_erase_self h.ne_nil, h.free]
    · rw [node?_erase_of_ne hp, h.other p hp]

end HasSpare
end Disk
end Files
end ScopeLexer
