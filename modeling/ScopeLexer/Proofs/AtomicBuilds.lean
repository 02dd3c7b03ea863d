/-
# Atomic builds

A build comes to an artifact or it leaves the files alone. It may fail at any of its steps: before a
directory is created nothing is written at all, and after that only a spare file is, which is removed when
the build fails. Where the files are kept is left open. A `Volume` is any state with a disk behind it whose
operations may fail for reasons of their own, such as a disk that is full in the middle of a file.

Key definitions: `Volume`, `Volume.memory`, `Volume.bounded`, `Volume.SparesFiles`.
Key theorems: `Volume.makeDirectories_spares`, `Volume.replace_cases`, `Volume.build_allOrNothing`.
-/
import ScopeLexer.Artifact.Build
import ScopeLexer.Proofs.DiskFiles

namespace ScopeLexer

open Files (Disk Fault Operations Place)

/-! ### Volumes -/

/-- Files that are kept on a disk. What is done with them is done on the disk, or it fails and leaves the
disk as it was; only a file that was to be written may then have any content. What a disk lets be removed can
be removed. -/
structure Volume (σ : Type) where
  operations : Operations (StateM σ)
  disk : σ → Disk
  read_keeps : ∀ path s, disk (operations.read path s).2 = disk s
  read_ok : ∀ {path s content}, (operations.read path s).1 = .ok content → (disk s).read path = .ok content
  isDirectory_keeps : ∀ path s, disk (operations.isDirectory path s).2 = disk s
  makeDirectory_cases : ∀ path s, disk (operations.makeDirectory path s).2 = disk s ∨
    (disk s).makeDirectory path = .ok (disk (operations.makeDirectory path s).2)
  spare_ok : ∀ {directory s path t}, operations.spare directory s = (.ok path, t) →
    (disk s).create path = .ok (disk t)
  spare_error : ∀ {directory s fault t}, operations.spare directory s = (.error fault, t) → disk t = disk s
  write_ok : ∀ {path content s t}, operations.write path content s = (.ok (), t) →
    (disk s).write path content = .ok (disk t)
  write_error : ∀ {path content s fault t}, operations.write path content s = (.error fault, t) →
    disk t = disk s ∨ ∃ part, (disk s).write path part = .ok (disk t)
  rename_ok : ∀ {source target s t}, operations.rename source target s = (.ok (), t) →
    (disk s).rename source target = .ok (disk t)
  rename_error : ∀ {source target s fault t}, operations.rename source target s = (.error fault, t) →
    disk t = disk s
  remove_ok : ∀ {path s d}, (disk s).remove path = .ok d → disk (operations.remove path s).2 = d

namespace Volume

/-- A disk in memory. -/
def memory : Volume Disk where
  operations := Disk.operations
  disk := id
  read_keeps _ _ := rfl
  read_ok h := h
  isDirectory_keeps _ _ := rfl
  makeDirectory_cases path _ := Disk.changing_cases (f := (·.makeDirectory path))
  spare_ok {directory s path t} h := by
    simp only [Disk.operations] at h
    split at h
    · rename_i hs
      cases h
      exact Disk.create_of_spare hs
    · cases h
  spare_error {directory s fault t} h := by
    simp only [Disk.operations] at h
    split at h
    · cases h
    · exact (congrArg Prod.snd h).symm
  write_ok {path content s t} h := Disk.changing_ok (f := (·.write path content)) h
  write_error {path content s fault t} h := .inl (Disk.changing_error (f := (·.write path content)) h)
  rename_ok {source target s t} h := Disk.changing_ok (f := (·.rename source target)) h
  rename_error {source target s fault t} h := Disk.changing_error (f := (·.rename source target)) h
  remove_ok {path s d} h := by
    show (Disk.changing (·.remove path) s).2 = d
    rw [Disk.changing, show s.remove path = .ok d from h]

/-- A disk in memory where files have room for a number of bytes. What is longer is written in part. -/
def bounded (room : Nat) : Volume Disk where
  operations :=
    { Disk.operations with
      write path content d :=
        if content.size ≤ room then Disk.operations.write path content d
        else (.error (.other "No space left on device (os error 28)"),
          (Disk.operations.write path (content.extract 0 room) d).2) }
  disk := id
  read_keeps := memory.read_keeps
  read_ok := memory.read_ok
  isDirectory_keeps := memory.isDirectory_keeps
  makeDirectory_cases := memory.makeDirectory_cases
  spare_ok := memory.spare_ok
  spare_error := memory.spare_error
  write_ok {path content s t} h := by
    dsimp only at h
    split at h
    · exact memory.write_ok h
    · cases h
  write_error {path content s fault t} h := by
    dsimp only at h
    split at h
    · exact memory.write_error h
    · cases h
      exact (Disk.changing_cases (f := (·.write path (content.extract 0 room)))).imp_right fun h => ⟨_, h⟩
  rename_ok := memory.rename_ok
  rename_error := memory.rename_error
  remove_ok := memory.remove_ok

variable {σ : Type} (v : Volume σ)

/-- The files have the contents that they had before, and there are no new ones. -/
def SparesFiles {ε α : Type} (x : ExceptT ε (StateM σ) α) : Prop :=
  ∀ s, (v.disk (x s).2).file? = (v.disk s).file?

section Spares

variable {v} {ε α β : Type} {x : ExceptT ε (StateM σ) α}

theorem sparesFiles_pure (a : α) : v.SparesFiles (pure a : ExceptT ε (StateM σ) α) := fun _ => rfl

theorem sparesFiles_throw (e : ε) : v.SparesFiles (throw e : ExceptT ε (StateM σ) α) := fun _ => rfl

theorem SparesFiles.bind {f : α → ExceptT ε (StateM σ) β} (hx : v.SparesFiles x)
    (hf : ∀ a, v.SparesFiles (f a)) : v.SparesFiles (x >>= f) := by
  intro s
  have hs := hx s
  rcases hr : x s with ⟨e | a, t⟩
  · rw [hr] at hs
    rw [run_bind_error f hr, hs]
  · rw [hr] at hs
    rw [run_bind_ok f hr, hf a t, hs]

theorem SparesFiles.tryCatch {f : ε → ExceptT ε (StateM σ) α} (hx : v.SparesFiles x)
    (hf : ∀ e, v.SparesFiles (f e)) : v.SparesFiles (tryCatch x f) := by
  intro s
  have hs := hx s
  rcases hr : x s with ⟨e | a, t⟩
  · rw [hr] at hs
    rw [run_tryCatch_error f hr, hf e t, hs]
  · rw [hr] at hs
    rw [run_tryCatch_ok f hr, hs]

end Spares

theorem makeDirectory_spares (path : List Char) : v.SparesFiles (v.operations.makeDirectory path) := by
  intro s
  rcases v.makeDirectory_cases path s with h | h
  · rw [h]
  · exact Disk.file?_makeDirectory h

theorem isDirectory_spares (path : List Char) :
    v.SparesFiles (liftM (v.operations.isDirectory path) : ExceptT Fault (StateM σ) Bool) := fun s =>
  congrArg Disk.file? (v.isDirectory_keeps path s)

theorem ensureDirectory_spares (path : List Char) : v.SparesFiles (v.operations.ensureDirectory path) := by
  refine (v.makeDirectory_spares path).tryCatch fun f => ?_
  refine (v.isDirectory_spares path).bind fun b => ?_
  cases b with
  | true => exact sparesFiles_pure ()
  | false => exact sparesFiles_throw f

theorem makeDirectoriesWithin_spares (fuel : Nat) (path : List Char) :
    v.SparesFiles (v.operations.makeDirectoriesWithin fuel path) := by
  induction fuel generalizing path with
  | zero => exact v.ensureDirectory_spares path
  | succ fuel ih =>
    rw [Operations.makeDirectoriesWithin]
    split
    · exact sparesFiles_pure ()
    · refine (v.makeDirectory_spares path).tryCatch fun f => ?_
      split
      · split
        · exact (ih _).bind fun _ => v.ensureDirectory_spares path
        · exact sparesFiles_throw f
      · refine (v.isDirectory_spares path).bind fun b => ?_
        cases b with
        | true => exact sparesFiles_pure ()
        | false => exact sparesFiles_throw f

theorem makeDirectories_spares (path : List Char) : v.SparesFiles (v.operations.makeDirectories path) :=
  v.makeDirectoriesWithin_spares _ path

/-! ### Replacing a file -/

section Replacing

variable {v} {s : σ} {d : Disk} {q : Place} {part : ByteArray} {temporary : List Char}

/-- Once a spare file is written it takes its place, or it is still there. -/
theorem put_cases (content : ByteArray) (path : List Char) (hd : d.HasSpare (v.disk s) q part)
    (hq : d.place temporary = .ok q) :
    match (do
      v.operations.write temporary content
      v.operations.rename temporary path
      pure path : ExceptT Fault (StateM σ) (List Char)) s with
    | (.error _, t) => ∃ part, d.HasSpare (v.disk t) q part
    | (.ok a, t) => a = path ∧ d.Replaced (v.disk t) path content := by
  rcases hw : v.operations.write temporary content s with ⟨fault | ⟨⟩, t⟩
  · rw [run_bind_error _ hw]
    -- A part of the content may have been written, but into the spare file only.
    rcases v.write_error hw with h | ⟨part', h⟩
    · exact ⟨part, h ▸ hd⟩
    · exact ⟨part', hd.write hq h⟩
  · have ht := hd.write hq (v.write_ok hw)
    rw [run_bind_ok _ hw]
    rcases hr : v.operations.rename temporary path t with ⟨fault | ⟨⟩, u⟩
    · rw [run_bind_error _ hr]
      exact ⟨content, (v.rename_error hr).symm ▸ ht⟩
    · rw [run_bind_ok _ hr]
      exact ⟨rfl, ht.rename hq (v.rename_ok hr)⟩

/-- A spare file that is of no use is removed. -/
theorem discard (hd : d.HasSpare (v.disk s) q part) (hq : d.place temporary = .ok q) (fault : Fault) :
    ∃ t, (do
      tryCatch (v.operations.remove temporary) fun _ => pure ()
      throw fault : ExceptT Fault (StateM σ) (List Char)) s = (.error fault, t) ∧
      (v.disk t).file? = d.file? := by
  obtain ⟨e, he, hfiles⟩ := hd.remove hq
  refine ⟨(v.operations.remove temporary s).2, ?_, by rw [v.remove_ok he, hfiles]⟩
  -- A fault of the removal is not reported, so the first one is thrown in either case.
  have hdone : (tryCatch (v.operations.remove temporary) fun _ => pure () : ExceptT Fault (StateM σ) Unit) s =
      (.ok (), (v.operations.remove temporary s).2) := by
    rcases hr : v.operations.remove temporary s with ⟨f | ⟨⟩, t⟩
    · exact run_tryCatch_error _ hr
    · exact run_tryCatch_ok _ hr
  rw [run_bind_ok _ hdone]
  rfl

theorem replace_cases (directory name : List Char) (content : ByteArray) (s : σ) :
    match v.operations.replace directory name content s with
    | (.error _, t) => (v.disk t).file? = (v.disk s).file?
    | (.ok path, t) =>
      path = Files.join directory name ∧ (v.disk s).Replaced (v.disk t) path content := by
  unfold Operations.replace
  rcases hs : v.operations.spare directory s with ⟨fault | temporary, t⟩
  · rw [run_bind_error _ hs]
    exact congrArg Disk.file? (v.spare_error hs)
  · rw [run_bind_ok _ hs]
    obtain ⟨q, hq, hd⟩ := Disk.create_ok (v.spare_ok hs)
    have hput := put_cases content (Files.join directory name) hd hq
    -- From here on only the outcome of the attempt counts.
    generalize (do
      v.operations.write temporary content
      v.operations.rename temporary (Files.join directory name)
      pure (Files.join directory name) : ExceptT Fault (StateM σ) (List Char)) = x at hput ⊢
    rcases hx : x t with ⟨fault | path, u⟩
    · rw [hx] at hput
      obtain ⟨part, hpart⟩ := hput
      obtain ⟨w, hw, hfiles⟩ := discard hpart hq fault
      rw [run_tryCatch_error _ hx, hw]
      exact hfiles
    · rw [hx] at hput
      rw [run_tryCatch_ok _ hx]
      obtain ⟨rfl, hput⟩ := hput
      exact ⟨rfl, hput⟩

end Replacing

/-! ### Building -/

/-- To read a text changes nothing, and what is read is on the disk. -/
theorem readText_cases (path : List Char) (s : σ) :
    match v.operations.readText path s with
    | (.error _, t) => v.disk t = v.disk s
    | (.ok text, t) => v.disk t = v.disk s ∧
      Disk.operations.readText path (v.disk s) = (.ok text, v.disk s) := by
  have hkeeps := v.read_keeps path s
  unfold Operations.readText
  rcases hr : v.operations.read path s with ⟨fault | content, t⟩
  · rw [hr] at hkeeps
    rw [run_bind_error _ hr]
    exact hkeeps
  · rw [hr] at hkeeps
    have hdisk : Disk.operations.read path (v.disk s) = (.ok content, v.disk s) :=
      Prod.ext (v.read_ok (congrArg Prod.fst hr)) rfl
    rw [run_bind_ok _ hr, run_bind_ok _ hdisk]
    cases String.fromUTF8? content with
    | none => exact hkeeps
    | some text => exact ⟨hkeeps, rfl⟩

theorem load_cases (input : List Char) (s : σ) :
    match Source.load v.operations input s with
    | (.error _, t) => v.disk t = v.disk s
    | (.ok g, t) => v.disk t = v.disk s ∧
      Source.load Disk.operations input (v.disk s) = (.ok g, v.disk s) := by
  have hread := v.readText_cases input s
  unfold Source.load
  cases Source.Format.ofPath? input with
  | none => exact rfl
  | some format =>
    dsimp only
    rcases hr : v.operations.readText input s with ⟨fault | text, t⟩
    · rw [hr] at hread
      rw [run_bind_error _ (run_adapt_error _ hr)]
      exact hread
    · rw [hr] at hread
      obtain ⟨hkeeps, hdisk⟩ := hread
      rw [run_bind_ok _ (run_adapt_ok _ hr), run_bind_ok _ (run_adapt_ok _ hdisk)]
      cases format.read text with
      | error fault => exact hkeeps
      | ok g => exact ⟨hkeeps, rfl⟩

/-- **A build is done as a whole or not at all.** If it fails, every file has the content that it had before,
and there are no new files. If it comes to a path, that is the path of the artifact in the directory, and
nothing else is new: its content is that of the grammar in the input. -/
theorem build_allOrNothing (s : σ) (input : List Char) (target : Target) (directory : List Char)
    (revision : Option Revision) :
    match build v.operations input target directory revision s with
    | (.error _, t) => (v.disk t).file? = (v.disk s).file?
    | (.ok path, t) => path = Files.join directory (artifactName target input) ∧
      ∃ g content, Source.load Disk.operations input (v.disk s) = (.ok g, v.disk s) ∧
        target.content g revision = .ok content ∧
        (v.disk s).Replaced (v.disk t) path content.toUTF8 := by
  unfold build
  have hloaded := v.load_cases input s
  rcases hload : Source.load v.operations input s with ⟨fault | g, t⟩
  · rw [hload] at hloaded
    rw [run_bind_error _ hload]
    exact congrArg Disk.file? hloaded
  rw [hload] at hloaded
  obtain ⟨hkeeps, hdisk⟩ := hloaded
  rw [run_bind_ok _ hload]
  cases hcontent : target.content g revision with
  | error fault => exact congrArg Disk.file? hkeeps
  | ok content =>
  have hlift : (MonadExcept.ofExcept (.ok content) : ExceptT Error (StateM σ) String) t = (.ok content, t) :=
    rfl
  rw [run_bind_ok _ hlift]
  have hfiles := v.makeDirectories_spares directory t
  rw [hkeeps] at hfiles
  rcases hmake : v.operations.makeDirectories directory t with ⟨fault | ⟨⟩, u⟩
  · rw [hmake] at hfiles
    rw [run_bind_error _ (run_adapt_error _ hmake)]
    exact hfiles
  · rw [hmake] at hfiles
    rw [run_bind_ok _ (run_adapt_ok _ hmake)]
    have hreplace := v.replace_cases directory (artifactName target input) content.toUTF8 u
    rcases hr : v.operations.replace directory (artifactName target input) content.toUTF8 u with
      ⟨fault | path, w⟩
    · rw [hr] at hreplace
      rw [run_adapt_error _ hr]
      exact hreplace.trans hfiles
    · rw [hr] at hreplace
      rw [run_adapt_ok _ hr]
      obtain ⟨rfl, p, hp, hnew, hother⟩ := hreplace
      exact ⟨rfl, g, content, hdisk, hcontent, p, hp, hnew,
        fun q hq => (hother q hq).trans (congrFun hfiles q)⟩

/-- A directory with a grammar in it. -/
def grammarDisk : Disk where
  nodes :=
    [(["c.json"], .file "\x7b\"name\":\"C\",\"scopeName\":\"source.c\",\"patterns\":[]\x7d".toUTF8)]

/-- Files with room for 60 bytes hold the artifact; with less room the build fails while it is written. -/
theorem build_allOrNothing_grammarDisk :
    (∃ t, build (bounded 60).operations "c.json".toList .cson "out".toList none grammarDisk =
        (.ok "out/c.cson".toList, t) ∧
      grammarDisk.Replaced t "out/c.cson".toList
        "'name': 'C'\n'scopeName': 'source.c'\n'patterns': []\n".toUTF8) ∧
    ∃ fault t, build (bounded 20).operations "c.json".toList .cson "out".toList none grammarDisk =
        (.error fault, t) ∧ t.file? = grammarDisk.file? := by
  constructor
  · have result : (build (bounded 60).operations "c.json".toList .cson "out".toList none
        grammarDisk).1.toOption = some "out/c.cson".toList := by decide +kernel
    have made : ((Source.load Disk.operations "c.json".toList grammarDisk).1.toOption.bind fun g =>
        (Target.cson.content g none).toOption) =
          some "'name': 'C'\n'scopeName': 'source.c'\n'patterns': []\n" := by decide +kernel
    have whole := (bounded 60).build_allOrNothing grammarDisk "c.json".toList .cson "out".toList none
    rcases h : build (bounded 60).operations "c.json".toList .cson "out".toList none grammarDisk with
      ⟨fault | path, t⟩
    · rw [h] at result
      cases result
    · rw [h] at result whole
      obtain ⟨-, g, content, hg, hcontent, hreplaced⟩ := whole
      obtain rfl : path = "out/c.cson".toList := Option.some.inj result
      rw [show Source.load Disk.operations _ grammarDisk = _ from hg] at made
      obtain rfl : content = _ := Option.some.inj ((congrArg Except.toOption hcontent).symm.trans made)
      exact ⟨t, rfl, hreplaced⟩
  · have result : (build (bounded 20).operations "c.json".toList .cson "out".toList none
        grammarDisk).1.toOption = none := by decide +kernel
    have whole := (bounded 20).build_allOrNothing grammarDisk "c.json".toList .cson "out".toList none
    rcases h : build (bounded 20).operations "c.json".toList .cson "out".toList none grammarDisk with
      ⟨fault | path, t⟩
    · rw [h] at whole
      exact ⟨fault, t, rfl, whole⟩
    · rw [h] at result
      cases result

end Volume
end ScopeLexer
