import Mathlib.Tactic.SplitIfs
import SearchDesk.Files.Directory

/-!
# Writing a new file

Making folders leaves all files as they are (`files_makeParents`). A path is free if the folders
on the way to it can be made and nothing is there then (`Free`): a text can then be written to it,
and the new file is the only one that differs from before (`Free.changedSince_write`). Nothing can
be written under a name that is too long (`write_long`), though no folder is missing for it.
-/

namespace SearchDesk.Files.Directory

/-! ## Making folders -/

theorem files_makeAlong (d : Directory) (place : Place) (here : Directory) (done steps : List String) :
    (d.makeAlong place here done steps).2.files = d.files := by
  induction steps generalizing d place here done with
  | nil => rfl
  | cons step rest ih =>
    unfold makeAlong
    dsimp only
    split_ifs with jump long folder file
    · exact ih ..
    · rfl
    · exact ih ..
    · rfl
    · -- the folder that is made is no file
      exact ih ..

theorem files_makeFolder {d made : Directory} {p : Path} (done : d.makeFolder p = .ok made) :
    made.files = d.files := by
  unfold makeFolder at done
  split at done
  · cases done
  · split_ifs at done
    obtain rfl := Except.ok.inj done
    rfl

theorem files_makeFolders (d : Directory) (p : Path) : (d.makeFolders p).2.files = d.files := by
  unfold makeFolders
  split
  · rename_i made done
    exact files_makeFolder done
  · exact files_makeAlong ..
  · split_ifs <;> rfl

theorem files_makeParents (d : Directory) (p : Path) : (d.makeParents p).2.files = d.files :=
  files_makeFolders d p.parent

/-! ## Files at places -/

theorem file?_eq_none_iff (d : Directory) (place : Place) :
    d.file? place = none ↔ ∀ f ∈ d.files, f.1 ≠ place := by
  simp [file?]

theorem find?_of_mem {files : List (Place × Content)} (distinct : (files.map (·.1)).Nodup)
    {f : Place × Content} (mem : f ∈ files) : files.find? (fun g => g.1 = f.1) = some f := by
  induction files with
  | nil => cases mem
  | cons g rest ih =>
    obtain ⟨fresh, later⟩ := List.nodup_cons.mp distinct
    rcases List.mem_cons.mp mem with rfl | mem
    · simp
    · have other : g.1 ≠ f.1 := fun same => fresh (List.mem_map.mpr ⟨f, mem, same.symm⟩)
      simp [other, ih later mem]

/-- If no place has two files, every file is the one at its place. -/
theorem file?_of_mem {d : Directory} (distinct : (d.files.map (·.1)).Nodup)
    {f : Place × Content} (mem : f ∈ d.files) : d.file? f.1 = some f.2 := by
  rw [file?, find?_of_mem distinct mem]
  rfl

/-- The text of a file is read with its line ends made one. -/
theorem readText_of_file? {d : Directory} {p : Path} {place : Place} {text : String}
    (leads : d.locate p = .ok place) (noFolder : d.isFolder place = false)
    (file : d.file? place = some (.text text)) : d.readText p = .ok (normalizeLineEnds text) := by
  have read : d.read p = .ok (.text text) := by
    rw [read, leads]
    simp [noFolder, file]
  rw [readText, read]

theorem put_of_absent {files : List (Place × Content)} {place : Place}
    (absent : ∀ f ∈ files, f.1 ≠ place) (c : Content) :
    put place c files = files ++ [(place, c)] := by
  induction files with
  | nil => rfl
  | cons f rest ih =>
    obtain ⟨first, later⟩ := List.forall_mem_cons.mp absent
    rw [put, if_neg first, ih later, List.cons_append]

/-- Of its own files none differs from what a directory holds. -/
theorem filter_ne_file?_files {d : Directory} (distinct : (d.files.map (·.1)).Nodup) :
    d.files.filter (fun f => d.file? f.1 ≠ some f.2) = [] := by
  rw [List.filter_eq_nil_iff]
  intro f mem
  simp [file?_of_mem distinct mem]

theorem changedSince_of_files_eq {d after : Directory} (distinct : (d.files.map (·.1)).Nodup)
    (same : after.files = d.files) : d.changedSince after = [] := by
  rw [changedSince, same, filter_ne_file?_files distinct]
  simp [named]

/-! ## A free path -/

/-- The folders on the way to a path can be made, and nothing is at the place to which the path
leads then. -/
structure Free (d : Directory) (p : Path) (made : Directory) (place : Place) : Prop where
  parents : d.makeParents p = (none, made)
  leads : made.locate p = .ok place
  empty : made.holds place = false

namespace Free

variable {d made : Directory} {p : Path} {place : Place}

theorem files_eq (free : Free d p made place) : made.files = d.files := by
  have kept := files_makeParents d p
  rwa [free.parents] at kept

theorem file?_eq_none (free : Free d p made place) : d.file? place = none := by
  have nothing := free.empty
  rw [holds, Bool.or_eq_false_iff, Option.isSome_eq_false_iff, Option.isNone_iff_eq_none] at nothing
  rw [← nothing.2, file?, file?, free.files_eq]

/-- A text is written to the end of the files. -/
theorem write_eq (free : Free d p made place) (text : String) :
    made.write p text = .ok { made with files := d.files ++ [(place, .text text)] } := by
  have noFolder : made.isFolder place = false := (Bool.or_eq_false_iff.mp free.empty).1
  have writable : made.writable p = .ok place := by
    rw [writable, free.leads]
    simp [noFolder]
  have absent : ∀ f ∈ made.files, f.1 ≠ place := by
    rw [free.files_eq]
    exact (file?_eq_none_iff d place).mp free.file?_eq_none
  rw [write, writable]
  show Except.ok { made with files := put place (.text text) made.files } = _
  rw [put_of_absent absent, free.files_eq]

/-- The new file is the only one that differs. -/
theorem changedSince_write (free : Free d p made place) (distinct : (d.files.map (·.1)).Nodup)
    (text : String) {after : Directory} (files : after.files = d.files ++ [(place, .text text)]) :
    d.changedSince after = [(placeName place, .text text)] := by
  have new : after.files.filter (fun f => d.file? f.1 ≠ some f.2) = [(place, .text text)] := by
    rw [files, List.filter_append, filter_ne_file?_files distinct]
    simp [free.file?_eq_none]
  rw [changedSince, new]
  simp [named]

end Free

/-! ## A name that is too long -/

section
variable {name : String} (noJump : Path.isJump name = false)

include noJump

theorem isRoot_eq_false : Path.isRoot name = false := (Bool.or_eq_false_iff.mp noJump).2

theorem text_singleton : (Path.mk [name]).text = name := by
  show (if Path.isRoot name then _ else _) = _
  rw [if_neg (by simp [isRoot_eq_false noJump]), String.intercalate_singleton]

/-- The folder of a name alone is the directory itself. -/
theorem makeParents_singleton (d : Directory) : d.makeParents ⟨[name]⟩ = d.makeFolders ⟨[]⟩ := by
  have parent : (Path.mk [name]).parent = ⟨[]⟩ := if_neg (by simp [isRoot_eq_false noJump])
  rw [makeParents, parent]

theorem write_long (d : Directory) (noNull : Path.hasNull name = false)
    (within : name.utf8ByteSize < Path.textLimit) (long : Path.isLongStep name = true)
    (text : String) : d.write ⟨[name]⟩ text = .error ⟨.tooLong, name⟩ := by
  have located : d.locate ⟨[name]⟩ = .error .tooLong := by
    rw [locate, text_singleton noJump, if_neg (by simp [noNull]), if_neg (by omega), walk,
      if_neg (by simp [noJump]), if_pos long]
  rw [write, writable, located, text_singleton noJump]
  rfl

end

end SearchDesk.Files.Directory
