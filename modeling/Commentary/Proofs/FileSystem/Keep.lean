import Commentary.Proofs.FileSystem.Write

/-!
This module contains what stays in a file system while a program works in it. Directories stay
directories and files stay files, so that a file that could be written once can be written again. Whether
a file can be written depends on the directories alone.
-/

namespace Commentary

namespace FileSystem

variable {fs after : FileSystem} {l : Location} {p : Text} {contents : Contents}

/--
`after` has a directory wherever the file system has one and a file wherever it has one. No profile is
new.
-/
structure Keeps (fs after : FileSystem) : Prop where
  workingDirectory : after.workingDirectory = fs.workingDirectory
  directory : ∀ l, fs.get? l = some .directory → after.get? l = some .directory
  file : ∀ l old, fs.get? l = some (.file old) → ∃ new, after.get? l = some (.file new)
  profile : ∀ l, after.get? l = some (.file .profile) → fs.get? l = some (.file .profile)

namespace Keeps

theorem refl (fs : FileSystem) : Keeps fs fs where
  workingDirectory := rfl
  directory _ h := h
  file _ old h := ⟨old, h⟩
  profile _ h := h

theorem trans {last : FileSystem} (h : Keeps fs after) (hlast : Keeps after last) : Keeps fs last where
  workingDirectory := by
    rw [hlast.workingDirectory, h.workingDirectory]
  directory l hl := hlast.directory l (h.directory l hl)
  file l old hl := by
    obtain ⟨new, hnew⟩ := h.file l old hl
    exact hlast.file l new hnew
  profile l hl := h.profile l (hlast.profile l hl)

theorem of_made {places : List Location} (h : Made fs places after) : Keeps fs after where
  workingDirectory := h.workingDirectory
  directory l hl := by
    rw [h.get?, if_neg (by simp [hl]), hl]
  file l old hl := by
    rw [h.get?, if_neg (by simp [hl])]
    exact ⟨old, hl⟩
  profile l hl := by
    rw [h.get?] at hl
    split at hl
    . cases hl
    . exact hl

theorem of_writeFile {t : Text} {refusal : Option FileError}
    (h : fs.writeFile p (.text t) refusal = .ok after) : Keeps fs after := by
  obtain ⟨-, place, hplace, rfl⟩ := writeFile_eq_ok_iff.mp h
  obtain ⟨-, -, hfree⟩ := locateForWriting_eq_ok_iff.mp hplace
  have hroot := ne_nil_of_get?_ne hfree
  constructor
  . rfl
  . intro l hl
    rw [get?_put hroot, if_neg, hl]
    rintro rfl
    exact hfree hl
  . intro l old hl
    rw [get?_put hroot]
    split
    . exact ⟨_, rfl⟩
    . exact ⟨old, hl⟩
  . intro l hl
    rw [get?_put hroot] at hl
    split at hl
    . cases hl
    . exact hl

theorem locate (h : Keeps fs after) (hlocate : fs.locate p = .ok l) : after.locate p = .ok l := by
  obtain ⟨hp, hl, hway⟩ := locate_eq_ok_iff.mp hlocate
  rw [locate_eq_ok_iff, h.workingDirectory]
  refine ⟨hp, hl, ?_⟩
  intro d hd
  exact h.directory d (hway d hd)

theorem locateForWriting (h : Keeps fs after) (hplace : fs.locateForWriting p = .ok l)
    (hfile : fs.get? l = some (.file contents)) : after.locateForWriting p = .ok l := by
  obtain ⟨hlast, hlocate, -⟩ := locateForWriting_eq_ok_iff.mp hplace
  obtain ⟨new, hnew⟩ := h.file l contents hfile
  rw [locateForWriting_eq_ok_iff]
  refine ⟨hlast, h.locate hlocate, ?_⟩
  simp [hnew]

end Keeps

structure SameDirectories (fs after : FileSystem) : Prop where
  workingDirectory : after.workingDirectory = fs.workingDirectory
  directory_iff : ∀ l, after.get? l = some .directory ↔ fs.get? l = some .directory

namespace SameDirectories

theorem refl (fs : FileSystem) : SameDirectories fs fs where
  workingDirectory := rfl
  directory_iff _ := .rfl

theorem trans {last : FileSystem} (h : SameDirectories fs after)
    (hlast : SameDirectories after last) : SameDirectories fs last where
  workingDirectory := by
    rw [hlast.workingDirectory, h.workingDirectory]
  directory_iff l := by
    rw [hlast.directory_iff, h.directory_iff]

theorem of_put (hplace : fs.locateForWriting p = .ok l) (contents : Contents) :
    SameDirectories fs (fs.put l (.file contents)) := by
  obtain ⟨-, -, hfree⟩ := locateForWriting_eq_ok_iff.mp hplace
  constructor
  . rfl
  . intro k
    rw [get?_put (ne_nil_of_get?_ne hfree)]
    split
    . next hk => simp [hk, hfree]
    . rfl

theorem locate_eq_ok_iff (h : SameDirectories fs after) :
    after.locate p = .ok l ↔ fs.locate p = .ok l := by
  simp only [FileSystem.locate_eq_ok_iff, h.workingDirectory, h.directory_iff]

theorem locateForWriting_eq_ok_iff (h : SameDirectories fs after) :
    after.locateForWriting p = .ok l ↔ fs.locateForWriting p = .ok l := by
  simp only [FileSystem.locateForWriting_eq_ok_iff, h.locate_eq_ok_iff, ne_eq, h.directory_iff]

theorem find {e : Entry} (h : SameDirectories fs after) (hplace : fs.locateForWriting p = .ok l)
    (hl : after.get? l = some e) : after.find p = .ok e := by
  obtain ⟨-, hlocate, -⟩ := FileSystem.locateForWriting_eq_ok_iff.mp hplace
  rw [find_eq_ok_iff]
  exact ⟨l, h.locate_eq_ok_iff.mpr hlocate, hl⟩

end SameDirectories

theorem rewriteFile_eq_put {e : Entry} (hplace : fs.locateForWriting p = .ok l)
    (hl : fs.get? l = some e) (contents : Contents) :
    fs.rewriteFile p contents = fs.put l (.file contents) := by
  unfold rewriteFile
  rw [hplace]
  simp [hl]

theorem SameDirectories.of_rewriteFile (fs : FileSystem) (p : Text) (contents : Contents) :
    SameDirectories fs (fs.rewriteFile p contents) := by
  unfold rewriteFile
  split
  . next hplace =>
    split
    . exact .of_put hplace contents
    . exact .refl fs
  . exact .refl fs

end FileSystem

end Commentary
